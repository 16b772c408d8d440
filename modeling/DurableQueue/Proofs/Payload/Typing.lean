import DurableQueue.Payload.Schema
import DurableQueue.Proofs.Text.Utf8

/-!
# The values of a schema

`Schema.Admits` says which values a schema describes: those that a program can hold in a type of that shape.
Inside `recursive`, the values of `itself` are given; those of the whole are what finitely many unfoldings
admit. Every admitted value has a binary form (`Admits.sized`).

Reading a recursive schema must use up input before it comes to itself, or it would not end. Whether it does
can be read off the schema (`guarded`). A recursive schema that is not guarded admits no value at all, since
each value of it would have another one inside (`Admits.exists_self`).
-/

namespace DurableQueue.Payload

/-! ## Induction on schemas -/

/-- What holds of a schema as soon as it holds of its parts holds of all schemas. -/
@[elab_as_elim, induction_eliminator]
theorem Schema.induction {motive : Schema → Prop} (bool : motive .bool)
    (word : ∀ reading width, motive (.word reading width)) (char : motive .char) (text : motive .text)
    (unit : motive .unit) (option : ∀ s, motive s → motive (.option s))
    (seq : ∀ s, motive s → motive (.seq s)) (array : ∀ n s, motive s → motive (.array n s))
    (record : ∀ ss, (∀ s ∈ ss, motive s) → motive (.record ss))
    (choice : ∀ variants, (∀ ss ∈ variants, ∀ s ∈ ss, motive s) → motive (.choice variants))
    (map : ∀ s, motive s → motive (.map s)) (recursive : ∀ s, motive s → motive (.recursive s))
    (itself : motive .itself) : ∀ s, motive s :=
  @Schema.rec motive (fun ss => ∀ s ∈ ss, motive s) (fun variants => ∀ ss ∈ variants, ∀ s ∈ ss, motive s)
    bool word char text unit option seq array record choice map recursive itself
    nofun (fun _ _ first later => List.forall_mem_cons.2 ⟨first, later⟩)
    nofun (fun _ _ first later => List.forall_mem_cons.2 ⟨first, later⟩)

/-! ## Values of a schema -/

/-- What is admitted after some unfoldings, if nothing is before the first. -/
def unfolded (step : (Value → Prop) → Value → Prop) : Nat → Value → Prop
  | 0, _ => False
  | n + 1, v => step (unfolded step n) v

/-- Is the text short enough for its length to be written in front of it? -/
def Announced (s : String) : Prop := (Utf8.encode s).length < UInt64.size

/-- Is the value one of the schema, given the values that `itself` stands for? -/
def Schema.Admits : Schema → (Value → Prop) → Value → Prop
  | .bool, _, v => ∃ b, v = .bool b
  | .word reading width, _, v => ∃ bits, v = .word reading width bits
  | .char, _, v => ∃ c, v = .char c
  | .text, _, v => ∃ s, v = .text s ∧ Announced s
  | .unit, _, v => v = .unit
  | .option s, P, v => v = .none ∨ ∃ u, v = .some u ∧ s.Admits P u
  | .seq s, P, v => ∃ us, v = .seq us ∧ us.length < UInt64.size ∧ ∀ u ∈ us, s.Admits P u
  | .array n s, P, v => ∃ us, v = .record us ∧ us.length = n ∧ ∀ u ∈ us, s.Admits P u
  | .record ss, P, v => ∃ us, v = .record us ∧ admitsAll ss P us
  | .choice variants, P, v =>
    ∃ index us, v = .variant index us ∧ index < UInt32.size ∧ admitsVariant variants index P us
  | .map s, P, v =>
    ∃ entries, v = .map entries ∧ entries.length < UInt64.size ∧ (entries.Pairwise fun a b => a.1 < b.1) ∧
      ∀ e ∈ entries, Announced e.1 ∧ s.Admits P e.2
  | .recursive s, _, v => ∃ n, unfolded (fun P => s.Admits P) n v
  | .itself, P, v => P v
where
  /-- Are the values one of each schema? -/
  admitsAll : List Schema → (Value → Prop) → List Value → Prop
    | [], _, us => us = []
    | s :: ss, P, us => ∃ u rest, us = u :: rest ∧ s.Admits P u ∧ admitsAll ss P rest
  /-- Are the values the fields of the variant at an index? -/
  admitsVariant : List (List Schema) → Nat → (Value → Prop) → List Value → Prop
    | [], _, _, _ => False
    | ss :: _, 0, P, us => admitsAll ss P us
    | _ :: variants, index + 1, P, us => admitsVariant variants index P us

/-- The values of a schema in which `itself` stands for nothing outside `recursive`. -/
def Schema.Has (s : Schema) (v : Value) : Prop := s.Admits (fun _ => False) v

open Schema.Admits (admitsAll admitsVariant)

namespace Schema.Admits

theorem admitsVariant_iff {variants : List (List Schema)} {index : Nat} {P : Value → Prop}
    {us : List Value} :
    admitsVariant variants index P us ↔ ∃ ss, variants[index]? = some ss ∧ admitsAll ss P us := by
  induction variants generalizing index with
  | nil => simp [admitsVariant]
  | cons ss variants ih =>
    cases index with
    | zero => simp [admitsVariant]
    | succ index => simpa [admitsVariant] using ih

/-- Each of the values is one of some schema in the list. -/
theorem exists_of_mem {ss : List Schema} {P : Value → Prop} {us : List Value} (h : admitsAll ss P us)
    {u : Value} (mem : u ∈ us) : ∃ s ∈ ss, s.Admits P u := by
  induction ss generalizing us with
  | nil =>
    obtain rfl : us = [] := h
    cases mem
  | cons s ss ih =>
    obtain ⟨first, rest, rfl, admitted, h⟩ := h
    rcases List.mem_cons.1 mem with rfl | mem
    · exact ⟨s, List.mem_cons_self, admitted⟩
    · obtain ⟨s', there, admitted⟩ := ih h mem
      exact ⟨s', List.mem_cons_of_mem s there, admitted⟩

end Schema.Admits

/-! ## Binary forms -/

namespace Value

theorem allSized_iff {vs : List Value} : sized.allSized vs = true ↔ ∀ v ∈ vs, v.sized = true := by
  induction vs with
  | nil => simp [sized.allSized]
  | cons v vs ih => simp [sized.allSized, ih]

theorem allEntriesSized_iff {entries : List (String × Value)} :
    sized.allEntriesSized entries = true ↔ ∀ e ∈ entries, e.2.sized = true := by
  induction entries with
  | nil => simp [sized.allEntriesSized]
  | cons e entries ih => simp [sized.allEntriesSized, ih]

/-- The binary form of an entry of a map. -/
def entryBytes (e : String × Value) : Bytes := textBytes e.1 ++ e.2.bytes

@[simp] theorem bytesOfAll_eq (vs : List Value) : bytes.bytesOfAll vs = vs.flatMap bytes := by
  induction vs with
  | nil => rfl
  | cons v vs ih => rw [bytes.bytesOfAll, ih, List.flatMap_cons]

@[simp] theorem bytesOfEntries_eq (entries : List (String × Value)) :
    bytes.bytesOfEntries entries = entries.flatMap entryBytes := by
  induction entries with
  | nil => rfl
  | cons e entries ih => rw [bytes.bytesOfEntries, ih, List.flatMap_cons, entryBytes]

@[simp] theorem length_countBytes (n : Nat) : (countBytes n).length = 8 := Bytes.length_littleEndian 8 n

end Value

namespace Schema

/-- An admitted value has no stream in it. -/
theorem Admits.sized {s : Schema} {P : Value → Prop} (self : ∀ u, P u → u.sized = true) {v : Value}
    (h : s.Admits P v) : v.sized = true := by
  have all {ss : List Schema} {Q : Value → Prop} {us : List Value} (h : admitsAll ss Q us)
      (ih : ∀ s ∈ ss, ∀ u, s.Admits Q u → u.sized = true) : Value.sized.allSized us = true := by
    rw [Value.allSized_iff]
    intro u mem
    obtain ⟨s, there, admitted⟩ := exists_of_mem h mem
    exact ih s there u admitted
  induction s generalizing P v with
  | bool => obtain ⟨b, rfl⟩ := h; rfl
  | word reading width => obtain ⟨bits, rfl⟩ := h; rfl
  | char => obtain ⟨c, rfl⟩ := h; rfl
  | text => obtain ⟨s, rfl, -⟩ := h; rfl
  | unit => obtain rfl := h; rfl
  | option s ih =>
    rcases h with rfl | ⟨u, rfl, h⟩
    · rfl
    · have : u.sized = true := ih self h
      exact this
  | seq s ih =>
    obtain ⟨us, rfl, -, h⟩ := h
    exact Value.allSized_iff.2 fun u mem => ih self (h u mem)
  | array n s ih =>
    obtain ⟨us, rfl, -, h⟩ := h
    exact Value.allSized_iff.2 fun u mem => ih self (h u mem)
  | record ss ih =>
    obtain ⟨us, rfl, h⟩ := h
    exact all h fun s mem u => ih s mem self
  | choice variants ih =>
    obtain ⟨index, us, rfl, -, h⟩ := h
    obtain ⟨ss, there, h⟩ := admitsVariant_iff.1 h
    exact all h fun s mem u => ih ss (List.mem_of_getElem? there) s mem self
  | map s ih =>
    obtain ⟨entries, rfl, -, -, h⟩ := h
    exact Value.allEntriesSized_iff.2 fun e mem => ih self (h e mem).2
  | recursive s ih =>
    obtain ⟨n, h⟩ := h
    induction n generalizing v with
    | zero => exact h.elim
    | succ n inner => exact ih (fun u => inner) h
  | itself => exact self v h

/-! ## Guarded recursion -/

/-- Does the form of every value have at least one byte? -/
def solid : Schema → Bool
  | .unit => false
  | .array n s => n != 0 && s.solid
  | .record ss => anySolid ss
  | .recursive s => s.solid
  | .itself => false
  | _ => true
where
  anySolid : List Schema → Bool
    | [] => false
    | s :: ss => s.solid || anySolid ss

/-- Does reading use up input before it comes to `itself`? -/
def guarded : Schema → Bool
  | .array n s => n == 0 || s.guarded
  | .record ss => allGuarded ss
  | .itself => false
  | _ => true
where
  allGuarded : List Schema → Bool
    | [] => true
    | s :: ss => s.guarded && (s.solid || allGuarded ss)

theorem bytes_pos_of_solid {s : Schema} (full : s.solid = true) {P : Value → Prop} {v : Value}
    (h : s.Admits P v) : 0 < v.bytes.length := by
  induction s generalizing P v with
  | bool => obtain ⟨b, rfl⟩ := h; exact Nat.one_pos
  | word reading width =>
    obtain ⟨bits, rfl⟩ := h
    rw [Value.bytes, Bytes.length_littleEndian]
    cases width <;> decide
  | char =>
    obtain ⟨c, rfl⟩ := h
    exact List.length_pos_iff.2 (Utf8.utf8EncodeChar_ne_nil c)
  | text =>
    obtain ⟨s, rfl, -⟩ := h
    simp only [Value.bytes, Value.textBytes, List.length_append, Value.length_countBytes]
    omega
  | unit => cases full
  | option s ih => rcases h with rfl | ⟨u, rfl, -⟩ <;> simp [Value.bytes]
  | seq s ih =>
    obtain ⟨us, rfl, -⟩ := h
    simp only [Value.bytes, List.length_append, Value.length_countBytes]
    omega
  | array n s ih =>
    obtain ⟨us, rfl, length, h⟩ := h
    simp only [solid, bne_iff_ne, ne_eq, Bool.and_eq_true] at full
    cases us with
    | nil => exact absurd length.symm full.1
    | cons u us =>
      have first := ih full.2 (h u List.mem_cons_self)
      simp only [Value.bytes, Value.bytesOfAll_eq, List.flatMap_cons, List.length_append]
      omega
  | record ss ih =>
    obtain ⟨us, rfl, h⟩ := h
    rw [Value.bytes, Value.bytesOfAll_eq]
    replace full : solid.anySolid ss = true := full
    induction ss generalizing us with
    | nil => cases full
    | cons s ss later =>
      obtain ⟨u, rest, rfl, first, h⟩ := h
      rw [List.forall_mem_cons] at ih
      rw [solid.anySolid, Bool.or_eq_true] at full
      rw [List.flatMap_cons, List.length_append]
      rcases full with full | full
      · have := ih.1 full first
        omega
      · have := later ih.2 rest h full
        omega
  | choice variants ih =>
    obtain ⟨index, us, rfl, -, -⟩ := h
    simp only [Value.bytes, List.length_append, Bytes.length_littleEndian]
    omega
  | map s ih =>
    obtain ⟨entries, rfl, -⟩ := h
    simp only [Value.bytes, List.length_append, Value.length_countBytes]
    omega
  | recursive s ih =>
    obtain ⟨n, h⟩ := h
    cases n with
    | zero => exact h.elim
    | succ n => exact ih full h
  | itself => cases full

/-- A value of a schema that is not guarded has a value of `itself` inside. -/
theorem Admits.exists_self {s : Schema} (unguarded : s.guarded = false) {P : Value → Prop} {v : Value}
    (h : s.Admits P v) : ∃ u, P u := by
  induction s generalizing v with
  | array n s ih =>
    obtain ⟨us, rfl, length, h⟩ := h
    simp only [guarded, Bool.or_eq_false_iff, beq_eq_false_iff_ne] at unguarded
    cases us with
    | nil => exact absurd length.symm unguarded.1
    | cons u us => exact ih unguarded.2 (h u List.mem_cons_self)
  | record ss ih =>
    obtain ⟨us, rfl, h⟩ := h
    replace unguarded : guarded.allGuarded ss = false := unguarded
    induction ss generalizing us with
    | nil => cases unguarded
    | cons s ss later =>
      obtain ⟨u, rest, rfl, first, h⟩ := h
      rw [List.forall_mem_cons] at ih
      rw [guarded.allGuarded, Bool.and_eq_false_iff, Bool.or_eq_false_iff] at unguarded
      rcases unguarded with unguarded | ⟨-, unguarded⟩
      · exact ih.1 unguarded first
      · exact later ih.2 rest h unguarded
  | itself => exact ⟨v, h⟩
  | _ => cases unguarded

/-- What is not guarded has no value, however often it is unfolded. -/
theorem not_unfolded {s : Schema} (unguarded : s.guarded = false) (n : Nat) (v : Value) :
    ¬ unfolded (fun P => s.Admits P) n v := by
  induction n generalizing v with
  | zero => exact id
  | succ n ih =>
    intro h
    obtain ⟨u, inside⟩ := Admits.exists_self unguarded h
    exact ih u inside

end Schema

end DurableQueue.Payload
