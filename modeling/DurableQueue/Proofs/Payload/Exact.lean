import DurableQueue.Proofs.Payload.Soundness

/-!
# Exactly the binary forms are read

A decoder that succeeds has seen all that it looks at: with more input behind, it reads the same value and
leaves that much more (`Extends`). As a binary form is read to its end, nothing shorter is read at all
(`Schema.Has.read_cutOff`), for a shorter input that is read would leave something of the form behind.

Together with the round trip and with soundness this says which payloads an item may have for an object to be
in it.
-/

namespace DurableQueue

namespace Payload

open Schema.decode (decodeAll decodeVariant)

/-! ## Decoders with more input behind -/

/-- If the first reading succeeds, so does the second, and leaves `more` behind. -/
def Carries {α : Type} (more : Bytes) (r r' : Except Fault (α × Bytes)) : Prop :=
  ∀ a rest, r = .ok (a, rest) → r' = .ok (a, rest ++ more)

/-- What the first decoder reads, the second one reads with anything behind it. -/
def Extends {α : Type} (d d' : Decoder α) : Prop :=
  ∀ bs more, Carries more (d bs) (d' (bs ++ more))

namespace Carries

variable {α β : Type} {more : Bytes}

theorem done (a : α) (rest : Bytes) : Carries more (.ok (a, rest)) (.ok (a, rest ++ more)) := by
  intro a' rest' h
  obtain ⟨rfl, rfl⟩ := Prod.mk.inj (Except.ok.inj h)
  rfl

theorem failed (fault : Fault) (r : Except Fault (α × Bytes)) : Carries more (.error fault) r := nofun

theorem bind {r r' : Except Fault (α × Bytes)} {next next' : α × Bytes → Except Fault (β × Bytes)}
    (first : Carries more r r') (later : ∀ a rest, Carries more (next (a, rest)) (next' (a, rest ++ more))) :
    Carries more (r >>= next) (r' >>= next') := by
  intro b rest h
  obtain ⟨⟨a, left⟩, read, h⟩ := exists_of_bind h
  rw [first a left read]
  exact later a left b rest h

end Carries

theorem extends_readBytes (fault : Fault) (n : Nat) : Extends (readBytes fault n) (readBytes fault n) := by
  intro bs more front rest h
  obtain ⟨rfl, rfl⟩ := readBytes_sound h
  rw [List.append_assoc, readBytes_append]

theorem extends_readWord (n : Nat) : Extends (readWord n) (readWord n) := fun bs more =>
  .bind (extends_readBytes .endOfInput n bs more) fun _ rest => .done _ rest

theorem extends_readText : Extends readText readText := by
  intro bs more
  refine .bind (extends_readWord 8 bs more) fun n left => ?_
  refine .bind (extends_readBytes .shortText n left more) fun encoded rest => ?_
  dsimp only
  cases Utf8.decode encoded with
  | ok s => exact .done s rest
  | error fault => exact .failed (.badText fault) _

theorem extends_readChar : Extends readChar readChar := by
  intro bs more c rest h
  obtain rfl := readChar_sound h
  rw [List.append_assoc, readChar_append]

theorem extends_readTimes {α : Type} {d d' : Decoder α} (inner : Extends d d') (n : Nat) (read : List α) :
    Extends (readTimes d n read) (readTimes d' n read) := by
  intro bs more
  induction n generalizing read bs with
  | zero => exact .done read.reverse bs
  | succ n ih =>
    rw [readTimes, readTimes]
    cases first : d bs with
    | error fault => exact .failed fault _
    | ok first =>
      rw [inner bs more _ _ first]
      exact ih _ _

/-- More unfoldings read no less. -/
theorem extends_unfold {step : Decoder Value → Decoder Value}
    (mono : ∀ {self self' : Decoder Value}, Extends self self' → Extends (step self) (step self')) {n m : Nat}
    (le : n ≤ m) : Extends (unfold step n) (unfold step m) := by
  induction n generalizing m with
  | zero => exact fun bs more => .failed .unguarded _
  | succ n ih =>
    obtain ⟨m, rfl⟩ := Nat.exists_eq_add_of_lt le
    exact mono (ih (Nat.le_add_right n m))

section Schemas

variable {self self' : Decoder Value}

theorem extends_all {ss : List Schema} (inner : ∀ s ∈ ss, Extends (s.decode self) (s.decode self')) :
    Extends (decodeAll ss self) (decodeAll ss self') := by
  induction ss with
  | nil => exact fun bs more => .done [] bs
  | cons s ss ih =>
    obtain ⟨first, later⟩ := List.forall_mem_cons.1 inner
    intro bs more
    exact .bind (first bs more) fun v left => .bind (ih later left more) fun vs rest => .done (v :: vs) rest

theorem extends_variant {variants : List (List Schema)}
    (inner : ∀ ss ∈ variants, Extends (decodeAll ss self) (decodeAll ss self')) (index : Nat)
    (found : Nat × Nat) :
    Extends (decodeVariant variants index found self) (decodeVariant variants index found self') := by
  induction variants generalizing index with
  | nil => exact fun bs more => .failed _ _
  | cons ss variants ih =>
    obtain ⟨first, later⟩ := List.forall_mem_cons.1 inner
    cases index with
    | zero => exact first
    | succ index => exact ih later index

end Schemas

/-- A schema is read the same with more input behind if `itself` is. -/
theorem Schema.extends (s : Schema) {self self' : Decoder Value} (inner : Extends self self') :
    Extends (s.decode self) (s.decode self') := by
  induction s generalizing self self' with
  | itself => exact inner
  | unit => exact fun bs more => .done _ bs
  | word reading width =>
    exact fun bs more => .bind (extends_readWord width.bytes bs more) fun n rest => .done _ rest
  | char => exact fun bs more => .bind (extends_readChar bs more) fun c rest => .done _ rest
  | text => exact fun bs more => .bind (extends_readText bs more) fun s rest => .done _ rest
  | bool =>
    refine fun bs more => .bind (extends_readWord 1 bs more) fun n rest => ?_
    match n with
    | 0 | 1 => exact .done _ rest
    | n + 2 => exact .failed _ _
  | option s ih =>
    refine fun bs more => .bind (extends_readWord 1 bs more) fun n rest => ?_
    match n with
    | 0 => exact .done _ rest
    | 1 => exact .bind (ih inner rest more) fun v rest => .done _ rest
    | n + 2 => exact .failed _ _
  | seq s ih =>
    refine fun bs more => .bind (extends_readWord 8 bs more) fun n left => ?_
    exact .bind (extends_readTimes (ih inner) n [] left more) fun vs rest => .done _ rest
  | array n s ih =>
    exact fun bs more => .bind (extends_readTimes (ih inner) n [] bs more) fun vs rest => .done _ rest
  | record ss ih =>
    exact fun bs more => .bind (extends_all (ih · · inner) bs more) fun vs rest => .done _ rest
  | choice variants ih =>
    have variant := extends_variant fun ss mem => extends_all (ih ss mem · · inner)
    refine fun bs more => .bind (extends_readWord 4 bs more) fun index left => ?_
    exact .bind (variant index ⟨index, variants.length⟩ left more) fun vs rest => .done _ rest
  | map s ih =>
    refine fun bs more => .bind (extends_readWord 8 bs more) fun n left => ?_
    refine .bind (extends_readTimes ?_ n [] left more) fun entries rest => .done _ rest
    refine fun bs more => .bind (extends_readText bs more) fun key left => ?_
    exact .bind (ih inner left more) fun v rest => .done _ rest
  | recursive s ih =>
    intro bs more
    refine extends_unfold ih ?_ bs more
    rw [List.length_append]
    omega

/-! ## Whole payloads -/

/-- The form of a value, cut off anywhere, is not read at all. -/
theorem Schema.Has.read_cutOff {s : Schema} {v : Value} (h : s.Has v) {front rest : Bytes}
    (form : v.bytes = front ++ rest) (cut : rest ≠ []) : ∃ fault, s.read front = .error fault := by
  have whole := h.decode_bytes []
  rw [List.append_nil, form] at whole
  rw [Schema.read]
  cases read : s.decode (fun _ => .error .unguarded) front with
  | error fault => exact ⟨fault, rfl⟩
  | ok result =>
    obtain ⟨u, left⟩ := result
    -- With the rest behind, the same reading would leave the rest.
    have nothing : Extends (fun _ => .error .unguarded) (fun _ => .error .unguarded : Decoder Value) :=
      fun bs more => .failed .unguarded _
    have longer := s.extends nothing front rest u left read
    rw [whole] at longer
    have none_left : [] = left ++ rest := (Prod.mk.inj (Except.ok.inj longer)).2
    exact absurd (List.append_eq_nil_iff.1 none_left.symm).2 cut

/-- Without maps, what is read are the values of the schema, from their forms and whatever follows. -/
theorem Schema.read_eq_ok_iff {s : Schema} (mapless : s.mapless = true) {bs : Bytes} {v : Value} :
    s.read bs = .ok v ↔ s.Has v ∧ ∃ rest, bs = v.bytes ++ rest := by
  constructor
  · intro h
    rw [Schema.read] at h
    cases read : s.decode (fun _ => .error .unguarded) bs with
    | error fault => simp [read, Except.map] at h
    | ok result =>
      obtain ⟨u, rest⟩ := result
      rw [read] at h
      obtain rfl : u = v := Except.ok.inj h
      have nothing : Sound (fun _ => .error .unguarded) Value.bytes (fun _ => False) := by
        rintro v bs rest ⟨⟩
      obtain ⟨admitted, there⟩ := Schema.sound mapless nothing u bs rest read
      exact ⟨admitted, rest, there⟩
  · rintro ⟨h, rest, rfl⟩
    exact h.read_bytes rest

end Payload

namespace Item

open Payload (Schema Value)

theorem object_eq_ok_iff {item : Item} {s : Schema} {v : Value} :
    item.object s = .ok v ↔ s.read item.value = .ok v := by
  rw [object]
  constructor
  · intro h
    cases read : s.read item.value with
    | error fault =>
      rw [read] at h
      cases h
    | ok u =>
      rw [read] at h
      obtain rfl : u = v := Except.ok.inj h
      rfl
  · intro h
    rw [h]
    rfl

/-- A payload is read as a value exactly if it is the binary form of the value and whatever follows. Where
there is a map in the schema, other payloads may be read, too; but these are read, and a binary form that is cut
off is never read as anything. -/
theorem object_exact (item : Item) (s : Schema) :
    (s.mapless = true → ∀ v, item.object s = .ok v ↔
        s.Has v ∧ ∃ form rest, payloadOf v = .ok form ∧ item.value = form ++ rest) ∧
      (∀ v form rest, s.Has v → payloadOf v = .ok form → item.value = form ++ rest → item.object s = .ok v) ∧
      ∀ v form, s.Has v → payloadOf v = .ok form → item.value <+: form → item.value ≠ form →
        ∃ fault, item.object s = .error (.incompatible (.notValue fault)) := by
  have read (v : Value) (form rest : Bytes) (h : s.Has v) (written : payloadOf v = .ok form)
      (there : item.value = form ++ rest) : item.object s = .ok v := by
    obtain rfl : v.bytes = form := Except.ok.inj (h.payloadOf.symm.trans written)
    rw [object_eq_ok_iff, there]
    exact h.read_bytes rest
  refine ⟨?_, read, ?_⟩
  · intro mapless v
    constructor
    · intro h
      obtain ⟨has, rest, there⟩ := (Schema.read_eq_ok_iff mapless).1 (object_eq_ok_iff.1 h)
      exact ⟨has, v.bytes, rest, has.payloadOf, there⟩
    · rintro ⟨has, form, rest, written, there⟩
      exact read v form rest has written there
  · rintro v form h written ⟨rest, whole⟩ shorter
    obtain rfl : v.bytes = form := Except.ok.inj (h.payloadOf.symm.trans written)
    have cut : rest ≠ [] := by
      rintro rfl
      exact shorter (by rwa [List.append_nil] at whole)
    obtain ⟨fault, refused⟩ := h.read_cutOff whole.symm cut
    exact ⟨fault, by rw [object, refused]; rfl⟩

/-- Characters in a chain, each with the rest of the chain behind. -/
def chainSchema : Schema := .recursive (.option (.record [.char, .itself]))

theorem chainSchema_has (c : Char) : chainSchema.Has (.some (.record [.char c, .none])) :=
  ⟨2, Or.inr ⟨_, rfl, _, rfl, _, _, rfl, ⟨c, rfl⟩, _, _, rfl, Or.inl rfl, rfl⟩⟩

/-- A chain with one character of two bytes is read with a byte behind it, and not with the character cut in
two. -/
theorem object_exact_chain :
    let chain : Value := .some (.record [.char 'é', .none])
    chainSchema.Has chain ∧ (ofId 1 [1, 0xc3, 0xa9, 0, 7]).object chainSchema = .ok chain ∧
      ∃ fault, (ofId 2 [1, 0xc3]).object chainSchema = .error (.incompatible (.notValue fault)) := by
  intro chain
  have has := chainSchema_has 'é'
  obtain ⟨exact_, -, -⟩ := object_exact (ofId 1 [1, 0xc3, 0xa9, 0, 7]) chainSchema
  obtain ⟨-, -, cut⟩ := object_exact (ofId 2 [1, 0xc3]) chainSchema
  refine ⟨has, (exact_ rfl chain).2 ⟨has, [1, 0xc3, 0xa9, 0], [7], rfl, rfl⟩, ?_⟩
  exact cut chain [1, 0xc3, 0xa9, 0] has rfl ⟨[0xa9, 0], rfl⟩ (by decide)

/-- The entries of a map are read in any order, so a map is read from other payloads than its form. -/
example : (ofId 1 ([2, 0, 0, 0, 0, 0, 0, 0] ++ Value.textBytes "b" ++ [0] ++ Value.textBytes "a" ++ [1])).object
    (.map .bool) = .ok (.map [("a", .bool true), ("b", .bool false)]) := by
  cbv

end Item

end DurableQueue
