import DurableQueue.Item
import DurableQueue.Proofs.Payload.Typing

/-!
# Reading back a value

Reading the binary form of a value gives the value back, and leaves whatever comes after it
(`Schema.Has.read_bytes`). The decoder of a recursive schema is given as many unfoldings as there are bytes, so
what is proved of it is bounded: `Reads d form P k` says that `d` reads back everything in `P` whose form is
shorter than `k`. Reading a schema keeps the bound, and a guarded one gains a byte (`Schema.reads`), which
is what carries the induction on the unfoldings.
-/

namespace DurableQueue.Payload

open Schema.Admits (admitsAll admitsVariant admitsVariant_iff)
open Schema.decode (decodeAll decodeVariant)

/-! ## Decoders that read back -/

/-- The decoder reads back everything in `P` whose form has fewer than `k` bytes, whatever follows. -/
def Reads {α : Type} (d : Decoder α) (form : α → Bytes) (P : α → Prop) (k : Nat) : Prop :=
  ∀ a rest, P a → (form a).length < k → d (form a ++ rest) = .ok (a, rest)

theorem Reads.mono {α : Type} {d : Decoder α} {form : α → Bytes} {P : α → Prop} {k j : Nat}
    (h : Reads d form P k) (le : j ≤ k) : Reads d form P j :=
  fun a rest member short => h a rest member (Nat.lt_of_lt_of_le short le)

/-! ## Words, texts and characters -/

theorem readBytes_append (fault : Fault) (front rest : Bytes) :
    readBytes fault front.length (front ++ rest) = .ok (front, rest) := by
  simp [readBytes]

theorem readWord_append {n m : Nat} (small : m < Bytes.weight n) (rest : Bytes) :
    readWord n (Bytes.littleEndian n m ++ rest) = .ok (m, rest) := by
  have read := readBytes_append .endOfInput (Bytes.littleEndian n m) rest
  rw [Bytes.length_littleEndian] at read
  have back : Bytes.ofLittleEndian (Bytes.littleEndian n m) = m := by
    rw [Bytes.ofLittleEndian_littleEndian, Nat.mod_eq_of_lt small]
  simp [readWord, read, back, bind, Except.bind, pure, Except.pure]

theorem readCount_append {n : Nat} (small : n < UInt64.size) (rest : Bytes) :
    readWord 8 (Value.countBytes n ++ rest) = .ok (n, rest) :=
  readWord_append small rest

theorem readByte_cons (b : UInt8) (rest : Bytes) : readWord 1 (b :: rest) = .ok (b.toNat, rest) := by
  have read := readWord_append (n := 1) b.toNat_lt rest
  rwa [Bytes.littleEndian, UInt8.ofNat_toNat] at read

theorem readText_append {s : String} (announced : Announced s) (rest : Bytes) :
    readText (Value.textBytes s ++ rest) = .ok (s, rest) := by
  have read := readBytes_append .shortText (Utf8.encode s) rest
  simp [readText, Value.textBytes, readCount_append announced, read, Utf8.decode_encode, bind, Except.bind,
    pure, Except.pure]

theorem readChar_append (c : Char) (rest : Bytes) :
    readChar (String.utf8EncodeChar c ++ rest) = .ok (c, rest) := by
  have front := Utf8.next_encoded c rest
  obtain ⟨b, tail, bytes⟩ := List.exists_cons_of_ne_nil (Utf8.utf8EncodeChar_ne_nil c)
  rw [bytes, List.cons_append] at front ⊢
  simp [readChar, front, pure, Except.pure]

/-! ## Sequences -/

/-- A decoder that reads back single forms reads back any number of them in a row. -/
theorem readTimes_append {α : Type} {d : Decoder α} {form : α → Bytes} {P : α → Prop} {k : Nat}
    (reads : Reads d form P k) {as : List α} (all : ∀ a ∈ as, P a)
    (short : (as.flatMap form).length < k) (read : List α) (rest : Bytes) :
    readTimes d as.length read (as.flatMap form ++ rest) = .ok (read.reverse ++ as, rest) := by
  induction as generalizing read with
  | nil => simp [readTimes]
  | cons a as ih =>
    rw [List.forall_mem_cons] at all
    rw [List.flatMap_cons, List.length_append] at short
    have first := reads a (as.flatMap form ++ rest) all.1 (by omega)
    rw [List.length_cons, List.flatMap_cons, List.append_assoc, readTimes, first]
    dsimp only
    rw [ih all.2 (by omega), List.reverse_cons, List.append_assoc, List.singleton_append]

/-! ## Maps -/

theorem insertEntry_last {key : String} {v : Value} {entries : List (String × Value)}
    (above : ∀ e ∈ entries, e.1 < key) : Value.insertEntry key v entries = entries ++ [(key, v)] := by
  induction entries with
  | nil => rfl
  | cons e entries ih =>
    rw [List.forall_mem_cons] at above
    have below : ¬ key < e.1 := fun lt => String.lt_irrefl key (String.lt_trans lt above.1)
    have other : key ≠ e.1 := by
      rintro rfl
      exact String.lt_irrefl _ above.1
    rw [Value.insertEntry, if_neg below, if_neg other, ih above.2, List.cons_append]

/-- Entries in the order of their keys make up the map as they are. -/
theorem mapOf_sorted {entries : List (String × Value)} (sorted : entries.Pairwise fun a b => a.1 < b.1) :
    Value.mapOf entries = .map entries := by
  have onto (front : List (String × Value)) (apart : ∀ a ∈ front, ∀ b ∈ entries, a.1 < b.1) :
      entries.foldl (fun sorted e => Value.insertEntry e.1 e.2 sorted) front = front ++ entries := by
    induction entries generalizing front with
    | nil => simp
    | cons e entries ih =>
      rw [List.pairwise_cons] at sorted
      rw [List.foldl_cons, insertEntry_last fun a mem => apart a mem e List.mem_cons_self, ih sorted.2,
        List.append_assoc, List.singleton_append]
      intro a mem b later
      rcases List.mem_append.1 mem with mem | mem
      · exact apart a mem b (List.mem_cons_of_mem e later)
      · obtain rfl := List.mem_singleton.1 mem
        exact sorted.1 b later
  exact congrArg Value.map (onto [] nofun)

/-! ## Schemas -/

attribute [local simp] Schema.decode Value.bytes bind Except.bind pure Except.pure

section Schemas

variable {self : Decoder Value} {P : Value → Prop} {s : Schema} {ss : List Schema}

theorem reads_word {reading : Reading} {width : Width} (k : Nat) :
    Reads (Schema.decode (.word reading width) self) Value.bytes (Schema.Admits (.word reading width) P) k := by
  rintro v rest ⟨bits, rfl⟩ -
  have small : bits.toNat < Bytes.weight width.bytes := by
    cases width <;> exact bits.isLt
  simp [readWord_append small]

theorem reads_bool (k : Nat) :
    Reads (Schema.decode .bool self) Value.bytes (Schema.Admits .bool P) k := by
  rintro v rest ⟨b, rfl⟩ -
  cases b
  · simp [readByte_cons]
  · simp [readByte_cons]

theorem reads_char (k : Nat) :
    Reads (Schema.decode .char self) Value.bytes (Schema.Admits .char P) k := by
  rintro v rest ⟨c, rfl⟩ -
  simp [readChar_append]

theorem reads_text (k : Nat) :
    Reads (Schema.decode .text self) Value.bytes (Schema.Admits .text P) k := by
  rintro v rest ⟨s, rfl, announced⟩ -
  simp [readText_append announced]

/-- The tag in front of an option is a byte that its value does not take up. -/
theorem reads_option {k : Nat} (inner : Reads (s.decode self) Value.bytes (s.Admits P) k) :
    Reads (Schema.decode (.option s) self) Value.bytes (Schema.Admits (.option s) P) (k + 1) := by
  rintro v rest (rfl | ⟨u, rfl, h⟩) short
  · simp [readByte_cons]
  · rw [Value.bytes, List.length_cons] at short
    rw [Value.bytes, List.cons_append, Schema.decode, readByte_cons]
    simp [inner u rest h (by omega)]

theorem reads_seq {k : Nat} (inner : Reads (s.decode self) Value.bytes (s.Admits P) k) :
    Reads (Schema.decode (.seq s) self) Value.bytes (Schema.Admits (.seq s) P) (k + 1) := by
  rintro v rest ⟨us, rfl, few, h⟩ short
  rw [Value.bytes, Value.bytesOfAll_eq, List.length_append, Value.length_countBytes] at short
  have read := readTimes_append inner h (by omega) [] rest
  rw [Value.bytes, Value.bytesOfAll_eq, List.append_assoc, Schema.decode, readCount_append few]
  simp [read]

theorem reads_array {n k : Nat} (inner : Reads (s.decode self) Value.bytes (s.Admits P) k) :
    Reads (Schema.decode (.array n s) self) Value.bytes (Schema.Admits (.array n s) P) k := by
  rintro v rest ⟨us, rfl, length, h⟩ short
  rw [Value.bytes, Value.bytesOfAll_eq] at short
  have read := readTimes_append inner h short [] rest
  rw [length] at read
  rw [Value.bytes, Value.bytesOfAll_eq, Schema.decode]
  simp [read]

theorem reads_map {k : Nat} (inner : Reads (s.decode self) Value.bytes (s.Admits P) k) :
    Reads (Schema.decode (.map s) self) Value.bytes (Schema.Admits (.map s) P) (k + 1) := by
  rintro v rest ⟨entries, rfl, few, sorted, h⟩ short
  rw [Value.bytes, Value.bytesOfEntries_eq, List.length_append, Value.length_countBytes] at short
  let entry : Decoder (String × Value) := fun bs =>
    (readText bs).bind fun key => (s.decode self key.2).bind fun u => .ok ((key.1, u.1), u.2)
  have single : Reads entry Value.entryBytes (fun e => Announced e.1 ∧ s.Admits P e.2) k := by
    rintro ⟨key, u⟩ rest ⟨announced, admitted⟩ short
    rw [Value.entryBytes, List.length_append] at short
    dsimp only at announced admitted short
    rw [Value.entryBytes, List.append_assoc]
    simp [entry, readText_append announced, inner u rest admitted (by omega)]
  have read := readTimes_append single h (by omega) [] rest
  rw [Value.bytes, Value.bytesOfEntries_eq, List.append_assoc, Schema.decode, readCount_append few]
  show ((readTimes entry entries.length [] (entries.flatMap Value.entryBytes ++ rest)).bind
    fun read => .ok (Value.mapOf read.1, read.2)) = _
  rw [read]
  show Except.ok (Value.mapOf entries, rest) = _
  rw [mapOf_sorted sorted]

theorem reads_all {k : Nat} (inner : ∀ s ∈ ss, Reads (s.decode self) Value.bytes (s.Admits P) k) :
    Reads (decodeAll ss self) (List.flatMap Value.bytes) (admitsAll ss P) k := by
  induction ss with
  | nil =>
    rintro us rest rfl -
    rfl
  | cons s ss ih =>
    rintro us rest ⟨u, us, rfl, first, h⟩ short
    rw [List.forall_mem_cons] at inner
    rw [List.flatMap_cons, List.length_append] at short
    rw [List.flatMap_cons, List.append_assoc, decodeAll]
    simp [inner.1 u (us.flatMap Value.bytes ++ rest) first (by omega), ih inner.2 us rest h (by omega)]

/-- Fields of which the first ones use up input gain a byte. -/
theorem reads_all_guarded {k : Nat} (guarded : Schema.guarded.allGuarded ss = true)
    (inner : ∀ s ∈ ss, Reads (s.decode self) Value.bytes (s.Admits P) k)
    (gain : ∀ s ∈ ss, s.guarded = true → Reads (s.decode self) Value.bytes (s.Admits P) (k + 1)) :
    Reads (decodeAll ss self) (List.flatMap Value.bytes) (admitsAll ss P) (k + 1) := by
  induction ss with
  | nil =>
    rintro us rest rfl -
    rfl
  | cons s ss ih =>
    rintro us rest ⟨u, us, rfl, first, h⟩ short
    rw [List.forall_mem_cons] at inner gain
    rw [Schema.guarded.allGuarded, Bool.and_eq_true, Bool.or_eq_true] at guarded
    rw [List.flatMap_cons, List.length_append] at short
    have later : decodeAll ss self (us.flatMap Value.bytes ++ rest) = .ok (us, rest) := by
      rcases guarded.2 with solid | guarded
      · have := Schema.bytes_pos_of_solid solid first
        exact reads_all inner.2 us rest h (by omega)
      · exact ih guarded inner.2 gain.2 us rest h (by omega)
    rw [List.flatMap_cons, List.append_assoc, decodeAll]
    simp [gain.1 guarded.1 u (us.flatMap Value.bytes ++ rest) first (by omega), later]

theorem reads_record {k : Nat} (inner : Reads (decodeAll ss self) (List.flatMap Value.bytes) (admitsAll ss P) k) :
    Reads (Schema.decode (.record ss) self) Value.bytes (Schema.Admits (.record ss) P) k := by
  rintro v rest ⟨us, rfl, h⟩ short
  rw [Value.bytes, Value.bytesOfAll_eq] at short
  rw [Value.bytes, Value.bytesOfAll_eq, Schema.decode]
  simp [inner us rest h short]

theorem decodeVariant_eq {variants : List (List Schema)} {index : Nat} (there : variants[index]? = some ss)
    (found : Nat × Nat) (bs : Bytes) : decodeVariant variants index found self bs = decodeAll ss self bs := by
  induction variants generalizing index with
  | nil => cases there
  | cons first variants ih =>
    cases index with
    | zero =>
      obtain rfl := Option.some.inj there
      rw [decodeVariant]
    | succ index =>
      rw [decodeVariant]
      exact ih there

theorem reads_choice {variants : List (List Schema)} {k : Nat}
    (inner : ∀ ss ∈ variants, Reads (decodeAll ss self) (List.flatMap Value.bytes) (admitsAll ss P) k) :
    Reads (Schema.decode (.choice variants) self) Value.bytes (Schema.Admits (.choice variants) P) (k + 1) := by
  rintro v rest ⟨index, us, rfl, small, h⟩ short
  obtain ⟨ss, there, h⟩ := admitsVariant_iff.1 h
  rw [Value.bytes, Value.bytesOfAll_eq, List.length_append, Bytes.length_littleEndian] at short
  have read := inner ss (List.mem_of_getElem? there) us rest h (by omega)
  have tag : readWord 4 (Bytes.littleEndian 4 index ++ (us.flatMap Value.bytes ++ rest)) =
      .ok (index, us.flatMap Value.bytes ++ rest) := readWord_append small _
  rw [Value.bytes, Value.bytesOfAll_eq, List.append_assoc, Schema.decode, tag]
  simp [decodeVariant_eq there, read]

/-- As many unfoldings as a form has bytes, and one more, are enough to read it back. -/
theorem reads_unfolded
    (gain : ∀ {self : Decoder Value} {P : Value → Prop} {k : Nat}, Reads self Value.bytes P k →
      Reads (s.decode self) Value.bytes (s.Admits P) (k + 1)) (k n : Nat) :
    Reads (unfold (fun self => s.decode self) k) Value.bytes (unfolded (fun P => s.Admits P) n) k := by
  induction k generalizing n with
  | zero => exact fun v rest _ short => absurd short (Nat.not_lt_zero _)
  | succ k ih =>
    cases n with
    | zero => exact fun v rest none => none.elim
    | succ n => exact gain (ih n)

end Schemas

/-- Reading a schema keeps the bound up to which `itself` is read back, and a guarded one gains a byte. -/
theorem Schema.reads (s : Schema) {self : Decoder Value} {P : Value → Prop} {k : Nat}
    (inner : Reads self Value.bytes P k) :
    Reads (s.decode self) Value.bytes (s.Admits P) k ∧
      (s.guarded = true → Reads (s.decode self) Value.bytes (s.Admits P) (k + 1)) := by
  have always {d : Decoder Value} {Q : Value → Prop} {g : Prop} (h : Reads d Value.bytes Q (k + 1)) :
      Reads d Value.bytes Q k ∧ (g → Reads d Value.bytes Q (k + 1)) :=
    ⟨h.mono (Nat.le_succ k), fun _ => h⟩
  induction s generalizing self P k with
  | bool => exact always (reads_bool _)
  | word reading width => exact always (reads_word _)
  | char => exact always (reads_char _)
  | text => exact always (reads_text _)
  | unit =>
    refine always ?_
    rintro v rest rfl -
    rfl
  | option s ih => exact always (reads_option (ih inner always).1)
  | seq s ih => exact always (reads_seq (ih inner always).1)
  | array n s ih =>
    refine ⟨reads_array (ih inner always).1, ?_⟩
    intro guarded
    rw [Schema.guarded, Bool.or_eq_true, beq_iff_eq] at guarded
    rcases guarded with rfl | guarded
    · rintro v rest ⟨us, rfl, length, -⟩ -
      obtain rfl := List.length_eq_zero_iff.1 length
      rfl
    · exact reads_array ((ih inner always).2 guarded)
  | record ss ih =>
    have each : ∀ s ∈ ss, Reads (s.decode self) Value.bytes (s.Admits P) k :=
      fun s mem => (ih s mem inner always).1
    refine ⟨reads_record (reads_all each), ?_⟩
    intro guarded
    exact reads_record (reads_all_guarded guarded each fun s mem => (ih s mem inner always).2)
  | choice variants ih =>
    exact always (reads_choice fun ss mem => reads_all fun s there => (ih ss mem s there inner always).1)
  | map s ih => exact always (reads_map (ih inner always).1)
  | recursive s ih =>
    refine always ?_
    rintro v rest ⟨n, h⟩ -
    cases guarded : s.guarded with
    | false => exact absurd h (not_unfolded guarded n v)
    | true =>
      rw [Schema.decode]
      refine reads_unfolded ?_ _ n v rest h (by rw [List.length_append]; omega)
      intro self P k inner
      exact (ih inner (fun h => ⟨h.mono (Nat.le_succ k), fun _ => h⟩)).2 guarded
  | itself =>
    refine ⟨inner, ?_⟩
    intro guarded
    cases guarded

/-! ## Whole payloads -/

namespace Schema.Has

variable {s : Schema} {v : Value}

/-- The binary form of a value is read back as the value, and what follows it is left. -/
theorem decode_bytes (h : s.Has v) (rest : Bytes) :
    s.decode (fun _ => .error .unguarded) (v.bytes ++ rest) = .ok (v, rest) := by
  have nothing : Reads (fun _ => .error .unguarded) Value.bytes (fun _ => False) (v.bytes.length + 1) :=
    fun _ _ none => none.elim
  exact (s.reads nothing).1 v rest h (Nat.lt_succ_self _)

/-- A reader of the payload ignores what follows. -/
theorem read_bytes (h : s.Has v) (rest : Bytes) : s.read (v.bytes ++ rest) = .ok v := by
  rw [Schema.read, h.decode_bytes]
  rfl

theorem payloadOf (h : s.Has v) : payloadOf v = .ok v.bytes := by
  have sized : v.sized = true := h.sized fun _ none => none.elim
  rw [DurableQueue.payloadOf, Value.encode, if_pos sized]
  rfl

/-- An item with the binary form of a value as its payload holds that value. -/
theorem object (h : s.Has v) (id : UInt64) : (Item.ofId id v.bytes).object s = .ok v := by
  have read := h.read_bytes []
  rw [List.append_nil] at read
  rw [Item.object, Item.ofId, read]
  rfl

end Schema.Has

end DurableQueue.Payload
