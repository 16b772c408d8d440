import DurableQueue.Proofs.Payload.RoundTrip
import DurableQueue.Proofs.Text.Decoding

/-!
# What is read is there

A decoder is sound if each value that it reads stands in front of what it leaves, in its binary form, and is
one of the values of the schema (`Sound`). Soundness is passed up from the parts of a schema to the whole
(`Schema.sound`); for a recursive schema it is passed along the unfoldings, as many as were made.

A schema with a map in it is left out: the entries of a map may be written in any order and more than once, and
are read as the same map.
-/

namespace DurableQueue

/-! ## Numbers in bytes -/

namespace Bytes

theorem ofLittleEndian_lt (bs : Bytes) : ofLittleEndian bs < weight bs.length := by
  induction bs with
  | nil => exact Nat.one_pos
  | cons b bs ih =>
    have := b.toNat_lt
    rw [ofLittleEndian, List.length_cons, weight]
    omega

/-- A byte string is written again from its number. -/
theorem littleEndian_ofLittleEndian (bs : Bytes) : littleEndian bs.length (ofLittleEndian bs) = bs := by
  induction bs with
  | nil => rfl
  | cons b bs ih =>
    have := b.toNat_lt
    have low : UInt8.ofNat (b.toNat + 256 * ofLittleEndian bs) = b := by
      rw [← UInt8.toNat_inj, UInt8.toNat_ofNat']
      omega
    have high : (b.toNat + 256 * ofLittleEndian bs) / 256 = ofLittleEndian bs := by omega
    rw [ofLittleEndian, List.length_cons, littleEndian, low, high, ih]

end Bytes

namespace Payload

open Schema.Admits (admitsAll admitsVariant admitsVariant_iff)
open Schema.decode (decodeAll decodeVariant)

/-! ## Sound decoders -/

/-- What the decoder reads is in `P`, and its form stands in front of what is left. -/
def Sound {α : Type} (d : Decoder α) (form : α → Bytes) (P : α → Prop) : Prop :=
  ∀ a bs rest, d bs = .ok (a, rest) → P a ∧ bs = form a ++ rest

/-- A program that succeeds has a first part that succeeds. -/
theorem exists_of_bind {α β : Type} {first : Except Fault α} {next : α → Except Fault β} {b : β}
    (h : first.bind next = .ok b) : ∃ a, first = .ok a ∧ next a = .ok b := by
  cases first with
  | error fault => cases h
  | ok a => exact ⟨a, rfl, h⟩

/-! ## Words, texts and characters -/

theorem readBytes_sound {fault : Fault} {n : Nat} {bs front rest : Bytes}
    (h : readBytes fault n bs = .ok (front, rest)) : front.length = n ∧ bs = front ++ rest := by
  simp only [readBytes, List.splitAt_eq] at h
  split at h
  · next enough =>
    obtain ⟨rfl, rfl⟩ := Prod.mk.inj (Except.ok.inj h)
    exact ⟨enough, (List.take_append_drop n bs).symm⟩
  · cases h

theorem readWord_sound (n : Nat) : Sound (readWord n) (Bytes.littleEndian n) (· < Bytes.weight n) := by
  intro m bs rest h
  obtain ⟨⟨front, left⟩, read, same⟩ := exists_of_bind h
  obtain ⟨rfl, rfl⟩ := Prod.mk.inj (Except.ok.inj same)
  obtain ⟨rfl, rfl⟩ := readBytes_sound read
  exact ⟨Bytes.ofLittleEndian_lt front, by rw [Bytes.littleEndian_ofLittleEndian]⟩

theorem readCount_sound : Sound (readWord 8) Value.countBytes (· < UInt64.size) := readWord_sound 8

/-- A byte that is read as a number is that number. -/
theorem readByte_sound {n : Nat} {bs rest : Bytes} (h : readWord 1 bs = .ok (n, rest)) :
    bs = UInt8.ofNat n :: rest := by
  obtain ⟨-, there⟩ := readWord_sound 1 n bs rest h
  exact there

theorem readText_sound : Sound readText Value.textBytes Announced := by
  intro s bs rest run
  obtain ⟨⟨n, left⟩, count, h⟩ := exists_of_bind run
  obtain ⟨small, rfl⟩ := readCount_sound n bs left count
  obtain ⟨⟨encoded, left'⟩, read, last⟩ := exists_of_bind h
  obtain ⟨rfl, rfl⟩ := readBytes_sound read
  cases decoded : Utf8.decode encoded with
  | error fault => simp only [decoded] at last; cases last
  | ok text =>
    simp only [decoded] at last
    obtain ⟨rfl, rfl⟩ := Prod.mk.inj (Except.ok.inj last)
    obtain rfl := Utf8.decode_eq_ok_iff.1 decoded
    exact ⟨small, by rw [Value.textBytes, List.append_assoc]⟩

theorem readChar_sound {c : Char} {bs rest : Bytes} (h : readChar bs = .ok (c, rest)) :
    bs = String.utf8EncodeChar c ++ rest := by
  unfold readChar at h
  cases bs with
  | nil => cases h
  | cons b tail =>
    dsimp only at h
    split at h
    · next c' rest' front =>
      obtain ⟨rfl, rfl⟩ := Prod.mk.inj (Except.ok.inj h)
      exact Utf8.eq_of_next_char front
    · cases h

/-! ## Sequences -/

theorem readTimes_sound {α : Type} {d : Decoder α} {form : α → Bytes} {P : α → Prop} (sound : Sound d form P)
    {n : Nat} {read as : List α} {bs rest : Bytes} (h : readTimes d n read bs = .ok (as, rest)) :
    ∃ later, as = read.reverse ++ later ∧ later.length = n ∧ (∀ a ∈ later, P a) ∧
      bs = later.flatMap form ++ rest := by
  induction n generalizing read bs with
  | zero =>
    obtain ⟨rfl, rfl⟩ := Prod.mk.inj (Except.ok.inj h)
    exact ⟨[], by simp, rfl, nofun, rfl⟩
  | succ n ih =>
    rw [readTimes] at h
    split at h
    · next a left first =>
      obtain ⟨member, rfl⟩ := sound a bs left first
      obtain ⟨later, rfl, rfl, members, rfl⟩ := ih h
      refine ⟨a :: later, by simp, rfl, List.forall_mem_cons.2 ⟨member, members⟩, by simp⟩
    · cases h

/-- Values of one schema, read one after another. -/
theorem readTimes_nil_sound {α : Type} {d : Decoder α} {form : α → Bytes} {P : α → Prop} (sound : Sound d form P)
    {n : Nat} {as : List α} {bs rest : Bytes} (h : readTimes d n [] bs = .ok (as, rest)) :
    as.length = n ∧ (∀ a ∈ as, P a) ∧ bs = as.flatMap form ++ rest := by
  obtain ⟨later, rfl, length, members, there⟩ := readTimes_sound sound h
  exact ⟨length, members, there⟩

/-! ## Schemas -/

namespace Schema

/-- Is there no map in the schema? -/
def mapless : Schema → Bool
  | .map _ => false
  | .option s | .seq s | .array _ s | .recursive s => s.mapless
  | .record ss => allMapless ss
  | .choice variants => variantsMapless variants
  | _ => true
where
  allMapless : List Schema → Bool
    | [] => true
    | s :: ss => s.mapless && allMapless ss
  variantsMapless : List (List Schema) → Bool
    | [] => true
    | ss :: variants => allMapless ss && variantsMapless variants

theorem allMapless_iff {ss : List Schema} : mapless.allMapless ss = true ↔ ∀ s ∈ ss, s.mapless = true := by
  induction ss with
  | nil => simp [mapless.allMapless]
  | cons s ss ih => simp [mapless.allMapless, ih]

theorem variantsMapless_iff {variants : List (List Schema)} :
    mapless.variantsMapless variants = true ↔ ∀ ss ∈ variants, ∀ s ∈ ss, s.mapless = true := by
  induction variants with
  | nil => simp [mapless.variantsMapless]
  | cons ss variants ih => simp [mapless.variantsMapless, allMapless_iff, ih]

end Schema

section Schemas

variable {self : Decoder Value} {P : Value → Prop} {s : Schema} {ss : List Schema}

theorem sound_bool : Sound (Schema.decode .bool self) Value.bytes (Schema.Admits .bool P) := by
  intro v bs rest run
  rw [Schema.decode] at run
  obtain ⟨⟨n, left⟩, byte, h⟩ := exists_of_bind run
  obtain rfl := readByte_sound byte
  dsimp only at h
  split at h
  · obtain ⟨rfl, rfl⟩ := Prod.mk.inj (Except.ok.inj h)
    exact ⟨⟨false, rfl⟩, rfl⟩
  · obtain ⟨rfl, rfl⟩ := Prod.mk.inj (Except.ok.inj h)
    exact ⟨⟨true, rfl⟩, rfl⟩
  · cases h

theorem sound_word {reading : Reading} {width : Width} :
    Sound (Schema.decode (.word reading width) self) Value.bytes (Schema.Admits (.word reading width) P) := by
  intro v bs rest h
  rw [Schema.decode] at h
  obtain ⟨⟨n, left⟩, word, h⟩ := exists_of_bind h
  obtain ⟨rfl, rfl⟩ := Prod.mk.inj (Except.ok.inj h)
  obtain ⟨small, rfl⟩ := readWord_sound width.bytes n bs left word
  have bits : (BitVec.ofNat width.bits n).toNat = n := by
    rw [BitVec.toNat_ofNat]
    exact Nat.mod_eq_of_lt (by cases width <;> exact small)
  exact ⟨⟨_, rfl⟩, by rw [Value.bytes, bits]⟩

theorem sound_char : Sound (Schema.decode .char self) Value.bytes (Schema.Admits .char P) := by
  intro v bs rest h
  rw [Schema.decode] at h
  obtain ⟨⟨c, left⟩, char, h⟩ := exists_of_bind h
  obtain ⟨rfl, rfl⟩ := Prod.mk.inj (Except.ok.inj h)
  exact ⟨⟨c, rfl⟩, readChar_sound char⟩

theorem sound_text : Sound (Schema.decode .text self) Value.bytes (Schema.Admits .text P) := by
  intro v bs rest h
  rw [Schema.decode] at h
  obtain ⟨⟨text, left⟩, read, h⟩ := exists_of_bind h
  obtain ⟨rfl, rfl⟩ := Prod.mk.inj (Except.ok.inj h)
  obtain ⟨announced, there⟩ := readText_sound text bs left read
  exact ⟨⟨text, rfl, announced⟩, there⟩

theorem sound_option (inner : Sound (s.decode self) Value.bytes (s.Admits P)) :
    Sound (Schema.decode (.option s) self) Value.bytes (Schema.Admits (.option s) P) := by
  intro v bs rest run
  rw [Schema.decode] at run
  obtain ⟨⟨n, left⟩, byte, h⟩ := exists_of_bind run
  obtain rfl := readByte_sound byte
  dsimp only at h
  split at h
  · obtain ⟨rfl, rfl⟩ := Prod.mk.inj (Except.ok.inj h)
    exact ⟨Or.inl rfl, rfl⟩
  · obtain ⟨⟨u, left'⟩, read, h⟩ := exists_of_bind h
    obtain ⟨rfl, rfl⟩ := Prod.mk.inj (Except.ok.inj h)
    obtain ⟨admitted, rfl⟩ := inner u left left' read
    exact ⟨Or.inr ⟨u, rfl, admitted⟩, rfl⟩
  · cases h

theorem sound_seq (inner : Sound (s.decode self) Value.bytes (s.Admits P)) :
    Sound (Schema.decode (.seq s) self) Value.bytes (Schema.Admits (.seq s) P) := by
  intro v bs rest h
  rw [Schema.decode] at h
  obtain ⟨⟨n, left⟩, count, h⟩ := exists_of_bind h
  obtain ⟨⟨us, left'⟩, read, h⟩ := exists_of_bind h
  obtain ⟨rfl, rfl⟩ := Prod.mk.inj (Except.ok.inj h)
  obtain ⟨small, rfl⟩ := readCount_sound n bs left count
  obtain ⟨rfl, admitted, rfl⟩ := readTimes_nil_sound inner read
  exact ⟨⟨us, rfl, small, admitted⟩, by rw [Value.bytes, Value.bytesOfAll_eq, List.append_assoc]⟩

theorem sound_array {n : Nat} (inner : Sound (s.decode self) Value.bytes (s.Admits P)) :
    Sound (Schema.decode (.array n s) self) Value.bytes (Schema.Admits (.array n s) P) := by
  intro v bs rest h
  rw [Schema.decode] at h
  obtain ⟨⟨us, left⟩, read, h⟩ := exists_of_bind h
  obtain ⟨rfl, rfl⟩ := Prod.mk.inj (Except.ok.inj h)
  obtain ⟨length, admitted, rfl⟩ := readTimes_nil_sound inner read
  exact ⟨⟨us, rfl, length, admitted⟩, by rw [Value.bytes, Value.bytesOfAll_eq]⟩

theorem sound_all (inner : ∀ s ∈ ss, Sound (s.decode self) Value.bytes (s.Admits P)) :
    Sound (decodeAll ss self) (List.flatMap Value.bytes) (admitsAll ss P) := by
  induction ss with
  | nil =>
    intro us bs rest h
    obtain ⟨rfl, rfl⟩ := Prod.mk.inj (Except.ok.inj h)
    exact ⟨rfl, rfl⟩
  | cons s ss ih =>
    obtain ⟨first, later⟩ := List.forall_mem_cons.1 inner
    intro us bs rest h
    rw [decodeAll] at h
    obtain ⟨⟨u, left⟩, read, h⟩ := exists_of_bind h
    obtain ⟨⟨us', left'⟩, reads, h⟩ := exists_of_bind h
    obtain ⟨rfl, rfl⟩ := Prod.mk.inj (Except.ok.inj h)
    obtain ⟨admitted, rfl⟩ := first u bs left read
    obtain ⟨all_admitted, rfl⟩ := ih later us' left left' reads
    exact ⟨⟨u, us', rfl, admitted, all_admitted⟩, by rw [List.flatMap_cons, List.append_assoc]⟩

theorem sound_record (inner : Sound (decodeAll ss self) (List.flatMap Value.bytes) (admitsAll ss P)) :
    Sound (Schema.decode (.record ss) self) Value.bytes (Schema.Admits (.record ss) P) := by
  intro v bs rest h
  rw [Schema.decode] at h
  obtain ⟨⟨us, left⟩, read, h⟩ := exists_of_bind h
  obtain ⟨rfl, rfl⟩ := Prod.mk.inj (Except.ok.inj h)
  obtain ⟨admitted, rfl⟩ := inner us bs left read
  exact ⟨⟨us, rfl, admitted⟩, by rw [Value.bytes, Value.bytesOfAll_eq]⟩

/-- The fields that are read are those of the variant at the index. -/
theorem exists_of_decodeVariant {variants : List (List Schema)} {index : Nat} {found : Nat × Nat}
    {us : List Value} {bs rest : Bytes} (h : decodeVariant variants index found self bs = .ok (us, rest)) :
    ∃ ss, variants[index]? = some ss ∧ decodeAll ss self bs = .ok (us, rest) := by
  induction variants generalizing index with
  | nil => cases h
  | cons ss variants ih =>
    cases index with
    | zero => exact ⟨ss, rfl, h⟩
    | succ index => exact ih h

theorem sound_choice {variants : List (List Schema)}
    (inner : ∀ ss ∈ variants, Sound (decodeAll ss self) (List.flatMap Value.bytes) (admitsAll ss P)) :
    Sound (Schema.decode (.choice variants) self) Value.bytes (Schema.Admits (.choice variants) P) := by
  intro v bs rest h
  rw [Schema.decode] at h
  obtain ⟨⟨index, left⟩, tag, h⟩ := exists_of_bind h
  obtain ⟨⟨us, left'⟩, read, h⟩ := exists_of_bind h
  obtain ⟨rfl, rfl⟩ := Prod.mk.inj (Except.ok.inj h)
  obtain ⟨small, rfl⟩ := readWord_sound 4 index bs left tag
  obtain ⟨ss, there, read⟩ := exists_of_decodeVariant read
  obtain ⟨admitted, rfl⟩ := inner ss (List.mem_of_getElem? there) us left left' read
  refine ⟨⟨index, us, rfl, small, admitsVariant_iff.2 ⟨ss, there, admitted⟩⟩, ?_⟩
  rw [Value.bytes, Value.bytesOfAll_eq, List.append_assoc]

/-- What is read in some unfoldings is admitted in as many. -/
theorem sound_unfold
    (step : ∀ {self : Decoder Value} {P : Value → Prop}, Sound self Value.bytes P →
      Sound (s.decode self) Value.bytes (s.Admits P)) (n : Nat) :
    Sound (unfold (fun self => s.decode self) n) Value.bytes (unfolded (fun P => s.Admits P) n) := by
  induction n with
  | zero => exact fun v bs rest h => nomatch h
  | succ n ih => exact step ih

end Schemas

/-- Without maps, whatever is read is a value of the schema, and its form is there. -/
theorem Schema.sound {s : Schema} (mapless : s.mapless = true) {self : Decoder Value} {P : Value → Prop}
    (inner : Sound self Value.bytes P) : Sound (s.decode self) Value.bytes (s.Admits P) := by
  induction s generalizing self P with
  | bool => exact sound_bool
  | word reading width => exact sound_word
  | char => exact sound_char
  | text => exact sound_text
  | unit =>
    intro v bs rest h
    obtain ⟨rfl, rfl⟩ := Prod.mk.inj (Except.ok.inj h)
    exact ⟨rfl, rfl⟩
  | option s ih => exact sound_option (ih mapless inner)
  | seq s ih => exact sound_seq (ih mapless inner)
  | array n s ih => exact sound_array (ih mapless inner)
  | record ss ih =>
    have each := allMapless_iff.1 mapless
    exact sound_record (sound_all fun s mem => ih s mem (each s mem) inner)
  | choice variants ih =>
    have each := variantsMapless_iff.1 mapless
    exact sound_choice fun ss mem => sound_all fun s there => ih ss mem s there (each ss mem s there) inner
  | map s ih => cases mapless
  | recursive s ih =>
    intro v bs rest h
    rw [Schema.decode] at h
    obtain ⟨admitted, there⟩ := sound_unfold (fun inner => ih mapless inner) _ v bs rest h
    exact ⟨⟨_, admitted⟩, there⟩
  | itself => exact inner

end Payload

end DurableQueue
