import DurableQueue.Text.Utf8

/-!
# Reading back a text in bytes

A character in bytes is read as that character, whatever comes after it (`next_encoded`). Its code point
decides between four forms. In the two longer ones the first byte after the lead byte is held in narrower
bounds at both ends, which is what leaves out overlong forms and surrogates; there the cases of `follow?`
are told apart. Reading a whole text is then an induction on its characters (`decode_encode`).
-/

namespace DurableQueue.Utf8

/-! ## Bytes -/

/-- The ranges after a lead byte, told by its number. -/
theorem follow?_eq (lead : UInt8) :
    follow? lead =
      if lead.toNat ≤ 0x7f then some []
      else if lead.toNat < 0xc2 then none
      else if lead.toNat ≤ 0xdf then some [(0x80, 0xbf)]
      else if lead.toNat = 0xe0 then some [(0xa0, 0xbf), (0x80, 0xbf)]
      else if lead.toNat = 0xed then some [(0x80, 0x9f), (0x80, 0xbf)]
      else if lead.toNat ≤ 0xef then some [(0x80, 0xbf), (0x80, 0xbf)]
      else if lead.toNat = 0xf0 then some [(0x90, 0xbf), (0x80, 0xbf), (0x80, 0xbf)]
      else if lead.toNat ≤ 0xf3 then some [(0x80, 0xbf), (0x80, 0xbf), (0x80, 0xbf)]
      else if lead.toNat = 0xf4 then some [(0x80, 0x8f), (0x80, 0xbf), (0x80, 0xbf)]
      else none := by
  simp only [follow?, UInt8.le_iff_toNat_le, UInt8.lt_iff_toNat_lt, ← UInt8.toNat_inj]
  rfl

theorem toNat_byte {n : Nat} (small : n < 256) : (UInt8.ofNat n).toNat = n :=
  UInt8.toNat_ofNat_of_lt' small

/-- A byte in its range adds six bits to the code point. -/
theorem continued_byte {point count n : Nat} {lo hi : UInt8} {ranges : List (UInt8 × UInt8)} {rest : Bytes}
    (ge : lo.toNat ≤ n) (le : n ≤ hi.toNat) :
    continued point count ((lo, hi) :: ranges) (UInt8.ofNat n :: rest) =
      continued (64 * point + n % 64) (count + 1) ranges rest := by
  have small : n < 256 := Nat.lt_of_le_of_lt le hi.toNat_lt
  have inside : lo ≤ UInt8.ofNat n ∧ UInt8.ofNat n ≤ hi := by
    rw [UInt8.le_iff_toNat_le, UInt8.le_iff_toNat_le, toNat_byte small]
    exact ⟨ge, le⟩
  rw [continued, if_pos inside, toNat_byte small]

theorem next_byte {n : Nat} {ranges : List (UInt8 × UInt8)}
    (follow : follow? (UInt8.ofNat n) = some ranges) (rest : Bytes) :
    next (UInt8.ofNat n :: rest) = continued (leadBits (UInt8.ofNat n) ranges.length) 1 ranges rest := by
  rw [next, follow]

/-! ## Characters -/

section Forms

variable {n : Nat} (rest : Bytes)

theorem next_one (small : n ≤ 0x7f) :
    next (UInt8.ofNat n :: rest) = .char (Char.ofNat n) rest := by
  have lead := toNat_byte (show n < 256 by omega)
  rw [next_byte (by rw [follow?_eq, lead, if_pos small]), List.length_nil, leadBits, lead,
    continued]

theorem next_two (large : 0x7f < n) (small : n ≤ 0x7ff) :
    next (UInt8.ofNat (n / 64 % 32 + 192) :: UInt8.ofNat (n % 64 + 128) :: rest) =
      .char (Char.ofNat n) rest := by
  have lead := toNat_byte (show n / 64 % 32 + 192 < 256 by omega)
  have follow : follow? (UInt8.ofNat (n / 64 % 32 + 192)) = some [(0x80, 0xbf)] := by
    rw [follow?_eq, lead, if_neg (by omega), if_neg (by omega), if_pos (by omega)]
  have point : 64 * ((n / 64 % 32 + 192) % 32) + (n % 64 + 128) % 64 = n := by omega
  rw [next_byte follow, continued_byte (show 128 ≤ _ by omega) (show _ ≤ 191 by omega)]
  simp only [List.length_cons, List.length_nil, leadBits, lead, continued, point]

theorem next_three (large : 0x7ff < n) (small : n ≤ 0xffff) (valid : n < 0xd800 ∨ 0xdfff < n) :
    next (UInt8.ofNat (n / 4096 % 16 + 224) :: UInt8.ofNat (n / 64 % 64 + 128) ::
      UInt8.ofNat (n % 64 + 128) :: rest) = .char (Char.ofNat n) rest := by
  have lead := toNat_byte (show n / 4096 % 16 + 224 < 256 by omega)
  have point : 64 * (64 * ((n / 4096 % 16 + 224) % 16) + (n / 64 % 64 + 128) % 64) + (n % 64 + 128) % 64 = n := by
    omega
  obtain ⟨lo, hi, follow, ge, le⟩ : ∃ lo hi : UInt8,
      follow? (UInt8.ofNat (n / 4096 % 16 + 224)) = some [(lo, hi), (0x80, 0xbf)] ∧
        lo.toNat ≤ n / 64 % 64 + 128 ∧ n / 64 % 64 + 128 ≤ hi.toNat := by
    rw [follow?_eq, lead, if_neg (by omega), if_neg (by omega), if_neg (by omega)]
    by_cases first : n / 4096 % 16 + 224 = 0xe0
    · rw [if_pos first]
      exact ⟨_, _, rfl, show 160 ≤ _ by omega, show _ ≤ 191 by omega⟩
    · rw [if_neg first]
      by_cases surrogates : n / 4096 % 16 + 224 = 0xed
      · rw [if_pos surrogates]
        exact ⟨_, _, rfl, show 128 ≤ _ by omega, show _ ≤ 159 by omega⟩
      · rw [if_neg surrogates, if_pos (by omega)]
        exact ⟨_, _, rfl, show 128 ≤ _ by omega, show _ ≤ 191 by omega⟩
  rw [next_byte follow, continued_byte ge le,
    continued_byte (show 128 ≤ _ by omega) (show _ ≤ 191 by omega)]
  simp only [List.length_cons, List.length_nil, leadBits, lead, continued, point]

theorem next_four (large : 0xffff < n) (small : n < 0x110000) :
    next (UInt8.ofNat (n / 262144 % 8 + 240) :: UInt8.ofNat (n / 4096 % 64 + 128) ::
      UInt8.ofNat (n / 64 % 64 + 128) :: UInt8.ofNat (n % 64 + 128) :: rest) = .char (Char.ofNat n) rest := by
  have lead := toNat_byte (show n / 262144 % 8 + 240 < 256 by omega)
  have point : 64 * (64 * (64 * ((n / 262144 % 8 + 240) % 8) + (n / 4096 % 64 + 128) % 64)
      + (n / 64 % 64 + 128) % 64) + (n % 64 + 128) % 64 = n := by
    omega
  obtain ⟨lo, hi, follow, ge, le⟩ : ∃ lo hi : UInt8,
      follow? (UInt8.ofNat (n / 262144 % 8 + 240)) = some [(lo, hi), (0x80, 0xbf), (0x80, 0xbf)] ∧
        lo.toNat ≤ n / 4096 % 64 + 128 ∧ n / 4096 % 64 + 128 ≤ hi.toNat := by
    rw [follow?_eq, lead, if_neg (by omega), if_neg (by omega), if_neg (by omega), if_neg (by omega),
      if_neg (by omega), if_neg (by omega)]
    by_cases first : n / 262144 % 8 + 240 = 0xf0
    · rw [if_pos first]
      exact ⟨_, _, rfl, show 144 ≤ _ by omega, show _ ≤ 191 by omega⟩
    · rw [if_neg first]
      by_cases middle : n / 262144 % 8 + 240 ≤ 0xf3
      · rw [if_pos middle]
        exact ⟨_, _, rfl, show 128 ≤ _ by omega, show _ ≤ 191 by omega⟩
      · rw [if_neg middle, if_pos (by omega)]
        exact ⟨_, _, rfl, show 128 ≤ _ by omega, show _ ≤ 143 by omega⟩
  rw [next_byte follow, continued_byte ge le,
    continued_byte (show 128 ≤ _ by omega) (show _ ≤ 191 by omega),
    continued_byte (show 128 ≤ _ by omega) (show _ ≤ 191 by omega)]
  simp only [List.length_cons, List.length_nil, leadBits, lead, continued, point]

end Forms

/-- The bytes of a character are read as that character, whatever comes after them. -/
theorem next_encoded (c : Char) (rest : Bytes) : next (String.utf8EncodeChar c ++ rest) = .char c rest := by
  have back : Char.ofNat c.val.toNat = c := Char.ofNat_toNat c
  have valid : c.val.toNat < 0xd800 ∨ 0xdfff < c.val.toNat ∧ c.val.toNat < 0x110000 := c.valid
  unfold String.utf8EncodeChar
  dsimp only
  split
  · next one => rw [List.singleton_append, next_one rest one, back]
  · next one =>
    split
    · next two =>
      rw [List.cons_append, List.singleton_append, next_two rest (Nat.not_le.1 one) two, back]
    · next two =>
      split
      · next three =>
        rw [List.cons_append, List.cons_append, List.singleton_append,
          next_three rest (Nat.not_le.1 two) three (valid.imp_right And.left), back]
      · next three =>
        rw [List.cons_append, List.cons_append, List.cons_append, List.singleton_append,
          next_four rest (Nat.not_le.1 three) (by omega), back]

/-! ## Texts -/

theorem utf8EncodeChar_ne_nil (c : Char) : String.utf8EncodeChar c ≠ [] := by
  unfold String.utf8EncodeChar
  dsimp only
  repeat' split
  all_goals exact List.cons_ne_nil _ _

theorem decodeFrom_encoded (cs : List Char) (index : Nat) (read : List Char) :
    decodeFrom index read (cs.flatMap String.utf8EncodeChar) = .ok (read.reverse ++ cs) := by
  induction cs generalizing index read with
  | nil => rw [List.flatMap_nil, decodeFrom, List.append_nil]
  | cons c cs ih =>
    have front := next_encoded c (cs.flatMap String.utf8EncodeChar)
    obtain ⟨b, tail, bytes⟩ := List.exists_cons_of_ne_nil (utf8EncodeChar_ne_nil c)
    rw [bytes, List.cons_append] at front
    rw [List.flatMap_cons, bytes, List.cons_append, decodeFrom]
    split
    · next c' rest same =>
      obtain ⟨rfl, rfl⟩ := Front.char.inj (same.symm.trans front)
      rw [ih, List.reverse_cons, List.append_assoc, List.singleton_append]
    all_goals next same => cases same.symm.trans front

/-- Every text is read back from its bytes. -/
theorem decode_encode (text : String) : decode (encode text) = .ok text := by
  rw [decode, encode, decodeFrom_encoded, List.reverse_nil, List.nil_append]
  exact congrArg Except.ok (String.ofList_toList)

end DurableQueue.Utf8
