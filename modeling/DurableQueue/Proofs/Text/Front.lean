import DurableQueue.Proofs.Text.Utf8

/-!
# What stands at the front of a byte string

`next` tells a character at the front of a byte string from bytes that cannot begin one. Here it is told what
each answer means, by the texts alone. A character that is found is there in bytes (`eq_of_next_char`). An
incomplete front can be completed to a character (`begins_of_incomplete`). An invalid front is the longest one
that could still have become a character, or a single byte, and nothing that follows can mend it
(`Wrong`, `wrong_of_next_invalid`).

The lead byte decides how many bytes follow and in which ranges (`Leads`); the rest goes by induction on the
ranges still to come. Of a range it matters that it is not empty, for then any front within its ranges can be
completed.
-/

namespace DurableQueue.Utf8

/-! ## Lead bytes -/

/-- The lead bytes and the ranges after them, by the number of bytes that follow. Where there are two or three,
the first range is narrower after four of the lead bytes. -/
inductive Leads (lead : UInt8) : List (UInt8 × UInt8) → Prop where
  | one (small : lead.toNat ≤ 0x7f) : Leads lead []
  | two (large : 0xc2 ≤ lead.toNat) (small : lead.toNat ≤ 0xdf) : Leads lead [(0x80, 0xbf)]
  | three {lo hi : UInt8} (large : 0xe0 ≤ lead.toNat) (small : lead.toNat ≤ 0xef) (some_byte : lo ≤ hi)
      (ge : 0x80 ≤ lo.toNat) (le : hi.toNat ≤ 0xbf) (overlong : lead.toNat = 0xe0 → 0xa0 ≤ lo.toNat)
      (surrogate : lead.toNat = 0xed → hi.toNat ≤ 0x9f) : Leads lead [(lo, hi), (0x80, 0xbf)]
  | four {lo hi : UInt8} (large : 0xf0 ≤ lead.toNat) (small : lead.toNat ≤ 0xf4) (some_byte : lo ≤ hi)
      (ge : 0x80 ≤ lo.toNat) (le : hi.toNat ≤ 0xbf) (overlong : lead.toNat = 0xf0 → 0x90 ≤ lo.toNat)
      (beyond : lead.toNat = 0xf4 → hi.toNat ≤ 0x8f) : Leads lead [(lo, hi), (0x80, 0xbf), (0x80, 0xbf)]

theorem leads {lead : UInt8} {ranges : List (UInt8 × UInt8)} (follow : follow? lead = some ranges) :
    Leads lead ranges := by
  rw [follow?_eq] at follow
  split at follow
  · obtain rfl := Option.some.inj follow
    exact .one ‹_›
  split at follow
  · cases follow
  split at follow
  · obtain rfl := Option.some.inj follow
    exact .two (by omega) ‹_›
  split at follow
  · obtain rfl := Option.some.inj follow
    exact .three (by omega) (by omega) (by decide) (by decide) (by decide) (fun _ => by decide) (by omega)
  split at follow
  · obtain rfl := Option.some.inj follow
    exact .three (by omega) (by omega) (by decide) (by decide) (by decide) (by omega) (fun _ => by decide)
  split at follow
  · obtain rfl := Option.some.inj follow
    exact .three (by omega) (by omega) (by decide) (by decide) (by decide) (by omega) (by omega)
  split at follow
  · obtain rfl := Option.some.inj follow
    exact .four (by omega) (by omega) (by decide) (by decide) (by decide) (fun _ => by decide) (by omega)
  split at follow
  · obtain rfl := Option.some.inj follow
    exact .four (by omega) (by omega) (by decide) (by decide) (by decide) (by omega) (by omega)
  split at follow
  · obtain rfl := Option.some.inj follow
    exact .four (by omega) (by omega) (by decide) (by decide) (by decide) (by omega) (fun _ => by decide)
  · cases follow

/-- No range after a lead byte is empty, and there are three at most. -/
theorem Leads.ranges {lead : UInt8} {ranges : List (UInt8 × UInt8)} (h : Leads lead ranges) :
    (∀ r ∈ ranges, r.1 ≤ r.2) ∧ ranges.length ≤ 3 := by
  have tail : (0x80 : UInt8) ≤ 0xbf := by decide
  cases h with
  | one small => simp
  | two large small => simp [tail]
  | three large small some_byte => simp [some_byte, tail]
  | four large small some_byte => simp [some_byte, tail]

/-! ## Characters -/

/-- The bytes of the character at a code point. -/
theorem utf8EncodeChar_ofNat {n : Nat} (valid : n < 0xd800 ∨ 0xdfff < n ∧ n < 0x110000) :
    String.utf8EncodeChar (Char.ofNat n) =
      if n ≤ 0x7f then [UInt8.ofNat n]
      else if n ≤ 0x7ff then [UInt8.ofNat (n / 64 % 32 + 192), UInt8.ofNat (n % 64 + 128)]
      else if n ≤ 0xffff then
        [UInt8.ofNat (n / 4096 % 16 + 224), UInt8.ofNat (n / 64 % 64 + 128), UInt8.ofNat (n % 64 + 128)]
      else
        [UInt8.ofNat (n / 262144 % 8 + 240), UInt8.ofNat (n / 4096 % 64 + 128),
          UInt8.ofNat (n / 64 % 64 + 128), UInt8.ofNat (n % 64 + 128)] := by
  have point : (Char.ofNat n).val.toNat = n := by
    unfold Char.ofNat
    rw [dif_pos valid]
    rfl
  unfold String.utf8EncodeChar
  rw [point]

theorem eq_ofNat {b : UInt8} {n : Nat} (same : b.toNat = n) : UInt8.ofNat n = b := by
  rw [← same, UInt8.ofNat_toNat]

/-- A character is read only from a byte in the range that is next, and a shorter sequence after it. -/
theorem continued_cons_char {point count : Nat} {lo hi : UInt8} {ranges : List (UInt8 × UInt8)} {bs rest : Bytes}
    {c : Char} (h : continued point count ((lo, hi) :: ranges) bs = .char c rest) :
    ∃ b tail, bs = b :: tail ∧ lo.toNat ≤ b.toNat ∧ b.toNat ≤ hi.toNat ∧
      continued (64 * point + b.toNat % 64) (count + 1) ranges tail = .char c rest := by
  cases bs with
  | nil => cases h
  | cons b tail =>
    rw [continued] at h
    split at h
    · next inside => exact ⟨b, tail, rfl, UInt8.le_iff_toNat_le.1 inside.1, UInt8.le_iff_toNat_le.1 inside.2, h⟩
    · cases h

theorem continued_nil_char {point count : Nat} {bs rest : Bytes} {c : Char}
    (h : continued point count [] bs = .char c rest) : c = Char.ofNat point ∧ bs = rest := by
  rw [continued] at h
  obtain ⟨rfl, rfl⟩ := Front.char.inj h
  exact ⟨rfl, rfl⟩

/-- The character that is found at the front is there in bytes. -/
theorem eq_of_next_char {bs rest : Bytes} {c : Char} (h : next bs = .char c rest) :
    bs = String.utf8EncodeChar c ++ rest := by
  cases bs with
  | nil => cases h
  | cons lead tail =>
    rw [next] at h
    split at h
    · cases h
    · next ranges follow =>
      -- In each case the bytes are the digits of the code point to the base 64.
      have tail_lo : (0x80 : UInt8).toNat = 128 := rfl
      have tail_hi : (0xbf : UInt8).toNat = 191 := rfl
      cases leads follow with
      | one small =>
        obtain ⟨rfl, rfl⟩ := continued_nil_char h
        rw [utf8EncodeChar_ofNat (by simp only [List.length_nil, leadBits]; omega)]
        simp only [List.length_nil, leadBits]
        rw [if_pos small, eq_ofNat rfl, List.singleton_append]
      | two large small =>
        obtain ⟨b₁, _, rfl, ge₁, le₁, h⟩ := continued_cons_char h
        obtain ⟨rfl, rfl⟩ := continued_nil_char h
        simp only [List.length_cons, List.length_nil, leadBits]
        rw [utf8EncodeChar_ofNat (by omega), if_neg (by omega), if_pos (by omega)]
        rw [eq_ofNat (b := lead) (by omega), eq_ofNat (b := b₁) (by omega)]
        rfl
      | three large small some_byte ge le overlong surrogate =>
        obtain ⟨b₁, _, rfl, ge₁, le₁, h⟩ := continued_cons_char h
        obtain ⟨b₂, _, rfl, ge₂, le₂, h⟩ := continued_cons_char h
        obtain ⟨rfl, rfl⟩ := continued_nil_char h
        simp only [List.length_cons, List.length_nil, leadBits]
        rw [utf8EncodeChar_ofNat (by omega), if_neg (by omega), if_neg (by omega), if_pos (by omega)]
        rw [eq_ofNat (b := lead) (by omega), eq_ofNat (b := b₁) (by omega), eq_ofNat (b := b₂) (by omega)]
        rfl
      | four large small some_byte ge le overlong beyond =>
        obtain ⟨b₁, _, rfl, ge₁, le₁, h⟩ := continued_cons_char h
        obtain ⟨b₂, _, rfl, ge₂, le₂, h⟩ := continued_cons_char h
        obtain ⟨b₃, _, rfl, ge₃, le₃, h⟩ := continued_cons_char h
        obtain ⟨rfl, rfl⟩ := continued_nil_char h
        simp only [List.length_cons, List.length_nil, leadBits]
        rw [utf8EncodeChar_ofNat (by omega), if_neg (by omega), if_neg (by omega), if_neg (by omega)]
        rw [eq_ofNat (b := lead) (by omega), eq_ofNat (b := b₁) (by omega), eq_ofNat (b := b₂) (by omega),
          eq_ofNat (b := b₃) (by omega)]
        rfl

/-! ## Texts and their beginnings -/

/-- The bytes are those of a text. -/
def IsText (bs : Bytes) : Prop := ∃ text, bs = encode text

/-- The bytes can be completed to a text. -/
def Begins (bs : Bytes) : Prop := ∃ more, IsText (bs ++ more)

theorem encode_ofList (cs : List Char) : encode (String.ofList cs) = cs.flatMap String.utf8EncodeChar := by
  rw [encode, String.toList_ofList]

/-- At the front of a text that is not empty stands a character. -/
theorem IsText.front {bs : Bytes} (h : IsText bs) (some_byte : bs ≠ []) : ∃ c rest, next bs = .char c rest := by
  obtain ⟨text, rfl⟩ := h
  unfold encode at some_byte ⊢
  cases chars : text.toList with
  | nil => simp [chars] at some_byte
  | cons c cs => exact ⟨c, _, next_encoded c _⟩

/-- A single character is a text. -/
theorem begins_of_next_char {bs : Bytes} (more : Bytes) {c : Char} (h : next (bs ++ more) = .char c []) :
    Begins bs := by
  refine ⟨more, String.singleton c, ?_⟩
  rw [eq_of_next_char h, encode]
  simp

/-! ## Bytes that are cut off -/

section Continued

variable {point count : Nat} {ranges : List (UInt8 × UInt8)} {bs : Bytes}

theorem continued_ne_empty : continued point count ranges bs ≠ .empty := by
  fun_induction continued point count ranges bs with
  | case3 point count lo hi ranges b rest inside ih => exact ih
  | _ => simp

/-- The least byte of each range makes up a sequence. -/
theorem continued_least (some_byte : ∀ r ∈ ranges, r.1 ≤ r.2) :
    ∃ c, continued point count ranges (ranges.map (·.1)) = .char c [] := by
  induction ranges generalizing point count with
  | nil => exact ⟨_, rfl⟩
  | cons r ranges ih =>
    obtain ⟨first, later⟩ := List.forall_mem_cons.1 some_byte
    rw [List.map_cons, continued, if_pos ⟨UInt8.le_refl _, first⟩]
    exact ih later

/-- A sequence that is cut off can be completed. -/
theorem continued_incomplete (some_byte : ∀ r ∈ ranges, r.1 ≤ r.2)
    (h : continued point count ranges bs = .incomplete) :
    ∃ more c, continued point count ranges (bs ++ more) = .char c [] := by
  fun_induction continued point count ranges bs with
  | case1 => cases h
  | case2 point count r ranges => exact ⟨_, continued_least some_byte⟩
  | case3 point count lo hi ranges b rest inside ih =>
    obtain ⟨more, c, completed⟩ := ih (List.forall_mem_cons.1 some_byte).2 h
    refine ⟨more, c, ?_⟩
    rw [List.cons_append, continued, if_pos inside, completed]
  | case4 => cases h

/-- What it means that bytes break off a sequence: those before could have been completed, and the byte that
comes then is wrong whatever is behind it. -/
theorem continued_invalid {wrong : Nat} {rest : Bytes} (some_byte : ∀ r ∈ ranges, r.1 ≤ r.2)
    (h : continued point count ranges bs = .invalid wrong rest) :
    ∃ front, bs = front ++ rest ∧ wrong = count + front.length ∧ front.length < ranges.length ∧ rest ≠ [] ∧
      (∃ more c, continued point count ranges (front ++ more) = .char c []) ∧
      ∀ rest', rest'.head? = rest.head? →
        continued point count ranges (front ++ rest') = .invalid wrong rest' := by
  fun_induction continued point count ranges bs with
  | case1 => cases h
  | case2 => cases h
  | case3 point count lo hi ranges b tail inside ih =>
    obtain ⟨front, rfl, wrong_eq, few, broken, ⟨more, c, completed⟩, stuck⟩ :=
      ih (List.forall_mem_cons.1 some_byte).2 h
    have step (tail' : Bytes) : continued point count ((lo, hi) :: ranges) (b :: tail') =
        continued (64 * point + b.toNat % 64) (count + 1) ranges tail' := by
      rw [continued, if_pos inside]
    refine ⟨b :: front, rfl, ?_, Nat.succ_lt_succ few, broken, ⟨more, c, ?_⟩, ?_⟩
    · rw [wrong_eq, List.length_cons]
      omega
    · rw [List.cons_append, step, completed]
    · intro rest' same
      rw [List.cons_append, step, stuck rest' same]
  | case4 point count lo hi ranges b tail outside =>
    obtain ⟨rfl, rfl⟩ := Front.invalid.inj h
    refine ⟨[], rfl, rfl, Nat.succ_pos _, List.cons_ne_nil _ _, ⟨_, continued_least some_byte⟩, ?_⟩
    intro rest' same
    cases rest' with
    | nil => cases same
    | cons b' tail' =>
      obtain rfl : b' = b := Option.some.inj same
      rw [List.nil_append, continued, if_neg outside]

end Continued

/-- Where there is a byte, the front is not empty. -/
theorem next_cons_ne_empty (lead : UInt8) (tail : Bytes) : next (lead :: tail) ≠ .empty := by
  rw [next]
  split
  · simp
  · exact continued_ne_empty

/-- A front that is cut off can be completed to a text. -/
theorem begins_of_incomplete {bs : Bytes} (h : next bs = .incomplete) : Begins bs := by
  cases bs with
  | nil => cases h
  | cons lead tail =>
    rw [next] at h
    split at h
    · cases h
    · next ranges follow =>
      obtain ⟨more, c, completed⟩ := continued_incomplete (leads follow).ranges.1 h
      refine begins_of_next_char more (c := c) ?_
      rw [List.cons_append, next, follow]
      exact completed

/-! ## Bytes that are wrong -/

/-- The first bytes are wrong for certain: the longest front that could have become a character, or a single
byte. Neither more of them nor all of them can be completed to a text. -/
structure Wrong (bs : Bytes) (count : Nat) : Prop where
  some_byte : 1 ≤ count
  few : count ≤ 3
  within : count ≤ bs.length
  begins : count = 1 ∨ Begins (bs.take count)
  longest : ∀ m, count < m → m ≤ bs.length → ¬ Begins (bs.take m)
  beyond : ¬ Begins bs

/-- What an invalid front consists of, and that it stays invalid as long as the byte behind it is the same. -/
theorem exists_front_of_invalid {bs rest : Bytes} {count : Nat} (h : next bs = .invalid count rest) :
    ∃ front, bs = front ++ rest ∧ count = front.length ∧ 1 ≤ count ∧ count ≤ 3 ∧ (count = 1 ∨ Begins front) ∧
      ∀ rest', rest.take 1 <+: rest' → next (front ++ rest') = .invalid count rest' := by
  cases bs with
  | nil => cases h
  | cons lead tail =>
    rw [next] at h
    split at h
    · next follow =>
      obtain ⟨rfl, rfl⟩ := Front.invalid.inj h
      refine ⟨[lead], rfl, rfl, Nat.le_refl 1, by decide, Or.inl rfl, ?_⟩
      intro rest' _
      rw [List.singleton_append, next, follow]
    · next ranges follow =>
      obtain ⟨some_byte, few⟩ := (leads follow).ranges
      obtain ⟨front, rfl, rfl, short, broken, ⟨more, c, completed⟩, stuck⟩ := continued_invalid some_byte h
      have whole (tail' : Bytes) : next (lead :: front ++ tail') =
          continued (leadBits lead ranges.length) 1 ranges (front ++ tail') := by
        rw [List.cons_append, next, follow]
      refine ⟨lead :: front, rfl, ?_, Nat.le_add_right _ _, by omega, Or.inr ?_, ?_⟩
      · rw [List.length_cons, Nat.add_comm]
      · refine begins_of_next_char more (c := c) ?_
        rw [whole, completed]
      · intro rest' same
        obtain ⟨b, rest, rfl⟩ := List.exists_cons_of_ne_nil broken
        obtain ⟨more', rfl⟩ := same
        rw [whole]
        exact stuck _ rfl

theorem wrong_of_next_invalid {bs rest : Bytes} {count : Nat} (h : next bs = .invalid count rest) :
    Wrong bs count ∧ bs.drop count = rest := by
  obtain ⟨front, rfl, rfl, some_byte, few, begins, stuck⟩ := exists_front_of_invalid h
  -- A text with this front would have a character there.
  have hopeless (rest' : Bytes) (same : rest.take 1 <+: rest') : ¬ Begins (front ++ rest') := by
    rintro ⟨more, text⟩
    have not_empty : front ++ rest' ++ more ≠ [] := by
      have : front ≠ [] := List.length_pos_iff.1 some_byte
      simp [this]
    obtain ⟨c, rest'', char⟩ := text.front not_empty
    rw [List.append_assoc, stuck (rest' ++ more) (same.trans (List.prefix_append rest' more))] at char
    cases char
  refine ⟨⟨some_byte, few, by simp, ?_, ?_, hopeless rest (List.take_prefix 1 rest)⟩, List.drop_left⟩
  · rwa [List.take_left]
  · intro m more _
    have split : (front ++ rest).take m = front ++ rest.take (m - front.length) := by
      rw [List.take_append, List.take_of_length_le (Nat.le_of_lt more)]
    rw [split]
    refine hopeless _ ?_
    rw [List.prefix_take_iff]
    exact ⟨List.take_prefix 1 rest, by rw [List.length_take]; omega⟩

end DurableQueue.Utf8
