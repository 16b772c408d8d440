import DurableQueue.Number.Binary64
import Mathlib.Data.List.TakeWhile

/-!
# Decimal text read and written

What reads as a number has digits, letters, signs and points in it and no other characters
(`isNumeric_of_readInt64?`, `Binary64.isNumeric_of_read?`), and so has every number as it is written
(`numeric_toString`, `Binary64.numeric_plain`). A whole number of 64 bits is read back from the way it is written
(`readInt64?_toString`); the text it was read from may be another one.
-/

namespace DurableQueue

/-- May the character stand in a number? -/
def isNumeric (c : Char) : Bool := c.isAlphanum || c == '+' || c == '-' || c == '.'

/-- Does the text look like a number? There is some, and it has no characters but those of numbers. -/
def Numeric (text : String) : Prop := text ≠ "" ∧ ∀ c ∈ text.toList, isNumeric c = true

/-- The characters of a given text can be gone through. -/
theorem numeric_of_all {text : String} (some_char : text ≠ "") (all : text.toList.all isNumeric = true) :
    Numeric text :=
  ⟨some_char, List.all_eq_true.1 all⟩

theorem isNumeric_of_isDigit {c : Char} (digit : c.isDigit = true) : isNumeric c = true := by
  simp [isNumeric, Char.isAlphanum, digit]

/-! ## Digits -/

theorem digitValue?_of_isDigit {c : Char} (digit : c.isDigit = true) : digitValue? c = some (c.toNat - 48) := by
  have bounds := Bool.and_eq_true_iff.1 digit
  have from_zero : '0' ≤ c := of_decide_eq_true bounds.1
  have to_nine : c ≤ '9' := of_decide_eq_true bounds.2
  exact if_pos ⟨from_zero, to_nine⟩

theorem isDigit_of_digitValue? {c : Char} {d : Nat} (value : digitValue? c = some d) : c.isDigit = true := by
  unfold digitValue? at value
  split at value
  · next digit => exact Bool.and_eq_true_iff.2 ⟨decide_eq_true digit.1, decide_eq_true digit.2⟩
  · cases value

/-- A row of digits is read as the number that it stands for. -/
theorem natOfDigits_of_isDigit {cs : List Char} (digits : ∀ c ∈ cs, c.isDigit = true) (read : Nat) :
    natOfDigits read cs = some (Nat.ofDigitChars 10 cs read) := by
  induction cs generalizing read with
  | nil => rfl
  | cons c cs ih =>
    obtain ⟨first, later⟩ := List.forall_mem_cons.1 digits
    rw [natOfDigits, digitValue?_of_isDigit first]
    exact ih later _

theorem isDigit_of_natOfDigits {cs : List Char} {read n : Nat} (value : natOfDigits read cs = some n) :
    ∀ c ∈ cs, c.isDigit = true := by
  induction cs generalizing read with
  | nil => exact List.forall_mem_nil _
  | cons c cs ih =>
    rw [natOfDigits] at value
    cases first : digitValue? c with
    | none =>
      rw [first] at value
      cases value
    | some d =>
      rw [first] at value
      exact List.forall_mem_cons.2 ⟨isDigit_of_digitValue? first, ih value⟩

theorem isDigit_of_readDigits? {cs : List Char} {n : Nat} (value : readDigits? cs = some n) :
    ∀ c ∈ cs, c.isDigit = true := by
  unfold readDigits? at value
  split at value
  · cases value
  · exact isDigit_of_natOfDigits value

theorem readDigits?_toDigits (n : Nat) : readDigits? (Nat.toDigits 10 n) = some n := by
  have digits : ∀ c ∈ Nat.toDigits 10 n, c.isDigit = true := fun c there =>
    Nat.isDigit_of_mem_toDigits (by decide) (by decide) there
  rw [readDigits?, if_neg (by simp), natOfDigits_of_isDigit digits,
    Nat.ofDigitChars_toDigits (by decide) (by decide)]

/-! ## Whole numbers -/

/-- A sign is all that is split off a number. -/
theorem splitSign_eq (cs : List Char) : ∃ sign, cs = sign ++ (splitSign cs).2 ∧
    ∀ c ∈ sign, c = '-' ∨ c = '+' := by
  unfold splitSign
  split
  · exact ⟨['-'], rfl, by simp⟩
  · exact ⟨['+'], rfl, by simp⟩
  · exact ⟨[], rfl, by simp⟩

theorem isNumeric_of_splitSign {cs : List Char} (numeric : ∀ c ∈ (splitSign cs).2, isNumeric c = true) :
    ∀ c ∈ cs, isNumeric c = true := by
  obtain ⟨sign, parts, signs⟩ := splitSign_eq cs
  rw [parts]
  intro c there
  rcases List.mem_append.1 there with in_sign | behind
  · rcases signs c in_sign with rfl | rfl <;> rfl
  · exact numeric c behind

theorem isNumeric_of_readInt64? {cs : List Char} {n : Int} (value : readInt64? cs = some n) :
    ∀ c ∈ cs, isNumeric c = true := by
  refine isNumeric_of_splitSign fun c there => isNumeric_of_isDigit ?_
  unfold readInt64? readInt? at value
  cases digits : readDigits? (splitSign cs).2 with
  | none =>
    simp only [digits] at value
    cases value
  | some m => exact isDigit_of_readDigits? digits c there

theorem bounds_of_readInt64? {cs : List Char} {n : Int} (value : readInt64? cs = some n) :
    -Int.pow 2 63 ≤ n ∧ n ≤ Int.pow 2 63 - 1 := by
  unfold readInt64? readInt? at value
  cases digits : readDigits? (splitSign cs).2 with
  | none =>
    simp only [digits] at value
    cases value
  | some m =>
    simp only [digits, Option.ite_none_right_eq_some] at value
    obtain ⟨bounds, same⟩ := value
    exact Option.some.inj same ▸ bounds

theorem splitSign_toDigits (n : Nat) : splitSign (Nat.toDigits 10 n) = (false, Nat.toDigits 10 n) := by
  unfold splitSign
  split
  · next rest starts =>
    have digit : '-' ∈ Nat.toDigits 10 n := starts ▸ List.mem_cons_self
    exact absurd (Nat.isDigit_of_mem_toDigits (by decide) (by decide) digit) (by decide)
  · next rest starts =>
    have digit : '+' ∈ Nat.toDigits 10 n := starts ▸ List.mem_cons_self
    exact absurd (Nat.isDigit_of_mem_toDigits (by decide) (by decide) digit) (by decide)
  · rfl

/-- How a whole number is written: a minus sign if it is negative, and the digits of its size. -/
theorem toList_toString (n : Int) :
    (toString n).toList = (if n < 0 then ['-'] else []) ++ Nat.toDigits 10 n.natAbs := by
  show (Int.repr n).toList = _
  rw [Int.repr_eq_if]
  by_cases negative : n < 0
  · rw [if_neg (by omega), if_pos negative, String.toList_append, Nat.toList_repr]
    congr 2
    omega
  · rw [if_pos (by omega), if_neg negative, Nat.toList_repr]
    congr 2
    omega

/-- A whole number of 64 bits is read back as it is written. -/
theorem readInt64?_toString {n : Int} (least : -Int.pow 2 63 ≤ n) (most : n ≤ Int.pow 2 63 - 1) :
    readInt64? (toString n).toList = some n := by
  have bounds : -Int.pow 2 63 ≤ n ∧ n ≤ Int.pow 2 63 - 1 := ⟨least, most⟩
  rw [toList_toString]
  unfold readInt64? readInt?
  by_cases negative : n < 0
  · have size : -(n.natAbs : Int) = n := by omega
    rw [if_pos negative]
    simp only [List.singleton_append, splitSign, readDigits?_toDigits, if_true, size, if_pos bounds]
  · have size : (n.natAbs : Int) = n := by omega
    rw [if_neg negative]
    simp only [List.nil_append, splitSign_toDigits, readDigits?_toDigits, Bool.false_eq_true, if_false, size,
      if_pos bounds]

theorem mem_toString {n : Int} {c : Char} (there : c ∈ (toString n).toList) : c = '-' ∨ c.isDigit = true := by
  rw [toList_toString] at there
  rcases List.mem_append.1 there with sign | digit
  · split at sign
    · exact Or.inl (List.mem_singleton.1 sign)
    · cases sign
  · exact Or.inr (Nat.isDigit_of_mem_toDigits (by decide) (by decide) digit)

theorem numeric_toString (n : Int) : Numeric (toString n) := by
  refine ⟨?_, ?_⟩
  · intro empty
    have none := toList_toString n
    rw [empty] at none
    exact absurd (List.append_eq_nil_iff.1 none.symm).2 Nat.toDigits_ne_nil
  · intro c there
    rcases mem_toString there with rfl | digit
    · rfl
    · exact isNumeric_of_isDigit digit

/-! ## Decimal fractions -/

theorem isNumeric_of_readExponent? {cs : List Char} {power : Int}
    (value : Decimal.readExponent? cs = some power) : ∀ c ∈ cs, isNumeric c = true := by
  unfold Decimal.readExponent? at value
  split at value
  · exact List.forall_mem_nil _
  · next c cs =>
    by_cases mark : c = 'e' ∨ c = 'E'
    · have first : isNumeric c = true := by rcases mark with rfl | rfl <;> rfl
      refine List.forall_mem_cons.2 ⟨first, isNumeric_of_splitSign fun c there => isNumeric_of_isDigit ?_⟩
      rw [if_pos mark] at value
      cases digits : readDigits? (splitSign cs).2 with
      | none =>
        simp only [digits] at value
        cases value
      | some n => exact isDigit_of_readDigits? digits c there
    · rw [if_neg mark] at value
      cases value

theorem isNumeric_of_mem_takeWhile {cs : List Char} : ∀ c ∈ cs.takeWhile Char.isDigit, isNumeric c = true :=
  fun _ there => isNumeric_of_isDigit (List.mem_takeWhile_imp there)

theorem Decimal.isNumeric_of_read? {cs : List Char} {d : Decimal} (value : Decimal.read? cs = some d) :
    ∀ c ∈ cs, isNumeric c = true := by
  refine isNumeric_of_splitSign ?_
  unfold Decimal.read? at value
  dsimp only at value
  rw [← List.takeWhile_append_dropWhile (p := Char.isDigit) (l := (splitSign cs).2)]
  refine List.forall_mem_append.2 ⟨isNumeric_of_mem_takeWhile, ?_⟩
  generalize (splitSign cs).2.dropWhile Char.isDigit = behind at value ⊢
  split at value
  · next digits power read exponent =>
    split at exponent
    · next rest =>
      rw [← List.takeWhile_append_dropWhile (p := Char.isDigit) (l := rest)]
      exact List.forall_mem_cons.2 ⟨rfl, List.forall_mem_append.2
        ⟨isNumeric_of_mem_takeWhile, isNumeric_of_readExponent? exponent⟩⟩
    · exact isNumeric_of_readExponent? exponent
  · cases value

namespace Binary64

theorem isNumeric_of_named {cs : List Char} {name : String} (letters : name.toList.all Char.isAlpha = true)
    (named : String.ofList (cs.map Char.toLower) = name) : ∀ c ∈ cs, isNumeric c = true := by
  intro c there
  have chars : name.toList = cs.map Char.toLower := by rw [← named, String.toList_ofList]
  have letter : c.toLower.isAlpha = true :=
    List.all_eq_true.1 letters _ (chars ▸ List.mem_map_of_mem there)
  have alpha : c.isAlpha = true := by
    unfold Char.toLower at letter
    split at letter
    · next upper => exact Bool.or_eq_true_iff.2 (Or.inl (decide_eq_true upper))
    · exact letter
  simp [isNumeric, Char.isAlphanum, alpha]

theorem isNumeric_of_read? {text : String} {x : Binary64} (value : read? text = some x) :
    ∀ c ∈ text.toList, isNumeric c = true := by
  unfold read? at value
  split at value
  · next d decimal => exact Decimal.isNumeric_of_read? decimal
  · refine isNumeric_of_splitSign ?_
    dsimp only at value
    split at value
    · next infinite =>
      rcases infinite with named | named
      · exact isNumeric_of_named (by decide) named
      · exact isNumeric_of_named (by decide) named
    · split at value
      · next named => exact isNumeric_of_named (by decide) named
      · cases value

/-! ## Numeric numbers -/

theorem numeric_positional {digits : List Char} (some_digit : digits ≠ [])
    (all : ∀ c ∈ digits, c.isDigit = true) (before : Int) : Numeric (positional digits before) := by
  have numeric : ∀ c ∈ digits, isNumeric c = true := fun c there => isNumeric_of_isDigit (all c there)
  have front : Numeric "0." := numeric_of_all (by decide) (by decide)
  have point : Numeric "." := numeric_of_all (by decide) (by decide)
  have zeros (n : Nat) : ∀ c ∈ List.replicate n '0', isNumeric c = true := fun c there =>
    (List.mem_replicate.1 there).2 ▸ rfl
  unfold positional Numeric
  split
  · refine ⟨by simp, ?_⟩
    simp only [String.toList_append, String.toList_ofList, List.forall_mem_append]
    exact ⟨front.2, zeros _, numeric⟩
  · split
    · refine ⟨by simp [some_digit], ?_⟩
      simp only [String.toList_ofList, List.forall_mem_append]
      exact ⟨numeric, zeros _⟩
    · refine ⟨by simp, ?_⟩
      simp only [String.toList_append, String.toList_ofList, List.forall_mem_append]
      refine ⟨⟨?_, point.2⟩, ?_⟩
      · exact fun c there => numeric c (List.mem_of_mem_take there)
      · exact fun c there => numeric c (List.mem_of_mem_drop there)

theorem numeric_signed {text : String} (h : Numeric text) (negative : Bool) : Numeric (signed negative text) := by
  cases negative with
  | false => exact h
  | true =>
    have minus : Numeric "-" := numeric_of_all (by decide) (by decide)
    refine ⟨by simp [Binary64.signed], ?_⟩
    rw [Binary64.signed, if_pos rfl, String.toList_append]
    exact List.forall_mem_append.2 ⟨minus.2, h.2⟩

theorem numeric_plain (x : Binary64) : Numeric x.plain := by
  cases x with
  | nan => exact numeric_of_all (by decide) (by decide)
  | infinite negative =>
    have name : Numeric "inf" := numeric_of_all (by decide) (by decide)
    exact numeric_signed name negative
  | finite negative m e =>
    rw [plain]
    by_cases zero : m = 0
    · have digit : Numeric "0" := numeric_of_all (by decide) (by decide)
      rw [if_pos zero]
      exact numeric_signed digit negative
    · rw [if_neg zero]
      refine numeric_signed (numeric_positional Nat.toDigits_ne_nil ?_ _) negative
      exact fun c there => Nat.isDigit_of_mem_toDigits (by decide) (by decide) there

end Binary64

end DurableQueue
