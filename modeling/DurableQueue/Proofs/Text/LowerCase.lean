import DurableQueue.Text.LowerCase

/-!
# Text in lower case

No run of letters with a lower-case form reaches into the characters behind the capital letters of ASCII and
before those of Latin-1 (`isLow`). The small letters and the underscore are among them. A text of such
characters stays as it is (`lower_of_low`). So does every text that has been put in lower case
(`lower_lower`): no lower-case form is in a run itself.

The other way round, only a letter of ASCII has one as its lower-case form, but for the sign of the kelvin,
whose form is a k. What reads as a word of such letters in lower case is made of them (`isAlpha_of_lower`).
-/

namespace DurableQueue.Text

/-- Is the character behind the capital letters of ASCII and before those of Latin-1? -/
def isLow (c : Char) : Bool := 90 < c.toNat && c.toNat < 192

theorem isLow_iff {c : Char} : isLow c = true ↔ 90 < c.toNat ∧ c.toNat < 192 := by
  simp [isLow]

theorem isLow_of_letter {c : Char} (letter : 'a' ≤ c ∧ c ≤ 'z') : isLow c = true := by
  obtain ⟨from_a, to_z⟩ := letter
  have from_a : 97 ≤ c.toNat := from_a
  have to_z : c.toNat ≤ 122 := to_z
  exact isLow_iff.2 ⟨by omega, by omega⟩

theorem caseRuns_outside : ∀ run ∈ caseRuns, run.last ≤ 90 ∨ 192 ≤ run.first := by
  decide +kernel

theorem find?_caseRuns_of_low {c : Char} (low : isLow c = true) : caseRuns.find? (·.covers c.toNat) = none := by
  refine List.find?_eq_none.2 fun run there => ?_
  obtain ⟨above, below⟩ := isLow_iff.1 low
  unfold CaseRun.covers
  rcases caseRuns_outside run there with before | after
  · simp only [Bool.and_eq_true, decide_eq_true_eq]
    omega
  · simp only [Bool.and_eq_true, decide_eq_true_eq]
    omega

/-- The character is its own lower-case form, wherever it stands. -/
def Settled (c : Char) : Prop := c ≠ '\u0130' ∧ caseRuns.find? (·.covers c.toNat) = none

theorem settled_of_low {c : Char} (low : isLow c = true) : Settled c := by
  refine ⟨?_, find?_caseRuns_of_low low⟩
  rintro rfl
  exact absurd low (by decide)

theorem caseRuns_first : ∀ run ∈ caseRuns, 65 ≤ run.first := by
  decide +kernel

/-- Digits, signs and points come before all letters. -/
theorem settled_of_lt {c : Char} (before : c.toNat < 65) : Settled c := by
  refine ⟨?_, List.find?_eq_none.2 fun run there => ?_⟩
  · rintro rfl
    exact absurd before (by decide)
  · have first := caseRuns_first run there
    simp only [CaseRun.covers, Bool.and_eq_true, decide_eq_true_eq]
    omega

theorem lowerBehind_of_settled {cs : List Char} (settled : ∀ c ∈ cs, Settled c) (before : List Char) :
    lowerBehind before cs = cs := by
  induction cs generalizing before with
  | nil => rfl
  | cons c cs ih =>
    obtain ⟨⟨not_dotted, uncovered⟩, later⟩ := List.forall_mem_cons.1 settled
    have not_sigma : c ≠ 'Σ' := by
      rintro rfl
      exact absurd uncovered (by decide)
    have same : lowerChar c = [c] := by rw [lowerChar, if_neg not_dotted, uncovered]
    rw [lowerBehind, if_neg not_sigma, same, ih later]
    rfl

theorem lower_of_settled {text : String} (settled : ∀ c ∈ text.toList, Settled c) : lower text = text := by
  rw [lower, lowerBehind_of_settled settled, String.ofList_toList]

theorem lower_of_low {text : String} (low : text.toList.all isLow = true) : lower text = text :=
  lower_of_settled fun c there => settled_of_low (List.all_eq_true.1 low c there)

theorem lowerChar_ne_nil (c : Char) : lowerChar c ≠ [] := by
  unfold lowerChar
  split
  · nofun
  · split <;> nofun

theorem lower_ne_empty {text : String} (given : text ≠ "") : lower text ≠ "" := by
  intro empty
  have none : lowerBehind [] text.toList = [] := by
    rw [← String.toList_ofList (l := lowerBehind [] text.toList)]
    exact String.toList_eq_nil_iff.2 empty
  cases chars : text.toList with
  | nil => exact given (String.toList_eq_nil_iff.1 chars)
  | cons c cs =>
    rw [chars, lowerBehind] at none
    have first := (List.append_eq_nil_iff.1 none).1
    split at first
    · cases first
    · exact lowerChar_ne_nil c first

/-! ## Lower case twice -/

/-- No lower-case form of the run is a letter of the other run: they lie apart, or between one another. -/
def CaseRun.avoids (run other : CaseRun) : Bool :=
  Nat.blt (run.image + (run.last - run.first)) other.first || Nat.blt other.last run.image ||
    (other.step == 2 && (run.step == 2 || run.first == run.last) && !(run.image % 2 == other.first % 2))

theorem caseRuns_avoid : caseRuns.all (fun run => caseRuns.all run.avoids) = true := by
  decide +kernel

theorem CaseRun.not_covers_of_avoids {run other : CaseRun} {n : Nat} (avoids : run.avoids other = true)
    (covers : run.covers n = true) : other.covers (run.image + (n - run.first)) = false := by
  simp only [CaseRun.avoids, CaseRun.covers, Bool.or_eq_true, Bool.and_eq_true, Nat.blt_eq, beq_iff_eq,
    decide_eq_true_eq, Bool.not_eq_true', beq_eq_false_iff_ne] at avoids covers
  refine Bool.eq_false_iff.2 fun again => ?_
  simp only [CaseRun.covers, Bool.and_eq_true, beq_iff_eq, decide_eq_true_eq] at again
  obtain ⟨⟨from_first, to_last⟩, in_step⟩ := covers
  obtain ⟨⟨from_other, to_other⟩, in_other⟩ := again
  rcases avoids with (before | after) | ⟨⟨by_two, steps | single⟩, parity⟩
  · omega
  · omega
  · rw [steps] at in_step
    rw [by_two] at in_other
    omega
  · rw [by_two] at in_other
    omega

/-- The capital I with a dot is not the lower-case form of anything. -/
theorem caseRuns_avoid_dotted : caseRuns.all (fun run => run.avoids ⟨0x130, 0x130, 1, 0⟩) = true := by
  decide +kernel

/-- What is no code point stands for the character of code 0. -/
theorem toNat_ofNat_eq_or (n : Nat) : (Char.ofNat n).toNat = n ∨ (Char.ofNat n).toNat = 0 := by
  by_cases valid : n.isValidChar
  · exact Or.inl (congrArg Char.toNat (dif_pos valid))
  · exact Or.inr (congrArg Char.toNat (dif_neg valid))

/-- The lower-case form of a letter in a run. -/
theorem settled_image {run : CaseRun} {n : Nat} (there : run ∈ caseRuns) (covers : run.covers n = true) :
    Settled (Char.ofNat (run.image + (n - run.first))) := by
  have avoid := List.all_eq_true.1 (List.all_eq_true.1 caseRuns_avoid run there)
  have dotted := CaseRun.not_covers_of_avoids (List.all_eq_true.1 caseRuns_avoid_dotted run there) covers
  rcases toNat_ofNat_eq_or (run.image + (n - run.first)) with code | code
  · refine ⟨?_, List.find?_eq_none.2 fun other is_run => ?_⟩
    · intro same
      rw [code.symm.trans (congrArg Char.toNat same)] at dotted
      exact absurd dotted (by decide)
    · rw [code, CaseRun.not_covers_of_avoids (avoid other is_run) covers]
      exact Bool.false_ne_true
  · exact settled_of_lt (by omega)

theorem settled_lowerChar (c : Char) : ∀ d ∈ lowerChar c, Settled d := by
  unfold lowerChar
  split
  · have mark : Settled '\u0307' := ⟨by decide, by decide +kernel⟩
    simp only [List.forall_mem_cons]
    exact ⟨settled_of_low (by decide), mark, List.forall_mem_nil _⟩
  · next not_dotted =>
    split
    · next run found =>
      have covers : run.covers c.toNat = true := (List.find?_eq_some_iff_append.1 found).1
      exact List.forall_mem_cons.2 ⟨settled_image (List.mem_of_find?_eq_some found) covers, List.forall_mem_nil _⟩
    · next uncovered => exact List.forall_mem_cons.2 ⟨⟨not_dotted, uncovered⟩, List.forall_mem_nil _⟩

theorem settled_lowerBehind (cs before : List Char) : ∀ d ∈ lowerBehind before cs, Settled d := by
  induction cs generalizing before with
  | nil => exact List.forall_mem_nil _
  | cons c cs ih =>
    refine List.forall_mem_append.2 ⟨?_, ih (c :: before)⟩
    split
    · refine List.forall_mem_cons.2 ⟨?_, List.forall_mem_nil _⟩
      unfold lowerSigma
      split
      · exact ⟨by decide, by decide +kernel⟩
      · exact ⟨by decide, by decide +kernel⟩
    · exact settled_lowerChar c

theorem settled_lower (text : String) : ∀ c ∈ (lower text).toList, Settled c := by
  rw [lower, String.toList_ofList]
  exact settled_lowerBehind _ _

/-- A text in lower case stays as it is. -/
theorem lower_lower (text : String) : lower (lower text) = lower text :=
  lower_of_settled (settled_lower text)

/-! ## Words in lower case -/

/-- A run outside the letters of ASCII leads outside them too, but for the sign of the kelvin. -/
theorem caseRuns_image : ∀ run ∈ caseRuns,
    (65 ≤ run.first ∧ run.last ≤ 90) ∨ 122 < run.image ∨ (run.last = run.first ∧ run.image = 'k'.toNat) := by
  decide +kernel

theorem isAlpha_iff {c : Char} :
    c.isAlpha = true ↔ (65 ≤ c.toNat ∧ c.toNat ≤ 90) ∨ (97 ≤ c.toNat ∧ c.toNat ≤ 122) := by
  have upper : c.isUpper = true ↔ 65 ≤ c.toNat ∧ c.toNat ≤ 90 := decide_eq_true_iff
  have lower : c.isLower = true ↔ 97 ≤ c.toNat ∧ c.toNat ≤ 122 := by
    show (decide _ && decide _) = true ↔ _
    rw [Bool.and_eq_true_iff, decide_eq_true_iff, decide_eq_true_iff]
    rfl
  exact Bool.or_eq_true_iff.trans (or_congr upper lower)

/-- A character whose lower-case form is a letter of ASCII is one. -/
theorem isAlpha_of_lowerChar {c : Char} (letters : ∀ d ∈ lowerChar c, d.isAlpha = true ∧ d ≠ 'k') :
    c.isAlpha = true := by
  unfold lowerChar at letters
  split at letters
  · exact absurd (letters '\u0307' (by simp)).1 (by decide)
  · split at letters
    · next run found =>
      obtain ⟨letter, not_k⟩ := letters _ (List.mem_singleton.2 rfl)
      have covers := List.find?_some found
      simp only [CaseRun.covers, Bool.and_eq_true, decide_eq_true_eq] at covers
      rcases caseRuns_image run (List.mem_of_find?_eq_some found) with ascii | beyond | kelvin
      · exact isAlpha_iff.2 (Or.inl ⟨by omega, by omega⟩)
      · have bounds := isAlpha_iff.1 letter
        have code := toNat_ofNat_eq_or (run.image + (c.toNat - run.first))
        omega
      · refine absurd ?_ not_k
        have same : c.toNat - run.first = 0 := by omega
        rw [same, kelvin.2]
        rfl
    · exact (letters c (List.mem_singleton.2 rfl)).1

theorem isAlpha_of_lowerBehind {before cs : List Char}
    (letters : ∀ d ∈ lowerBehind before cs, d.isAlpha = true ∧ d ≠ 'k') : ∀ c ∈ cs, c.isAlpha = true := by
  induction cs generalizing before with
  | nil => exact List.forall_mem_nil _
  | cons c cs ih =>
    obtain ⟨first, later⟩ := List.forall_mem_append.1 letters
    refine List.forall_mem_cons.2 ⟨?_, ih later⟩
    split at first
    · have small := (first _ (List.mem_singleton.2 rfl)).1
      unfold lowerSigma at small
      split at small <;> cases small
    · exact isAlpha_of_lowerChar first

/-- What is a word of letters in lower case is made of letters itself. -/
theorem isAlpha_of_lower {text word : String} (reads : lower text = word)
    (letters : ∀ d ∈ word.toList, d.isAlpha = true ∧ d ≠ 'k') : ∀ c ∈ text.toList, c.isAlpha = true := by
  rw [← reads, lower, String.toList_ofList] at letters
  exact isAlpha_of_lowerBehind letters

end DurableQueue.Text
