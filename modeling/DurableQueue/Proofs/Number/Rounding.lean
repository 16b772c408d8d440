import DurableQueue.Proofs.Number.Decimal
import Mathlib.Algebra.Group.Int.Defs
import Mathlib.Algebra.Group.Nat.Defs

/-!
# Whole numbers as floating-point numbers

A whole number of 64 bits that is read as a floating-point number keeps 53 of its bits. From `2 ^ 63` on the
last eleven are lost, so what is read is the nearest multiple of `2 ^ 11` (`Binary64.toNat_ofDecimal`). That is the
number itself only if it is such a multiple (`Binary64.roundHalfEven_mul_eq_iff`), and it is never further away
than half of `2 ^ 11` (`Binary64.roundHalfEven_bounds`).
-/

namespace DurableQueue.Binary64

/-! ## Rounding to a multiple -/

/-- A rounded fraction is not more than one half away. -/
theorem roundHalfEven_bounds {den : Nat} (positive : 0 < den) (num : Nat) :
    2 * num ≤ 2 * (den * roundHalfEven num den) + den ∧ 2 * (den * roundHalfEven num den) ≤ 2 * num + den := by
  have split := Nat.div_add_mod num den
  have below := Nat.mod_lt num positive
  have next : den * (num / den + 1) = den * (num / den) + den := Nat.mul_succ den (num / den)
  unfold roundHalfEven
  dsimp only
  split
  · omega
  · split
    · omega
    · split <;> omega

/-- Only a multiple stays as it is. -/
theorem roundHalfEven_mul_eq_iff {den : Nat} (positive : 0 < den) (num : Nat) :
    den * roundHalfEven num den = num ↔ den ∣ num := by
  constructor
  · exact fun same => ⟨_, same.symm⟩
  · rintro ⟨q, rfl⟩
    have none := Nat.mul_mod_right den q
    have whole := Nat.mul_div_cancel_left q positive
    unfold roundHalfEven
    dsimp only
    rw [none, whole, if_pos (by omega)]

/-! ## Sixty-four bits -/

section Bits

variable {n : Nat} (least : 2 ^ 63 ≤ n) (most : n < 2 ^ 64)

include least most

theorem exponentOf_of_bits : exponentOf n 1 = 11 := by
  have bits : Nat.log2 n = 63 := (Nat.log2_eq_iff (by omega)).2 ⟨least, most⟩
  have guess : (Nat.log2 n : Int) - Nat.log2 1 - 52 = 11 := by
    rw [bits]
    rfl
  have step : scaled n 1 11 = (n, 2048) := rfl
  have kept : ¬ n / 2048 < Nat.pow 2 52 := by
    rw [Nat.pow_eq]
    omega
  unfold exponentOf
  rw [guess]
  dsimp only
  rw [step]
  dsimp only
  rw [if_neg kept]
  rfl

/-- Rounded up to the next power of two, the number has one bit more, and a greater exponent instead. -/
theorem roundRatio_of_bits : roundRatio false n 1 =
    if roundHalfEven n 2048 = 2 ^ 53 then finite false (2 ^ 52) 12 else finite false (roundHalfEven n 2048) 11 := by
  have step : scaled n 1 11 = (n, 2048) := rfl
  unfold roundRatio
  rw [if_neg (by omega), exponentOf_of_bits least most]
  dsimp only
  rw [step]
  dsimp only
  rw [Nat.pow_eq, Nat.pow_eq]
  by_cases carried : roundHalfEven n 2048 = 2 ^ 53
  · rw [if_pos carried, if_pos carried]
    rfl
  · rw [if_neg carried, if_neg carried]
    rfl

end Bits

/-- A multiple of a power of two is taken as it is, as long as there is room for it. -/
theorem toNat_toUInt64_finite (m e : Nat) :
    (finite false m e).toUInt64.toNat = min (m * 2 ^ e) (2 ^ 64 - 1) := by
  have whole (num : Nat) : roundHalfUp num 1 = num := by
    unfold roundHalfUp
    omega
  unfold toUInt64
  dsimp only
  rw [if_neg (by decide), if_pos (Int.natCast_nonneg e)]
  dsimp only
  rw [Int.toNat_natCast, Nat.pow_eq, whole, UInt64.toNat_ofNat', UInt64.size]
  exact Nat.mod_eq_of_lt (by omega)

/-! ## Reading -/

theorem ofDecimal_natural (n : Nat) : ofDecimal ⟨false, n, 0⟩ = roundRatio false n 1 := by
  unfold ofDecimal
  dsimp only
  by_cases zero : n = 0
  · rw [if_pos zero, roundRatio, if_pos zero]
  · rw [if_neg zero, if_neg (by decide), if_neg (by omega), if_pos (by decide)]
    rw [show Nat.pow 10 (0 : Int).toNat = 1 from rfl, Nat.mul_one]

/-- What is read of a number that needs all of the 64 bits. -/
theorem toNat_ofDecimal {n : Nat} (least : 2 ^ 63 ≤ n) (most : n < 2 ^ 64) :
    (ofDecimal ⟨false, n, 0⟩).toUInt64.toNat = min (2048 * roundHalfEven n 2048) (2 ^ 64 - 1) := by
  rw [ofDecimal_natural, roundRatio_of_bits least most]
  by_cases carried : roundHalfEven n 2048 = 2 ^ 53
  · rw [if_pos carried, carried]
    exact toNat_toUInt64_finite (2 ^ 52) 12
  · rw [if_neg carried, Nat.mul_comm 2048]
    exact toNat_toUInt64_finite (roundHalfEven n 2048) 11

end DurableQueue.Binary64
