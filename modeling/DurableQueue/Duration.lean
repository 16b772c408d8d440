/-!
# Lengths of time

A length of time is a number of nanoseconds whose whole seconds fit into 64 bits. Doubling one is refused
where there is no room for the result.
-/

namespace DurableQueue

/-- A length of time. -/
structure Duration where
  nanoseconds : Nat
  hasRoom : nanoseconds < UInt64.size * 1000000000
  deriving DecidableEq, Repr

namespace Duration

instance : LE Duration := ⟨fun a b => a.nanoseconds ≤ b.nanoseconds⟩

instance : DecidableLE Duration := fun a b => Nat.decLe a.nanoseconds b.nanoseconds

instance : Min Duration := minOfLe

/-- Some milliseconds. There is room for every number of them. -/
def ofMillis (millis : UInt64) : Duration where
  nanoseconds := 1000000 * millis.toNat
  hasRoom := by
    have small := millis.toNat_lt
    unfold UInt64.size
    omega

/-- Twice a length of time, if there is room for it. -/
def double? (d : Duration) : Option Duration :=
  if h : 2 * d.nanoseconds < UInt64.size * 1000000000 then some ⟨2 * d.nanoseconds, h⟩ else none

/-- The whole milliseconds, as a word. -/
def millis (d : Duration) : UInt64 := UInt64.ofNat (d.nanoseconds / 1000000)

theorem le_iff {a b : Duration} : a ≤ b ↔ a.nanoseconds ≤ b.nanoseconds := Iff.rfl

@[simp] theorem nanoseconds_ofMillis (millis : UInt64) :
    (ofMillis millis).nanoseconds = 1000000 * millis.toNat := rfl

@[simp] theorem nanoseconds_min (a b : Duration) :
    (min a b).nanoseconds = min a.nanoseconds b.nanoseconds := by
  by_cases le : a ≤ b
  · rw [show min a b = a from if_pos le, Nat.min_eq_left le]
  · rw [show min a b = b from if_neg le, Nat.min_eq_right (Nat.le_of_not_le le)]

theorem double?_of_lt {d : Duration} (room : 2 * d.nanoseconds < UInt64.size * 1000000000) :
    d.double? = some ⟨2 * d.nanoseconds, room⟩ := dif_pos room

theorem nanoseconds_of_double? {d doubled : Duration} (h : d.double? = some doubled) :
    doubled.nanoseconds = 2 * d.nanoseconds := by
  unfold double? at h
  split at h
  · obtain rfl := Option.some.inj h
    rfl
  · cases h

end Duration

end DurableQueue
