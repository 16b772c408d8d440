import DurableQueue.Proofs.Key.Order
import DurableQueue.Proofs.Store.Extremes
import DurableQueue.Proofs.Queue.Outcomes
import DurableQueue.Proofs.Store.Lawful

/-!
# The live range and the stored keys

A table spans the ids above `head` and up to `tail` when its keys are exactly the keys of these ids.
Opening such a table works and finds the two ends (`Queue.ofStore_eq`), except that an empty span is
found as the one from 0 to 0.
-/

namespace DurableQueue

/-! ## Spans -/

/-- The keys of the table are exactly those of the ids in a set. -/
def Table.HasKeys (t : Table) (ids : UInt64 → Prop) : Prop :=
  ∀ key, (t.get? key).isSome ↔ ∃ id, ids id ∧ key = Key.encode id

/-- The keys of the table are exactly those of the ids above `head` and up to `tail`. -/
structure Spans (t : Table) (head tail : UInt64) : Prop where
  le : head ≤ tail
  keys : t.HasKeys fun id => head < id ∧ id ≤ tail

theorem Table.HasKeys.isSome_iff {t : Table} {ids : UInt64 → Prop} (h : t.HasKeys ids)
    (id : UInt64) : (t.get? (Key.encode id)).isSome ↔ ids id := by
  rw [h]
  constructor
  · rintro ⟨i, live, same⟩
    rwa [Key.encode_injective same]
  · intro live
    exact ⟨id, live, rfl⟩

theorem Table.HasKeys.congr {t : Table} {ids ids' : UInt64 → Prop} (h : t.HasKeys ids)
    (same : ∀ id, ids id ↔ ids' id) : t.HasKeys ids' := by
  intro key
  rw [h key]
  simp only [same]

namespace Spans

variable {t : Table} {head tail : UInt64}

theorem isSome_iff (h : Spans t head tail) (id : UInt64) :
    (t.get? (Key.encode id)).isSome ↔ head < id ∧ id ≤ tail := h.keys.isSome_iff id

/-- A live id has a payload. -/
theorem exists_get? (h : Spans t head tail) {id : UInt64} (above : head < id) (upto : id ≤ tail) :
    ∃ value, t.get? (Key.encode id) = some value :=
  Option.isSome_iff_exists.1 ((h.isSome_iff id).2 ⟨above, upto⟩)

/-! ### Extremes -/

theorem isSome_front (h : Spans t head tail) (something : head < tail) :
    (t.get? (Key.encode (head + 1))).isSome := by
  have next := Queue.toNat_succ_of_lt something
  rw [h.isSome_iff, UInt64.lt_iff_toNat_lt, UInt64.le_iff_toNat_le, next]
  rw [UInt64.lt_iff_toNat_lt] at something
  exact ⟨Nat.lt_succ_self _, something⟩

theorem firstKey?_eq (h : Spans t head tail) (something : head < tail) :
    t.firstKey? = some (Key.encode (head + 1)) := by
  rw [Table.firstKey?_eq_some_iff]
  refine ⟨h.isSome_front something, ?_⟩
  intro key stored
  obtain ⟨id, ⟨above, -⟩, rfl⟩ := (h.keys key).1 stored
  rw [UInt64.lt_iff_toNat_lt] at above
  rw [Key.encode_le_iff, UInt64.le_iff_toNat_le, Queue.toNat_succ_of_lt something]
  exact above

theorem lastKey?_eq (h : Spans t head tail) (something : head < tail) :
    t.lastKey? = some (Key.encode tail) := by
  rw [Table.lastKey?_eq_some_iff, h.isSome_iff]
  refine ⟨⟨something, UInt64.le_refl tail⟩, ?_⟩
  intro key stored
  obtain ⟨id, ⟨-, upto⟩, rfl⟩ := (h.keys key).1 stored
  exact Key.encode_le_iff.2 upto

/-- An id that is not live has none. -/
theorem get?_eq_none_of_out (h : Spans t head tail) {id : UInt64} (out : id ≤ head ∨ tail < id) :
    t.get? (Key.encode id) = none := by
  rw [← Option.not_isSome_iff_eq_none, h.isSome_iff, Classical.not_and_iff_not_or_not, UInt64.not_lt, UInt64.not_le]
  exact out

theorem get?_eq_none (h : Spans t head tail) (nothing : head = tail) (key : Bytes) :
    t.get? key = none := by
  rw [← Option.not_isSome_iff_eq_none, h.keys key]
  rintro ⟨id, ⟨above, upto⟩, -⟩
  rw [nothing] at above
  exact absurd upto (UInt64.not_le.2 above)

/-- The extreme keys are those of the ends of the span, if there is anything in it. -/
theorem extremes (h : Spans t head tail) :
    t.firstKey? = (if head = tail then none else some (head + 1)).map Key.encode ∧
      t.lastKey? = (if head = tail then none else some tail).map Key.encode := by
  by_cases nothing : head = tail
  · rw [if_pos nothing, if_pos nothing]
    exact ⟨Table.firstKey?_eq_none_iff.2 (h.get?_eq_none nothing),
      Table.lastKey?_eq_none_iff.2 (h.get?_eq_none nothing)⟩
  · have something := UInt64.lt_of_le_of_ne h.le nothing
    rw [if_neg nothing, if_neg nothing]
    exact ⟨h.firstKey?_eq something, h.lastKey?_eq something⟩

end Spans

/-! ## Opening -/

/-- The counters that opening finds for a span: nothing tells an empty span from the one at 0. -/
def foundCounters (head tail : UInt64) : UInt64 × UInt64 :=
  if head = tail then (0, 0) else (head, tail)

namespace Queue

/-- The id after one that is not the last is not 0, and the id before it is that one. -/
theorem succ_of_lt {head tail : UInt64} (something : head < tail) :
    head + 1 ≠ 0 ∧ head + 1 - 1 = head :=
  ⟨add_one_ne_zero (ne_greatestId_of_lt something), UInt64.add_sub_cancel head 1⟩

/-- Reading the id behind the key of an id, if there is one. -/
theorem storedId_eq {σ : Type} {call : σ → Except StoreError (Option Bytes) × σ} {s s' : σ}
    {id? : Option UInt64} (asked : call s = (.ok (id?.map Key.encode), s')) :
    storedId call s = (.ok id?, s') := by
  unfold storedId idOfKey
  rw [asked]
  cases id? with
  | none => rfl
  | some id =>
    dsimp only [Option.map]
    rw [Key.decode_encode]
    rfl

/-- Opening a table that spans a range of ids works and finds the range. -/
theorem ofStore_eq {t : Table} {head tail : UInt64} (h : Spans t head tail) (location : String) :
    ofStore location t =
      (.ok ⟨location, true, (foundCounters head tail).1, (foundCounters head tail).2⟩, t,
        [.opened location (foundCounters head tail).1 (foundCounters head tail).2
          ((foundCounters head tail).2 - (foundCounters head tail).1)]) := by
  have first : storedId OrderedStore.firstKey t =
      (.ok (if head = tail then none else some (head + 1)), t) := by
    apply storedId_eq
    rw [← h.extremes.1]
    rfl
  have last : storedId OrderedStore.lastKey t =
      (.ok (if head = tail then none else some tail), t) := by
    apply storedId_eq
    rw [← h.extremes.2]
    rfl
  unfold ofStore recover foundCounters
  rw [first]
  dsimp only
  rw [last]
  by_cases nothing : head = tail
  · rw [if_pos nothing, if_pos nothing, if_pos nothing]
    rfl
  · obtain ⟨pos, below⟩ := succ_of_lt (UInt64.lt_of_le_of_ne h.le nothing)
    rw [if_neg nothing, if_neg nothing, if_neg nothing]
    dsimp only
    rw [if_neg pos, below]
    rfl

end Queue

end DurableQueue
