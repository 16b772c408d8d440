import DurableQueue.Proofs.Key.Order
import DurableQueue.Queue.Basic

/-!
# Keys in place of ids

The byte strings of eight bytes are the keys, each of one id, and any other byte string is refused with its length.
Comparing two keys from their first bytes on gives what comparing the ids gives (`compare_encode`). So a list that is
sorted by keys is sorted by ids, also where entries of one id have to stay in their order (`codec_isomorphic`).
-/

namespace DurableQueue

/-- The comparison of byte strings tells what their order is. -/
theorem Bytes.compare_eq_lt_iff {a b : Bytes} : compare a b = .lt ↔ a < b := by
  rw [List.compare_eq_compareLex]
  induction a generalizing b with
  | nil =>
    cases b with
    | nil => exact iff_of_false nofun (List.lt_irrefl [])
    | cons y ys => exact iff_of_true rfl (List.nil_lt_cons y ys)
  | cons x xs ih =>
    cases b with
    | nil => exact iff_of_false nofun (List.not_lt_nil _)
    | cons y ys =>
      rw [List.compareLex_cons_cons, Ordering.then_eq_lt, ih, List.cons_lt_cons_iff, Std.compare_eq_lt,
        Std.compare_eq_iff_eq]

namespace Key

/-- Keys compare as their ids do. -/
theorem compare_encode (a b : UInt64) : compare (encode a) (encode b) = compare a b := by
  cases order : compare a b with
  | lt => exact Bytes.compare_eq_lt_iff.2 (encode_lt_iff.2 (Std.compare_eq_lt.1 order))
  | eq =>
    rw [Std.compare_eq_iff_eq.1 order]
    exact Std.ReflOrd.compare_self
  | gt =>
    have less : b < a := Std.compare_eq_lt.1 (Std.OrientedCmp.gt_iff_lt.1 order)
    exact Std.OrientedCmp.gt_iff_lt.2 (Bytes.compare_eq_lt_iff.2 (encode_lt_iff.2 less))

/-! ## Reading keys -/

theorem idOfKey_encode (id : UInt64) : Queue.idOfKey (encode id) = .ok id := by
  rw [Queue.idOfKey, decode_encode]
  rfl

theorem eq_encode_of_idOfKey {key : Bytes} {id : UInt64} (read : Queue.idOfKey key = .ok id) :
    key = encode id := by
  cases decoded : decode key with
  | error n =>
    rw [Queue.idOfKey, decoded] at read
    cases read
  | ok found =>
    rw [Queue.idOfKey, decoded] at read
    obtain rfl := Except.ok.inj read
    exact eq_encode_of_decode decoded

theorem idOfKey_of_length_ne {key : Bytes} (other : key.length ≠ 8) :
    Queue.idOfKey key = .error (.keyDecode key.length) := by
  have refused : decode key = .error key.length := if_neg other
  rw [Queue.idOfKey, refused]
  rfl

theorem exists_idOfKey_iff {key : Bytes} : (∃ id, Queue.idOfKey key = .ok id) ↔ key.length = 8 := by
  constructor
  · rintro ⟨id, read⟩
    rw [eq_encode_of_idOfKey read, length_encode]
  · intro long
    have found : decode key = .ok (UInt64.ofNat (Bytes.ofBigEndian key)) := if_pos long
    refine ⟨UInt64.ofNat (Bytes.ofBigEndian key), ?_⟩
    rw [Queue.idOfKey, found]
    rfl

/-! ## Sorting by keys -/

/-- Sorting entries by the keys of their ids makes the decisions that sorting by the ids makes. -/
theorem mergeSort_encode {β : Type} (idOf : β → UInt64) (entries : List β) :
    entries.mergeSort (fun x y => decide (encode (idOf x) ≤ encode (idOf y))) =
      entries.mergeSort fun x y => decide (idOf x ≤ idOf y) := by
  have same : (fun x y => decide (encode (idOf x) ≤ encode (idOf y))) = fun x y => decide (idOf x ≤ idOf y) := by
    funext x y
    exact decide_eq_decide.2 encode_le_iff
  rw [same]

/-- There is one way to put ids into the order of their keys. -/
theorem sorted_encode_iff {ids sorted : List UInt64} :
    sorted.Perm ids ∧ sorted.Pairwise (fun a b => encode a ≤ encode b) ↔
      sorted = ids.mergeSort fun a b => decide (a ≤ b) := by
  have permuted := List.mergeSort_perm ids fun a b => decide (a ≤ b)
  have ascending : (ids.mergeSort fun a b => decide (a ≤ b)).Pairwise fun a b => encode a ≤ encode b := by
    have trans : ∀ a b c : UInt64, decide (a ≤ b) = true → decide (b ≤ c) = true → decide (a ≤ c) = true :=
      fun a b c ab bc => decide_eq_true (UInt64.le_trans (of_decide_eq_true ab) (of_decide_eq_true bc))
    have total : ∀ a b : UInt64, (decide (a ≤ b) || decide (b ≤ a)) = true := fun a b =>
      Bool.or_eq_true_iff.2 ((UInt64.le_total a b).imp decide_eq_true decide_eq_true)
    exact (List.pairwise_mergeSort trans total ids).imp fun le => encode_le_iff.2 (of_decide_eq_true le)
  constructor
  · rintro ⟨perm, sorted⟩
    refine List.Perm.eq_of_pairwise (fun a b _ _ ab ba => ?_) sorted ascending (perm.trans permuted.symm)
    exact UInt64.le_antisymm (encode_le_iff.1 ab) (encode_le_iff.1 ba)
  · rintro rfl
    exact ⟨permuted, ascending⟩

/-- Ids can be read back from their keys, and nothing else can be read; keys compare, and are sorted, as their ids
are. -/
theorem codec_isomorphic :
    (∀ id, Queue.idOfKey (encode id) = .ok id) ∧
    (∀ key id, Queue.idOfKey key = .ok id ↔ key = encode id) ∧
    (∀ key, Queue.idOfKey key = .error (.keyDecode key.length) ↔ key.length ≠ 8) ∧
    (∀ key, (∃ id, Queue.idOfKey key = .ok id) ↔ key.length = 8) ∧
    (∀ a b, compare (encode a) (encode b) = compare a b) ∧
    (∀ ids sorted : List UInt64, sorted.Perm ids ∧ sorted.Pairwise (fun a b => encode a ≤ encode b) ↔
      sorted = ids.mergeSort fun a b => decide (a ≤ b)) ∧
    ∀ (β : Type) (idOf : β → UInt64) (entries : List β),
      entries.mergeSort (fun x y => decide (encode (idOf x) ≤ encode (idOf y))) =
        entries.mergeSort fun x y => decide (idOf x ≤ idOf y) := by
  refine ⟨idOfKey_encode, fun key id => ⟨eq_encode_of_idOfKey, ?read⟩, fun key => ⟨?refused, idOfKey_of_length_ne⟩,
    fun key => exists_idOfKey_iff, compare_encode, fun ids sorted => sorted_encode_iff,
    fun β idOf entries => mergeSort_encode idOf entries⟩
  case read =>
    rintro rfl
    exact idOfKey_encode id
  case refused =>
    intro refused long
    obtain ⟨id, read⟩ := exists_idOfKey_iff.2 long
    rw [read] at refused
    cases refused

end Key

end DurableQueue
