import DurableQueue.Proofs.Queue.Span

/-!
# The items in a table

A table stores a list of items if its entries are exactly these items and their ids are those above
`head` and up to `tail`, in order. `Stores.added`, `Stores.taken` and `Stores.replaced` follow the list
through the three changes that a queue makes, and `Stores.find?_eq` and `Stores.getElem?_eq` tell its
elements by look-ups in the table. Every table that spans a range stores some list
(`Spans.exists_stores`).
-/

namespace DurableQueue

/-! ## Consecutive ids -/

/-- The ids of the items follow one another, from the one after `head` up to `tail`. -/
def Consecutive : UInt64 → List (UInt64 × Bytes) → UInt64 → Prop
  | head, [], tail => head = tail
  | head, (id, _) :: rest, tail => id.toNat = head.toNat + 1 ∧ Consecutive id rest tail

/-- The items with another payload for one id. -/
def revalued (id : UInt64) (value : Bytes) (items : List (UInt64 × Bytes)) : List (UInt64 × Bytes) :=
  items.map fun item => if item.1 = id then (id, value) else item

namespace Consecutive

variable {head tail : UInt64} {items : List (UInt64 × Bytes)}

theorem toNat_tail (h : Consecutive head items tail) :
    tail.toNat = head.toNat + items.length := by
  induction items generalizing head with
  | nil => exact (congrArg UInt64.toNat h).symm
  | cons item rest ih =>
    have := ih h.2
    rw [List.length_cons, this, h.1]
    omega

theorem le (h : Consecutive head items tail) : head ≤ tail := by
  rw [UInt64.le_iff_toNat_le, h.toNat_tail]
  omega

theorem eq_nil_iff (h : Consecutive head items tail) : items = [] ↔ head = tail := by
  rw [← UInt64.toNat_inj, h.toNat_tail, ← List.length_eq_zero_iff]
  omega

/-- The id at a place. -/
theorem toNat_getElem (h : Consecutive head items tail) {i : Nat} (inside : i < items.length) :
    items[i].1.toNat = head.toNat + i + 1 := by
  induction items generalizing head i with
  | nil => exact absurd inside (Nat.not_lt_zero i)
  | cons item rest ih =>
    cases i with
    | zero => exact h.1
    | succ i =>
      have := ih h.2 (Nat.lt_of_succ_lt_succ inside)
      rw [List.getElem_cons_succ, this, h.1]
      omega

theorem live_of_mem (h : Consecutive head items tail) {id : UInt64} {value : Bytes}
    (mem : (id, value) ∈ items) : head < id ∧ id ≤ tail := by
  obtain ⟨i, inside, at_i⟩ := List.mem_iff_getElem.1 mem
  have place := h.toNat_getElem inside
  rw [at_i] at place
  rw [UInt64.lt_iff_toNat_lt, UInt64.le_iff_toNat_le, h.toNat_tail]
  dsimp only at place
  omega

theorem exists_mem (h : Consecutive head items tail) {id : UInt64} (above : head < id)
    (upto : id ≤ tail) : ∃ value, (id, value) ∈ items := by
  rw [UInt64.lt_iff_toNat_lt] at above
  rw [UInt64.le_iff_toNat_le, h.toNat_tail] at upto
  have inside : id.toNat - head.toNat - 1 < items.length := by omega
  have place := h.toNat_getElem inside
  have same : items[id.toNat - head.toNat - 1].1 = id := by
    rw [← UInt64.toNat_inj, place]
    omega
  exact ⟨_, List.mem_iff_getElem.2 ⟨_, inside, Prod.ext same rfl⟩⟩

theorem ne_nil (h : Consecutive head items tail) {id : UInt64} (above : head < id)
    (upto : id ≤ tail) : items ≠ [] := by
  intro nil
  have something := UInt64.lt_of_lt_of_le above upto
  rw [h.eq_nil_iff.1 nil] at something
  exact UInt64.lt_irrefl tail something

theorem concat (h : Consecutive head items tail) (room : tail ≠ greatestId) (value : Bytes) :
    Consecutive head (items ++ [(tail + 1, value)]) (tail + 1) := by
  induction items generalizing head with
  | nil =>
    obtain rfl : head = tail := h
    exact ⟨toNat_add_one room, rfl⟩
  | cons item rest ih => exact ⟨h.1, ih h.2⟩

theorem revalued (h : Consecutive head items tail) (id : UInt64) (value : Bytes) :
    Consecutive head (revalued id value items) tail := by
  induction items generalizing head with
  | nil => exact h
  | cons item rest ih =>
    unfold DurableQueue.revalued
    rw [List.map_cons]
    by_cases same : item.1 = id
    · subst same
      rw [if_pos rfl]
      exact ⟨h.1, ih h.2⟩
    · rw [if_neg same]
      exact ⟨h.1, ih h.2⟩

end Consecutive

/-! ## Stored items -/

/-- The entries of the table are exactly the items, each under the key of its id. -/
def Table.Holds (t : Table) (items : List (UInt64 × Bytes)) : Prop :=
  ∀ key value, t.get? key = some value ↔ ∃ id, (id, value) ∈ items ∧ key = Key.encode id

/-- The table holds exactly the items, and their ids are those above `head` and up to `tail`. -/
structure Stores (t : Table) (head tail : UInt64) (items : List (UInt64 × Bytes)) : Prop where
  consecutive : Consecutive head items tail
  holds : t.Holds items

theorem Table.Holds.get?_encode_iff {t : Table} {items : List (UInt64 × Bytes)} (h : t.Holds items)
    {id : UInt64} {value : Bytes} : t.get? (Key.encode id) = some value ↔ (id, value) ∈ items := by
  rw [h]
  constructor
  · rintro ⟨i, mem, same⟩
    rwa [Key.encode_injective same]
  · intro mem
    exact ⟨id, mem, rfl⟩

/-- An item whose id comes once only is erased with its key. -/
theorem Table.Holds.erased {t : Table} {id : UInt64} {value : Bytes} {items : List (UInt64 × Bytes)}
    (h : t.Holds ((id, value) :: items)) (once : ∀ payload, (id, payload) ∉ items) :
    (t.erase (Key.encode id)).Holds items := by
  intro key payload
  rw [Table.get?_erase]
  by_cases same : key = Key.encode id
  · rw [if_pos same]
    apply iff_of_false nofun
    rintro ⟨i, mem, again⟩
    rw [← Key.encode_injective (same.symm.trans again)] at mem
    exact once payload mem
  · rw [if_neg same, h]
    constructor
    · rintro ⟨i, mem, rfl⟩
      rcases List.mem_cons.1 mem with first | mem
      · exact absurd (congrArg Key.encode (Prod.mk.inj first).1) same
      · exact ⟨i, mem, rfl⟩
    · rintro ⟨i, mem, rfl⟩
      exact ⟨i, List.mem_cons_of_mem _ mem, rfl⟩

namespace Stores

variable {t : Table} {head tail : UInt64} {items : List (UInt64 × Bytes)}

theorem spans (h : Stores t head tail items) : Spans t head tail := by
  refine ⟨h.consecutive.le, ?_⟩
  intro key
  rw [Option.isSome_iff_exists]
  constructor
  · rintro ⟨value, found⟩
    obtain ⟨id, mem, same⟩ := (h.holds key value).1 found
    exact ⟨id, h.consecutive.live_of_mem mem, same⟩
  · rintro ⟨id, ⟨above, upto⟩, rfl⟩
    obtain ⟨value, mem⟩ := h.consecutive.exists_mem above upto
    exact ⟨value, h.holds.get?_encode_iff.2 mem⟩

/-- The empty table stores no items, whatever the counters. -/
theorem empty (head : UInt64) : Stores .empty head head [] := by
  refine ⟨rfl, ?_⟩
  intro key value
  rw [Table.get?_empty]
  apply iff_of_false nofun
  rintro ⟨id, mem, -⟩
  cases mem

/-! ### Look-ups -/

/-- The front of the list is the one above `head`. -/
theorem exists_front (h : Stores t head tail items) (something : head < tail) :
    ∃ value rest, items = (head + 1, value) :: rest ∧ t.get? (Key.encode (head + 1)) = some value := by
  cases items with
  | nil => exact absurd something (h.consecutive ▸ UInt64.lt_irrefl head)
  | cons item rest =>
    obtain ⟨id, value⟩ := item
    obtain rfl : id = head + 1 := by
      rw [← UInt64.toNat_inj, Queue.toNat_succ_of_lt something]
      exact h.consecutive.1
    exact ⟨value, rest, rfl, h.holds.get?_encode_iff.2 List.mem_cons_self⟩

theorem find?_eq (h : Stores t head tail items) (id : UInt64) :
    items.find? (·.1 = id) = (t.get? (Key.encode id)).map (id, ·) := by
  cases found : t.get? (Key.encode id) with
  | none =>
    apply List.find?_eq_none.2
    intro item mem same
    have := h.holds.get?_encode_iff.2 mem
    rw [of_decide_eq_true same, found] at this
    cases this
  | some value =>
    have mem := h.holds.get?_encode_iff.1 found
    cases first : items.find? (·.1 = id) with
    | none => exact absurd (decide_eq_true rfl) (List.find?_eq_none.1 first (id, value) mem)
    | some item =>
      have same : item.1 = id := by simpa only [decide_eq_true_eq] using List.find?_some first
      have again := h.holds.get?_encode_iff.2 (List.mem_of_find?_eq_some first)
      rw [same, found] at again
      exact congrArg some (Prod.ext same (Option.some.inj again).symm)

theorem getElem?_eq (h : Stores t head tail items) {id : UInt64} {i : Nat}
    (place : id.toNat = head.toNat + i + 1) :
    items[i]? = (t.get? (Key.encode id)).map (id, ·) := by
  by_cases inside : i < items.length
  · have same : items[i].1 = id := by
      rw [← UInt64.toNat_inj, h.consecutive.toNat_getElem inside, place]
    have found : t.get? (Key.encode items[i].1) = some items[i].2 :=
      h.holds.get?_encode_iff.2 (List.getElem_mem inside)
    rw [same] at found
    rw [List.getElem?_eq_getElem inside, found]
    exact congrArg some (Prod.ext same rfl)
  · rw [List.getElem?_eq_none (Nat.not_lt.1 inside)]
    cases found : t.get? (Key.encode id) with
    | none => rfl
    | some value =>
      have live := h.consecutive.live_of_mem (h.holds.get?_encode_iff.1 found)
      rw [UInt64.le_iff_toNat_le, h.consecutive.toNat_tail] at live
      omega

/-- The items between the counters that opening finds are the same. -/
theorem found (h : Stores t head tail items) :
    Stores t (foundCounters head tail).1 (foundCounters head tail).2 items := by
  unfold foundCounters
  by_cases nothing : head = tail
  · obtain rfl := h.consecutive.eq_nil_iff.2 nothing
    rw [if_pos nothing]
    exact ⟨rfl, h.holds⟩
  · rw [if_neg nothing]
    exact h

/-! ### Changes -/

theorem added (h : Stores t head tail items) (room : tail ≠ greatestId) (value : Bytes) :
    Stores (t.insert (Key.encode (tail + 1)) value) head (tail + 1)
      (items ++ [(tail + 1, value)]) := by
  refine ⟨h.consecutive.concat room value, ?_⟩
  intro key payload
  simp only [Table.get?_insert, List.mem_append, List.mem_singleton]
  by_cases same : key = Key.encode (tail + 1)
  · rw [if_pos same, Option.some.injEq]
    constructor
    · rintro rfl
      exact ⟨tail + 1, Or.inr rfl, same⟩
    · rintro ⟨id, mem | last, again⟩
      · -- the new id is not one of those before
        have upto := (h.consecutive.live_of_mem mem).2
        rw [← Key.encode_injective (same.symm.trans again), UInt64.le_iff_toNat_le,
          toNat_add_one room] at upto
        omega
      · exact (Prod.mk.inj last).2.symm
  · rw [if_neg same, h.holds]
    constructor
    · rintro ⟨id, mem, again⟩
      exact ⟨id, Or.inl mem, again⟩
    · rintro ⟨id, mem | last, rfl⟩
      · exact ⟨id, mem, rfl⟩
      · exact absurd (congrArg Key.encode (Prod.mk.inj last).1) same

theorem taken {id : UInt64} {value : Bytes} (h : Stores t head tail ((id, value) :: items)) :
    Stores (t.erase (Key.encode id)) id tail items := by
  refine ⟨h.consecutive.2, h.holds.erased ?_⟩
  -- the ids that stay are above the one that goes
  intro payload mem
  exact UInt64.lt_irrefl id (Consecutive.live_of_mem h.consecutive.2 mem).1

theorem replaced (h : Stores t head tail items) {id : UInt64} (above : head < id) (upto : id ≤ tail)
    (value : Bytes) :
    Stores (t.insert (Key.encode id) value) head tail (revalued id value items) := by
  refine ⟨h.consecutive.revalued id value, ?_⟩
  intro key payload
  simp only [Table.get?_insert, revalued, List.mem_map, Prod.exists]
  by_cases same : key = Key.encode id
  · rw [if_pos same, Option.some.injEq]
    constructor
    · rintro rfl
      obtain ⟨old, mem⟩ := h.consecutive.exists_mem above upto
      exact ⟨id, ⟨id, old, mem, if_pos rfl⟩, same⟩
    · rintro ⟨i, ⟨j, old, mem, eq⟩, again⟩
      obtain rfl := Key.encode_injective (same.symm.trans again)
      split at eq
      · exact (Prod.mk.inj eq).2
      · next other => exact absurd (Prod.mk.inj eq).1 other
  · rw [if_neg same, h.holds]
    constructor
    · rintro ⟨i, mem, rfl⟩
      exact ⟨i, ⟨i, payload, mem, if_neg fun eq => same (congrArg Key.encode eq)⟩, rfl⟩
    · rintro ⟨i, ⟨j, old, mem, eq⟩, rfl⟩
      split at eq
      · exact absurd (congrArg Key.encode (Prod.mk.inj eq).1.symm) same
      · obtain ⟨rfl, rfl⟩ := Prod.mk.inj eq
        exact ⟨j, mem, rfl⟩

end Stores

/-! ## Reading the items off -/

theorem Consecutive.exists_of_stored {t : Table} {head tail : UInt64} (le : head ≤ tail)
    (stored : ∀ id, head < id → id ≤ tail → (t.get? (Key.encode id)).isSome) :
    ∃ items, Consecutive head items tail ∧
      ∀ id value, (id, value) ∈ items → t.get? (Key.encode id) = some value := by
  obtain ⟨n, size⟩ : ∃ n, tail.toNat = head.toNat + n :=
    ⟨tail.toNat - head.toNat, by rw [UInt64.le_iff_toNat_le] at le; omega⟩
  induction n generalizing head with
  | zero => exact ⟨[], UInt64.toNat_inj.1 size.symm, nofun⟩
  | succ n ih =>
    have something : head < tail := by
      rw [UInt64.lt_iff_toNat_lt]
      omega
    have next := Queue.toNat_succ_of_lt something
    have above : head < head + 1 := by
      rw [UInt64.lt_iff_toNat_lt]
      omega
    have upto : head + 1 ≤ tail := by
      rw [UInt64.le_iff_toNat_le]
      omega
    obtain ⟨rest, consecutive, values⟩ := ih upto
      (fun id further => stored id (UInt64.lt_trans above further)) (by omega)
    obtain ⟨value, found⟩ := Option.isSome_iff_exists.1 (stored (head + 1) above upto)
    refine ⟨(head + 1, value) :: rest, ⟨next, consecutive⟩, ?_⟩
    intro id payload mem
    rcases List.mem_cons.1 mem with first | mem
    · obtain ⟨rfl, rfl⟩ := Prod.mk.inj first
      exact found
    · exact values id payload mem

/-- A table that spans a range stores some items. -/
theorem Spans.exists_stores {t : Table} {head tail : UInt64} (h : Spans t head tail) :
    ∃ items, Stores t head tail items := by
  obtain ⟨items, consecutive, values⟩ := Consecutive.exists_of_stored h.le
    fun id above upto => (h.isSome_iff id).2 ⟨above, upto⟩
  refine ⟨items, consecutive, ?_⟩
  intro key value
  constructor
  · intro found
    obtain ⟨id, ⟨above, upto⟩, rfl⟩ := (h.keys key).1 (Option.isSome_of_eq_some found)
    obtain ⟨payload, mem⟩ := consecutive.exists_mem above upto
    have same := values id payload mem
    rw [found] at same
    exact ⟨id, Option.some.inj same ▸ mem, rfl⟩
  · rintro ⟨id, mem, rfl⟩
    exact values id value mem

end DurableQueue
