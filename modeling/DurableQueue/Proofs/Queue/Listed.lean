import DurableQueue.Proofs.Queue.Items
import DurableQueue.Proofs.Queue.Recovery

/-!
# Stores with gaps

Nothing makes a store hold consecutive ids: a program can put any keys into it. A table lists some items if
these are its entries, in the order of their ids. Every table whose keys are those of ids above 0 lists its
entries (`Gapped.exists_lists`), opening it works (`Queue.ofStore_of_lists`), and its first items up to the
first gap are consecutive (`Rising.exists_run`).
-/

namespace DurableQueue

/-! ## Rising ids -/

/-- The ids of the items are above `low` and rise, with or without gaps. -/
def Rising : UInt64 → List (UInt64 × Bytes) → Prop
  | _, [] => True
  | low, (id, _) :: rest => low < id ∧ Rising id rest

namespace Rising

variable {low : UInt64} {items : List (UInt64 × Bytes)}

theorem mono (h : Rising low items) {lower : UInt64} (le : lower ≤ low) : Rising lower items := by
  cases items with
  | nil => exact trivial
  | cons item rest => exact ⟨UInt64.lt_of_le_of_lt le h.1, h.2⟩

theorem above (h : Rising low items) {id : UInt64} {value : Bytes} (mem : (id, value) ∈ items) :
    low < id := by
  induction items generalizing low with
  | nil => cases mem
  | cons item rest ih =>
    rcases List.mem_cons.1 mem with rfl | mem
    · exact h.1
    · exact UInt64.lt_trans h.1 (ih h.2 mem)

theorem pairwise (h : Rising low items) : items.Pairwise (·.1 < ·.1) := by
  induction items generalizing low with
  | nil => exact .nil
  | cons item rest ih => exact .cons (fun later mem => h.2.above mem) (ih h.2)

/-- The last id is the greatest. -/
theorem le_getLast (h : Rising low items) (something : items ≠ []) {id : UInt64} {value : Bytes}
    (mem : (id, value) ∈ items) : id ≤ (items.getLast something).1 := by
  induction items generalizing low with
  | nil => cases mem
  | cons item rest ih =>
    by_cases last : rest = []
    · subst last
      obtain rfl := List.mem_singleton.1 mem
      exact UInt64.le_refl id
    · rw [List.getLast_cons last]
      rcases List.mem_cons.1 mem with rfl | mem
      · exact UInt64.le_of_lt (h.2.above (List.getLast_mem last))
      · exact ih h.2 last mem

/-- Items in the order of their ids begin with consecutive ones, as far as there is no gap. -/
theorem exists_run (h : Rising low items) : ∃ run rest last, items = run ++ rest ∧
    Consecutive low run last ∧ Rising last rest ∧ ∀ item ∈ rest, last.toNat + 1 < item.1.toNat := by
  induction items generalizing low with
  | nil => exact ⟨[], [], low, rfl, rfl, trivial, nofun⟩
  | cons item rest ih =>
    by_cases next : item.1.toNat = low.toNat + 1
    · obtain ⟨run, rest, last, rfl, consecutive, rising, gap⟩ := ih h.2
      exact ⟨item :: run, rest, last, rfl, ⟨next, consecutive⟩, rising, gap⟩
    · refine ⟨[], item :: rest, low, rfl, rfl, h, ?_⟩
      have first := UInt64.lt_iff_toNat_lt.1 h.1
      intro later mem
      rcases List.mem_cons.1 mem with rfl | mem
      · omega
      · have := UInt64.lt_iff_toNat_lt.1 (h.2.above mem)
        omega

end Rising

/-! ## Listed items -/

/-- The entries of the table are exactly the items, which are in the order of their ids, above `low`. -/
structure Lists (t : Table) (low : UInt64) (items : List (UInt64 × Bytes)) : Prop where
  rising : Rising low items
  holds : t.Holds items

namespace Lists

variable {t : Table} {low id : UInt64} {value : Bytes} {items : List (UInt64 × Bytes)}

theorem mono (h : Lists t low items) {lower : UInt64} (le : lower ≤ low) : Lists t lower items :=
  ⟨h.rising.mono le, h.holds⟩

theorem eq_empty (h : Lists t low []) : t = .empty := by
  apply Table.ext_get?
  intro key
  cases found : t.get? key with
  | none => rfl
  | some value =>
    obtain ⟨id, mem, -⟩ := (h.holds key value).1 found
    cases mem

theorem ne_empty (h : Lists t low items) (something : items ≠ []) : t ≠ .empty := by
  rintro rfl
  obtain ⟨⟨id, value⟩, mem⟩ := List.exists_mem_of_ne_nil items something
  cases h.holds.get?_encode_iff.2 mem

theorem taken (h : Lists t low ((id, value) :: items)) : Lists (t.erase (Key.encode id)) id items := by
  refine ⟨h.rising.2, h.holds.erased ?_⟩
  intro payload mem
  exact UInt64.lt_irrefl id (h.rising.2.above mem)

theorem firstKey?_eq (h : Lists t low ((id, value) :: items)) : t.firstKey? = some (Key.encode id) := by
  rw [Table.firstKey?_eq_some_iff]
  constructor
  · exact Option.isSome_of_eq_some (h.holds.get?_encode_iff.2 List.mem_cons_self)
  · intro key stored
    obtain ⟨payload, found⟩ := Option.isSome_iff_exists.1 stored
    obtain ⟨i, mem, rfl⟩ := (h.holds key payload).1 found
    rw [Key.encode_le_iff]
    rcases List.mem_cons.1 mem with first | mem
    · rw [(Prod.mk.inj first).1]
      exact UInt64.le_refl id
    · exact UInt64.le_of_lt (h.rising.2.above mem)

theorem lastKey?_eq (h : Lists t low items) (something : items ≠ []) :
    t.lastKey? = some (Key.encode (items.getLast something).1) := by
  rw [Table.lastKey?_eq_some_iff]
  constructor
  · exact Option.isSome_of_eq_some (h.holds.get?_encode_iff.2 (List.getLast_mem something))
  · intro key stored
    obtain ⟨payload, found⟩ := Option.isSome_iff_exists.1 stored
    obtain ⟨i, mem, rfl⟩ := (h.holds key payload).1 found
    exact Key.encode_le_iff.2 (h.rising.le_getLast something mem)

end Lists

/-! ## Reading the items off -/

/-- There are keys in the table, and each is that of an id above 0. -/
structure Table.Gapped (t : Table) : Prop where
  keys : ∀ key, (t.get? key).isSome → key.length = 8 ∧ key ≠ Key.encode 0
  something : ∃ key, (t.get? key).isSome

/-- Entries in the order of their keys are items in the order of their ids. -/
theorem Rising.of_entries {entries : List (Bytes × Bytes)} (sorted : entries.Pairwise fun a b => a.1 < b.1)
    {low : UInt64} (above : ∀ e ∈ entries, ∃ id, low < id ∧ e.1 = Key.encode id) :
    ∃ items, Rising low items ∧ entries = items.map fun item => (Key.encode item.1, item.2) := by
  induction entries generalizing low with
  | nil => exact ⟨[], trivial, rfl⟩
  | cons e entries ih =>
    obtain ⟨key, value⟩ := e
    obtain ⟨id, first, rfl⟩ := above _ List.mem_cons_self
    rw [List.pairwise_cons] at sorted
    have above' : ∀ e ∈ entries, ∃ i, id < i ∧ e.1 = Key.encode i := by
      intro e mem
      obtain ⟨i, -, same⟩ := above e (List.mem_cons_of_mem _ mem)
      have later := sorted.1 e mem
      rw [same, Key.encode_lt_iff] at later
      exact ⟨i, later, same⟩
    obtain ⟨items, rising, rfl⟩ := ih sorted.2 above'
    exact ⟨(id, value) :: items, ⟨first, rising⟩, rfl⟩

theorem Table.Gapped.exists_lists {t : Table} (h : t.Gapped) :
    ∃ id value items, Lists t 0 ((id, value) :: items) := by
  have above : ∀ e ∈ t.entries, ∃ id, 0 < id ∧ e.1 = Key.encode id := by
    intro e mem
    obtain ⟨long, nonzero⟩ := h.keys e.1 (isSome_get?_of_mem mem)
    cases read : Key.decode e.1 with
    | error n => exact absurd long (Key.eq_length_of_decode read).2
    | ok id =>
      have same := Key.eq_encode_of_decode read
      refine ⟨id, ?_, same⟩
      apply UInt64.lt_of_le_of_ne UInt64.zero_le
      rintro rfl
      exact nonzero same
  obtain ⟨items, rising, entries⟩ := Rising.of_entries t.sorted above
  have holds : t.Holds items := by
    intro key value
    rw [get?_eq_some_iff, entries, List.mem_map]
    simp only [Prod.exists, Prod.mk.injEq]
    constructor
    · rintro ⟨id, payload, mem, rfl, rfl⟩
      exact ⟨id, mem, rfl⟩
    · rintro ⟨id, mem, rfl⟩
      exact ⟨id, value, mem, rfl, rfl⟩
  cases items with
  | nil =>
    obtain ⟨key, stored⟩ := h.something
    obtain ⟨value, found⟩ := Option.isSome_iff_exists.1 stored
    obtain ⟨id, mem, -⟩ := (holds key value).1 found
    cases mem
  | cons item items => exact ⟨item.1, item.2, items, rising, holds⟩

/-! ## Opening -/

/-- Opening a table whose ids are above 0 works, and the counters bound the ids that there are. -/
theorem Queue.ofStore_of_lists {t : Table} {id : UInt64} {value : Bytes} {items : List (UInt64 × Bytes)}
    (h : Lists t 0 ((id, value) :: items)) (location : String) :
    let last := (((id, value) :: items).getLast (List.cons_ne_nil _ _)).1
    ofStore location t =
      (.ok ⟨location, true, id - 1, last⟩, t, [.opened location (id - 1) last (last - (id - 1))]) := by
  intro last
  have first : storedId OrderedStore.firstKey t = (.ok (some id), t) := by
    apply storedId_eq
    rw [Table.firstKey_def, h.firstKey?_eq]
    rfl
  have final : storedId OrderedStore.lastKey t = (.ok (some last), t) := by
    apply storedId_eq
    rw [Table.lastKey_def, h.lastKey?_eq (List.cons_ne_nil _ _)]
    rfl
  have nonzero : id ≠ 0 := ne_zero_of_lt h.rising.1
  unfold ofStore recover
  rw [first]
  dsimp only
  rw [final]
  dsimp only
  rw [if_neg nonzero]
  rfl

end DurableQueue
