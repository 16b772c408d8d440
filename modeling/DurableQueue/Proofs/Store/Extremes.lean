import DurableQueue.Store.Table

/-!
# The least and the greatest key of a table

The two keys that opening a queue asks for, told by look-ups alone: `firstKey?_eq_some_iff` and
`lastKey?_eq_some_iff`. With `get?_insert` and `get?_erase` they turn what a call does to look-ups
into what the next opening will find.
-/

namespace DurableQueue.Table

/-! ## Entries and look-ups -/

theorem find?_eq_some_iff {key value : Bytes} {es : List (Bytes × Bytes)}
    (h : es.Pairwise fun a b => a.1 < b.1) :
    find? key es = some value ↔ (key, value) ∈ es := by
  induction es with
  | nil => simp [find?]
  | cons e es ih =>
    obtain ⟨k, v⟩ := e
    rw [List.pairwise_cons] at h
    rw [find?, List.mem_cons, Prod.mk.injEq]
    by_cases eq : key = k
    · subst eq
      -- the key cannot come again further on
      have none : (key, value) ∉ es := fun mem => Std.lt_irrefl (h.1 (key, value) mem)
      rw [if_pos rfl, Option.some.injEq]
      simp only [true_and, none, or_false]
      exact eq_comm
    · rw [if_neg eq, ih h.2]
      simp only [eq, false_and, false_or]

theorem get?_eq_some_iff {t : Table} {key value : Bytes} :
    t.get? key = some value ↔ (key, value) ∈ t.entries :=
  find?_eq_some_iff t.sorted

theorem isSome_get?_iff {t : Table} {key : Bytes} :
    (t.get? key).isSome ↔ ∃ value, (key, value) ∈ t.entries := by
  simp only [Option.isSome_iff_exists, get?_eq_some_iff]

theorem isSome_get?_of_mem {t : Table} {e : Bytes × Bytes} (h : e ∈ t.entries) :
    (t.get? e.1).isSome :=
  isSome_get?_iff.2 ⟨e.2, h⟩

/-! ## The extremes -/

/-- The key that a look-up succeeds for and that no such key is below. -/
theorem firstKey?_eq_some_iff {t : Table} {key : Bytes} :
    t.firstKey? = some key ↔ (t.get? key).isSome ∧ ∀ k, (t.get? k).isSome → key ≤ k := by
  constructor
  · intro h
    rw [firstKey?, Option.map_eq_some_iff] at h
    obtain ⟨e, head, rfl⟩ := h
    obtain ⟨rest, split⟩ := List.head?_eq_some_iff.1 head
    refine ⟨isSome_get?_of_mem (List.mem_of_mem_head? head), ?_⟩
    intro k hk
    obtain ⟨v, mem⟩ := isSome_get?_iff.1 hk
    have order := t.sorted
    rw [split, List.pairwise_cons] at order
    rw [split, List.mem_cons] at mem
    rcases mem with eq | mem
    · rw [← eq]
      exact Std.le_refl k
    · exact Std.le_of_lt (order.1 _ mem)
  · rintro ⟨hkey, least⟩
    cases head : t.entries.head? with
    | none =>
      rw [List.head?_eq_none_iff] at head
      obtain ⟨v, mem⟩ := isSome_get?_iff.1 hkey
      rw [head] at mem
      cases mem
    | some e =>
      obtain ⟨rest, split⟩ := List.head?_eq_some_iff.1 head
      have below : key ≤ e.1 := least _ (isSome_get?_of_mem (List.mem_of_mem_head? head))
      obtain ⟨v, mem⟩ := isSome_get?_iff.1 hkey
      have order := t.sorted
      rw [split, List.pairwise_cons] at order
      rw [split, List.mem_cons] at mem
      rw [firstKey?, head, Option.map_some, Option.some.injEq]
      rcases mem with eq | mem
      · rw [← eq]
      · exact absurd (order.1 _ mem) (Std.not_lt.2 below)

/-- The key that a look-up succeeds for and that no such key is above. -/
theorem lastKey?_eq_some_iff {t : Table} {key : Bytes} :
    t.lastKey? = some key ↔ (t.get? key).isSome ∧ ∀ k, (t.get? k).isSome → k ≤ key := by
  constructor
  · intro h
    rw [lastKey?, Option.map_eq_some_iff] at h
    obtain ⟨e, last, rfl⟩ := h
    obtain ⟨front, split⟩ := List.getLast?_eq_some_iff.1 last
    refine ⟨isSome_get?_of_mem (List.mem_of_getLast? last), ?_⟩
    intro k hk
    obtain ⟨v, mem⟩ := isSome_get?_iff.1 hk
    have order := t.sorted
    rw [split, List.pairwise_append] at order
    rw [split, List.mem_append, List.mem_singleton] at mem
    rcases mem with mem | eq
    · exact Std.le_of_lt (order.2.2 _ mem e (List.mem_singleton_self e))
    · rw [← eq]
      exact Std.le_refl k
  · rintro ⟨hkey, greatest⟩
    cases last : t.entries.getLast? with
    | none =>
      rw [List.getLast?_eq_none_iff] at last
      obtain ⟨v, mem⟩ := isSome_get?_iff.1 hkey
      rw [last] at mem
      cases mem
    | some e =>
      obtain ⟨front, split⟩ := List.getLast?_eq_some_iff.1 last
      have above : e.1 ≤ key := greatest _ (isSome_get?_of_mem (List.mem_of_getLast? last))
      obtain ⟨v, mem⟩ := isSome_get?_iff.1 hkey
      have order := t.sorted
      rw [split, List.pairwise_append] at order
      rw [split, List.mem_append, List.mem_singleton] at mem
      rw [lastKey?, last, Option.map_some, Option.some.injEq]
      rcases mem with mem | eq
      · exact absurd (order.2.2 _ mem e (List.mem_singleton_self e)) (Std.not_lt.2 above)
      · rw [← eq]

theorem firstKey?_eq_none_iff {t : Table} : t.firstKey? = none ↔ ∀ key, t.get? key = none := by
  rw [firstKey?, Option.map_eq_none_iff, List.head?_eq_none_iff]
  constructor
  · intro h key
    rw [get?, h, find?]
  · intro h
    apply List.eq_nil_iff_forall_not_mem.2
    intro e mem
    have found := get?_eq_some_iff.2 mem
    rw [h] at found
    cases found

theorem lastKey?_eq_none_iff {t : Table} : t.lastKey? = none ↔ ∀ key, t.get? key = none := by
  rw [← firstKey?_eq_none_iff, lastKey?, firstKey?, Option.map_eq_none_iff, Option.map_eq_none_iff,
    List.getLast?_eq_none_iff, List.head?_eq_none_iff]

end DurableQueue.Table
