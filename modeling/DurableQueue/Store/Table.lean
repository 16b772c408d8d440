import DurableQueue.Bytes

/-!
# Byte-ordered tables

A finite map from keys to values, both byte strings, kept as its entries in the order of the keys. The
order is part of the type, so two tables with the same look-ups are equal (`ext_get?`).

`get?_insert` and `get?_erase` say what the two changes do to look-ups. Changes under different keys can be
made in either order (`insert_comm`, `erase_insert_comm`).
-/

namespace DurableQueue

/-- A map from byte strings to byte strings, as entries in strictly increasing order of their keys. -/
structure Table where
  entries : List (Bytes × Bytes)
  sorted : entries.Pairwise fun a b => a.1 < b.1
  deriving DecidableEq

namespace Table

/-! ## Entries in order -/

/-- The value under a key. -/
def find? (key : Bytes) : List (Bytes × Bytes) → Option Bytes
  | [] => none
  | (k, v) :: rest => if key = k then some v else find? key rest

/-- Puts an entry in its place, instead of one with its key. -/
def insertEntry (key value : Bytes) : List (Bytes × Bytes) → List (Bytes × Bytes)
  | [] => [(key, value)]
  | (k, v) :: rest =>
    if key < k then (key, value) :: (k, v) :: rest
    else if key = k then (key, value) :: rest
    else (k, v) :: insertEntry key value rest

theorem mem_insertEntry {key value : Bytes} {e : Bytes × Bytes} {es : List (Bytes × Bytes)}
    (h : e ∈ insertEntry key value es) : e = (key, value) ∨ e ∈ es := by
  induction es with
  | nil => simpa [insertEntry] using h
  | cons head rest ih =>
    rw [insertEntry] at h
    split at h
    · simpa using h
    · split at h <;> simp only [List.mem_cons] at h ⊢ <;> grind

theorem pairwise_insertEntry (key value : Bytes) {es : List (Bytes × Bytes)}
    (h : es.Pairwise fun a b => a.1 < b.1) :
    (insertEntry key value es).Pairwise fun a b => a.1 < b.1 := by
  induction es with
  | nil => simp [insertEntry]
  | cons head rest ih =>
    obtain ⟨k, v⟩ := head
    rw [List.pairwise_cons] at h
    rw [insertEntry]
    split
    · next lt =>
      refine List.pairwise_cons.2 ⟨fun e he => ?_, List.pairwise_cons.2 h⟩
      rcases List.mem_cons.1 he with rfl | he
      · exact lt
      · exact Std.lt_trans lt (h.1 e he)
    · next nlt =>
      split
      · next eq => subst eq; exact List.pairwise_cons.2 ⟨h.1, h.2⟩
      · next ne =>
        refine List.pairwise_cons.2 ⟨fun e he => ?_, ih h.2⟩
        rcases mem_insertEntry he with rfl | he
        · exact (Std.lt_trichotomy key k).resolve_left nlt |>.resolve_left ne
        · exact h.1 e he

theorem find?_insertEntry (key value k : Bytes) (es : List (Bytes × Bytes)) :
    find? k (insertEntry key value es) = if k = key then some value else find? k es := by
  induction es with
  | nil => simp [insertEntry, find?]
  | cons head rest ih =>
    rw [insertEntry]
    split
    · simp [find?]
    · split <;> simp only [find?] <;> grind

theorem find?_eq_none_of_lt {key : Bytes} {es : List (Bytes × Bytes)}
    (h : ∀ e ∈ es, key < e.1) : find? key es = none := by
  induction es with
  | nil => rfl
  | cons head rest ih =>
    have ne : key ≠ head.1 := fun eq => Std.lt_irrefl (eq ▸ h head (by simp))
    simp only [find?, ne, if_false]
    exact ih fun e he => h e (by simp [he])

theorem find?_filter_ne (key k : Bytes) (es : List (Bytes × Bytes)) :
    find? k (es.filter fun e => e.1 ≠ key) = if k = key then none else find? k es := by
  induction es with
  | nil => simp [find?]
  | cons head rest ih => simp only [List.filter_cons, find?]; grind [find?]

/-! ## The table -/

/-- The table without entries. -/
def empty : Table := ⟨[], .nil⟩

/-- The value under a key. -/
def get? (t : Table) (key : Bytes) : Option Bytes := find? key t.entries

/-- Stores a value under a key. -/
def insert (t : Table) (key value : Bytes) : Table :=
  ⟨insertEntry key value t.entries, pairwise_insertEntry key value t.sorted⟩

/-- Removes a key and its value, if it is there. -/
def erase (t : Table) (key : Bytes) : Table :=
  ⟨t.entries.filter fun e => e.1 ≠ key, t.sorted.filter _⟩

/-- The number of entries. -/
def size (t : Table) : Nat := t.entries.length

/-- The least key. -/
def firstKey? (t : Table) : Option Bytes := t.entries.head?.map (·.1)

/-- The greatest key. -/
def lastKey? (t : Table) : Option Bytes := t.entries.getLast?.map (·.1)

@[simp] theorem get?_empty (key : Bytes) : empty.get? key = none := rfl

@[simp] theorem get?_insert (t : Table) (key value k : Bytes) :
    (t.insert key value).get? k = if k = key then some value else t.get? k :=
  find?_insertEntry key value k t.entries

@[simp] theorem get?_erase (t : Table) (key k : Bytes) :
    (t.erase key).get? k = if k = key then none else t.get? k :=
  find?_filter_ne key k t.entries

/-- A table is determined by its look-ups. -/
theorem ext_get? {s t : Table} (h : ∀ key, s.get? key = t.get? key) : s = t := by
  obtain ⟨es, hs⟩ := s
  obtain ⟨fs, ht⟩ := t
  simp only [get?] at h
  congr
  induction es generalizing fs with
  | nil =>
    cases fs with
    | nil => rfl
    | cons f fs => have := h f.1; simp [find?] at this
  | cons e es ih =>
    rw [List.pairwise_cons] at hs
    cases fs with
    | nil => have := h e.1; simp [find?] at this
    | cons f fs =>
      rw [List.pairwise_cons] at ht
      have keys : e.1 = f.1 := by
        rcases Std.lt_trichotomy e.1 f.1 with lt | eq | lt
        · have none : find? e.1 (f :: fs) = none := find?_eq_none_of_lt fun g hg => by
            rcases List.mem_cons.1 hg with rfl | hg
            · exact lt
            · exact Std.lt_trans lt (ht.1 g hg)
          have := h e.1
          rw [none] at this
          simp [find?] at this
        · exact eq
        · have none : find? f.1 (e :: es) = none := find?_eq_none_of_lt fun g hg => by
            rcases List.mem_cons.1 hg with rfl | hg
            · exact lt
            · exact Std.lt_trans lt (hs.1 g hg)
          have := h f.1
          rw [none] at this
          simp [find?] at this
      have values : e.2 = f.2 := by have := h e.1; simpa [find?, keys] using this
      have tails : es = fs := ih hs.2 fs ht.2 fun key => by
        by_cases hk : key = e.1
        · subst hk
          rw [find?_eq_none_of_lt fun g hg => hs.1 g hg,
            find?_eq_none_of_lt fun g hg => keys ▸ ht.1 g hg]
        · have := h key
          simpa [find?, hk, keys ▸ hk] using this
      rw [Prod.ext keys values, tails]

/-! ## Changes under different keys -/

theorem insert_comm (t : Table) {key key' : Bytes} (differ : key ≠ key') (value value' : Bytes) :
    (t.insert key value).insert key' value' = (t.insert key' value').insert key value := by
  apply ext_get?
  intro k
  simp only [get?_insert]
  by_cases first : k = key
  · simp [first, differ]
  · simp [first]

theorem erase_insert_comm (t : Table) {key key' : Bytes} (differ : key ≠ key') (value : Bytes) :
    (t.erase key).insert key' value = (t.insert key' value).erase key := by
  apply ext_get?
  intro k
  simp only [get?_insert, get?_erase]
  by_cases first : k = key
  · simp [first, differ]
  · simp [first]

end Table

end DurableQueue
