import DurableQueue.Queue.Basic

/-!
# What each operation can come to

For every operation, all the ways it can go on any store whatsoever, told by the replies of the store
calls it makes: `Looked`, `LookedAt`, `Front`, `Enqueued`, `Dequeued`, `Updated` and `Closed`, each with
the theorem that there is no other way. Later proofs go through these cases and do not open the
operations again.
-/

namespace DurableQueue

/-! ## Ids -/

@[simp] theorem toNat_greatestId : greatestId.toNat = UInt64.size - 1 := rfl

theorem addId?_eq_some {a b c : UInt64} (h : addId? a b = some c) :
    c.toNat = a.toNat + b.toNat := by
  unfold addId? at h
  split at h
  · next fits =>
    obtain rfl := Option.some.inj h
    rw [UInt64.toNat_add]
    exact Nat.mod_eq_of_lt fits
  · cases h

theorem addId?_eq_none {a b : UInt64} (h : addId? a b = none) : UInt64.size ≤ a.toNat + b.toNat := by
  unfold addId? at h
  split at h
  · cases h
  · omega

theorem addId?_of_sum {a b c : UInt64} (sum : c.toNat = a.toNat + b.toNat) : addId? a b = some c := by
  have small := c.toNat_lt_size
  rw [sum] at small
  have same : a + b = c := by
    rw [← UInt64.toNat_inj, UInt64.toNat_add, sum]
    exact Nat.mod_eq_of_lt small
  rw [addId?, if_pos small, same]

/-- Below the greatest id there is a next one. -/
theorem toNat_add_one {a : UInt64} (room : a ≠ greatestId) : (a + 1).toNat = a.toNat + 1 := by
  have last : a.toNat ≠ UInt64.size - 1 := fun h => room (UInt64.toNat_inj.1 h)
  have fits : a.toNat + 1 < UInt64.size := by
    apply Nat.lt_of_le_of_ne a.toNat_lt_size
    intro full
    exact last (Nat.eq_sub_of_add_eq full)
  rw [UInt64.toNat_add]
  exact Nat.mod_eq_of_lt fits

theorem lt_add_one_of_ne {a : UInt64} (room : a ≠ greatestId) : a < a + 1 := by
  rw [UInt64.lt_iff_toNat_lt, toNat_add_one room]
  exact Nat.lt_succ_self _

theorem add_one_ne_zero {a : UInt64} (room : a ≠ greatestId) : a + 1 ≠ 0 := by
  intro zero
  have next := toNat_add_one room
  rw [zero] at next
  exact absurd next (Nat.succ_ne_zero _).symm

theorem ne_zero_of_lt {a b : UInt64} (h : a < b) : b ≠ 0 := by
  rintro rfl
  exact Nat.not_lt_zero _ (UInt64.lt_iff_toNat_lt.1 h)

theorem min_greatestId (id : UInt64) : min id.toNat greatestId.toNat = id.toNat := by
  have := id.toNat_lt_size
  rw [toNat_greatestId]
  omega

theorem addId?_one (a : UInt64) :
    addId? a 1 = if a = greatestId then none else some (a + 1) := by
  unfold addId?
  by_cases full : a = greatestId
  · rw [if_pos full, full]
    rfl
  · have next := toNat_add_one full
    have small := (a + 1).toNat_lt_size
    rw [next] at small
    rw [if_neg full]
    exact if_pos small

namespace Queue

theorem length_lt_one_iff (q : Queue) : q.length < 1 ↔ q.head = q.tail := by
  unfold length
  rw [UInt64.lt_iff_toNat_lt]
  show (q.tail - q.head).toNat < 1 ↔ _
  rw [Nat.lt_one_iff, ← UInt64.toNat_inj (b := q.tail), UInt64.toNat_sub]
  have := q.head.toNat_lt
  have := q.tail.toNat_lt
  omega

section Outcomes

variable {σ : Type} [OrderedStore σ]

/-! ## Looking -/

/-- Looking for an id. -/
inductive Looked (q : Queue) (id : UInt64) (s : σ) : Except QueueError Item × σ → Prop where
  | closed (shut : q.isOpen = false) : Looked q id s (.error .closed, s)
  | empty (opened : q.isOpen = true) (nothing : q.head = q.tail) :
      Looked q id s (.error .empty, s)
  | outOfBounds (opened : q.isOpen = true) (something : q.head ≠ q.tail)
      (out : id ≤ q.head ∨ q.tail < id) :
      Looked q id s (.error (.outOfBounds id q.head q.tail), s)
  | failed (opened : q.isOpen = true) (above : q.head < id) (upto : id ≤ q.tail) {e s'}
      (get : OrderedStore.get (Key.encode id) s = (.error e, s')) :
      Looked q id s (.error (.storage e), s')
  | missing (opened : q.isOpen = true) (above : q.head < id) (upto : id ≤ q.tail) {s'}
      (get : OrderedStore.get (Key.encode id) s = (.ok none, s')) :
      Looked q id s (.error (.storage (.keyNotFound (Key.encode id).toHex)), s')
  | found (opened : q.isOpen = true) (above : q.head < id) (upto : id ≤ q.tail) {value s'}
      (get : OrderedStore.get (Key.encode id) s = (.ok (some value), s')) :
      Looked q id s (.ok (Item.ofId id value), s')

/-- The three outcomes of checking an id against the counters. -/
theorem checkBounds_cases (q : Queue) (id : UInt64) :
    (q.head = q.tail ∧ q.checkBounds id = .error .empty) ∨
      (q.head ≠ q.tail ∧ (id ≤ q.head ∨ q.tail < id) ∧
        q.checkBounds id = .error (.outOfBounds id q.head q.tail)) ∨
      (q.head < id ∧ id ≤ q.tail ∧ q.checkBounds id = .ok ()) := by
  unfold checkBounds
  by_cases nothing : q.head = q.tail
  · left
    rw [if_pos ((length_lt_one_iff q).2 nothing)]
    exact ⟨nothing, rfl⟩
  · right
    rw [if_neg (fun h => nothing ((length_lt_one_iff q).1 h))]
    by_cases out : id ≤ q.head ∨ q.tail < id
    · left
      rw [if_pos out]
      exact ⟨nothing, out, rfl⟩
    · right
      rw [if_neg out]
      rw [not_or, UInt64.not_le, UInt64.not_lt] at out
      exact ⟨out.1, out.2, rfl⟩

theorem looked (q : Queue) (id : UInt64) (s : σ) : Looked q id s (q.itemById id s) := by
  unfold itemById
  cases opened : q.isOpen with
  | false => exact .closed opened
  | true =>
    rcases checkBounds_cases q id with ⟨nothing, check⟩ | ⟨something, out, check⟩ | ⟨above, upto, check⟩
    · rw [check]
      exact .empty opened nothing
    · rw [check]
      exact .outOfBounds opened something out
    · rw [check]
      dsimp only
      rcases get : OrderedStore.get (Key.encode id) s with ⟨_ | _ | value, s'⟩
      · exact .failed opened above upto get
      · exact .missing opened above upto get
      · exact .found opened above upto get

/-- Looking at an offset from the front. -/
inductive LookedAt (q : Queue) (offset : UInt64) (s : σ) : Except QueueError Item × σ → Prop where
  | id {id} (sum : id.toNat = q.head.toNat + offset.toNat) {reply} (looked : Looked q id s reply) :
      LookedAt q offset s reply
  | closed (beyond : UInt64.size ≤ q.head.toNat + offset.toNat) (shut : q.isOpen = false) :
      LookedAt q offset s (.error .closed, s)
  | empty (beyond : UInt64.size ≤ q.head.toNat + offset.toNat) (opened : q.isOpen = true)
      (nothing : q.head = q.tail) : LookedAt q offset s (.error .empty, s)
  | outOfBounds (beyond : UInt64.size ≤ q.head.toNat + offset.toNat) (opened : q.isOpen = true)
      (something : q.head ≠ q.tail) :
      LookedAt q offset s (.error (.outOfBounds greatestId q.head q.tail), s)

theorem lookedAt (q : Queue) (offset : UInt64) (s : σ) :
    LookedAt q offset s (q.itemByOffset offset s) := by
  unfold itemByOffset
  cases sum : addId? q.head offset with
  | some id => exact .id (addId?_eq_some sum) (looked q id s)
  | none =>
    have beyond := addId?_eq_none sum
    cases opened : q.isOpen with
    | false => exact .closed beyond opened
    | true =>
      by_cases nothing : q.head = q.tail
      · rw [if_pos ((length_lt_one_iff q).2 nothing)]
        exact .empty beyond opened nothing
      · rw [if_neg (fun h => nothing ((length_lt_one_iff q).1 h))]
        exact .outOfBounds beyond opened nothing

/-- Looking at the front. -/
inductive Front (q : Queue) (s : σ) : Except QueueError Item × σ → Prop where
  | closed (shut : q.isOpen = false) : Front q s (.error .closed, s)
  | empty (opened : q.isOpen = true) (nothing : q.head = q.tail) : Front q s (.error .empty, s)
  | failed (opened : q.isOpen = true) (something : q.head < q.tail) {e s'}
      (get : OrderedStore.get (Key.encode (q.head + 1)) s = (.error e, s')) :
      Front q s (.error (.storage e), s')
  | missing (opened : q.isOpen = true) (something : q.head < q.tail) {s'}
      (get : OrderedStore.get (Key.encode (q.head + 1)) s = (.ok none, s')) :
      Front q s (.error (.storage (.keyNotFound (Key.encode (q.head + 1)).toHex)), s')
  | found (opened : q.isOpen = true) (something : q.head < q.tail) {value s'}
      (get : OrderedStore.get (Key.encode (q.head + 1)) s = (.ok (some value), s')) :
      Front q s (.ok (Item.ofId (q.head + 1) value), s')

theorem ne_greatestId_of_lt {a b : UInt64} (h : a < b) : a ≠ greatestId := by
  rintro rfl
  rw [UInt64.lt_iff_toNat_lt, toNat_greatestId] at h
  have := b.toNat_lt_size
  omega

theorem toNat_succ_of_lt {a b : UInt64} (h : a < b) : (a + 1).toNat = a.toNat + 1 :=
  toNat_add_one (ne_greatestId_of_lt h)

theorem front {q : Queue} (ordered : q.head ≤ q.tail) (s : σ) :
    Front q s (q.itemByOffset 1 s) := by
  have at1 := lookedAt q 1 s
  generalize q.itemByOffset 1 s = reply at at1
  cases at1 with
  | closed _ shut => exact .closed shut
  | empty _ opened nothing => exact .empty opened nothing
  | outOfBounds beyond opened something =>
    -- no id is above the greatest one, so the queue would be empty
    have room := ne_greatestId_of_lt (UInt64.lt_of_le_of_ne ordered something)
    have small := (q.head + 1).toNat_lt_size
    rw [toNat_add_one room] at small
    exact absurd beyond (Nat.not_le.2 small)
  | @id i sum _ atId =>
    obtain rfl : i = q.head + 1 := by
      have room : q.head ≠ greatestId := by
        intro full
        have small := i.toNat_lt_size
        rw [sum, full] at small
        exact absurd small (by decide)
      rw [← UInt64.toNat_inj, sum, toNat_add_one room]
      rfl
    cases atId with
    | closed shut => exact .closed shut
    | empty opened nothing => exact .empty opened nothing
    | outOfBounds opened something out =>
      have lt := UInt64.lt_of_le_of_ne ordered something
      have next := toNat_succ_of_lt lt
      rw [UInt64.lt_iff_toNat_lt] at lt
      rw [UInt64.le_iff_toNat_le, UInt64.lt_iff_toNat_lt] at out
      omega
    | failed opened above upto get => exact .failed opened (UInt64.lt_of_lt_of_le above upto) get
    | missing opened above upto get => exact .missing opened (UInt64.lt_of_lt_of_le above upto) get
    | found opened above upto get => exact .found opened (UInt64.lt_of_lt_of_le above upto) get

/-! ## Changing -/

/-- Putting a payload at the back. -/
inductive Enqueued (q : Queue) (value : Bytes) (s : σ) : Outcome σ Item → Prop where
  | exhausted (full : q.tail = greatestId) : Enqueued q value s ⟨.error .exhausted, q, s, []⟩
  | closed (room : q.tail ≠ greatestId) (shut : q.isOpen = false) :
      Enqueued q value s ⟨.error .closed, q, s, []⟩
  | failed (room : q.tail ≠ greatestId) (opened : q.isOpen = true) {e s'}
      (put : OrderedStore.put (Key.encode (q.tail + 1)) value s = (.error e, s')) :
      Enqueued q value s ⟨.error (.storage e), q, s', []⟩
  | added (room : q.tail ≠ greatestId) (opened : q.isOpen = true) {s'}
      (put : OrderedStore.put (Key.encode (q.tail + 1)) value s = (.ok (), s')) :
      Enqueued q value s ⟨.ok (Item.ofId (q.tail + 1) value), { q with tail := q.tail + 1 }, s',
        [.enqueued (q.tail + 1) value.length]⟩

theorem enqueued (q : Queue) (value : Bytes) (s : σ) :
    Enqueued q value s (q.enqueue value s) := by
  unfold enqueue
  rw [addId?_one]
  by_cases full : q.tail = greatestId
  · rw [if_pos full]
    exact .exhausted full
  · rw [if_neg full]
    dsimp only [Item.ofId]
    by_cases opened : q.isOpen = true
    · rw [if_neg (by rw [opened]; decide)]
      rcases put : OrderedStore.put (Key.encode (q.tail + 1)) value s with ⟨_ | _, s'⟩
      · exact .failed full opened put
      · exact .added full opened put
    · rw [Bool.not_eq_true] at opened
      rw [if_pos (by rw [opened]; decide)]
      exact .closed full opened

/-- Taking out the front. -/
inductive Dequeued (q : Queue) (s : σ) : Outcome σ Item → Prop where
  | refused {e s'} (front : Front q s (.error e, s')) : Dequeued q s ⟨.error e, q, s', []⟩
  | failed {value s' e s''} (front : Front q s (.ok (Item.ofId (q.head + 1) value), s'))
      (delete : OrderedStore.delete (Key.encode (q.head + 1)) s' = (.error e, s'')) :
      Dequeued q s ⟨.error (.storage e), q, s'', []⟩
  | taken {value s' s''} (front : Front q s (.ok (Item.ofId (q.head + 1) value), s'))
      (delete : OrderedStore.delete (Key.encode (q.head + 1)) s' = (.ok (), s'')) :
      Dequeued q s ⟨.ok (Item.ofId (q.head + 1) value), { q with head := q.head + 1 }, s'',
        [.dequeued (q.head + 1)]⟩

theorem dequeued {q : Queue} (ordered : q.head ≤ q.tail) (s : σ) :
    Dequeued q s (q.dequeue s) := by
  unfold dequeue
  have at1 := front ordered s
  generalize q.itemByOffset 1 s = reply at at1 ⊢
  obtain ⟨e | item, s'⟩ := reply
  · exact .refused at1
  · obtain ⟨value, rfl⟩ : ∃ value, item = Item.ofId (q.head + 1) value := by
      cases at1 with
      | @found _ _ value => exact ⟨value, rfl⟩
    dsimp only [Item.ofId]
    rcases delete : OrderedStore.delete (Key.encode (q.head + 1)) s' with ⟨_ | _, s''⟩
    · exact .failed at1 delete
    · exact .taken at1 delete

/-- Giving an item another payload. -/
inductive Updated (q : Queue) (item : Item) (value : Bytes) (s : σ) :
    Outcome σ Unit × Item → Prop where
  | closed (shut : q.isOpen = false) : Updated q item value s (⟨.error .closed, q, s, []⟩, item)
  | empty (opened : q.isOpen = true) (nothing : q.head = q.tail) :
      Updated q item value s (⟨.error .empty, q, s, []⟩, item)
  | outOfBounds (opened : q.isOpen = true) (something : q.head ≠ q.tail)
      (out : item.id ≤ q.head ∨ q.tail < item.id) :
      Updated q item value s (⟨.error (.outOfBounds item.id q.head q.tail), q, s, []⟩, item)
  | failed (opened : q.isOpen = true) (above : q.head < item.id) (upto : item.id ≤ q.tail) {e s'}
      (put : OrderedStore.put (Key.encode item.id) value s = (.error e, s')) :
      Updated q item value s (⟨.error (.storage e), q, s', []⟩, item)
  | written (opened : q.isOpen = true) (above : q.head < item.id) (upto : item.id ≤ q.tail) {s'}
      (put : OrderedStore.put (Key.encode item.id) value s = (.ok (), s')) :
      Updated q item value s
        (⟨.ok (), q, s', [.updated item.id value.length]⟩, Item.ofId item.id value)

theorem updated (q : Queue) (item : Item) (value : Bytes) (s : σ) :
    Updated q item value s (q.update item value s) := by
  unfold update
  cases opened : q.isOpen with
  | false => exact .closed opened
  | true =>
    rcases checkBounds_cases q item.id with
      ⟨nothing, check⟩ | ⟨something, out, check⟩ | ⟨above, upto, check⟩
    · rw [check]
      exact .empty opened nothing
    · rw [check]
      exact .outOfBounds opened something out
    · rw [check]
      dsimp only
      rcases put : OrderedStore.put (Key.encode item.id) value s with ⟨_ | _, s'⟩
      · exact .failed opened above upto put
      · exact .written opened above upto put

/-! ## Closing -/

/-- Letting go of the store. -/
inductive Closed (q : Queue) (s : σ) : Outcome σ Unit → Prop where
  | already (shut : q.isOpen = false) : Closed q s ⟨.ok (), q, s, []⟩
  | failed (opened : q.isOpen = true) {e s'} (flush : OrderedStore.flush s = (.error e, s')) :
      Closed q s ⟨.error (.storage e), { q with isOpen := false }, s',
        [.flushFailed q.location e, .closed q.location q.head q.tail]⟩
  | flushed (opened : q.isOpen = true) {s'} (flush : OrderedStore.flush s = (.ok (), s')) :
      Closed q s ⟨.ok (), { q with isOpen := false }, s', [.closed q.location q.head q.tail]⟩

theorem closed (q : Queue) (s : σ) : Closed q s (q.close s) := by
  unfold close
  cases opened : q.isOpen with
  | false => exact .already opened
  | true =>
    rcases flush : OrderedStore.flush s with ⟨_ | _, s'⟩
    · exact .failed opened flush
    · exact .flushed opened flush

/-! ## Changes that the store makes -/

theorem enqueue_of_put {q : Queue} {value : Bytes} {s s' : σ} (opened : q.isOpen = true)
    (room : q.tail ≠ greatestId)
    (put : OrderedStore.put (Key.encode (q.tail + 1)) value s = (.ok (), s')) :
    q.enqueue value s = ⟨.ok (Item.ofId (q.tail + 1) value), { q with tail := q.tail + 1 }, s',
      [.enqueued (q.tail + 1) value.length]⟩ := by
  have cases := enqueued q value s
  generalize q.enqueue value s = outcome at cases ⊢
  cases cases with
  | exhausted full => exact absurd full room
  | closed _ shut => cases opened.symm.trans shut
  | failed _ _ put' => cases put.symm.trans put'
  | added _ _ put' => cases put.symm.trans put'; rfl

theorem update_of_put {q : Queue} {item : Item} {value : Bytes} {s s' : σ} (opened : q.isOpen = true)
    (above : q.head < item.id) (upto : item.id ≤ q.tail)
    (put : OrderedStore.put (Key.encode item.id) value s = (.ok (), s')) :
    q.update item value s =
      (⟨.ok (), q, s', [.updated item.id value.length]⟩, Item.ofId item.id value) := by
  have cases := updated q item value s
  generalize q.update item value s = outcome at cases ⊢
  cases cases with
  | closed shut => cases opened.symm.trans shut
  | empty _ nothing =>
    rw [← nothing] at upto
    exact absurd upto (UInt64.not_le.2 above)
  | outOfBounds _ _ out => exact absurd out (not_or.2 ⟨UInt64.not_le.2 above, UInt64.not_lt.2 upto⟩)
  | failed _ _ _ put' => cases put.symm.trans put'
  | written _ _ _ put' => cases put.symm.trans put'; rfl

end Outcomes

/-! ## Items in a table -/

section Stored

variable {q : Queue} {t : Table} {id : UInt64} {value : Bytes}

/-- An item that is live and in the table is found under its id. -/
theorem itemById_stored (opened : q.isOpen = true) (above : q.head < id) (upto : id ≤ q.tail)
    (stored : t.get? (Key.encode id) = some value) : q.itemById id t = (.ok (Item.ofId id value), t) := by
  have cases := looked q id t
  generalize q.itemById id t = reply at cases
  cases cases with
  | closed shut => rw [opened] at shut; cases shut
  | empty _ nothing =>
    rw [← nothing] at upto
    exact absurd upto (UInt64.not_le.2 above)
  | outOfBounds _ _ out => exact absurd out (not_or.2 ⟨UInt64.not_le.2 above, UInt64.not_lt.2 upto⟩)
  | failed _ _ _ get => cases get
  | missing _ _ _ get =>
    cases stored.symm.trans (Except.ok.inj (congrArg Prod.fst get))
  | found _ _ _ get =>
    obtain rfl := Option.some.inj (stored.symm.trans (Except.ok.inj (congrArg Prod.fst get)))
    exact congrArg (Prod.mk _) (congrArg Prod.snd get).symm

/-- It is found at its distance from the front. -/
theorem itemByOffset_stored (opened : q.isOpen = true) (upto : id ≤ q.tail)
    (stored : t.get? (Key.encode id) = some value) {offset : UInt64} (away : offset ≠ 0)
    (sum : id.toNat = q.head.toNat + offset.toNat) :
    q.itemByOffset offset t = (.ok (Item.ofId id value), t) := by
  have above : q.head < id := by
    have : offset.toNat ≠ 0 := fun zero => away (UInt64.toNat_inj.1 zero)
    rw [UInt64.lt_iff_toNat_lt]
    omega
  unfold itemByOffset
  rw [addId?_of_sum sum]
  exact itemById_stored opened above upto stored

/-- And it is taken out when it is next. -/
theorem dequeue_stored (opened : q.isOpen = true) (next : id.toNat = q.head.toNat + 1) (upto : id ≤ q.tail)
    (stored : t.get? (Key.encode id) = some value) :
    q.dequeue t = ⟨.ok (Item.ofId id value), { q with head := id }, t.erase (Key.encode id), [.dequeued id]⟩ := by
  have front : q.itemByOffset 1 t = (.ok (Item.ofId id value), t) :=
    itemByOffset_stored opened upto stored (by decide) next
  unfold dequeue
  rw [front]
  rfl

end Stored

end Queue

end DurableQueue
