import DurableQueue.Proofs.Queue.Crash
import DurableQueue.Proofs.Queue.Recovery

/-!
# An entry of id 0

The queue gives no item the id 0, but a store can come with an entry under its key. As long as a handle lasts,
the entry has no effect: calls touch the keys of ids above `head` only, so a call does on the table with the
entry what it does on the table without it (`Operation.run_withZero`).

An opening does look at it. The least key is then that of id 0, and the head is taken to be 0
(`Queue.ofStore_withZero`). Without the entry it is the id before the least one. The two agree if the queue is
empty or its front has id 1, and in no other case, so two runs tell the stores apart exactly if they open the
queue again at another time (`Session.seen_withZero_iff`).
-/

namespace DurableQueue

/-! ## One more entry -/

namespace Table

/-- The table with an entry of id 0 besides. -/
def withZero (value : Bytes) (t : Table) : Table := t.insert (Key.encode 0) value

variable {t : Table} {value : Bytes} {id : UInt64}

theorem get?_withZero (nonzero : id ≠ 0) :
    (t.withZero value).get? (Key.encode id) = t.get? (Key.encode id) := by
  rw [withZero, get?_insert, if_neg fun same => nonzero (Key.encode_injective same)]

theorem insert_withZero (nonzero : id ≠ 0) (payload : Bytes) :
    (t.withZero value).insert (Key.encode id) payload =
      (t.insert (Key.encode id) payload).withZero value :=
  t.insert_comm (fun same => nonzero (Key.encode_injective same).symm) value payload

theorem erase_withZero (nonzero : id ≠ 0) :
    (t.withZero value).erase (Key.encode id) = (t.erase (Key.encode id)).withZero value :=
  (t.erase_insert_comm (fun same => nonzero (Key.encode_injective same)) value).symm

end Table

/-! ## Calls on a handle -/

section OnHandle

variable {value : Bytes} (q : Queue) (t : Table)

namespace Queue

theorem itemById_withZero (id : UInt64) :
    q.itemById id (t.withZero value) = ((q.itemById id t).1, t.withZero value) := by
  unfold itemById
  split
  · rfl
  · rcases checkBounds_cases q id with ⟨-, check⟩ | ⟨-, -, check⟩ | ⟨above, -, check⟩
    · rw [check]
    · rw [check]
    · rw [check]
      dsimp only
      rw [Table.get_def, Table.get_def, Table.get?_withZero (ne_zero_of_lt above)]
      cases t.get? (Key.encode id) <;> rfl

theorem itemByOffset_withZero (offset : UInt64) :
    q.itemByOffset offset (t.withZero value) = ((q.itemByOffset offset t).1, t.withZero value) := by
  unfold itemByOffset
  split
  · exact itemById_withZero q t _
  · split
    · rfl
    · split <;> rfl

/-- An item that is found has the key of an id above 0. -/
theorem key_of_itemByOffset {q : Queue} {t t' : Table} {offset : UInt64} {item : Item}
    (found : q.itemByOffset offset t = (.ok item, t')) :
    ∃ id, id ≠ 0 ∧ item.key = Key.encode id := by
  have cases := lookedAt q offset t
  rw [found] at cases
  cases cases with
  | id sum looked =>
    cases looked with
    | found opened above upto get => exact ⟨_, ne_zero_of_lt above, rfl⟩

theorem enqueue_withZero (payload : Bytes) :
    q.enqueue payload (t.withZero value) = (q.enqueue payload t).mapStorage (Table.withZero value) := by
  unfold enqueue
  rw [addId?_one]
  by_cases full : q.tail = greatestId
  · rw [if_pos full]
    rfl
  · rw [if_neg full]
    dsimp only [Item.ofId]
    split
    · rfl
    · rw [Table.put_def, Table.put_def, Table.insert_withZero (add_one_ne_zero full)]
      rfl

theorem enqueueObject_withZero (v : Payload.Value) :
    q.enqueueObject v (t.withZero value) = (q.enqueueObject v t).mapStorage (Table.withZero value) := by
  unfold enqueueObject
  split
  · rfl
  · exact enqueue_withZero q t _

theorem dequeue_withZero :
    q.dequeue (t.withZero value) = (q.dequeue t).mapStorage (Table.withZero value) := by
  have kept := itemByOffset_table q 1 t
  unfold dequeue
  rw [itemByOffset_withZero]
  rcases found : q.itemByOffset 1 t with ⟨e | item, t'⟩
  · rw [found] at kept
    obtain rfl : t' = t := kept
    rfl
  · obtain ⟨id, nonzero, key⟩ := key_of_itemByOffset found
    rw [found] at kept
    obtain rfl : t' = t := kept
    dsimp only
    rw [key, Table.delete_def, Table.delete_def, Table.erase_withZero nonzero]
    rfl

theorem update_withZero (item : Item) (payload : Bytes) :
    q.update item payload (t.withZero value) =
      Prod.map (Outcome.mapStorage (Table.withZero value)) id (q.update item payload t) := by
  unfold update
  split
  · rfl
  · rcases checkBounds_cases q item.id with ⟨-, check⟩ | ⟨-, -, check⟩ | ⟨above, -, check⟩
    · rw [check]
      rfl
    · rw [check]
      rfl
    · rw [check]
      dsimp only
      rw [Table.put_def, Table.put_def, Table.insert_withZero (ne_zero_of_lt above)]
      rfl

theorem updateObject_withZero (item : Item) (v : Payload.Value) :
    q.updateObject item v (t.withZero value) =
      Prod.map (Outcome.mapStorage (Table.withZero value)) id (q.updateObject item v t) := by
  unfold updateObject
  split
  · rfl
  · exact update_withZero q t item _

theorem close_withZero :
    q.close (t.withZero value) = (q.close t).mapStorage (Table.withZero value) := by
  unfold close
  split <;> rfl

end Queue

/-- A call on a handle neither sees nor touches the entry of id 0. -/
theorem Operation.run_withZero (op : Operation) :
    op.run q (t.withZero value) = (op.run q t).mapStorage (Table.withZero value) := by
  have looked (reply : Except QueueError Item × Table) (same : reply.2 = t) :
      looked q (reply.1, t.withZero value) = (looked q reply).mapStorage (Table.withZero value) := by
    rw [← same]
    rfl
  cases op with
  | enqueue payload => exact congrArg (Outcome.turn · .item) (Queue.enqueue_withZero q t payload)
  | enqueueText text => exact congrArg (Outcome.turn · .item) (Queue.enqueue_withZero q t _)
  | enqueueObject v => exact congrArg (Outcome.turn · .item) (Queue.enqueueObject_withZero q t v)
  | dequeue => exact congrArg (Outcome.turn · .item) (Queue.dequeue_withZero q t)
  | peek =>
    exact (congrArg (Operation.looked q) (Queue.itemByOffset_withZero q t 1)).trans
      (looked _ (Queue.itemByOffset_table q 1 t))
  | peekByOffset offset =>
    exact (congrArg (Operation.looked q) (Queue.itemByOffset_withZero q t offset)).trans
      (looked _ (Queue.itemByOffset_table q offset t))
  | peekById id =>
    exact (congrArg (Operation.looked q) (Queue.itemById_withZero q t id)).trans
      (looked _ (Queue.itemById_table q id t))
  | update item payload => exact congrArg changed (Queue.update_withZero q t item payload)
  | updateText item text => exact congrArg changed (Queue.update_withZero q t item _)
  | updateObject item v => exact congrArg changed (Queue.updateObject_withZero q t item v)
  | counters => rfl
  | close => exact congrArg (Outcome.turn · .done) (Queue.close_withZero q t)

end OnHandle

/-! ## Opening -/

section Opening

variable {t : Table} {head tail : UInt64}

theorem Spans.firstKey?_withZero (h : Spans t head tail) (value : Bytes) :
    (t.withZero value).firstKey? = some (Key.encode 0) := by
  rw [Table.firstKey?_eq_some_iff]
  refine ⟨by simp [Table.withZero], ?_⟩
  intro key stored
  rw [Table.withZero, Table.get?_insert] at stored
  by_cases zero : key = Key.encode 0
  · rw [zero]
    exact Std.le_refl _
  · rw [if_neg zero] at stored
    obtain ⟨id, -, rfl⟩ := (h.keys key).1 stored
    exact Key.encode_le_iff.2 UInt64.zero_le

theorem Spans.lastKey?_withZero (h : Spans t head tail) (value : Bytes) :
    (t.withZero value).lastKey? = some (Key.encode (if head = tail then 0 else tail)) := by
  rw [Table.lastKey?_eq_some_iff]
  by_cases nothing : head = tail
  · rw [if_pos nothing]
    refine ⟨by simp [Table.withZero], ?_⟩
    intro key stored
    by_cases zero : key = Key.encode 0
    · rw [zero]
      exact Std.le_refl _
    · rw [Table.withZero, Table.get?_insert, if_neg zero, h.get?_eq_none nothing] at stored
      cases stored
  · have something := UInt64.lt_of_le_of_ne h.le nothing
    rw [if_neg nothing, Table.get?_withZero (ne_zero_of_lt something), h.isSome_iff]
    refine ⟨⟨something, UInt64.le_refl tail⟩, ?_⟩
    intro key stored
    by_cases zero : key = Key.encode 0
    · rw [zero]
      exact Key.encode_le_iff.2 UInt64.zero_le
    · rw [Table.withZero, Table.get?_insert, if_neg zero] at stored
      obtain ⟨id, ⟨-, upto⟩, rfl⟩ := (h.keys key).1 stored
      exact Key.encode_le_iff.2 upto

/-- With an entry of id 0, opening takes the head to be 0. -/
theorem Queue.ofStore_withZero (h : Spans t head tail) (value : Bytes) (location : String) :
    ∃ events, ofStore location (t.withZero value) =
      (.ok ⟨location, true, 0, if head = tail then 0 else tail⟩, t.withZero value, events) := by
  obtain ⟨cases, kept⟩ := recovered (t.withZero value)
  have counters := cases.eq_of_found (h.firstKey?_withZero value) (h.lastKey?_withZero value)
  unfold ofStore
  generalize recover (t.withZero value) = reply at counters kept ⊢
  obtain ⟨r, t', events⟩ := reply
  obtain rfl : r = .ok (0, if head = tail then 0 else tail) := counters
  obtain rfl : t' = t.withZero value := kept
  exact ⟨_, rfl⟩

/-- The two openings find the same counters exactly if the queue is empty or its front has id 1. -/
theorem Spans.foundCounters_eq_iff (h : Spans t head tail) :
    ((0, if head = tail then 0 else tail) : UInt64 × UInt64) = foundCounters head tail ↔
      ∀ key, t.firstKey? = some key → key = Key.encode 1 := by
  rw [h.extremes.1]
  unfold foundCounters
  by_cases nothing : head = tail
  · simp [nothing]
  · simp only [if_neg nothing, Option.map_some, Option.some.injEq, Prod.mk.injEq, and_true]
    constructor
    · rintro rfl key rfl
      rfl
    · intro front
      have one : head + 1 = 0 + 1 := Key.encode_injective (front _ rfl)
      exact (UInt64.add_left_inj 1).1 one.symm

end Opening

/-! ## Two runs -/

namespace Session

section Seen

variable {σ : Type} [OrderedStore σ]

/-- What a program sees in some calls: the replies, each with the head and the tail afterwards. -/
def seen (s : Session σ) : List Call → List (Reply × Option (UInt64 × UInt64))
  | [] => []
  | call :: calls =>
    ((s.perform call).1, (s.next call).handle.map fun q => (q.head, q.tail)) :: (s.next call).seen calls

variable [ReliableStore σ]

open LawfulStore (content)

/-- Every opening among the calls finds the store empty, or with 1 as its least id. -/
def OpenedAtOne (s : Session σ) : List Call → Prop
  | [] => True
  | call :: calls =>
    (∀ location, call = .reopen location →
      ∀ key, (content s.storage).firstKey? = some key → key = Key.encode 1) ∧
      (s.next call).OpenedAtOne calls

theorem seen_view (s : Session σ) (calls : List Call) : s.view.seen calls = s.seen calls := by
  induction calls generalizing s with
  | nil => rfl
  | cons call calls ih =>
    rw [seen, seen, ← ih (s.next call), ← next_view, ← reply_view]
    rfl

theorem openedAtOne_view (s : Session σ) (calls : List Call) :
    s.view.OpenedAtOne calls ↔ s.OpenedAtOne calls := by
  induction calls generalizing s with
  | nil => exact Iff.rfl
  | cons call calls ih =>
    rw [OpenedAtOne, OpenedAtOne, ← ih (s.next call), ← next_view]
    rfl

end Seen

section Beside

theorem perform_withZero (value : Bytes) (s : Session Table) (op : Operation) :
    (s.mapStorage (Table.withZero value)).perform (.on op) =
      Prod.map id (Prod.map (mapStorage (Table.withZero value)) id) (s.perform (.on op)) := by
  obtain ⟨handle, t⟩ := s
  cases handle with
  | none => rfl
  | some q =>
    unfold perform mapStorage
    dsimp only
    rw [Operation.run_withZero]
    rfl

/-- Opening with the entry of id 0 and without it: both work, and the counters are these. -/
theorem reopen_withZero (value : Bytes) {s : Session Table} {head tail : UInt64} (h : Spans s.storage head tail)
    (location : String) :
    (s.perform (.reopen location)).1 = .done (.ok ()) ∧
      s.next (.reopen location) =
        ⟨some ⟨location, true, (foundCounters head tail).1, (foundCounters head tail).2⟩, s.storage⟩ ∧
      ((s.mapStorage (Table.withZero value)).perform (.reopen location)).1 = .done (.ok ()) ∧
      (s.mapStorage (Table.withZero value)).next (.reopen location) =
        ⟨some ⟨location, true, 0, if head = tail then 0 else tail⟩, s.storage.withZero value⟩ := by
  obtain ⟨events, opened⟩ := Queue.ofStore_withZero h value location
  unfold next perform reopen mapStorage
  dsimp only
  rw [Queue.ofStore_eq h, opened]
  exact ⟨rfl, rfl, rfl, rfl⟩

/-- Two runs on tables that differ by the entry of id 0. -/
theorem seen_mapStorage_withZero {f : Fifo} {s : Session Table} (rep : f.Represents s)
    (value : Bytes) (calls : List Call) :
    (s.mapStorage (Table.withZero value)).seen calls = s.seen calls ↔ s.OpenedAtOne calls := by
  induction calls generalizing f s with
  | nil => exact iff_of_true rfl trivial
  | cons call calls ih =>
    have rep' : (f.perform call none).2.Represents (s.next call) := next_represented rep call
    cases call with
    | on op =>
      -- both runs go on alike, so it all hangs on the calls to come
      have same := perform_withZero value s op
      have next : (s.mapStorage (Table.withZero value)).next (.on op) =
          (s.next (.on op)).mapStorage (Table.withZero value) := congrArg (·.2.1) same
      rw [seen, seen, OpenedAtOne, next, same, ← ih rep']
      simp [mapStorage]
    | reopen location =>
      obtain ⟨head, tail, stores, -⟩ := rep.stores
      obtain ⟨reply, next, reply', next'⟩ := reopen_withZero value stores.spans location
      have agree := stores.spans.foundCounters_eq_iff
      have opened : s.OpenedAtOne (.reopen location :: calls) ↔
          ((0, if head = tail then 0 else tail) : UInt64 × UInt64) = foundCounters head tail ∧
            (s.next (.reopen location)).OpenedAtOne calls := by
        rw [agree]
        refine and_congr_left' ⟨fun h => h location rfl, fun h _ _ => h⟩
      rw [opened, seen, seen, reply, reply', List.cons.injEq]
      by_cases same : ((0, if head = tail then 0 else tail) : UInt64 × UInt64) = foundCounters head tail
      · have beside : (s.mapStorage (Table.withZero value)).next (.reopen location) =
            (s.next (.reopen location)).mapStorage (Table.withZero value) := by
          rw [next, next', ← same]
          rfl
        rw [beside, ih rep']
        simp [mapStorage, same]
      · rw [next, next']
        simp [same]

end Beside

section Reliable

variable {σ : Type} [OrderedStore σ] [ReliableStore σ]

open LawfulStore (content)

/-- Two stores, the one with the keys of the ids from 1 on up to some id and the other with an entry of id 0
besides. Any calls, from the first opening on, give the same replies, heads and tails on both exactly if
every opening finds the queue of the first store empty or with 1 as its least id. -/
theorem seen_withZero_iff {s zero : σ} {last : UInt64} {value : Bytes}
    (keys : (content s).HasKeys fun id => 1 ≤ id ∧ id ≤ last)
    (extra : content zero = (content s).insert (Key.encode 0) value) (calls : List Call) :
    (⟨none, zero⟩ : Session σ).seen calls = (⟨none, s⟩ : Session σ).seen calls ↔
      (⟨none, s⟩ : Session σ).OpenedAtOne calls := by
  have spans : Spans (content s) 0 last := by
    refine ⟨UInt64.zero_le, keys.congr ?_⟩
    intro id
    rw [UInt64.le_iff_toNat_le, UInt64.lt_iff_toNat_lt]
    exact Iff.rfl
  obtain ⟨items, stores⟩ := spans.exists_stores
  have beside : (⟨none, zero⟩ : Session σ).view =
      (⟨none, s⟩ : Session σ).view.mapStorage (Table.withZero value) := congrArg (Session.mk none) extra
  rw [← seen_view ⟨none, zero⟩, ← seen_view ⟨none, s⟩, ← openedAtOne_view ⟨none, s⟩, beside]
  exact seen_mapStorage_withZero (.absent stores) value calls

end Reliable

/-- Item 1 is the only one. It is gone when the store is opened again, and the ids start over. -/
theorem seen_withZero_emptied :
    let t := Table.empty.insert (Key.encode 1) [7]
    let calls : List Call := [.reopen "q", .on .dequeue, .reopen "q", .on (.enqueue [8]), .on .close,
      .reopen "q", .on (.peekById 0), .on (.update ⟨0, Key.encode 0, [9]⟩ [6])]
    (t.HasKeys fun id => 1 ≤ id ∧ id ≤ 1) ∧
      (⟨none, t.insert (Key.encode 0) [9]⟩ : Session Table).seen calls =
        (⟨none, t⟩ : Session Table).seen calls := by
  intro t calls
  have keys : t.HasKeys fun id => 1 ≤ id ∧ id ≤ 1 := by
    apply ((Stores.empty 0).added (by decide) [7]).spans.keys.congr
    intro id
    rw [UInt64.lt_iff_toNat_lt, UInt64.le_iff_toNat_le (a := 1)]
    exact Iff.rfl
  refine ⟨keys, (seen_withZero_iff (σ := Table) keys rfl calls).2 ?_⟩
  refine ⟨?_, nofun, ?_, nofun, nofun, ?_, nofun, nofun, trivial⟩
  all_goals
    rintro _ - key least
    revert least
    decide +revert

/-- Item 1 is gone and item 2 is not when the store is opened again. With the entry of id 0, the head is 0
then, and item 2 is never reached. -/
theorem seen_withZero_stuck :
    let t := (Table.empty.insert (Key.encode 1) [10]).insert (Key.encode 2) [11]
    let calls : List Call := [.reopen "memory", .on .dequeue, .reopen "memory", .on .dequeue]
    (⟨none, t⟩ : Session Table).seen calls =
        [(.done (.ok ()), some (0, 2)), (.item (.ok (Item.ofId 1 [10])), some (1, 2)),
          (.done (.ok ()), some (1, 2)), (.item (.ok (Item.ofId 2 [11])), some (2, 2))] ∧
      (⟨none, t.insert (Key.encode 0) [9]⟩ : Session Table).seen calls =
        [(.done (.ok ()), some (0, 2)), (.item (.ok (Item.ofId 1 [10])), some (1, 2)),
          (.done (.ok ()), some (0, 2)),
          (.item (.error (.storage (.keyNotFound (Key.encode 1).toHex))), some (0, 2))] :=
  ⟨rfl, rfl⟩

end Session

end DurableQueue
