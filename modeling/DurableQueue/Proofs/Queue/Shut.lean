import DurableQueue.Proofs.Queue.Requests

/-!
# Closed handles

On a closed handle every request about items is refused, without a call of the store and without a
change (`Operation.run_shut`), on any store whatsoever. The refusal says that the queue is closed, save
in two cases: a typed value is written out before the handle is looked at, and so is the counter at the
back, which at the greatest id answers that the ids are used up (`Queue.shutError`).
-/

namespace DurableQueue

/-- Why a closed handle refuses a request about items. -/
def Queue.shutError (q : Queue) : Request → QueueError
  | .add (.error e) => e
  | .add (.ok _) => if q.tail = greatestId then .exhausted else .closed
  | .revise _ (.error e) => e
  | _ => .closed

/-! ## One operation -/

section Shut

variable {σ : Type} [OrderedStore σ] {q : Queue} (shut : q.isOpen = false) (s : σ)

include shut

namespace Queue

theorem enqueue_shut (value : Bytes) :
    q.enqueue value s = ⟨.error (q.shutError (.add (.ok value))), q, s, []⟩ := by
  unfold enqueue shutError
  rw [addId?_one]
  by_cases full : q.tail = greatestId
  · rw [if_pos full, if_pos full]
  · rw [if_neg full, if_neg full, shut]
    rfl

theorem enqueueObject_shut (v : Payload.Value) :
    q.enqueueObject v s = ⟨.error (q.shutError (.add (payloadOf v))), q, s, []⟩ := by
  unfold enqueueObject
  cases payloadOf v with
  | error e => rfl
  | ok value => exact enqueue_shut shut s value

theorem itemById_shut (id : UInt64) : q.itemById id s = (.error .closed, s) := by
  unfold itemById
  rw [shut]
  rfl

theorem itemByOffset_shut (offset : UInt64) : q.itemByOffset offset s = (.error .closed, s) := by
  unfold itemByOffset
  split
  · exact itemById_shut shut s _
  · rw [shut]
    rfl

theorem dequeue_shut : q.dequeue s = ⟨.error .closed, q, s, []⟩ := by
  unfold dequeue
  rw [itemByOffset_shut shut]

theorem update_shut (item : Item) (value : Bytes) :
    q.update item value s = (⟨.error .closed, q, s, []⟩, item) := by
  unfold update
  rw [shut]
  rfl

theorem updateObject_shut (item : Item) (v : Payload.Value) :
    q.updateObject item v s =
      (⟨.error (q.shutError (.revise item (payloadOf v))), q, s, []⟩, item) := by
  unfold updateObject
  cases payloadOf v with
  | error e => rfl
  | ok value => exact update_shut shut s item value

theorem close_shut : q.close s = ⟨.ok (), q, s, []⟩ := by
  unfold close
  rw [shut]
  rfl

end Queue

/-- A closed handle refuses all requests about items; nothing is asked of the store and nothing changes,
the caller's item included. -/
theorem Operation.run_shut {op : Operation} (about : op.request.onItems = true) :
    op.run q s = ⟨op.request.error (q.shutError op.request), q, s, []⟩ := by
  cases op with
  | enqueue value => exact congrArg (Outcome.turn · .item) (Queue.enqueue_shut shut s value)
  | enqueueText text => exact congrArg (Outcome.turn · .item) (Queue.enqueue_shut shut s _)
  | enqueueObject v =>
    refine (congrArg (Outcome.turn · .item) (Queue.enqueueObject_shut shut s v)).trans ?_
    rfl
  | dequeue => exact congrArg (Outcome.turn · .item) (Queue.dequeue_shut shut s)
  | peek => exact congrArg (looked q) (Queue.itemByOffset_shut shut s 1)
  | peekByOffset offset => exact congrArg (looked q) (Queue.itemByOffset_shut shut s offset)
  | peekById id => exact congrArg (looked q) (Queue.itemById_shut shut s id)
  | update item value => exact congrArg changed (Queue.update_shut shut s item value)
  | updateText item text => exact congrArg changed (Queue.update_shut shut s item _)
  | updateObject item v =>
    refine (congrArg changed (Queue.updateObject_shut shut s item v)).trans ?_
    rfl
  | counters => cases about
  | close => cases about

/-- Whatever is called on a closed handle leaves it and the store as they are. -/
theorem Operation.kept_shut (op : Operation) :
    (op.run q s).queue = q ∧ (op.run q s).storage = s := by
  cases about : op.request.onItems with
  | true =>
    rw [op.run_shut shut s about]
    exact ⟨rfl, rfl⟩
  | false =>
    cases op with
    | counters => exact ⟨rfl, rfl⟩
    | close =>
      unfold Operation.run
      rw [Queue.close_shut shut]
      exact ⟨rfl, rfl⟩
    | _ => cases about

end Shut

/-! ## After closing -/

/-- Closing closes, whether or not the flush works, and keeps the counters. -/
theorem Queue.queue_close {σ : Type} [OrderedStore σ] (q : Queue) (s : σ) :
    (q.close s).queue = { q with isOpen := false } := by
  have cases := closed q s
  generalize q.close s = outcome at cases
  cases cases with
  | already shut => rw [← shut]
  | failed opened flush => rfl
  | flushed opened flush => rfl

namespace Session

variable {σ : Type} [OrderedStore σ]

theorem next_shut {s : Session σ} {q : Queue} (present : s.handle = some q)
    (shut : q.isOpen = false) (op : Operation) : s.next (.on op) = s := by
  obtain ⟨handle, storage⟩ := s
  obtain rfl : handle = some q := present
  obtain ⟨queue, same⟩ := op.kept_shut shut storage
  show (⟨some (op.run q storage).queue, (op.run q storage).storage⟩ : Session σ) = _
  rw [queue, same]

theorem after_shut {s : Session σ} {q : Queue} (present : s.handle = some q)
    (shut : q.isOpen = false) (ops : List Operation) : s.after (ops.map .on) = s := by
  induction ops with
  | nil => rfl
  | cons op ops ih =>
    show (s.next (.on op)).after (ops.map .on) = s
    rw [next_shut present shut op, ih]

/-- An operation about items on a closed handle: refused, with no call of the store. -/
theorem refused_shut {s : Session σ} {q : Queue} (present : s.handle = some q)
    (shut : q.isOpen = false) {op : Operation} (about : op.request.onItems = true) :
    (s.perform (.on op)).1 = op.request.error (q.shutError op.request) ∧
      (s.watched.next (.on op)).storage.visited = [] := by
  obtain ⟨handle, storage⟩ := s
  obtain rfl : handle = some q := present
  exact ⟨congrArg Turn.reply (op.run_shut shut storage about),
    congrArg (·.storage.visited) (op.run_shut shut (Watched.start storage) about)⟩

/-- Once a handle has been closed, whether or not the flush worked, and whatever has been called on it
since: an operation about items is refused, no call of the store is made, and the handle with its
counters, the store and the caller's item are as before. -/
theorem refused_after_close (q : Queue) (s : σ) (later : List Operation) {op : Operation}
    (about : op.request.onItems = true) :
    let closed := ((⟨some q, s⟩ : Session σ).next (.on .close)).after (later.map .on)
    closed.handle = some { q with isOpen := false } ∧
      (closed.perform (.on op)).1 = op.request.error (q.shutError op.request) ∧
      closed.next (.on op) = closed ∧ (closed.watched.next (.on op)).storage.visited = [] := by
  intro closed
  have present : closed.handle = some { q with isOpen := false } := by
    have now : ((⟨some q, s⟩ : Session σ).next (.on .close)).handle =
        some { q with isOpen := false } := congrArg some (q.queue_close s)
    rw [← now]
    exact congrArg Session.handle (after_shut now rfl later)
  obtain ⟨reply, quiet⟩ := refused_shut present rfl about
  exact ⟨present, reply, next_shut present rfl op, quiet⟩

/-- The flush of the closing fails, and the item to be revised later is not one of the queue's. -/
theorem refused_after_close_flaky :
    let q : Queue := ⟨"q", true, 4, greatestId⟩
    let s : Flaky (· == .flush) := ⟨.empty, [some (.io "down")]⟩
    let item : Item := ⟨9, [], [5]⟩
    let closed := ((⟨some q, s⟩ : Session (Flaky (· == .flush))).next (.on .close)).after
      ([Operation.dequeue, .close].map .on)
    (Operation.update item [1]).request.onItems = true ∧
      ((⟨some q, s⟩ : Session (Flaky (· == .flush))).perform (.on .close)).1 =
        .done (.error (.storage (.io "down"))) ∧
      closed.handle = some { q with isOpen := false } ∧
      (closed.perform (.on (.update item [1]))).1 = .updated (.error .closed) item ∧
      closed.next (.on (.update item [1])) = closed ∧
      (closed.watched.next (.on (.update item [1]))).storage.visited = [] := by
  intro q s item closed
  exact ⟨rfl, rfl, refused_after_close q s [.dequeue, .close] rfl⟩

/-- With the greatest id in the queue, putting in after closing is refused as exhausted. -/
theorem exhausted_after_close :
    let s := (⟨none, Table.empty.insert (Key.encode greatestId) [7]⟩ : Session Table).after
      [.reopen "memory", .on .close]
    s.handle = some ⟨"memory", false, greatestId - 1, greatestId⟩ ∧
      (s.perform (.on (.enqueue [1]))).1 = .item (.error .exhausted) := by
  intro s
  have present : s.handle = some ⟨"memory", false, greatestId - 1, greatestId⟩ := by decide
  exact ⟨present, (refused_shut present rfl rfl).1⟩

end Session

end DurableQueue
