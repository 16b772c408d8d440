import DurableQueue.Proofs.Queue.Requests
import DurableQueue.Proofs.Queue.Tracking

/-!
# Failures leave no trace

If the calls of a store that fail do nothing, then so do the requests about items that fail, for whatever
reason: the handle, the entries and the caller's item are as before (`Ran.untouched`). Made again when the
store works, such a request does what it would have done in the first place
(`Session.failure_leaves_no_trace`).
-/

namespace DurableQueue

/-- The error that a reply tells, if it tells one. -/
def Reply.error? : Reply → Option QueueError
  | item (.error e) => some e
  | updated (.error e) _ => some e
  | done (.error e) => some e
  | _ => none

/-- The caller's item, as a reply gives it back. -/
def Reply.given? : Reply → Option Item
  | updated _ given => some given
  | _ => none

/-- The item that a caller hands in with a request. -/
def Request.given? : Request → Option Item
  | revise item _ => some item
  | _ => none

namespace Request

variable {request : Request} {e : QueueError}

/-- A failing request gives the caller's item back as it was. -/
theorem given?_error (about : request.onItems = true) : (request.error e).given? = request.given? := by
  cases request with
  | count => cases about
  | close => cases about
  | _ => rfl

end Request

section Lawful

variable {σ : Type} [OrderedStore σ] [LawfulStore σ] {q : Queue} {s : σ} {request : Request}

open LawfulStore (content)

/-- What the store was asked before a request was given up has left the entries as they were. -/
theorem Stopped.content_eq {e : QueueError} {s' : σ} (h : Stopped q s request e s') :
    content s' = content s := by
  cases h with
  | unread sought above upto get => exact (LawfulStore.get _ s).on_error get
  | missing sought above upto get => exact ((LawfulStore.get _ s).on_ok get).2
  | unadded room put => exact (LawfulStore.put _ _ s).on_error put
  | untaken something get delete =>
    exact ((LawfulStore.delete _ _).on_error delete).trans ((LawfulStore.get _ s).on_ok get).2
  | unrevised above upto put => exact (LawfulStore.put _ _ s).on_error put

/-- A request that fails changes nothing. -/
theorem Ran.untouched {turn : Turn σ} (h : Ran q s request turn) (about : request.onItems = true)
    {e : QueueError} (failed : turn.reply.error? = some e) :
    turn.reply.given? = request.given? ∧ turn.queue = q ∧ content turn.storage = content s := by
  cases h with
  | refused about cause => exact ⟨Request.given?_error about, rfl, rfl⟩
  | stopped about opened cause => exact ⟨Request.given?_error about, rfl, cause.content_eq⟩
  | added room opened put => cases failed
  | taken something opened get delete => cases failed
  | shown stays opened sought above upto get => cases failed
  | revised opened above upto put => cases failed
  | counted => cases failed
  | closed closed => cases about

namespace Session

/-- A call in which no call of the store fails does what it does on a table with the same entries. -/
theorem perform_of_works {s : Session σ} {call : Call} (works : s.fault call = none) :
    (s.perform call).1 = (s.view.perform call).1 ∧ (s.next call).view = s.view.next call := by
  have same := perform_view s call
  rw [works] at same
  exact Prod.mk.inj same

/-- An operation about items that fails on a lawful store leaves the handle, the entries and the caller's
item as they were. In any session with what it has left, made again while no call of the store fails, it
replies what it would have replied on a working store in the first place, and leads to the same. -/
theorem failure_leaves_no_trace {q : Queue} (s : σ) {op : Operation}
    (about : op.request.onItems = true) {e : QueueError}
    (failed : ((⟨some q, s⟩ : Session σ).perform (.on op)).1.error? = some e) :
    let before : Session σ := ⟨some q, s⟩
    let after := before.next (.on op)
    after.handle = some q ∧ content after.storage = content s ∧
      (before.perform (.on op)).1.given? = op.request.given? ∧
      ∀ again : Session σ, again.view = after.view → again.fault (.on op) = none →
        (again.perform (.on op)).1 = (before.view.perform (.on op)).1 ∧
          (again.next (.on op)).view = before.view.next (.on op) := by
  intro before after
  obtain ⟨given, queue, same⟩ := (op.ran_any q s).untouched about failed
  have view : after.view = before.view := by
    show (⟨some (op.run q s).queue, content (op.run q s).storage⟩ : Session Table) = _
    rw [queue, same]
    rfl
  refine ⟨congrArg some queue, same, given, ?_⟩
  intro again left works
  rw [← view, ← left]
  exact perform_of_works works

end Session

end Lawful

namespace Session

/-- The deletion fails after the front has been read. Then the item is taken out all the same, from between
a key that is none of the queue's and a gap. -/
theorem failure_leaves_no_trace_flaky :
    let t : Table := ((Table.empty.insert (Key.encode 3) [7]).insert (Key.encode 6) [8]).insert
      (Key.encode 2 ++ [1]) [9]
    let before : Session (Flaky fun _ => true) :=
      ⟨some ⟨"q", true, 2, 6⟩, ⟨t, [none, some (.io "down")]⟩⟩
    let after := before.next (.on .dequeue)
    (before.perform (.on .dequeue)).1.error? = some (.storage (.io "down")) ∧
      after.handle = some ⟨"q", true, 2, 6⟩ ∧ LawfulStore.content after.storage = t ∧
      (before.perform (.on .dequeue)).1.given? = none ∧
      after.fault (.on .dequeue) = none ∧
      (after.perform (.on .dequeue)).1 = .item (.ok (Item.ofId 3 [7])) ∧
      (after.next (.on .dequeue)).view = ⟨some ⟨"q", true, 3, 6⟩, t.erase (Key.encode 3)⟩ := by
  intro t before after
  have failed : (before.perform (.on .dequeue)).1.error? = some (.storage (.io "down")) := rfl
  have works : after.fault (.on .dequeue) = none := by decide
  obtain ⟨handle, same, given, again⟩ := failure_leaves_no_trace _ rfl failed
  obtain ⟨reply, next⟩ := again after rfl works
  exact ⟨failed, handle, same, given, works, reply, next⟩

end Session

end DurableQueue
