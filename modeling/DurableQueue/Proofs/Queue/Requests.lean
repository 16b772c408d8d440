import DurableQueue.Proofs.Queue.Outcomes
import DurableQueue.Proofs.Queue.Session

/-!
# Requests

The operations on a handle are seven requests, once every payload is written out as bytes. `Ran` tells
all that a request can come to, on any store whatsoever and in exact numbers: it is refused without a
call of the store (`Refusal`), it is stopped by an answer of the store (`Stopped`), or it has its one
effect. `Operation.ran_any` says that there is nothing else, whatever the counters are, so later proofs take
cases on `Ran` and do not open the operations again.
-/

namespace DurableQueue

/-! ## Operations as requests -/

/-- What an operation asks for, its payload written out or the reason why it cannot be. -/
inductive Request where
  | add (payload : Except QueueError Bytes)
  | take
  | lookAt (offset : UInt64)
  | look (id : UInt64)
  | revise (item : Item) (payload : Except QueueError Bytes)
  | count
  | close

def Operation.request : Operation → Request
  | enqueue value => .add (.ok value)
  | enqueueText text => .add (.ok (Utf8.encode text))
  | enqueueObject v => .add (payloadOf v)
  | dequeue => .take
  | peek => .lookAt 1
  | peekByOffset offset => .lookAt offset
  | peekById id => .look id
  | update item value => .revise item (.ok value)
  | updateText item text => .revise item (.ok (Utf8.encode text))
  | updateObject item v => .revise item (payloadOf v)
  | counters => .count
  | close => .close

/-- Only `dequeue` takes out. -/
theorem Operation.eq_dequeue {op : Operation} (asked : op.request = .take) : op = .dequeue := by
  cases op <;> first | rfl | cases asked

/-- Only `close` closes. -/
theorem Operation.eq_close {op : Operation} (asked : op.request = .close) : op = .close := by
  cases op <;> first | rfl | cases asked

namespace Request

/-- Is the request about items? -/
def onItems : Request → Bool
  | count | close => false
  | _ => true

/-- The reply to a request that fails. The caller's item, if he gave one, comes back as it was. -/
def error (e : QueueError) : Request → Reply
  | revise item _ => .updated (.error e) item
  | close => .done (.error e)
  | _ => .item (.error e)

theorem error_inj {request : Request} {e e' : QueueError}
    (h : request.error e = .item (.error e')) : e = e' := by
  cases request <;> cases h <;> rfl

/-- Where a look-up looks, as a number that need not be an id. -/
def sought? (q : Queue) : Request → Option Nat
  | take => some (q.head.toNat + 1)
  | lookAt offset => some (q.head.toNat + offset.toNat)
  | look id => some id.toNat
  | _ => none

end Request

/-! ## What requests come to -/

/-- Why there is nothing to be had at a place, whatever the store holds. A place that is no id is reported
as the greatest id. -/
inductive Unreachable (q : Queue) (n : Nat) : QueueError → Prop where
  | closed (shut : q.isOpen = false) : Unreachable q n .closed
  | empty (opened : q.isOpen = true) (nothing : q.head = q.tail) : Unreachable q n .empty
  | outOfBounds {id} (opened : q.isOpen = true) (something : q.head ≠ q.tail)
      (reported : id.toNat = min n greatestId.toNat) (out : n ≤ q.head.toNat ∨ q.tail.toNat < n) :
      Unreachable q n (.outOfBounds id q.head q.tail)

/-- Why a request is refused before any call of the store. -/
inductive Refusal (q : Queue) : Request → QueueError → Prop where
  | unwritable {e} : Refusal q (.add (.error e)) e
  | exhausted {value} (full : q.tail = greatestId) : Refusal q (.add (.ok value)) .exhausted
  | closed {value} (room : q.tail ≠ greatestId) (shut : q.isOpen = false) :
      Refusal q (.add (.ok value)) .closed
  | unwritableRevision {item e} : Refusal q (.revise item (.error e)) e
  | revision {item value e} (cause : Unreachable q item.id.toNat e) :
      Refusal q (.revise item (.ok value)) e
  | lookUp {request n e} (sought : request.sought? q = some n) (cause : Unreachable q n e) :
      Refusal q request e

section Ran

variable {σ : Type} [OrderedStore σ]

/-- Why and in which state of the store a request is given up. -/
inductive Stopped (q : Queue) (s : σ) : Request → QueueError → σ → Prop where
  | unread {request id e s'} (sought : request.sought? q = some id.toNat) (above : q.head < id)
      (upto : id ≤ q.tail) (get : OrderedStore.get (Key.encode id) s = (.error e, s')) :
      Stopped q s request (.storage e) s'
  | missing {request id s'} (sought : request.sought? q = some id.toNat) (above : q.head < id)
      (upto : id ≤ q.tail) (get : OrderedStore.get (Key.encode id) s = (.ok none, s')) :
      Stopped q s request (.storage (.keyNotFound (Key.encode id).toHex)) s'
  | unadded {value e s'} (room : q.tail ≠ greatestId)
      (put : OrderedStore.put (Key.encode (q.tail + 1)) value s = (.error e, s')) :
      Stopped q s (.add (.ok value)) (.storage e) s'
  | untaken {value s' e s''} (something : q.head < q.tail)
      (get : OrderedStore.get (Key.encode (q.head + 1)) s = (.ok (some value), s'))
      (delete : OrderedStore.delete (Key.encode (q.head + 1)) s' = (.error e, s'')) :
      Stopped q s .take (.storage e) s''
  | unrevised {item value e s'} (above : q.head < item.id) (upto : item.id ≤ q.tail)
      (put : OrderedStore.put (Key.encode item.id) value s = (.error e, s')) :
      Stopped q s (.revise item (.ok value)) (.storage e) s'

/-- Everything that can come of a request. -/
inductive Ran (q : Queue) (s : σ) : Request → Turn σ → Prop where
  | refused {request e} (about : request.onItems = true) (cause : Refusal q request e) :
      Ran q s request ⟨request.error e, q, s, []⟩
  | stopped {request e s'} (about : request.onItems = true) (opened : q.isOpen = true)
      (cause : Stopped q s request e s') : Ran q s request ⟨request.error e, q, s', []⟩
  | added {value s'} (room : q.tail ≠ greatestId) (opened : q.isOpen = true)
      (put : OrderedStore.put (Key.encode (q.tail + 1)) value s = (.ok (), s')) :
      Ran q s (.add (.ok value)) ⟨.item (.ok (Item.ofId (q.tail + 1) value)),
        { q with tail := q.tail + 1 }, s', [.enqueued (q.tail + 1) value.length]⟩
  | taken {value s' s''} (something : q.head < q.tail) (opened : q.isOpen = true)
      (get : OrderedStore.get (Key.encode (q.head + 1)) s = (.ok (some value), s'))
      (delete : OrderedStore.delete (Key.encode (q.head + 1)) s' = (.ok (), s'')) :
      Ran q s .take ⟨.item (.ok (Item.ofId (q.head + 1) value)), { q with head := q.head + 1 }, s'',
        [.dequeued (q.head + 1)]⟩
  | shown {request id value s'} (stays : request ≠ .take) (opened : q.isOpen = true)
      (sought : request.sought? q = some id.toNat) (above : q.head < id) (upto : id ≤ q.tail)
      (get : OrderedStore.get (Key.encode id) s = (.ok (some value), s')) :
      Ran q s request ⟨.item (.ok (Item.ofId id value)), q, s', []⟩
  | revised {item value s'} (opened : q.isOpen = true) (above : q.head < item.id)
      (upto : item.id ≤ q.tail) (put : OrderedStore.put (Key.encode item.id) value s = (.ok (), s')) :
      Ran q s (.revise item (.ok value)) ⟨.updated (.ok ()) (Item.ofId item.id value), q, s',
        [.updated item.id value.length]⟩
  | counted : Ran q s .count ⟨.counters q.length q.head q.tail, q, s, []⟩
  | closed {outcome} (closed : Queue.Closed q s outcome) : Ran q s .close (outcome.turn .done)

namespace Queue

theorem ran_add (q : Queue) (value : Bytes) (s : σ) :
    Ran q s (.add (.ok value)) ((q.enqueue value s).turn .item) := by
  have cases := enqueued q value s
  generalize q.enqueue value s = outcome at cases
  cases cases with
  | exhausted full => exact .refused rfl (.exhausted full)
  | closed room shut => exact .refused rfl (.closed room shut)
  | failed room opened put => exact .stopped rfl opened (.unadded room put)
  | added room opened put => exact .added room opened put

theorem ran_addObject (q : Queue) (v : Payload.Value) (s : σ) :
    Ran q s (.add (payloadOf v)) ((q.enqueueObject v s).turn .item) := by
  unfold enqueueObject
  cases payloadOf v with
  | error e => exact .refused rfl .unwritable
  | ok value => exact ran_add q value s

/-- What is not between the counters cannot be reached. -/
theorem unreachable_of_out {q : Queue} {id : UInt64} (opened : q.isOpen = true)
    (something : q.head ≠ q.tail) (out : id ≤ q.head ∨ q.tail < id) :
    Unreachable q id.toNat (.outOfBounds id q.head q.tail) := by
  rw [UInt64.le_iff_toNat_le, UInt64.lt_iff_toNat_lt] at out
  exact .outOfBounds opened something (min_greatestId id).symm out

section LookUp

variable {q : Queue} {s s' : σ} {e : QueueError} {request : Request}

/-- A look-up of an id that fails, for any request that looks there. -/
theorem Looked.ran_error {id : UInt64} (h : Looked q id s (.error e, s')) (about : request.onItems = true)
    (sought : request.sought? q = some id.toNat) : Ran q s request ⟨request.error e, q, s', []⟩ := by
  cases h with
  | closed shut => exact .refused about (.lookUp sought (.closed shut))
  | empty opened nothing => exact .refused about (.lookUp sought (.empty opened nothing))
  | outOfBounds opened something out =>
    exact .refused about (.lookUp sought (unreachable_of_out opened something out))
  | failed opened above upto get => exact .stopped about opened (.unread sought above upto get)
  | missing opened above upto get => exact .stopped about opened (.missing sought above upto get)

/-- A look-up at an offset that fails, for any request that looks there. -/
theorem LookedAt.ran_error {offset : UInt64} (h : LookedAt q offset s (.error e, s'))
    (about : request.onItems = true) (sought : request.sought? q = some (q.head.toNat + offset.toNat)) :
    Ran q s request ⟨request.error e, q, s', []⟩ := by
  cases h with
  | id sum looked => exact looked.ran_error about (sought.trans (congrArg some sum.symm))
  | closed beyond shut => exact .refused about (.lookUp sought (.closed shut))
  | empty beyond opened nothing => exact .refused about (.lookUp sought (.empty opened nothing))
  | outOfBounds beyond opened something =>
    have small := q.tail.toNat_lt_size
    refine .refused about (.lookUp sought (.outOfBounds opened something ?_ (Or.inr (by omega))))
    rw [toNat_greatestId]
    omega

end LookUp

theorem ran_look (q : Queue) (id : UInt64) (s : σ) :
    Ran q s (.look id) (Operation.looked q (q.itemById id s)) := by
  have cases := looked q id s
  generalize q.itemById id s = reply at cases
  obtain ⟨e | item, s'⟩ := reply
  · exact cases.ran_error rfl rfl
  · cases cases with
    | found opened above upto get => exact .shown nofun opened rfl above upto get

theorem ran_lookAt (q : Queue) (offset : UInt64) (s : σ) :
    Ran q s (.lookAt offset) (Operation.looked q (q.itemByOffset offset s)) := by
  have cases := lookedAt q offset s
  generalize q.itemByOffset offset s = reply at cases
  obtain ⟨e | item, s'⟩ := reply
  · exact cases.ran_error rfl rfl
  · cases cases with
    | id sum looked =>
      cases looked with
      | found opened above upto get => exact .shown nofun opened (congrArg some sum.symm) above upto get

theorem ran_take (q : Queue) (s : σ) : Ran q s .take ((q.dequeue s).turn .item) := by
  unfold dequeue
  have cases := lookedAt q 1 s
  generalize q.itemByOffset 1 s = reply at cases ⊢
  obtain ⟨e | item, s'⟩ := reply
  · have ran : Ran q s .take ⟨.item (.error e), q, s', []⟩ := cases.ran_error rfl rfl
    exact ran
  · cases cases with
    | @id id sum _ looked =>
      cases looked with
      | found opened above upto get =>
        have something : q.head < q.tail := UInt64.lt_of_lt_of_le above upto
        obtain rfl : id = q.head + 1 := UInt64.toNat_inj.1 (sum.trans (toNat_succ_of_lt something).symm)
        dsimp only [Item.ofId]
        rcases delete : OrderedStore.delete (Key.encode (q.head + 1)) s' with ⟨_ | _, s''⟩
        · exact .stopped rfl opened (.untaken something get delete)
        · exact .taken something opened get delete

theorem ran_revise (q : Queue) (item : Item) (value : Bytes) (s : σ) :
    Ran q s (.revise item (.ok value)) (Operation.changed (q.update item value s)) := by
  have cases := updated q item value s
  generalize q.update item value s = outcome at cases
  cases cases with
  | closed shut => exact .refused rfl (.revision (.closed shut))
  | empty opened nothing => exact .refused rfl (.revision (.empty opened nothing))
  | outOfBounds opened something out =>
    exact .refused rfl (.revision (unreachable_of_out opened something out))
  | failed opened above upto put => exact .stopped rfl opened (.unrevised above upto put)
  | written opened above upto put => exact .revised opened above upto put

theorem ran_reviseObject (q : Queue) (item : Item) (v : Payload.Value) (s : σ) :
    Ran q s (.revise item (payloadOf v)) (Operation.changed (q.updateObject item v s)) := by
  unfold updateObject
  cases payloadOf v with
  | error e => exact .refused rfl .unwritableRevision
  | ok value => exact ran_revise q item value s

end Queue

namespace Operation

/-! ### Operations with one request -/

/-- Whatever puts in a payload does it as `enqueue` does. -/
theorem run_of_add {op : Operation} {value : Bytes} (asked : op.request = .add (.ok value)) (q : Queue)
    (s : σ) : op.run q s = (q.enqueue value s).turn .item := by
  cases op with
  | enqueue payload => cases asked; rfl
  | enqueueText text => cases asked; rfl
  | enqueueObject v =>
    have written : payloadOf v = .ok value := Request.add.inj asked
    show (q.enqueueObject v s).turn .item = _
    unfold Queue.enqueueObject
    rw [written]
  | _ => cases asked

/-- Whatever gives an item a payload does it as `update` does. -/
theorem run_of_revise {op : Operation} {item : Item} {value : Bytes}
    (asked : op.request = .revise item (.ok value)) (q : Queue) (s : σ) :
    op.run q s = changed (q.update item value s) := by
  cases op with
  | update item payload => cases asked; rfl
  | updateText item text => cases asked; rfl
  | updateObject item v =>
    obtain ⟨rfl, written⟩ := Request.revise.inj asked
    show changed (q.updateObject item v s) = _
    unfold Queue.updateObject
    rw [written]
  | _ => cases asked

end Operation

/-- Running an operation is one of the things that can come of its request, whatever the counters are. -/
theorem Operation.ran_any (q : Queue) (s : σ) (op : Operation) : Ran q s op.request (op.run q s) := by
  cases op with
  | enqueue value => exact Queue.ran_add q value s
  | enqueueText text => exact Queue.ran_add q _ s
  | enqueueObject v => exact Queue.ran_addObject q v s
  | dequeue => exact Queue.ran_take q s
  | peek => exact Queue.ran_lookAt q 1 s
  | peekByOffset offset => exact Queue.ran_lookAt q offset s
  | peekById id => exact Queue.ran_look q id s
  | update item value => exact Queue.ran_revise q item value s
  | updateText item text => exact Queue.ran_revise q item _ s
  | updateObject item v => exact Queue.ran_reviseObject q item v s
  | counters => exact .counted
  | close => exact .closed (Queue.closed q s)

end Ran

end DurableQueue
