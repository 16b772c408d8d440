import DurableQueue.Proofs.Queue.Items
import DurableQueue.Proofs.Queue.Tracking

/-!
# The list model

What a queue is for its callers: a list of ids with payloads, the front first, and the id that the
next item gets. There are no keys, counters or recovery in it. A call in which the store fails answers
with the error and changes nothing, except that closing lets go of the handle all the same and that an
opening gives the handle up.
-/

namespace DurableQueue

/-- Is there a handle, and is it open? -/
inductive Standing where
  | absent | opened | closed
  deriving DecidableEq

/-- How the handle stands after closing. -/
def Standing.shut : Standing → Standing
  | absent => absent
  | _ => closed

/-- A list of items, the id of the next item, and how the handle stands. -/
structure Fifo where
  items : List (UInt64 × Bytes)
  next : Nat
  standing : Standing

namespace Fifo

/-- The id of the last item put in, or 0. -/
def tail (f : Fifo) : UInt64 := UInt64.ofNat (f.next - 1)

/-- The id of the last item taken out, or 0. -/
def head (f : Fifo) : UInt64 := UInt64.ofNat (f.next - 1 - f.items.length)

/-! ## Operations -/

/-- Answers with what was found under the id asked for. -/
def look (f : Fifo) (asked : UInt64) (found : Option (UInt64 × Bytes)) : Except QueueError Item :=
  if f.standing ≠ .opened then .error .closed
  else if f.items = [] then .error .empty
  else match found with
  | none => .error (.outOfBounds asked f.head f.tail)
  | some (id, value) => .ok (Item.ofId id value)

def byId (f : Fifo) (id : UInt64) : Except QueueError Item :=
  f.look id (f.items.find? (·.1 = id))

/-- Places are counted from 1, and an id that is asked for is at most the greatest. -/
def byOffset (f : Fifo) (offset : UInt64) : Except QueueError Item :=
  f.look (UInt64.ofNat (min (f.head.toNat + offset.toNat) (UInt64.size - 1)))
    (if offset = 0 then none else f.items[offset.toNat - 1]?)

def enqueue (f : Fifo) (value : Bytes) : Reply × Fifo :=
  if UInt64.size ≤ f.next then (.item (.error .exhausted), f)
  else if f.standing ≠ .opened then (.item (.error .closed), f)
  else
    let id := UInt64.ofNat f.next
    (.item (.ok (Item.ofId id value)), { f with items := f.items ++ [(id, value)], next := f.next + 1 })

def dequeue (f : Fifo) : Reply × Fifo :=
  if f.standing ≠ .opened then (.item (.error .closed), f)
  else match f.items with
  | [] => (.item (.error .empty), f)
  | (id, value) :: rest => (.item (.ok (Item.ofId id value)), { f with items := rest })

def update (f : Fifo) (item : Item) (value : Bytes) : Reply × Fifo :=
  match f.byId item.id with
  | .error e => (.updated (.error e) item, f)
  | .ok _ =>
    (.updated (.ok ()) (Item.ofId item.id value),
      { f with items := revalued item.id value f.items })

/-- Makes a call on the handle. -/
def run (f : Fifo) : Operation → Reply × Fifo
  | .enqueue value => f.enqueue value
  | .enqueueText text => f.enqueue (Utf8.encode text)
  | .enqueueObject v =>
    match payloadOf v with
    | .error e => (.item (.error e), f)
    | .ok value => f.enqueue value
  | .dequeue => f.dequeue
  | .peek => (.item (f.byOffset 1), f)
  | .peekByOffset offset => (.item (f.byOffset offset), f)
  | .peekById id => (.item (f.byId id), f)
  | .update item value => f.update item value
  | .updateText item text => f.update item (Utf8.encode text)
  | .updateObject item v =>
    match payloadOf v with
    | .error e => (.updated (.error e) item, f)
    | .ok value => f.update item value
  | .counters => (.counters (UInt64.ofNat f.items.length) f.head f.tail, f)
  | .close => (.done (.ok ()), { f with standing := f.standing.shut })

/-! ## Runs -/

/-- How the handle stands after a call in which the store fails. -/
def failedStanding (f : Fifo) : Call → Standing
  | .on .close => f.standing.shut
  | .on _ => f.standing
  | .reopen _ => .absent

/-- Makes a call, with the error of the store if the store fails in it. Opening an empty queue starts
the ids again at 1. -/
def perform (f : Fifo) (call : Call) : Option StoreError → Reply × Fifo
  | some e => (call.failed e, { f with standing := f.failedStanding call })
  | none =>
    match call with
    | .on op => if f.standing = .absent then (.noQueue, f) else f.run op
    | .reopen _ =>
      (.done (.ok ()), { f with standing := .opened, next := if f.items = [] then 1 else f.next })

/-- The replies to some calls. -/
def replies (f : Fifo) : List (Call × Option StoreError) → List Reply
  | [] => []
  | (call, fault) :: calls => (f.perform call fault).1 :: (f.perform call fault).2.replies calls

end Fifo

end DurableQueue
