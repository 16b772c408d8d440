import DurableQueue.Event
import DurableQueue.Item
import DurableQueue.Store.Durable

/-!
# The queue

A first-in, first-out queue over an ordered store. Every item is stored under the key of its id, so
the order of the keys is the order of the queue. The handle keeps two counters: the live ids are those
above `head` and up to `tail`. There is no other record of them; opening a store recovers the counters
from its least and greatest key (`recover`).

Each call answers with an `Outcome`: its result, the handle and the storage afterwards, and the events
it gave rise to. A call that fails leaves the handle as it was, closing apart.
-/

namespace DurableQueue

/-- A handle on a queue. -/
structure Queue where
  /-- where the store is, as given at the opening -/
  location : String
  /-- does the handle still have its store? -/
  isOpen : Bool
  /-- the id of the last item taken out, or 0 -/
  head : UInt64
  /-- the id of the last item put in, or 0 -/
  tail : UInt64
  deriving DecidableEq, Repr

/-- What a call on a handle leads to. -/
structure Outcome (σ α : Type) where
  result : Except QueueError α
  queue : Queue
  storage : σ
  events : List Event

/-- The greatest id. -/
def greatestId : UInt64 := UInt64.ofNat (UInt64.size - 1)

/-- The sum of two ids, if it is an id. -/
def addId? (a b : UInt64) : Option UInt64 :=
  if a.toNat + b.toNat < UInt64.size then some (a + b) else none

namespace Queue

variable {σ : Type} [OrderedStore σ]

/-! ## Opening -/

/-- The id behind a key of the store. -/
def idOfKey (key : Bytes) : Except QueueError UInt64 := (Key.decode key).mapError .keyDecode

/-- Asks the store for a key and reads the id behind it, if there is a key. -/
def storedId (call : σ → Except StoreError (Option Bytes) × σ) (s : σ) :
    Except QueueError (Option UInt64) × σ :=
  match call s with
  | (.error e, s) => (.error (.storage e), s)
  | (.ok none, s) => (.ok none, s)
  | (.ok (some key), s) => ((idOfKey key).map some, s)

/-- The counters of a store's content: the ids of its least and greatest key bound the live ids. An
item of id 0 is never one of them, whatever the queue. -/
def recover (s : σ) : Except QueueError (UInt64 × UInt64) × σ × List Event :=
  match storedId OrderedStore.firstKey s with
  | (.error e, s) => (.error e, s, [])
  | (.ok first, s) =>
    match storedId OrderedStore.lastKey s with
    | (.error e, s) => (.error e, s, [])
    | (.ok last, s) =>
      match first, last with
      | some first, some last =>
        if first = 0 then (.ok (0, last), s, [.zeroIdStored])
        else (.ok (first - 1, last), s, [])
      | _, _ => (.ok (0, 0), s, [])

/-- A handle on the queue that an opened store holds. -/
def ofStore (location : String) (s : σ) : Except QueueError Queue × σ × List Event :=
  match recover s with
  | (.error e, s, events) => (.error e, s, events)
  | (.ok (head, tail), s, events) =>
    (.ok ⟨location, true, head, tail⟩, s, events ++ [.opened location head tail (tail - head)])

/-- Opens the store on disk and then the queue it holds. -/
def connect (options : StoreOptions) (s : Durable) :
    Except QueueError Queue × Durable × List Event :=
  match s.connect options with
  | (.error e, s, events) => (.error (.storage e), s, events)
  | (.ok (), s, events) =>
    let (opened, s, more) := ofStore s.path s
    (opened, s, events ++ more)

/-! ## Looking -/

/-- The number of items in the queue. -/
def length (q : Queue) : UInt64 := q.tail - q.head

/-- Is there no item in the queue? -/
def isEmpty (q : Queue) : Bool := q.length == 0

/-- Why an id is not live, if it is not. -/
def checkBounds (q : Queue) (id : UInt64) : Except QueueError Unit :=
  if q.length < 1 then .error .empty
  else if id ≤ q.head ∨ q.tail < id then .error (.outOfBounds id q.head q.tail)
  else .ok ()

/-- The item with an id. -/
def itemById (q : Queue) (id : UInt64) (s : σ) : Except QueueError Item × σ :=
  if !q.isOpen then (.error .closed, s)
  else match q.checkBounds id with
  | .error e => (.error e, s)
  | .ok () =>
    let key := Key.encode id
    match OrderedStore.get key s with
    | (.error e, s) => (.error (.storage e), s)
    | (.ok none, s) => (.error (.storage (.keyNotFound key.toHex)), s)
    | (.ok (some value), s) => (.ok ⟨id, key, value⟩, s)

/-- The item some places from the front; the front itself is at offset 1. An offset beyond every id is
out of bounds like any other. -/
def itemByOffset (q : Queue) (offset : UInt64) (s : σ) : Except QueueError Item × σ :=
  match addId? q.head offset with
  | some id => q.itemById id s
  | none =>
    if !q.isOpen then (.error .closed, s)
    else if q.length < 1 then (.error .empty, s)
    else (.error (.outOfBounds greatestId q.head q.tail), s)

/-- Answers without a change of the handle. -/
def answer {α : Type} (q : Queue) (reply : Except QueueError α × σ) : Outcome σ α :=
  ⟨reply.1, q, reply.2, []⟩

/-- The front item, which stays where it is. -/
def peek (q : Queue) (s : σ) : Outcome σ Item := q.answer (q.itemByOffset 1 s)

/-- The item at an offset from the front. -/
def peekByOffset (q : Queue) (offset : UInt64) (s : σ) : Outcome σ Item :=
  q.answer (q.itemByOffset offset s)

/-- The item with an id. -/
def peekById (q : Queue) (id : UInt64) (s : σ) : Outcome σ Item := q.answer (q.itemById id s)

/-! ## Changing -/

/-- Puts a payload at the back. -/
def enqueue (q : Queue) (value : Bytes) (s : σ) : Outcome σ Item :=
  match addId? q.tail 1 with
  | none => ⟨.error .exhausted, q, s, []⟩
  | some id =>
    if !q.isOpen then ⟨.error .closed, q, s, []⟩
    else
      let item := Item.ofId id value
      match OrderedStore.put item.key item.value s with
      | (.error e, s) => ⟨.error (.storage e), q, s, []⟩
      | (.ok (), s) => ⟨.ok item, { q with tail := id }, s, [.enqueued id value.length]⟩

/-- Puts a text at the back. -/
def enqueueText (q : Queue) (text : String) (s : σ) : Outcome σ Item :=
  q.enqueue (Utf8.encode text) s

/-- Puts a typed value at the back. -/
def enqueueObject (q : Queue) (v : Payload.Value) (s : σ) : Outcome σ Item :=
  match payloadOf v with
  | .error e => ⟨.error e, q, s, []⟩
  | .ok value => q.enqueue value s

/-- Takes out the front item. -/
def dequeue (q : Queue) (s : σ) : Outcome σ Item :=
  match q.itemByOffset 1 s with
  | (.error e, s) => ⟨.error e, q, s, []⟩
  | (.ok item, s) =>
    match OrderedStore.delete item.key s with
    | (.error e, s) => ⟨.error (.storage e), q, s, []⟩
    | (.ok (), s) => ⟨.ok item, { q with head := item.id }, s, [.dequeued item.id]⟩

/-- Takes out at most `n` items, until a call fails: the items, and what the failing call leads to. -/
def dequeueUpTo (q : Queue) : Nat → σ → List Item × Outcome σ Unit
  | 0, s => ([], ⟨.ok (), q, s, []⟩)
  | n + 1, s =>
    let taken := q.dequeue s
    match taken.result with
    | .error e => ([], ⟨.error e, taken.queue, taken.storage, taken.events⟩)
    | .ok item =>
      let (items, last) := dequeueUpTo taken.queue n taken.storage
      (item :: items, { last with events := taken.events ++ last.events })

/-- Takes out items until a call fails. One call more than there are live ids always does. -/
def drain (q : Queue) (s : σ) : List Item × Outcome σ Unit :=
  q.dequeueUpTo (q.length.toNat + 1) s

/-- Gives a live item another payload in its place; the caller's item is answered as it is after the
call. Only the id of the caller's item counts: the key written is that of the id. -/
def update (q : Queue) (item : Item) (value : Bytes) (s : σ) : Outcome σ Unit × Item :=
  if !q.isOpen then (⟨.error .closed, q, s, []⟩, item)
  else match q.checkBounds item.id with
  | .error e => (⟨.error e, q, s, []⟩, item)
  | .ok () =>
    let key := Key.encode item.id
    match OrderedStore.put key value s with
    | (.error e, s) => (⟨.error (.storage e), q, s, []⟩, item)
    | (.ok (), s) =>
      (⟨.ok (), q, s, [.updated item.id value.length]⟩, { item with key := key, value := value })

/-- Gives a live item a text as its payload. -/
def updateText (q : Queue) (item : Item) (text : String) (s : σ) : Outcome σ Unit × Item :=
  q.update item (Utf8.encode text) s

/-- Gives a live item a typed value as its payload. -/
def updateObject (q : Queue) (item : Item) (v : Payload.Value) (s : σ) : Outcome σ Unit × Item :=
  match payloadOf v with
  | .error e => (⟨.error e, q, s, []⟩, item)
  | .ok value => q.update item value s

/-! ## Closing -/

/-- Flushes the store and lets go of it, whether or not the flush works. A closed handle stays as it
is. -/
def close (q : Queue) (s : σ) : Outcome σ Unit :=
  if !q.isOpen then ⟨.ok (), q, s, []⟩
  else
    let closed : Queue := { q with isOpen := false }
    let told : Event := .closed q.location q.head q.tail
    match OrderedStore.flush s with
    | (.error e, s) => ⟨.error (.storage e), closed, s, [.flushFailed q.location e, told]⟩
    | (.ok (), s) => ⟨.ok (), closed, s, [told]⟩

/-- Closes the handle, gives it up and erases the storage, even if closing fails. -/
def drop (q : Queue) (s : σ) : Except QueueError Unit × σ × List Event :=
  let closing := q.close s
  let events := match closing.result with
    | .error e => closing.events ++ [.closeFailed e]
    | .ok () => closing.events
  match OrderedStore.destroy q.location closing.storage with
  | (.error e, s) => (.error (.storage e), s, events)
  | (.ok (), s) => (.ok (), s, events ++ [.dropped q.location])

end Queue

end DurableQueue
