import DurableQueue.Queue.Basic
import DurableQueue.Proofs.Store.Watched

/-!
# Sessions

The calls that a program makes on one storage, one after another: operations on the handle, closing
among them, and openings of the storage, each of which gives up the handle before it. An opening that
fails leaves the program without a handle until a later one works.

Watching the store changes neither the replies nor the states of a session (`perform_watched`), so the
record of a watched session tells which calls of the store failed (`Session.fault`) and in which
states a crash can leave the store (`Session.instants`).
-/

namespace DurableQueue

/-! ## Operations -/

/-- A call on a handle. -/
inductive Operation where
  | enqueue (value : Bytes)
  | enqueueText (text : String)
  | enqueueObject (v : Payload.Value)
  | dequeue
  | peek
  | peekByOffset (offset : UInt64)
  | peekById (id : UInt64)
  | update (item : Item) (value : Bytes)
  | updateText (item : Item) (text : String)
  | updateObject (item : Item) (v : Payload.Value)
  | counters
  | close

/-- What a call answers. -/
inductive Reply where
  | item (result : Except QueueError Item)
  /-- the outcome of an update, and the caller's item afterwards -/
  | updated (result : Except QueueError Unit) (item : Item)
  | done (result : Except QueueError Unit)
  | counters (length head tail : UInt64)
  /-- there is no handle to call on -/
  | noQueue

/-- What a call on a handle answers and leads to. -/
structure Turn (σ : Type) where
  reply : Reply
  queue : Queue
  storage : σ
  events : List Event

section Forget

variable {τ σ α : Type}

def Outcome.mapStorage (π : τ → σ) (o : Outcome τ α) : Outcome σ α :=
  ⟨o.result, o.queue, π o.storage, o.events⟩

def Turn.mapStorage (π : τ → σ) (t : Turn τ) : Turn σ :=
  ⟨t.reply, t.queue, π t.storage, t.events⟩

end Forget

/-- An outcome as a turn. -/
def Outcome.turn {σ α : Type} (o : Outcome σ α) (reply : Except QueueError α → Reply) : Turn σ :=
  ⟨reply o.result, o.queue, o.storage, o.events⟩

namespace Operation

/-- The turn of a look-up. -/
def looked {σ : Type} (q : Queue) (reply : Except QueueError Item × σ) : Turn σ :=
  (q.answer reply).turn .item

/-- The turn of an update. -/
def changed {σ : Type} (reply : Outcome σ Unit × Item) : Turn σ :=
  reply.1.turn (.updated · reply.2)

/-- Makes the call on the handle. -/
def run {σ : Type} [OrderedStore σ] (q : Queue) (s : σ) : Operation → Turn σ
  | enqueue value => (q.enqueue value s).turn .item
  | enqueueText text => (q.enqueueText text s).turn .item
  | enqueueObject v => (q.enqueueObject v s).turn .item
  | dequeue => (q.dequeue s).turn .item
  | peek => (q.peek s).turn .item
  | peekByOffset offset => (q.peekByOffset offset s).turn .item
  | peekById id => (q.peekById id s).turn .item
  | update item value => changed (q.update item value s)
  | updateText item text => changed (q.updateText item text s)
  | updateObject item v => changed (q.updateObject item v s)
  | counters => ⟨.counters q.length q.head q.tail, q, s, []⟩
  | close => (q.close s).turn .done

end Operation

/-! ## Sessions -/

/-- A storage, and the handle on the queue in it, if there is one. -/
structure Session (σ : Type) where
  handle : Option Queue
  storage : σ

/-- A step of a session. -/
inductive Call where
  | on (op : Operation)
  /-- opens the storage, under a location, in place of whatever handle there is -/
  | reopen (location : String)

namespace Session

variable {σ : Type}

def mapStorage {τ : Type} (π : τ → σ) (s : Session τ) : Session σ := ⟨s.handle, π s.storage⟩

/-- The same session on the watched store, with nothing recorded yet. -/
def watched (s : Session σ) : Session (Watched σ) := ⟨s.handle, Watched.start s.storage⟩

variable [OrderedStore σ]

/-- Opens the storage anew. -/
def reopen (location : String) (s : Session σ) : Reply × Session σ × List Event :=
  match Queue.ofStore location s.storage with
  | (.ok q, storage, events) => (.done (.ok ()), ⟨some q, storage⟩, events)
  | (.error e, storage, events) => (.done (.error e), ⟨none, storage⟩, events)

/-- Makes one call: its reply, the session afterwards and the events. -/
def perform (s : Session σ) : Call → Reply × Session σ × List Event
  | .on op =>
    match s.handle with
    | none => (.noQueue, s, [])
    | some q =>
      let turn := op.run q s.storage
      (turn.reply, ⟨some turn.queue, turn.storage⟩, turn.events)
  | .reopen location => s.reopen location

/-- The session after a call. -/
def next (s : Session σ) (call : Call) : Session σ := (s.perform call).2.1

/-- The session after some calls. -/
def after (s : Session σ) (calls : List Call) : Session σ := calls.foldl next s

/-- The replies to some calls. -/
def replies (s : Session σ) : List Call → List Reply
  | [] => []
  | call :: calls => (s.perform call).1 :: (s.next call).replies calls

/-- The error of the store call that fails within a call, if one does. -/
def fault (s : Session σ) (call : Call) : Option StoreError :=
  (s.watched.next call).storage.faults.head?

/-- The store calls that fail within some calls, one entry a call. -/
def faults (s : Session σ) : List Call → List (Option StoreError)
  | [] => []
  | call :: calls => s.fault call :: (s.next call).faults calls

/-- The states of the store at which a call can be cut short: before its first store call and after
each of them. -/
def instants (s : Session σ) (call : Call) : List σ :=
  s.storage :: (s.watched.next call).storage.visited.reverse

end Session

/-! ## Maps of states -/

namespace Queue

section ReadHom

variable {τ σ : Type} [OrderedStore τ] [OrderedStore σ] {π : τ → σ} (hom : ReadHom π)

include hom

theorem itemById_map (q : Queue) (s : τ) (n : UInt64) : q.itemById n (π s) = Prod.map id π (q.itemById n s) := by
  unfold itemById
  split
  · rfl
  · split
    · rfl
    · dsimp only
      rw [hom.get]
      rcases OrderedStore.get (Key.encode n) s with ⟨_ | _ | _, _⟩ <;> rfl

theorem itemByOffset_map (q : Queue) (s : τ) (offset : UInt64) :
    q.itemByOffset offset (π s) = Prod.map id π (q.itemByOffset offset s) := by
  unfold itemByOffset
  split
  · exact itemById_map hom q s _
  · split
    · rfl
    · split <;> rfl

theorem recover_map (s : τ) : recover (π s) = Prod.map id (Prod.map π id) (recover s) := by
  unfold recover storedId
  rw [hom.firstKey]
  rcases OrderedStore.firstKey s with ⟨_ | _ | first, s⟩
  · rfl
  · dsimp only [Prod.map, id]
    rw [hom.lastKey]
    rcases OrderedStore.lastKey s with ⟨_ | _ | last, s⟩
    · rfl
    · rfl
    · dsimp only [Prod.map, id]
      rcases idOfKey last with _ | _ <;> rfl
  · dsimp only [Prod.map, id]
    rcases idOfKey first with _ | _
    · rfl
    · dsimp only [Except.map]
      rw [hom.lastKey]
      rcases OrderedStore.lastKey s with ⟨_ | _ | last, s⟩
      · rfl
      · rfl
      · dsimp only [Prod.map, id]
        rcases idOfKey last with _ | _
        · rfl
        · dsimp only [Except.map]
          split <;> rfl

theorem ofStore_map (s : τ) (location : String) :
    ofStore location (π s) = Prod.map id (Prod.map π id) (ofStore location s) := by
  unfold ofStore
  rw [recover_map hom]
  rcases recover s with ⟨_ | ⟨_, _⟩, _, _⟩ <;> rfl

end ReadHom

end Queue

section StoreHom

variable {τ σ : Type} [OrderedStore τ] [OrderedStore σ] {π : τ → σ} (hom : StoreHom π)
  (q : Queue) (s : τ)

namespace Queue

include hom

theorem enqueue_map (value : Bytes) :
    q.enqueue value (π s) = (q.enqueue value s).mapStorage π := by
  unfold enqueue
  split
  · rfl
  · split
    · rfl
    · dsimp only
      rw [hom.put]
      rcases OrderedStore.put _ _ s with ⟨_ | _, _⟩ <;> rfl

theorem enqueueObject_map (v : Payload.Value) :
    q.enqueueObject v (π s) = (q.enqueueObject v s).mapStorage π := by
  unfold enqueueObject
  split
  · rfl
  · exact enqueue_map hom q s _

theorem dequeue_map : q.dequeue (π s) = (q.dequeue s).mapStorage π := by
  unfold dequeue
  rw [itemByOffset_map hom.toReadHom]
  rcases q.itemByOffset 1 s with ⟨_ | item, s'⟩
  · rfl
  · dsimp only [Prod.map, id]
    rw [hom.delete]
    rcases OrderedStore.delete item.key s' with ⟨_ | _, _⟩ <;> rfl

theorem update_map (item : Item) (value : Bytes) :
    q.update item value (π s) = Prod.map (Outcome.mapStorage π) id (q.update item value s) := by
  unfold update
  split
  · rfl
  · split
    · rfl
    · dsimp only
      rw [hom.put]
      rcases OrderedStore.put _ _ s with ⟨_ | _, _⟩ <;> rfl

theorem updateObject_map (item : Item) (v : Payload.Value) :
    q.updateObject item v (π s) = Prod.map (Outcome.mapStorage π) id (q.updateObject item v s) := by
  unfold updateObject
  split
  · rfl
  · exact update_map hom q s item _

theorem close_map : q.close (π s) = (q.close s).mapStorage π := by
  unfold close
  split
  · rfl
  · rw [hom.flush]
    rcases OrderedStore.flush s with ⟨_ | _, _⟩ <;> rfl

end Queue

include hom

theorem Operation.run_map (op : Operation) : op.run q (π s) = (op.run q s).mapStorage π := by
  cases op with
  | enqueue value => exact congrArg (Outcome.turn · .item) (Queue.enqueue_map hom q s value)
  | enqueueText text => exact congrArg (Outcome.turn · .item) (Queue.enqueue_map hom q s _)
  | enqueueObject v => exact congrArg (Outcome.turn · .item) (Queue.enqueueObject_map hom q s v)
  | dequeue => exact congrArg (Outcome.turn · .item) (Queue.dequeue_map hom q s)
  | peek => exact congrArg (looked q) (Queue.itemByOffset_map hom.toReadHom q s 1)
  | peekByOffset offset => exact congrArg (looked q) (Queue.itemByOffset_map hom.toReadHom q s offset)
  | peekById id => exact congrArg (looked q) (Queue.itemById_map hom.toReadHom q s id)
  | update item value => exact congrArg changed (Queue.update_map hom q s item value)
  | updateText item text => exact congrArg changed (Queue.update_map hom q s item _)
  | updateObject item v => exact congrArg changed (Queue.updateObject_map hom q s item v)
  | counters => rfl
  | close => exact congrArg (Outcome.turn · .done) (Queue.close_map hom q s)

end StoreHom

namespace Session

variable {τ σ : Type} [OrderedStore τ] [OrderedStore σ] {π : τ → σ}

theorem perform_map (hom : StoreHom π) (s : Session τ) (call : Call) :
    (s.mapStorage π).perform call = Prod.map id (Prod.map (mapStorage π) id) (s.perform call) := by
  obtain ⟨handle, storage⟩ := s
  cases call with
  | on op =>
    cases handle with
    | none => rfl
    | some q =>
      unfold perform mapStorage
      dsimp only
      rw [Operation.run_map hom]
      rfl
  | reopen location =>
    unfold perform reopen mapStorage
    dsimp only
    rw [Queue.ofStore_map hom.toReadHom]
    rcases Queue.ofStore location storage with ⟨_ | _, _, _⟩ <;> rfl

/-- Watching changes neither the reply to a call nor what the call leads to. -/
theorem perform_watched (s : Session σ) (call : Call) :
    s.perform call = Prod.map id (Prod.map (mapStorage Watched.base) id) (s.watched.perform call) :=
  perform_map Watched.storeHom_base s.watched call

theorem next_watched (s : Session σ) (call : Call) :
    s.next call = (s.watched.next call).mapStorage Watched.base := by
  unfold next
  rw [perform_watched]
  rfl

/-! ### Calls on a handle, watched -/

variable (q : Queue) (s : σ) (op : Operation)

theorem reply_on :
    ((⟨some q, s⟩ : Session σ).perform (.on op)).1 = (op.run q (Watched.start s)).reply := by
  rw [perform_watched]
  rfl

theorem next_on :
    (⟨some q, s⟩ : Session σ).next (.on op) =
      ⟨some (op.run q (Watched.start s)).queue, (op.run q (Watched.start s)).storage.base⟩ :=
  next_watched ⟨some q, s⟩ (.on op)

theorem fault_on :
    (⟨some q, s⟩ : Session σ).fault (.on op) = (op.run q (Watched.start s)).storage.faults.head? :=
  rfl

end Session

end DurableQueue
