import DurableQueue.Event
import DurableQueue.Store.Ordered
import DurableQueue.Store.Retry

/-!
# Stores on disk

A store in a directory. Opening creates the directory and locks it until the handle is let go; it is
refused where a plain file stands in the way. Destroying removes the directory with all it holds.
-/

namespace DurableQueue

/-- A place for a store on disk: the files around it, the path of its directory, what it holds, and
whether a handle has it open. -/
structure Durable where
  surroundings : Surroundings
  path : String
  held : Bool
  engine : Synced Table

namespace Durable

/-- A place where no store has been opened yet. -/
def placed (surroundings : Surroundings) (path : String) : Durable :=
  ⟨surroundings, path, false, ⟨true, .empty⟩⟩

/-- The error of an opening that failed; what the engine had to say is left out. -/
def openError (path : String) : StoreError :=
  .io ("Failed to open sled database at " ++ Text.quoted path)

/-- The error of a removal that failed. -/
def removeError (location : String) (fault : FileFault) : StoreError :=
  .io ("Failed to remove store at " ++ Text.quoted location ++ ": " ++ fault.message)

/-- One try to open the store. -/
def tryOpen (s : Durable) (options : StoreOptions) : Except EngineError Durable :=
  let w := s.surroundings
  match w.files.makeDirectory w.here s.path with
  | .error fault => .error (.io false fault.message)
  | .ok files =>
    if s.held then .error (.lockHeld s.path)
    else .ok
      { s with
        surroundings := { w with files }
        held := true
        engine := { s.engine with syncWrites := options.syncWrites } }

/-- The events that tell of the pauses before new tries. -/
def retryEvents (path : String) (pauses : List Opening.Pause) : List Event :=
  pauses.map fun pause => .openRetried path pause.attempt.toNat pause.length.millis.toNat

/-- Opens the store, waiting for the directory to be free. -/
def connect (s : Durable) (options : StoreOptions) :
    Except StoreError Unit × Durable × List Event :=
  let course := Opening.retried options fun _ => s.tryOpen options
  let events := retryEvents s.path course.pauses
  match course.last with
  | .ok s' => (.ok (), s', events)
  | .error _ => (.error (openError s.path), s, events)

/-- Lets go of the directory. -/
def release (s : Durable) : Durable := { s with held := false }

/-- Does the path lead to anything? -/
def present (s : Durable) : Bool := s.surroundings.has s.path

/-- Goes on with the state of the engine. -/
def lift {α : Type} (s : Durable) (call : Synced Table → α × Synced Table) : α × Durable :=
  let (answer, engine) := call s.engine
  (answer, { s with engine })

/-- Removes whatever is kept at a location; nothing at all is as good as removed. What is stored is
gone even if the directory itself cannot be removed. -/
def destroy (location : String) (s : Durable) : Except StoreError Unit × Durable :=
  let w := s.surroundings
  match w.files.resolve w.here location with
  | .error _ => (.ok (), s)
  | .ok (_, .file _) => (.error (removeError location .notADirectory), s)
  | .ok (_, .directory) =>
    let (files, fault) := w.files.removeDirectory w.here location
    let s := { s with
      surroundings := { w with files }
      held := false
      engine := { s.engine with base := .empty } }
    match fault with
    | some fault => (.error (removeError location fault), s)
    | none => (.ok (), s)

end Durable

instance : OrderedStore Durable where
  get key s := s.lift (OrderedStore.get key)
  put key value s := s.lift (OrderedStore.put key value)
  delete key s := s.lift (OrderedStore.delete key)
  firstKey s := s.lift OrderedStore.firstKey
  lastKey s := s.lift OrderedStore.lastKey
  flush s := s.lift OrderedStore.flush
  destroy := Durable.destroy

end DurableQueue
