import DurableQueue.Error
import DurableQueue.Store.Table

/-!
# Ordered stores

What the queue asks of the storage it is layered on. Each call acts on a state and answers; it may
fail, and nothing is said here about what a call that fails has changed. The keys of a well-behaved
store are in byte order: the state is then as good as a `Table`, which is the first instance.

A store in which writes are made durable one by one is `Synced`: every change is followed by a flush,
so a change can be reported as failed although it has been made.
-/

namespace DurableQueue

/-- Storage with keys in byte order, as calls on a state `σ`. -/
class OrderedStore (σ : Type) where
  get : Bytes → σ → Except StoreError (Option Bytes) × σ
  put : Bytes → Bytes → σ → Except StoreError Unit × σ
  delete : Bytes → σ → Except StoreError Unit × σ
  firstKey : σ → Except StoreError (Option Bytes) × σ
  lastKey : σ → Except StoreError (Option Bytes) × σ
  flush : σ → Except StoreError Unit × σ
  /-- erases everything kept at a location -/
  destroy : String → σ → Except StoreError Unit × σ

/-- A table is a store in which every call works. -/
instance : OrderedStore Table where
  get key t := (.ok (t.get? key), t)
  put key value t := (.ok (), t.insert key value)
  delete key t := (.ok (), t.erase key)
  firstKey t := (.ok t.firstKey?, t)
  lastKey t := (.ok t.lastKey?, t)
  flush t := (.ok (), t)
  destroy _ _ := (.ok (), .empty)

/-- A store together with the choice whether each change is flushed at once. -/
structure Synced (σ : Type) where
  syncWrites : Bool
  base : σ

namespace Synced

variable {σ : Type} [OrderedStore σ]

/-- Goes on with the state of the underlying store. -/
def lift {α : Type} (s : Synced σ) (call : σ → α × σ) : α × Synced σ :=
  let (answer, base) := call s.base
  (answer, { s with base })

/-- Makes a change and then, if writes are to be durable, flushes it. -/
def change (s : Synced σ) (call : σ → Except StoreError Unit × σ) :
    Except StoreError Unit × Synced σ :=
  match s.lift call with
  | (.error e, s) => (.error e, s)
  | (.ok (), s) => if s.syncWrites then s.lift OrderedStore.flush else (.ok (), s)

end Synced

instance {σ : Type} [OrderedStore σ] : OrderedStore (Synced σ) where
  get key s := s.lift (OrderedStore.get key)
  put key value s := s.change (OrderedStore.put key value)
  delete key s := s.change (OrderedStore.delete key)
  firstKey s := s.lift OrderedStore.firstKey
  lastKey s := s.lift OrderedStore.lastKey
  flush s := s.lift OrderedStore.flush
  destroy location s := s.lift (OrderedStore.destroy location)

end DurableQueue
