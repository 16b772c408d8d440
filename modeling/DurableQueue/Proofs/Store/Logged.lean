import DurableQueue.Proofs.Store.Lawful

/-!
# Logging the calls of a store

`Logged` is a store that passes every call on to another one and writes down which call it was, with its
arguments. `Watched` records what came of the calls; the log tells how often and on what each was made.
-/

namespace DurableQueue

/-- A call of a store. -/
inductive StoreCall where
  | get (key : Bytes)
  | put (key value : Bytes)
  | delete (key : Bytes)
  | firstKey
  | lastKey
  | flush
  | destroy (location : String)
  deriving DecidableEq

/-- A store with a log of the calls made on it. -/
structure Logged (σ : Type) where
  base : σ
  /-- the calls, the last one first -/
  calls : List StoreCall

namespace Logged

variable {σ α : Type}

/-- A store on which no call has been made yet. -/
def start (s : σ) : Logged σ := ⟨s, []⟩

/-- Writes down a call with this reply of the underlying store. -/
def note (w : Logged σ) (call : StoreCall) (reply : Except StoreError α × σ) :
    Except StoreError α × Logged σ :=
  (reply.1, ⟨reply.2, call :: w.calls⟩)

/-- The number of flushes. -/
def flushes (w : Logged σ) : Nat := w.calls.count .flush

theorem calls_note {w w' : Logged σ} {call : StoreCall} {reply : Except StoreError α × σ}
    {r : Except StoreError α} (h : w.note call reply = (r, w')) : w'.calls = call :: w.calls := by
  obtain ⟨-, rfl⟩ := Prod.mk.inj h
  rfl

theorem flushes_note {w w' : Logged σ} {call : StoreCall} {reply : Except StoreError α × σ}
    {r : Except StoreError α} (h : w.note call reply = (r, w')) (other : call ≠ .flush) :
    w'.flushes = w.flushes := by
  unfold flushes
  rw [calls_note h, List.count_cons_of_ne other]

variable [OrderedStore σ]

instance : OrderedStore (Logged σ) where
  get key w := w.note (.get key) (OrderedStore.get key w.base)
  put key value w := w.note (.put key value) (OrderedStore.put key value w.base)
  delete key w := w.note (.delete key) (OrderedStore.delete key w.base)
  firstKey w := w.note .firstKey (OrderedStore.firstKey w.base)
  lastKey w := w.note .lastKey (OrderedStore.lastKey w.base)
  flush w := w.note .flush (OrderedStore.flush w.base)
  destroy location w := w.note (.destroy location) (OrderedStore.destroy location w.base)

end Logged

end DurableQueue
