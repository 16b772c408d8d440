import DurableQueue.Proofs.Store.Lawful

/-!
# Watching a store

`Watched` is a store that passes every call on to another one and keeps a record of it: the errors of
the calls that failed, and the states the calls led to. It makes the calls inside an operation
visible, such as the instants at which a crash can come.

Watching does not interfere: forgetting the record is a `StoreHom`, a map of states that commutes with
every call. Whatever is built from calls commutes with such a map.
-/

namespace DurableQueue

/-- A store with a record of the calls made on it. -/
structure Watched (σ : Type) where
  base : σ
  /-- the errors of the calls that failed, the last one first -/
  faults : List StoreError
  /-- the states that the calls led to, the last one first -/
  visited : List σ

namespace Watched

variable {σ : Type} {α : Type}

/-- A store of which nothing has been recorded yet. -/
def start (s : σ) : Watched σ := ⟨s, [], []⟩

/-- The error of a reply on top of those before. -/
def addFault (faults : List StoreError) : Except StoreError α → List StoreError
  | .error e => e :: faults
  | .ok _ => faults

/-- Records the reply of the underlying store. -/
def note (w : Watched σ) (reply : Except StoreError α × σ) : Except StoreError α × Watched σ :=
  (reply.1, ⟨reply.2, addFault w.faults reply.1, reply.2 :: w.visited⟩)

theorem faults_note {w w' : Watched σ} {reply : Except StoreError α × σ} {r : Except StoreError α}
    (h : w.note reply = (r, w')) : w'.faults = addFault w.faults r := by
  obtain ⟨rfl, rfl⟩ := Prod.mk.inj h
  rfl

variable [OrderedStore σ]

instance : OrderedStore (Watched σ) where
  get key w := w.note (OrderedStore.get key w.base)
  put key value w := w.note (OrderedStore.put key value w.base)
  delete key w := w.note (OrderedStore.delete key w.base)
  firstKey w := w.note (OrderedStore.firstKey w.base)
  lastKey w := w.note (OrderedStore.lastKey w.base)
  flush w := w.note (OrderedStore.flush w.base)
  destroy location w := w.note (OrderedStore.destroy location w.base)

/-- Forgetting the record commutes with every call. -/
theorem storeHom_base : StoreHom (base : Watched σ → σ) :=
  ⟨⟨fun _ _ => rfl, fun _ => rfl, fun _ => rfl⟩, fun _ _ _ => rfl, fun _ _ => rfl, fun _ => rfl⟩

end Watched

end DurableQueue
