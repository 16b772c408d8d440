import DurableQueue.Proofs.Store.Watched

/-!
# Failures after the change

In a steady store every call works except a flush, which may fail. On top of one, a `Synced` store makes
each change and flushes afterwards, so a change that is reported as failed has been made all the same:
`Synced.content_put` and `Synced.content_delete` hold whatever the reply.

An erasable store is a steady one that can be erased at the place where it is kept. Erasing may fail, too, and
then everything is still there.
-/

namespace DurableQueue

/-- A store that behaves as a table, save that flushes may fail. -/
class SteadyStore (σ : Type) [OrderedStore σ] where
  content : σ → Table
  reads : ReadHom content
  put : ∀ key value (s : σ),
    (.ok (), (content s).insert key value) = Prod.map id content (OrderedStore.put key value s)
  delete : ∀ key (s : σ),
    (.ok (), (content s).erase key) = Prod.map id content (OrderedStore.delete key s)
  flush : ∀ s : σ, content (OrderedStore.flush s).2 = content s

/-! ## Changes with a flush -/

namespace Synced

variable {σ : Type} [OrderedStore σ] [SteadyStore σ]

/-- What the underlying store holds. -/
def content (s : Synced σ) : Table := SteadyStore.content s.base

theorem reads : ReadHom (content : Synced σ → Table) where
  get key s := SteadyStore.reads.get key s.base
  firstKey s := SteadyStore.reads.firstKey s.base
  lastKey s := SteadyStore.reads.lastKey s.base

/-- The change is made, whether or not the flush after it works. -/
theorem content_change (s : Synced σ) {call : σ → Except StoreError Unit × σ} {after : Table}
    (made : (.ok (), after) = Prod.map id SteadyStore.content (call s.base)) :
    (s.change call).2.content = after := by
  unfold change lift
  generalize call s.base = reply at made ⊢
  obtain ⟨r, base⟩ := reply
  obtain ⟨rfl, rfl⟩ := Prod.mk.inj made
  dsimp only [id]
  split
  · exact SteadyStore.flush base
  · rfl

theorem content_put (key value : Bytes) (s : Synced σ) :
    (OrderedStore.put key value s).2.content = s.content.insert key value :=
  content_change s (SteadyStore.put key value s.base)

theorem content_delete (key : Bytes) (s : Synced σ) :
    (OrderedStore.delete key s).2.content = s.content.erase key :=
  content_change s (SteadyStore.delete key s.base)

theorem content_flush (s : Synced σ) : (OrderedStore.flush s).2.content = s.content :=
  SteadyStore.flush s.base

end Synced

/-! ## Erasing -/

/-- A steady store that is erased by destroying what is kept at its place. Erasing has no effect if it fails. -/
class ErasableStore (σ : Type) [OrderedStore σ] extends SteadyStore σ where
  /-- is this the place? -/
  keptAt : String → σ → Prop
  keptAt_flush : ∀ location (s : σ), keptAt location s → keptAt location (OrderedStore.flush s).2
  destroy : ∀ location (s : σ), keptAt location s →
    Faithful content s () .empty (OrderedStore.destroy location s)

/-- A store on disk is at a path that leads to its directory, if nothing stands in the way of a removal. -/
instance : ErasableStore Durable where
  content s := s.engine.base
  reads := ReliableStore.hom.toReadHom
  put := ReliableStore.hom.put
  delete := ReliableStore.hom.delete
  flush _ := rfl
  keptAt location s := s.path = location ∧
    (∃ place, s.surroundings.files.resolve s.surroundings.here location = .ok (place, .directory)) ∧
    (s.surroundings.files.removeDirectory s.surroundings.here location).2 = none
  keptAt_flush _ _ kept := kept
  destroy location s kept := by
    obtain ⟨-, ⟨place, leads⟩, free⟩ := kept
    show Faithful _ s () .empty (s.destroy location)
    unfold Durable.destroy
    dsimp only
    rw [leads]
    dsimp only
    rw [free]
    exact faithful_ok rfl

/-! ## Prescribed failures -/

/-- A call that only looks leaves the table, whatever its verdict. -/
theorem Flaky.table_meet {prone : StoreFault → Bool} {α : Type} (s : Flaky prone) (kind : StoreFault)
    (answer : α) : (s.meet kind answer s.table).2.table = s.table := by
  unfold Flaky.meet
  split
  · split <;> rfl
  · rfl

instance : SteadyStore (Flaky (· == .flush)) where
  content := Flaky.table
  reads := ⟨fun _ _ => rfl, fun _ => rfl, fun _ => rfl⟩
  put _ _ _ := rfl
  delete _ _ := rfl
  flush s := s.table_meet .flush ()

instance : ErasableStore (Flaky fun kind => kind == .flush || kind == .destroy) where
  content := Flaky.table
  reads := ⟨fun _ _ => rfl, fun _ => rfl, fun _ => rfl⟩
  put _ _ _ := rfl
  delete _ _ := rfl
  flush s := s.table_meet .flush ()
  keptAt _ _ := True
  keptAt_flush _ _ kept := kept
  destroy _ s _ := s.faithful_meet .destroy () .empty

end DurableQueue
