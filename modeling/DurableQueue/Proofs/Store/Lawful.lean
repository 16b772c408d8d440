import DurableQueue.Store.Durable
import DurableQueue.Store.Faulty

/-!
# Stores that are as good as a table

A lawful store has a content, which is a table. A call that works acts on the content as on a table,
and a call that fails leaves it as it was; which calls fail is up to the store. Nothing else is
assumed, so a statement over all lawful stores speaks of every pattern of failing calls.

In a reliable store no call fails: passing to the content is then a `StoreHom`, a map of states that
commutes with every call. Tables and stores on disk are reliable. `Flaky` is a lawful store in which any
pattern of failures can be prescribed.
-/

namespace DurableQueue

/-! ## Laws -/

/-- The reply of a call that is due to give an answer and to lead to a content: either the call failed
and the content is what it was, or the answer was given and the content reached. -/
structure Faithful {σ α : Type} (content : σ → Table) (s : σ) (answer : α) (after : Table)
    (reply : Except StoreError α × σ) : Prop where
  on_error : ∀ {e s'}, reply = (.error e, s') → content s' = content s
  on_ok : ∀ {a s'}, reply = (.ok a, s') → a = answer ∧ content s' = after

/-- A store that behaves as a table, save that calls may fail without effect. -/
class LawfulStore (σ : Type) [OrderedStore σ] where
  content : σ → Table
  get : ∀ key s, Faithful content s ((content s).get? key) (content s) (OrderedStore.get key s)
  put : ∀ key value s,
    Faithful content s () ((content s).insert key value) (OrderedStore.put key value s)
  delete : ∀ key s, Faithful content s () ((content s).erase key) (OrderedStore.delete key s)
  firstKey : ∀ s, Faithful content s (content s).firstKey? (content s) (OrderedStore.firstKey s)
  lastKey : ∀ s, Faithful content s (content s).lastKey? (content s) (OrderedStore.lastKey s)
  flush : ∀ s, Faithful content s () (content s) (OrderedStore.flush s)

section Replies

variable {σ α : Type} {content : σ → Table} {s : σ} {answer : α} {after : Table}
  {reply : Except StoreError α × σ}

theorem faithful_error {e : StoreError} {s' : σ} (same : content s' = content s) :
    Faithful content s answer after (.error e, s') :=
  ⟨fun h => by cases h; exact same, nofun⟩

theorem faithful_ok {s' : σ} (reached : content s' = after) :
    Faithful content s answer after (.ok answer, s') :=
  ⟨nofun, fun h => by cases h; exact ⟨rfl, reached⟩⟩

end Replies

/-! ## Reliable stores -/

/-- A map of states that commutes with the calls that only read. -/
structure ReadHom {τ σ : Type} [OrderedStore τ] [OrderedStore σ] (π : τ → σ) : Prop where
  get : ∀ key s, OrderedStore.get key (π s) = Prod.map id π (OrderedStore.get key s)
  firstKey : ∀ s, OrderedStore.firstKey (π s) = Prod.map id π (OrderedStore.firstKey s)
  lastKey : ∀ s, OrderedStore.lastKey (π s) = Prod.map id π (OrderedStore.lastKey s)

/-- A map of states that commutes with every call of the store. -/
structure StoreHom {τ σ : Type} [OrderedStore τ] [OrderedStore σ] (π : τ → σ) : Prop
    extends ReadHom π where
  put : ∀ key value s, OrderedStore.put key value (π s) = Prod.map id π (OrderedStore.put key value s)
  delete : ∀ key s, OrderedStore.delete key (π s) = Prod.map id π (OrderedStore.delete key s)
  flush : ∀ s, OrderedStore.flush (π s) = Prod.map id π (OrderedStore.flush s)

/-- A store that behaves as a table in every call. -/
class ReliableStore (σ : Type) [OrderedStore σ] where
  content : σ → Table
  hom : StoreHom content

theorem Faithful.of_map {σ α : Type} {content : σ → Table} {s : σ} {answer : α} {after : Table}
    {reply : Except StoreError α × σ} (h : (.ok answer, after) = Prod.map id content reply) :
    Faithful content s answer after reply := by
  obtain ⟨r, s'⟩ := reply
  obtain ⟨rfl, rfl⟩ := Prod.mk.inj h
  exact faithful_ok rfl

instance {σ : Type} [OrderedStore σ] [ReliableStore σ] : LawfulStore σ where
  content := ReliableStore.content
  get key s := .of_map (ReliableStore.hom.get key s)
  put key value s := .of_map (ReliableStore.hom.put key value s)
  delete key s := .of_map (ReliableStore.hom.delete key s)
  firstKey s := .of_map (ReliableStore.hom.firstKey s)
  lastKey s := .of_map (ReliableStore.hom.lastKey s)
  flush s := .of_map (ReliableStore.hom.flush s)

/-! ## Tables -/

namespace Table

theorem get_def (t : Table) (key : Bytes) : OrderedStore.get key t = (.ok (t.get? key), t) := rfl

theorem put_def (t : Table) (key value : Bytes) :
    OrderedStore.put key value t = (.ok (), t.insert key value) := rfl

theorem delete_def (t : Table) (key : Bytes) : OrderedStore.delete key t = (.ok (), t.erase key) := rfl

theorem firstKey_def (t : Table) : OrderedStore.firstKey t = (.ok t.firstKey?, t) := rfl

theorem lastKey_def (t : Table) : OrderedStore.lastKey t = (.ok t.lastKey?, t) := rfl

theorem flush_def (t : Table) : OrderedStore.flush t = (.ok (), t) := rfl

end Table

instance : ReliableStore Table where
  content := id
  hom := ⟨⟨fun _ _ => rfl, fun _ => rfl, fun _ => rfl⟩, fun _ _ _ => rfl, fun _ _ => rfl, fun _ => rfl⟩

/-- The store on disk holds what its engine holds, flushed or not. -/
instance : ReliableStore Durable where
  content s := s.engine.base
  hom := by
    refine ⟨⟨fun _ _ => rfl, fun _ => rfl, fun _ => rfl⟩, ?_, ?_, fun _ => rfl⟩
    · rintro key value ⟨_, _, _, syncWrites, _⟩
      cases syncWrites <;> rfl
    · rintro key ⟨_, _, _, syncWrites, _⟩
      cases syncWrites <;> rfl

/-! ## Prescribed failures -/

/-- A table whose calls of the prone kinds meet one verdict each: the error to fail with, or none.
Once the verdicts are used up, every call works. -/
structure Flaky (prone : StoreFault → Bool) where
  table : Table
  verdicts : List (Option StoreError)

namespace Flaky

variable {prone : StoreFault → Bool}

/-- Lets a call of a kind meet its verdict. -/
def meet {α : Type} (s : Flaky prone) (kind : StoreFault) (answer : α) (after : Table) :
    Except StoreError α × Flaky prone :=
  if prone kind then
    match s.verdicts with
    | some e :: rest => (.error e, ⟨s.table, rest⟩)
    | none :: rest => (.ok answer, ⟨after, rest⟩)
    | [] => (.ok answer, ⟨after, []⟩)
  else (.ok answer, ⟨after, s.verdicts⟩)

instance : OrderedStore (Flaky prone) where
  get key s := s.meet .get (s.table.get? key) s.table
  put key value s := s.meet .put () (s.table.insert key value)
  delete key s := s.meet .delete () (s.table.erase key)
  firstKey s := s.meet .first s.table.firstKey? s.table
  lastKey s := s.meet .last s.table.lastKey? s.table
  flush s := s.meet .flush () s.table
  destroy _ s := s.meet .destroy () .empty

theorem faithful_meet {α : Type} (s : Flaky prone) (kind : StoreFault) (answer : α)
    (after : Table) : Faithful Flaky.table s answer after (s.meet kind answer after) := by
  unfold meet
  split
  · split
    · exact faithful_error rfl
    · exact faithful_ok rfl
    · exact faithful_ok rfl
  · exact faithful_ok rfl

instance : LawfulStore (Flaky prone) where
  content := Flaky.table
  get _ s := s.faithful_meet _ _ _
  put _ _ s := s.faithful_meet _ _ _
  delete _ s := s.faithful_meet _ _ _
  firstKey s := s.faithful_meet _ _ _
  lastKey s := s.faithful_meet _ _ _
  flush s := s.faithful_meet _ _ _

end Flaky

end DurableQueue
