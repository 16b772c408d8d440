import DurableQueue.Proofs.Queue.Crash
import DurableQueue.Proofs.Queue.Shut
import DurableQueue.Proofs.Store.Logged
import DurableQueue.Proofs.Store.Steady

/-!
# Closing and dropping

Closing lets go of the store before it is known whether the flush works. So a handle is flushed once, by the
first closing, and a flush that fails is not made up for (`Session.ClosedOnce`). Dropping closes the handle,
whatever comes of that, and then destroys what is kept at its location, once; the outcome is that of the
destruction (`Session.Dropped`). The store is then empty, or as it was, and an opening finds which.

`Session.closed_and_dropped` says so for every handle whose counters bound the stored keys, on every store
that can fail in flushes and destructions.
-/

namespace DurableQueue

/-! ## What operations leave of a handle -/

section Kept

variable {σ : Type} [OrderedStore σ] {q : Queue}

/-- No request moves a handle elsewhere, and none but closing closes it. -/
theorem Ran.handle_kept {s : σ} {request : Request} {turn : Turn σ} (h : Ran q s request turn) :
    turn.queue.location = q.location ∧ (request ≠ .close → turn.queue.isOpen = q.isOpen) := by
  cases h with
  | closed closed => cases closed <;> exact ⟨rfl, fun other => absurd rfl other⟩
  | _ => exact ⟨rfl, fun _ => rfl⟩

/-- No request but closing flushes. -/
theorem Ran.flushes_eq {w : Logged σ} {request : Request} {turn : Turn (Logged σ)}
    (h : Ran q w request turn) (other : request ≠ .close) : turn.storage.flushes = w.flushes := by
  cases h with
  | refused about cause => rfl
  | stopped about opened cause =>
    cases cause with
    | unread sought above upto get => exact Logged.flushes_note get nofun
    | missing sought above upto get => exact Logged.flushes_note get nofun
    | unadded room put => exact Logged.flushes_note put nofun
    | untaken something get delete =>
      exact (Logged.flushes_note delete nofun).trans (Logged.flushes_note get nofun)
    | unrevised above upto put => exact Logged.flushes_note put nofun
  | added room opened put => exact Logged.flushes_note put nofun
  | taken something opened get delete =>
    exact (Logged.flushes_note delete nofun).trans (Logged.flushes_note get nofun)
  | shown stays opened sought above upto get => exact Logged.flushes_note get nofun
  | revised opened above upto put => exact Logged.flushes_note put nofun
  | counted => rfl
  | closed closed => exact absurd rfl other

end Kept

namespace Session

variable {σ : Type} [OrderedStore σ]

/-- The same session on a store that logs its calls, with none made yet. -/
def logged (s : Session σ) : Session (Logged σ) := ⟨s.handle, Logged.start s.storage⟩

theorem after_append (s : Session σ) (calls more : List Call) :
    s.after (calls ++ more) = (s.after calls).after more := List.foldl_append

/-- Operations lead to a handle at the same location, still open if none of them closes it. -/
theorem handle_after (q : Queue) (s : σ) (ops : List Operation) :
    ∃ q' s', (⟨some q, s⟩ : Session σ).after (ops.map .on) = ⟨some q', s'⟩ ∧
      q'.location = q.location ∧ ((∀ op ∈ ops, op ≠ .close) → q'.isOpen = q.isOpen) := by
  induction ops generalizing q s with
  | nil => exact ⟨q, s, rfl, rfl, fun _ => rfl⟩
  | cons op ops ih =>
    obtain ⟨location, opened⟩ := (op.ran_any q s).handle_kept
    obtain ⟨q', s', reached, location', opened'⟩ := ih (op.run q s).queue (op.run q s).storage
    refine ⟨q', s', reached, location'.trans location, fun others => ?_⟩
    have other : op.request ≠ .close := fun asked => others op List.mem_cons_self (Operation.eq_close asked)
    exact (opened' fun op mem => others op (List.mem_cons_of_mem _ mem)).trans (opened other)

theorem flushes_after (q : Queue) (w : Logged σ) {ops : List Operation}
    (others : ∀ op ∈ ops, op ≠ .close) :
    ((⟨some q, w⟩ : Session (Logged σ)).after (ops.map .on)).storage.flushes = w.flushes := by
  induction ops generalizing q w with
  | nil => rfl
  | cons op ops ih =>
    have other : op.request ≠ .close := fun asked => others op List.mem_cons_self (Operation.eq_close asked)
    exact (ih (op.run q w).queue (op.run q w).storage
      fun op mem => others op (List.mem_cons_of_mem _ mem)).trans ((op.ran_any q w).flushes_eq other)

end Session

/-! ## Closing -/

namespace Queue

variable {σ : Type} [OrderedStore σ] (q : Queue) (s : σ)

/-- Closing a handle answers what the flush does, and a closed handle is not flushed. -/
theorem result_close : (q.close s).result =
    if q.isOpen then (OrderedStore.flush s).1.mapError .storage else .ok () := by
  have cases := closed q s
  generalize q.close s = outcome at cases ⊢
  cases cases with
  | already shut => rw [shut]; rfl
  | failed opened flush => rw [opened, flush]; rfl
  | flushed opened flush => rw [opened, flush]; rfl

theorem storage_close : (q.close s).storage = if q.isOpen then (OrderedStore.flush s).2 else s := by
  have cases := closed q s
  generalize q.close s = outcome at cases ⊢
  cases cases with
  | already shut => rw [shut]; rfl
  | failed opened flush => rw [opened, flush]; rfl
  | flushed opened flush => rw [opened, flush]; rfl

theorem content_close [SteadyStore σ] : SteadyStore.content (q.close s).storage = SteadyStore.content s := by
  rw [storage_close]
  split
  · exact SteadyStore.flush s
  · rfl

theorem keptAt_close [ErasableStore σ] {location : String} (place : ErasableStore.keptAt location s) :
    ErasableStore.keptAt location (q.close s).storage := by
  rw [storage_close]
  split
  · exact ErasableStore.keptAt_flush location s place
  · exact place

/-- Dropping destroys after closing, and answers what the destruction does. -/
theorem drop_eq :
    (q.drop s).1 = (OrderedStore.destroy q.location (q.close s).storage).1.mapError .storage ∧
      (q.drop s).2.1 = (OrderedStore.destroy q.location (q.close s).storage).2 := by
  unfold drop
  dsimp only
  rcases OrderedStore.destroy q.location (q.close s).storage with ⟨_ | _, _⟩ <;> exact ⟨rfl, rfl⟩

end Queue

namespace Session

variable {σ : Type} [OrderedStore σ]

/-- A run with a closing in it ends as its first closing does. -/
theorem after_close (q : Queue) (s : σ) {ops : List Operation} (closing : .close ∈ ops) :
    ∃ (before : List Operation) (q' : Queue) (s' : σ), (∀ op ∈ before, op ≠ .close) ∧
      (⟨some q, s⟩ : Session σ).after (before.map .on) = ⟨some q', s'⟩ ∧ q'.isOpen = q.isOpen ∧
      (⟨some q, s⟩ : Session σ).after (ops.map .on) =
        ⟨some { q' with isOpen := false }, (q'.close s').storage⟩ := by
  obtain ⟨before, later, rfl, first⟩ := List.eq_append_cons_of_mem closing
  have others : ∀ op ∈ before, op ≠ .close := fun op mem same => first (same ▸ mem)
  obtain ⟨q', s', reached, -, opened⟩ := handle_after q s before
  refine ⟨before, q', s', others, reached, opened others, ?_⟩
  have now : (⟨some q', s'⟩ : Session σ).next (.on .close) =
      ⟨some { q' with isOpen := false }, (q'.close s').storage⟩ :=
    congrArg (Session.mk · (q'.close s').storage) (congrArg some (q'.queue_close s'))
  rw [List.map_append, after_append, reached]
  show ((⟨some q', s'⟩ : Session σ).next (.on .close)).after (later.map .on) = _
  rw [now, after_shut rfl rfl]

/-- What comes of closing a handle, once or more often. -/
structure ClosedOnce [SteadyStore σ] (q : Queue) (s : σ) : Prop where
  /-- the handle keeps its counters and the store its entries, whether or not the flush works -/
  closed : ((⟨some q, s⟩ : Session σ).next (.on .close)).handle = some { q with isOpen := false } ∧
    SteadyStore.content ((⟨some q, s⟩ : Session σ).next (.on .close)).storage = SteadyStore.content s
  /-- in a run with a closing in it, an open handle is flushed once -/
  flushed : q.isOpen = true → ∀ ops : List Operation, .close ∈ ops →
    ((⟨some q, s⟩ : Session σ).logged.after (ops.map .on)).storage.flushes = 1
  /-- the first closing answers what the flush does -/
  first : q.isOpen = true → ∀ before : List Operation, (∀ op ∈ before, op ≠ .close) →
    let reached := (⟨some q, s⟩ : Session σ).after (before.map .on)
    (reached.perform (.on .close)).1 = .done ((OrderedStore.flush reached.storage).1.mapError .storage)
  /-- and every later one answers that all is well -/
  again : ∀ before : List Operation, .close ∈ before →
    (((⟨some q, s⟩ : Session σ).after (before.map .on)).perform (.on .close)).1 = .done (.ok ())

theorem closedOnce [SteadyStore σ] (q : Queue) (s : σ) : ClosedOnce q s where
  closed := ⟨congrArg some (q.queue_close s), q.content_close s⟩
  flushed := by
    intro opened ops closing
    obtain ⟨before, q', w', others, reached, open', last⟩ := after_close q (Logged.start s) closing
    have none : w'.flushes = 0 := by
      have kept := flushes_after q (Logged.start s) others
      rw [reached] at kept
      exact kept
    show ((⟨some q, Logged.start s⟩ : Session (Logged σ)).after (ops.map .on)).storage.flushes = 1
    rw [last, Queue.storage_close, open', opened]
    show (StoreCall.flush :: w'.calls).count .flush = 1
    rw [List.count_cons_self]
    exact congrArg (· + 1) none
  first := by
    intro opened before others
    obtain ⟨q', s', reached, -, open'⟩ := handle_after q s before
    rw [reached]
    show Reply.done (q'.close s').result = _
    rw [Queue.result_close, open' others, opened]
    rfl
  again := by
    intro before closing
    obtain ⟨-, q', s', -, -, -, last⟩ := after_close q s closing
    rw [last]
    exact congrArg Reply.done (congrArg Outcome.result (Queue.close_shut rfl _))

end Session

/-! ## Dropping -/

namespace Session

variable {σ : Type} [OrderedStore σ]

/-- What comes of dropping a handle, open or closed. -/
structure Dropped [ErasableStore σ] (q : Queue) (s : σ) : Prop where
  /-- what is kept at the handle's location is destroyed, once, after a flush if the handle was open -/
  calls : (q.drop (Logged.start s)).2.1.calls = .destroy q.location :: if q.isOpen then [.flush] else []
  outcome : (q.drop s).1 = (OrderedStore.destroy q.location (q.close s).storage).1.mapError .storage
  /-- if that works, the next opening starts over -/
  erased : (q.drop s).1 = .ok () → ∀ location,
    let again := (⟨none, (q.drop s).2.1⟩ : Session σ).next (.reopen location)
    again.handle = some ⟨location, true, 0, 0⟩ ∧
      ∀ (op : Operation) (value : Bytes), op.request = .add (.ok value) →
        (again.perform (.on op)).1 = .item (.ok (Item.ofId 1 value))
  /-- if it does not, the next opening finds the items that were there -/
  kept : ∀ e, (q.drop s).1 = .error e → ∃ items, Stores (SteadyStore.content s) q.head q.tail items ∧
    ∀ location, let again := (⟨none, (q.drop s).2.1⟩ : Session σ).next (.reopen location)
      ∃ q', again.handle = some q' ∧ q'.isOpen = true ∧
        Stores (SteadyStore.content again.storage) q'.head q'.tail items

section Erasable

variable [ErasableStore σ] {q : Queue} {s : σ} (spans : Spans (SteadyStore.content s) q.head q.tail)
  (place : ErasableStore.keptAt q.location s)

include place

/-- What dropping leaves: nothing if it works, and what was there if it does not. -/
theorem content_drop :
    ((q.drop s).1 = .ok () → SteadyStore.content (q.drop s).2.1 = .empty) ∧
      ∀ e, (q.drop s).1 = .error e → SteadyStore.content (q.drop s).2.1 = SteadyStore.content s := by
  obtain ⟨outcome, left⟩ := q.drop_eq s
  have destroyed := ErasableStore.destroy q.location (q.close s).storage (q.keptAt_close s place)
  rw [outcome, left]
  rcases reply : OrderedStore.destroy q.location (q.close s).storage with ⟨e | ⟨⟩, s'⟩
  · exact ⟨nofun, fun _ _ => (destroyed.on_error reply).trans (q.content_close s)⟩
  · exact ⟨fun _ => (destroyed.on_ok reply).2, nofun⟩

theorem erased_drop (works : (q.drop s).1 = .ok ()) (location : String) :
    let again := (⟨none, (q.drop s).2.1⟩ : Session σ).next (.reopen location)
    again.handle = some ⟨location, true, 0, 0⟩ ∧
      ∀ (op : Operation) (value : Bytes), op.request = .add (.ok value) →
        (again.perform (.on op)).1 = .item (.ok (Item.ofId 1 value)) := by
  intro again
  have empty : Spans (SteadyStore.content (q.drop s).2.1) 0 0 := by
    rw [(content_drop place).1 works]
    exact (Stores.empty 0).spans
  obtain ⟨s', next, -⟩ := next_reopen (s := ⟨none, (q.drop s).2.1⟩) SteadyStore.reads empty location
  have opened : again = ⟨some ⟨location, true, 0, 0⟩, s'⟩ := next
  rw [opened]
  refine ⟨rfl, ?_⟩
  intro op value asked
  have room : (0 : UInt64) ≠ greatestId := by decide
  have put := SteadyStore.put (Key.encode 1) value s'
  rcases reply : OrderedStore.put (Key.encode 1) value s' with ⟨r, s''⟩
  rw [reply] at put
  obtain ⟨rfl, -⟩ := Prod.mk.inj put
  show ((op.run ⟨location, true, 0, 0⟩ s').reply) = _
  rw [op.run_of_add asked, Queue.enqueue_of_put rfl room reply]
  rfl

include spans

theorem kept_drop {e : QueueError} (fails : (q.drop s).1 = .error e) :
    ∃ items, Stores (SteadyStore.content s) q.head q.tail items ∧
      ∀ location, let again := (⟨none, (q.drop s).2.1⟩ : Session σ).next (.reopen location)
        ∃ q', again.handle = some q' ∧ q'.isOpen = true ∧
          Stores (SteadyStore.content again.storage) q'.head q'.tail items := by
  obtain ⟨items, stores⟩ := spans.exists_stores
  refine ⟨items, stores, ?_⟩
  intro location again
  have same := (content_drop place).2 e fails
  rw [← same] at spans
  obtain ⟨s', next, same'⟩ := next_reopen (s := ⟨none, (q.drop s).2.1⟩) SteadyStore.reads spans location
  have opened : again = ⟨some ⟨location, true, _, _⟩, s'⟩ := next
  rw [opened]
  refine ⟨_, rfl, rfl, ?_⟩
  rw [same'.trans same]
  exact stores.found

theorem dropped : Dropped q s where
  calls := by
    rw [(q.drop_eq (Logged.start s)).2, Queue.storage_close]
    cases q.isOpen <;> rfl
  outcome := (q.drop_eq s).1
  erased := erased_drop place
  kept _ := kept_drop spans place

end Erasable

/-- A handle whose counters bound the stored keys, on a store in which any flushes and destructions fail:
what comes of closing it and of dropping it, and that its location, the one destroyed, is that of the opening
that gave it. -/
theorem closed_and_dropped [ErasableStore σ] {q : Queue} {s : σ}
    (spans : Spans (SteadyStore.content s) q.head q.tail) (place : ErasableStore.keptAt q.location s) :
    ClosedOnce q s ∧ Dropped q s ∧ ∀ (location : String) (ops : List Operation) (q' : Queue),
      ((⟨none, s⟩ : Session σ).after (.reopen location :: ops.map .on)).handle = some q' →
        q'.location = location := by
  refine ⟨closedOnce q s, dropped spans place, ?_⟩
  intro location ops q' reached
  obtain ⟨s', next, -⟩ := next_reopen (s := ⟨none, s⟩) SteadyStore.reads spans location
  obtain ⟨q₁, s₁, last, same, -⟩ := handle_after ⟨location, true, _, _⟩ s' ops
  have run : (⟨none, s⟩ : Session σ).after (.reopen location :: ops.map .on) = ⟨some q₁, s₁⟩ := by
    show ((⟨none, s⟩ : Session σ).next (.reopen location)).after (ops.map .on) = _
    rw [next, last]
  rw [run] at reached
  obtain rfl := Option.some.inj reached
  exact same

/-- The flush fails and the destruction works: then the ids start over. If both fail, the items are back. -/
theorem closed_and_dropped_unflushed :
    let q : Queue := ⟨"q", true, 2, 4⟩
    let t := (Table.empty.insert (Key.encode 3) [7]).insert (Key.encode 4) [8]
    let works : Flaky fun kind => kind == .flush || kind == .destroy := ⟨t, [some (.io "down")]⟩
    let fails : Flaky fun kind => kind == .flush || kind == .destroy :=
      ⟨t, [some (.io "down"), some (.io "busy")]⟩
    Spans t 2 4 ∧
      ((⟨some q, works⟩ : Session _).logged.after ([Operation.close, .close].map .on)).storage.flushes = 1 ∧
      (q.drop (Logged.start works)).2.1.calls = [.destroy "q", .flush] ∧
      (q.drop works).1 = .ok () ∧
      ((⟨none, (q.drop works).2.1⟩ : Session _).next (.reopen "q")).handle = some ⟨"q", true, 0, 0⟩ ∧
      (q.drop fails).1 = .error (.storage (.io "busy")) ∧
      ∃ items q', Stores t 2 4 items ∧
        ((⟨none, (q.drop fails).2.1⟩ : Session _).next (.reopen "q")).handle = some q' ∧
        Stores (SteadyStore.content ((⟨none, (q.drop fails).2.1⟩ : Session _).next (.reopen "q")).storage)
          q'.head q'.tail items := by
  intro q t works fails
  have spans : Spans t 2 4 := (((Stores.empty 2).added (by decide) [7]).added (by decide) [8]).spans
  have done : (q.drop works).1 = .ok () := rfl
  have undone : (q.drop fails).1 = .error (.storage (.io "busy")) := rfl
  obtain ⟨closed, dropped, -⟩ := closed_and_dropped (q := q) (s := works) spans trivial
  obtain ⟨-, dropped', -⟩ := closed_and_dropped (q := q) (s := fails) spans trivial
  obtain ⟨items, stores, found⟩ := dropped'.kept _ undone
  obtain ⟨q', handle, -, stores'⟩ := found "q"
  exact ⟨spans, closed.flushed rfl _ List.mem_cons_self, dropped.calls, done, (dropped.erased done "q").1,
    undone, items, q', stores, handle, stores'⟩

end Session

end DurableQueue
