import DurableQueue.Proofs.Queue.Refinement

/-!
# Crashes

A crash can come before the first store call of a queue's call and after each one. It takes the handle
away, so whatever comes next has to start from the keys in the store alone. On a reliable store the
content at every such instant is the one from before the call or the one from after it
(`Session.content_instants`), and either stores a list of items, which opening finds again
(`recovers_of_stores`). `Session.recovers_instants` says this after any history of calls, crashes and
recoveries.
-/

namespace DurableQueue

variable {σ : Type} [OrderedStore σ] [ReliableStore σ]

open LawfulStore (content)

/-! ## Recovery -/

/-- Opening the store works and gives an open handle on exactly the items, at 0 if there are none. -/
def Recovers (location : String) (s : σ) (items : List (UInt64 × Bytes)) : Prop :=
  ∃ q s' events, Queue.ofStore location s = (.ok q, s', events) ∧ q.isOpen = true ∧
    Stores (content s') q.head q.tail items ∧ (items = [] → q.head = 0 ∧ q.tail = 0)

theorem recovers_of_stores {s : σ} {head tail : UInt64} {items : List (UInt64 × Bytes)}
    (h : Stores (content s) head tail items) (location : String) : Recovers location s items := by
  obtain ⟨s', events, opened, same⟩ :=
    Queue.ofStore_of_spans ReliableStore.hom.toReadHom h.spans location
  refine ⟨_, s', events, opened, rfl, ?_, ?_⟩
  · rw [show content s' = content s from same]
    exact h.found
  · rintro rfl
    unfold foundCounters
    rw [if_pos (h.consecutive.eq_nil_iff.1 rfl)]
    exact ⟨rfl, rfl⟩

namespace Session

/-! ## Histories -/

/-- The sessions that calls, crashes within calls and openings after crashes lead to. -/
inductive History (s : Session σ) : Session σ → Prop where
  | start : History s s
  | completed {s'} (before : History s s') (call : Call) : History s (s'.next call)
  | crashed {s'} (before : History s s') (call : Call) {i : σ} (instant : i ∈ s'.instants call)
      (location : String) : History s ((⟨none, i⟩ : Session σ).next (.reopen location))

/-- The items in the store, between the counters of the handle if there is one. -/
def Lists (s : Session σ) (items : List (UInt64 × Bytes)) : Prop :=
  ∃ head tail, Stores (content s.storage) head tail items ∧
    ∀ q, s.handle = some q → q.head = head ∧ q.tail = tail

theorem next_view (s : Session σ) (call : Call) : (s.next call).view = s.view.next call :=
  (congrArg (·.2.1) (perform_map ReliableStore.hom s call)).symm

theorem reply_view (s : Session σ) (call : Call) : (s.perform call).1 = (s.view.perform call).1 :=
  (congrArg (·.1) (perform_map ReliableStore.hom s call)).symm

theorem replies_view (s : Session σ) (calls : List Call) : s.replies calls = s.view.replies calls := by
  induction calls generalizing s with
  | nil => rfl
  | cons call calls ih =>
    rw [replies, replies, reply_view, ih (s.next call), next_view]

theorem after_view (s : Session σ) (calls : List Call) : (s.after calls).view = s.view.after calls := by
  induction calls generalizing s with
  | nil => rfl
  | cons call calls ih =>
    show ((s.next call).after calls).view = (s.view.next call).after calls
    rw [ih, next_view]

theorem lists_of_represents {f : Fifo} {s : Session σ} (rep : f.Represents s.view) :
    s.Lists f.items := rep.stores

theorem next_represented {f : Fifo} {s : Session σ} (rep : f.Represents s.view) (call : Call) :
    (f.perform call none).2.Represents (s.next call).view := by
  rw [next_view]
  exact (met_represents rep call none).2

/-- At each instant of a call, the store holds the items from before it or those from after it. -/
theorem stores_instants {f : Fifo} {s : Session σ} (rep : f.Represents s.view) (call : Call) {i : σ}
    (instant : i ∈ s.instants call) :
    ∃ head tail items, (items = f.items ∨ items = (f.perform call none).2.items) ∧
      Stores (content i) head tail items := by
  obtain ⟨head, tail, before, -⟩ := lists_of_represents rep
  obtain ⟨head', tail', after, -⟩ := lists_of_represents (next_represented rep call)
  rcases content_instants s call instant with same | same
  · rw [same]
    exact ⟨head, tail, _, Or.inl rfl, before⟩
  · rw [same, ← next_view]
    exact ⟨head', tail', _, Or.inr rfl, after⟩

theorem History.represented {f : Fifo} {s s' : Session σ} (history : History s s')
    (rep : f.Represents s.view) : ∃ f' : Fifo, f'.Represents s'.view := by
  induction history with
  | start => exact ⟨f, rep⟩
  | completed _ call ih =>
    obtain ⟨f', rep⟩ := ih
    exact ⟨_, next_represented rep call⟩
  | crashed _ call instant location ih =>
    obtain ⟨f', rep⟩ := ih
    obtain ⟨head, tail, items, -, stores⟩ := stores_instants rep call instant
    exact ⟨_, next_represented (s := ⟨none, _⟩) (.absent stores) (.reopen location)⟩

/-- Whatever calls, crashes and recoveries there were, and at whatever instant of a call the next crash
comes: opening works and finds exactly the items from before the call or exactly those from after it. -/
theorem recovers_instants {q : Queue} {s : σ} (spans : Spans (content s) q.head q.tail)
    {s' : Session σ} (history : History ⟨some q, s⟩ s') (call : Call) :
    ∃ before after, s'.Lists before ∧ (s'.next call).Lists after ∧
      ∀ i ∈ s'.instants call, ∀ location, Recovers location i before ∨ Recovers location i after := by
  obtain ⟨items, stores⟩ := spans.exists_stores
  obtain ⟨f, rep⟩ := history.represented (.handle stores)
  refine ⟨f.items, (f.perform call none).2.items, lists_of_represents rep,
    lists_of_represents (next_represented rep call), ?_⟩
  intro i instant location
  obtain ⟨head, tail, items, same, stores⟩ := stores_instants rep call instant
  have recovers := recovers_of_stores stores location
  rcases same with rfl | rfl
  · exact Or.inl recovers
  · exact Or.inr recovers

/-- Ids 3 and 4 on disk, a crash on the way to taking 3 out, and then one on the way to adding an item. -/
theorem recovers_instants_durable :
    let disk : Durable := ⟨⟨[], "/", .empty⟩, "q", true,
      ⟨true, (Table.empty.insert (Key.encode 3) [7]).insert (Key.encode 4) [8]⟩⟩
    let cut : Durable := ⟨⟨[], "/", .empty⟩, "q", true,
      ⟨true, ((Table.empty.insert (Key.encode 3) [7]).insert (Key.encode 4) [8]).erase (Key.encode 3)⟩⟩
    let s : Session Durable := (⟨none, cut⟩ : Session Durable).next (.reopen "q")
    History ⟨some ⟨"q", true, 2, 4⟩, disk⟩ s ∧
      ∃ before after, s.Lists before ∧ (s.next (.on (.enqueue [9]))).Lists after ∧
        ∀ i ∈ s.instants (.on (.enqueue [9])), ∀ location,
          Recovers location i before ∨ Recovers location i after := by
  intro disk cut s
  have spans : Spans (content disk) 2 4 :=
    (((Stores.empty 2).added (by decide) [7]).added (by decide) [8]).spans
  have history : History ⟨some ⟨"q", true, 2, 4⟩, disk⟩ s := by
    apply History.crashed .start (.on .dequeue)
    exact List.mem_cons_of_mem _ (List.mem_cons_of_mem _ List.mem_cons_self)
  exact ⟨history, recovers_instants (q := ⟨"q", true, 2, 4⟩) spans history _⟩

end Session

end DurableQueue
