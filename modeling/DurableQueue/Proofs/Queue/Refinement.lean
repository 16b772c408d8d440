import DurableQueue.Proofs.Queue.Fifo

/-!
# The queue refines the list model

On a table, a handle whose counters bound the stored items behaves as the list of these items
(`Operation.run_shows`, one lemma for each operation before it). A session on a lawful store behaves
as one on its content up to the store calls that fail, so it behaves as the list model that meets the
same failures (`Session.perform_represents` for a call and `Session.replies_represented` for a run).
-/

namespace DurableQueue

/-! ## Handles as lists -/

/-- The handle on a table that stores the items, as a list. -/
def Queue.fifo (q : Queue) (items : List (UInt64 × Bytes)) : Fifo :=
  ⟨items, q.tail.toNat + 1, if q.isOpen then .opened else .closed⟩

/-- The list model answers as the turn does, and shows what the turn leads to. -/
def Turn.Shows (turn : Turn Table) (answer : Reply × Fifo) : Prop :=
  ∃ items, Stores turn.storage turn.queue.head turn.queue.tail items ∧
    answer = (turn.reply, turn.queue.fifo items)

namespace Queue

variable {q : Queue} {t : Table} {items : List (UInt64 × Bytes)}

theorem fifo_items : (q.fifo items).items = items := rfl

theorem fifo_tail : (q.fifo items).tail = q.tail := by
  unfold Fifo.tail fifo
  rw [Nat.add_sub_cancel, UInt64.ofNat_toNat]

theorem fifo_head (h : Stores t q.head q.tail items) : (q.fifo items).head = q.head := by
  unfold Fifo.head fifo
  rw [Nat.add_sub_cancel, h.consecutive.toNat_tail, Nat.add_sub_cancel, UInt64.ofNat_toNat]

theorem fifo_opened (opened : q.isOpen = true) (items : List (UInt64 × Bytes)) :
    (q.fifo items).standing = .opened := by
  unfold fifo
  rw [opened]
  rfl

theorem fifo_closed (shut : q.isOpen = false) (items : List (UInt64 × Bytes)) :
    (q.fifo items).standing = .closed := by
  unfold fifo
  rw [shut]
  rfl

/-- The list behind a handle that was closed. -/
theorem fifo_shut (q : Queue) (items : List (UInt64 × Bytes)) :
    ({ q.fifo items with standing := (q.fifo items).standing.shut } : Fifo) =
      ({ q with isOpen := false } : Queue).fifo items := by
  unfold fifo
  cases q.isOpen <;> rfl

/-! ### Looking -/

/-- What the list answers, case by case. -/
theorem look_closed (shut : q.isOpen = false) (asked : UInt64) (found : Option (UInt64 × Bytes)) :
    (q.fifo items).look asked found = .error .closed := by
  unfold Fifo.look
  rw [fifo_closed shut]
  rfl

theorem look_empty (opened : q.isOpen = true) (asked : UInt64) (found : Option (UInt64 × Bytes)) :
    (q.fifo []).look asked found = .error .empty := by
  unfold Fifo.look
  rw [if_neg (fun ne => ne (fifo_opened opened [])), fifo_items, if_pos rfl]

theorem look_none (h : Stores t q.head q.tail items) (opened : q.isOpen = true)
    (something : items ≠ []) (asked : UInt64) :
    (q.fifo items).look asked none = .error (.outOfBounds asked q.head q.tail) := by
  unfold Fifo.look
  rw [if_neg (fun ne => ne (fifo_opened opened items)), fifo_items, if_neg something, fifo_head h, fifo_tail]

theorem look_some (opened : q.isOpen = true) (something : items ≠ []) (asked id : UInt64)
    (value : Bytes) :
    (q.fifo items).look asked (some (id, value)) = .ok (Item.ofId id value) := by
  unfold Fifo.look
  rw [if_neg (fun ne => ne (fifo_opened opened items)), fifo_items, if_neg something]

/-- Looking for an id in the table is looking for it in the list. -/
theorem look_stored (h : Stores t q.head q.tail items) {id : UInt64}
    {reply : Except QueueError Item × Table} (looked : Looked q id t reply) :
    (q.fifo items).look id ((t.get? (Key.encode id)).map (id, ·)) = reply.1 := by
  cases looked with
  | closed shut => exact look_closed shut _ _
  | empty opened nothing =>
    rw [h.consecutive.eq_nil_iff.2 nothing]
    exact look_empty opened _ _
  | outOfBounds opened something out =>
    rw [h.spans.get?_eq_none_of_out out]
    exact look_none h opened (fun nil => something (h.consecutive.eq_nil_iff.1 nil)) id
  | failed _ _ _ get => cases get
  | missing opened above upto get =>
    obtain ⟨value, found⟩ := h.spans.exists_get? above upto
    rw [Table.get_def, found] at get
    cases get
  | found opened above upto get =>
    rw [Table.get_def] at get
    obtain ⟨found, -⟩ := Prod.mk.inj get
    rw [Except.ok.inj found]
    exact look_some opened (h.consecutive.ne_nil above upto) _ _ _

theorem byId_eq (h : Stores t q.head q.tail items) (id : UInt64) :
    (q.fifo items).byId id = (q.itemById id t).1 := by
  rw [← look_stored h (looked q id t), ← h.find?_eq]
  rfl

theorem byOffset_eq (h : Stores t q.head q.tail items) (offset : UInt64) :
    (q.fifo items).byOffset offset = (q.itemByOffset offset t).1 := by
  have size := h.consecutive.toNat_tail
  have small := q.tail.toNat_lt_size
  have looked := lookedAt q offset t
  unfold Fifo.byOffset
  rw [fifo_head h]
  generalize q.itemByOffset offset t = reply at looked
  cases looked with
  | @id id sum reply looked =>
    have fits : UInt64.ofNat (min (q.head.toNat + offset.toNat) (UInt64.size - 1)) = id := by
      have := id.toNat_lt_size
      rw [Nat.min_eq_left (by omega), ← sum, UInt64.ofNat_toNat]
    rw [fits, fifo_items, ← look_stored h looked]
    congr 1
    by_cases zero : offset = 0
    · -- the id is that of the head, which is not live
      rw [if_pos zero]
      have below : id ≤ q.head := by
        rw [UInt64.le_iff_toNat_le, sum, zero]
        exact Nat.le_refl _
      rw [h.spans.get?_eq_none_of_out (Or.inl below)]
      rfl
    · rw [if_neg zero]
      have pos : offset.toNat ≠ 0 := fun eq => zero (UInt64.toNat_inj.1 eq)
      exact h.getElem?_eq (by omega)
  | closed beyond shut => exact look_closed shut _ _
  | empty beyond opened nothing =>
    rw [h.consecutive.eq_nil_iff.2 nothing]
    exact look_empty opened _ _
  | outOfBounds beyond opened something =>
    have clipped : UInt64.ofNat (min (q.head.toNat + offset.toNat) (UInt64.size - 1)) = greatestId := by
      rw [Nat.min_eq_right (by omega)]
      rfl
    have nonzero : offset ≠ 0 := by
      rintro rfl
      have := q.head.toNat_lt_size
      exact absurd beyond (Nat.not_le.2 this)
    have outside : items[offset.toNat - 1]? = none := by
      rw [List.getElem?_eq_none_iff]
      omega
    rw [clipped, if_neg nonzero, fifo_items, outside]
    exact look_none h opened (fun nil => something (h.consecutive.eq_nil_iff.1 nil)) greatestId

theorem byId_shows (h : Stores t q.head q.tail items) (id : UInt64) :
    ((q.peekById id t).turn .item).Shows (.item ((q.fifo items).byId id), q.fifo items) := by
  rw [byId_eq h]
  refine ⟨items, ?_, rfl⟩
  show Stores (q.itemById id t).2 q.head q.tail items
  rw [itemById_table]
  exact h

theorem byOffset_shows (h : Stores t q.head q.tail items) (offset : UInt64) :
    ((q.peekByOffset offset t).turn .item).Shows
      (.item ((q.fifo items).byOffset offset), q.fifo items) := by
  rw [byOffset_eq h]
  refine ⟨items, ?_, rfl⟩
  show Stores (q.itemByOffset offset t).2 q.head q.tail items
  rw [itemByOffset_table]
  exact h

/-! ### Changing -/

theorem enqueue_shows (h : Stores t q.head q.tail items) (value : Bytes) :
    ((q.enqueue value t).turn .item).Shows ((q.fifo items).enqueue value) := by
  have cases := enqueued q value t
  unfold Fifo.enqueue
  rw [show (q.fifo items).next = q.tail.toNat + 1 from rfl]
  generalize q.enqueue value t = outcome at cases
  cases cases with
  | exhausted full =>
    rw [if_pos (by rw [full]; decide)]
    exact ⟨items, h, rfl⟩
  | closed room shut =>
    have next := toNat_add_one room
    have small := (q.tail + 1).toNat_lt_size
    rw [if_neg (by omega), fifo_closed shut]
    exact ⟨items, h, rfl⟩
  | failed _ _ put => cases put
  | added room opened put =>
    obtain ⟨-, rfl⟩ := Prod.mk.inj put
    have next := toNat_add_one room
    have small := (q.tail + 1).toNat_lt_size
    rw [if_neg (by omega), if_neg (fun ne => ne (fifo_opened opened items)), ← next,
      UInt64.ofNat_toNat]
    refine ⟨items ++ [(q.tail + 1, value)], h.added room value, ?_⟩
    rfl

theorem enqueueObject_shows (h : Stores t q.head q.tail items) (v : Payload.Value) :
    ((q.enqueueObject v t).turn .item).Shows ((q.fifo items).run (.enqueueObject v)) := by
  unfold enqueueObject Fifo.run
  dsimp only
  cases payloadOf v with
  | error e => exact ⟨items, h, rfl⟩
  | ok value => exact enqueue_shows h value

theorem dequeue_shows (h : Stores t q.head q.tail items) :
    ((q.dequeue t).turn .item).Shows (q.fifo items).dequeue := by
  have cases := dequeued h.consecutive.le t
  unfold Fifo.dequeue
  generalize q.dequeue t = outcome at cases
  cases cases with
  | refused front =>
    cases front with
    | closed shut =>
      rw [fifo_closed shut]
      exact ⟨items, h, rfl⟩
    | empty opened nothing =>
      obtain rfl := h.consecutive.eq_nil_iff.2 nothing
      rw [fifo_opened opened]
      exact ⟨[], h, rfl⟩
    | failed _ _ get => cases get
    | missing opened something get =>
      obtain ⟨value, rest, -, found⟩ := h.exists_front something
      rw [Table.get_def, found] at get
      cases get
  | failed _ delete => cases delete
  | @taken value s' s'' front delete =>
    cases front with
    | found opened something get =>
      obtain ⟨front, rest, rfl, found⟩ := h.exists_front something
      rw [Table.get_def, found] at get
      obtain ⟨same, rfl⟩ := Prod.mk.inj get
      obtain ⟨-, rfl⟩ := Prod.mk.inj delete
      obtain rfl := Option.some.inj (Except.ok.inj same)
      rw [if_neg (fun ne => ne (fifo_opened opened _)), fifo_items]
      exact ⟨rest, h.taken, rfl⟩

theorem update_shows (h : Stores t q.head q.tail items) (item : Item) (value : Bytes) :
    (Operation.changed (q.update item value t)).Shows ((q.fifo items).update item value) := by
  have cases := updated q item value t
  unfold Fifo.update Fifo.byId
  rw [fifo_items, h.find?_eq]
  generalize q.update item value t = outcome at cases
  cases cases with
  | closed shut =>
    rw [look_closed shut]
    exact ⟨items, h, rfl⟩
  | empty opened nothing =>
    obtain rfl := h.consecutive.eq_nil_iff.2 nothing
    rw [look_empty opened]
    exact ⟨[], h, rfl⟩
  | outOfBounds opened something out =>
    rw [h.spans.get?_eq_none_of_out out]
    dsimp only [Option.map]
    rw [look_none h opened (fun nil => something (h.consecutive.eq_nil_iff.1 nil))]
    exact ⟨items, h, rfl⟩
  | failed _ _ _ put => cases put
  | written opened above upto put =>
    obtain ⟨-, rfl⟩ := Prod.mk.inj put
    obtain ⟨old, found⟩ := h.spans.exists_get? above upto
    rw [found]
    dsimp only [Option.map]
    rw [look_some opened (h.consecutive.ne_nil above upto)]
    exact ⟨revalued item.id value items, h.replaced above upto value, rfl⟩

theorem updateObject_shows (h : Stores t q.head q.tail items) (item : Item) (v : Payload.Value) :
    (Operation.changed (q.updateObject item v t)).Shows
      ((q.fifo items).run (.updateObject item v)) := by
  unfold updateObject Fifo.run
  dsimp only
  cases payloadOf v with
  | error e => exact ⟨items, h, rfl⟩
  | ok value => exact update_shows h item value

theorem close_shows (h : Stores t q.head q.tail items) :
    ((q.close t).turn .done).Shows ((q.fifo items).run .close) := by
  have cases := closed q t
  unfold Fifo.run
  rw [fifo_shut]
  generalize q.close t = outcome at cases
  cases cases with
  | already shut =>
    have same : ({ q with isOpen := false } : Queue) = q := by rw [← shut]
    rw [same]
    exact ⟨items, h, rfl⟩
  | failed _ flush => cases flush
  | flushed opened flush =>
    obtain ⟨-, rfl⟩ := Prod.mk.inj flush
    exact ⟨items, h, rfl⟩

theorem length_eq (h : Stores t q.head q.tail items) : q.length = UInt64.ofNat items.length := by
  unfold length
  rw [← UInt64.toNat_inj, UInt64.toNat_sub_of_le _ _ h.consecutive.le, h.consecutive.toNat_tail,
    Nat.add_sub_cancel_left, UInt64.toNat_ofNat_of_lt']
  have size := h.consecutive.toNat_tail
  have small := q.tail.toNat_lt_size
  show items.length < UInt64.size
  omega

end Queue

/-- An operation on a table that stores the items of the list. -/
theorem Operation.run_shows {q : Queue} {t : Table} {items : List (UInt64 × Bytes)}
    (h : Stores t q.head q.tail items) (op : Operation) :
    (op.run q t).Shows ((q.fifo items).run op) := by
  cases op with
  | enqueue value => exact Queue.enqueue_shows h value
  | enqueueText text => exact Queue.enqueue_shows h _
  | enqueueObject v => exact Queue.enqueueObject_shows h v
  | dequeue => exact Queue.dequeue_shows h
  | peek => exact Queue.byOffset_shows h 1
  | peekByOffset offset => exact Queue.byOffset_shows h offset
  | peekById id => exact Queue.byId_shows h id
  | update item value => exact Queue.update_shows h item value
  | updateText item text => exact Queue.update_shows h item _
  | updateObject item v => exact Queue.updateObject_shows h item v
  | counters =>
    refine ⟨items, h, ?_⟩
    show (Reply.counters _ (q.fifo items).head (q.fifo items).tail, _) = (Reply.counters q.length _ _, _)
    rw [Queue.fifo_head h, Queue.fifo_tail, Queue.length_eq h, Queue.fifo_items]
    rfl
  | close => exact Queue.close_shows h

/-! ## Sessions -/

/-- The list is what the session has in its store, and the next id is the one the next item gets. -/
inductive Fifo.Represents : Fifo → Session Table → Prop where
  | absent {t head tail items} (stores : Stores t head tail items) :
      Represents ⟨items, tail.toNat + 1, .absent⟩ ⟨none, t⟩
  | handle {t q items} (stores : Stores t q.head q.tail items) :
      Represents (q.fifo items) ⟨some q, t⟩

/-- The items are those in the store, and the counters of the handle bound them. -/
theorem Fifo.Represents.stores {f : Fifo} {s : Session Table} (rep : f.Represents s) :
    ∃ head tail, Stores s.storage head tail f.items ∧
      ∀ q, s.handle = some q → q.head = head ∧ q.tail = tail := by
  cases rep with
  | absent stores => exact ⟨_, _, stores, nofun⟩
  | @handle t q items stores =>
    refine ⟨q.head, q.tail, stores, ?_⟩
    intro q' same
    obtain rfl := Option.some.inj same
    exact ⟨rfl, rfl⟩

/-- Opening a store that reads as a table works, and finds the range of ids that the table spans. -/
theorem Queue.ofStore_of_spans {σ : Type} [OrderedStore σ] {π : σ → Table} (reads : ReadHom π) {s : σ}
    {head tail : UInt64} (h : Spans (π s) head tail) (location : String) :
    ∃ s' events, ofStore location s =
      (.ok ⟨location, true, (foundCounters head tail).1, (foundCounters head tail).2⟩, s', events) ∧
        π s' = π s := by
  have natural := ofStore_map reads s location
  rw [ofStore_eq h location] at natural
  generalize ofStore location s = reply at natural ⊢
  obtain ⟨r, s', events⟩ := reply
  obtain ⟨rfl, rest⟩ := Prod.mk.inj natural
  obtain ⟨same, rfl⟩ := Prod.mk.inj rest
  exact ⟨s', _, rfl, same.symm⟩

namespace Session

theorem next_reopen {σ : Type} [OrderedStore σ] {π : σ → Table} (reads : ReadHom π) {s : Session σ}
    {head tail : UInt64} (h : Spans (π s.storage) head tail) (location : String) :
    ∃ s', s.next (.reopen location) =
      ⟨some ⟨location, true, (foundCounters head tail).1, (foundCounters head tail).2⟩, s'⟩ ∧
        π s' = π s.storage := by
  obtain ⟨s', events, opened, same⟩ := Queue.ofStore_of_spans reads h location
  refine ⟨s', ?_, same⟩
  unfold next perform reopen
  dsimp only
  rw [opened]

theorem reopen_represents {t : Table} {head tail : UInt64} {items : List (UInt64 × Bytes)}
    (h : Stores t head tail items) (handle : Option Queue) (location : String) :
    ((⟨handle, t⟩ : Session Table).perform (.reopen location)).1 = .done (.ok ()) ∧
      Fifo.Represents ⟨items, if items = [] then 1 else tail.toNat + 1, .opened⟩
        ((⟨handle, t⟩ : Session Table).next (.reopen location)) := by
  unfold next perform reopen
  dsimp only
  rw [Queue.ofStore_eq h.spans]
  refine ⟨rfl, ?_⟩
  have next : (foundCounters head tail).2.toNat + 1 = if items = [] then 1 else tail.toNat + 1 := by
    unfold foundCounters
    by_cases nothing : head = tail
    · rw [if_pos nothing, if_pos (h.consecutive.eq_nil_iff.2 nothing)]
      rfl
    · rw [if_neg nothing, if_neg (fun nil => nothing (h.consecutive.eq_nil_iff.1 nil))]
  rw [← next]
  exact .handle (q := ⟨location, true, _, _⟩) h.found

/-- One call, in which the store may fail, on a table and on the list that it stands for. -/
theorem met_represents {f : Fifo} {s : Session Table} (rep : f.Represents s) (call : Call)
    (fault : Option StoreError) :
    (f.perform call fault).1 = (s.met call fault).1 ∧
      (f.perform call fault).2.Represents (s.met call fault).2 := by
  cases fault with
  | none =>
    cases call with
    | on op =>
      cases rep with
      | absent stores => exact ⟨rfl, .absent stores⟩
      | @handle t q items stores =>
        obtain ⟨items', stores', answer⟩ := op.run_shows stores
        have present : (q.fifo items).standing ≠ .absent := by
          unfold Queue.fifo
          cases q.isOpen <;> nofun
        unfold Fifo.perform met next perform
        dsimp only
        rw [if_neg present, answer]
        exact ⟨rfl, .handle stores'⟩
    | reopen location =>
      cases rep with
      | absent stores =>
        obtain ⟨reply, rep⟩ := reopen_represents stores none location
        exact ⟨reply.symm, rep⟩
      | @handle t q items stores =>
        obtain ⟨reply, rep⟩ := reopen_represents stores (some q) location
        exact ⟨reply.symm, rep⟩
  | some e =>
    refine ⟨rfl, ?_⟩
    cases call with
    | on op =>
      cases rep with
      | absent stores => cases op <;> exact .absent stores
      | @handle t q items stores =>
        cases op with
        | close =>
          show Fifo.Represents { q.fifo items with standing := (q.fifo items).standing.shut } _
          rw [Queue.fifo_shut]
          exact .handle stores
        | _ => exact .handle stores
    | reopen location =>
      cases rep with
      | absent stores => exact .absent stores
      | handle stores => exact .absent stores

section Lawful

variable {σ : Type} [OrderedStore σ] [LawfulStore σ]

theorem perform_represents {f : Fifo} {s : Session σ} (rep : f.Represents s.view) (call : Call) :
    (s.perform call).1 = (f.perform call (s.fault call)).1 ∧
      (f.perform call (s.fault call)).2.Represents (s.next call).view := by
  obtain ⟨reply, rep⟩ := met_represents rep call (s.fault call)
  rw [← perform_view] at reply rep
  exact ⟨reply.symm, rep⟩

/-- A run on a lawful store gives the replies of the list model that meets the same failures. -/
theorem replies_represented {f : Fifo} {s : Session σ} (rep : f.Represents s.view)
    (calls : List Call) : s.replies calls = f.replies (calls.zip (s.faults calls)) := by
  induction calls generalizing f s with
  | nil => rfl
  | cons call calls ih =>
    obtain ⟨reply, rep⟩ := perform_represents rep call
    unfold replies faults
    rw [List.zip_cons_cons, Fifo.replies, reply, ih rep]

/-- What a run leaves is what some list stands for. -/
theorem after_represented {f : Fifo} {s : Session σ} (rep : f.Represents s.view)
    (calls : List Call) : ∃ f' : Fifo, f'.Represents (s.after calls).view := by
  induction calls generalizing f s with
  | nil => exact ⟨f, rep⟩
  | cons call calls ih => exact ih (perform_represents rep call).2

/-- So is what a run leaves of a store that was empty. -/
theorem represented_of_empty {s : σ} (start : LawfulStore.content s = .empty) (calls : List Call) :
    ∃ f : Fifo, f.Represents ((⟨none, s⟩ : Session σ).after calls).view := by
  have stores : Stores (LawfulStore.content s) 0 0 [] := by
    rw [start]
    exact .empty 0
  exact after_represented (s := ⟨none, s⟩) (.absent stores) calls

/-- The results of any calls on a store that holds consecutive ids, from the first opening on, are
those of the list of its items. -/
theorem replies_eq_fifo {s : σ} {head tail : UInt64} {items : List (UInt64 × Bytes)}
    (stored : Stores (LawfulStore.content s) head tail items) (calls : List Call) :
    (⟨none, s⟩ : Session σ).replies calls =
      Fifo.replies ⟨items, tail.toNat + 1, .absent⟩
        (calls.zip ((⟨none, s⟩ : Session σ).faults calls)) :=
  replies_represented (.absent stored) calls

end Lawful

/-- The second of three takings fails in the store. -/
theorem replies_eq_fifo_flaky :
    (⟨none, ⟨(Table.empty.insert (Key.encode 3) [7]).insert (Key.encode 4) [8],
        [none, none, none, none, none, some (.io "down")]⟩⟩ : Session (Flaky fun _ => true)).replies
      [.reopen "q", .on .dequeue, .on .dequeue, .on .dequeue, .on .dequeue] =
    [.done (.ok ()), .item (.ok (Item.ofId 3 [7])), .item (.error (.storage (.io "down"))),
      .item (.ok (Item.ofId 4 [8])), .item (.error .empty)] :=
  (replies_eq_fifo (((Stores.empty 2).added (by decide) [7]).added (by decide) [8]) _).trans rfl

end Session

end DurableQueue
