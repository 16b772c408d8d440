import DurableQueue.Proofs.Queue.Session

/-!
# Running on the content

A lawful store behaves as its content, save that calls may fail. `Follows` compares the two for
anything that is built from calls, and `Session.perform_view` says what becomes of a call of a session:
if no call of the store fails in it, it does on the store what it does on the content; if one fails,
the content stays as it is and the reply tells the error. A crash within a call leaves the content
from before the call or that from after it (`Session.content_instants`).
-/

namespace DurableQueue

/-! ## Following -/

section Follows

variable {σ α β : Type} [OrderedStore σ] [LawfulStore σ]

open LawfulStore (content)

/-- What comes of a program on a watched store, beside what comes of it on the content: the same, or
a failure after which the content is what it was. On the way there is only the content from before or
the one from after. -/
inductive Follows (w : Watched σ) (failure : StoreError → α) : α × Watched σ → α × Table → Prop where
  | worked {a w' t} (record : w'.faults = w.faults) (reached : content w'.base = t)
      (seen : ∀ s ∈ w'.visited, s ∈ w.visited ∨ content s = content w.base ∨ content s = t) :
      Follows w failure (a, w') (a, t)
  | failed {e w' ideal} (record : w'.faults = e :: w.faults)
      (same : content w'.base = content w.base)
      (seen : ∀ s ∈ w'.visited, s ∈ w.visited ∨ content s = content w.base) :
      Follows w failure (failure e, w') ideal

namespace Follows

variable {w : Watched σ} {failure : StoreError → α}

/-- No call at all. -/
theorem quiet (w : Watched σ) (failure : StoreError → α) (a : α) :
    Follows w failure (a, w) (a, content w.base) :=
  .worked rfl rfl fun _ => Or.inl

/-- A single call. -/
theorem call {answer : α} {after : Table} {reply : Except StoreError α × σ}
    (law : Faithful content w.base answer after reply) :
    Follows w .error (w.note reply) (.ok answer, after) := by
  obtain ⟨e | a, s'⟩ := reply
  · have same := law.on_error rfl
    refine .failed rfl same ?_
    intro s visited
    rcases List.mem_cons.1 visited with rfl | visited
    · exact Or.inr same
    · exact Or.inl visited
  · obtain ⟨rfl, reached⟩ := law.on_ok rfl
    refine .worked rfl reached ?_
    intro s visited
    rcases List.mem_cons.1 visited with rfl | visited
    · exact Or.inr (Or.inr reached)
    · exact Or.inl visited

theorem get (key : Bytes) (w : Watched σ) :
    Follows w .error (OrderedStore.get key w) (OrderedStore.get key (content w.base)) :=
  .call (LawfulStore.get key w.base)

theorem put (key value : Bytes) (w : Watched σ) :
    Follows w .error (OrderedStore.put key value w) (OrderedStore.put key value (content w.base)) :=
  .call (LawfulStore.put key value w.base)

theorem delete (key : Bytes) (w : Watched σ) :
    Follows w .error (OrderedStore.delete key w) (OrderedStore.delete key (content w.base)) :=
  .call (LawfulStore.delete key w.base)

theorem firstKey (w : Watched σ) :
    Follows w .error (OrderedStore.firstKey w) (OrderedStore.firstKey (content w.base)) :=
  .call (LawfulStore.firstKey w.base)

theorem lastKey (w : Watched σ) :
    Follows w .error (OrderedStore.lastKey w) (OrderedStore.lastKey (content w.base)) :=
  .call (LawfulStore.lastKey w.base)

theorem flush (w : Watched σ) :
    Follows w .error (OrderedStore.flush w) (OrderedStore.flush (content w.base)) :=
  .call (LawfulStore.flush w.base)

/-- The same, told otherwise. -/
theorem map {reply : α × Watched σ} {ideal : α × Table} (h : Follows w failure reply ideal)
    (f : α → β) :
    Follows w (fun e => f (failure e)) (f reply.1, reply.2) (f ideal.1, ideal.2) := by
  cases h with
  | worked record reached seen => exact .worked record reached seen
  | failed record same seen => exact .failed record same seen

/-- One program after another, the first of which changes nothing. -/
theorem andThen {w' : Watched σ} {failure : StoreError → β} {reply : β × Watched σ}
    {ideal : β × Table} (record : w'.faults = w.faults) (same : content w'.base = content w.base)
    (seen : ∀ s ∈ w'.visited, s ∈ w.visited ∨ content s = content w.base)
    (h : Follows w' failure reply ideal) : Follows w failure reply ideal := by
  cases h with
  | worked record' reached seen' =>
    refine .worked (record'.trans record) reached ?_
    intro s visited
    rcases seen' s visited with before | before | after
    · exact (seen s before).imp_right Or.inl
    · exact Or.inr (Or.inl (before.trans same))
    · exact Or.inr (Or.inr after)
  | failed record' same' seen' =>
    refine .failed (record'.trans (congrArg _ record)) (same'.trans same) ?_
    intro s visited
    rcases seen' s visited with before | before
    · exact seen s before
    · exact Or.inr (before.trans same)

/-- What the result and the content are, by the record. -/
theorem result {s : σ} {reply : α × Watched σ} {ideal : α × Table}
    (h : Follows (Watched.start s) failure reply ideal) :
    (reply.1, content reply.2.base) =
      match reply.2.faults.head? with
      | none => ideal
      | some e => (failure e, content s) := by
  cases h with
  | worked record reached seen =>
    dsimp only
    rw [record, reached]
    rfl
  | failed record same seen =>
    dsimp only
    rw [record, same]
    rfl

theorem content_visited {s i : σ} {reply : α × Watched σ} {ideal : α × Table}
    (h : Follows (Watched.start s) failure reply ideal) (visited : i ∈ reply.2.visited) :
    content i = content s ∨ content i = ideal.2 := by
  cases h with
  | worked record reached seen => exact (seen i visited).resolve_left List.not_mem_nil
  | failed record same seen => exact Or.inl ((seen i visited).resolve_left List.not_mem_nil)

end Follows

/-! ## Operations -/

/-- The reply to an operation in which a call of the store fails. -/
def Operation.failed (e : StoreError) : Operation → Reply
  | update item _ => .updated (.error (.storage e)) item
  | updateText item _ => .updated (.error (.storage e)) item
  | updateObject item _ => .updated (.error (.storage e)) item
  | close => .done (.error (.storage e))
  | _ => .item (.error (.storage e))

/-- The handle after an operation in which a call of the store fails. -/
def Operation.failedHandle (q : Queue) : Operation → Queue
  | close => { q with isOpen := false }
  | _ => q

/-- A turn without its events, in two parts. -/
def Turn.parts (turn : Turn σ) : (Reply × Queue) × σ := ((turn.reply, turn.queue), turn.storage)

namespace Queue

variable (q : Queue) (w : Watched σ)

theorem follows_itemById (id : UInt64) :
    Follows w (fun e => .error (.storage e)) (q.itemById id w) (q.itemById id (content w.base)) := by
  unfold itemById
  split
  · exact .quiet w _ _
  · split
    · exact .quiet w _ _
    · have get := Follows.get (Key.encode id) w
      dsimp only
      generalize OrderedStore.get (Key.encode id) w = reply at get ⊢
      rw [Table.get_def] at get ⊢
      cases get with
      | worked record reached seen =>
        cases (content w.base).get? (Key.encode id) with
        | none => exact .worked record reached seen
        | some value => exact .worked record reached seen
      | failed record same seen => exact .failed record same seen

theorem follows_itemByOffset (offset : UInt64) :
    Follows w (fun e => .error (.storage e)) (q.itemByOffset offset w)
      (q.itemByOffset offset (content w.base)) := by
  unfold itemByOffset
  split
  · exact follows_itemById q w _
  · split
    · exact .quiet w _ _
    · split
      · exact .quiet w _ _
      · exact .quiet w _ _

omit [OrderedStore σ] [LawfulStore σ] in
/-- Looking changes nothing in a table. -/
theorem itemById_table (id : UInt64) (t : Table) : (q.itemById id t).2 = t := by
  unfold itemById
  split
  · rfl
  · split
    · rfl
    · dsimp only
      rw [Table.get_def]
      cases t.get? (Key.encode id) <;> rfl

omit [OrderedStore σ] [LawfulStore σ] in
theorem itemByOffset_table (offset : UInt64) (t : Table) : (q.itemByOffset offset t).2 = t := by
  unfold itemByOffset
  split
  · exact itemById_table q _ t
  · split
    · rfl
    · split <;> rfl

theorem follows_enqueue (value : Bytes) :
    Follows w (fun e => (.item (.error (.storage e)), q)) ((q.enqueue value w).turn .item).parts
      ((q.enqueue value (content w.base)).turn .item).parts := by
  unfold enqueue
  split
  · exact .quiet w _ _
  · split
    · exact .quiet w _ _
    · next id _ _ =>
      have put := Follows.put (Key.encode id) value w
      dsimp only [Item.ofId]
      generalize OrderedStore.put (Key.encode id) value w = reply at put ⊢
      rw [Table.put_def] at put ⊢
      cases put with
      | worked record reached seen => exact .worked record reached seen
      | failed record same seen => exact .failed record same seen

theorem follows_enqueueObject (v : Payload.Value) :
    Follows w (fun e => (.item (.error (.storage e)), q)) ((q.enqueueObject v w).turn .item).parts
      ((q.enqueueObject v (content w.base)).turn .item).parts := by
  unfold enqueueObject
  split
  · exact .quiet w _ _
  · exact follows_enqueue q w _

theorem follows_dequeue :
    Follows w (fun e => (.item (.error (.storage e)), q)) ((q.dequeue w).turn .item).parts
      ((q.dequeue (content w.base)).turn .item).parts := by
  have front := follows_itemByOffset q w 1
  have kept := itemByOffset_table q 1 (content w.base)
  unfold dequeue
  generalize q.itemByOffset 1 w = reply at front ⊢
  generalize q.itemByOffset 1 (content w.base) = ideal at front kept ⊢
  cases front with
  | failed record same seen => exact .failed record same seen
  | @worked a w' t record reached seen =>
    obtain rfl : t = content w.base := kept
    cases a with
    | error e => exact .worked record reached seen
    | ok item =>
      have delete := Follows.delete item.key w'
      rw [reached] at delete
      dsimp only
      apply Follows.andThen record reached fun s visited => (seen s visited).imp_right (or_self_iff.1 ·)
      generalize OrderedStore.delete item.key w' = reply at delete ⊢
      rw [Table.delete_def] at delete ⊢
      cases delete with
      | worked record reached seen => exact .worked record reached seen
      | failed record same seen => exact .failed record same seen

theorem follows_update (item : Item) (value : Bytes) :
    Follows w (fun e => (.updated (.error (.storage e)) item, q))
      (Operation.changed (q.update item value w)).parts
      (Operation.changed (q.update item value (content w.base))).parts := by
  unfold update
  split
  · exact .quiet w _ _
  · split
    · exact .quiet w _ _
    · have put := Follows.put (Key.encode item.id) value w
      dsimp only
      generalize OrderedStore.put (Key.encode item.id) value w = reply at put ⊢
      rw [Table.put_def] at put ⊢
      cases put with
      | worked record reached seen => exact .worked record reached seen
      | failed record same seen => exact .failed record same seen

theorem follows_updateObject (item : Item) (v : Payload.Value) :
    Follows w (fun e => (.updated (.error (.storage e)) item, q))
      (Operation.changed (q.updateObject item v w)).parts
      (Operation.changed (q.updateObject item v (content w.base))).parts := by
  unfold updateObject
  split
  · exact .quiet w _ _
  · exact follows_update q w item _

theorem follows_close :
    Follows w (fun e => (.done (.error (.storage e)), { q with isOpen := false }))
      ((q.close w).turn .done).parts ((q.close (content w.base)).turn .done).parts := by
  unfold close
  split
  · exact .quiet w _ _
  · have flush := Follows.flush w
    dsimp only
    generalize OrderedStore.flush w = reply at flush ⊢
    rw [Table.flush_def] at flush ⊢
    cases flush with
    | worked record reached seen => exact .worked record reached seen
    | failed record same seen => exact .failed record same seen

omit q in
theorem follows_storedId {asked : Watched σ → Except StoreError (Option Bytes) × Watched σ}
    {ideal : Table → Except StoreError (Option Bytes) × Table}
    (h : Follows w .error (asked w) (ideal (content w.base))) :
    Follows w (fun e => .error (.storage e)) (storedId asked w)
      (storedId ideal (content w.base)) := by
  unfold storedId
  generalize asked w = reply at h ⊢
  generalize ideal (content w.base) = wanted at h ⊢
  cases h with
  | failed record same seen => exact .failed record same seen
  | @worked a _ _ record reached seen =>
    rcases a with e | _ | key
    · exact .worked record reached seen
    · exact .worked record reached seen
    · exact .worked record reached seen

omit q in
theorem follows_recover :
    Follows w (fun e => .error (.storage e)) ((recover w).1, (recover w).2.1)
      ((recover (content w.base)).1, (recover (content w.base)).2.1) := by
  have first := follows_storedId w (Follows.firstKey w)
  have kept : (storedId OrderedStore.firstKey (content w.base)).2 = content w.base := by
    unfold storedId
    rw [Table.firstKey_def]
    cases (content w.base).firstKey? <;> rfl
  unfold recover
  generalize storedId OrderedStore.firstKey w = reply at first ⊢
  generalize storedId OrderedStore.firstKey (content w.base) = ideal at first kept ⊢
  cases first with
  | failed record same seen => exact .failed record same seen
  | @worked a w' t record reached seen =>
    obtain rfl : t = content w.base := kept
    cases a with
    | error e => exact .worked record reached seen
    | ok first? =>
      have last := follows_storedId w' (Follows.lastKey w')
      rw [reached] at last
      dsimp only
      apply Follows.andThen record reached fun s visited => (seen s visited).imp_right (or_self_iff.1 ·)
      generalize storedId OrderedStore.lastKey w' = reply at last ⊢
      generalize storedId OrderedStore.lastKey (content w.base) = ideal at last ⊢
      cases last with
      | failed record same seen => exact .failed record same seen
      | @worked b _ _ record reached seen =>
        rcases b with e | _ | last
        · exact .worked record reached seen
        · cases first? <;> exact .worked record reached seen
        · cases first? with
          | none => exact .worked record reached seen
          | some first =>
            dsimp only
            split <;> exact .worked record reached seen

omit q in
theorem follows_ofStore (location : String) :
    Follows w (fun e => .error (.storage e))
      ((ofStore location w).1, (ofStore location w).2.1)
      ((ofStore location (content w.base)).1, (ofStore location (content w.base)).2.1) := by
  have recovered := follows_recover w
  unfold ofStore
  generalize recover w = reply at recovered ⊢
  generalize recover (content w.base) = ideal at recovered ⊢
  obtain ⟨a, w', _⟩ := reply
  obtain ⟨b, t, _⟩ := ideal
  cases recovered with
  | failed record same seen => exact .failed record same seen
  | worked record reached seen => cases a <;> exact .worked record reached seen

end Queue

theorem Operation.follows_run (q : Queue) (w : Watched σ) (op : Operation) :
    Follows w (fun e => (op.failed e, op.failedHandle q)) (op.run q w).parts
      (op.run q (content w.base)).parts := by
  cases op with
  | enqueue value => exact Queue.follows_enqueue q w value
  | enqueueText text => exact Queue.follows_enqueue q w _
  | enqueueObject v => exact Queue.follows_enqueueObject q w v
  | dequeue => exact Queue.follows_dequeue q w
  | peek => exact (Queue.follows_itemByOffset q w 1).map fun found => (Reply.item found, q)
  | peekByOffset offset =>
    exact (Queue.follows_itemByOffset q w offset).map fun found => (Reply.item found, q)
  | peekById id => exact (Queue.follows_itemById q w id).map fun found => (Reply.item found, q)
  | update item value => exact Queue.follows_update q w item value
  | updateText item text => exact Queue.follows_update q w item _
  | updateObject item v => exact Queue.follows_updateObject q w item v
  | counters => exact .quiet w _ _
  | close => exact Queue.follows_close q w

/-! ## Sessions -/

/-- The reply to a call in which a call of the store fails. -/
def Call.failed (e : StoreError) : Call → Reply
  | on op => op.failed e
  | reopen _ => .done (.error (.storage e))

/-- The handle after a call in which a call of the store fails. -/
def Call.failedHandle (handle : Option Queue) : Call → Option Queue
  | on op => handle.map (op.failedHandle ·)
  | reopen _ => none

namespace Session

/-- The session as it would be on the content of its store. -/
def view (s : Session σ) : Session Table := s.mapStorage content

/-- Makes a call on a table, with the error of a call of the store that fails in it, if one does. -/
def met (s : Session Table) (call : Call) : Option StoreError → Reply × Session Table
  | none => ((s.perform call).1, s.next call)
  | some e => (call.failed e, ⟨call.failedHandle s.handle, s.storage⟩)

theorem follows_perform (s : Session σ) (call : Call) :
    Follows (Watched.start s.storage) (fun e => (call.failed e, call.failedHandle s.handle))
      (((s.watched.perform call).1, (s.watched.next call).handle), (s.watched.next call).storage)
      (((s.view.perform call).1, (s.view.next call).handle), (s.view.next call).storage) := by
  obtain ⟨handle, storage⟩ := s
  cases call with
  | on op =>
    cases handle with
    | none => exact .quiet _ _ _
    | some q =>
      exact (op.follows_run q (Watched.start storage)).map fun parts => (parts.1, some parts.2)
  | reopen location =>
    have opened := Queue.follows_ofStore (Watched.start storage) location
    unfold next perform reopen watched view mapStorage
    dsimp only
    rw [show (Watched.start storage).base = storage from rfl] at opened
    generalize Queue.ofStore location (Watched.start storage) = reply at opened ⊢
    generalize Queue.ofStore location (content storage) = ideal at opened ⊢
    obtain ⟨a, w', _⟩ := reply
    obtain ⟨b, t, _⟩ := ideal
    cases opened with
    | failed record same seen => exact .failed record same seen
    | worked record reached seen => cases a <;> exact .worked record reached seen

/-- A call on a lawful store does what it does on the content, up to the call of the store that fails
in it. -/
theorem perform_view (s : Session σ) (call : Call) :
    ((s.perform call).1, (s.next call).view) = s.view.met call (s.fault call) := by
  have result := congrArg (fun p => (p.1.1, (⟨p.1.2, p.2⟩ : Session Table)))
    (follows_perform s call).result
  rw [perform_watched, next_watched]
  unfold fault
  cases failing : (s.watched.next call).storage.faults.head? with
  | none =>
    rw [failing] at result
    exact result
  | some e =>
    rw [failing] at result
    exact result

/-- A crash within a call leaves the content from before the call, or the one from after it. -/
theorem content_instants (s : Session σ) (call : Call) {i : σ} (h : i ∈ s.instants call) :
    content i = content s.storage ∨ content i = (s.view.next call).storage := by
  rcases List.mem_cons.1 h with rfl | visited
  · exact Or.inl rfl
  · exact (follows_perform s call).content_visited (List.mem_reverse.1 visited)

end Session

end Follows

end DurableQueue
