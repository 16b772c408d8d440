import DurableQueue.Proofs.Queue.Invariant
import DurableQueue.Proofs.Store.Steady

/-!
# Failures that come too late

A `Synced` store reports a failed flush as the failure of the change before it, which has been made. The
queue takes the report for "nothing has happened" and leaves its counters alone: an item that was put in
is stored above `tail`, and the front item is gone although `head` still announces it
(`Operation.moved_run`). All other calls keep the counters and the keys in step, whatever fails.

So the failures of enqueueing and dequeueing in a run are harmless exactly if no flush failed in one
of these calls (`Session.allHarmless_iff_intact`).
-/

namespace DurableQueue

variable {σ : Type} [OrderedStore σ] [SteadyStore σ]

/-! ## Watched calls -/

namespace Watched

variable {w w' : Watched (Synced σ)} {key value : Bytes}

theorem get_synced {r : Except StoreError (Option Bytes)}
    (h : OrderedStore.get key w = (r, w')) :
    r = .ok (w.base.content.get? key) ∧ w'.base.content = w.base.content ∧ w'.faults = w.faults := by
  have reads := Synced.reads.get key w.base
  have got : (OrderedStore.get key w.base).1 = .ok (w.base.content.get? key) :=
    (congrArg Prod.fst reads).symm
  have kept : (OrderedStore.get key w.base).2.content = w.base.content :=
    (congrArg Prod.snd reads).symm
  obtain ⟨rfl, rfl⟩ := Prod.mk.inj h
  refine ⟨got, kept, ?_⟩
  show addFault w.faults (OrderedStore.get key w.base).1 = w.faults
  rw [got]
  rfl

theorem put_synced {r : Except StoreError Unit} (h : OrderedStore.put key value w = (r, w')) :
    w'.base.content = w.base.content.insert key value ∧ w'.faults = addFault w.faults r := by
  refine ⟨?_, faults_note h⟩
  rw [← Synced.content_put]
  obtain ⟨rfl, rfl⟩ := Prod.mk.inj h
  rfl

theorem delete_synced {r : Except StoreError Unit} (h : OrderedStore.delete key w = (r, w')) :
    w'.base.content = w.base.content.erase key ∧ w'.faults = addFault w.faults r := by
  refine ⟨?_, faults_note h⟩
  rw [← Synced.content_delete]
  obtain ⟨rfl, rfl⟩ := Prod.mk.inj h
  rfl

end Watched

/-! ## Moving items -/

/-- Enqueueing and dequeueing. -/
def Operation.moves : Operation → Bool
  | enqueue _ | enqueueText _ | enqueueObject _ | dequeue => true
  | _ => false

/-- A call that moves items, made when the keys are in step with the counters: it is refused and changes
nothing, or it is made and keeps them in step, or a failure comes too late and leaves them out of
step. -/
inductive Moved (q : Queue) (t : Table) : Turn (Watched (Synced σ)) → Prop where
  | refused {e w events} (record : w.faults = []) (same : w.base.content = t) :
      Moved q t ⟨.item (.error e), q, w, events⟩
  | made {item q' w events} (record : w.faults = [])
      (spans : Spans w.base.content q'.head q'.tail) : Moved q t ⟨.item (.ok item), q', w, events⟩
  | late {e w events} (record : w.faults = [e]) (harmed : ¬ Spans w.base.content q.head q.tail) :
      Moved q t ⟨.item (.error (.storage e)), q, w, events⟩

namespace Queue

variable {q : Queue} {s : Synced σ}

theorem moved_enqueue (spans : Spans s.content q.head q.tail) (value : Bytes) :
    Moved q s.content ((q.enqueue value (Watched.start s)).turn .item) := by
  have cases := enqueued q value (Watched.start s)
  generalize q.enqueue value (Watched.start s) = outcome at cases ⊢
  cases cases with
  | exhausted full => exact .refused rfl rfl
  | closed room shut => exact .refused rfl rfl
  | failed room opened put =>
    obtain ⟨content, record⟩ := Watched.put_synced put
    refine .late record ?_
    intro still
    -- the new id is stored, and it is above `tail`
    have stored := still.isSome_iff (q.tail + 1)
    rw [content, Table.get?_insert, if_pos rfl, UInt64.le_iff_toNat_le, toNat_add_one room] at stored
    exact Nat.not_succ_le_self _ (stored.1 rfl).2
  | added room opened put =>
    obtain ⟨content, record⟩ := Watched.put_synced put
    obtain ⟨items, stores⟩ := spans.exists_stores
    refine .made record ?_
    rw [content]
    exact (stores.added room value).spans

theorem moved_enqueueObject (spans : Spans s.content q.head q.tail) (v : Payload.Value) :
    Moved q s.content ((q.enqueueObject v (Watched.start s)).turn .item) := by
  unfold enqueueObject
  split
  · exact .refused rfl rfl
  · exact moved_enqueue spans _

theorem moved_dequeue (spans : Spans s.content q.head q.tail) :
    Moved q s.content ((q.dequeue (Watched.start s)).turn .item) := by
  have cases := dequeued spans.le (Watched.start s)
  generalize q.dequeue (Watched.start s) = outcome at cases ⊢
  cases cases with
  | refused front =>
    cases front with
    | closed shut => exact .refused rfl rfl
    | empty opened nothing => exact .refused rfl rfl
    | failed opened something get => cases (Watched.get_synced get).1
    | missing opened something get =>
      obtain ⟨-, content, record⟩ := Watched.get_synced get
      exact .refused record content
  | failed front delete =>
    cases front with
    | found opened something get =>
      obtain ⟨-, same, before⟩ := Watched.get_synced get
      obtain ⟨content, record⟩ := Watched.delete_synced delete
      rw [before] at record
      refine .late record ?_
      intro still
      -- the front is not stored any more, and it is still above `head`
      have stored := still.isSome_front something
      rw [content, Table.get?_erase, if_pos rfl] at stored
      cases stored
  | taken front delete =>
    cases front with
    | found opened something get =>
      obtain ⟨-, same, before⟩ := Watched.get_synced get
      obtain ⟨content, record⟩ := Watched.delete_synced delete
      obtain ⟨items, stores⟩ := spans.exists_stores
      obtain ⟨value, rest, rfl, -⟩ := stores.exists_front something
      rw [before] at record
      refine .made record ?_
      rw [content, same]
      exact stores.taken.spans

end Queue

theorem Operation.moved_run {q : Queue} {s : Synced σ} (spans : Spans s.content q.head q.tail)
    {op : Operation} (moves : op.moves = true) :
    Moved q s.content (op.run q (Watched.start s)) := by
  cases op with
  | enqueue value => exact Queue.moved_enqueue spans value
  | enqueueText text => exact Queue.moved_enqueue spans _
  | enqueueObject v => exact Queue.moved_enqueueObject spans v
  | dequeue => exact Queue.moved_dequeue spans
  | _ => cases moves

/-! ## Everything else -/

/-- The keys are in step with the counters after the turn. -/
def Turn.InStep (turn : Turn (Synced σ)) : Prop :=
  Spans turn.storage.content turn.queue.head turn.queue.tail

namespace Queue

variable (q : Queue) (s : Synced σ)

theorem itemByOffset_content (offset : UInt64) :
    (q.itemByOffset offset s).1 = (q.itemByOffset offset s.content).1 ∧
      (q.itemByOffset offset s).2.content = s.content := by
  have natural := itemByOffset_map Synced.reads q s offset
  have kept := itemByOffset_table q offset s.content
  rw [natural] at kept
  exact ⟨(congrArg Prod.fst natural).symm, kept⟩

theorem itemById_content (id : UInt64) : (q.itemById id s).2.content = s.content := by
  have kept := itemById_table q id s.content
  rw [itemById_map Synced.reads q s id] at kept
  exact kept

variable {q s}

theorem spans_update (spans : Spans s.content q.head q.tail) (item : Item) (value : Bytes) :
    (Operation.changed (q.update item value s)).InStep := by
  have cases := updated q item value s
  generalize q.update item value s = outcome at cases ⊢
  have replaced (above : q.head < item.id) (upto : item.id ≤ q.tail) :
      Spans (OrderedStore.put (Key.encode item.id) value s).2.content q.head q.tail := by
    obtain ⟨items, stores⟩ := spans.exists_stores
    rw [Synced.content_put]
    exact (stores.replaced above upto value).spans
  cases cases with
  | closed shut => exact spans
  | empty opened nothing => exact spans
  | outOfBounds opened something out => exact spans
  | failed opened above upto put =>
    have made := replaced above upto
    rw [put] at made
    exact made
  | written opened above upto put =>
    have made := replaced above upto
    rw [put] at made
    exact made

theorem spans_close (spans : Spans s.content q.head q.tail) :
    ((q.close s).turn .done).InStep := by
  have cases := closed q s
  have kept := Synced.content_flush s
  generalize q.close s = outcome at cases ⊢
  cases cases with
  | already shut => exact spans
  | failed opened flush =>
    rw [flush] at kept
    rw [← kept] at spans
    exact spans
  | flushed opened flush =>
    rw [flush] at kept
    rw [← kept] at spans
    exact spans

end Queue

/-- A call that moves no items keeps the keys in step with the counters, whatever fails. -/
theorem Operation.spans_run {q : Queue} {s : Synced σ} (spans : Spans s.content q.head q.tail)
    {op : Operation} (stays : op.moves = false) : (op.run q s).InStep := by
  cases op with
  | peek =>
    rw [← (Queue.itemByOffset_content q s 1).2] at spans
    exact spans
  | peekByOffset offset =>
    rw [← (Queue.itemByOffset_content q s offset).2] at spans
    exact spans
  | peekById id =>
    rw [← Queue.itemById_content q s id] at spans
    exact spans
  | update item value => exact Queue.spans_update spans item value
  | updateText item text => exact Queue.spans_update spans item _
  | updateObject item v =>
    unfold run Queue.updateObject
    dsimp only
    cases payloadOf v with
    | error e => exact spans
    | ok value => exact Queue.spans_update spans item value
  | counters => exact spans
  | close => exact Queue.spans_close spans
  | _ => cases stays

/-! ## Runs -/

def Call.moves : Call → Bool
  | on op => op.moves
  | reopen _ => false

namespace Session

/-- No flush fails within a call of the run that moves items. -/
def Intact (s : Session (Synced σ)) : List Call → Prop
  | [] => True
  | call :: calls => (call.moves = true → s.fault call = none) ∧ (s.next call).Intact calls

/-- If the call fails, then it has taken no effect: the keys are those between the counters, and what was
at the front before is what the next taking answers, once no call of the store fails. -/
def Harmless (s : Session (Synced σ)) (call : Call) : Prop :=
  ∀ q e, s.handle = some q → (s.perform call).1 = .item (.error e) →
    (s.next call).handle = some q ∧ Spans (s.next call).storage.content q.head q.tail ∧
      ∀ front, (s.perform (.on .peek)).1 = .item (.ok front) →
        (s.next call).fault (.on .dequeue) = none →
          ((s.next call).perform (.on .dequeue)).1 = .item (.ok front)

/-- The calls of the run that move items take no effect if they fail. -/
def AllHarmless (s : Session (Synced σ)) : List Call → Prop
  | [] => True
  | call :: calls => (call.moves = true → s.Harmless call) ∧ (s.next call).AllHarmless calls

/-- The session as it would be on what its store holds. -/
def held (s : Session (Synced σ)) : Session Table := s.mapStorage Synced.content

/-- Taking out what is at the front, if no call of the store fails. -/
theorem reply_dequeue {q : Queue} {s : Synced σ} {front : Item}
    (look : (q.itemByOffset 1 s.content).1 = .ok front)
    (works : (⟨some q, s⟩ : Session (Synced σ)).fault (.on .dequeue) = none) :
    ((⟨some q, s⟩ : Session (Synced σ)).perform (.on .dequeue)).1 = .item (.ok front) := by
  have seen : (q.itemByOffset 1 (Watched.start s)).1 = .ok front := by
    have natural := Queue.itemByOffset_map Watched.storeHom_base.toReadHom q (Watched.start s) 1
    rw [← look, ← (Queue.itemByOffset_content q s 1).1]
    exact (congrArg Prod.fst natural).symm
  rw [fault_on] at works
  rw [reply_on]
  unfold Operation.run Queue.dequeue at works ⊢
  generalize q.itemByOffset 1 (Watched.start s) = reply at seen works ⊢
  obtain ⟨r, w⟩ := reply
  obtain rfl : r = .ok front := seen
  dsimp only at works ⊢
  rcases delete : OrderedStore.delete front.key w with ⟨e | _, w'⟩
  · rw [delete] at works
    change w'.faults.head? = none at works
    rw [(Watched.delete_synced delete).2] at works
    cases works
  · rfl

theorem harmless_iff {q : Queue} {s : Synced σ} (spans : Spans s.content q.head q.tail)
    {op : Operation} (moves : op.moves = true) :
    (⟨some q, s⟩ : Session (Synced σ)).Harmless (.on op) ↔
      (⟨some q, s⟩ : Session (Synced σ)).fault (.on op) = none := by
  have moved := op.moved_run spans moves
  unfold Harmless
  rw [reply_on q s op, next_on q s op, fault_on q s op]
  generalize op.run q (Watched.start s) = turn at moved ⊢
  cases moved with
  | @refused e w events record same =>
    apply iff_of_true
    · intro q' e' handle failed
      obtain rfl := Option.some.inj handle
      refine ⟨rfl, same ▸ spans, ?_⟩
      intro front peeked works
      apply reply_dequeue _ works
      rw [same, ← (Queue.itemByOffset_content q s 1).1]
      exact Reply.item.inj peeked
    · rw [record]
      rfl
  | made record spans' =>
    apply iff_of_true
    · intro q' e' handle failed
      cases failed
    · rw [record]
      rfl
  | late record harmed =>
    apply iff_of_false
    · intro harmless
      exact harmed (harmless q _ rfl rfl).2.1
    · rw [record]
      nofun

/-! ### Soundness of a run -/

theorem sound_on {q : Queue} {s : Synced σ} (spans : Spans s.content q.head q.tail) {op : Operation}
    (intact : op.moves = true → (⟨some q, s⟩ : Session (Synced σ)).fault (.on op) = none) :
    ((⟨some q, s⟩ : Session (Synced σ)).next (.on op)).held.Sound := by
  by_cases moves : op.moves = true
  · have moved := op.moved_run spans moves
    have works := intact moves
    rw [fault_on] at works
    rw [next_on]
    apply sound_handle_iff.2
    change Spans (op.run q (Watched.start s)).storage.base.content _ _
    generalize op.run q (Watched.start s) = turn at moved works ⊢
    cases moved with
    | refused record same =>
      rw [same]
      exact spans
    | made record spans' => exact spans'
    | late record harmed =>
      rw [record] at works
      cases works
  · exact sound_handle_iff.2 (op.spans_run spans (Bool.not_eq_true _ ▸ moves))

theorem sound_reopen {s : Session (Synced σ)} (sound : s.held.Sound) (location : String) :
    (s.next (.reopen location)).held.Sound := by
  obtain ⟨head, tail, spans, -⟩ := sound
  obtain ⟨items, stores⟩ := spans.exists_stores
  obtain ⟨s', next, same⟩ := next_reopen Synced.reads spans location
  rw [next]
  apply sound_handle_iff.2
  show Spans s'.content _ _
  rw [same]
  exact stores.found.spans

/-- Unless a flush fails in a call that moves items, the keys stay in step with the counters. -/
theorem sound_next {s : Session (Synced σ)} (sound : s.held.Sound) {call : Call}
    (intact : call.moves = true → s.fault call = none) : (s.next call).held.Sound := by
  obtain ⟨handle, storage⟩ := s
  cases call with
  | reopen location => exact sound_reopen sound location
  | on op =>
    cases handle with
    | none => exact sound
    | some q => exact sound_on (sound_handle_iff.1 sound) intact

theorem harmless_iff_fault {s : Session (Synced σ)} (sound : s.held.Sound) {call : Call}
    (moves : call.moves = true) : s.Harmless call ↔ s.fault call = none := by
  obtain ⟨handle, storage⟩ := s
  cases call with
  | reopen location => cases moves
  | on op =>
    cases handle with
    | none => exact iff_of_true nofun rfl
    | some q => exact harmless_iff (sound_handle_iff.1 sound) moves

/-- In a run from a store whose keys are those between the counters, the failures of enqueueing and
dequeueing take no effect exactly if no flush fails within one of these calls. -/
theorem allHarmless_iff_intact {q : Queue} {s : Synced σ} (spans : Spans s.content q.head q.tail)
    (calls : List Call) :
    (⟨some q, s⟩ : Session (Synced σ)).AllHarmless calls ↔
      (⟨some q, s⟩ : Session (Synced σ)).Intact calls := by
  have sound : (⟨some q, s⟩ : Session (Synced σ)).held.Sound := sound_handle_iff.2 spans
  generalize (⟨some q, s⟩ : Session (Synced σ)) = session at sound
  induction calls generalizing session with
  | nil => exact Iff.rfl
  | cons call calls ih =>
    have first : (call.moves = true → session.Harmless call) ↔
        (call.moves = true → session.fault call = none) :=
      forall_congr' (harmless_iff_fault sound)
    unfold AllHarmless Intact
    rw [first]
    constructor
    · rintro ⟨intact, rest⟩
      exact ⟨intact, (ih _ (sound_next sound intact)).1 rest⟩
    · rintro ⟨intact, rest⟩
      exact ⟨intact, (ih _ (sound_next sound intact)).2 rest⟩

/-- The flush after the second change fails, so the taking of item 1 is not harmless. -/
theorem not_allHarmless_flaky :
    ¬ AllHarmless ⟨some ⟨"q", true, 0, 2⟩, (⟨true, ⟨(Table.empty.insert (Key.encode 1) [1]).insert
        (Key.encode 2) [2], [none, some (.io "full")]⟩⟩ : Synced (Flaky (· == .flush)))⟩
      [.on (.enqueue [3]), .on .dequeue] := by
  refine mt (allHarmless_iff_intact ?_ _).1 ?_
  · exact (((Stores.empty 0).added (by decide) [1]).added (by decide) [2]).spans
  · rintro ⟨-, intact, -⟩
    have failed : some (StoreError.io "full") = none := intact rfl
    cases failed

/-- A taking whose flush fails: item 1 is gone, and the handle looks for it in vain from then on. -/
theorem dequeue_lost :
    let s : Session (Synced (Flaky (· == .flush))) := ⟨some ⟨"q", true, 0, 2⟩, ⟨true,
      ⟨(Table.empty.insert (Key.encode 1) [1]).insert (Key.encode 2) [2], [some (.io "full")]⟩⟩⟩
    Spans s.storage.content 0 2 ∧ ¬ s.Harmless (.on .dequeue) ∧
      s.replies [.on .dequeue, .on .dequeue, .on .peek] =
        [.item (.error (.storage (.io "full"))),
          .item (.error (.storage (.keyNotFound "0000000000000001"))),
          .item (.error (.storage (.keyNotFound "0000000000000001")))] := by
  refine ⟨(((Stores.empty 0).added (by decide) [1]).added (by decide) [2]).spans, ?_, rfl⟩
  intro harmless
  have stored := (harmless _ _ rfl rfl).2.1.isSome_front (by decide)
  cases stored

end Session

end DurableQueue
