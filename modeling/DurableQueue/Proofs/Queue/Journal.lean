import DurableQueue.Proofs.Queue.Requests
import DurableQueue.Proofs.Queue.Shut

/-!
# The events as a journal

The events of a queue are enough to know its handle without looking at it: an `Account` is kept by going through
them (`Account.note`), and it has the counters of the handle after every call that leaves one
(`Session.journal_faithful`). This holds on any store whatsoever, as an event is told only after the last call of
the store that can fail, and with the counters that the handle has then.

A step of a run keeps the account (`Session.act_kept`). What is told about the closing of a handle has to agree
with the account in the middle of a step, too; `Honest` says so of a list of events, and is passed from
the steps to the run.
-/

namespace DurableQueue

/-! ## Accounts -/

/-- What is known of a handle. -/
structure Account where
  head : UInt64
  tail : UInt64
  isOpen : Bool
  deriving DecidableEq, Repr

/-- The account of a handle. -/
def Queue.account (q : Queue) : Account := ⟨q.head, q.tail, q.isOpen⟩

namespace Account

/-- The account after one more event. -/
def note (a : Account) : Event → Account
  | .opened _ head tail _ => ⟨head, tail, true⟩
  | .enqueued id _ => { a with tail := id }
  | .dequeued id => { a with head := id }
  | .closed .. => { a with isOpen := false }
  | _ => a

/-- The account after some more events. -/
def noteAll (a : Account) (events : List Event) : Account := events.foldl note a

@[simp] theorem noteAll_nil (a : Account) : a.noteAll [] = a := rfl

@[simp] theorem noteAll_cons (a : Account) (event : Event) (events : List Event) :
    a.noteAll (event :: events) = (a.note event).noteAll events := rfl

@[simp] theorem noteAll_append (a : Account) (events more : List Event) :
    a.noteAll (events ++ more) = (a.noteAll events).noteAll more := List.foldl_append

/-- Does each closing that is told have the counters of the account so far? -/
def Honest : Account → List Event → Prop
  | _, [] => True
  | a, event :: events =>
    (∀ location head tail, event = .closed location head tail → a = ⟨head, tail, true⟩) ∧
      (a.note event).Honest events

theorem honest_append {a : Account} {events more : List Event} :
    a.Honest (events ++ more) ↔ a.Honest events ∧ (a.noteAll events).Honest more := by
  induction events generalizing a with
  | nil => simp [Honest]
  | cons event events ih => simp [Honest, ih, and_assoc]

/-- What no closing is among is honest. -/
theorem honest_of_none {a : Account} {events : List Event}
    (none : ∀ location head tail, .closed location head tail ∉ events) : a.Honest events := by
  induction events generalizing a with
  | nil => trivial
  | cons event events ih =>
    refine ⟨?_, ih fun location head tail mem => none location head tail (List.mem_cons_of_mem event mem)⟩
    rintro location head tail rfl
    exact absurd List.mem_cons_self (none location head tail)

/-- Before each closing that is told, the account has its counters. -/
theorem Honest.before {a : Account} {before later : List Event} {location : String} {head tail : UInt64}
    (h : a.Honest (before ++ .closed location head tail :: later)) : a.noteAll before = ⟨head, tail, true⟩ :=
  (honest_append.1 h).2.1 location head tail rfl

end Account

/-! ## What is told of one call -/

/-- The events of a request about items, by its reply. -/
def Request.told : Request → Reply → List Event
  | add (.ok value), .item (.ok item) => [.enqueued item.id value.length]
  | take, .item (.ok item) => [.dequeued item.id]
  | revise _ (.ok value), .updated (.ok ()) item => [.updated item.id value.length]
  | _, _ => []

theorem Request.told_error (request : Request) (e : QueueError) : request.told (request.error e) = [] := by
  cases request with
  | add payload => cases payload <;> rfl
  | revise item payload => cases payload <;> rfl
  | _ => rfl

theorem Request.told_noQueue (request : Request) : request.told .noQueue = [] := by
  cases request with
  | add payload => cases payload <;> rfl
  | revise item payload => cases payload <;> rfl
  | _ => rfl

section Calls

variable {σ : Type} [OrderedStore σ] {q : Queue} {s : σ} {request : Request} {turn : Turn σ}

theorem Ran.events_eq (h : Ran q s request turn) (other : request ≠ .close) :
    turn.events = request.told turn.reply := by
  cases h with
  | refused | stopped => exact (request.told_error _).symm
  | added | taken | revised | counted => rfl
  | shown stays opened sought =>
    cases request with
    | take => exact absurd rfl stays
    | lookAt | look => rfl
    | _ => cases sought
  | closed closed => exact absurd rfl other

/-- Closing tells the counters of the handle, after the flush that may have failed. -/
theorem Queue.Closed.account_kept {outcome : Outcome σ Unit} (h : Closed q s outcome) :
    q.account.noteAll outcome.events = outcome.queue.account ∧ q.account.Honest outcome.events := by
  cases h with
  | already shut => exact ⟨rfl, trivial⟩
  | failed opened flush | flushed opened flush =>
    simp [Account.note, Account.Honest, Queue.account, opened]

/-- A call on a handle keeps the account. -/
theorem Ran.account_kept (h : Ran q s request turn) :
    q.account.noteAll turn.events = turn.queue.account ∧ q.account.Honest turn.events := by
  cases h with
  | refused | stopped | added | taken | shown | revised | counted =>
    exact ⟨rfl, Account.honest_of_none (by simp)⟩
  | closed closed => exact closed.account_kept

namespace Queue

/-- Dropping tells a closing like any other, and none besides. -/
theorem honest_drop (q : Queue) (s : σ) : q.account.Honest (q.drop s).2.2 := by
  have closing := (closed q s).account_kept.2
  have more {events : List Event} (h : q.account.Honest events) (event : Event)
      (other : ∀ location head tail, .closed location head tail ∉ [event]) :
      q.account.Honest (events ++ [event]) := Account.honest_append.2 ⟨h, Account.honest_of_none other⟩
  have failed (e : QueueError) : q.account.Honest ((q.close s).events ++ [.closeFailed e]) :=
    more closing _ (by simp)
  unfold drop
  dsimp only
  cases (q.close s).result with
  | error e =>
    dsimp only
    split
    · exact failed e
    · exact more (failed e) _ (by simp)
  | ok =>
    dsimp only
    split
    · exact closing
    · exact more closing _ (by simp)

/-- Recovering the counters tells of an entry of id 0 if it works, and of nothing if it does not. -/
theorem events_recover (s : σ) :
    (∀ event ∈ (recover s).2.2, event = .zeroIdStored) ∧
      ∀ e, (recover s).1 = .error e → (recover s).2.2 = [] := by
  unfold recover
  split
  · simp
  · split
    · simp
    · split
      · split <;> simp
      · simp

/-- Opening tells the counters of the handle last, and an opening that fails tells nothing. -/
theorem events_ofStore (location : String) (s : σ) :
    (∀ q, (ofStore location s).1 = .ok q → ∃ warnings : List Event, (∀ event ∈ warnings, event = .zeroIdStored) ∧
        (ofStore location s).2.2 = warnings ++ [.opened location q.head q.tail q.length] ∧ q.isOpen = true) ∧
      ∀ e, (ofStore location s).1 = .error e → (ofStore location s).2.2 = [] := by
  have told := events_recover s
  unfold ofStore
  generalize recover s = reply at told ⊢
  obtain ⟨e | counters, s', events⟩ := reply
  · exact ⟨nofun, fun _ _ => told.2 e rfl⟩
  · refine ⟨?_, nofun⟩
    rintro q ⟨rfl⟩
    exact ⟨events, told.1, rfl, rfl⟩

/-- After an opening that works, any account is that of the handle. -/
theorem account_ofStore {location : String} {s : σ} {q : Queue} (opens : (ofStore location s).1 = .ok q)
    (a : Account) : a.noteAll (ofStore location s).2.2 = q.account ∧ a.Honest (ofStore location s).2.2 := by
  obtain ⟨warnings, only, told, opened⟩ := (events_ofStore location s).1 q opens
  rw [told]
  constructor
  · rw [Account.noteAll_append]
    simp [Account.note, account, opened]
  · refine Account.honest_of_none ?_
    intro location' head tail mem
    rcases List.mem_append.1 mem with mem | mem
    · cases only _ mem
    · simp at mem

end Queue

end Calls

/-! ## Runs with drops -/

/-- What a program can do on one storage. -/
inductive Deed where
  | call (call : Call)
  /-- gives up the handle as it is -/
  | release
  /-- closes the handle, gives it up and erases the storage -/
  | drop

namespace Session

variable {σ : Type} [OrderedStore σ]

/-- Does one thing: the session afterwards and the events. -/
def act (s : Session σ) : Deed → Session σ × List Event
  | .call call => (s.perform call).2
  | .release => (⟨none, s.storage⟩, [])
  | .drop =>
    match s.handle with
    | none => (s, [])
    | some q => (⟨none, (q.drop s.storage).2.1⟩, (q.drop s.storage).2.2)

/-- The session after some deeds, and the events of all of them. -/
def actAll (s : Session σ) : List Deed → Session σ × List Event
  | [] => (s, [])
  | deed :: deeds =>
    let done := s.act deed
    let last := done.1.actAll deeds
    (last.1, done.2 ++ last.2)

/-- The account is that of the handle, if there is one. -/
def Accounted (s : Session σ) (a : Account) : Prop := ∀ q, s.handle = some q → a = q.account

/-- Whatever the account was, an opening brings it to that of the new handle. -/
theorem reopen_kept (s : Session σ) (location : String) (a : Account) :
    (s.reopen location).2.1.Accounted (a.noteAll (s.reopen location).2.2) ∧ a.Honest (s.reopen location).2.2 := by
  have told (q : Queue) (opens : (Queue.ofStore location s.storage).1 = .ok q) := Queue.account_ofStore opens a
  have silent := (Queue.events_ofStore location s.storage).2
  unfold reopen
  generalize Queue.ofStore location s.storage = reply at told silent ⊢
  obtain ⟨e | q, storage, events⟩ := reply
  · obtain rfl : events = [] := silent e rfl
    exact ⟨nofun, trivial⟩
  · obtain ⟨kept, honest⟩ := told q rfl
    refine ⟨?_, honest⟩
    rintro q' ⟨rfl⟩
    exact kept

/-- One deed keeps the account. -/
theorem act_kept {s : Session σ} {a : Account} (h : s.Accounted a) (deed : Deed) :
    (s.act deed).1.Accounted (a.noteAll (s.act deed).2) ∧ a.Honest (s.act deed).2 := by
  obtain ⟨handle, storage⟩ := s
  match deed, handle with
  | .call (.on op), none => exact ⟨nofun, trivial⟩
  | .call (.on op), some q =>
    obtain rfl := h q rfl
    obtain ⟨kept, honest⟩ := (op.ran_any q storage).account_kept
    refine ⟨?_, honest⟩
    rintro q' ⟨rfl⟩
    exact kept
  | .call (.reopen location), handle => exact reopen_kept ⟨handle, storage⟩ location a
  | .release, handle => exact ⟨nofun, trivial⟩
  | .drop, none => exact ⟨nofun, trivial⟩
  | .drop, some q =>
    obtain rfl := h q rfl
    exact ⟨nofun, q.honest_drop storage⟩

/-- A whole run keeps the account. -/
theorem actAll_kept {s : Session σ} {a : Account} (h : s.Accounted a) (deeds : List Deed) :
    (s.actAll deeds).1.Accounted (a.noteAll (s.actAll deeds).2) ∧ a.Honest (s.actAll deeds).2 := by
  induction deeds generalizing s a with
  | nil => exact ⟨h, trivial⟩
  | cons deed deeds ih =>
    obtain ⟨kept, honest⟩ := act_kept h deed
    obtain ⟨kept', honest'⟩ := ih kept
    refine ⟨?_, Account.honest_append.2 ⟨honest, honest'⟩⟩
    rw [actAll, Account.noteAll_append]
    exact kept'

/-! ## The journal -/

/-- What is told of one call more. -/
structure Tells (s : Session σ) : Prop where
  /-- a call on the handle tells what it changes, once and only if it works, and closing apart nothing else -/
  asked : ∀ op : Operation, op ≠ .close → (s.perform (.on op)).2.2 = op.request.told (s.perform (.on op)).1
  /-- closing what is closed tells nothing -/
  again : ∀ q, s.handle = some q → q.isOpen = false → (s.perform (.on .close)).2.2 = []
  /-- nor does an opening that fails -/
  unopened : ∀ location e, (s.perform (.reopen location)).1 = .done (.error e) →
    (s.perform (.reopen location)).2.2 = []

theorem tells (s : Session σ) : s.Tells where
  asked := by
    intro op other
    obtain ⟨_ | q, storage⟩ := s
    · exact (op.request.told_noQueue).symm
    · exact (op.ran_any q storage).events_eq fun asked => other (Operation.eq_close asked)
  again := by
    rintro q handle shut
    obtain ⟨_, storage⟩ := s
    obtain rfl : _ = some q := handle
    exact congrArg Outcome.events (Queue.close_shut shut storage)
  unopened := by
    intro location e failed
    have silent := (Queue.events_ofStore location s.storage).2
    change (s.reopen location).1 = _ at failed
    show (s.reopen location).2.2 = []
    unfold reopen at failed ⊢
    generalize Queue.ofStore location s.storage = reply at failed silent ⊢
    obtain ⟨e' | q, storage, events⟩ := reply
    · exact silent e' rfl
    · cases failed

/-- On any store, after anything that a program does on it, the journal so far gives the counters of the handle,
if there is one, and whether it is open; the next call tells what it should; and each closing was told with the
counters that the journal gave until then. -/
theorem journal_faithful (s : σ) (deeds : List Deed) (a : Account) :
    let now := (⟨none, s⟩ : Session σ).actAll deeds
    (∀ q, now.1.handle = some q → a.noteAll now.2 = ⟨q.head, q.tail, q.isOpen⟩) ∧ now.1.Tells ∧
      ∀ before location head tail later, now.2 = before ++ .closed location head tail :: later →
        a.noteAll before = ⟨head, tail, true⟩ := by
  intro now
  obtain ⟨kept, honest⟩ := actAll_kept (s := ⟨none, s⟩) (a := a) nofun deeds
  refine ⟨kept, now.1.tells, ?_⟩
  intro before location head tail later split
  change a.Honest now.2 at honest
  rw [split] at honest
  exact honest.before

example : ((⟨none, .empty⟩ : Session Table).actAll
    [.call (.reopen "q"), .call (.on (.enqueue [1, 2])), .call (.on .peek), .drop]).2 =
      [.opened "q" 0 0 0, .enqueued 1 2, .closed "q" 0 1, .dropped "q"] := by
  decide

end Session

end DurableQueue
