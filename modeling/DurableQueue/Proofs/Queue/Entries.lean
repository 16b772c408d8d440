import DurableQueue.Proofs.Queue.Atomicity
import DurableQueue.Proofs.Queue.Recovery

/-!
# What calls do to the entries

A store may hold anything before it is opened: gaps between the ids, an entry of id 0, keys that are none
of the queue's. All that a handle has to know about the entries is that none has a key above that of `tail`
(`Bounds`). Opening establishes it, however little it looks at, and every operation keeps it. Hence each
success changes one entry only, and the one that it is due to change (`Change`): a payload put in goes
under a key that was not there, the entry taken out is the one answered, and a revision stays between the
counters. Nothing else is changed by any call (`Session.change_of_call`).
-/

namespace DurableQueue

/-! ## Changes of the entries -/

/-- Does the reply to a request tell of a change of the entries? -/
def Request.changes : Request → Reply → Bool
  | add _, .item (.ok _) => true
  | take, .item (.ok _) => true
  | revise _ _, .updated (.ok ()) _ => true
  | _, _ => false

/-- Does the reply to a call tell of a change of the entries? -/
def Call.changes (reply : Reply) : Call → Bool
  | on op => op.request.changes reply
  | reopen _ => false

theorem Request.changes_error (request : Request) (e : QueueError) :
    request.changes (request.error e) = false := by
  cases request <;> rfl

theorem Request.changes_noQueue (request : Request) : request.changes .noQueue = false := by
  cases request <;> rfl

theorem Request.changes_shown {q : Queue} {request : Request} {n : Nat}
    (sought : request.sought? q = some n) (stays : request ≠ .take) (reply : Reply) :
    request.changes reply = false := by
  cases request with
  | take => exact absurd rfl stays
  | lookAt offset => rfl
  | look id => rfl
  | _ => cases sought

/-- What a call does to the entries, by its reply: the entries before, and those after. -/
inductive Change (handle : Option Queue) (t : Table) : Call → Reply → Table → Prop where
  | added {q op value} (present : handle = some q) (asked : op.request = .add (.ok value))
      (room : q.tail ≠ greatestId) (fresh : t.get? (Key.encode (q.tail + 1)) = none) :
      Change handle t (.on op) (.item (.ok (Item.ofId (q.tail + 1) value)))
        (t.insert (Key.encode (q.tail + 1)) value)
  | taken {q op value} (present : handle = some q) (asked : op.request = .take)
      (something : q.head < q.tail) (stored : t.get? (Key.encode (q.head + 1)) = some value) :
      Change handle t (.on op) (.item (.ok (Item.ofId (q.head + 1) value)))
        (t.erase (Key.encode (q.head + 1)))
  | revised {q op item value} (present : handle = some q)
      (asked : op.request = .revise item (.ok value)) (above : q.head < item.id)
      (upto : item.id ≤ q.tail) :
      Change handle t (.on op) (.updated (.ok ()) (Item.ofId item.id value))
        (t.insert (Key.encode item.id) value)
  | kept {call reply} (quiet : call.changes reply = false) : Change handle t call reply t

/-- Keys that the queue never gives to an item: those of another length, and that of id 0. -/
def ForeignKey (key : Bytes) : Prop := key.length ≠ 8 ∨ key = Key.encode 0

theorem ForeignKey.ne_encode {key : Bytes} (foreign : ForeignKey key) {id : UInt64} (pos : id ≠ 0) :
    key ≠ Key.encode id := by
  rintro rfl
  rcases foreign with long | zero
  · exact long (Key.length_encode id)
  · exact pos (Key.encode_injective zero)

/-- Entries under foreign keys are never changed. -/
theorem Change.get?_of_foreign {handle : Option Queue} {t t' : Table} {call : Call} {reply : Reply}
    (h : Change handle t call reply t') {key : Bytes} (foreign : ForeignKey key) :
    t'.get? key = t.get? key := by
  cases h with
  | added present asked room fresh =>
    rw [Table.get?_insert, if_neg (foreign.ne_encode (add_one_ne_zero room))]
  | taken present asked something stored =>
    have room := Queue.ne_greatestId_of_lt something
    rw [Table.get?_erase, if_neg (foreign.ne_encode (add_one_ne_zero room))]
  | revised present asked above upto =>
    rw [Table.get?_insert, if_neg (foreign.ne_encode (ne_zero_of_lt above))]
  | kept quiet => rfl

/-! ## The invariant -/

/-- The counters are in order and no key in the table is above that of `tail`. -/
structure Bounds (q : Queue) (t : Table) : Prop where
  ordered : q.head ≤ q.tail
  le_tail : ∀ key, (t.get? key).isSome → key ≤ Key.encode q.tail

namespace Bounds

variable {q : Queue} {t : Table}

/-- The key of the next id is not there. -/
theorem fresh (h : Bounds q t) (room : q.tail ≠ greatestId) :
    t.get? (Key.encode (q.tail + 1)) = none := by
  rw [← Option.not_isSome_iff_eq_none]
  intro stored
  have le := Key.encode_le_iff.1 (h.le_tail _ stored)
  rw [UInt64.le_iff_toNat_le, toNat_add_one room] at le
  exact Nat.not_succ_le_self _ le

theorem added (h : Bounds q t) (room : q.tail ≠ greatestId) (value : Bytes) :
    Bounds { q with tail := q.tail + 1 } (t.insert (Key.encode (q.tail + 1)) value) := by
  have above : q.tail ≤ q.tail + 1 := by
    rw [UInt64.le_iff_toNat_le, toNat_add_one room]
    exact Nat.le_succ _
  refine ⟨UInt64.le_trans h.ordered above, ?_⟩
  intro key stored
  rw [Table.get?_insert] at stored
  by_cases same : key = Key.encode (q.tail + 1)
  · rw [same]
    exact Std.le_refl _
  · rw [if_neg same] at stored
    exact Std.le_trans (h.le_tail key stored) (Key.encode_le_iff.2 above)

theorem taken (h : Bounds q t) (something : q.head < q.tail) :
    Bounds { q with head := q.head + 1 } (t.erase (Key.encode (q.head + 1))) := by
  constructor
  · rw [UInt64.lt_iff_toNat_lt] at something
    rw [UInt64.le_iff_toNat_le, Queue.toNat_succ_of_lt (UInt64.lt_iff_toNat_lt.2 something)]
    exact something
  · intro key stored
    rw [Table.get?_erase] at stored
    split at stored
    · cases stored
    · exact h.le_tail key stored

theorem revised (h : Bounds q t) {id : UInt64} (upto : id ≤ q.tail) (value : Bytes) :
    Bounds q (t.insert (Key.encode id) value) := by
  refine ⟨h.ordered, ?_⟩
  intro key stored
  rw [Table.get?_insert] at stored
  by_cases same : key = Key.encode id
  · rw [same]
    exact Key.encode_le_iff.2 upto
  · rw [if_neg same] at stored
    exact h.le_tail key stored

end Bounds

section Lawful

variable {σ : Type} [OrderedStore σ] [LawfulStore σ]

open LawfulStore (content)

/-! ## One request -/

/-- An operation within bounds changes what its reply tells, and keeps the bounds. -/
theorem Operation.change {q : Queue} {s : σ} (bounds : Bounds q (content s)) (op : Operation) :
    Change (some q) (content s) (.on op) (op.run q s).reply (content (op.run q s).storage) ∧
      Bounds (op.run q s).queue (content (op.run q s).storage) := by
  have ran := op.ran_any q s
  generalize asked : op.request = request at ran
  generalize op.run q s = turn at ran
  have quiet {reply} (silent : request.changes reply = false) : Call.changes reply (.on op) = false := by
    rw [← silent, ← asked]
    rfl
  cases ran with
  | refused about cause => exact ⟨.kept (quiet (request.changes_error _)), bounds⟩
  | stopped about opened cause =>
    have same := cause.content_eq
    dsimp only
    rw [same]
    exact ⟨.kept (quiet (request.changes_error _)), bounds⟩
  | added room opened put =>
    have written := ((LawfulStore.put _ _ s).on_ok put).2
    dsimp only
    rw [written]
    exact ⟨.added rfl asked room (bounds.fresh room), bounds.added room _⟩
  | taken something opened get delete =>
    obtain ⟨found, same⟩ := (LawfulStore.get _ s).on_ok get
    have erased := ((LawfulStore.delete _ _).on_ok delete).2
    rw [same] at erased
    dsimp only
    rw [erased]
    exact ⟨.taken rfl asked something found.symm, bounds.taken something⟩
  | shown stays opened sought above upto get =>
    have same := ((LawfulStore.get _ s).on_ok get).2
    dsimp only
    rw [same]
    exact ⟨.kept (quiet (Request.changes_shown sought stays _)), bounds⟩
  | revised opened above upto put =>
    have written := ((LawfulStore.put _ _ s).on_ok put).2
    dsimp only
    rw [written]
    exact ⟨.revised rfl asked above upto, bounds.revised upto _⟩
  | counted => exact ⟨.kept (quiet rfl), bounds⟩
  | closed closed =>
    cases closed with
    | already shut => exact ⟨.kept (quiet rfl), bounds⟩
    | failed opened flush =>
      have same := (LawfulStore.flush s).on_error flush
      dsimp only [Outcome.turn]
      rw [same]
      exact ⟨.kept (quiet rfl), bounds.ordered, bounds.le_tail⟩
    | flushed opened flush =>
      have same := ((LawfulStore.flush s).on_ok flush).2
      dsimp only [Outcome.turn]
      rw [same]
      exact ⟨.kept (quiet rfl), bounds.ordered, bounds.le_tail⟩

/-! ## Sessions -/

namespace Session

/-- The handle, if there is one, bounds the entries. -/
def Bounded (s : Session σ) : Prop := ∀ q, s.handle = some q → Bounds q (content s.storage)

/-- Opening a table leaves it as it is, and a handle that comes of it bounds the keys. -/
theorem reopen_table (s : Session Table) (location : String) :
    (s.next (.reopen location)).storage = s.storage ∧
      ∀ q, (s.next (.reopen location)).handle = some q → Bounds q s.storage := by
  obtain ⟨same, found⟩ := Queue.opened s.storage location
  unfold next perform reopen
  dsimp only
  generalize Queue.ofStore location s.storage = reply at same found ⊢
  obtain ⟨r, t, events⟩ := reply
  cases r with
  | error e => exact ⟨same, nofun⟩
  | ok opened =>
    refine ⟨same, ?_⟩
    intro q present
    obtain rfl := Option.some.inj present
    exact ⟨(found opened rfl).ordered, fun key => (found opened rfl).le_tail⟩

/-- The same on a store in which calls may fail. -/
theorem reopen_bounded (s : Session σ) (location : String) :
    content (s.next (.reopen location)).storage = content s.storage ∧
      (s.next (.reopen location)).Bounded := by
  have seen := congrArg Prod.snd (perform_view s (.reopen location))
  obtain ⟨same, bounds⟩ := reopen_table s.view location
  cases fault : s.fault (.reopen location) with
  | some e =>
    rw [fault] at seen
    have absent : (s.next (.reopen location)).handle = none := congrArg handle seen
    refine ⟨congrArg storage seen, ?_⟩
    intro q present
    cases present.symm.trans absent
  | none =>
    rw [fault] at seen
    have kept : content (s.next (.reopen location)).storage = content s.storage :=
      (congrArg storage seen).trans same
    refine ⟨kept, ?_⟩
    intro q present
    rw [kept]
    exact bounds q ((congrArg handle seen).symm.trans present)

/-- A call in a session whose handle bounds the entries changes what its reply tells, and leads to such a
session again. -/
theorem change_of_call {s : Session σ} (bounded : s.Bounded) (call : Call) :
    Change s.handle (content s.storage) call (s.perform call).1 (content (s.next call).storage) ∧
      (s.next call).Bounded := by
  obtain ⟨handle, storage⟩ := s
  cases call with
  | reopen location =>
    obtain ⟨same, bounded⟩ := reopen_bounded ⟨handle, storage⟩ location
    rw [same]
    exact ⟨.kept rfl, bounded⟩
  | on op =>
    cases handle with
    | none => exact ⟨.kept (Request.changes_noQueue op.request), nofun⟩
    | some q =>
      obtain ⟨change, bounds⟩ := op.change (bounded q rfl)
      refine ⟨change, ?_⟩
      intro q' present
      obtain rfl := Option.some.inj present
      exact bounds

theorem bounded_after {s : Session σ} (bounded : s.Bounded) (calls : List Call) :
    (s.after calls).Bounded := by
  induction calls generalizing s with
  | nil => exact bounded
  | cons call calls ih => exact ih (change_of_call bounded call).2

/-- Whatever is in the store before the first opening, whatever has been called since and whichever calls
of the store fail: each call changes the entries in the one way that its reply tells, and never those
under foreign keys. -/
theorem entries_spared (s : σ) (calls : List Call) (call : Call) :
    let before := (⟨none, s⟩ : Session σ).after calls
    let after := before.next call
    Change before.handle (content before.storage) call (before.perform call).1 (content after.storage) ∧
      ∀ key, ForeignKey key → (content after.storage).get? key = (content before.storage).get? key := by
  intro before after
  have bounded : before.Bounded := bounded_after (s := ⟨none, s⟩) nofun calls
  obtain ⟨change, -⟩ := change_of_call bounded call
  exact ⟨change, fun key => change.get?_of_foreign⟩

end Session

end Lawful

end DurableQueue
