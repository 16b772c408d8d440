import DurableQueue.Proofs.Queue.Atomicity
import DurableQueue.Proofs.Queue.Counters
import DurableQueue.Proofs.Queue.Lookups

/-!
# Revisions

A caller can hand in any item for a revision: one that is gone, or one made up, with a key that is not that
of its id. Only the id counts. If it is between the counters and the store takes the payload, the entry under
the key of the id is written and no other (`Queue.Updated.effect`), so whatever looks at another place sees what
it saw before (`Operation.reply_congr`).

Over a whole run on one handle, the keys that come into the store are those of live ids, and what stops being
live has left the store (`Confined`). `Session.revision_confined` puts the two together: revisions cannot bring
a key back that is below the head or beyond the tail.
-/

namespace DurableQueue

/-! ## Looking elsewhere -/

namespace Queue

variable {q : Queue} {t t' : Table}

/-- Looking for an id sees nothing of a table but the entry of the id, and that only if it is live. -/
theorem fst_itemById_congr {id : UInt64}
    (same : q.head < id → t'.get? (Key.encode id) = t.get? (Key.encode id)) :
    (q.itemById id t').1 = (q.itemById id t).1 := by
  unfold itemById
  split
  · rfl
  · rcases checkBounds_cases q id with ⟨-, check⟩ | ⟨-, -, check⟩ | ⟨above, -, check⟩
    · rw [check]
    · rw [check]
    · rw [check]
      dsimp only
      rw [Table.get_def, Table.get_def, same above]
      cases t.get? (Key.encode id) <;> rfl

theorem fst_itemByOffset_congr {offset : UInt64}
    (same : ∀ id : UInt64, id.toNat = q.head.toNat + offset.toNat → q.head < id →
      t'.get? (Key.encode id) = t.get? (Key.encode id)) :
    (q.itemByOffset offset t').1 = (q.itemByOffset offset t).1 := by
  unfold itemByOffset
  split
  · next id sum => exact fst_itemById_congr (same id (addId?_eq_some sum))
  · split
    · rfl
    · split <;> rfl

end Queue

/-- Tables with the same entry at a live place answer the same to whatever looks there. -/
theorem Operation.reply_congr {q : Queue} {op : Operation} {n : Nat} {t t' : Table}
    (sought : op.request.sought? q = some n)
    (same : ∀ id : UInt64, id.toNat = n → q.head < id →
      t'.get? (Key.encode id) = t.get? (Key.encode id)) :
    (op.run q t').reply = (op.run q t).reply := by
  cases op with
  | dequeue =>
    obtain rfl := Option.some.inj sought
    show Reply.item (q.dequeue t').result = Reply.item (q.dequeue t).result
    rw [Queue.result_dequeue_table, Queue.result_dequeue_table]
    exact congrArg Reply.item (Queue.fst_itemByOffset_congr same)
  | peek =>
    obtain rfl := Option.some.inj sought
    exact congrArg Reply.item (Queue.fst_itemByOffset_congr same)
  | peekByOffset offset =>
    obtain rfl := Option.some.inj sought
    exact congrArg Reply.item (Queue.fst_itemByOffset_congr same)
  | peekById id =>
    obtain rfl := Option.some.inj sought
    exact congrArg Reply.item (Queue.fst_itemById_congr (same id rfl))
  | _ => cases sought

/-! ## Keys that come in -/

/-- Every key of a table was in an earlier one, or is that of an id between the counters. -/
def Confined (q : Queue) (earlier t : Table) : Prop :=
  ∀ key, (t.get? key).isSome →
    (earlier.get? key).isSome ∨ ∃ id, (q.head < id ∧ id ≤ q.tail) ∧ key = Key.encode id

namespace Confined

variable {q : Queue} {earlier t : Table}

theorem refl (q : Queue) (t : Table) : Confined q t t := fun _ => Or.inl

theorem added (h : Confined q earlier t) (ordered : q.head ≤ q.tail) (room : q.tail ≠ greatestId)
    (value : Bytes) :
    Confined { q with tail := q.tail + 1 } earlier (t.insert (Key.encode (q.tail + 1)) value) := by
  have next := lt_add_one_of_ne room
  intro key stored
  by_cases new : key = Key.encode (q.tail + 1)
  · exact Or.inr ⟨q.tail + 1, ⟨UInt64.lt_of_le_of_lt ordered next, UInt64.le_refl _⟩, new⟩
  · rw [Table.get?_insert, if_neg new] at stored
    refine (h key stored).imp_right ?_
    rintro ⟨id, ⟨above, upto⟩, rfl⟩
    exact ⟨id, ⟨above, UInt64.le_trans upto (UInt64.le_of_lt next)⟩, rfl⟩

/-- The one live id that stops being live goes with its entry. -/
theorem taken (h : Confined q earlier t) (something : q.head < q.tail) :
    Confined { q with head := q.head + 1 } earlier (t.erase (Key.encode (q.head + 1))) := by
  intro key stored
  rw [Table.get?_erase] at stored
  by_cases front : key = Key.encode (q.head + 1)
  · rw [if_pos front] at stored
    cases stored
  · rw [if_neg front] at stored
    refine (h key stored).imp_right ?_
    rintro ⟨id, ⟨above, upto⟩, rfl⟩
    have other : id ≠ q.head + 1 := fun same => front (congrArg Key.encode same)
    rw [UInt64.lt_iff_toNat_lt] at above
    rw [Ne, ← UInt64.toNat_inj, Queue.toNat_succ_of_lt something] at other
    refine ⟨id, ⟨?_, upto⟩, rfl⟩
    rw [UInt64.lt_iff_toNat_lt, Queue.toNat_succ_of_lt something]
    omega

theorem revised (h : Confined q earlier t) {id : UInt64} (above : q.head < id) (upto : id ≤ q.tail)
    (value : Bytes) : Confined q earlier (t.insert (Key.encode id) value) := by
  intro key stored
  by_cases same : key = Key.encode id
  · exact Or.inr ⟨id, ⟨above, upto⟩, same⟩
  · rw [Table.get?_insert, if_neg same] at stored
    exact h key stored

/-- A key that is not between the counters has not come in. -/
theorem get?_eq_none (h : Confined q earlier t) {id : UInt64} (out : id ≤ q.head ∨ q.tail < id)
    (missing : earlier.get? (Key.encode id) = none) : t.get? (Key.encode id) = none := by
  rw [← Option.not_isSome_iff_eq_none]
  intro stored
  rcases h _ stored with before | ⟨i, ⟨above, upto⟩, same⟩
  · rw [missing] at before
    cases before
  · obtain rfl := Key.encode_injective same
    rcases out with below | beyond
    · exact absurd above (UInt64.not_lt.2 below)
    · exact absurd upto (UInt64.not_le.2 beyond)

end Confined

section Lawful

variable {σ : Type} [OrderedStore σ] [LawfulStore σ] {q : Queue} {s : σ}

open LawfulStore (content)

/-! ## One request -/

theorem Ran.confined {request : Request} {turn : Turn σ} (h : Ran q s request turn)
    (ordered : q.head ≤ q.tail) {earlier : Table} (confined : Confined q earlier (content s)) :
    Confined turn.queue earlier (content turn.storage) := by
  cases h with
  | refused about cause => exact confined
  | stopped about opened cause =>
    dsimp only
    rw [cause.content_eq]
    exact confined
  | added room opened put =>
    dsimp only
    rw [((LawfulStore.put _ _ s).on_ok put).2]
    exact confined.added ordered room _
  | taken something opened get delete =>
    dsimp only
    rw [((LawfulStore.delete _ _).on_ok delete).2, ((LawfulStore.get _ s).on_ok get).2]
    exact confined.taken something
  | shown stays opened sought above upto get =>
    dsimp only
    rw [((LawfulStore.get _ s).on_ok get).2]
    exact confined
  | revised opened above upto put =>
    dsimp only
    rw [((LawfulStore.put _ _ s).on_ok put).2]
    exact confined.revised above upto _
  | counted => exact confined
  | closed closed =>
    cases closed with
    | already shut => exact confined
    | failed opened flush =>
      dsimp only [Outcome.turn]
      rw [(LawfulStore.flush s).on_error flush]
      exact confined
    | flushed opened flush =>
      dsimp only [Outcome.turn]
      rw [((LawfulStore.flush s).on_ok flush).2]
      exact confined

namespace Queue

variable {x : Item} {value : Bytes} {outcome : Outcome σ Unit × Item}

omit [LawfulStore σ] in
/-- On an open handle, a revision works exactly if the id is live and the store takes the payload. -/
theorem Updated.ok_iff (h : Updated q x value s outcome) (opened : q.isOpen = true) :
    outcome.1.result = .ok () ↔
      (q.head < x.id ∧ x.id ≤ q.tail) ∧
        (OrderedStore.put (Key.encode x.id) value s).1 = .ok () := by
  cases h with
  | closed shut => cases opened.symm.trans shut
  | empty _ nothing =>
    apply iff_of_false nofun
    rintro ⟨⟨above, upto⟩, -⟩
    rw [← nothing] at upto
    exact absurd upto (UInt64.not_le.2 above)
  | outOfBounds _ _ out =>
    apply iff_of_false nofun
    rintro ⟨⟨above, upto⟩, -⟩
    exact absurd out (not_or.2 ⟨UInt64.not_le.2 above, UInt64.not_lt.2 upto⟩)
  | failed _ _ _ put =>
    apply iff_of_false nofun
    rintro ⟨-, works⟩
    rw [put] at works
    cases works
  | written _ above upto put =>
    refine iff_of_true rfl ⟨⟨above, upto⟩, ?_⟩
    rw [put]

/-- A revision that works writes the entry of the id, and the caller's item becomes the one stored. -/
theorem Updated.effect (h : Updated q x value s outcome) (ok : outcome.1.result = .ok ()) :
    outcome.2 = Item.ofId x.id value ∧ outcome.1.queue = q ∧
      content outcome.1.storage = (content s).insert (Key.encode x.id) value := by
  cases h with
  | closed shut => cases ok
  | empty opened nothing => cases ok
  | outOfBounds opened something out => cases ok
  | failed opened above upto put => cases ok
  | written _ above upto put => exact ⟨rfl, rfl, ((LawfulStore.put _ _ s).on_ok put).2⟩

end Queue

/-! ## Runs on one handle -/

namespace Session

/-- Calls on a handle lead to a handle, whose counters are in order and confine the keys that came in. -/
theorem confined_after {earlier : Table} (ordered : q.head ≤ q.tail)
    (confined : Confined q earlier (content s)) (ops : List Operation) :
    ∃ q' s', (⟨some q, s⟩ : Session σ).after (ops.map .on) = ⟨some q', s'⟩ ∧ q'.head ≤ q'.tail ∧
      Confined q' earlier (content s') := by
  induction ops generalizing q s with
  | nil => exact ⟨q, s, rfl, ordered, confined⟩
  | cons op ops ih =>
    have ran := op.ran_any q s
    exact ih (ran.advance.ordered ordered) (ran.confined ordered confined)

/-- A revision of any item, on an open handle with its counters in order and over any entries. It succeeds
exactly if the id of the item is between the counters and the store takes the payload. Then the caller's item
has the key of its id and the payload, the handle is as it was, and so is every entry but the one of the id,
whatever key the item had; whatever looks at another place answers as before if no call of the store fails
in it. And in no run on the handle does a key come into the store, from one time to a later one, whose id is
not between the counters then. -/
theorem revision_confined (opened : q.isOpen = true) (ordered : q.head ≤ q.tail) (s : σ) {op : Operation}
    {x : Item} {value : Bytes} (asked : op.request = .revise x (.ok value)) :
    let before : Session σ := ⟨some q, s⟩
    let after := before.next (.on op)
    ((∃ item, (before.perform (.on op)).1 = .updated (.ok ()) item) ↔
        (q.head < x.id ∧ x.id ≤ q.tail) ∧
          (OrderedStore.put (Key.encode x.id) value s).1 = .ok ()) ∧
      (∀ item, (before.perform (.on op)).1 = .updated (.ok ()) item →
        item = Item.ofId x.id value ∧ after.handle = some q ∧
          (content after.storage).get? (Key.encode x.id) = some value ∧
          (∀ key, key ≠ Key.encode x.id → (content after.storage).get? key = (content s).get? key) ∧
          ∀ (look : Operation) (n : Nat), look.request.sought? q = some n → n ≠ x.id.toNat →
            before.fault (.on look) = none → after.fault (.on look) = none →
              (after.perform (.on look)).1 = (before.perform (.on look)).1) ∧
      ∀ ops since : List Operation,
        let earlier := before.after (ops.map .on)
        let later := earlier.after (since.map .on)
        ∃ q', later.handle = some q' ∧ ∀ id, id ≤ q'.head ∨ q'.tail < id →
          (content earlier.storage).get? (Key.encode id) = none →
            (content later.storage).get? (Key.encode id) = none := by
  intro before after
  have run := op.run_of_revise asked q s
  have updated := Queue.updated q x value s
  have reply : (before.perform (.on op)).1 =
      .updated (q.update x value s).1.result (q.update x value s).2 := congrArg Turn.reply run
  refine ⟨?_, ?_, ?_⟩
  · rw [← updated.ok_iff opened, reply]
    constructor
    · rintro ⟨item, ok⟩
      exact (Reply.updated.inj ok).1
    · intro ok
      exact ⟨_, congrArg (Reply.updated · _) ok⟩
  · intro item ok
    rw [reply] at ok
    obtain ⟨worked, rfl⟩ := Reply.updated.inj ok
    obtain ⟨same, queue, stored⟩ := updated.effect worked
    have handle : after.handle = some q := congrArg some ((congrArg Turn.queue run).trans queue)
    have written : content after.storage = (content s).insert (Key.encode x.id) value :=
      (congrArg (content ·.storage) run).trans stored
    have other : ∀ key, key ≠ Key.encode x.id →
        (content after.storage).get? key = (content s).get? key := by
      intro key differs
      rw [written, Table.get?_insert, if_neg differs]
    refine ⟨same, handle, ?_, other, ?_⟩
    · rw [written, Table.get?_insert, if_pos rfl]
    · intro look n sought away works works'
      have present : after = ⟨some q, after.storage⟩ :=
        congrArg (Session.mk · after.storage) handle
      rw [(perform_of_works works).1, (perform_of_works works').1, present]
      refine Operation.reply_congr sought ?_
      intro id place _
      apply other
      intro key
      rw [Key.encode_injective key] at place
      exact away place.symm
  · intro ops since earlier later
    obtain ⟨q₁, s₁, reached, ordered₁, -⟩ := confined_after ordered (.refl q (content s)) ops
    obtain ⟨q₂, s₂, reached₂, -, confined⟩ := confined_after ordered₁ (.refl q₁ (content s₁)) since
    have earlier_eq : earlier = ⟨some q₁, s₁⟩ := reached
    have later_eq : later = ⟨some q₂, s₂⟩ := by
      show earlier.after _ = _
      rw [earlier_eq, reached₂]
    rw [earlier_eq, later_eq]
    exact ⟨q₂, rfl, fun id => confined.get?_eq_none⟩

end Session

end Lawful

namespace Session

/-- The item handed in has the id of the last item and the key of the front, which is missing. Then the front is
gone, and a revision of it does not bring it back. -/
theorem revision_confined_forged :
    let t := (Table.empty.insert (Key.encode 3) [7]).insert (Key.encode 5) [8]
    let q : Queue := ⟨"q", true, 2, 5⟩
    let before : Session (Flaky fun _ => true) := ⟨some q, ⟨t, []⟩⟩
    let x : Item := ⟨5, Key.encode 3, [1]⟩
    let after := before.next (.on (.update x [9]))
    let later := (before.after ([Operation.dequeue].map .on)).after
      ([Operation.update (Item.ofId 3 [7]) [6]].map .on)
    q.isOpen = true ∧ q.head ≤ q.tail ∧
      (before.perform (.on (.update x [9]))).1 = .updated (.ok ()) (Item.ofId 5 [9]) ∧
      (LawfulStore.content after.storage).get? (Key.encode 5) = some [9] ∧
      (LawfulStore.content after.storage).get? (Key.encode 3) = some [7] ∧
      (after.perform (.on (.peekById 4))).1 = (before.perform (.on (.peekById 4))).1 ∧
      later.handle = some ⟨"q", true, 3, 5⟩ ∧
      (LawfulStore.content later.storage).get? (Key.encode 3) = none := by
  intro t q before x after later
  have opened : q.isOpen = true := rfl
  have ordered : q.head ≤ q.tail := by decide
  have asked : (Operation.update x [9]).request = .revise x (.ok [9]) := rfl
  obtain ⟨works, effect, confined⟩ :=
    revision_confined opened ordered (⟨t, []⟩ : Flaky fun _ => true) asked
  obtain ⟨item, ok⟩ := works.2 ⟨by decide, rfl⟩
  obtain ⟨rfl, -, written, other, looks⟩ := effect item ok
  obtain ⟨q', handle, missing⟩ := confined [.dequeue] [.update (Item.ofId 3 [7]) [6]]
  have last : later.handle = some ⟨"q", true, 3, 5⟩ := by decide
  obtain rfl := Option.some.inj (last.symm.trans handle)
  refine ⟨opened, ordered, ok, written, other _ (by decide), ?_, last, ?_⟩
  · exact looks (.peekById 4) 4 rfl (by decide) (by decide) (by decide)
  · exact missing 3 (Or.inl (by decide)) (by decide)

end Session

end DurableQueue
