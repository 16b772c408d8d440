import DurableQueue.Proofs.Queue.Moves

/-!
# Items that are gone

An item that a caller still has in hand may have been taken out of the queue since. Its id is not in the
list then, so a revision of it is refused without a call of the store (`Operation.refused_of_gone`), until
the id is given out again. The ids that are given out only go up, and they outlive an opening that finds
something in the store (`Fifo.Past`). An opening that finds the store empty starts them over at 1, so
after one an id can come back, and with it an item that was gone (`Session.stale_revised`).
`Session.stale_rejected` says that there is no other way.
-/

namespace DurableQueue

/-! ## Ids that do not come back -/

/-- The tail of the list model bounds its ids. -/
theorem Fifo.Represents.consecutive {f : Fifo} {s : Session Table} (rep : f.Represents s) :
    ∃ head tail, Consecutive head f.items tail ∧ f.next = tail.toNat + 1 := by
  cases rep with
  | absent stores => exact ⟨_, _, stores.consecutive, rfl⟩
  | handle stores => exact ⟨_, _, stores.consecutive, rfl⟩

namespace Fifo

/-- The id is not in the list, and the ids to be given out are greater. -/
structure Past (f : Fifo) (id : UInt64) : Prop where
  gone : id ∉ f.ids
  below : id.toNat < f.next

variable {f f' : Fifo} {call : Call} {reply : Reply} {id : UInt64}

/-- The id given out is the next one. -/
theorem Moved.exact (h : Moved f call reply f') (added : call.addedId? reply = some id) :
    id.toNat = f.next := by
  cases h with
  | added asked exact =>
    change DurableQueue.addedId? _ = _ at added
    rw [asked] at added
    cases added
    exact exact
  | taken asked front =>
    change DurableQueue.addedId? _ = _ at added
    rw [asked] at added
    cases added
  | revised asked live =>
    change DurableQueue.addedId? _ = _ at added
    rw [asked] at added
    cases added
  | kept quiet stays present =>
    change DurableQueue.addedId? _ = _ at added
    have written := Request.writtenId?_of_addedId? added
    rw [quiet] at written
    cases written
  | reopened => cases added

/-- The next id goes back only where an empty list is opened. -/
theorem Moved.next_le (h : Moved f call reply f')
    (nonempty : ∀ location, call = .reopen location → f.items ≠ []) : f.next ≤ f'.next := by
  cases h with
  | added asked exact => exact Nat.le_succ _
  | reopened => simp [nonempty _ rfl]
  | _ => exact Nat.le_refl _

theorem Past.moved (past : f.Past id) (h : Moved f call reply f')
    (nonempty : ∀ location, call = .reopen location → f.items ≠ []) :
    f'.Past id ∧ call.addedId? reply ≠ some id := by
  have fresh : call.addedId? reply ≠ some id := by
    intro added
    have := h.exact added
    have := past.below
    omega
  refine ⟨⟨?_, Nat.lt_of_lt_of_le past.below (h.next_le nonempty)⟩, fresh⟩
  intro mem
  rcases h.mem_ids mem with old | added
  · exact past.gone old
  · exact fresh added

/-- The id that is taken from the front is past. -/
theorem Moved.past_of_taken {head tail : UInt64} (h : Moved f call reply f')
    (ids : Consecutive head f.items tail) (next : f.next = tail.toNat + 1)
    (taken : call.takenId? reply = some id) : f'.Past id := by
  cases h with
  | added asked exact =>
    change DurableQueue.takenId? _ = _ at taken
    rw [asked] at taken
    cases taken
  | @taken op front value rest asked at_front =>
    change DurableQueue.takenId? _ = _ at taken
    rw [asked] at taken
    cases taken
    rw [at_front] at ids
    have rest_above : Consecutive front rest tail := ids.2
    constructor
    · intro mem
      obtain ⟨⟨i, v⟩, later, same⟩ := List.mem_map.1 mem
      obtain rfl : i = front := same
      exact UInt64.lt_irrefl i (rest_above.live_of_mem later).1
    · have upto := UInt64.le_iff_toNat_le.1 rest_above.le
      show front.toNat < f.next
      omega
  | revised asked live =>
    change DurableQueue.takenId? _ = _ at taken
    rw [asked] at taken
    cases taken
  | kept quiet stays present =>
    change DurableQueue.takenId? _ = _ at taken
    rw [stays] at taken
    cases taken
  | reopened => cases taken

end Fifo

/-! ## Revisions of items that are gone -/

section Reliable

variable {σ : Type} [OrderedStore σ] [ReliableStore σ]

open LawfulStore (content)

/-- A revision of an item whose id is not in the store is refused, and the store is not called. -/
theorem Operation.refused_of_gone {q : Queue} {s : σ} {items : List (UInt64 × Bytes)}
    (stores : Stores (content s) q.head q.tail items) {op : Operation} {x : Item} {value : Bytes}
    (asked : op.request = .revise x (.ok value)) (gone : x.id ∉ items.map (·.1)) :
    ∃ e, Unreachable q x.id.toNat e ∧ op.run q s = ⟨.updated (.error e) x, q, s, []⟩ := by
  have out (above : q.head < x.id) (upto : x.id ≤ q.tail) : False := by
    obtain ⟨old, mem⟩ := stores.consecutive.exists_mem above upto
    exact gone (List.mem_map.2 ⟨_, mem, rfl⟩)
  have ran := op.ran_any q s
  rw [asked] at ran
  generalize op.run q s = turn at ran
  cases ran with
  | refused about cause =>
    cases cause with
    | revision cause => exact ⟨_, cause, rfl⟩
    | lookUp sought cause => cases sought
  | stopped about opened cause =>
    cases cause with
    | unread sought above upto get => cases sought
    | missing sought above upto get => cases sought
    | unrevised above upto put => exact (out above upto).elim
  | shown stays opened sought above upto get => cases sought
  | revised opened above upto put => exact (out above upto).elim

namespace Session

/-- No opening among the calls finds the store without an entry. -/
def NeverEmptied (s : Session σ) : List Call → Prop
  | [] => True
  | call :: calls =>
    (∀ location, call = .reopen location → content s.storage ≠ .empty) ∧
      (s.next call).NeverEmptied calls

/-- A list without items stands for an empty store. -/
theorem items_ne_nil {f : Fifo} {s : Session σ} (rep : f.Represents s.view)
    (something : content s.storage ≠ .empty) : f.items ≠ [] := by
  intro nil
  obtain ⟨head, tail, stores, -⟩ := rep.stores
  apply something
  apply Table.ext_get?
  intro key
  have none := stores.spans.get?_eq_none (stores.consecutive.eq_nil_iff.1 nil) key
  rw [Table.get?_empty]
  exact none

/-- Calls that do not open an emptied store never give out an id that is past. -/
theorem not_mem_addedIds {f : Fifo} {s : Session σ} (rep : f.Represents s.view) {id : UInt64}
    (past : f.Past id) {calls : List Call} (kept : s.NeverEmptied calls) : id ∉ s.addedIds calls := by
  induction calls generalizing f s with
  | nil => nofun
  | cons call calls ih =>
    obtain ⟨something, kept⟩ := kept
    obtain ⟨f', -, rep', moved⟩ := perform_moved rep call
    obtain ⟨past', fresh⟩ :=
      past.moved moved fun location reopens => items_ne_nil rep (something location reopens)
    intro mem
    rcases mem_toldIds_cons.1 mem with now | later
    · exact fresh now
    · exact ih rep' past' kept later

/-- An id that is not given out stays out of the store, and a handle stays. -/
theorem gone_after {f : Fifo} {s : Session σ} (rep : f.Represents s.view) {id : UInt64}
    (gone : id ∉ f.ids) (present : f.standing ≠ .absent) {calls : List Call}
    (fresh : id ∉ s.addedIds calls) :
    ∃ f' : Fifo, f'.Represents (s.after calls).view ∧ id ∉ f'.ids ∧ f'.standing ≠ .absent := by
  induction calls generalizing f s with
  | nil => exact ⟨f, rep, gone, present⟩
  | cons call calls ih =>
    obtain ⟨f', -, rep', moved⟩ := perform_moved rep call
    have gone' : id ∉ f'.ids := by
      intro mem
      rcases moved.mem_ids mem with old | now
      · exact gone old
      · exact fresh (mem_toldIds_cons.2 (Or.inl now))
    exact ih rep' gone' (moved.present present) fun later => fresh (mem_toldIds_cons.2 (Or.inr later))

/-- After any calls on a store that was empty, let an item be taken out, and let there be any calls since.
A revision of an item with its id is refused and changes nothing at all, unless the id has been given out
again since; and no id is given out again unless an opening since has found the store empty. -/
theorem stale_rejected {s : σ} (start : content s = .empty) (before since : List Call) {item : Item}
    (taken : (((⟨none, s⟩ : Session σ).after before).perform (.on .dequeue)).1 = .item (.ok item))
    {x : Item} (same : x.id = item.id) {op : Operation} {value : Bytes}
    (asked : op.request = .revise x (.ok value)) :
    let gone := ((⟨none, s⟩ : Session σ).after before).next (.on .dequeue)
    let now := gone.after since
    (x.id ∉ gone.addedIds since → ∃ q e, now.handle = some q ∧ Unreachable q x.id.toNat e ∧
        now.perform (.on op) = (.updated (.error e) x, now, [])) ∧
      (gone.NeverEmptied since → x.id ∉ gone.addedIds since) := by
  intro gone now
  obtain ⟨f, rep⟩ := represented_of_empty start before
  obtain ⟨f', played, rep', moved⟩ := perform_moved rep (.on .dequeue)
  rw [taken] at played moved
  obtain ⟨head, tail, ids, next⟩ := rep.consecutive
  have past : f'.Past x.id := by
    rw [same]
    exact moved.past_of_taken ids next rfl
  have present : f.standing ≠ .absent := by
    intro absent
    unfold Fifo.perform at played
    dsimp only at played
    rw [if_pos absent] at played
    cases played
  refine ⟨?_, not_mem_addedIds rep' past⟩
  intro fresh
  obtain ⟨f'', rep'', gone', present'⟩ := gone_after rep' past.gone (moved.present present) fresh
  change f''.Represents now.view at rep''
  obtain ⟨handle, storage⟩ := now
  generalize view : (⟨handle, storage⟩ : Session σ).view = table at rep''
  cases rep'' with
  | absent stores => exact absurd rfl present'
  | @handle t q items stores =>
    obtain ⟨rfl, rfl⟩ := Session.mk.inj view
    obtain ⟨e, cause, run⟩ := Operation.refused_of_gone stores asked gone'
    refine ⟨q, e, rfl, cause, ?_⟩
    unfold perform
    dsimp only
    rw [run]

end Session

end Reliable

namespace Session

/-- Item 1 is gone and item 2 is not, when the store is opened again. -/
theorem stale_rejected_reopened :
    let s : Session Table := (⟨none, .empty⟩ : Session Table).after
      [.reopen "q", .on (.enqueue [1]), .on (.enqueue [2])]
    let gone := s.next (.on .dequeue)
    let since : List Call := [.on (.enqueue [3]), .on .close, .reopen "q"]
    let now := gone.after since
    let x := Item.ofId 1 [1]
    (s.perform (.on .dequeue)).1 = .item (.ok x) ∧ gone.NeverEmptied since ∧
      x.id ∉ gone.addedIds since ∧ ∃ q e, now.handle = some q ∧ Unreachable q x.id.toNat e ∧
        now.perform (.on (.update x [4])) = (.updated (.error e) x, now, []) := by
  intro s gone since now x
  have kept : gone.NeverEmptied since := by
    refine ⟨nofun, nofun, ?_, trivial⟩
    intro _ _ nothing
    have missing : (gone.after [.on (.enqueue [3]), .on .close]).storage.get? (Key.encode 2) = none :=
      congrArg (Table.get? · (Key.encode 2)) nothing
    exact absurd missing (by decide)
  have taken : (s.perform (.on .dequeue)).1 = .item (.ok x) := rfl
  have asked : (Operation.update x [4]).request = .revise x (.ok [4]) := rfl
  obtain ⟨rejected, fresh⟩ := stale_rejected (σ := Table) rfl
    [.reopen "q", .on (.enqueue [1]), .on (.enqueue [2])] since taken rfl asked
  exact ⟨taken, kept, fresh kept, rejected (fresh kept)⟩

/-- The queue is empty when the store is opened again. Its next item gets the id of the one that is gone,
and a revision of that one takes the place of the payload of the other. -/
theorem stale_revised :
    let x := Item.ofId 1 [10]
    (⟨none, .empty⟩ : Session Table).replies [.reopen "memory", .on (.enqueue [10]), .on .dequeue,
        .reopen "memory", .on (.enqueue [11]), .on (.update x [12]), .on .peek] =
      [.done (.ok ()), .item (.ok x), .item (.ok x), .done (.ok ()), .item (.ok (Item.ofId 1 [11])),
        .updated (.ok ()) (Item.ofId 1 [12]), .item (.ok (Item.ofId 1 [12]))] := rfl

end Session

end DurableQueue
