import DurableQueue.Proofs.Payload.RoundTrip
import DurableQueue.Proofs.Queue.Moves

/-!
# Typed values in a queue

A typed value that a queue has stored is read back for as long as its item is live. The bytes stored for an
id change only by a call that writes the id (`Session.payload_kept`), whatever else is done and however often
the store is opened again; and every way to look at a live item shows the bytes stored (`Session.live_shown`).
What the bytes are read as is known from the round trip of payloads.
-/

namespace DurableQueue

open LawfulStore (content)

/-- The reply is the item of an id, and its payload is read as the value. -/
def Reply.Holds (reply : Reply) (id : UInt64) (schema : Payload.Schema) (v : Payload.Value) : Prop :=
  ∃ item, reply = .item (.ok item) ∧ item.id = id ∧ item.object schema = .ok v

/-! ## Looking at a live item -/

namespace Session

section Shown

variable {q : Queue} {t : Table} {id : UInt64} {value : Bytes}

theorem shown_byId (opened : q.isOpen = true) (above : q.head < id) (upto : id ≤ q.tail)
    (stored : t.get? (Key.encode id) = some value) :
    ((⟨some q, t⟩ : Session Table).perform (.on (.peekById id))).1 = .item (.ok (Item.ofId id value)) := by
  show Reply.item (q.itemById id t).1 = _
  rw [Queue.itemById_stored opened above upto stored]

theorem shown_byOffset (opened : q.isOpen = true) (above : q.head < id) (upto : id ≤ q.tail)
    (stored : t.get? (Key.encode id) = some value) {offset : UInt64}
    (sum : id.toNat = q.head.toNat + offset.toNat) :
    ((⟨some q, t⟩ : Session Table).perform (.on (.peekByOffset offset))).1 =
      .item (.ok (Item.ofId id value)) := by
  have away : offset ≠ 0 := by
    rintro rfl
    rw [UInt64.lt_iff_toNat_lt, sum] at above
    exact absurd above (Nat.lt_irrefl _)
  show Reply.item (q.itemByOffset offset t).1 = _
  rw [Queue.itemByOffset_stored opened upto stored away sum]

theorem shown_front (opened : q.isOpen = true) (upto : id ≤ q.tail)
    (stored : t.get? (Key.encode id) = some value) (next : id.toNat = q.head.toNat + 1) :
    ((⟨some q, t⟩ : Session Table).perform (.on .peek)).1 = .item (.ok (Item.ofId id value)) ∧
      ((⟨some q, t⟩ : Session Table).perform (.on .dequeue)).1 = .item (.ok (Item.ofId id value)) := by
  constructor
  · have front : q.itemByOffset 1 t = (.ok (Item.ofId id value), t) :=
      Queue.itemByOffset_stored opened upto stored (by decide) next
    show Reply.item (q.itemByOffset 1 t).1 = _
    rw [front]
  · show Reply.item (q.dequeue t).result = _
    rw [Queue.dequeue_stored opened next upto stored]

end Shown

/-! ## The payload of an id over a run -/

section Reliable

variable {σ : Type} [OrderedStore σ] [ReliableStore σ]

/-- As long as no call writes an id, it has no payload but the one it had. -/
theorem payload_kept {f : Fifo} {s : Session σ} (rep : f.Represents s.view) {id : UInt64} {value : Bytes}
    (only : ∀ payload, (id, payload) ∈ f.items → payload = value) {calls : List Call}
    (unwritten : id ∉ s.writtenIds calls) :
    ∃ f' : Fifo, f'.Represents (s.after calls).view ∧
      ∀ payload, (id, payload) ∈ f'.items → payload = value := by
  induction calls generalizing f s with
  | nil => exact ⟨f, rep, only⟩
  | cons call calls ih =>
    obtain ⟨f', -, rep', moved⟩ := perform_moved rep call
    have quiet : call.writtenId? (s.perform call).1 ≠ some id :=
      fun now => unwritten (mem_toldIds_cons.2 (Or.inl now))
    refine ih rep' ?_ fun later => unwritten (mem_toldIds_cons.2 (Or.inr later))
    intro payload mem
    exact only payload ((moved.mem_items mem).resolve_right quiet)

/-- A payload that a call has written is the only one of its id. -/
theorem payload_written {f : Fifo} {s : Session σ} (rep : f.Represents s.view) {op : Operation} {id : UInt64}
    {value : Bytes} (asked : op.request = .add (.ok value) ∨ ∃ x, op.request = .revise x (.ok value))
    (written : (Call.on op).writtenId? (s.perform (.on op)).1 = some id) :
    ∃ f' : Fifo, f'.Represents (s.next (.on op)).view ∧
      (∀ payload, (id, payload) ∈ f'.items → payload = value) ∧
      ∀ x, op.request = .revise x (.ok value) → (s.perform (.on op)).1 = .updated (.ok ()) (Item.ofId id value) := by
  obtain ⟨f', -, rep', moved⟩ := perform_moved rep (.on op)
  refine ⟨f', rep', ?_, fun x revised => moved.reply_revised revised written⟩
  obtain ⟨head, tail, stores, -⟩ := rep'.stores
  have stored := stores.holds.get?_encode_iff.2 (moved.mem_written asked written)
  intro payload mem
  exact Option.some.inj ((stores.holds.get?_encode_iff.2 mem).symm.trans stored)

/-- Every look at a live id shows its only payload, and taking it out does when it is next. -/
theorem live_shown {f : Fifo} {s : Session σ} (rep : f.Represents s.view) {id : UInt64} {value : Bytes}
    (only : ∀ payload, (id, payload) ∈ f.items → payload = value) {q : Queue} (handle : s.handle = some q)
    (opened : q.isOpen = true) (above : q.head < id) (upto : id ≤ q.tail) :
    (s.perform (.on (.peekById id))).1 = .item (.ok (Item.ofId id value)) ∧
      (∀ offset : UInt64, id.toNat = q.head.toNat + offset.toNat →
        (s.perform (.on (.peekByOffset offset))).1 = .item (.ok (Item.ofId id value))) ∧
      (id.toNat = q.head.toNat + 1 → (s.perform (.on .peek)).1 = .item (.ok (Item.ofId id value)) ∧
        (s.perform (.on .dequeue)).1 = .item (.ok (Item.ofId id value))) := by
  obtain ⟨_, storage⟩ := s
  obtain rfl : _ = some q := handle
  obtain ⟨head, tail, stores, counters⟩ := rep.stores
  obtain ⟨rfl, rfl⟩ := counters q rfl
  obtain ⟨payload, mem⟩ := stores.consecutive.exists_mem above upto
  have stored : (content storage).get? (Key.encode id) = some payload := stores.holds.get?_encode_iff.2 mem
  rw [only payload mem] at stored
  have seen (call : Call) : ((⟨some q, storage⟩ : Session σ).perform call).1 =
      ((⟨some q, content storage⟩ : Session Table).perform call).1 :=
    (congrArg Prod.fst (perform_map ReliableStore.hom ⟨some q, storage⟩ call)).symm
  simp only [seen]
  exact ⟨shown_byId opened above upto stored, fun offset => shown_byOffset opened above upto stored,
    shown_front opened upto stored⟩

/-- After any calls on a store that was empty, let a typed value be put in, or be given to an item, and let
there be any calls since that do not write the id that it got. As long as the id is live, every look at it
shows an item that holds the value, and so does taking it out when it is next. After a revision, the caller's
own item holds the value, too. -/
theorem object_survives {s : σ} (start : content s = .empty) (before since : List Call)
    {schema : Payload.Schema} {v : Payload.Value} (typed : schema.Has v) {op : Operation}
    (writes : op = .enqueueObject v ∨ ∃ x, op = .updateObject x v) {id : UInt64}
    (written : (Call.on op).writtenId? (((⟨none, s⟩ : Session σ).after before).perform (.on op)).1 = some id)
    (last : id ∉ (((⟨none, s⟩ : Session σ).after before).next (.on op)).writtenIds since) :
    let earlier := (⟨none, s⟩ : Session σ).after before
    let now := (earlier.next (.on op)).after since
    (∀ x, op = .updateObject x v → ∃ item, (earlier.perform (.on op)).1 = .updated (.ok ()) item ∧
        item.id = id ∧ item.object schema = .ok v) ∧
      ∀ q, now.handle = some q → q.isOpen = true → q.head < id → id ≤ q.tail →
        (now.perform (.on (.peekById id))).1.Holds id schema v ∧
        (∀ offset : UInt64, id.toNat = q.head.toNat + offset.toNat →
          (now.perform (.on (.peekByOffset offset))).1.Holds id schema v) ∧
        (id.toNat = q.head.toNat + 1 →
          (now.perform (.on .peek)).1.Holds id schema v ∧ (now.perform (.on .dequeue)).1.Holds id schema v) := by
  intro earlier now
  have asked : op.request = .add (.ok v.bytes) ∨ ∃ x, op.request = .revise x (.ok v.bytes) := by
    rw [← typed.payloadOf]
    rcases writes with rfl | ⟨x, rfl⟩
    · exact Or.inl rfl
    · exact Or.inr ⟨x, rfl⟩
  obtain ⟨f, rep⟩ := represented_of_empty start before
  obtain ⟨f', rep', only, revised⟩ := payload_written rep asked written
  obtain ⟨f'', rep'', only'⟩ := payload_kept rep' only last
  constructor
  · rintro x rfl
    exact ⟨_, revised x (congrArg (Request.revise x) typed.payloadOf), rfl, typed.object id⟩
  · intro q handle opened above upto
    have holds {reply : Reply} (shown : reply = .item (.ok (Item.ofId id v.bytes))) : reply.Holds id schema v :=
      ⟨_, shown, rfl, typed.object id⟩
    obtain ⟨byId, byOffset, front⟩ := live_shown rep'' only' handle opened above upto
    exact ⟨holds byId, fun offset sum => holds (byOffset offset sum),
      fun next => ⟨holds (front next).1, holds (front next).2⟩⟩

end Reliable

/-- Nodes with a number and any number of further nodes below. -/
def treeSchema : Payload.Schema := .recursive (.record [.word .signed .w32, .seq .itself])

/-- A node with one node below it. -/
def tree : Payload.Value :=
  .record [.word .signed .w32 5, .seq [.record [.word .signed .w32 0xfffffffe, .seq []]]]

theorem treeSchema_has_tree : treeSchema.Has tree := by
  refine ⟨2, _, rfl, _, _, rfl, ⟨_, rfl⟩, _, _, rfl, ⟨_, rfl, by decide, ?_⟩, rfl⟩
  intro u mem
  obtain rfl := List.mem_singleton.1 mem
  exact ⟨_, rfl, _, _, rfl, ⟨_, rfl⟩, _, _, rfl, ⟨_, rfl, by decide, nofun⟩, rfl⟩

/-- A tree is given to item 1, which is still the front after another item and another opening. -/
theorem object_survives_tree :
    let s : Session Table := (⟨none, .empty⟩ : Session Table).after [.reopen "q", .on (.enqueue [1])]
    let op : Operation := .updateObject (Item.ofId 1 [1]) tree
    let since : List Call :=
      [.on (.enqueue [2]), .on .close, .reopen "q", .on (.update (Item.ofId 2 [2]) [3])]
    let now := (s.next (.on op)).after since
    treeSchema.Has tree ∧ (Call.on op).writtenId? (s.perform (.on op)).1 = some 1 ∧
      1 ∉ (s.next (.on op)).writtenIds since ∧ now.handle = some ⟨"q", true, 0, 2⟩ ∧
      (now.perform (.on .peek)).1.Holds 1 treeSchema tree ∧
      (now.perform (.on .dequeue)).1.Holds 1 treeSchema tree := by
  intro s op since now
  have written : (Call.on op).writtenId? (s.perform (.on op)).1 = some 1 := rfl
  have last : 1 ∉ (s.next (.on op)).writtenIds since := by decide
  have handle : now.handle = some ⟨"q", true, 0, 2⟩ := by decide
  obtain ⟨-, live⟩ := object_survives (σ := Table) rfl [.reopen "q", .on (.enqueue [1])] since
    treeSchema_has_tree (Or.inr ⟨_, rfl⟩) written last
  obtain ⟨-, -, front⟩ := live _ handle rfl (by decide) (by decide)
  exact ⟨treeSchema_has_tree, written, last, handle, front rfl⟩

end Session

end DurableQueue
