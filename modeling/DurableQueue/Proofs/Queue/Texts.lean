import DurableQueue.Proofs.Queue.Atomicity
import DurableQueue.Proofs.Queue.Objects
import DurableQueue.Proofs.Queue.Recovery
import DurableQueue.Proofs.Text.Decoding

/-!
# Payloads as texts

The two views of a payload as text are the two readers of UTF-8 (`Item.TextViews`): the strict one refuses what
is no text and says why, the lossy one puts U+FFFD for what the strict one refuses and goes on behind it.

A text that has been written under an id is read back from every item of the id that is answered later
(`Session.ReadsBack`), whatever else the store holds and whichever of its calls fail. What carries this
over a run is that the entry of an id changes only by a call that says so: it writes the id, or takes it out
(`Session.get?_next`).
-/

namespace DurableQueue

open LawfulStore (content)

/-! ## The two views -/

/-- What the two views of a payload show. -/
structure Item.TextViews (item : Item) : Prop where
  /-- the strict view is there exactly if the payload is a text in bytes, and is that text -/
  strict : ∀ text, item.text = .ok text ↔ item.value = Utf8.encode text
  /-- otherwise it tells how far the longest text at the front goes and whether the payload is cut off there or
  wrong; the lossy view is that text, one replacement character and the lossy view of what is left -/
  refused : ∀ e, item.text = .error e → ∃ fault : Utf8.Fault, fault.Describes item.value ∧
    e = .incompatible (.notText fault) ∧
    e.message = "Incompatible item type: Payload is not UTF-8: " ++ (match fault.invalid with
      | some count => s!"invalid utf-8 sequence of {count} bytes from index {fault.index}"
      | none => s!"incomplete utf-8 byte sequence from index {fault.index}") ∧
    ∃ front, Utf8.encode front = item.value.take fault.index ∧
      item.lossyText = front ++ "\uFFFD" ++ (match fault.invalid with
        | some count => (Item.ofId item.id (item.value.drop (fault.index + count))).lossyText
        | none => "")
  /-- the lossy view has the bytes of the payload exactly if that is a text -/
  same_bytes : Utf8.encode item.lossyText = item.value ↔ ∃ text, item.text = .ok text
  /-- the lossy view as a payload is a text, and both its views show it again -/
  again : ∀ id, (Item.ofId id (Utf8.encode item.lossyText)).text = .ok item.lossyText ∧
    (Item.ofId id (Utf8.encode item.lossyText)).lossyText = item.lossyText

namespace Item

theorem text_eq_ok_iff {item : Item} {text : String} :
    item.text = .ok text ↔ item.value = Utf8.encode text := by
  rw [← Utf8.decode_eq_ok_iff, Item.text]
  constructor
  · intro h
    cases read : Utf8.decode item.value with
    | error fault =>
      rw [read] at h
      cases h
    | ok text' =>
      rw [read] at h
      obtain rfl : text' = text := Except.ok.inj h
      rfl
  · intro h
    rw [h]
    rfl

theorem exists_of_text_eq_error {item : Item} {e : QueueError} (h : item.text = .error e) :
    ∃ fault, Utf8.decode item.value = .error fault ∧ e = .incompatible (.notText fault) := by
  rw [Item.text] at h
  cases read : Utf8.decode item.value with
  | error fault =>
    rw [read] at h
    exact ⟨fault, rfl, (Except.error.inj h).symm⟩
  | ok text =>
    rw [read] at h
    cases h

theorem textViews (item : Item) : item.TextViews where
  strict _ := text_eq_ok_iff
  refused := by
    intro e h
    obtain ⟨fault, read, rfl⟩ := exists_of_text_eq_error h
    exact ⟨fault, Utf8.describes_of_error read, rfl, rfl, Utf8.decodeLossy_of_error read⟩
  same_bytes := by
    constructor
    · intro same
      exact ⟨item.lossyText, text_eq_ok_iff.2 same.symm⟩
    · rintro ⟨text, h⟩
      rw [lossyText, text_eq_ok_iff.1 h, Utf8.decodeLossy_encode]
  again id := ⟨text_eq_ok_iff.2 rfl, Utf8.decodeLossy_encode item.lossyText⟩

end Item

/-! ## What a call does to the payload of an id -/

/-- Does the request put in an item with the payload, or give it to one? -/
def Request.Writes (request : Request) (value : Bytes) : Prop :=
  request = .add (.ok value) ∨ ∃ x, request = .revise x (.ok value)

section Ran

variable {σ : Type} [OrderedStore σ] {q : Queue} {s : σ} {request : Request} {turn : Turn σ} {id : UInt64}
  {value : Bytes}

/-- A call that has written an id answers the item as it is now. -/
theorem Ran.reply_written (h : Ran q s request turn) (writes : request.Writes value)
    (written : request.writtenId? turn.reply = some id) :
    turn.reply = .item (.ok (Item.ofId id value)) ∨ turn.reply = .updated (.ok ()) (Item.ofId id value) := by
  rcases writes with rfl | ⟨x, rfl⟩
  · cases h with
    | added room opened put =>
      cases written
      exact Or.inl rfl
    | shown stays opened sought => cases sought
    | refused | stopped => cases written
  · cases h with
    | revised opened above upto put =>
      cases written
      exact Or.inr rfl
    | shown stays opened sought => cases sought
    | refused | stopped => cases written

variable [LawfulStore σ]

theorem Ran.stored_of_written (h : Ran q s request turn) (writes : request.Writes value)
    (written : request.writtenId? turn.reply = some id) :
    (content turn.storage).get? (Key.encode id) = some value := by
  have put_stored {s' : σ} (put : OrderedStore.put (Key.encode id) value s = (.ok (), s')) :
      (content s').get? (Key.encode id) = some value := by
    rw [((LawfulStore.put _ _ s).on_ok put).2, Table.get?_insert, if_pos rfl]
  rcases writes with rfl | ⟨x, rfl⟩
  · cases h with
    | added room opened put =>
      cases written
      exact put_stored put
    | shown stays opened sought => cases sought
    | refused | stopped => cases written
  · cases h with
    | revised opened above upto put =>
      cases written
      exact put_stored put
    | shown stays opened sought => cases sought
    | refused | stopped => cases written

/-- The payload of an id stays the same, unless the call has written the id or has taken it out. -/
theorem Ran.get?_content (h : Ran q s request turn) (id : UInt64) :
    (content turn.storage).get? (Key.encode id) = (content s).get? (Key.encode id) ∨
      request.writtenId? turn.reply = some id ∨
      takenId? (request, turn.reply) = some id ∧ (content turn.storage).get? (Key.encode id) = none := by
  have kept {s' : σ} (same : content s' = content s) :
      (content s').get? (Key.encode id) = (content s).get? (Key.encode id) := by rw [same]
  have put_other {id' : UInt64} {value : Bytes} {s' : σ}
      (put : OrderedStore.put (Key.encode id') value s = (.ok (), s')) (other : id' ≠ id) :
      (content s').get? (Key.encode id) = (content s).get? (Key.encode id) := by
    rw [((LawfulStore.put _ _ s).on_ok put).2, Table.get?_insert,
      if_neg fun same => other (Key.encode_injective same).symm]
  cases h with
  | refused about cause => exact Or.inl rfl
  | stopped about opened cause => exact Or.inl (kept cause.content_eq)
  | added room opened put =>
    by_cases same : q.tail + 1 = id
    · exact Or.inr (Or.inl (congrArg some same))
    · exact Or.inl (put_other put same)
  | taken something opened get delete =>
    have erased := ((LawfulStore.delete _ _).on_ok delete).2
    rw [((LawfulStore.get _ s).on_ok get).2] at erased
    by_cases same : q.head + 1 = id
    · refine Or.inr (Or.inr ⟨congrArg some same, ?_⟩)
      rw [erased, Table.get?_erase, same, if_pos rfl]
    · left
      rw [erased, Table.get?_erase, if_neg fun eq => same (Key.encode_injective eq).symm]
  | shown stays opened sought above upto get =>
    exact Or.inl (kept ((LawfulStore.get _ s).on_ok get).2)
  | @revised item _ _ opened above upto put =>
    by_cases same : item.id = id
    · exact Or.inr (Or.inl (congrArg some same))
    · exact Or.inl (put_other put same)
  | counted => exact Or.inl rfl
  | closed closed =>
    left
    cases closed with
    | already shut => rfl
    | failed opened flush => exact kept ((LawfulStore.flush s).on_error flush)
    | flushed opened flush => exact kept ((LawfulStore.flush s).on_ok flush).2

/-- An item that is answered has the payload that its id has in the store. -/
theorem Ran.stored_of_shown (h : Ran q s request turn) {item : Item} (answered : turn.reply = .item (.ok item))
    (unwritten : request.writtenId? turn.reply ≠ some item.id) :
    (content s).get? (Key.encode item.id) = some item.value := by
  have got {id : UInt64} {value : Bytes} {s' : σ}
      (get : OrderedStore.get (Key.encode id) s = (.ok (some value), s')) :
      (content s).get? (Key.encode id) = some value := (((LawfulStore.get _ s).on_ok get).1).symm
  cases h with
  | refused | stopped => cases request <;> cases answered
  | added room opened put =>
    cases answered
    exact absurd rfl unwritten
  | taken something opened get delete =>
    cases answered
    exact got get
  | shown stays opened sought above upto get =>
    cases answered
    exact got get
  | revised | counted | closed => cases answered

end Ran

namespace Session

/-- The ids that some calls have taken from the front. -/
def takenIds {σ : Type} [OrderedStore σ] (s : Session σ) (calls : List Call) : List UInt64 :=
  s.toldIds Call.takenId? calls

/-- Any call that looks at a live id shows its payload on a table. -/
theorem shown_sought {q : Queue} {t : Table} {id : UInt64} {value : Bytes} (opened : q.isOpen = true)
    (above : q.head < id) (upto : id ≤ q.tail) (stored : t.get? (Key.encode id) = some value) {look : Operation}
    (sought : look.request.sought? q = some id.toNat) :
    ((⟨some q, t⟩ : Session Table).perform (.on look)).1 = .item (.ok (Item.ofId id value)) := by
  cases look with
  | dequeue => exact (shown_front opened upto stored (Option.some.inj sought).symm).2
  | peek => exact (shown_front opened upto stored (Option.some.inj sought).symm).1
  | peekByOffset offset => exact shown_byOffset opened above upto stored (Option.some.inj sought).symm
  | peekById id' =>
    obtain rfl : id' = id := UInt64.toNat_inj.1 (Option.some.inj sought)
    exact shown_byId opened above upto stored
  | _ => cases sought

section Lawful

variable {σ : Type} [OrderedStore σ] [LawfulStore σ] {s : Session σ} {id : UInt64} {value : Bytes}

/-- Opening a store leaves its entries as they are. -/
theorem content_reopen (s : Session σ) (location : String) :
    content (s.next (.reopen location)).storage = content s.storage := by
  have seen := congrArg (fun answer => answer.2.storage) (perform_view s (.reopen location))
  refine seen.trans ?_
  cases s.fault (.reopen location) with
  | some e => rfl
  | none =>
    have kept := (Queue.opened (content s.storage) location).1
    show (s.view.reopen location).2.1.storage = _
    unfold reopen view mapStorage
    dsimp only
    generalize Queue.ofStore location (content s.storage) = reply at kept ⊢
    obtain ⟨_ | q, t, events⟩ := reply
    · exact kept
    · exact kept

theorem get?_next (s : Session σ) (call : Call) (id : UInt64) :
    (content (s.next call).storage).get? (Key.encode id) = (content s.storage).get? (Key.encode id) ∨
      call.writtenId? (s.perform call).1 = some id ∨
      call.takenId? (s.perform call).1 = some id ∧
        (content (s.next call).storage).get? (Key.encode id) = none := by
  cases call with
  | on op =>
    obtain ⟨_ | q, storage⟩ := s
    · exact Or.inl rfl
    · exact (op.ran_any q storage).get?_content id
  | reopen location =>
    left
    rw [content_reopen]

theorem stored_of_answered {call : Call} {item : Item} (answered : (s.perform call).1 = .item (.ok item))
    (unwritten : call.writtenId? (s.perform call).1 ≠ some item.id) :
    (content s.storage).get? (Key.encode item.id) = some item.value := by
  obtain ⟨handle, storage⟩ := s
  cases call with
  | on op =>
    cases handle with
    | none => cases answered
    | some q => exact (op.ran_any q storage).stored_of_shown answered unwritten
  | reopen location =>
    unfold perform reopen at answered
    dsimp only at answered
    split at answered <;> cases answered

/-- As long as no call writes an id, it has no payload but the one it had. -/
theorem get?_after_unwritten {calls : List Call} (unwritten : id ∉ s.writtenIds calls)
    (only : ∀ payload, (content s.storage).get? (Key.encode id) = some payload → payload = value) :
    ∀ payload, (content (s.after calls).storage).get? (Key.encode id) = some payload → payload = value := by
  induction calls generalizing s with
  | nil => exact only
  | cons call calls ih =>
    refine ih (fun later => unwritten (mem_toldIds_cons.2 (Or.inr later))) ?_
    intro payload stored
    rcases s.get?_next call id with same | written | ⟨-, gone⟩
    · exact only payload (same.symm.trans stored)
    · exact absurd (mem_toldIds_cons.2 (Or.inl written)) unwritten
    · cases gone.symm.trans stored

/-- As long as no call takes it out either, it keeps that payload. -/
theorem get?_after {calls : List Call} (unwritten : id ∉ s.writtenIds calls) (untaken : id ∉ s.takenIds calls) :
    (content (s.after calls).storage).get? (Key.encode id) = (content s.storage).get? (Key.encode id) := by
  induction calls generalizing s with
  | nil => rfl
  | cons call calls ih =>
    have later := ih (fun later => unwritten (mem_toldIds_cons.2 (Or.inr later)))
      fun later => untaken (mem_toldIds_cons.2 (Or.inr later))
    refine later.trans ?_
    rcases s.get?_next call id with same | written | ⟨taken, -⟩
    · exact same
    · exact absurd (mem_toldIds_cons.2 (Or.inl written)) unwritten
    · exact absurd (mem_toldIds_cons.2 (Or.inl taken)) untaken

end Lawful

/-! ## Reading back a text -/

/-- What comes of a call that has written a text under an id. -/
structure ReadsBack {σ : Type} [OrderedStore σ] (s : Session σ) (op : Operation) (id : UInt64) (text : String) :
    Prop where
  /-- it answers the item with the text, the caller's own one after a revision -/
  answered : ∃ item : Item, item.id = id ∧ item.text = .ok text ∧
    ((s.perform (.on op)).1 = .item (.ok item) ∨ (s.perform (.on op)).1 = .updated (.ok ()) item)
  /-- as long as the id is not written again, every item of the id that is answered has the text -/
  shown : ∀ [LawfulStore σ] (since : List Call), id ∉ (s.next (.on op)).writtenIds since →
    let now := (s.next (.on op)).after since
    ∀ (call : Call) (item : Item), (now.perform call).1 = .item (.ok item) → item.id = id →
      call.writtenId? (now.perform call).1 ≠ some id → item.text = .ok text
  /-- as long as it is not taken out either, every look at it and the taking out show the text, unless the store
  fails there -/
  found : ∀ [LawfulStore σ] (since : List Call), id ∉ (s.next (.on op)).writtenIds since →
    id ∉ (s.next (.on op)).takenIds since →
    let now := (s.next (.on op)).after since
    ∀ q, now.handle = some q → q.isOpen = true → q.head < id → id ≤ q.tail →
      ∀ look : Operation, look.request.sought? q = some id.toNat → now.fault (.on look) = none →
        ∃ item : Item, item.id = id ∧ item.text = .ok text ∧ (now.perform (.on look)).1 = .item (.ok item)

/-- A text that a call has written is read back. -/
theorem readsBack {σ : Type} [OrderedStore σ] {s : Session σ} {op : Operation} {id : UInt64} {text : String}
    (writes : op.request.Writes (Utf8.encode text))
    (written : (Call.on op).writtenId? (s.perform (.on op)).1 = some id) : s.ReadsBack op id text := by
  have shows : (Item.ofId id (Utf8.encode text)).text = .ok text := Item.text_eq_ok_iff.2 rfl
  obtain ⟨_ | q, storage⟩ := s
  · -- Without a handle, nothing is written.
    rcases writes with same | ⟨x, same⟩ <;>
      · change op.request.writtenId? .noQueue = some id at written
        rw [same] at written
        cases written
  have ran := op.ran_any q storage
  have stored [LawfulStore σ] := ran.stored_of_written writes written
  constructor
  · exact ⟨_, rfl, shows, ran.reply_written writes written⟩
  · intro lawful since unwritten now call item answered same other
    have only : ∀ payload, (content now.storage).get? (Key.encode id) = some payload →
        payload = Utf8.encode text :=
      get?_after_unwritten unwritten fun payload there => Option.some.inj (there.symm.trans stored)
    obtain rfl := same
    exact Item.text_eq_ok_iff.2 (only item.value (stored_of_answered answered other))
  · intro lawful since unwritten untaken now q' handle opened above upto look sought works
    have there : (content now.storage).get? (Key.encode id) = some (Utf8.encode text) :=
      (get?_after unwritten untaken).trans stored
    refine ⟨_, rfl, shows, ?_⟩
    have seen := congrArg Prod.fst (perform_view now (.on look))
    rw [works] at seen
    refine seen.trans ?_
    show (now.view.perform (.on look)).1 = _
    unfold view mapStorage
    rw [handle]
    exact shown_sought opened above upto there sought

/-- The views of every payload as text, and the reading back of every text that is written under an id, be it
put in or given to an item. -/
theorem texts_exact :
    (∀ item : Item, item.TextViews) ∧
      ∀ {σ : Type} [OrderedStore σ] (s : Session σ) (op : Operation) (id : UInt64) (text : String),
        op = .enqueueText text ∨ (∃ x, op = .updateText x text) →
        (Call.on op).writtenId? (s.perform (.on op)).1 = some id → s.ReadsBack op id text := by
  refine ⟨Item.textViews, ?_⟩
  intro σ _ s op id text writes written
  refine readsBack ?_ written
  rcases writes with rfl | ⟨x, rfl⟩
  · exact Or.inl rfl
  · exact Or.inr ⟨x, rfl⟩

/-- A text of two bytes is given to an item of a store with a key that is none of the queue's, and it is taken
out after the store has failed once. -/
theorem texts_exact_accent :
    let s : Session (Flaky fun _ => true) :=
      ⟨some ⟨"q", true, 0, 1⟩, (Table.empty.insert (Key.encode 1) [7]).insert [9] [2], [none, some (.io "down")]⟩
    let op : Operation := .updateText (Item.ofId 1 [8]) "é"
    let now := (s.next (.on op)).after [.on .peek]
    (Item.ofId 1 [0xc3, 0xa9]).text = .ok "é" ∧ (Call.on op).writtenId? (s.perform (.on op)).1 = some 1 ∧
      1 ∉ (s.next (.on op)).writtenIds [.on .peek] ∧ 1 ∉ (s.next (.on op)).takenIds [.on .peek] ∧
      now.handle = some ⟨"q", true, 0, 1⟩ ∧ now.fault (.on .dequeue) = none ∧
      ∃ item : Item, item.id = 1 ∧ item.text = .ok "é" ∧ (now.perform (.on .dequeue)).1 = .item (.ok item) := by
  intro s op now
  have written : (Call.on op).writtenId? (s.perform (.on op)).1 = some 1 := rfl
  have unwritten : 1 ∉ (s.next (.on op)).writtenIds [.on .peek] := by decide
  have untaken : 1 ∉ (s.next (.on op)).takenIds [.on .peek] := by decide
  have handle : now.handle = some ⟨"q", true, 0, 1⟩ := by decide
  have works : now.fault (.on .dequeue) = none := by decide
  obtain ⟨views, back⟩ := texts_exact
  have found := (back s op 1 "é" (Or.inr ⟨_, rfl⟩) written).found _ unwritten untaken _ handle rfl (by decide)
    (by decide) .dequeue rfl works
  exact ⟨((views (Item.ofId 1 [0xc3, 0xa9])).strict "é").2 rfl, written, unwritten, untaken, handle, works, found⟩

end Session

end DurableQueue
