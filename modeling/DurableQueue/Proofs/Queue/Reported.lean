import DurableQueue.Proofs.Queue.Atomicity
import DurableQueue.Proofs.Queue.Entries

/-!
# What an error of bounds reports

A place outside the counters is reported with the counters and with its id. A place beyond every id has no
id; the greatest one is reported for it (`Unreachable`). When the counters reach up to the greatest id, that
is the id of a live item. `Session.outOfBounds_iff` says that this is the only case in which the reported id
is between the reported counters, whatever has been called before on whatever store.
-/

namespace DurableQueue

theorem payloadOf_ne_outOfBounds {v : Payload.Value} {id head tail : UInt64} :
    payloadOf v ≠ .error (.outOfBounds id head tail) := by
  unfold payloadOf
  cases v.encode <;> nofun

namespace Request

/-- The place that a request is about, if it names one. -/
def place? (q : Queue) : Request → Option Nat
  | revise item _ => some item.id.toNat
  | request => request.sought? q

/-- The payload that comes with a request, if one does. -/
def payload? : Request → Option (Except QueueError Bytes)
  | add payload | revise _ payload => some payload
  | _ => none

theorem place?_of_sought? {q : Queue} {request : Request} {n : Nat}
    (sought : request.sought? q = some n) : request.place? q = some n := by
  cases request with
  | revise item payload => cases sought
  | _ => exact sought

theorem error?_error {request : Request} {e : QueueError} : (request.error e).error? = some e := by
  cases request <;> rfl

end Request

namespace Operation

/-- A payload that cannot be written is not reported as out of bounds. -/
theorem payload?_ne_outOfBounds (op : Operation) {id head tail : UInt64} :
    op.request.payload? ≠ some (.error (.outOfBounds id head tail)) := by
  cases op with
  | enqueueObject v => exact fun h => payloadOf_ne_outOfBounds (Option.some.inj h)
  | updateObject item v => exact fun h => payloadOf_ne_outOfBounds (Option.some.inj h)
  | _ => nofun

/-- Does the operation look at a place beyond every id? -/
def BeyondIds (q : Queue) (op : Operation) : Prop :=
  ∃ offset, op = .peekByOffset offset ∧ UInt64.size ≤ q.head.toNat + offset.toNat

/-- Only a look at an offset names a place beyond every id, unless there is no room behind the front. -/
theorem beyondIds_iff {q : Queue} (something : q.head < q.tail) {op : Operation} {n : Nat}
    (place : op.request.place? q = some n) : op.BeyondIds q ↔ UInt64.size ≤ n := by
  have next : q.head.toNat + 1 < UInt64.size :=
    Nat.lt_of_le_of_lt (UInt64.lt_iff_toNat_lt.1 something) q.tail.toNat_lt_size
  have elsewhere (other : ∀ offset, op ≠ .peekByOffset offset) (small : n < UInt64.size) :
      op.BeyondIds q ↔ UInt64.size ≤ n := by
    refine iff_of_false ?_ (Nat.not_le_of_lt small)
    rintro ⟨offset, same, -⟩
    exact other offset same
  cases op with
  | peekByOffset offset =>
    obtain rfl := Option.some.inj place
    constructor
    · rintro ⟨_, same, beyond⟩
      cases same
      exact beyond
    · exact fun beyond => ⟨offset, rfl, beyond⟩
  | dequeue =>
    obtain rfl := Option.some.inj place
    exact elsewhere nofun next
  | peek =>
    obtain rfl := Option.some.inj place
    exact elsewhere nofun next
  | peekById id =>
    obtain rfl := Option.some.inj place
    exact elsewhere nofun id.toNat_lt_size
  | update item value =>
    obtain rfl := Option.some.inj place
    exact elsewhere nofun item.id.toNat_lt_size
  | updateText item text =>
    obtain rfl := Option.some.inj place
    exact elsewhere nofun item.id.toNat_lt_size
  | updateObject item v =>
    obtain rfl := Option.some.inj place
    exact elsewhere nofun item.id.toNat_lt_size
  | _ => cases place

end Operation

/-- An error of bounds is about a place: it tells the counters of the handle, between which the place is
not, and the id of the place, or the greatest id if the place has none. -/
structure OutsideOf (q : Queue) (n : Nat) (id head tail : UInt64) : Prop where
  head : head = q.head
  tail : tail = q.tail
  something : q.head ≠ q.tail
  reported : id.toNat = min n greatestId.toNat
  out : n ≤ q.head.toNat ∨ q.tail.toNat < n

namespace OutsideOf

variable {q : Queue} {n : Nat} {id head tail : UInt64}

/-- The id told is live just when it stands in for a place beyond every id and is itself the last one. -/
theorem out_iff (h : OutsideOf q n id head tail) (ordered : q.head < q.tail) :
    (id ≤ q.head ∨ q.tail < id) ↔ ¬ (q.tail = greatestId ∧ UInt64.size ≤ n) := by
  have reported := h.reported
  have out := h.out
  have idSmall := id.toNat_lt_size
  have tailSmall := q.tail.toNat_lt_size
  rw [toNat_greatestId] at reported
  rw [UInt64.lt_iff_toNat_lt] at ordered
  rw [UInt64.le_iff_toNat_le, UInt64.lt_iff_toNat_lt, ← UInt64.toNat_inj, toNat_greatestId]
  omega

end OutsideOf

theorem Unreachable.outsideOf {q : Queue} {n : Nat} {id head tail : UInt64}
    (h : Unreachable q n (.outOfBounds id head tail)) : OutsideOf q n id head tail := by
  cases h with
  | outOfBounds opened something reported out => exact ⟨rfl, rfl, something, reported, out⟩

section Ran

variable {σ : Type} [OrderedStore σ] {q : Queue} {s : σ} {request : Request}

theorem Refusal.outsideOf {id head tail : UInt64}
    (h : Refusal q request (.outOfBounds id head tail))
    (written : request.payload? ≠ some (.error (.outOfBounds id head tail))) :
    ∃ n, request.place? q = some n ∧ OutsideOf q n id head tail := by
  cases h with
  | unwritable => exact absurd rfl written
  | unwritableRevision => exact absurd rfl written
  | revision cause => exact ⟨_, rfl, cause.outsideOf⟩
  | lookUp sought cause => exact ⟨_, Request.place?_of_sought? sought, cause.outsideOf⟩

theorem Stopped.ne_outOfBounds {e : QueueError} {s' : σ} (h : Stopped q s request e s')
    {id head tail : UInt64} : e ≠ .outOfBounds id head tail := by
  cases h <;> nofun

/-- A request that ends in an error of bounds is about the place that the error is about. -/
theorem Ran.outsideOf {turn : Turn σ} (h : Ran q s request turn) {id head tail : UInt64}
    (told : turn.reply.error? = some (.outOfBounds id head tail))
    (written : request.payload? ≠ some (.error (.outOfBounds id head tail))) :
    ∃ n, request.place? q = some n ∧ OutsideOf q n id head tail := by
  cases h with
  | refused about cause =>
    obtain rfl := Option.some.inj (Request.error?_error.symm.trans told)
    exact cause.outsideOf written
  | stopped about opened cause =>
    exact absurd (Option.some.inj (Request.error?_error.symm.trans told)) cause.ne_outOfBounds
  | added room opened put => cases told
  | taken something opened get delete => cases told
  | shown stays opened sought above upto get => cases told
  | revised opened above upto put => cases told
  | counted => cases told
  | closed closed => cases closed <;> cases told

end Ran

namespace Session

variable {σ : Type} [OrderedStore σ] [LawfulStore σ]

/-- After any calls on any store, an error of bounds tells the counters of the handle, and there is an item
between them. The id it tells is outside of them, except for an offset beyond every id when the last item
has the greatest id: that id is told. -/
theorem outOfBounds_iff (s : σ) (calls : List Call) (op : Operation) {id head tail : UInt64}
    (told : (((⟨none, s⟩ : Session σ).after calls).perform (.on op)).1.error? =
      some (.outOfBounds id head tail)) :
    ∃ q, ((⟨none, s⟩ : Session σ).after calls).handle = some q ∧
      head = q.head ∧ tail = q.tail ∧ q.head < q.tail ∧
        ((id ≤ q.head ∨ q.tail < id) ↔ ¬ (q.tail = greatestId ∧ op.BeyondIds q)) := by
  have bounded : ((⟨none, s⟩ : Session σ).after calls).Bounded :=
    bounded_after (s := ⟨none, s⟩) nofun calls
  generalize (⟨none, s⟩ : Session σ).after calls = state at told bounded ⊢
  obtain ⟨handle, storage⟩ := state
  cases handle with
  | none => cases told
  | some q =>
    have ordered := (bounded q rfl).ordered
    obtain ⟨n, place, outside⟩ := (op.ran_any q storage).outsideOf told op.payload?_ne_outOfBounds
    have something : q.head < q.tail := UInt64.lt_of_le_of_ne ordered outside.something
    refine ⟨q, rfl, outside.head, outside.tail, something, ?_⟩
    rw [op.beyondIds_iff something place]
    exact outside.out_iff something

/-- The id told for an id in front of the head. -/
theorem outOfBounds_iff_taken :
    let s : Table := Table.empty.insert (Key.encode 5) [7]
    let state := (⟨none, s⟩ : Session Table).after [.reopen "q", .on (.enqueue [8]), .on .dequeue]
    (state.perform (.on (.peekById 5))).1.error? = some (.outOfBounds 5 5 6) ∧
      ∃ q, state.handle = some q ∧ 5 = q.head ∧ 6 = q.tail ∧ q.head < q.tail ∧
        ((5 ≤ q.head ∨ q.tail < 5) ↔ ¬ (q.tail = greatestId ∧ (Operation.peekById 5).BeyondIds q)) := by
  intro s state
  have told : (state.perform (.on (.peekById 5))).1.error? = some (.outOfBounds 5 5 6) := by decide
  exact ⟨told, outOfBounds_iff s _ _ told⟩

/-- The last item has the greatest id, and an offset goes beyond it: the error tells the id of the item,
which is there. -/
theorem outOfBounds_live :
    let s : Table := Table.empty.insert (Key.encode greatestId) [7]
    let state := (⟨none, s⟩ : Session Table).after [.reopen "q"]
    (state.perform (.on (.peekByOffset 2))).1.error? =
        some (.outOfBounds greatestId (greatestId - 1) greatestId) ∧
      ¬ (greatestId ≤ greatestId - 1 ∨ greatestId < greatestId) ∧
      (state.perform (.on (.peekById greatestId))).1 = .item (.ok (Item.ofId greatestId [7])) := by
  refine ⟨?_, ?_, rfl⟩ <;> decide

end Session

end DurableQueue
