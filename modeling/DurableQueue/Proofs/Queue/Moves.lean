import DurableQueue.Proofs.Queue.Counters
import DurableQueue.Proofs.Queue.Refinement

/-!
# Calls on a working store, as moves of the list

On a store in which no call fails, a queue's call moves the list of items in one of few ways: an item is put
at the back, the front is taken, an item gets another payload, or the items stay. `Fifo.moved` says that
there is nothing else, and `Session.perform_moved` that a session on a reliable store moves in the same way.
What a run can do to one id is read off from there: an id comes into the list only by being given out
(`Moved.mem_ids`), and its payload changes only by being written (`Moved.mem_items`).
-/

namespace DurableQueue

/-! ## Ids in the replies -/

/-- The id that a successful request has given a payload to. -/
def Request.writtenId? : Request → Reply → Option UInt64
  | add _, .item (.ok item) => some item.id
  | revise item _, .updated (.ok ()) _ => some item.id
  | _, _ => none

/-- The id that a successful call has given a payload to. -/
def Call.writtenId? (reply : Reply) : Call → Option UInt64
  | on op => op.request.writtenId? reply
  | reopen _ => none

/-- The id that a successful call has given out at the back. -/
def Call.addedId? (reply : Reply) : Call → Option UInt64
  | on op => DurableQueue.addedId? (op.request, reply)
  | reopen _ => none

/-- The id that a successful call has taken from the front. -/
def Call.takenId? (reply : Reply) : Call → Option UInt64
  | on op => DurableQueue.takenId? (op.request, reply)
  | reopen _ => none

/-- Whatever is given out gets a payload. -/
theorem Request.writtenId?_of_addedId? {request : Request} {reply : Reply} {id : UInt64}
    (added : DurableQueue.addedId? (request, reply) = some id) :
    request.writtenId? reply = some id := by
  cases request with
  | add payload =>
    rcases reply with (_ | _) | _ | _ | _ | _
    case item.ok => exact added
    all_goals cases added
  | _ => cases added

/-! ## Moves of the list -/

namespace Fifo

/-- The ids in the list. -/
def ids (f : Fifo) : List UInt64 := f.items.map (·.1)

/-- What a call in which the store does not fail does to the list, and its reply. -/
inductive Moved (f : Fifo) : Call → Reply → Fifo → Prop where
  | added {op value id} (asked : op.request = .add (.ok value)) (exact : id.toNat = f.next) :
      Moved f (.on op) (.item (.ok (Item.ofId id value)))
        { f with items := f.items ++ [(id, value)], next := f.next + 1 }
  | taken {op id value rest} (asked : op.request = .take) (front : f.items = (id, value) :: rest) :
      Moved f (.on op) (.item (.ok (Item.ofId id value))) { f with items := rest }
  | revised {op item value} (asked : op.request = .revise item (.ok value)) (live : item.id ∈ f.ids) :
      Moved f (.on op) (.updated (.ok ()) (Item.ofId item.id value))
        { f with items := revalued item.id value f.items }
  | kept {op reply standing} (quiet : op.request.writtenId? reply = none)
      (stays : takenId? (op.request, reply) = none)
      (present : f.standing ≠ .absent → standing ≠ .absent) :
      Moved f (.on op) reply { f with standing }
  | reopened {location} : Moved f (.reopen location) (.done (.ok ()))
      { f with standing := .opened, next := if f.items = [] then 1 else f.next }

theorem ids_revalued (id : UInt64) (value : Bytes) (items : List (UInt64 × Bytes)) :
    (revalued id value items).map (·.1) = items.map (·.1) := by
  unfold revalued
  rw [List.map_map]
  apply List.map_congr_left
  intro item _
  by_cases same : item.1 = id
  · simp [same]
  · simp [same]

theorem mem_revalued {id i : UInt64} {value v : Bytes} {items : List (UInt64 × Bytes)}
    (mem : (i, v) ∈ revalued id value items) : (i, v) ∈ items ∨ i = id := by
  obtain ⟨item, mem, eq⟩ := List.mem_map.1 mem
  split at eq
  · exact Or.inr (Prod.mk.inj eq).1.symm
  · exact Or.inl (eq ▸ mem)

/-- A look-up that succeeds has found something. -/
theorem look_ok {f : Fifo} {asked : UInt64} {found : Option (UInt64 × Bytes)} {item : Item}
    (ok : f.look asked found = .ok item) : ∃ id value, found = some (id, value) := by
  unfold look at ok
  split at ok
  · cases ok
  · split at ok
    · cases ok
    · cases found with
      | none => cases ok
      | some pair => exact ⟨pair.1, pair.2, rfl⟩

section Moved

variable {f : Fifo} {op : Operation}

theorem kept_same {reply : Reply} (quiet : op.request.writtenId? reply = none)
    (stays : takenId? (op.request, reply) = none) : Moved f (.on op) reply f :=
  .kept quiet stays id

theorem moved_enqueue {value : Bytes} (asked : op.request = .add (.ok value)) :
    Moved f (.on op) (f.enqueue value).1 (f.enqueue value).2 := by
  unfold enqueue
  by_cases full : UInt64.size ≤ f.next
  · rw [if_pos full]
    exact kept_same (by rw [asked]; rfl) (by rw [asked]; rfl)
  · rw [if_neg full]
    by_cases shut : f.standing ≠ .opened
    · rw [if_pos shut]
      exact kept_same (by rw [asked]; rfl) (by rw [asked]; rfl)
    · rw [if_neg shut]
      exact .added asked (UInt64.toNat_ofNat_of_lt' (Nat.not_le.1 full))

theorem moved_dequeue (asked : op.request = .take) :
    Moved f (.on op) f.dequeue.1 f.dequeue.2 := by
  have failed (e : QueueError) : Moved f (.on op) (.item (.error e)) f :=
    kept_same (by rw [asked]; rfl) (by rw [asked]; rfl)
  unfold dequeue
  by_cases shut : f.standing ≠ .opened
  · rw [if_pos shut]
    exact failed .closed
  · rw [if_neg shut]
    cases front : f.items with
    | nil => exact failed .empty
    | cons item rest => exact .taken asked front

theorem moved_update {item : Item} {value : Bytes} (asked : op.request = .revise item (.ok value)) :
    Moved f (.on op) (f.update item value).1 (f.update item value).2 := by
  unfold update
  cases look : f.byId item.id with
  | error e => exact kept_same (by rw [asked]; rfl) (by rw [asked]; rfl)
  | ok found =>
    obtain ⟨id, old, first⟩ := look_ok look
    have same : id = item.id := by simpa using List.find?_some first
    exact .revised asked (List.mem_map.2 ⟨_, List.mem_of_find?_eq_some first, same⟩)

theorem moved_run (f : Fifo) (op : Operation) : Moved f (.on op) (f.run op).1 (f.run op).2 := by
  cases op with
  | enqueue value => exact moved_enqueue rfl
  | enqueueText text => exact moved_enqueue rfl
  | enqueueObject v =>
    unfold run
    dsimp only
    cases written : payloadOf v with
    | error e => exact kept_same rfl rfl
    | ok value => exact moved_enqueue (congrArg Request.add written)
  | dequeue => exact moved_dequeue rfl
  | peek => exact kept_same rfl rfl
  | peekByOffset offset => exact kept_same rfl rfl
  | peekById id => exact kept_same rfl rfl
  | update item value => exact moved_update rfl
  | updateText item text => exact moved_update rfl
  | updateObject item v =>
    unfold run
    dsimp only
    cases written : payloadOf v with
    | error e => exact kept_same rfl rfl
    | ok value => exact moved_update (congrArg (Request.revise item) written)
  | counters => exact kept_same rfl rfl
  | close =>
    refine .kept rfl rfl ?_
    cases f.standing <;> simp [Standing.shut]

end Moved

/-- There is nothing else that a call can do to the list. -/
theorem moved (f : Fifo) (call : Call) :
    Moved f call (f.perform call none).1 (f.perform call none).2 := by
  cases call with
  | reopen location => exact .reopened
  | on op =>
    unfold perform
    dsimp only
    by_cases absent : f.standing = .absent
    · rw [if_pos absent]
      exact kept_same (by cases op.request <;> rfl) (by cases op.request <;> rfl)
    · rw [if_neg absent]
      exact moved_run f op

namespace Moved

variable {f f' : Fifo} {call : Call} {reply : Reply} {id : UInt64} {value : Bytes}

/-- A payload that an id has comes from the list before, or else the call has written the id. -/
theorem mem_items (h : Moved f call reply f') (mem : (id, value) ∈ f'.items) :
    (id, value) ∈ f.items ∨ call.writtenId? reply = some id := by
  cases h with
  | added asked exact =>
    rcases List.mem_append.1 mem with old | new
    · exact Or.inl old
    · obtain ⟨rfl, rfl⟩ := Prod.mk.inj (List.mem_singleton.1 new)
      right
      show Request.writtenId? _ _ = _
      rw [asked]
      rfl
  | taken asked front =>
    rw [front]
    exact Or.inl (List.mem_cons_of_mem _ mem)
  | revised asked live =>
    rcases mem_revalued mem with old | rfl
    · exact Or.inl old
    · right
      show Request.writtenId? _ _ = _
      rw [asked]
      rfl
  | kept quiet stays present => exact Or.inl mem
  | reopened => exact Or.inl mem

/-- An id that a call writes has the payload written. -/
theorem mem_written {op : Operation} (h : Moved f (.on op) reply f')
    (asked : op.request = .add (.ok value) ∨ ∃ x, op.request = .revise x (.ok value))
    (written : op.request.writtenId? reply = some id) : (id, value) ∈ f'.items := by
  cases h with
  | added asked' exact =>
    rw [asked'] at asked written
    obtain rfl := Option.some.inj written
    rcases asked with asked | ⟨x, asked⟩
    · cases asked
      exact List.mem_append_right _ (List.mem_singleton_self _)
    · cases asked
  | taken asked' front =>
    rw [asked'] at written
    cases written
  | revised asked' live =>
    rw [asked'] at asked written
    obtain rfl := Option.some.inj written
    rcases asked with asked | ⟨x, asked⟩
    · cases asked
    · cases asked
      obtain ⟨old, mem, same⟩ := List.mem_map.1 live
      exact List.mem_map.2 ⟨old, mem, if_pos same⟩
  | kept quiet stays present => cases quiet.symm.trans written

/-- The caller's item is answered with the payload written. -/
theorem reply_revised {op : Operation} {x : Item} (h : Moved f (.on op) reply f')
    (asked : op.request = .revise x (.ok value)) (written : op.request.writtenId? reply = some id) :
    reply = .updated (.ok ()) (Item.ofId id value) := by
  cases h with
  | added asked' exact => cases asked'.symm.trans asked
  | taken asked' front => cases asked'.symm.trans asked
  | revised asked' live =>
    rw [asked'] at asked written
    obtain rfl := Option.some.inj written
    cases asked
    rfl
  | kept quiet stays present => cases quiet.symm.trans written

/-- An id in the list was there before, or else the call has given it out. -/
theorem mem_ids (h : Moved f call reply f') (mem : id ∈ f'.ids) :
    id ∈ f.ids ∨ call.addedId? reply = some id := by
  cases h with
  | @added op value new asked exact =>
    unfold ids at mem
    rw [List.map_append, List.mem_append, List.map_singleton, List.mem_singleton] at mem
    rcases mem with old | rfl
    · exact Or.inl old
    · right
      show DurableQueue.addedId? _ = _
      rw [asked]
      rfl
  | taken asked front =>
    unfold ids
    rw [front]
    exact Or.inl (List.mem_cons_of_mem _ mem)
  | revised asked live =>
    unfold ids at mem
    rw [ids_revalued] at mem
    exact Or.inl mem
  | kept quiet stays present => exact Or.inl mem
  | reopened => exact Or.inl mem

/-- Once there is a handle, there is one for good. -/
theorem present (h : Moved f call reply f') (present : f.standing ≠ .absent) :
    f'.standing ≠ .absent := by
  cases h with
  | added asked exact => exact present
  | taken asked front => exact present
  | revised asked live => exact present
  | kept quiet stays kept => exact kept present
  | reopened => nofun

end Moved

end Fifo

/-! ## Sessions on a reliable store -/

namespace Session

variable {σ : Type} [OrderedStore σ]

/-- The ids that the replies to some calls tell of. -/
def toldIds (told? : Reply → Call → Option UInt64) (s : Session σ) (calls : List Call) : List UInt64 :=
  (calls.zip (s.replies calls)).filterMap fun turn => told? turn.2 turn.1

/-- The ids that some calls have given out at the back. -/
def addedIds (s : Session σ) (calls : List Call) : List UInt64 := s.toldIds Call.addedId? calls

/-- The ids that some calls have given a payload to. -/
def writtenIds (s : Session σ) (calls : List Call) : List UInt64 := s.toldIds Call.writtenId? calls

theorem mem_toldIds_cons {told? : Reply → Call → Option UInt64} {s : Session σ} {call : Call}
    {calls : List Call} {id : UInt64} :
    id ∈ s.toldIds told? (call :: calls) ↔
      told? (s.perform call).1 call = some id ∨ id ∈ (s.next call).toldIds told? calls := by
  show id ∈ ((call, (s.perform call).1) :: calls.zip ((s.next call).replies calls)).filterMap _ ↔ _
  rw [List.mem_filterMap, toldIds, List.mem_filterMap]
  simp only [List.mem_cons, or_and_right, exists_or, exists_eq_left]

variable [ReliableStore σ]

open LawfulStore (content)

/-- A call on a reliable store replies what the list model does, and moves the list as it does. -/
theorem perform_moved {f : Fifo} {s : Session σ} (rep : f.Represents s.view) (call : Call) :
    ∃ f' : Fifo, (f.perform call none) = ((s.perform call).1, f') ∧
      f'.Represents (s.next call).view ∧ f.Moved call (s.perform call).1 f' := by
  obtain ⟨reply, rep'⟩ := met_represents rep call none
  have same : s.view.perform call = Prod.map id (Prod.map view id) (s.perform call) :=
    perform_map ReliableStore.hom s call
  have moved := f.moved call
  unfold met next at reply rep'
  rw [same] at reply rep'
  rw [reply] at moved
  exact ⟨_, Prod.ext reply rfl, rep', moved⟩

end Session

end DurableQueue
