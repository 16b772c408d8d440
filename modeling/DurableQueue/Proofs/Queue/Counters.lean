import DurableQueue.Proofs.Queue.Requests

/-!
# The counters on any store

Nothing is assumed of the store here: every call of it may answer anything, and its state may be another
one each time an operation starts. The counters hold out by themselves. An operation leaves them as they
are or moves one of them by one (`Ran.advance`), and never `head` past `tail`; hence the ids given out at
the back are numbered through, and so are those taken from the front (`Queue.run_counts`). No sum or
difference of counters wraps on the way (`Ran.exact`). `Queue.counters_safe` puts this together.
-/

namespace DurableQueue

/-! ## One step -/

/-- The id that a successful request has given out at the back. -/
def addedId? : Request × Reply → Option UInt64
  | (.add _, .item (.ok item)) => some item.id
  | _ => none

/-- The id that a successful request has taken from the front. -/
def takenId? : Request × Reply → Option UInt64
  | (.take, .item (.ok item)) => some item.id
  | _ => none

@[simp] theorem addedId?_error (request : Request) (e : QueueError) :
    addedId? (request, request.error e) = none := by
  cases request <;> rfl

@[simp] theorem takenId?_error (request : Request) (e : QueueError) :
    takenId? (request, request.error e) = none := by
  cases request <;> rfl

/-- How the counters of a handle can move, with the id given out or taken in doing so. -/
inductive Advance (q q' : Queue) : Option UInt64 → Option UInt64 → Prop where
  | still (head : q'.head = q.head) (tail : q'.tail = q.tail) : Advance q q' none none
  | back (room : q.tail ≠ greatestId) (head : q'.head = q.head) (tail : q'.tail = q.tail + 1) :
      Advance q q' (some (q.tail + 1)) none
  | front (something : q.head < q.tail) (head : q'.head = q.head + 1) (tail : q'.tail = q.tail) :
      Advance q q' none (some (q.head + 1))

namespace Advance

variable {q q' : Queue} {added taken : Option UInt64} {id : UInt64}

/-- The counters stay or one of them goes up by one. -/
theorem moved (h : Advance q q' added taken) :
    (q'.head.toNat = q.head.toNat ∧ q'.tail.toNat = q.tail.toNat) ∨
      (q'.head.toNat = q.head.toNat + 1 ∧ q'.tail.toNat = q.tail.toNat) ∨
      (q'.head.toNat = q.head.toNat ∧ q'.tail.toNat = q.tail.toNat + 1) := by
  cases h with
  | still head tail => exact Or.inl ⟨by rw [head], by rw [tail]⟩
  | back room head tail => exact Or.inr (Or.inr ⟨by rw [head], by rw [tail, toNat_add_one room]⟩)
  | front something head tail =>
    exact Or.inr (Or.inl ⟨by rw [head, Queue.toNat_succ_of_lt something], by rw [tail]⟩)

theorem ordered (h : Advance q q' added taken) (ordered : q.head ≤ q.tail) : q'.head ≤ q'.tail := by
  rw [UInt64.le_iff_toNat_le] at ordered ⊢
  cases h with
  | still head tail => rwa [head, tail]
  | back room head tail =>
    rw [head, tail, toNat_add_one room]
    exact Nat.le_succ_of_le ordered
  | front something head tail =>
    rw [head, tail, Queue.toNat_succ_of_lt something]
    rwa [UInt64.lt_iff_toNat_lt] at something

theorem of_added (h : Advance q q' (some id) taken) :
    id.toNat = q.tail.toNat + 1 ∧ q'.tail = id := by
  cases h with
  | back room head tail => exact ⟨toNat_add_one room, tail⟩

theorem of_taken (h : Advance q q' added (some id)) :
    id.toNat = q.head.toNat + 1 ∧ id ≤ q.tail ∧ q'.head = id := by
  cases h with
  | front something head tail =>
    have next := Queue.toNat_succ_of_lt something
    refine ⟨next, ?_, head⟩
    rw [UInt64.le_iff_toNat_le, next]
    rwa [UInt64.lt_iff_toNat_lt] at something

end Advance

section Steps

variable {σ : Type} [OrderedStore σ] {q : Queue} {s : σ} {request : Request} {turn : Turn σ}

/-- A request moves one counter at most, by one, and exactly if it gives out or takes an id. -/
theorem Ran.advance (h : Ran q s request turn) :
    Advance q turn.queue (addedId? (request, turn.reply)) (takenId? (request, turn.reply)) := by
  cases h with
  | refused about cause =>
    rw [addedId?_error, takenId?_error]
    exact .still rfl rfl
  | stopped about opened cause =>
    rw [addedId?_error, takenId?_error]
    exact .still rfl rfl
  | added room opened put => exact .back room rfl rfl
  | taken something opened get delete => exact .front something rfl rfl
  | shown stays opened sought above upto get =>
    cases request with
    | add payload => cases sought
    | take => exact absurd rfl stays
    | _ => exact .still rfl rfl
  | revised opened above upto put => exact .still rfl rfl
  | counted => exact .still rfl rfl
  | closed closed => cases closed <;> exact .still rfl rfl

/-- One operation in exact numbers: the length is a difference, the counters move by one at most, the
ids named are sums. -/
structure ExactTurn (q : Queue) (request : Request) (turn : Turn σ) : Prop where
  length : q.head.toNat + q.length.toNat = q.tail.toNat
  ordered : turn.queue.head ≤ turn.queue.tail
  moved : (turn.queue.head.toNat = q.head.toNat ∧ turn.queue.tail.toNat = q.tail.toNat) ∨
    (turn.queue.head.toNat = q.head.toNat + 1 ∧ turn.queue.tail.toNat = q.tail.toNat) ∨
    (turn.queue.head.toNat = q.head.toNat ∧ turn.queue.tail.toNat = q.tail.toNat + 1)
  added : ∀ id, addedId? (request, turn.reply) = some id →
    id.toNat = q.tail.toNat + 1 ∧ turn.queue.tail = id
  /-- at the greatest id, nothing can be put in -/
  full : ∀ payload, request = .add payload → q.tail = greatestId → ∃ e, turn.reply = .item (.error e)
  taken : ∀ id, takenId? (request, turn.reply) = some id →
    id.toNat = q.head.toNat + 1 ∧ id ≤ q.tail ∧ turn.queue.head = id
  shown : ∀ n item, request.sought? q = some n → turn.reply = .item (.ok item) → item.id.toNat = n
  /-- a place beyond every id is reported as the greatest id -/
  outside : ∀ n id head tail, request.sought? q = some n →
    turn.reply = .item (.error (.outOfBounds id head tail)) → id.toNat = min n greatestId.toNat

theorem Queue.toNat_length {q : Queue} (ordered : q.head ≤ q.tail) :
    q.head.toNat + q.length.toNat = q.tail.toNat := by
  unfold Queue.length
  rw [UInt64.toNat_sub_of_le _ _ ordered]
  rw [UInt64.le_iff_toNat_le] at ordered
  omega

theorem Ran.full (h : Ran q s request turn) {payload : Except QueueError Bytes}
    (adds : request = .add payload) (full : q.tail = greatestId) :
    ∃ e, turn.reply = .item (.error e) := by
  subst adds
  cases h with
  | refused about cause => exact ⟨_, rfl⟩
  | stopped about opened cause => exact ⟨_, rfl⟩
  | added room opened put => exact absurd full room
  | shown stays opened sought above upto get => cases sought

theorem Ran.shown_exact (h : Ran q s request turn) {n : Nat} (sought : request.sought? q = some n)
    {item : Item} (reply : turn.reply = .item (.ok item)) : item.id.toNat = n := by
  cases h with
  | refused about cause => cases request <;> cases reply
  | stopped about opened cause => cases request <;> cases reply
  | added room opened put => cases sought
  | taken something opened get delete =>
    cases reply
    cases sought
    exact Queue.toNat_succ_of_lt something
  | shown stays opened sought' above upto get =>
    cases reply
    exact Option.some.inj (sought'.symm.trans sought)
  | revised opened above upto put => cases sought
  | counted => cases sought
  | closed closed => cases sought

theorem Ran.outside_exact (h : Ran q s request turn) {n : Nat} (sought : request.sought? q = some n)
    {id head tail : UInt64} (reply : turn.reply = .item (.error (.outOfBounds id head tail))) :
    id.toNat = min n greatestId.toNat := by
  cases h with
  | refused about cause =>
    have same := Request.error_inj reply
    cases cause with
    | lookUp sought' cause =>
      cases cause with
      | outOfBounds opened something reported out =>
        cases same
        cases sought'.symm.trans sought
        exact reported
      | _ => cases same
    | _ => cases sought
  | stopped about opened cause =>
    have same := Request.error_inj reply
    cases cause <;> cases same
  | added room opened put => cases reply
  | taken something opened get delete => cases reply
  | shown stays opened sought' above upto get => cases reply
  | revised opened above upto put => cases sought
  | counted => cases sought
  | closed closed => cases sought

theorem Ran.exact (h : Ran q s request turn) (ordered : q.head ≤ q.tail) :
    ExactTurn q request turn := by
  have advance := h.advance
  refine ⟨Queue.toNat_length ordered, advance.ordered ordered, advance.moved, ?_, fun _ => h.full, ?_,
    fun _ _ sought => h.shown_exact sought, fun _ _ _ _ sought => h.outside_exact sought⟩
  · intro id added
    rw [added] at advance
    exact advance.of_added
  · intro id taken
    rw [taken] at advance
    exact advance.of_taken

end Steps

/-! ## Runs -/

namespace Queue

variable {σ : Type} [OrderedStore σ]

/-- The handle after some operations. Each comes with the state in which it finds the store, which need
not be the one that the operation before has left. -/
def afterAll (q : Queue) (steps : List (Operation × σ)) : Queue :=
  steps.foldl (fun q step => (step.1.run q step.2).queue) q

/-- The requests of some operations with the replies to them. -/
def answers (q : Queue) : List (Operation × σ) → List (Request × Reply)
  | [] => []
  | (op, s) :: steps => (op.request, (op.run q s).reply) :: (op.run q s).queue.answers steps

/-- The ids given out at the back, in order. -/
def addedIds (q : Queue) (steps : List (Operation × σ)) : List UInt64 :=
  (q.answers steps).filterMap addedId?

/-- The ids taken from the front, in order. -/
def takenIds (q : Queue) (steps : List (Operation × σ)) : List UInt64 :=
  (q.answers steps).filterMap takenId?

/-- Some ids are numbered through from the one after a counter up to another. -/
def Numbered (first last : UInt64) (ids : List UInt64) : Prop :=
  ids.map UInt64.toNat = List.range' (first.toNat + 1) ids.length ∧
    last.toNat = first.toNat + ids.length

theorem Numbered.nodup {first last : UInt64} {ids : List UInt64} (h : Numbered first last ids) :
    ids.Nodup := by
  have numbers : (ids.map UInt64.toNat).Nodup := by
    rw [h.1]
    exact List.nodup_range' 1
  refine List.Pairwise.of_map UInt64.toNat ?_ numbers
  intro a b differ same
  exact differ (congrArg UInt64.toNat same)

theorem Numbered.nil (id : UInt64) : Numbered id id [] := ⟨rfl, rfl⟩

theorem Numbered.cons {first next last : UInt64} {ids : List UInt64}
    (exact : next.toNat = first.toNat + 1) (h : Numbered next last ids) :
    Numbered first last (next :: ids) := by
  obtain ⟨numbers, total⟩ := h
  rw [exact] at numbers total
  refine ⟨?_, ?_⟩
  · rw [List.map_cons, List.length_cons, List.range'_succ, exact, numbers]
  · rw [List.length_cons]
    omega

/-- What a run of operations does to the counters. -/
structure Counts (q last : Queue) (added taken : List UInt64) : Prop where
  ordered : last.head ≤ last.tail
  added : Numbered q.tail last.tail added
  taken : Numbered q.head last.head taken

theorem run_counts {q : Queue} (ordered : q.head ≤ q.tail) (steps : List (Operation × σ)) :
    Counts q (q.afterAll steps) (q.addedIds steps) (q.takenIds steps) := by
  induction steps generalizing q with
  | nil => exact ⟨ordered, .nil _, .nil _⟩
  | cons step steps ih =>
    obtain ⟨op, s⟩ := step
    have advance := (op.ran_any q s).advance
    obtain ⟨ordered', added, taken⟩ := ih (advance.ordered ordered)
    unfold addedIds takenIds answers
    rw [List.filterMap_cons, List.filterMap_cons]
    change Counts q ((op.run q s).queue.afterAll steps) _ _
    generalize addedId? (op.request, (op.run q s).reply) = given at advance ⊢
    generalize takenId? (op.request, (op.run q s).reply) = got at advance ⊢
    cases advance with
    | still head tail =>
      rw [tail] at added
      rw [head] at taken
      exact ⟨ordered', added, taken⟩
    | back room head tail =>
      rw [tail] at added
      rw [head] at taken
      exact ⟨ordered', added.cons (toNat_add_one room), taken⟩
    | front something head tail =>
      rw [tail] at added
      rw [head] at taken
      exact ⟨ordered', added, taken.cons (toNat_succ_of_lt something)⟩

/-- On any store whatsoever, from counters in order: they stay in order, the ids given out and those
taken are numbered through, so none comes twice, and whatever is called next is exact. -/
theorem counters_safe {q : Queue} (ordered : q.head ≤ q.tail) (steps : List (Operation × σ)) :
    Counts q (q.afterAll steps) (q.addedIds steps) (q.takenIds steps) ∧
      (q.addedIds steps).Nodup ∧ (q.takenIds steps).Nodup ∧
      ∀ (op : Operation) (s : σ), ExactTurn (q.afterAll steps) op.request (op.run (q.afterAll steps) s) := by
  have counts := run_counts ordered steps
  refine ⟨counts, counts.added.nodup, counts.taken.nodup, ?_⟩
  intro op s
  exact (op.ran_any _ s).exact counts.ordered

/-- One id is left at the back. The store forgets the front and then has it again. -/
theorem counters_safe_near_limit :
    let q : Queue := ⟨"q", true, 4, greatestId - 1⟩
    let steps : List (Operation × Table) := [(.enqueue [1], .empty), (.enqueue [2], .empty),
      (.dequeue, .empty), (.dequeue, Table.empty.insert (Key.encode 5) [7]), (.close, .empty)]
    q.addedIds steps = [greatestId] ∧ q.takenIds steps = [5] ∧
      Counts q (q.afterAll steps) (q.addedIds steps) (q.takenIds steps) ∧
      (q.addedIds steps).Nodup ∧ (q.takenIds steps).Nodup ∧
      ∀ (op : Operation) (s : Table), ExactTurn (q.afterAll steps) op.request (op.run (q.afterAll steps) s) := by
  intro q steps
  have ordered : q.head ≤ q.tail := by decide
  exact ⟨by decide, by decide, counters_safe ordered steps⟩

end Queue

end DurableQueue
