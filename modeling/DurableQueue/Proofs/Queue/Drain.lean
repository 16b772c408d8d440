import Mathlib.Data.List.SplitBy
import DurableQueue.Proofs.Queue.Listed
import DurableQueue.Proofs.Queue.Session

/-!
# Draining a table with gaps

Draining takes out the items from the least id on, as long as their ids are consecutive
(`Queue.dequeueUpTo_run`). At the first gap the front of the queue is a key that is not there. Opening the
table again goes on after the gap, so every round of opening and draining takes out one run of consecutive ids
(`FirstRun.drainRounds_succ`), and the table is empty after as many rounds as there are runs
(`Queue.drainRounds_lists`).
-/

namespace DurableQueue

/-! ## Items of a list -/

/-- The entries of a list as the items that a queue hands out. -/
def itemsOf (entries : List (UInt64 × Bytes)) : List Item := entries.map fun e => Item.ofId e.1 e.2

theorem mem_itemsOf {items : List (UInt64 × Bytes)} {item : Item} :
    item ∈ itemsOf items ↔ item.key = Key.encode item.id ∧ (item.id, item.value) ∈ items := by
  rw [itemsOf, List.mem_map]
  constructor
  · rintro ⟨e, mem, rfl⟩
    exact ⟨rfl, mem⟩
  · rintro ⟨same, mem⟩
    refine ⟨_, mem, ?_⟩
    rw [Item.ofId, ← same]

/-- Does the id of the second item come next after that of the first? -/
def Item.precedes (a b : Item) : Bool := a.id.toNat + 1 == b.id.toNat

namespace Consecutive

variable {head last : UInt64} {run : List (UInt64 × Bytes)}

theorem map_id (h : Consecutive head run last) :
    (itemsOf run).map (·.id.toNat) = List.range' (head.toNat + 1) run.length := by
  induction run generalizing head with
  | nil => rfl
  | cons item run ih =>
    have rest := ih h.2
    rw [h.1] at rest
    rw [itemsOf, List.map_cons, List.map_cons, List.length_cons, List.range'_succ, ← rest]
    exact congrArg (· :: _) h.1

theorem isChain (h : Consecutive head run last) : (itemsOf run).IsChain fun a b => a.precedes b := by
  induction run generalizing head with
  | nil => exact .nil
  | cons item run ih =>
    cases run with
    | nil => exact .singleton _
    | cons next run =>
      refine .cons_cons ?_ (ih h.2)
      simpa [Item.precedes, Item.ofId] using h.2.1.symm

theorem id_getLast (h : Consecutive head run last) {item : Item} (mem : item ∈ (itemsOf run).getLast?) :
    item.id = last := by
  induction run generalizing head with
  | nil => cases mem
  | cons first run ih =>
    cases run with
    | nil =>
      obtain rfl : Item.ofId first.1 first.2 = item := by simpa [itemsOf] using mem
      exact h.2
    | cons next run => exact ih h.2 (by simpa [itemsOf] using mem)

/-- Up to the first gap there is one run. -/
theorem splitBy_append (h : Consecutive head run last) (something : run ≠ []) {rest : List (UInt64 × Bytes)}
    (gap : ∀ item ∈ rest, last.toNat + 1 < item.1.toNat) :
    (itemsOf (run ++ rest)).splitBy Item.precedes = itemsOf run :: (itemsOf rest).splitBy Item.precedes := by
  have apart : ∀ a ∈ (itemsOf run).getLast?, ∀ b ∈ (itemsOf rest).head?, a.precedes b = false := by
    intro a final b first
    obtain ⟨item, mem, rfl⟩ := List.mem_map.1 (List.mem_of_mem_head? first)
    have beyond := gap item mem
    rw [← h.id_getLast final] at beyond
    simpa [Item.precedes, Item.ofId] using Nat.ne_of_lt beyond
  have whole : (itemsOf run).splitBy Item.precedes = [itemsOf run] :=
    List.splitBy_of_isChain (by simpa [itemsOf] using something) h.isChain
  rw [itemsOf, List.map_append]
  exact (List.splitBy_append apart).trans (by rw [whole]; rfl)

end Consecutive

/-- The number is the id of a key in the table. -/
def Table.HasId (t : Table) (n : Nat) : Prop :=
  ∃ id : UInt64, id.toNat = n ∧ (t.get? (Key.encode id)).isSome

/-- The ids of the keys are those of the items. -/
theorem Lists.hasId_iff {t : Table} {low : UInt64} {items : List (UInt64 × Bytes)}
    (h : Lists t low items) (n : Nat) : t.HasId n ↔ ∃ item ∈ items, item.1.toNat = n := by
  simp only [Table.HasId, Option.isSome_iff_exists, h.holds.get?_encode_iff]
  constructor
  · rintro ⟨id, rfl, payload, mem⟩
    exact ⟨_, mem, rfl⟩
  · rintro ⟨item, mem, rfl⟩
    exact ⟨item.1, rfl, item.2, mem⟩

/-- After the items up to the first gap, the next key is not there. -/
theorem Lists.get?_gap {t : Table} {last : UInt64} {rest : List (UInt64 × Bytes)} (h : Lists t last rest)
    (gap : ∀ item ∈ rest, last.toNat + 1 < item.1.toNat) : t.get? (Key.encode (last + 1)) = none := by
  cases found : t.get? (Key.encode (last + 1)) with
  | none => rfl
  | some value =>
    have mem := h.holds.get?_encode_iff.1 found
    have above := h.rising.above mem
    have beyond := gap _ mem
    rw [Queue.toNat_succ_of_lt above] at beyond
    exact absurd beyond (Nat.lt_irrefl _)

namespace Queue

/-! ## The front of a table -/

section Front

variable {q : Queue} {t : Table}

/-- Why nothing comes out at the front: nothing is left, or the next key is not there. -/
def frontFault (q : Queue) : QueueError :=
  if q.head = q.tail then .empty else .storage (.keyNotFound (Key.encode (q.head + 1)).toHex)

theorem front_missing (opened : q.isOpen = true) (ordered : q.head ≤ q.tail)
    (missing : t.get? (Key.encode (q.head + 1)) = none) : q.itemByOffset 1 t = (.error q.frontFault, t) := by
  have cases := front ordered t
  unfold frontFault
  generalize q.itemByOffset 1 t = reply at cases ⊢
  cases cases with
  | closed shut => rw [opened] at shut; cases shut
  | empty _ nothing => rw [if_pos nothing]
  | failed _ _ get => cases get
  | missing _ something get =>
    obtain ⟨-, rfl⟩ := Prod.mk.inj get
    rw [if_neg (UInt64.ne_of_lt something)]
  | found _ _ get =>
    rw [Table.get_def, missing] at get
    cases get

theorem dequeue_of_front {e : QueueError} (refused : q.itemByOffset 1 t = (.error e, t)) :
    q.dequeue t = ⟨.error e, q, t, []⟩ := by
  unfold dequeue
  rw [refused]

end Front

/-! ## One drain -/

/-- Taking out at least as many items as there are up to the first gap, and one more, takes out these, and
stops there. -/
theorem dequeueUpTo_run {q : Queue} {t : Table} {run rest : List (UInt64 × Bytes)} {last : UInt64} {n : Nat}
    (opened : q.isOpen = true) (h : Lists t q.head (run ++ rest)) (ids : Consecutive q.head run last)
    (gap : ∀ item ∈ rest, last.toNat + 1 < item.1.toNat) (upto : last ≤ q.tail) (enough : run.length < n) :
    ∃ t' events, Lists t' last rest ∧ q.dequeueUpTo n t =
      (itemsOf run, ⟨.error { q with head := last }.frontFault, { q with head := last }, t', events⟩) := by
  obtain ⟨n, rfl⟩ := Nat.exists_eq_add_of_lt enough
  clear enough
  rw [Nat.add_assoc]
  induction run generalizing q t with
  | nil =>
    obtain rfl : q.head = last := ids
    have stuck := dequeue_of_front (front_missing opened upto (h.get?_gap gap))
    refine ⟨t, [], h, ?_⟩
    rw [List.length_nil, Nat.zero_add, dequeueUpTo]
    dsimp only
    rw [stuck]
    rfl
  | cons item run ih =>
    obtain ⟨id, value⟩ := item
    have stored := h.holds.get?_encode_iff.2 List.mem_cons_self
    have taken := dequeue_stored opened ids.1 (UInt64.le_trans ids.2.le upto) stored
    obtain ⟨t', events, h', rest'⟩ := ih (q := { q with head := id }) opened h.taken ids.2 upto
    refine ⟨t', .dequeued id :: events, h', ?_⟩
    rw [List.length_cons, Nat.add_right_comm, dequeueUpTo]
    dsimp only
    rw [taken]
    dsimp only
    rw [rest']
    rfl

theorem drain_run {q : Queue} {t : Table} {run rest : List (UInt64 × Bytes)} {last : UInt64}
    (opened : q.isOpen = true) (h : Lists t q.head (run ++ rest)) (ids : Consecutive q.head run last)
    (gap : ∀ item ∈ rest, last.toNat + 1 < item.1.toNat) (upto : last ≤ q.tail) :
    ∃ t' events, Lists t' last rest ∧ q.drain t =
      (itemsOf run, ⟨.error { q with head := last }.frontFault, { q with head := last }, t', events⟩) := by
  apply dequeueUpTo_run opened h ids gap upto
  -- no run is longer than the range of live ids
  have size := ids.toNat_tail
  have le := UInt64.le_iff_toNat_le.1 upto
  have ordered : q.head ≤ q.tail := UInt64.le_trans ids.le upto
  rw [length, UInt64.toNat_sub_of_le _ _ ordered]
  omega

/-! ## Rounds of opening and draining -/

section Rounds

variable {σ : Type} [OrderedStore σ]

/-- Opens the store and drains it, some times over: the items of each round. -/
def drainRounds (location : String) : Nat → σ → Except QueueError (List (List Item)) × σ
  | 0, s => (.ok [], s)
  | n + 1, s =>
    match ofStore location s with
    | (.error e, s, _) => (.error e, s)
    | (.ok q, s, _) =>
      let (items, last) := q.drain s
      let (rounds, s) := drainRounds location n last.storage
      (rounds.map (items :: ·), s)

theorem dequeueUpTo_map {τ : Type} [OrderedStore τ] {π : τ → σ} (hom : StoreHom π) (q : Queue) (n : Nat)
    (s : τ) : q.dequeueUpTo n (π s) = Prod.map id (Outcome.mapStorage π) (q.dequeueUpTo n s) := by
  induction n generalizing q s with
  | zero => rfl
  | succ n ih =>
    rw [dequeueUpTo, dequeueUpTo, dequeue_map hom]
    obtain ⟨result, q', s', events⟩ := q.dequeue s
    cases result with
    | error e => rfl
    | ok item =>
      dsimp only [Outcome.mapStorage]
      rw [ih]
      rfl

theorem drainRounds_map {τ : Type} [OrderedStore τ] {π : τ → σ} (hom : StoreHom π) (location : String)
    (n : Nat) (s : τ) : drainRounds location n (π s) = Prod.map id π (drainRounds location n s) := by
  induction n generalizing s with
  | zero => rfl
  | succ n ih =>
    rw [drainRounds, drainRounds, ofStore_map hom.toReadHom]
    rcases ofStore location s with ⟨e | q, s', events⟩
    · rfl
    · dsimp only [Prod.map, id]
      rw [drain, drain, dequeueUpTo_map hom]
      dsimp only [Prod.map, id, Outcome.mapStorage]
      rw [ih]
      rfl

end Rounds

/-- What opening a table that lists some items and draining it once comes to: the handle opened, the run of
items taken out, the rest of them, the id of the last one taken, and the table afterwards. -/
structure FirstRun (location : String) (t : Table) (items : List (UInt64 × Bytes)) (q : Queue)
    (run rest : List (UInt64 × Bytes)) (last : UInt64) (after : Table) : Prop where
  opens : (ofStore location t).1 = .ok q
  untouched : (ofStore location t).2.1 = t
  split : items = run ++ rest
  something : run ≠ []
  ids : Consecutive q.head run last
  gap : ∀ item ∈ rest, last.toNat + 1 < item.1.toNat
  all : rest = [] ↔ last = q.tail
  items : (q.drain t).1 = itemsOf run
  result : (q.drain t).2.result = .error { q with head := last }.frontFault
  queue : (q.drain t).2.queue = { q with head := last }
  storage : (q.drain t).2.storage = after
  lists : Lists after last rest
  stuck : ({ q with head := last } : Queue).itemByOffset 1 after =
    (.error ({ q with head := last } : Queue).frontFault, after)

theorem exists_firstRun {t : Table} {items : List (UInt64 × Bytes)} (h : Lists t 0 items)
    (something : items ≠ []) (location : String) :
    ∃ q run rest last after, FirstRun location t items q run rest last after := by
  obtain ⟨⟨id, value⟩, entries, rfl⟩ := List.exists_cons_of_ne_nil something
  have opens := ofStore_of_lists h location
  have greatest {i : UInt64} {payload : Bytes} (mem : (i, payload) ∈ (id, value) :: entries) :=
    h.rising.le_getLast something mem
  have final : ∃ payload, ((((id, value) :: entries).getLast something).1, payload) ∈ (id, value) :: entries :=
    ⟨_, List.getLast_mem something⟩
  generalize (((id, value) :: entries).getLast something).1 = tail at opens greatest final
  have pos : 0 < id.toNat := UInt64.lt_iff_toNat_lt.1 h.rising.1
  have one : (1 : UInt64) ≤ id := UInt64.le_iff_toNat_le.2 pos
  have before : (id - 1).toNat + 1 = id.toNat := by
    rw [UInt64.toNat_sub_of_le _ _ one]
    exact Nat.sub_add_cancel pos
  have lists : Lists t (id - 1) ((id, value) :: entries) :=
    ⟨⟨UInt64.lt_iff_toNat_lt.2 (by omega), h.rising.2⟩, h.holds⟩
  obtain ⟨run, rest, last, split, ids, -, gap⟩ := lists.rising.exists_run
  have first : run ≠ [] := by
    rintro rfl
    obtain rfl : id - 1 = last := ids
    obtain rfl : (id, value) :: entries = rest := split
    exact absurd (gap _ List.mem_cons_self) (by dsimp only; omega)
  rw [split] at lists greatest final
  have upto : last ≤ tail := by
    have size := ids.toNat_tail
    have long := List.length_pos_iff.2 first
    obtain ⟨payload, mem⟩ := ids.exists_mem (UInt64.lt_iff_toNat_lt.2 (by omega)) (UInt64.le_refl last)
    exact greatest (List.mem_append_left rest mem)
  obtain ⟨after, events, lists', drained⟩ :=
    drain_run (q := ⟨location, true, id - 1, tail⟩) rfl lists ids gap upto
  refine ⟨_, run, rest, last, after, by rw [opens], by rw [opens], split, first, ids, gap, ⟨?all, ?none⟩,
    by rw [drained], by rw [drained], by rw [drained], by rw [drained], lists',
    front_missing rfl upto (lists'.get?_gap gap)⟩
  case all =>
    rintro rfl
    obtain ⟨payload, mem⟩ := final
    rw [List.append_nil] at mem
    exact UInt64.le_antisymm upto (ids.live_of_mem mem).2
  case none =>
    rintro rfl
    by_contra more
    obtain ⟨⟨i, payload⟩, mem⟩ := List.exists_mem_of_ne_nil rest more
    have le := UInt64.le_iff_toNat_le.1 (greatest (List.mem_append_right run mem))
    have beyond := gap _ mem
    dsimp only at beyond
    omega

/-- One round takes out the first run, and the others go on with the rest. -/
theorem FirstRun.drainRounds_succ {location : String} {t : Table} {items : List (UInt64 × Bytes)} {q : Queue}
    {run rest : List (UInt64 × Bytes)} {last : UInt64} {after : Table}
    (h : FirstRun location t items q run rest last after) (n : Nat) :
    drainRounds location (n + 1) t =
      ((drainRounds location n after).1.map (itemsOf run :: ·), (drainRounds location n after).2) := by
  have opens := h.opens
  have untouched := h.untouched
  rw [drainRounds]
  generalize ofStore location t = reply at opens untouched
  obtain ⟨result, t', events⟩ := reply
  obtain rfl : result = .ok q := opens
  obtain rfl : t' = t := untouched
  dsimp only
  rw [h.storage, h.items]

theorem drainRounds_lists {t : Table} {items : List (UInt64 × Bytes)} (h : Lists t 0 items)
    (location : String) :
    let runs := (itemsOf items).splitBy Item.precedes
    drainRounds location runs.length t = (.ok runs, .empty) ∧
      ∀ n < runs.length, (drainRounds location n t).2 ≠ .empty := by
  by_cases nothing : items = []
  · subst nothing
    rw [h.eq_empty]
    exact ⟨rfl, nofun⟩
  · obtain ⟨q, run, rest, last, after, first⟩ := exists_firstRun h nothing location
    have long := List.length_pos_iff.2 first.something
    have shorter : rest.length < items.length := by
      rw [first.split, List.length_append]
      omega
    obtain ⟨rounds, before⟩ := drainRounds_lists (first.lists.mono UInt64.zero_le) location
    dsimp only
    rw [first.split, first.ids.splitBy_append first.something first.gap, List.length_cons]
    constructor
    · rw [first.drainRounds_succ, rounds]
      rfl
    · intro n fewer
      cases n with
      | zero => exact h.ne_empty nothing
      | succ n =>
        rw [first.drainRounds_succ]
        exact before n (Nat.lt_of_succ_lt_succ fewer)
termination_by items.length

end Queue

end DurableQueue
