import DurableQueue.Proofs.Queue.Drain

/-!
# Rounds of opening and draining

What a program sees that opens a reliable store and takes out items until a call fails, once
(`DrainedOnce`) and round after round (`DrainedInRounds`). After one drain the queue is stuck: no look and no
taking out moves it (`Session.stuck`). `drained_in_order` says that it goes so with every store whose keys are
those of ids above 0, whatever gaps there are among them.
-/

namespace DurableQueue

open LawfulStore (content)

section Reliable

variable {σ : Type} [OrderedStore σ] [ReliableStore σ]

/-- A handle whose front is refused answers every look and every taking out with the same fault, and neither
the handle nor the content changes. -/
theorem Session.stuck {q : Queue} {s : σ} {e : QueueError}
    (front : q.itemByOffset 1 (content s) = (.error e, content s)) {calls : List Call}
    (looks : ∀ call ∈ calls, call = .on .dequeue ∨ call = .on .peek) :
    let now : Session σ := ⟨some q, s⟩
    now.replies calls = List.replicate calls.length (.item (.error e)) ∧
      (now.after calls).handle = some q ∧ content (now.after calls).storage = content s := by
  induction calls generalizing s with
  | nil => exact ⟨rfl, rfl, rfl⟩
  | cons call calls ih =>
    -- on the store, the refusal leaves another state of the same content
    have asked := Queue.itemByOffset_map ReliableStore.hom.toReadHom q s 1
    obtain ⟨answer, s', refused⟩ : ∃ answer s', q.itemByOffset 1 s = (answer, s') := ⟨_, _, rfl⟩
    rw [refused] at asked
    obtain ⟨rfl, same⟩ := Prod.mk.inj (front.symm.trans asked)
    change content s = content s' at same
    have performed : (⟨some q, s⟩ : Session σ).perform call = (.item (.error e), ⟨some q, s'⟩, []) := by
      rcases looks call List.mem_cons_self with rfl | rfl
      · simp [Session.perform, Operation.run, Queue.dequeue, refused, Outcome.turn]
      · simp [Session.perform, Operation.run, Queue.peek, refused, Queue.answer, Outcome.turn]
    have next : (⟨some q, s⟩ : Session σ).next call = ⟨some q, s'⟩ := by
      rw [Session.next, performed]
    obtain ⟨replies, handle, kept⟩ :=
      ih (same ▸ front) fun later mem => looks later (List.mem_cons_of_mem _ mem)
    dsimp only
    rw [Session.replies, Session.after, List.foldl_cons, performed, next, replies]
    exact ⟨rfl, handle, kept.trans same.symm⟩

namespace Queue

/-- What opening a store once and draining it comes to: the handle opened, the error that ends the drain, and
the ends of the first run, the second of them outside. -/
structure DrainedOnce (location : String) (s : σ) (q : Queue) (f g : Nat) (e : QueueError) : Prop where
  /-- the run begins with the least id -/
  least : (content s).HasId f ∧ ∀ n, (content s).HasId n → f ≤ n
  /-- it goes on up to the first number that is not the id of a key -/
  gap : f < g ∧ (∀ n, f ≤ n → n < g → (content s).HasId n) ∧ ¬ (content s).HasId g
  opens : (ofStore location s).1 = .ok q
  /-- the ids of the run come out in order -/
  ids : (q.drain (ofStore location s).2.1).1.map (·.id.toNat) = List.range' f (g - f)
  /-- every item comes out as it was stored -/
  items : ∀ item ∈ (q.drain (ofStore location s).2.1).1,
    item.key = Key.encode item.id ∧ (content s).get? item.key = some item.value
  result : (q.drain (ofStore location s).2.1).2.result = .error e
  /-- the drain ends for lack of items if there is no greater id -/
  empty : (∀ n, (content s).HasId n → n < g) → e = .empty
  /-- and otherwise for lack of the next key -/
  missing : (∃ n, (content s).HasId n ∧ g < n) →
    e = .storage (.keyNotFound (Key.encode (UInt64.ofNat g)).toHex)
  /-- the queue is stuck there -/
  stuck : ∀ calls : List Call, (∀ call ∈ calls, call = .on .dequeue ∨ call = .on .peek) →
    let last := (q.drain (ofStore location s).2.1).2
    let now : Session σ := ⟨some last.queue, last.storage⟩
    now.replies calls = List.replicate calls.length (.item (.error e)) ∧
      (now.after calls).handle = some last.queue

/-- What opening a store and draining it, round after round, comes to: all items, run by run. -/
structure DrainedInRounds (location : String) (s : σ) (all : List Item) : Prop where
  rising : all.Pairwise (·.id < ·.id)
  /-- the items are the entries of the store, each under the key of its id -/
  entries : ∀ item, item ∈ all ↔ item.key = Key.encode item.id ∧ (content s).get? item.key = some item.value
  /-- every round takes out one run of consecutive ids -/
  rounds : (drainRounds location (all.splitBy Item.precedes).length s).1 = .ok (all.splitBy Item.precedes)
  /-- then the store is empty -/
  emptied : content (drainRounds location (all.splitBy Item.precedes).length s).2 = .empty
  /-- and no sooner -/
  before : ∀ n < (all.splitBy Item.precedes).length, content (drainRounds location n s).2 ≠ .empty

namespace FirstRun

variable {location : String} {t : Table} {items : List (UInt64 × Bytes)} {q : Queue}
  {run rest : List (UInt64 × Bytes)} {last : UInt64} {after : Table}

/-- The ids of the keys are those of the run and, beyond a gap, those of the rest. -/
theorem hasId_iff (h : FirstRun location t items q run rest last after) {low : UInt64}
    (listed : Lists t low items) (n : Nat) :
    t.HasId n ↔ (q.head.toNat < n ∧ n ≤ last.toNat) ∨ ∃ item ∈ rest, item.1.toNat = n := by
  rw [listed.hasId_iff, h.split]
  simp only [List.mem_append, or_and_right, exists_or]
  apply or_congr_left
  constructor
  · rintro ⟨⟨id, payload⟩, mem, rfl⟩
    have live := h.ids.live_of_mem mem
    rwa [UInt64.lt_iff_toNat_lt, UInt64.le_iff_toNat_le] at live
  · rintro ⟨above, upto⟩
    have small : (UInt64.ofNat n).toNat = n :=
      UInt64.toNat_ofNat_of_lt' (Nat.lt_of_le_of_lt upto last.toNat_lt_size)
    obtain ⟨payload, mem⟩ := h.ids.exists_mem (UInt64.lt_iff_toNat_lt.2 (by omega))
      (UInt64.le_iff_toNat_le.2 (small.symm ▸ upto))
    exact ⟨_, mem, small⟩

theorem fault_of_all (h : FirstRun location t items q run rest last after) {low : UInt64}
    (listed : Lists t low items) (all : ∀ n, t.HasId n → n < last.toNat + 1) :
    ({ q with head := last } : Queue).frontFault = .empty := by
  have none : rest = [] := by
    apply List.eq_nil_iff_forall_not_mem.2
    intro item mem
    have beyond := h.gap item mem
    have below := all _ ((h.hasId_iff listed _).2 (Or.inr ⟨item, mem, rfl⟩))
    omega
  exact if_pos (h.all.1 none)

theorem fault_of_more (h : FirstRun location t items q run rest last after) {low : UInt64}
    (listed : Lists t low items) (more : ∃ n, t.HasId n ∧ last.toNat + 1 < n) :
    ({ q with head := last } : Queue).frontFault =
      .storage (.keyNotFound (Key.encode (UInt64.ofNat (last.toNat + 1))).toHex) := by
  have some : rest ≠ [] := by
    rintro rfl
    obtain ⟨n, stored, beyond⟩ := more
    rcases (h.hasId_iff listed n).1 stored with ⟨-, upto⟩ | ⟨item, mem, -⟩
    · omega
    · cases mem
  have next : UInt64.ofNat (last.toNat + 1) = last + 1 := by
    rw [UInt64.ofNat_add, UInt64.ofNat_toNat]
    rfl
  rw [next]
  exact if_neg fun same => some (h.all.2 same)

/-- The run begins with the least id. -/
theorem least (h : FirstRun location t items q run rest last after) {low : UInt64} (listed : Lists t low items) :
    t.HasId (q.head.toNat + 1) ∧ ∀ n, t.HasId n → q.head.toNat + 1 ≤ n := by
  have size := h.ids.toNat_tail
  have long := List.length_pos_iff.2 h.something
  constructor
  · rw [h.hasId_iff listed]
    omega
  · intro n stored
    rcases (h.hasId_iff listed n).1 stored with ⟨above, -⟩ | ⟨item, mem, rfl⟩
    · omega
    · have := h.gap item mem
      omega

/-- It goes on up to the first number that is not an id. -/
theorem first_gap (h : FirstRun location t items q run rest last after) {low : UInt64}
    (listed : Lists t low items) :
    (∀ n, q.head.toNat + 1 ≤ n → n < last.toNat + 1 → t.HasId n) ∧ ¬ t.HasId (last.toNat + 1) := by
  constructor
  · intro n from_first below_last
    rw [h.hasId_iff listed]
    omega
  · rw [h.hasId_iff listed]
    rintro (⟨-, upto⟩ | ⟨item, mem, same⟩)
    · omega
    · have := h.gap item mem
      omega

/-- Opening and draining a store does to its content what it does to a table. -/
theorem on_store {s : σ} (h : FirstRun location (content s) items q run rest last after) :
    (ofStore location s).1 = .ok q ∧
      q.drain (content s) = Prod.map id (Outcome.mapStorage content) (q.drain (ofStore location s).2.1) := by
  have opened : ofStore location (content s) = Prod.map id (Prod.map content id) (ofStore location s) :=
    ofStore_map ReliableStore.hom.toReadHom s location
  have opens := h.opens
  have kept := h.untouched
  rw [opened] at opens kept
  refine ⟨opens, ?_⟩
  have drained : q.drain (content (ofStore location s).2.1) = _ :=
    dequeueUpTo_map ReliableStore.hom q _ (ofStore location s).2.1
  rwa [show content (ofStore location s).2.1 = content s from kept] at drained

/-- The first drain of a store, told by the run that it takes out of the content. -/
theorem drainedOnce {s : σ} (listed : Lists (content s) 0 items)
    (h : FirstRun location (content s) items q run rest last after) :
    DrainedOnce location s q (q.head.toNat + 1) (last.toNat + 1)
      ({ q with head := last } : Queue).frontFault := by
  obtain ⟨opens, drained⟩ := h.on_store
  have size := h.ids.toNat_tail
  have long := List.length_pos_iff.2 h.something
  have taken : (q.drain (ofStore location s).2.1).1 = itemsOf run := by
    rw [← h.items, drained]
    rfl
  refine ⟨h.least listed, ⟨by omega, h.first_gap listed⟩, opens, ?ids, ?items, ?result, h.fault_of_all listed,
    h.fault_of_more listed, ?stuck⟩
  case ids =>
    rw [taken, h.ids.map_id]
    congr 1
    omega
  case items =>
    intro item mem
    rw [taken, mem_itemsOf] at mem
    refine ⟨mem.1, ?_⟩
    rw [mem.1, listed.holds.get?_encode_iff, h.split]
    exact List.mem_append_left rest mem.2
  case result =>
    rw [← h.result, drained]
    rfl
  case stuck =>
    intro calls looks
    have queue : (q.drain (ofStore location s).2.1).2.queue = { q with head := last } := by
      rw [← h.queue, drained]
      rfl
    have storage : content (q.drain (ofStore location s).2.1).2.storage = after := by
      rw [← h.storage, drained]
      rfl
    have front := h.stuck
    rw [← storage] at front
    dsimp only
    rw [queue]
    obtain ⟨replies, handle, -⟩ := Session.stuck front looks
    exact ⟨replies, handle⟩

end FirstRun

/-- The rounds of a store that lists some items. -/
theorem drainedInRounds {s : σ} {items : List (UInt64 × Bytes)} (listed : Lists (content s) 0 items)
    (location : String) : DrainedInRounds location s (itemsOf items) := by
  have rounds (n : Nat) : drainRounds location n (content s) = Prod.map id content (drainRounds location n s) :=
    drainRounds_map ReliableStore.hom location n s
  obtain ⟨all, before⟩ := drainRounds_lists listed location
  refine ⟨?_, ?_, ?_, ?_, ?_⟩
  · rw [itemsOf, List.pairwise_map]
    exact listed.rising.pairwise
  · intro item
    rw [mem_itemsOf]
    constructor
    · rintro ⟨same, mem⟩
      exact ⟨same, by rwa [same, listed.holds.get?_encode_iff]⟩
    · rintro ⟨same, found⟩
      exact ⟨same, by rwa [same, listed.holds.get?_encode_iff] at found⟩
  · rw [rounds] at all
    exact congrArg Prod.fst all
  · rw [rounds] at all
    exact congrArg Prod.snd all
  · intro n fewer
    have more := before n fewer
    rw [rounds] at more
    exact more

end Queue

/-- A store with any keys of ids above 0, with or without gaps among them, opens, and draining it takes out
the entries from the least id to the first gap, in order, and gets stuck there. Opening and draining it over
and over takes out every entry once, in the order of the ids, in as many rounds as there are runs of
consecutive ids, and leaves the store empty. -/
theorem drained_in_order {s : σ} (gapped : (content s).Gapped) (location : String) :
    (∃ q f g e, Queue.DrainedOnce location s q f g e) ∧ ∃ all, Queue.DrainedInRounds location s all := by
  obtain ⟨id, value, items, listed⟩ := gapped.exists_lists
  obtain ⟨q, run, rest, last, after, first⟩ :=
    Queue.exists_firstRun listed (List.cons_ne_nil _ _) location
  exact ⟨⟨_, _, _, _, first.drainedOnce listed⟩, _, Queue.drainedInRounds listed location⟩

end Reliable

/-- A table with two gaps, whose last key is that of the greatest id. -/
def gappedTable : Table :=
  (((Table.empty.insert (Key.encode 7) [70]).insert (Key.encode greatestId) [99]).insert
    (Key.encode 4) [40]).insert (Key.encode 3) [30]

/-- The first drain ends before id 5, and there are three rounds. -/
theorem drained_in_order_twice_gapped : gappedTable.Gapped ∧
    (∃ q f g e, Queue.DrainedOnce "q" gappedTable q f g e) ∧
    (∃ all, Queue.DrainedInRounds "q" gappedTable all) ∧
    Queue.drainRounds "q" 3 gappedTable =
      (.ok [[Item.ofId 3 [30], Item.ofId 4 [40]], [Item.ofId 7 [70]], [Item.ofId greatestId [99]]], .empty) := by
  have keys : ∀ key, (gappedTable.get? key).isSome → key.length = 8 ∧ key ≠ Key.encode 0 := by
    intro key stored
    have one : key = Key.encode 3 ∨ key = Key.encode 4 ∨ key = Key.encode greatestId ∨ key = Key.encode 7 := by
      by_contra other
      simp only [not_or] at other
      simp [gappedTable, other] at stored
    rcases one with rfl | rfl | rfl | rfl <;> decide
  have gapped : gappedTable.Gapped := ⟨keys, Key.encode 3, by decide⟩
  obtain ⟨once, rounds⟩ := drained_in_order (σ := Table) gapped "q"
  exact ⟨gapped, once, rounds, rfl⟩

end DurableQueue
