import DurableQueue.Proofs.Queue.Atomicity
import DurableQueue.Proofs.Queue.Crash

/-!
# Independent calls

An item is put in at the back, one is taken at the front, and a revision writes under its own id. Two requests
that go to different places (`Independent`) can be made in either order: they answer the same, and lead to the
same (`Session.Ready.commute`).

Of some calls that put items in and some that take items out, each call is independent of those of the other
kind, as long as the queue does not run empty and the ids do not run out. So the first call of either kind can
be moved to the front, past all those of the other kind (`Session.Woven.add_first`, `Session.Woven.take_first`),
and the order in which the two kinds are interleaved makes no difference (`Session.Woven.unique`).
-/

namespace DurableQueue

/-! ## Independence -/

/-- Is the request to put an item in? -/
def Request.adds : Request → Bool
  | add _ => true
  | _ => false

/-- Is the request to take an item out? -/
def Request.takes : Request → Bool
  | take => true
  | _ => false

/-- Two requests that go to different places of a queue. -/
inductive Independent (q : Queue) : Request → Request → Prop where
  | addTake {value} (room : q.tail ≠ greatestId) (something : q.head < q.tail) :
      Independent q (.add (.ok value)) .take
  | reviseAdd {item payload value} (above : q.head < item.id) (upto : item.id ≤ q.tail)
      (room : q.tail ≠ greatestId) : Independent q (.revise item (.ok payload)) (.add (.ok value))
  | reviseTake {item payload} (above : q.head < item.id) (upto : item.id ≤ q.tail)
      (behind : item.id ≠ q.head + 1) : Independent q (.revise item (.ok payload)) .take
  | reviseBoth {item payload item' payload'} (above : q.head < item.id) (upto : item.id ≤ q.tail)
      (above' : q.head < item'.id) (upto' : item'.id ≤ q.tail) (differ : item.id ≠ item'.id) :
      Independent q (.revise item (.ok payload)) (.revise item' (.ok payload'))

namespace Session

/-- Both operations work, and made in either order they answer the same and lead to the same. -/
structure Commute {σ : Type} [OrderedStore σ] [LawfulStore σ] (s : Session σ) (a b : Operation) :
    Prop where
  works : (s.perform (.on a)).1.error? = none
  works' : (s.perform (.on b)).1.error? = none
  reply : ((s.next (.on b)).perform (.on a)).1 = (s.perform (.on a)).1
  reply' : ((s.next (.on a)).perform (.on b)).1 = (s.perform (.on b)).1
  last : ((s.next (.on a)).next (.on b)).view = ((s.next (.on b)).next (.on a)).view

theorem Commute.next_next {s : Session Table} {a b : Operation} (h : s.Commute a b) :
    (s.next (.on a)).next (.on b) = (s.next (.on b)).next (.on a) := h.last

/-! ## Calls on a table -/

/-- The operation answers this, and leads here. -/
def Does (s : Session Table) (op : Operation) (reply : Reply) (s' : Session Table) : Prop :=
  (s.perform (.on op)).1 = reply ∧ s.next (.on op) = s'

theorem Does.commute {s sa sb last : Session Table} {a b : Operation} {ra rb : Reply}
    (da : s.Does a ra sa) (db : s.Does b rb sb) (dab : sa.Does b rb last) (dba : sb.Does a ra last)
    (works : ra.error? = none) (works' : rb.error? = none) : s.Commute a b := by
  obtain ⟨rfl, rfl⟩ := da
  obtain ⟨rfl, rfl⟩ := db
  exact ⟨works, works', dba.1, dab.1, congrArg view (dab.2.trans dba.2.symm)⟩

/-- There is an open handle, and its counters bound the keys of the table. -/
structure Ready (s : Session Table) (q : Queue) : Prop where
  handle : s.handle = some q
  opened : q.isOpen = true
  spans : Spans s.storage q.head q.tail

namespace Ready

variable {s : Session Table} {q : Queue} {op : Operation}

/-- An item is put in unless the ids are used up. -/
theorem add (h : s.Ready q) {value : Bytes} (asked : op.request = .add (.ok value)) :
    (q.tail = greatestId ∧ (s.perform (.on op)).1 = .item (.error .exhausted)) ∨
      (q.tail ≠ greatestId ∧ s.Does op (.item (.ok (Item.ofId (q.tail + 1) value)))
        ⟨some { q with tail := q.tail + 1 }, s.storage.insert (Key.encode (q.tail + 1)) value⟩) := by
  obtain ⟨handle, t⟩ := s
  obtain rfl : handle = some q := h.handle
  have run := op.run_of_add asked q t
  unfold Does next perform
  dsimp only
  rw [run]
  have cases := Queue.enqueued q value t
  generalize q.enqueue value t = outcome at cases ⊢
  cases cases with
  | exhausted full => exact Or.inl ⟨full, rfl⟩
  | closed _ shut => cases h.opened.symm.trans shut
  | failed _ _ put => cases put
  | added room _ put =>
    obtain ⟨-, rfl⟩ := Prod.mk.inj put
    exact Or.inr ⟨room, rfl, rfl⟩

/-- The front is taken unless there is none. -/
theorem take (h : s.Ready q) :
    (q.head = q.tail ∧ (s.perform (.on .dequeue)).1 = .item (.error .empty)) ∨
      (q.head < q.tail ∧ ∃ value, s.storage.get? (Key.encode (q.head + 1)) = some value ∧
        s.Does .dequeue (.item (.ok (Item.ofId (q.head + 1) value)))
          ⟨some { q with head := q.head + 1 }, s.storage.erase (Key.encode (q.head + 1))⟩) := by
  obtain ⟨handle, t⟩ := s
  obtain rfl : handle = some q := h.handle
  have cases := Queue.dequeued h.spans.le t
  unfold Does next perform
  dsimp only [Operation.run]
  generalize q.dequeue t = outcome at cases ⊢
  cases cases with
  | refused front =>
    cases front with
    | closed shut => cases h.opened.symm.trans shut
    | empty _ nothing => exact Or.inl ⟨nothing, rfl⟩
    | failed _ _ get => cases get
    | missing _ something get =>
      have stored := h.spans.isSome_front something
      rw [Except.ok.inj (Prod.mk.inj get).1] at stored
      cases stored
  | failed _ delete => cases delete
  | taken front delete =>
    cases front with
    | found _ something get =>
      obtain ⟨found, rfl⟩ := Prod.mk.inj get
      obtain ⟨-, rfl⟩ := Prod.mk.inj delete
      exact Or.inr ⟨something, _, Except.ok.inj found, rfl, rfl⟩

/-- A live id gets the payload. -/
theorem revise (h : s.Ready q) {item : Item} {value : Bytes}
    (asked : op.request = .revise item (.ok value)) (above : q.head < item.id) (upto : item.id ≤ q.tail) :
    s.Does op (.updated (.ok ()) (Item.ofId item.id value))
      ⟨some q, s.storage.insert (Key.encode item.id) value⟩ := by
  obtain ⟨handle, t⟩ := s
  obtain rfl : handle = some q := h.handle
  unfold Does next perform
  dsimp only
  rw [op.run_of_revise asked, Queue.update_of_put h.opened above upto (Table.put_def t _ value)]
  exact ⟨rfl, rfl⟩

/-! ### What they lead to -/

theorem added (h : s.Ready q) (room : q.tail ≠ greatestId) (value : Bytes) :
    Ready ⟨some { q with tail := q.tail + 1 }, s.storage.insert (Key.encode (q.tail + 1)) value⟩
      { q with tail := q.tail + 1 } := by
  obtain ⟨items, stores⟩ := h.spans.exists_stores
  exact ⟨rfl, h.opened, (stores.added room value).spans⟩

theorem taken (h : s.Ready q) (something : q.head < q.tail) :
    Ready ⟨some { q with head := q.head + 1 }, s.storage.erase (Key.encode (q.head + 1))⟩
      { q with head := q.head + 1 } := by
  obtain ⟨items, stores⟩ := h.spans.exists_stores
  obtain ⟨value, rest, rfl, -⟩ := stores.exists_front something
  exact ⟨rfl, h.opened, stores.taken.spans⟩

theorem revised (h : s.Ready q) {id : UInt64} (above : q.head < id) (upto : id ≤ q.tail)
    (value : Bytes) : Ready ⟨some q, s.storage.insert (Key.encode id) value⟩ q := by
  obtain ⟨items, stores⟩ := h.spans.exists_stores
  exact ⟨rfl, h.opened, (stores.replaced above upto value).spans⟩

/-! ### Either order -/

theorem does_add (h : s.Ready q) (room : q.tail ≠ greatestId) {value : Bytes}
    (asked : op.request = .add (.ok value)) :
    s.Does op (.item (.ok (Item.ofId (q.tail + 1) value)))
      ⟨some { q with tail := q.tail + 1 }, s.storage.insert (Key.encode (q.tail + 1)) value⟩ :=
  ((h.add asked).resolve_left fun full => room full.1).2

theorem does_take (h : s.Ready q) (something : q.head < q.tail) {value : Bytes}
    (front : s.storage.get? (Key.encode (q.head + 1)) = some value) :
    s.Does .dequeue (.item (.ok (Item.ofId (q.head + 1) value)))
      ⟨some { q with head := q.head + 1 }, s.storage.erase (Key.encode (q.head + 1))⟩ := by
  obtain ⟨nothing, -⟩ | ⟨-, value', front', does⟩ := h.take
  · exact absurd something (nothing ▸ UInt64.lt_irrefl q.head)
  · obtain rfl := Option.some.inj (front.symm.trans front')
    exact does

theorem commute_add_take {add : Operation} (h : s.Ready q) {value : Bytes}
    (adds : add.request = .add (.ok value)) (room : q.tail ≠ greatestId) (something : q.head < q.tail) :
    s.Commute add .dequeue := by
  obtain ⟨payload, front⟩ := Option.isSome_iff_exists.1 (h.spans.isSome_front something)
  have differ : Key.encode (q.head + 1) ≠ Key.encode (q.tail + 1) := by
    intro same
    have ends := (UInt64.add_left_inj 1).1 (Key.encode_injective same)
    exact UInt64.ne_of_lt something ends
  have kept : (s.storage.insert (Key.encode (q.tail + 1)) value).get? (Key.encode (q.head + 1)) =
      some payload := by
    rw [Table.get?_insert, if_neg differ, front]
  have last := (h.taken something).does_add room adds
  rw [Table.erase_insert_comm _ differ] at last
  exact (h.does_add room adds).commute (h.does_take something front)
    ((h.added room value).does_take (UInt64.lt_trans something (lt_add_one_of_ne room)) kept) last rfl rfl

section Revise

variable {revise : Operation} {item : Item} {payload : Bytes}
  (revises : revise.request = .revise item (.ok payload)) (above : q.head < item.id)
  (upto : item.id ≤ q.tail)

include revises above upto

theorem commute_revise_add {add : Operation} (h : s.Ready q) {value : Bytes}
    (adds : add.request = .add (.ok value)) (room : q.tail ≠ greatestId) : s.Commute revise add := by
  have beyond := UInt64.lt_of_le_of_lt upto (lt_add_one_of_ne room)
  have differ : Key.encode item.id ≠ Key.encode (q.tail + 1) :=
    fun same => UInt64.ne_of_lt beyond (Key.encode_injective same)
  have last := (h.revised above upto payload).does_add room adds
  rw [Table.insert_comm _ differ] at last
  exact (h.revise revises above upto).commute (h.does_add room adds) last
    ((h.added room value).revise revises above (UInt64.le_of_lt beyond)) rfl rfl

theorem commute_revise_take (h : s.Ready q) (behind : item.id ≠ q.head + 1) :
    s.Commute revise .dequeue := by
  have something := UInt64.lt_of_lt_of_le above upto
  obtain ⟨value, front⟩ := Option.isSome_iff_exists.1 (h.spans.isSome_front something)
  have differ : Key.encode (q.head + 1) ≠ Key.encode item.id :=
    fun same => behind (Key.encode_injective same).symm
  have kept : (s.storage.insert (Key.encode item.id) payload).get? (Key.encode (q.head + 1)) =
      some value := by
    rw [Table.get?_insert, if_neg differ, front]
  have above' : q.head + 1 < item.id := by
    rw [Ne, ← UInt64.toNat_inj, Queue.toNat_succ_of_lt something] at behind
    rw [UInt64.lt_iff_toNat_lt] at above
    rw [UInt64.lt_iff_toNat_lt, Queue.toNat_succ_of_lt something]
    omega
  have last := (h.taken something).revise revises above' upto
  rw [Table.erase_insert_comm _ differ] at last
  exact (h.revise revises above upto).commute (h.does_take something front)
    ((h.revised above upto payload).does_take something kept) last rfl rfl

theorem commute_revise_revise {revise' : Operation} {item' : Item} {payload' : Bytes} (h : s.Ready q)
    (revises' : revise'.request = .revise item' (.ok payload')) (above' : q.head < item'.id)
    (upto' : item'.id ≤ q.tail) (differ : item.id ≠ item'.id) : s.Commute revise revise' := by
  have last := (h.revised above upto payload).revise revises' above' upto'
  rw [Table.insert_comm _ fun same => differ (Key.encode_injective same)] at last
  exact (h.revise revises above upto).commute (h.revise revises' above' upto') last
    ((h.revised above' upto' payload').revise revises above upto) rfl rfl

end Revise

/-- Operations with independent requests can be made in either order. -/
theorem commute {a b : Operation} (h : s.Ready q) (apart : Independent q a.request b.request) :
    s.Commute a b := by
  generalize first : a.request = request at apart
  generalize second : b.request = request' at apart
  cases apart with
  | addTake room something =>
    obtain rfl := Operation.eq_dequeue second
    exact h.commute_add_take first room something
  | reviseAdd above upto room => exact commute_revise_add first above upto h second room
  | reviseTake above upto behind =>
    obtain rfl := Operation.eq_dequeue second
    exact commute_revise_take first above upto h behind
  | reviseBoth above upto above' upto' differ =>
    exact commute_revise_revise first above upto h second above' upto' differ

end Ready

/-! ## Interleavings -/

/-- Some calls that put items in and some that take items out, one after another: the replies to either, and
what they lead to. The ids are never used up when an item is put in, and the queue is never empty when one is
taken out. -/
inductive Woven :
    Session Table → List Operation → Nat → List Reply → List Reply → Session Table → Prop where
  | done {s} : Woven s [] 0 [] [] s
  | add {s q op value adds n added taken last} (ready : s.Ready q) (asked : op.request = .add (.ok value))
      (room : q.tail ≠ greatestId) (rest : Woven (s.next (.on op)) adds n added taken last) :
      Woven s (op :: adds) n ((s.perform (.on op)).1 :: added) taken last
  | take {s q adds n added taken last} (ready : s.Ready q) (something : q.head < q.tail)
      (rest : Woven (s.next (.on .dequeue)) adds n added taken last) :
      Woven s adds (n + 1) added ((s.perform (.on .dequeue)).1 :: taken) last

namespace Ready

variable {s : Session Table} {q q' : Queue}

theorem unique (h : s.Ready q) (h' : s.Ready q') : q = q' :=
  Option.some.inj (h.handle.symm.trans h'.handle)

theorem next_add (h : s.Ready q) (room : q.tail ≠ greatestId) {op : Operation} {value : Bytes}
    (asked : op.request = .add (.ok value)) : (s.next (.on op)).Ready { q with tail := q.tail + 1 } := by
  rw [(h.does_add room asked).2]
  exact h.added room value

theorem next_take (h : s.Ready q) (something : q.head < q.tail) :
    (s.next (.on .dequeue)).Ready { q with head := q.head + 1 } := by
  obtain ⟨nothing, -⟩ | ⟨-, value, front, does⟩ := h.take
  · exact absurd something (nothing ▸ UInt64.lt_irrefl q.head)
  · rw [does.2]
    exact h.taken something

end Ready

namespace Woven

variable {s last last' : Session Table} {q : Queue} {op : Operation} {value : Bytes}
  {adds : List Operation} {n : Nat} {added taken added' taken' : List Reply}

/-- The first item to be put in can be put in at once. -/
theorem add_first (h : Woven s (op :: adds) n added taken last) (ready : s.Ready q)
    (asked : op.request = .add (.ok value)) (room : q.tail ≠ greatestId) :
    ∃ rest, added = (s.perform (.on op)).1 :: rest ∧ Woven (s.next (.on op)) adds n rest taken last := by
  generalize all : op :: adds = ops at h
  induction h generalizing q with
  | done => cases all
  | add ready' asked' room' rest =>
    cases all
    exact ⟨_, rfl, rest⟩
  | take ready' something rest ih =>
    -- the item can be put in right after this taking, and so before it as well
    obtain rfl := ready.unique ready'
    have either := ready.commute_add_take asked room something
    obtain ⟨added', rfl, woven⟩ := ih (ready.next_take something) room all
    rw [← either.next_next] at woven
    have swapped := Woven.take (ready.next_add room asked)
      (UInt64.lt_trans something (lt_add_one_of_ne room)) woven
    rw [either.reply'] at swapped
    exact ⟨added', congrArg (· :: added') either.reply, swapped⟩

/-- The first item to be taken out can be taken out at once, if it is there. -/
theorem take_first (h : Woven s adds (n + 1) added taken last) (ready : s.Ready q)
    (something : q.head < q.tail) :
    ∃ rest, taken = (s.perform (.on .dequeue)).1 :: rest ∧
      Woven (s.next (.on .dequeue)) adds n added rest last := by
  generalize all : n + 1 = m at h
  induction h generalizing q with
  | done => cases all
  | add ready' asked room rest ih =>
    obtain rfl := ready.unique ready'
    have either := ready.commute_add_take asked room something
    obtain ⟨taken', rfl, woven⟩ := ih (ready.next_add room asked)
      (UInt64.lt_trans something (lt_add_one_of_ne room)) all
    rw [either.next_next] at woven
    have swapped := Woven.add (ready.next_take something) asked room woven
    rw [either.reply] at swapped
    exact ⟨taken', congrArg (· :: taken') either.reply', swapped⟩
  | take ready' something' rest =>
    cases all
    exact ⟨_, rfl, rest⟩

/-- However the two kinds of calls are interleaved, the replies are the same, and so is what they lead to. -/
theorem unique (h : Woven s adds n added taken last) (h' : Woven s adds n added' taken' last') :
    added = added' ∧ taken = taken' ∧ last = last' := by
  induction h generalizing added' taken' last' with
  | done =>
    cases h'
    exact ⟨rfl, rfl, rfl⟩
  | add ready asked room rest ih =>
    obtain ⟨added', rfl, rest'⟩ := h'.add_first ready asked room
    obtain ⟨rfl, same⟩ := ih rest'
    exact ⟨rfl, same⟩
  | take ready something rest ih =>
    obtain ⟨taken', rfl, rest'⟩ := h'.take_first ready something
    obtain ⟨same, rfl, same'⟩ := ih rest'
    exact ⟨same, rfl, same'⟩

end Woven

/-! ### Runs of calls -/

/-- The third are the calls of the first, which put items in, and as many takings as the number says, in some
order that keeps that of the first. -/
inductive Interleaving : List Operation → Nat → List Operation → Prop where
  | nil : Interleaving [] 0 []
  | add {op value adds n ops} (asked : op.request = .add (.ok value)) (rest : Interleaving adds n ops) :
      Interleaving (op :: adds) n (op :: ops)
  | take {adds n ops} (rest : Interleaving adds n ops) : Interleaving adds (n + 1) (.dequeue :: ops)

section Answered

variable {σ : Type} [OrderedStore σ]

/-- No taking finds the queue empty, and no item that is put in finds the ids used up. -/
def Served (s : Session σ) (ops : List Operation) : Prop :=
  ∀ reply ∈ s.replies (ops.map .on), reply ≠ .item (.error .empty) ∧ reply ≠ .item (.error .exhausted)

/-- The replies to those of some calls that are of a kind. -/
def answered (s : Session σ) (kind : Request → Bool) (ops : List Operation) : List Reply :=
  ((ops.zip (s.replies (ops.map .on))).filter (kind ·.1.request)).map (·.2)

theorem answered_cons (s : Session σ) (kind : Request → Bool) (op : Operation) (ops : List Operation) :
    s.answered kind (op :: ops) =
      (if kind op.request then [(s.perform (.on op)).1] else []) ++ (s.next (.on op)).answered kind ops := by
  unfold answered
  rw [List.map_cons, replies, List.zip_cons_cons, List.filter_cons]
  split <;> rfl

theorem Served.tail {s : Session σ} {op : Operation} {ops : List Operation} (h : s.Served (op :: ops)) :
    (s.next (.on op)).Served ops := fun reply mem => h reply (List.mem_cons_of_mem _ mem)

end Answered

/-- Calls that are all served are woven as they are interleaved. -/
theorem Interleaving.woven {adds ops : List Operation} {n : Nat} (h : Interleaving adds n ops)
    {s : Session Table} {q : Queue} (ready : s.Ready q) (served : s.Served ops) :
    Woven s adds n (s.answered Request.adds ops) (s.answered Request.takes ops) (s.after (ops.map .on)) := by
  induction h generalizing s q with
  | nil => exact .done
  | @add op value adds n ops asked rest ih =>
    obtain ⟨-, refused⟩ | ⟨room, -⟩ := ready.add asked
    · exact absurd refused (served _ List.mem_cons_self).2
    · rw [answered_cons, answered_cons, asked]
      exact .add ready asked room (ih (ready.next_add room asked) served.tail)
  | take rest ih =>
    obtain ⟨-, refused⟩ | ⟨something, -⟩ := ready.take
    · exact absurd refused (served _ List.mem_cons_self).1
    · rw [answered_cons, answered_cons]
      exact .take ready something (ih (ready.next_take something) served.tail)

section Reliable

variable {σ : Type} [OrderedStore σ] [ReliableStore σ]

open LawfulStore (content)

/-- Operations commute in a session if they do on the content of its store. -/
theorem Commute.of_view {s : Session σ} {a b : Operation} (h : s.view.Commute a b) : s.Commute a b where
  works := by rw [reply_view]; exact h.works
  works' := by rw [reply_view]; exact h.works'
  reply := by rw [reply_view, next_view, reply_view s]; exact h.reply
  reply' := by rw [reply_view, next_view, reply_view s]; exact h.reply'
  last := by rw [next_view, next_view, next_view, next_view]; exact h.last

/-- On an open handle whose counters bound the stored keys, over a working store: operations with independent
requests both work, and answer the same and lead to the same in either order. So any two interleavings of the
same calls that put items in with as many takings, neither of which finds the queue empty or the ids used up,
answer each call the same and lead to the same. -/
theorem independent_commute {q : Queue} {s : σ} (opened : q.isOpen = true)
    (spans : Spans (content s) q.head q.tail) :
    let start : Session σ := ⟨some q, s⟩
    (∀ a b : Operation, Independent q a.request b.request → start.Commute a b) ∧
      ∀ (adds : List Operation) (n : Nat) (ops ops' : List Operation),
        Interleaving adds n ops → Interleaving adds n ops' → start.Served ops → start.Served ops' →
          start.answered Request.adds ops = start.answered Request.adds ops' ∧
            start.answered Request.takes ops = start.answered Request.takes ops' ∧
            (start.after (ops.map .on)).view = (start.after (ops'.map .on)).view := by
  intro start
  have ready : start.view.Ready q := ⟨rfl, opened, spans⟩
  refine ⟨fun a b apart => (ready.commute apart).of_view, ?_⟩
  intro adds n ops ops' weave weave' served served'
  have woven {ops : List Operation} (weave : Interleaving adds n ops) (served : start.Served ops) :
      Woven start.view adds n (start.answered Request.adds ops) (start.answered Request.takes ops)
        (start.after (ops.map .on)).view := by
    unfold Served at served
    rw [replies_view] at served
    unfold answered
    rw [replies_view, after_view]
    exact weave.woven ready served
  exact (woven weave served).unique (woven weave' served')

end Reliable

/-- Items 3 and 4 are there. Item 5 is put in before, between and after the takings of these two. -/
theorem independent_commute_either :
    let t := (Table.empty.insert (Key.encode 3) [7]).insert (Key.encode 4) [8]
    let start : Session Table := ⟨some ⟨"q", true, 2, 4⟩, t⟩
    Spans t 2 4 ∧ start.Commute (.updateText ⟨4, [], []⟩ "x") .dequeue ∧
      start.answered Request.takes [.enqueue [9], .dequeue, .dequeue] =
        start.answered Request.takes [.dequeue, .dequeue, .enqueue [9]] ∧
      (start.after ([Operation.enqueue [9], .dequeue, .dequeue].map .on)).view =
        (start.after ([Operation.dequeue, .dequeue, .enqueue [9]].map .on)).view := by
  intro t start
  have spans : Spans t 2 4 := (((Stores.empty 2).added (by decide) [7]).added (by decide) [8]).spans
  obtain ⟨commute, interleave⟩ := independent_commute (σ := Table) (q := ⟨"q", true, 2, 4⟩) rfl spans
  have served {s : Session Table} {ops : List Operation} (a b c : Item)
      (replies : s.replies (ops.map .on) = [.item (.ok a), .item (.ok b), .item (.ok c)]) :
      s.Served ops := by
    unfold Served
    rw [replies]
    simp
  refine ⟨spans, commute _ _ (.reviseTake (by decide) (by decide) (by decide)), ?_⟩
  exact (interleave [.enqueue [9]] 2 _ _ (.add rfl (.take (.take .nil))) (.take (.take (.add rfl .nil)))
    (served (Item.ofId 5 [9]) (Item.ofId 3 [7]) (Item.ofId 4 [8]) rfl)
    (served (Item.ofId 3 [7]) (Item.ofId 4 [8]) (Item.ofId 5 [9]) rfl)).2

end Session

end DurableQueue
