import DurableQueue.Proofs.Key.Order
import DurableQueue.Proofs.Queue.Outcomes
import DurableQueue.Proofs.Queue.Session
import DurableQueue.Proofs.Store.Lawful
import Mathlib.Algebra.Group.Nat.Defs

/-!
# Look-ups

An item can be looked for by its id and by its offset from the front, and the front item is also what is
taken out next. On a store without failures all of these depend on one number alone, the place looked at,
which need not be an id (`Sighted`). `Queue.lookups_agree` says in exact numbers what each offset comes to
and that the other ways of looking come to the same.

A missing item is reported by the hexadecimal digits of its key, which are those of its id
(`Key.toHex_encode`).
-/

namespace DurableQueue

/-! ## The digits of a key -/

namespace Bytes

/-- The hexadecimal digit of a number that has `i` digits below it. -/
def digitAt (n i : Nat) : Char := hexDigit (n / 16 ^ i % 16)

theorem weight_eq (k : Nat) : weight k = 16 ^ (2 * k) := by
  induction k with
  | zero => rfl
  | succ k ih =>
    rw [weight, ih, Nat.mul_succ, Nat.pow_add, Nat.mul_comm]

/-- Digits are not changed by what is cut off above them. -/
theorem digitAt_mod (n : Nat) {i k : Nat} (below : i < k) : digitAt (n % 16 ^ k) i = digitAt n i := by
  have split : 16 ^ k = 16 ^ i * 16 ^ (k - i) := by
    rw [← Nat.pow_add]
    congr 1
    omega
  have sixteen : 16 ∣ 16 ^ (k - i) := by
    refine ⟨16 ^ (k - i - 1), ?_⟩
    rw [Nat.mul_comm, ← Nat.pow_succ]
    congr 1
    omega
  unfold digitAt
  rw [split, Nat.mod_mul_right_div_self, Nat.mod_mod_of_dvd _ sixteen]

/-- The digits of a number written in `k` bytes, most significant first. -/
theorem hexDigits_bigEndian (k n : Nat) :
    hexDigits (bigEndian k n) = (List.range (2 * k)).reverse.map (digitAt n) := by
  induction k generalizing n with
  | zero => rfl
  | succ k ih =>
    have byte : (UInt8.ofNat (n / weight k)).toNat = n / 16 ^ (2 * k) % 256 := by
      rw [UInt8.toNat_ofNat', weight_eq]
    have high : n / 16 ^ (2 * k) % 256 / 16 = n / 16 ^ (2 * k + 1) % 16 := by
      rw [Nat.pow_succ, ← Nat.div_div_eq_div_mul]
      omega
    have low : n / 16 ^ (2 * k) % 256 % 16 = n / 16 ^ (2 * k) % 16 := by omega
    have rest : hexDigits (bigEndian k (n % weight k)) = (List.range (2 * k)).reverse.map (digitAt n) := by
      rw [ih, weight_eq]
      apply List.map_congr_left
      intro i mem
      exact digitAt_mod n (List.mem_range.1 (List.mem_reverse.1 mem))
    calc hexDigits (bigEndian (k + 1) n)
        = hexDigit (n / 16 ^ (2 * k) % 256 / 16) :: hexDigit (n / 16 ^ (2 * k) % 256 % 16) ::
            hexDigits (bigEndian k (n % weight k)) := by rw [← byte]; rfl
      _ = digitAt n (2 * k + 1) :: digitAt n (2 * k) :: (List.range (2 * k)).reverse.map (digitAt n) := by
        rw [high, low, rest]
        rfl
      _ = (List.range (2 * (k + 1))).reverse.map (digitAt n) := by
        rw [Nat.mul_succ, List.range_succ, List.range_succ]
        simp

end Bytes

/-- The sixteen hexadecimal digits of an id. -/
def Key.digits (id : UInt64) : String :=
  String.ofList ((List.range 16).reverse.map (Bytes.digitAt id.toNat))

theorem Key.toHex_encode (id : UInt64) : (encode id).toHex = digits id := by
  rw [Bytes.toHex, encode, Bytes.hexDigits_bigEndian]
  rfl

/-! ## Places -/

/-- What looking at a place comes to on a table, for a handle that is open. The place is a number and need
not be an id. -/
inductive Sighted (q : Queue) (t : Table) (n : Nat) : Except QueueError Item → Prop where
  | empty (nothing : q.head = q.tail) : Sighted q t n (.error .empty)
  | outside {id} (something : q.head ≠ q.tail) (out : n ≤ q.head.toNat ∨ q.tail.toNat < n) :
      Sighted q t n (.error (.outOfBounds id q.head q.tail))
  | missing {id} (place : id.toNat = n) (above : q.head.toNat < n) (upto : n ≤ q.tail.toNat)
      (gone : t.get? (Key.encode id) = none) :
      Sighted q t n (.error (.storage (.keyNotFound (Key.digits id))))
  | found {id value} (place : id.toNat = n) (above : q.head.toNat < n) (upto : n ≤ q.tail.toNat)
      (stored : t.get? (Key.encode id) = some value) : Sighted q t n (.ok (Item.ofId id value))

/-- What the look-up at an offset from the front answers, on a table. -/
structure LookedUp (q : Queue) (t : Table) (offset : UInt64) (r : Except QueueError Item) : Prop where
  found : ∀ item, r = .ok item ↔
    (1 ≤ offset.toNat ∧ offset.toNat ≤ q.tail.toNat - q.head.toNat) ∧
      item.id.toNat = q.head.toNat + offset.toNat ∧ item.key = Key.encode item.id ∧
      t.get? (Key.encode item.id) = some item.value
  empty : r = .error .empty ↔ q.head = q.tail
  outOfBounds : (∃ id head tail, r = .error (.outOfBounds id head tail)) ↔
    q.head < q.tail ∧ (offset = 0 ∨ q.tail.toNat - q.head.toNat < offset.toNat)
  missing : ∀ text, r = .error (.storage (.keyNotFound text)) ↔
    (1 ≤ offset.toNat ∧ offset.toNat ≤ q.tail.toNat - q.head.toNat) ∧
      ∃ id : UInt64, id.toNat = q.head.toNat + offset.toNat ∧ text = Key.digits id ∧
        t.get? (Key.encode id) = none

namespace Sighted

variable {q : Queue} {t : Table} {n : Nat} {r : Except QueueError Item}

/-- A place between the counters is not reported as out of bounds or empty. -/
theorem of_live (h : Sighted q t n r) (above : q.head.toNat < n) (upto : n ≤ q.tail.toNat) {id : UInt64}
    (place : id.toNat = n) :
    r = match t.get? (Key.encode id) with
      | some value => .ok (Item.ofId id value)
      | none => .error (.storage (.keyNotFound (Key.digits id))) := by
  cases h with
  | empty nothing =>
    rw [nothing] at above
    omega
  | outside something out => omega
  | missing place' _ _ gone =>
    obtain rfl := UInt64.toNat_inj.1 (place'.trans place.symm)
    rw [gone]
  | found place' _ _ stored =>
    obtain rfl := UInt64.toNat_inj.1 (place'.trans place.symm)
    rw [stored]

/-- What looking at the place some way from the front answers, offset by offset. -/
theorem lookedUp {offset : UInt64} (h : Sighted q t (q.head.toNat + offset.toNat) r)
    (ordered : q.head ≤ q.tail) : LookedUp q t offset r := by
  have le := UInt64.le_iff_toNat_le.1 ordered
  have ne_iff : q.head ≠ q.tail ↔ q.head.toNat ≠ q.tail.toNat := not_congr UInt64.toNat_inj.symm
  have zero_iff : offset = 0 ↔ offset.toNat = 0 := UInt64.toNat_inj.symm
  refine ⟨?found, ?empty, ?outOfBounds, ?missing⟩
  case found =>
    intro item
    constructor
    · intro ok
      cases h with
      | found place above upto stored =>
        cases ok
        exact ⟨by omega, place, rfl, stored⟩
      | _ => cases ok
    · rintro ⟨⟨least, most⟩, place, key, stored⟩
      have answer := h.of_live (by omega) (by omega) place
      have same : Item.ofId item.id item.value = item := by
        cases item
        exact congrArg (Item.mk _ · _) key.symm
      rw [stored] at answer
      exact answer.trans (congrArg Except.ok same)
  case empty =>
    constructor
    · intro empty
      cases h with
      | empty nothing => exact nothing
      | _ => cases empty
    · intro nothing
      have same := congrArg UInt64.toNat nothing
      cases h with
      | empty _ => rfl
      | outside something _ => exact absurd nothing something
      | missing _ above upto _ => omega
      | found _ above upto _ => omega
  case outOfBounds =>
    rw [UInt64.lt_iff_toNat_lt, zero_iff]
    constructor
    · rintro ⟨id, head, tail, outside⟩
      cases h with
      | outside something out =>
        rw [ne_iff] at something
        omega
      | _ => cases outside
    · rintro ⟨something, out⟩
      cases h with
      | empty nothing =>
        rw [nothing] at something
        omega
      | outside _ _ => exact ⟨_, _, _, rfl⟩
      | missing _ above upto _ => omega
      | found _ above upto _ => omega
  case missing =>
    intro text
    constructor
    · intro missing
      cases h with
      | missing place above upto gone =>
        cases missing
        exact ⟨by omega, _, place, rfl, gone⟩
      | _ => cases missing
    · rintro ⟨⟨least, most⟩, id, place, rfl, gone⟩
      have answer := h.of_live (by omega) (by omega) place
      rw [gone] at answer
      exact answer

end Sighted

namespace Queue

variable {q : Queue}

/-! ## Looking on a table -/

theorem Looked.sighted {id : UInt64} {t : Table} {reply : Except QueueError Item × Table}
    (h : Looked q id t reply) (opened : q.isOpen = true) : Sighted q t id.toNat reply.1 := by
  cases h with
  | closed shut => cases opened.symm.trans shut
  | empty _ nothing => exact .empty nothing
  | outOfBounds _ something out =>
    rw [UInt64.le_iff_toNat_le, UInt64.lt_iff_toNat_lt] at out
    exact .outside something out
  | failed _ _ _ get => cases get
  | missing _ above upto get =>
    rw [Key.toHex_encode]
    exact .missing rfl (UInt64.lt_iff_toNat_lt.1 above) (UInt64.le_iff_toNat_le.1 upto)
      (Except.ok.inj (congrArg Prod.fst get))
  | found _ above upto get =>
    exact .found rfl (UInt64.lt_iff_toNat_lt.1 above) (UInt64.le_iff_toNat_le.1 upto)
      (Except.ok.inj (congrArg Prod.fst get))

theorem sighted (opened : q.isOpen = true) (offset : UInt64) (t : Table) :
    Sighted q t (q.head.toNat + offset.toNat) (q.itemByOffset offset t).1 := by
  have cases := lookedAt q offset t
  generalize q.itemByOffset offset t = reply at cases
  cases cases with
  | id sum looked =>
    rw [← sum]
    exact looked.sighted opened
  | closed _ shut => cases opened.symm.trans shut
  | empty _ _ nothing => exact .empty nothing
  | outOfBounds beyond _ something =>
    have small := q.tail.toNat_lt_size
    exact .outside something (Or.inr (by omega))

/-- Taking out answers what looking at the front answers. -/
theorem result_dequeue_table (q : Queue) (t : Table) : (q.dequeue t).result = (q.itemByOffset 1 t).1 := by
  unfold dequeue
  rcases q.itemByOffset 1 t with ⟨e | item, t'⟩ <;> rfl

/-! ## Looking without failures -/

section Reliable

variable {σ : Type} [OrderedStore σ] [ReliableStore σ]

open ReliableStore (content hom)

theorem fst_itemByOffset_content (q : Queue) (offset : UInt64) (s : σ) :
    (q.itemByOffset offset s).1 = (q.itemByOffset offset (content s)).1 :=
  (congrArg Prod.fst (itemByOffset_map hom.toReadHom q s offset)).symm

theorem result_dequeue (q : Queue) (s : σ) : (q.dequeue s).result = (q.itemByOffset 1 s).1 := by
  have same := congrArg Outcome.result (dequeue_map hom q s)
  rw [result_dequeue_table] at same
  exact same.symm.trans (fst_itemByOffset_content q 1 s).symm

/-- Every way of looking, on an open handle with its counters in order, over any content and without
failures: an offset leads to an item exactly if it is at least 1 and at most the number of live ids, in
exact numbers, and the key at that place is stored; the errors tell the other cases apart. Looking for the
id at the same place answers the same, the front is at offset 1, and taking out answers what looking at the
front does. -/
theorem lookups_agree (opened : q.isOpen = true) (ordered : q.head ≤ q.tail) (s : σ) (offset : UInt64) :
    LookedUp q (content s) offset (q.peekByOffset offset s).result ∧
      (∀ id : UInt64, id.toNat = q.head.toNat + offset.toNat →
        (q.peekById id s).result = (q.peekByOffset offset s).result) ∧
      (q.peek s).result = (q.peekByOffset 1 s).result ∧ (q.dequeue s).result = (q.peek s).result := by
  refine ⟨?_, ?_, rfl, result_dequeue q s⟩
  · show LookedUp q (content s) offset (q.itemByOffset offset s).1
    rw [fst_itemByOffset_content]
    exact (sighted opened offset (content s)).lookedUp ordered
  · intro id sum
    show (q.itemById id s).1 = (q.itemByOffset offset s).1
    rw [itemByOffset, addId?_of_sum sum]

end Reliable

/-- At the end of all ids, with the front missing: the last offset that is an id finds its item, and the one
after it is beyond every id. -/
theorem lookups_agree_near_limit :
    let q : Queue := ⟨"q", true, greatestId - 2, greatestId⟩
    let t := Table.empty.insert (Key.encode greatestId) [7]
    q.isOpen = true ∧ q.head ≤ q.tail ∧
      LookedUp q t 2 (q.peekByOffset 2 t).result ∧
      (q.peekByOffset 2 t).result = .ok (Item.ofId greatestId [7]) ∧
      (q.peekById greatestId t).result = (q.peekByOffset 2 t).result ∧
      (∃ id head tail, (q.peekByOffset 3 t).result = .error (.outOfBounds id head tail)) ∧
      (q.dequeue t).result = .error (.storage (.keyNotFound (Key.digits (greatestId - 1)))) := by
  intro q t
  have opened : q.isOpen = true := rfl
  have ordered : q.head ≤ q.tail := by decide
  obtain ⟨two, byId, -, taken⟩ := lookups_agree opened ordered t 2
  obtain ⟨three, -⟩ := lookups_agree opened ordered t 3
  obtain ⟨one, -⟩ := lookups_agree opened ordered t 1
  refine ⟨opened, ordered, two, (two.found _).2 ?last, byId greatestId (by decide), ?beyond, ?front⟩
  case last => exact ⟨by decide, by decide, rfl, by decide⟩
  case beyond => exact three.outOfBounds.2 ⟨by decide, Or.inr (by decide)⟩
  case front =>
    rw [taken]
    exact (one.missing _).2 ⟨by decide, greatestId - 1, by decide, rfl, by decide⟩

end Queue

end DurableQueue
