import DurableQueue.Proofs.Key.Order
import DurableQueue.Proofs.Queue.Session
import DurableQueue.Proofs.Store.Extremes
import DurableQueue.Proofs.Store.Lawful
import DurableQueue.Queue.Basic

/-!
# What opening finds

Opening looks at the least and the greatest key and at nothing else, whatever there is in between. On a
table, `Recovered` tells all that can come of it, and the table stays as it is. When it works, no stored
key is above that of `tail` (`Recovered.le_tail`): the greatest key bounds the others in byte order, those
of other lengths among them. `Queue.recover_classified` says the same of every store without failures, from
the two keys to the answer and from the answer to the stored ids.
-/

namespace DurableQueue

/-- What recovering the counters of a table comes to. -/
inductive Recovered (t : Table) : Except QueueError (UInt64 × UInt64) → Prop where
  | empty (nothing : ∀ key, t.get? key = none) : Recovered t (.ok (0, 0))
  | foreignFirst {key} (least : t.firstKey? = some key) (foreign : key.length ≠ 8) :
      Recovered t (.error (.keyDecode key.length))
  | foreignLast {first key} (least : t.firstKey? = some (Key.encode first))
      (greatest : t.lastKey? = some key) (foreign : key.length ≠ 8) :
      Recovered t (.error (.keyDecode key.length))
  | found {first last} (least : t.firstKey? = some (Key.encode first))
      (greatest : t.lastKey? = some (Key.encode last)) :
      Recovered t (.ok (if first = 0 then 0 else first - 1, last))

namespace Queue

/-- Asking for a key and reading the id behind it: no key, a key that is none of the queue's, or an id. -/
theorem storedId_cases {σ : Type} {call : σ → Except StoreError (Option Bytes) × σ} {s s' : σ}
    {key? : Option Bytes} (asked : call s = (.ok key?, s')) :
    (key? = none ∧ storedId call s = (.ok none, s')) ∨
      (∃ key, key? = some key ∧ key.length ≠ 8 ∧
        storedId call s = (.error (.keyDecode key.length), s')) ∨
      (∃ id, key? = some (Key.encode id) ∧ storedId call s = (.ok (some id), s')) := by
  unfold storedId idOfKey
  rw [asked]
  cases key? with
  | none => exact Or.inl ⟨rfl, rfl⟩
  | some key =>
    right
    dsimp only
    cases read : Key.decode key with
    | error n =>
      obtain ⟨rfl, foreign⟩ := Key.eq_length_of_decode read
      exact Or.inl ⟨key, rfl, foreign, rfl⟩
    | ok id =>
      obtain rfl := Key.eq_encode_of_decode read
      exact Or.inr ⟨id, rfl, rfl⟩

/-- Recovering the counters leaves a table as it is. -/
theorem recovered (t : Table) : Recovered t (recover t).1 ∧ (recover t).2.1 = t := by
  unfold recover
  rcases storedId_cases (Table.firstKey_def t) with
    ⟨none, asked⟩ | ⟨key, least, foreign, asked⟩ | ⟨first, least, asked⟩
  · have nothing := Table.firstKey?_eq_none_iff.1 none
    have none' := Table.lastKey?_eq_none_iff.2 nothing
    rcases storedId_cases (Table.lastKey_def t) with
      ⟨-, asked'⟩ | ⟨key, greatest, -⟩ | ⟨last, greatest, -⟩
    · rw [asked]
      dsimp only
      rw [asked']
      exact ⟨.empty nothing, rfl⟩
    · cases none'.symm.trans greatest
    · cases none'.symm.trans greatest
  · rw [asked]
    exact ⟨.foreignFirst least foreign, rfl⟩
  · rw [asked]
    dsimp only
    rcases storedId_cases (Table.lastKey_def t) with
      ⟨none, -⟩ | ⟨key, greatest, foreign, asked'⟩ | ⟨last, greatest, asked'⟩
    · have none' := Table.firstKey?_eq_none_iff.2 (Table.lastKey?_eq_none_iff.1 none)
      cases none'.symm.trans least
    · rw [asked']
      exact ⟨.foreignLast least greatest foreign, rfl⟩
    · rw [asked']
      dsimp only
      have found := Recovered.found least greatest
      by_cases zero : first = 0
      · rw [if_pos zero] at found ⊢
        exact ⟨found, rfl⟩
      · rw [if_neg zero] at found ⊢
        exact ⟨found, rfl⟩

/-- Opening a table leaves it as it is, and a handle that comes of it has the recovered counters. -/
theorem opened (t : Table) (location : String) :
    (ofStore location t).2.1 = t ∧
      ∀ q, (ofStore location t).1 = .ok q → Recovered t (.ok (q.head, q.tail)) := by
  have recovered := recovered t
  unfold ofStore
  generalize recover t = reply at recovered ⊢
  obtain ⟨r, t', events⟩ := reply
  obtain ⟨cases, rfl⟩ := recovered
  cases r with
  | error e => exact ⟨rfl, nofun⟩
  | ok counters =>
    refine ⟨rfl, ?_⟩
    rintro q ⟨rfl⟩
    exact cases

end Queue

namespace Recovered

variable {t : Table} {head tail : UInt64}

theorem ordered (h : Recovered t (.ok (head, tail))) : head ≤ tail := by
  generalize result : Except.ok (head, tail) = r at h
  cases h with
  | foreignFirst least foreign => cases result
  | foreignLast least greatest foreign => cases result
  | empty nothing =>
    cases result
    exact UInt64.le_refl 0
  | @found first last least greatest =>
    cases result
    have stored := (Table.firstKey?_eq_some_iff.1 least).1
    have le := Key.encode_le_iff.1 ((Table.lastKey?_eq_some_iff.1 greatest).2 _ stored)
    by_cases zero : first = 0
    · rw [if_pos zero, ← zero]
      exact le
    · have pos : 1 ≤ first := by
        rw [UInt64.le_iff_toNat_le]
        exact Nat.one_le_iff_ne_zero.2 fun eq => zero (UInt64.toNat_inj.1 eq)
      rw [if_neg zero, UInt64.le_iff_toNat_le, UInt64.toNat_sub_of_le _ _ pos]
      rw [UInt64.le_iff_toNat_le] at le
      exact Nat.le_trans (Nat.sub_le _ _) le

/-- No key is above that of `tail`. -/
theorem le_tail (h : Recovered t (.ok (head, tail))) {key : Bytes} (stored : (t.get? key).isSome) :
    key ≤ Key.encode tail := by
  generalize result : Except.ok (head, tail) = r at h
  cases h with
  | foreignFirst least foreign => cases result
  | foreignLast least greatest foreign => cases result
  | empty nothing =>
    rw [nothing key] at stored
    cases stored
  | found least greatest =>
    cases result
    exact (Table.lastKey?_eq_some_iff.1 greatest).2 key stored

/-- No id is below those between the counters, 0 apart. -/
theorem head_lt (h : Recovered t (.ok (head, tail))) {id : UInt64}
    (stored : (t.get? (Key.encode id)).isSome) : id = 0 ∨ head < id := by
  generalize result : Except.ok (head, tail) = r at h
  cases h with
  | foreignFirst least foreign => cases result
  | foreignLast least greatest foreign => cases result
  | empty nothing =>
    rw [nothing] at stored
    cases stored
  | @found first last least greatest =>
    cases result
    have le := Key.encode_le_iff.1 ((Table.firstKey?_eq_some_iff.1 least).2 _ stored)
    rw [UInt64.le_iff_toNat_le] at le
    by_cases zero : id = 0
    · exact Or.inl zero
    · have pos : 0 < id.toNat := Nat.pos_of_ne_zero fun eq => zero (UInt64.toNat_inj.1 eq)
      right
      by_cases none : first = 0
      · rw [if_pos none, UInt64.lt_iff_toNat_lt]
        exact pos
      · have one : (1 : UInt64) ≤ first := by
          rw [UInt64.le_iff_toNat_le]
          exact Nat.one_le_iff_ne_zero.2 fun eq => none (UInt64.toNat_inj.1 eq)
        rw [if_neg none, UInt64.lt_iff_toNat_lt, UInt64.toNat_sub_of_le _ _ one]
        show first.toNat - 1 < id.toNat
        omega

/-- The key of `tail` is the greatest one, if there is any. -/
theorem lastKey?_eq (h : Recovered t (.ok (head, tail))) (something : ∃ key, (t.get? key).isSome) :
    t.lastKey? = some (Key.encode tail) := by
  generalize result : Except.ok (head, tail) = r at h
  cases h with
  | foreignFirst least foreign => cases result
  | foreignLast least greatest foreign => cases result
  | empty nothing =>
    obtain ⟨key, stored⟩ := something
    rw [nothing] at stored
    cases stored
  | found least greatest =>
    cases result
    exact greatest

variable {r : Except QueueError (UInt64 × UInt64)}

theorem eq_of_empty (h : Recovered t r) (nothing : ∀ key, t.get? key = none) : r = .ok (0, 0) := by
  have none := Table.firstKey?_eq_none_iff.2 nothing
  cases h with
  | empty _ => rfl
  | foreignFirst least foreign => cases none.symm.trans least
  | foreignLast least greatest foreign => cases none.symm.trans least
  | found least greatest => cases none.symm.trans least

theorem eq_of_foreignFirst (h : Recovered t r) {key : Bytes} (least : t.firstKey? = some key)
    (foreign : key.length ≠ 8) : r = .error (.keyDecode key.length) := by
  cases h with
  | empty nothing => cases least.symm.trans (Table.firstKey?_eq_none_iff.2 nothing)
  | foreignFirst least' _ =>
    obtain rfl := Option.some.inj (least.symm.trans least')
    rfl
  | foreignLast least' _ _ =>
    obtain rfl := Option.some.inj (least.symm.trans least')
    exact absurd (Key.length_encode _) foreign
  | found least' _ =>
    obtain rfl := Option.some.inj (least.symm.trans least')
    exact absurd (Key.length_encode _) foreign

theorem eq_of_foreignLast (h : Recovered t r) {first key : Bytes} (least : t.firstKey? = some first)
    (known : first.length = 8) (greatest : t.lastKey? = some key) (foreign : key.length ≠ 8) :
    r = .error (.keyDecode key.length) := by
  cases h with
  | empty nothing => cases least.symm.trans (Table.firstKey?_eq_none_iff.2 nothing)
  | foreignFirst least' foreign' =>
    obtain rfl := Option.some.inj (least.symm.trans least')
    exact absurd known foreign'
  | foreignLast _ greatest' _ =>
    obtain rfl := Option.some.inj (greatest.symm.trans greatest')
    rfl
  | found _ greatest' =>
    obtain rfl := Option.some.inj (greatest.symm.trans greatest')
    exact absurd (Key.length_encode _) foreign

theorem eq_of_found (h : Recovered t r) {first last : UInt64}
    (least : t.firstKey? = some (Key.encode first)) (greatest : t.lastKey? = some (Key.encode last)) :
    r = .ok (if first = 0 then 0 else first - 1, last) := by
  cases h with
  | empty nothing => cases least.symm.trans (Table.firstKey?_eq_none_iff.2 nothing)
  | foreignFirst least' foreign =>
    obtain rfl := Option.some.inj (least.symm.trans least')
    exact absurd (Key.length_encode _) foreign
  | foreignLast _ greatest' foreign =>
    obtain rfl := Option.some.inj (greatest.symm.trans greatest')
    exact absurd (Key.length_encode _) foreign
  | found least' greatest' =>
    obtain rfl := Key.encode_injective (Option.some.inj (least.symm.trans least'))
    obtain rfl := Key.encode_injective (Option.some.inj (greatest.symm.trans greatest'))
    rfl

end Recovered

/-! ## Stores without failures -/

namespace Queue

section Reliable

variable {σ : Type} [OrderedStore σ] [ReliableStore σ]

open ReliableStore (content)

/-- Recovering the counters of a store without failures, told by its content, which stays as it is. -/
theorem recovered_content (s : σ) :
    Recovered (content s) (recover s).1 ∧ content (recover s).2.1 = content s := by
  have same := recover_map ReliableStore.hom.toReadHom s
  obtain ⟨cases, kept⟩ := recovered (content s)
  rw [same] at cases kept
  exact ⟨cases, kept⟩

/-- What recovering comes to, whatever the store holds: nothing at all starts at 0, a foreign key at either
end is reported by its length, the least key first, and else the counters are read off the two keys. They
are in order then, all stored ids but 0 are between them, the greatest one is `tail`, and recovering once
more comes to the same. The content stays as it is in each case. -/
theorem recover_classified (s : σ) :
    ((content s).entries = [] → (recover s).1 = .ok (0, 0)) ∧
      (∀ first last, (content s).firstKey? = some first → (content s).lastKey? = some last →
        (first.length ≠ 8 → (recover s).1 = .error (.keyDecode first.length)) ∧
          (first.length = 8 → last.length ≠ 8 → (recover s).1 = .error (.keyDecode last.length)) ∧
          ∀ a b, Key.decode first = .ok a → Key.decode last = .ok b →
            (recover s).1 = .ok (if a = 0 then 0 else a - 1, b)) ∧
      (∀ head tail, (recover s).1 = .ok (head, tail) →
        head ≤ tail ∧
          (∀ key id, ((content s).get? key).isSome → Key.decode key = .ok id →
            (id = 0 ∨ head < id) ∧ id ≤ tail) ∧
          ((content s).entries ≠ [] → (content s).lastKey? = some (Key.encode tail))) ∧
      (recover (recover s).2.1).1 = (recover s).1 ∧ content (recover s).2.1 = content s := by
  obtain ⟨cases, kept⟩ := recovered_content s
  refine ⟨?empty, ?keys, ?counters, ?again, kept⟩
  case empty =>
    intro nothing
    apply cases.eq_of_empty
    intro key
    rw [Table.get?, nothing, Table.find?]
  case keys =>
    intro first last least greatest
    refine ⟨cases.eq_of_foreignFirst least, fun known => cases.eq_of_foreignLast least known greatest, ?_⟩
    intro a b first_is last_is
    rw [Key.eq_encode_of_decode first_is] at least
    rw [Key.eq_encode_of_decode last_is] at greatest
    exact cases.eq_of_found least greatest
  case counters =>
    intro head tail result
    rw [result] at cases
    refine ⟨cases.ordered, ?_, ?_⟩
    · intro key id stored decoded
      rw [Key.eq_encode_of_decode decoded] at stored
      exact ⟨cases.head_lt stored, Key.encode_le_iff.1 (cases.le_tail stored)⟩
    · intro something
      obtain ⟨e, mem⟩ := List.exists_mem_of_ne_nil _ something
      exact cases.lastKey?_eq ⟨e.1, Table.isSome_get?_of_mem mem⟩
  case again =>
    have first := congrArg Prod.fst (recover_map ReliableStore.hom.toReadHom s)
    have second := congrArg Prod.fst (recover_map ReliableStore.hom.toReadHom (recover s).2.1)
    rw [kept] at second
    exact second.symm.trans first

end Reliable

end Queue

end DurableQueue
