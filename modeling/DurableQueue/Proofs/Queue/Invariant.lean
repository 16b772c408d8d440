import DurableQueue.Proofs.Queue.Refinement

/-!
# The counters bound the stored keys

Whatever is called on a queue, in whatever order, and whichever calls of a lawful store fail in it, the
keys in the store are exactly those of the ids above `head` and up to `tail`, for an open handle and for
a closed one (`Session.after_sound`). The list model carries the invariant: each state of a session is
represented by some list, and the ids of a list are consecutive.
-/

namespace DurableQueue

/-- The keys of a range of ids that starts at 1 or later, as a span. -/
theorem Spans.of_range {t : Table} {first last : UInt64} (pos : 1 ≤ first) (le : first ≤ last)
    (keys : t.HasKeys fun id => first ≤ id ∧ id ≤ last) : Spans t (first - 1) last := by
  have before : (first - 1).toNat = first.toNat - 1 := UInt64.toNat_sub_of_le first 1 pos
  rw [UInt64.le_iff_toNat_le] at pos le
  change 1 ≤ first.toNat at pos
  constructor
  · rw [UInt64.le_iff_toNat_le]
    omega
  · apply keys.congr
    intro id
    simp only [UInt64.le_iff_toNat_le, UInt64.lt_iff_toNat_lt, before]
    omega

namespace Session

/-- The keys are those of a range of ids, and the counters of the handle bound it. -/
def Sound (s : Session Table) : Prop :=
  ∃ head tail, Spans s.storage head tail ∧ ∀ q, s.handle = some q → q.head = head ∧ q.tail = tail

theorem sound_handle_iff {q : Queue} {t : Table} :
    Sound ⟨some q, t⟩ ↔ Spans t q.head q.tail := by
  constructor
  · rintro ⟨head, tail, spans, bound⟩
    obtain ⟨rfl, rfl⟩ := bound q rfl
    exact spans
  · intro spans
    refine ⟨q.head, q.tail, spans, ?_⟩
    intro q' same
    obtain rfl := Option.some.inj same
    exact ⟨rfl, rfl⟩

theorem sound_of_represents {f : Fifo} {s : Session Table} (rep : f.Represents s) : s.Sound := by
  obtain ⟨head, tail, stores, bound⟩ := rep.stores
  exact ⟨head, tail, stores.spans, bound⟩

/-- After any calls on a store that was empty or held the keys of a range of ids, the keys are those of
a range of ids again, and the counters of the handle bound it. -/
theorem after_sound {σ : Type} [OrderedStore σ] [LawfulStore σ] {s : σ}
    (start : LawfulStore.content s = .empty ∨ ∃ first last : UInt64, 1 ≤ first ∧ first ≤ last ∧
      (LawfulStore.content s).HasKeys fun id => first ≤ id ∧ id ≤ last)
    (calls : List Call) : ((⟨none, s⟩ : Session σ).after calls).view.Sound := by
  obtain ⟨head, tail, items, stores⟩ :
      ∃ head tail items, Stores (LawfulStore.content s) head tail items := by
    rcases start with nothing | ⟨first, last, pos, le, keys⟩
    · rw [nothing]
      exact ⟨0, 0, [], .empty 0⟩
    · exact ⟨first - 1, last, (Spans.of_range pos le keys).exists_stores⟩
  obtain ⟨f, rep⟩ := after_represented (s := ⟨none, s⟩) (.absent stores) calls
  exact sound_of_represents rep

/-- Ids 3 and 4, a failing deletion and an update of an item that is not there. -/
theorem after_sound_flaky :
    ((⟨none, ⟨(Table.empty.insert (Key.encode 3) [7]).insert (Key.encode 4) [8],
        [none, none, none, some (.io "down")]⟩⟩ : Session (Flaky fun _ => true)).after
      [.reopen "q", .on .dequeue, .on (.update ⟨9, [], []⟩ [1]), .on .close]).view.Sound := by
  have keys : ((Table.empty.insert (Key.encode 3) [7]).insert (Key.encode 4) [8]).HasKeys
      fun id => 3 ≤ id ∧ id ≤ 4 := by
    apply (((Stores.empty 2).added (by decide) [7]).added (by decide) [8]).spans.keys.congr
    intro id
    rw [UInt64.lt_iff_toNat_lt, UInt64.le_iff_toNat_le (a := 3)]
    exact Iff.rfl
  exact after_sound (σ := Flaky fun _ => true) (s := ⟨_, _⟩)
    (Or.inr ⟨3, 4, by decide, by decide, keys⟩) _

end Session

end DurableQueue
