import DurableQueue.Proofs.Log.Modules

/-!
# The order of the modules

The settings hold the levels of modules as a map, and nothing says in which order its entries are visited when the
filter is made. Each name comes up once there, so with unbroken names the directives of the entries are about
different targets, and they say the same of each target in every order (`Directive.said?_ofEntries_of_perm`).

What the filter shows is then a matter of names and levels (`Filter.verdicts_chosen`): for each target, the level of
the entry that counts, or that of the settings if there is none (`Directive.exists_leads_or`).
-/

namespace DurableQueue

namespace Directive

/-! ## Entries that count -/

theorem Leads.cons {entries : List (String × String)} {target name level : String}
    (h : Leads entries target name level) {entry : String × String}
    (shorter : entry.1.toList <+: target.toList → entry.1.length ≤ name.length) :
    Leads (entry :: entries) target name level := by
  obtain ⟨before, after, split, last⟩ := h.last
  refine ⟨⟨entry :: before, after, ?_, last⟩, h.begins, List.forall_mem_cons.2 ⟨shorter, h.longest⟩⟩
  rw [split, List.cons_append]

theorem Leads.head {entries : List (String × String)} {target : String} {entry : String × String}
    (begins : entry.1.toList <+: target.toList)
    (longer : ∀ other ∈ entries, other.1.toList <+: target.toList → other.1.length < entry.1.length) :
    Leads (entry :: entries) target entry.1 entry.2 := by
  refine ⟨⟨[], entries, rfl, fun later there same => ?_⟩, begins, ?_⟩
  · exact absurd (congrArg String.length same) (Nat.ne_of_lt (longer later there (same ▸ begins)))
  · exact List.forall_mem_cons.2 ⟨fun _ => Nat.le_refl _, fun other there other_begins =>
      Nat.le_of_lt (longer other there other_begins)⟩

/-- If the name of an entry begins a target, there is an entry that counts for it. -/
theorem exists_leads_or (entries : List (String × String)) (target : String) :
    (∃ name level, Leads entries target name level) ∨
      ∀ entry ∈ entries, ¬ entry.1.toList <+: target.toList := by
  induction entries with
  | nil => exact .inr (List.forall_mem_nil _)
  | cons entry entries ih =>
    by_cases begins : entry.1.toList <+: target.toList
    · rcases ih with ⟨name, level, leads⟩ | none
      -- an entry whose name is just as long has the same name, and the later one counts
      · by_cases longer : name.length < entry.1.length
        · exact .inl ⟨_, _, .head begins fun other there other_begins =>
            Nat.lt_of_le_of_lt (leads.longest other there other_begins) longer⟩
        · exact .inl ⟨name, level, leads.cons fun _ => Nat.le_of_not_lt longer⟩
      · exact .inl ⟨_, _, .head begins fun other there other_begins => absurd other_begins (none other there)⟩
    · rcases ih with ⟨name, level, leads⟩ | none
      · exact .inl ⟨name, level, leads.cons fun begins' => absurd begins' begins⟩
      · exact .inr (List.forall_mem_cons.2 ⟨begins, none⟩)

/-! ## Different names -/

theorem Good.of_perm {entries visited : List (String × String)} (perm : visited.Perm entries)
    (good : Good entries) : Good visited := fun entry there => good entry (perm.mem_iff.1 there)

theorem Good.plain {entries : List (String × String)} (good : Good entries)
    (unbroken : ∀ entry ∈ entries, Unbroken entry.1) : ∀ entry ∈ entries, Plain entry.1 := by
  intro entry there
  obtain ⟨d, read⟩ := good entry there
  exact (unbroken entry there).plain read

/-- The directives of entries are about their names, one after the other. -/
theorem map_subject?_ofEntries {entries : List (String × String)} (good : Good entries)
    (plain : ∀ entry ∈ entries, Plain entry.1) :
    (ofEntries entries).map subject? = entries.map fun entry => some (some entry.1) := by
  induction entries with
  | nil => rfl
  | cons entry entries ih =>
    obtain ⟨⟨d, read⟩, good⟩ := List.forall_mem_cons.1 good
    obtain ⟨entry_plain, plain⟩ := List.forall_mem_cons.1 plain
    obtain ⟨v, -, rfl⟩ := (ofEntry_eq_ok_iff entry_plain).1 read
    rw [ofEntries_cons read, List.map_cons, List.map_cons, ih good plain]
    rfl

theorem said?_ofEntries_of_perm {entries visited : List (String × String)} (perm : visited.Perm entries)
    (distinct : (entries.map Prod.fst).Nodup) (good : Good entries)
    (plain : ∀ entry ∈ entries, Plain entry.1) (t : Option String) :
    said? t (ofEntries visited) = said? t (ofEntries entries) := by
  have subjects : entries.map (fun entry => some (some entry.1)) =
      (entries.map Prod.fst).map fun name => some (some name) := by
    rw [List.map_map]
    rfl
  have nodup : ((ofEntries entries).map subject?).Nodup := by
    rw [map_subject?_ofEntries good plain, subjects]
    exact distinct.map fun _ _ same => Option.some.inj (Option.some.inj same)
  exact said?_of_perm nodup (perm.filterMap _) t

end Directive

namespace Filter

open Directive (ofEntry ofEntries Good Plain Leads Unbroken)

theorem unbroken_of_mem_listed {w : Surroundings} {entry : String × String} (there : entry ∈ listed w)
    (bracket : '[' ∉ entry.1.toList) : Unbroken entry.1 :=
  have ⟨blank, equals, comma, _⟩ := of_mem_modulesIn there
  ⟨blank, equals, bracket, comma⟩

theorem on_of_named {s : LoggingSettings} {most : Level}
    (named : (s.level, Verbosity.upTo most) ∈ Verbosity.all) : Option.elim (some s) "info" (·.level) ≠ "off" := by
  intro (off : s.level = "off")
  rw [off] at named
  revert named
  cases most <;> decide

/-- What a filter shows that was made of entries over a level for everything else. -/
structure Verdicts (filter : Filter) (most : Level) (entries : List (String × String)) : Prop where
  leads : ∀ target name level, Leads entries target name level →
    ∃ v, ofEntry (name, level) = .ok (.events (some name) v) ∧ ∀ l, filter.shows target l = v.admits l
  rest : ∀ target, (∀ entry ∈ entries, ¬ entry.1.toList <+: target.toList) →
    ∀ l, filter.shows target l = (Verbosity.upTo most).admits l
  /-- There is no third case. -/
  either : ∀ target, (∃ name level, Leads entries target name level) ∨
    ∀ entry ∈ entries, ¬ entry.1.toList <+: target.toList

/-- It does not matter in which of two orders the modules of the settings are visited. -/
structure Alike (w : Surroundings) (s visited : LoggingSettings) (most : Level) : Prop where
  succeeds : (∃ filter, (chosen w (some visited)).1 = .ok filter) ↔ ∃ filter, (chosen w (some s)).1 = .ok filter
  shows : ∀ filter filter', (chosen w (some s)).1 = .ok filter → (chosen w (some visited)).1 = .ok filter' →
    ∀ target l, filter'.shows target l = filter.shows target l
  /-- In both orders the last entry for the longest name decides, first those of the settings, then those that the
  environment lists. -/
  verdicts : (∀ entry ∈ listed w, '[' ∉ entry.1.toList) → ∀ filter, (chosen w (some s)).1 = .ok filter →
    Verdicts filter most (entries w (some s))

section Visited

variable {w : Surroundings} {s : LoggingSettings} {most : Level}
  (unread : (w.value? "FIFOQ_LOG").bind strict? = none) (named : (s.level, Verbosity.upTo most) ∈ Verbosity.all)
include unread named

/-- What the filter says of a target, where the level of the settings has a name. -/
theorem said?_chosen_named {filter : Filter} (chosen_ok : (chosen w (some s)).1 = .ok filter) (t : Option String) :
    filter.said? t = (Directive.said? t (ofEntries (entries w (some s)))).or
      (said? ⟨[⟨none, .upTo most⟩]⟩ t) := by
  rw [said?_chosen unread (on_of_named named) chosen_ok, ← lenient_of_name named]
  rfl

theorem verdicts_chosen (unbroken : ∀ entry ∈ entries w (some s), Unbroken entry.1) {filter : Filter}
    (chosen_ok : (chosen w (some s)).1 = .ok filter) : Verdicts filter most (entries w (some s)) := by
  have on := on_of_named named
  have good := ((chosen_eq_ok_iff unread on).1 chosen_ok).1
  have plain := good.plain unbroken
  have single := single_chosen unread on chosen_ok
  have said := said?_chosen_named unread named chosen_ok
  have only_level {t : Option String} (there : said? ⟨[⟨none, .upTo most⟩]⟩ t ≠ none) : t = none := by
    cases t with
    | none => rfl
    | some name => exact absurd rfl there
  refine ⟨fun target name level leads => ?leads, fun target uncovered l => ?rest, Directive.exists_leads_or _⟩
  case leads =>
    obtain ⟨d, read⟩ := good _ leads.mem
    obtain ⟨v, given, rfl⟩ := (Directive.ofEntry_eq_ok_iff (plain _ leads.mem)).1 read
    refine ⟨v, read, shows_of_decides single (leads.decides plain given said fun t there _ => ?_)⟩
    rw [only_level there]
    exact Nat.zero_le _
  case rest =>
    have silent {t : Option String} (begins : Target.Begins t target) :
        Directive.said? t (ofEntries (entries w (some s))) = none := by
      refine Directive.said?_ofEntries_eq_none plain ?_
      rintro entry there rfl
      exact uncovered entry there begins
    refine shows_of_decides single ⟨none, ?_, trivial, fun t there begins => ?_⟩ l
    · rw [said, silent (t := none) trivial, Option.none_or]
      rfl
    · rw [said, silent begins, Option.none_or] at there
      rw [only_level there]

/-- Where the level of the settings has a name and those of their modules are unbroken, it does not matter in which
order the modules are visited: the filter can be made in every order or in none, it shows the same events, and
these are up to the entry that counts. -/
theorem chosen_of_perm (distinct : (s.modules.map Prod.fst).Nodup) (unbroken : ∀ entry ∈ s.modules, Unbroken entry.1)
    {visited : List (String × String)} (perm : visited.Perm s.modules) :
    Alike w s { s with modules := visited } most := by
  have named' : (({ s with modules := visited } : LoggingSettings).level, Verbosity.upTo most) ∈ Verbosity.all := named
  have on := on_of_named named
  have on' := on_of_named named'
  have perm_entries : (entries w (some { s with modules := visited })).Perm (entries w (some s)) :=
    perm.append_right _
  refine ⟨?succeeds, ?shows, fun bracket filter chosen_ok => ?verdicts⟩
  case succeeds =>
    simp only [chosen_eq_ok_iff unread on, chosen_eq_ok_iff unread on', exists_and_left, exists_eq, and_true]
    exact ⟨.of_perm perm_entries.symm, .of_perm perm_entries⟩
  case shows =>
    intro filter filter' chosen_ok chosen_ok' target l
    refine shows_congr (single_chosen unread on' chosen_ok') (single_chosen unread on chosen_ok) (fun t => ?_) target l
    have good : Good s.modules := (List.forall_mem_append.1 ((chosen_eq_ok_iff unread on).1 chosen_ok).1).1
    have same := Directive.said?_ofEntries_of_perm perm distinct good (good.plain unbroken) t
    rw [said?_chosen_named unread named chosen_ok, said?_chosen_named unread named' chosen_ok']
    unfold entries
    rw [Directive.ofEntries_append, Directive.ofEntries_append, Directive.said?_append, Directive.said?_append]
    exact congrArg (fun first => ((Directive.said? t (ofEntries (listed w))).or first).or _) same
  case verdicts =>
    refine verdicts_chosen unread named (List.forall_mem_append.2 ⟨unbroken, fun entry there => ?_⟩) chosen_ok
    exact unbroken_of_mem_listed there (bracket entry there)

end Visited

/-- Modules within one another. -/
def nested : LoggingSettings :=
  ⟨"warn", "text", "stdout", "", true,
    [("fifoq", "info"), ("fifoq::queue", "debug"), ("fifoq::queue::inner", "off")]⟩

/-- The modules in another order. -/
def nestedVisited : List (String × String) :=
  [("fifoq::queue::inner", "off"), ("fifoq", "info"), ("fifoq::queue", "debug")]

/-- Surroundings that list a level for one of the modules, behind another one for it and what is no entry. -/
def relisted : Surroundings := ⟨[("FIFOQ_LOG_MODULES", "fifoq=error,fifoq,fifoq = trace")], "/", .empty⟩

theorem listed_relisted : listed relisted = [("fifoq", "error"), ("fifoq", "trace")] := by decide +kernel

/-- The last of the three entries for the module counts. -/
theorem leads_relisted : Leads (entries relisted (some nested)) "fifoq" "fifoq" "trace" := by
  unfold entries
  rw [listed_relisted]
  exact ⟨⟨nested.modules ++ [("fifoq", "error")], [], rfl, nofun⟩, List.prefix_rfl,
    fun _ _ begins => begins.length_le⟩

/-- In two orders the rules are different ones, but not what is shown, by the general theorem: `fifoq` shows the
last level that is listed for it, not that of the settings. -/
theorem chosen_of_perm_nested : nestedVisited.Perm nested.modules ∧ (nested.modules.map Prod.fst).Nodup ∧
    (∀ entry ∈ nested.modules, Unbroken entry.1) ∧
    Alike relisted nested { nested with modules := nestedVisited } .warn ∧
    listed relisted = [("fifoq", "error"), ("fifoq", "trace")] ∧
    ∃ filter filter', (chosen relisted (some nested)).1 = .ok filter ∧
      (chosen relisted (some { nested with modules := nestedVisited })).1 = .ok filter' ∧ filter ≠ filter' ∧
      (∀ target l, filter'.shows target l = filter.shows target l) ∧
      Verdicts filter .warn (entries relisted nested) ∧
      ∀ l, filter.shows "fifoq" l = (Verbosity.upTo .trace).admits l := by
  have perm : nestedVisited.Perm nested.modules := by decide
  have distinct : (nested.modules.map Prod.fst).Nodup := by decide
  have unbroken : ∀ entry ∈ nested.modules, Unbroken entry.1 := by
    simp only [nested, List.forall_mem_cons]
    exact ⟨⟨by decide, by decide, by decide, by decide⟩, ⟨by decide, by decide, by decide, by decide⟩,
      ⟨by decide, by decide, by decide, by decide⟩, nofun⟩
  have alike : Alike relisted nested { nested with modules := nestedVisited } .warn :=
    chosen_of_perm rfl (by decide) distinct unbroken perm
  have first : (chosen relisted (some nested)).1 = .ok ⟨[⟨none, .upTo .warn⟩, ⟨some "fifoq::queue", .upTo .debug⟩,
      ⟨some "fifoq::queue::inner", .off⟩, ⟨some "fifoq", .upTo .trace⟩]⟩ := by decide +kernel
  have second : (chosen relisted (some { nested with modules := nestedVisited })).1 = .ok ⟨[⟨none, .upTo .warn⟩,
      ⟨some "fifoq::queue::inner", .off⟩, ⟨some "fifoq::queue", .upTo .debug⟩, ⟨some "fifoq", .upTo .trace⟩]⟩ := by
    decide +kernel
  have bracket : ∀ entry ∈ listed relisted, '[' ∉ entry.1.toList := by
    rw [listed_relisted]
    simp only [List.forall_mem_cons]
    exact ⟨by decide, by decide, nofun⟩
  have verdicts := alike.verdicts bracket _ first
  obtain ⟨v, read, shows⟩ := verdicts.leads "fifoq" "fifoq" "trace" leads_relisted
  have trace : ofEntry ("fifoq", "trace") = .ok (.events (some "fifoq") (.upTo .trace)) := by decide +kernel
  obtain rfl : v = .upTo .trace := (Directive.events.inj (Except.ok.inj (read.symm.trans trace))).2
  exact ⟨perm, distinct, unbroken, alike, listed_relisted, _, _, first, second, by decide, alike.shows _ _ first second,
    verdicts, shows⟩

end Filter

end DurableQueue
