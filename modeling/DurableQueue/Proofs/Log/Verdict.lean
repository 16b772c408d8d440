import DurableQueue.Log.Filter
import Mathlib.Data.List.Nodup

/-!
# What a filter shows

A filter is seen here as what it says about targets: a verbosity for some of them (`Filter.said?`). Adding
directives one after the other, the last one about a target is what is said of it (`Filter.said?_foldl_add`), and
what is said of two targets does not depend on the order (`Directive.said?_of_perm`).

Of the targets that begin the one of an event, the longest decides (`Filter.Decides`, `Filter.shows_iff`). Two
filters that say the same of every target show the same events (`Filter.shows_congr`), whatever the order of their
rules.
-/

namespace DurableQueue

/-! ## Targets -/

namespace Target

/-- Does what is said of the first target hold for events of the second one? Without a target it is said of all
events. -/
def Begins : Option String → String → Prop
  | none, _ => True
  | some front, target => front.toList <+: target.toList

/-- How closely a target describes those that it begins. -/
def closeness : Option String → Nat
  | none => 0
  | some front => front.length + 1

/-- Of the targets that begin a given one, no two are equally close. -/
theorem eq_of_closeness {t t' : Option String} {target : String} (begins : Begins t target)
    (begins' : Begins t' target) (equal : closeness t = closeness t') : t = t' := by
  cases t with
  | none =>
    cases t' with
    | none => rfl
    | some front => cases equal
  | some front =>
    cases t' with
    | none => cases equal
    | some front' =>
      have length : front.toList.length = front'.toList.length := by
        rw [String.length_toList, String.length_toList]
        exact Nat.succ.inj equal
      have same := (List.prefix_of_prefix_length_le begins begins' (Nat.le_of_eq length)).eq_of_length length
      rw [String.toList_inj.1 same]

end Target

namespace Rule

theorem covers_iff {rule : Rule} {target : String} : rule.covers target = true ↔ Target.Begins rule.target target := by
  unfold covers Target.Begins
  split <;> simp_all

theorem closeness_eq (rule : Rule) : rule.closeness = Target.closeness rule.target := by
  unfold closeness Target.closeness
  split <;> simp_all

end Rule

/-! ## What directives say -/

namespace Directive

/-- The verbosity that the directive asks for, if it is about the target. -/
def about? (t : Option String) : Directive → Option Verbosity
  | events t' v => if t' = t then some v else none
  | spans _ => none

/-- The verbosity that the last directive about the target asks for. -/
def said? (t : Option String) : List Directive → Option Verbosity
  | [] => none
  | d :: ds => (said? t ds).or (d.about? t)

theorem said?_append (t : Option String) (ds es : List Directive) :
    said? t (ds ++ es) = (said? t es).or (said? t ds) := by
  induction ds with
  | nil => rw [List.nil_append, said?, Option.or_none]
  | cons d ds ih => rw [List.cons_append, said?, ih, said?, Option.or_assoc]

theorem about?_eq_some_iff {t : Option String} {d : Directive} {v : Verbosity} :
    d.about? t = some v ↔ d = .events t v := by
  cases d with
  | spans => simp [about?]
  | events t' v' => simp [about?]

/-- What is said of a target is said by a directive about it, and by no later one. -/
theorem said?_eq_some_iff {t : Option String} {ds : List Directive} {v : Verbosity} :
    said? t ds = some v ↔ ∃ before after, ds = before ++ .events t v :: after ∧ said? t after = none := by
  induction ds with
  | nil => simp [said?]
  | cons d ds ih =>
    rw [said?]
    constructor
    · intro said
      cases later : said? t ds with
      | some v' =>
        rw [later, Option.some_or] at said
        obtain ⟨before, after, rfl, rest⟩ := ih.1 (later.trans said)
        exact ⟨d :: before, after, rfl, rest⟩
      | none =>
        rw [later, Option.none_or] at said
        obtain rfl := about?_eq_some_iff.1 said
        exact ⟨[], ds, rfl, later⟩
    · rintro ⟨before, after, split, rest⟩
      cases before with
      | nil =>
        obtain ⟨rfl, rfl⟩ := List.cons.inj split
        rw [rest, Option.none_or]
        exact about?_eq_some_iff.2 rfl
      | cons d' before =>
        obtain ⟨rfl, rfl⟩ := List.cons.inj split
        rw [ih.2 ⟨before, after, rfl, rest⟩, Option.some_or]

theorem mem_of_said? {t : Option String} {ds : List Directive} {v : Verbosity} (said : said? t ds = some v) :
    .events t v ∈ ds := by
  obtain ⟨before, after, rfl, -⟩ := said?_eq_some_iff.1 said
  exact List.mem_append_right _ List.mem_cons_self

theorem said?_eq_none_iff {t : Option String} {ds : List Directive} :
    said? t ds = none ↔ ∀ v, .events t v ∉ ds := by
  induction ds with
  | nil => simp [said?]
  | cons d ds ih =>
    have here : d.about? t = none ↔ ∀ v, Directive.events t v ≠ d := by
      rw [Option.eq_none_iff_forall_ne_some]
      exact forall_congr' fun v => not_congr (about?_eq_some_iff.trans eq_comm)
    rw [said?, Option.or_eq_none_iff, ih, here, ← forall_and]
    simp only [List.mem_cons, not_or, and_comm]

/-- The target of a directive about events. -/
def subject? : Directive → Option (Option String)
  | events t _ => some t
  | spans _ => none

/-- Where no target comes up twice, every directive about a target counts. -/
theorem said?_eq_some_iff_mem {t : Option String} {ds : List Directive} {v : Verbosity}
    (nodup : (ds.map subject?).Nodup) : said? t ds = some v ↔ .events t v ∈ ds := by
  refine ⟨mem_of_said?, fun there => ?_⟩
  obtain ⟨before, after, rfl⟩ := List.append_of_mem there
  refine said?_eq_some_iff.2 ⟨before, after, rfl, said?_eq_none_iff.2 fun v' again => ?_⟩
  rw [List.map_append, List.map_cons] at nodup
  exact (List.nodup_cons.1 (List.nodup_append.1 nodup).2.1).1 (List.mem_map.2 ⟨_, again, rfl⟩)

/-- Where no target comes up twice, the order of the directives does not matter. -/
theorem said?_of_perm {ds es : List Directive} (nodup : (ds.map subject?).Nodup) (perm : es.Perm ds)
    (t : Option String) : said? t es = said? t ds := by
  have nodup' : (es.map subject?).Nodup := ((perm.map subject?).nodup_iff).2 nodup
  refine Option.ext fun v => ?_
  rw [said?_eq_some_iff_mem nodup, said?_eq_some_iff_mem nodup', perm.mem_iff]

end Directive

/-! ## What filters say -/

namespace Filter

/-- The verbosity that the filter has for a target. -/
def said? (filter : Filter) (t : Option String) : Option Verbosity :=
  (filter.rules.find? (·.target = t)).map (·.verbosity)

/-- There is one rule at most for each target. -/
def Single (filter : Filter) : Prop := (filter.rules.map (·.target)).Nodup

theorem single_empty : Single ⟨[]⟩ := List.nodup_nil

theorem Single.add {filter : Filter} (h : filter.Single) (d : Directive) : (filter.add d).Single := by
  cases d with
  | spans => exact h
  | events t v =>
    unfold Single Filter.add
    rw [List.map_append, List.nodup_append]
    refine ⟨h.sublist (List.filter_sublist.map _), List.nodup_singleton _, ?_⟩
    intro t' there t'' here
    obtain ⟨rule, kept, rfl⟩ := List.mem_map.1 there
    obtain rfl := List.mem_singleton.1 here
    exact of_decide_eq_true (List.mem_filter.1 kept).2

theorem Single.foldl_add {filter : Filter} (h : filter.Single) (ds : List Directive) :
    (ds.foldl Filter.add filter).Single := by
  induction ds generalizing filter with
  | nil => exact h
  | cons d ds ih => exact ih (h.add d)

theorem said?_add (filter : Filter) (d : Directive) (t : Option String) :
    (filter.add d).said? t = (d.about? t).or (filter.said? t) := by
  cases d with
  | spans => rfl
  | events t' v =>
    unfold Filter.said? Filter.add Directive.about?
    dsimp only
    rw [List.find?_append]
    by_cases same : t' = t
    · subst same
      have gone : (filter.rules.filter (fun rule => rule.target ≠ t')).find? (·.target = t') = none :=
        List.find?_eq_none.2 fun rule there => by simpa using (List.mem_filter.1 there).2
      rw [gone, if_pos rfl, Option.none_or, Option.some_or, List.find?_cons, decide_eq_true rfl]
      rfl
    · have kept : (filter.rules.filter (fun rule => rule.target ≠ t')).find? (·.target = t) =
          filter.rules.find? (·.target = t) := by
        rw [List.find?_filter]
        refine congrArg (fun test => filter.rules.find? test) (funext fun rule => ?_)
        by_cases about : rule.target = t
        · simp [about, Ne.symm same]
        · simp [about]
      rw [kept, if_neg same, Option.none_or, List.find?_cons, decide_eq_false same, List.find?_nil, Option.or_none]

theorem said?_foldl_add (filter : Filter) (ds : List Directive) (t : Option String) :
    (ds.foldl Filter.add filter).said? t = (Directive.said? t ds).or (filter.said? t) := by
  induction ds generalizing filter with
  | nil => rfl
  | cons d ds ih => rw [List.foldl_cons, ih, said?_add, Directive.said?, Option.or_assoc]

theorem said?_eq_some_iff {filter : Filter} (single : filter.Single) {t : Option String} {v : Verbosity} :
    filter.said? t = some v ↔ ⟨t, v⟩ ∈ filter.rules := by
  unfold Filter.said?
  rw [Option.map_eq_some_iff]
  constructor
  · rintro ⟨⟨t', v'⟩, found, rfl⟩
    obtain rfl : t' = t := by simpa using List.find?_some found
    exact List.mem_of_find?_eq_some found
  · intro there
    obtain ⟨rule, found⟩ : ∃ rule, filter.rules.find? (·.target = t) = some rule :=
      Option.isSome_iff_exists.1 (List.find?_isSome.2 ⟨_, there, decide_eq_true rfl⟩)
    have same : rule.target = t := by simpa using List.find?_some found
    have itself := List.inj_on_of_nodup_map single (List.mem_of_find?_eq_some found) there same
    exact ⟨rule, found, congrArg Rule.verbosity itself⟩

/-! ## What filters show -/

/-- Where a verbosity is said of some targets, the one for events of the given target: that of the longest target
that begins it. -/
def Decides (said : Option String → Option Verbosity) (target : String) (v : Verbosity) : Prop :=
  ∃ t, said t = some v ∧ Target.Begins t target ∧
    ∀ t', said t' ≠ none → Target.Begins t' target → Target.closeness t' ≤ Target.closeness t

theorem Decides.unique {said : Option String → Option Verbosity} {target : String} {v v' : Verbosity}
    (h : Decides said target v) (h' : Decides said target v') : v = v' := by
  obtain ⟨t, said_t, begins, longest⟩ := h
  obtain ⟨t', said_t', begins', longest'⟩ := h'
  have le := longest' t (by rw [said_t]; nofun) begins
  have le' := longest t' (by rw [said_t']; nofun) begins'
  obtain rfl := Target.eq_of_closeness begins begins' (Nat.le_antisymm le le')
  exact Option.some.inj (said_t.symm.trans said_t')

theorem decidingRule?_eq_some_iff {filter : Filter} (single : filter.Single) {target : String} {best : Rule} :
    decidingRule? target filter.rules = some best ↔ best ∈ filter.rules ∧ best.covers target = true ∧
      ∀ rule ∈ filter.rules, rule.covers target = true → rule.closeness ≤ best.closeness := by
  constructor
  · intro decides
    obtain ⟨there, covers⟩ := mem_of_decidingRule? decides
    refine ⟨there, covers, fun rule in_rules rule_covers => ?_⟩
    obtain ⟨best', decides', closer⟩ := exists_decidingRule? in_rules rule_covers
    exact Option.some.inj (decides.symm.trans decides') ▸ closer
  · rintro ⟨there, covers, closest⟩
    obtain ⟨best', decides', closer⟩ := exists_decidingRule? there covers
    obtain ⟨there', covers'⟩ := mem_of_decidingRule? decides'
    have equal := Nat.le_antisymm closer (closest best' there' covers')
    rw [Rule.closeness_eq, Rule.closeness_eq] at equal
    have same := Target.eq_of_closeness (Rule.covers_iff.1 covers) (Rule.covers_iff.1 covers') equal
    rw [decides', List.inj_on_of_nodup_map single there there' same]

/-- An event is shown if the verbosity that decides about its target admits its level. -/
theorem shows_iff {filter : Filter} (single : filter.Single) {target : String} {level : Level} :
    filter.shows target level = true ↔ ∃ v, Decides filter.said? target v ∧ v.admits level = true := by
  unfold Filter.shows
  constructor
  · intro shown
    split at shown
    · next best decides =>
      obtain ⟨there, covers, closest⟩ := (decidingRule?_eq_some_iff single).1 decides
      refine ⟨best.verbosity, ⟨best.target, (said?_eq_some_iff single).2 there, Rule.covers_iff.1 covers, ?_⟩, shown⟩
      intro t' said begins
      obtain ⟨v', said⟩ := Option.ne_none_iff_exists'.1 said
      have closer := closest ⟨t', v'⟩ ((said?_eq_some_iff single).1 said) (Rule.covers_iff.2 begins)
      rwa [Rule.closeness_eq, Rule.closeness_eq] at closer
    · cases shown
  · rintro ⟨v, ⟨t, said, begins, longest⟩, admits⟩
    have decides : decidingRule? target filter.rules = some ⟨t, v⟩ := by
      refine (decidingRule?_eq_some_iff single).2
        ⟨(said?_eq_some_iff single).1 said, Rule.covers_iff.2 begins, fun rule there covers => ?_⟩
      have rule_said : filter.said? rule.target = some rule.verbosity := (said?_eq_some_iff single).2 there
      rw [Rule.closeness_eq, Rule.closeness_eq]
      exact longest rule.target (by rw [rule_said]; nofun) (Rule.covers_iff.1 covers)
    rw [decides]
    exact admits

theorem shows_of_decides {filter : Filter} (single : filter.Single) {target : String} {v : Verbosity}
    (decides : Decides filter.said? target v) (level : Level) : filter.shows target level = v.admits level := by
  rw [Bool.eq_iff_iff, shows_iff single]
  constructor
  · rintro ⟨v', decides', admits⟩
    exact decides'.unique decides ▸ admits
  · exact fun admits => ⟨v, decides, admits⟩

/-- Filters that say the same show the same. -/
theorem shows_congr {filter filter' : Filter} (single : filter.Single) (single' : filter'.Single)
    (same : ∀ t, filter.said? t = filter'.said? t) (target : String) (level : Level) :
    filter.shows target level = filter'.shows target level := by
  rw [Bool.eq_iff_iff, shows_iff single, shows_iff single', funext same]

end Filter

end DurableQueue
