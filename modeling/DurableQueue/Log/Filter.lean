import DurableQueue.Log.Directive
import DurableQueue.Settings.Logging
import DurableQueue.Text.Split

/-!
# Filters

Which events a log shows. A filter holds one rule for each target; of the rules whose target begins an
event's target the one with the longest decides, so the order of the rules does not matter.
-/

namespace DurableQueue

/-- Up to which level the events of a target are shown; without a target, all events. -/
structure Rule where
  target : Option String
  verbosity : Verbosity
  deriving DecidableEq, Repr

namespace Rule

/-- Does the rule's target begin the given one? -/
def covers (rule : Rule) (target : String) : Bool :=
  match rule.target with
  | none => true
  | some front => front.toList.isPrefixOf target.toList

/-- How closely the rule describes the targets it covers. -/
def closeness (rule : Rule) : Nat :=
  match rule.target with
  | none => 0
  | some front => front.length + 1

end Rule

/-- The rules of a log, at most one for each target. -/
structure Filter where
  rules : List Rule
  deriving DecidableEq, Repr

namespace Filter

/-- The filter that shows nothing. -/
def nothing : Filter := ⟨[⟨none, .off⟩]⟩

/-- Adds what a directive says, instead of what was said of its target before. -/
def add (filter : Filter) : Directive → Filter
  | .events target verbosity =>
    ⟨filter.rules.filter (fun rule => rule.target ≠ target) ++ [⟨target, verbosity⟩]⟩
  | .spans _ => filter

/-- The rule that decides about the events of a target. -/
def decidingRule? (target : String) : List Rule → Option Rule
  | [] => none
  | rule :: rules =>
    match rule.covers target, decidingRule? target rules with
    | false, best => best
    | true, none => some rule
    | true, some best => some (if best.closeness < rule.closeness then rule else best)

theorem mem_of_decidingRule? {target : String} {rules : List Rule} {best : Rule}
    (h : decidingRule? target rules = some best) : best ∈ rules ∧ best.covers target = true := by
  induction rules generalizing best with
  | nil => simp [decidingRule?] at h
  | cons rule rules ih =>
    rw [decidingRule?] at h
    split at h
    · exact ⟨List.mem_cons_of_mem _ (ih h).1, (ih h).2⟩
    · next covers _ =>
      obtain rfl := Option.some.inj h
      exact ⟨List.mem_cons_self, covers⟩
    · next other covers found =>
      obtain rfl := Option.some.inj h
      have := ih found
      split
      · exact ⟨List.mem_cons_self, covers⟩
      · exact ⟨List.mem_cons_of_mem _ this.1, this.2⟩

/-- No rule that covers a target describes it more closely than the one that decides. -/
theorem exists_decidingRule? {target : String} {rules : List Rule} {rule : Rule}
    (mem : rule ∈ rules) (covers : rule.covers target = true) :
    ∃ best, decidingRule? target rules = some best ∧ rule.closeness ≤ best.closeness := by
  induction rules with
  | nil => simp at mem
  | cons head rules ih =>
    rw [decidingRule?]
    rcases List.mem_cons.1 mem with rfl | mem
    · rw [covers]
      split
      · contradiction
      · exact ⟨_, rfl, Nat.le_refl _⟩
      · refine ⟨_, rfl, ?_⟩
        split <;> omega
    · obtain ⟨best, found, closer⟩ := ih mem
      rw [found]
      split
      · exact ⟨best, rfl, closer⟩
      · next impossible => cases impossible
      · next other _ same =>
        obtain rfl := Option.some.inj same
        refine ⟨_, rfl, ?_⟩
        split <;> omega

/-- Is an event of the given target and level shown? -/
def shows (filter : Filter) (target : String) (level : Level) : Bool :=
  match decidingRule? target filter.rules with
  | some rule => rule.verbosity.admits level
  | none => false

/-! ## Filters from texts -/

/-- The directives in a text, between commas. -/
def pieces (text : String) : List String :=
  ((Text.splitAll ',' text.toList).filter fun piece => !piece.isEmpty).map String.ofList

/-- The filter of directives, or of a default if there are none. -/
def ofDirectives (default : Verbosity) (directives : List Directive) : Filter :=
  if directives.isEmpty then ⟨[⟨none, default⟩]⟩ else directives.foldl add ⟨[]⟩

/-- The complaint about a directive that is left out. -/
def complaint (piece : String) (fault : DirectiveFault) : String :=
  "ignoring `" ++ piece ++ "`: " ++ fault.message

/-- The filter of a text, with bad directives left out and complained about. Without any good one it
shows errors only. -/
def lenient (text : String) : Filter × List String :=
  let read := (pieces text).map fun piece => (piece, Directive.read piece)
  let directives := read.filterMap fun (_, result) => result.toOption
  let complaints := read.filterMap fun (piece, result) =>
    match result with
    | .ok _ => none
    | .error fault => some (complaint piece fault)
  (ofDirectives (.upTo .error) directives, complaints)

/-- The filter of a text in which all directives are good. Without any it shows nothing. -/
def strict? (text : String) : Option Filter :=
  match (pieces text).mapM Directive.read with
  | .ok directives => some (ofDirectives .off directives)
  | .error _ => none

/-- Adds levels of modules. -/
def addModules (filter : Filter) (modules : List (String × String)) :
    Except SettingsProblem Filter :=
  modules.foldlM (fun filter (name, level) =>
    match Directive.read (name ++ "=" ++ level) with
    | .ok directive => .ok (filter.add directive)
    | .error fault => .error (.badDirective fault)) filter

/-- The levels of modules in a text: `name=level` between commas. What has no equals sign is left out. -/
def modulesIn (text : String) : List (String × String) :=
  (Text.splitAll ',' text.toList).filterMap fun piece =>
    (Text.splitOnce? '=' piece).map fun (name, level) =>
      (String.ofList (Text.trim name), String.ofList (Text.trim level))

/-- The filter that settings and environment ask for, with the complaints about it: that of
`FIFOQ_LOG` alone if it can be read, and else that of the settings, under the modules of
`FIFOQ_LOG_MODULES`. A log that the settings turn off shows nothing at all. -/
def chosen (w : Surroundings) (settings : Option LoggingSettings) :
    Except SettingsProblem Filter × List String :=
  match (w.value? "FIFOQ_LOG").bind strict? with
  | some filter => (.ok filter, [])
  | none =>
    let level := settings.elim "info" (·.level)
    if level = "off" then (.ok nothing, [])
    else
      let (base, complaints) := lenient level
      let filter := do
        let filter ← base.addModules (settings.elim [] (·.modules))
        filter.addModules (modulesIn ((w.value? "FIFOQ_LOG_MODULES").getD ""))
      (filter, complaints)

end Filter

end DurableQueue
