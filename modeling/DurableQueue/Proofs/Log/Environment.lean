import DurableQueue.Proofs.Log.Installing

/-!
# The environment before the settings

Of what environment and settings say about the log, the environment comes first. `FIFOQ_LOG`, `FIFOQ_LOG_FORMAT`
and `FIFOQ_LOG_OUTPUT` each decide a part of the logger, and then nothing that the settings say of this part can
keep it from being installed. `FIFOQ_LOG_MODULES` decides about the events of its modules
(`Filter.decides_of_leads`), unless the settings turn the log off: then the list is not looked at
(`Host.prevails`, `Host.install_silenced`).
-/

namespace DurableQueue

namespace Filter

open Directive (Good Plain Leads ofEntries readLevel)

/-- All modules that the environment lists have plain names, and levels that can be read. -/
def WellListed (w : Surroundings) : Prop :=
  ∀ entry ∈ listed w, Plain entry.1 ∧ ∃ v, readLevel entry.2.toList = .ok v

/-- Do the settings say something of the target, by their level or by their modules? -/
def SaidBy (settings : Option LoggingSettings) (t : Option String) : Prop :=
  ∃ v, .events t v ∈ goodIn (settings.elim "info" (·.level)) ∨ .events t v ∈ ofEntries (settings.elim [] (·.modules))

/-- What the environment lists about a module decides about the targets that the settings do not describe more
closely, with the last level for the module. -/
def Heeds (w : Surroundings) (settings : Option LoggingSettings) (filter : Filter) : Prop :=
  ∀ target name level v, Leads (listed w) target name level → readLevel level.toList = .ok v →
    (∀ t, SaidBy settings t → Target.Begins t target → Target.closeness t ≤ Target.closeness (some name)) →
    ∀ l, filter.shows target l = (decide (settings.elim "info" (·.level) ≠ "off") && v.admits l)

theorem shows_nothing (target : String) (level : Level) : nothing.shows target level = false := rfl

section Listed

variable {w : Surroundings} {settings : Option LoggingSettings}

theorem WellListed.good (well : WellListed w) : Good (listed w) := by
  intro entry there
  obtain ⟨plain, v, read⟩ := well entry there
  refine ⟨_, (Directive.ofEntry_eq_ok_iff plain).2 ⟨v, ?_, rfl⟩⟩
  rw [Directive.levelGiven_eq (of_mem_modulesIn there).2.2.2, read]

variable (unread : (w.value? "FIFOQ_LOG").bind strict? = none) (well : WellListed w)
include unread well

theorem exists_chosen (good : Good (settings.elim [] (·.modules))) :
    ∃ filter, (chosen w settings).1 = .ok filter := by
  by_cases off : settings.elim "info" (·.level) = "off"
  · rw [chosen_of_off unread off]
    exact ⟨_, rfl⟩
  · have both : Good (entries w settings) := List.forall_mem_append.2 ⟨good, well.good⟩
    exact ⟨_, (chosen_eq_ok_iff unread off).2 ⟨both, rfl⟩⟩

theorem decides_of_leads (on : settings.elim "info" (·.level) ≠ "off") {filter : Filter}
    (chosen_ok : (chosen w settings).1 = .ok filter) {target name level : String} {v : Verbosity}
    (leads : Leads (listed w) target name level) (read : readLevel level.toList = .ok v)
    (closest : ∀ t, SaidBy settings t → Target.Begins t target →
      Target.closeness t ≤ Target.closeness (some name)) : Decides filter.said? target v := by
  have plain : ∀ entry ∈ listed w, Plain entry.1 := fun entry there => (well entry there).1
  have given : Directive.levelGiven level.toList = .ok v := by
    rw [Directive.levelGiven_eq (of_mem_modulesIn leads.mem).2.2.2, read]
  have said (t : Option String) : filter.said? t = (Directive.said? t (ofEntries (listed w))).or
      ((Directive.said? t (ofEntries (settings.elim [] (·.modules)))).or
        ((lenient (settings.elim "info" (·.level))).1.said? t)) := by
    rw [said?_chosen unread on chosen_ok, entries, Directive.ofEntries_append, Directive.said?_append,
      Option.or_assoc]
  refine leads.decides plain given said fun t there begins => ?_
  obtain ⟨v', there⟩ := Option.ne_none_iff_exists'.1 there
  rcases Option.or_eq_some_iff.1 there with in_modules | ⟨-, in_level⟩
  · exact closest t ⟨v', .inr (Directive.mem_of_said? in_modules)⟩ begins
  · rcases mem_goodIn_of_said?_lenient in_level with rfl | there
    · exact Nat.zero_le _
    · exact closest t ⟨v', .inl there⟩ begins

theorem heeds {filter : Filter} (chosen_ok : (chosen w settings).1 = .ok filter) : Heeds w settings filter := by
  intro target name level v leads read closest l
  by_cases off : settings.elim "info" (·.level) = "off"
  · rw [chosen_of_off unread off] at chosen_ok
    obtain rfl := Except.ok.inj chosen_ok
    rw [shows_nothing, decide_eq_false (not_not_intro off), Bool.false_and]
  · rw [shows_of_decides (single_chosen unread off chosen_ok)
      (decides_of_leads unread well off chosen_ok leads read closest), decide_eq_true off, Bool.true_and]

end Listed

end Filter

namespace Host

open DurableQueue.Filter (chosen strict? Heeds WellListed)

/-- The logger is as far as possible what the environment asks for. -/
structure AsAsked (w : Surroundings) (logger : Logger) : Prop where
  filter : ∀ filter, (w.value? "FIFOQ_LOG").bind strict? = some filter → logger.filter = filter
  format : ∀ format, (w.value? "FIFOQ_LOG_FORMAT").bind LogFormat.ofName? = some format → logger.format = format
  output : ∀ output, (w.value? "FIFOQ_LOG_OUTPUT").bind LogOutput.ofName? = some output →
    logger.destination.output = output

/-- What the environment says comes before what the settings say. -/
structure Prevails (host : Host) (settings : Option LoggingSettings) : Prop where
  installed : ∀ after, host.install settings = (.ok (), after) →
    ∃ logger, after.logger = some logger ∧ AsAsked host.surroundings logger
  /-- Where the environment decides about all parts of the logger, no settings keep it from being installed. -/
  succeeds : ((host.surroundings.value? "FIFOQ_LOG").bind strict?).isSome →
    ((host.surroundings.value? "FIFOQ_LOG_FORMAT").bind LogFormat.ofName?).isSome →
    ((host.surroundings.value? "FIFOQ_LOG_OUTPUT").bind LogOutput.ofName?).isSome →
    host.logger = none → Opens host settings → (host.install settings).1 = .ok ()
  /-- Otherwise the list of the environment is heeded, as long as the modules of the settings can be read. -/
  modules : (host.surroundings.value? "FIFOQ_LOG").bind strict? = none → WellListed host.surroundings →
    Directive.Good (settings.elim [] (·.modules)) →
    ∃ filter, (chosen host.surroundings settings).1 = .ok filter ∧ Heeds host.surroundings settings filter ∧
      ∀ after, host.install settings = (.ok (), after) → ∃ logger, after.logger = some logger ∧ logger.filter = filter

section Choices

variable {w : Surroundings} (settings : Option LoggingSettings)

theorem chosenFormat_of_asked {format : LogFormat}
    (asked : (w.value? "FIFOQ_LOG_FORMAT").bind LogFormat.ofName? = some format) :
    chosenFormat w settings = .ok format := by
  unfold chosenFormat
  rw [asked]

theorem chosenOutput_of_asked {output : LogOutput}
    (asked : (w.value? "FIFOQ_LOG_OUTPUT").bind LogOutput.ofName? = some output) :
    chosenOutput w settings = .ok output := by
  obtain ⟨name, set, named⟩ := Option.bind_eq_some_iff.1 asked
  unfold chosenOutput
  rw [set, Option.getD_some]
  dsimp only
  rw [named]

end Choices

/-- For all settings, or none, the environment comes before them; only a log that they turn off stays so. -/
theorem prevails (host : Host) (settings : Option LoggingSettings) : Prevails host settings := by
  refine ⟨?installed, ?succeeds, ?modules⟩
  case installed =>
    intro after installed
    obtain ⟨logger, there, choice⟩ := exists_of_install installed
    obtain ⟨filter_ok, format_ok, output_ok⟩ := choices_eq_ok_iff.1 choice
    refine ⟨logger, there, fun filter asked => ?_, fun format asked => ?_, fun output asked => ?_⟩
    · rw [Filter.chosen_of_readable asked] at filter_ok
      exact (Except.ok.inj filter_ok).symm
    · rw [chosenFormat_of_asked settings asked] at format_ok
      exact (Except.ok.inj format_ok).symm
    · rw [chosenOutput_of_asked settings asked] at output_ok
      exact (Except.ok.inj output_ok).symm
  case succeeds =>
    intro filter_asked format_asked output_asked unlogged opens
    obtain ⟨filter, filter_asked⟩ := Option.isSome_iff_exists.1 filter_asked
    obtain ⟨format, format_asked⟩ := Option.isSome_iff_exists.1 format_asked
    obtain ⟨output, output_asked⟩ := Option.isSome_iff_exists.1 output_asked
    have chosen : choices host.surroundings settings = .ok (filter, format, output) := by
      refine choices_eq_ok_iff.2 ⟨?_, chosenFormat_of_asked settings format_asked,
        chosenOutput_of_asked settings output_asked⟩
      rw [Filter.chosen_of_readable filter_asked]
    rw [install_fst unlogged opens, chosen]
    rfl
  case modules =>
    intro unread well good
    obtain ⟨filter, chosen_ok⟩ := Filter.exists_chosen unread well good
    refine ⟨filter, chosen_ok, Filter.heeds unread well chosen_ok, fun after installed => ?_⟩
    obtain ⟨logger, there, choice⟩ := exists_of_install installed
    exact ⟨logger, there, Except.ok.inj ((choices_eq_ok_iff.1 choice).1.symm.trans chosen_ok)⟩

/-- A program for which levels of modules are listed, one of them twice. -/
def listing : Host :=
  started ⟨[("FIFOQ_LOG_MODULES", "fifoq=warn, fifoq::queue = trace,fifoq::queue=debug")], "/", .empty⟩

/-- Settings with a level of their own for a listed module. -/
def modest : LoggingSettings := ⟨"info", "text", "stderr", "", true, [("fifoq::queue", "error")]⟩

/-- The settings with the log turned off. -/
def silent : LoggingSettings := { modest with level := "off" }

theorem listed_listing : Filter.listed listing.surroundings =
    [("fifoq", "warn"), ("fifoq::queue", "trace"), ("fifoq::queue", "debug")] := by decide +kernel

theorem wellListed_listing : WellListed listing.surroundings := by
  have fifoq : Directive.Plain "fifoq" := ⟨⟨by decide, by decide, by decide, by decide⟩, by decide⟩
  have queue : Directive.Plain "fifoq::queue" := ⟨⟨by decide, by decide, by decide, by decide⟩, by decide⟩
  unfold WellListed
  rw [listed_listing]
  simp only [List.forall_mem_cons]
  exact ⟨⟨fifoq, .upTo .warn, by decide +kernel⟩, ⟨queue, .upTo .trace, by decide +kernel⟩,
    ⟨queue, .upTo .debug, by decide +kernel⟩, nofun⟩

theorem good_modest : Directive.Good modest.modules :=
  List.forall_mem_singleton.2 ⟨.events (some "fifoq::queue") (.upTo .error), by decide +kernel⟩

/-- Of the listed entries the last one counts for what is part of its module. -/
theorem leads_listing :
    Directive.Leads (Filter.listed listing.surroundings) "fifoq::queue::inner" "fifoq::queue" "debug" := by
  rw [listed_listing]
  refine ⟨⟨[("fifoq", "warn"), ("fifoq::queue", "trace")], [], rfl, nofun⟩, by decide, ?_⟩
  simp only [List.forall_mem_cons]
  exact ⟨fun _ => by decide, fun _ => by decide, fun _ => by decide, nofun⟩

/-- The settings do not describe any target more closely than the list. -/
theorem closest_listing {s : LoggingSettings} (modules : s.modules = modest.modules)
    (level : Filter.goodIn s.level ⊆ [.events none (.upTo .info), .events none .off]) :
    ∀ t, Filter.SaidBy (some s) t → Target.closeness t ≤ Target.closeness (some "fifoq::queue") := by
  have entries : Directive.ofEntries modest.modules = [.events (some "fifoq::queue") (.upTo .error)] := by
    decide +kernel
  rintro t ⟨v, there | there⟩
  · have there := level there
    simp only [List.mem_cons, Directive.events.injEq, List.not_mem_nil, or_false] at there
    rcases there with ⟨rfl, -⟩ | ⟨rfl, -⟩ <;> exact Nat.zero_le _
  · have there : Directive.events t v ∈ Directive.ofEntries s.modules := there
    rw [modules, entries, List.mem_singleton, Directive.events.injEq] at there
    rw [there.1]

/-- If the settings turn the log off, what the list says of a module does not count. -/
theorem install_silenced : (listing.surroundings.value? "FIFOQ_LOG").bind strict? = none ∧
    WellListed listing.surroundings ∧ Directive.Good silent.modules ∧
    Directive.Leads (Filter.listed listing.surroundings) "fifoq::queue::inner" "fifoq::queue" "debug" ∧
    Directive.readLevel "debug".toList = .ok (.upTo .debug) ∧ (Verbosity.upTo .debug).admits .info = true ∧
    (∀ t, Filter.SaidBy (some silent) t → Target.closeness t ≤ Target.closeness (some "fifoq::queue")) ∧
    (listing.install (some silent)).1 = .ok () ∧
    ∃ logger, (listing.install (some silent)).2.logger = some logger ∧
      logger.filter.shows "fifoq::queue::inner" .info = false := by
  have level : Filter.goodIn silent.level = [.events none .off] := by decide +kernel
  exact ⟨rfl, wellListed_listing, good_modest, leads_listing, by decide +kernel, by decide,
    closest_listing rfl (by rw [level]; exact List.subset_cons_self _ _), rfl, _, rfl, rfl⟩

/-- What is shown with the settings that leave the log on, by the general theorem. -/
theorem prevails_listing : (listing.install (some modest)).1 = .ok () ∧
    ∃ logger, (listing.install (some modest)).2.logger = some logger ∧
      (∀ l, logger.filter.shows "fifoq::queue::inner" l = (Verbosity.upTo .debug).admits l) ∧
      logger.filter.shows "fifoq::queue::inner" .debug = true ∧
      logger.filter.shows "fifoq::queue::inner" .trace = false := by
  have installs : (listing.install (some modest)).1 = .ok () := by decide +kernel
  have level : Filter.goodIn modest.level = [.events none (.upTo .info)] := by decide +kernel
  obtain ⟨filter, -, heeds, installed⟩ :=
    (prevails listing (some modest)).modules rfl wellListed_listing good_modest
  obtain ⟨logger, there, rfl⟩ := installed _ (Prod.ext installs rfl)
  have shows (l : Level) : logger.filter.shows "fifoq::queue::inner" l = (Verbosity.upTo .debug).admits l := by
    refine (heeds _ _ _ _ leads_listing (by decide +kernel) (fun t said _ => ?_) l).trans (Bool.true_and _)
    exact closest_listing rfl (by rw [level]; exact List.cons_subset_cons _ (List.nil_subset _)) t said
  exact ⟨installs, logger, there, shows, shows .debug, shows .trace⟩

end Host

end DurableQueue
