import DurableQueue.Log.Logger
import DurableQueue.Proofs.Log.Modules

/-!
# Validating and installing

The same settings are looked at twice, by validation and when a logger is installed. Installing is three choices and
an open file, so it succeeds if all choices can be made (`Host.install_fst`), and the logger is made of what was
chosen (`Host.exists_of_install`).

Without variables the two agree on format and output. They do not on the rest: validation does not look at the
modules, and of the level installing only asks whether it is `off` (`Host.install_iff_valid`). So there are valid
settings without a logger, and invalid ones with one (`Host.install_verbose`).
-/

namespace DurableQueue

/-- The kind of output that a destination is. -/
def Destination.output : Destination → LogOutput
  | stdout => .stdout
  | stderr => .stderr
  | file _ => .file

namespace LoggingSettings

/-- Do the format and the output of the settings have a name? -/
def Known (s : LoggingSettings) : Prop := LogFormat.ofName? s.format ≠ none ∧ LogOutput.ofName? s.output ≠ none

theorem objection?_eq_none_iff {s : LoggingSettings} : s.objection? = none ↔ s.level ∈ levels ∧ s.Known := by
  unfold objection? Known
  simp only [Option.isNone_iff_eq_none]
  by_cases level : s.level ∈ levels
  · rw [if_neg (not_not_intro level)]
    by_cases format : LogFormat.ofName? s.format = none
    · rw [if_pos format]
      exact ⟨nofun, fun h => absurd format h.2.1⟩
    · rw [if_neg format]
      by_cases output : LogOutput.ofName? s.output = none
      · rw [if_pos output]
        exact ⟨nofun, fun h => absurd output h.2.2⟩
      · rw [if_neg output]
        exact iff_of_true rfl ⟨level, format, output⟩
  · rw [if_pos level]
    exact ⟨nofun, fun h => absurd h.1 level⟩

end LoggingSettings

namespace Host

/-! ## Opening the log file -/

theorem logger_openFile (host : Host) (path : String) : (host.openFile path).2.logger = host.logger := by
  unfold openFile
  dsimp only
  split
  · rfl
  · split <;> rfl

/-- Complaints do not keep the log file from being opened. -/
theorem fst_openFile_complain (host : Host) (complaints : List String) (path : String) :
    ((host.complain complaints).openFile path).1 = (host.openFile path).1 := by
  unfold openFile complain
  dsimp only
  split
  · rfl
  · split <;> rfl

/-- If the log goes to a file, it can be opened. -/
def Opens (host : Host) (settings : Option LoggingSettings) : Prop :=
  chosenOutput host.surroundings settings = .ok .file →
    ∃ place, (host.openFile (settings.elim (LoggingSettings.defaultFile host.surroundings) (·.file))).1 = .ok place

/-- An output that was opened has the kind that was asked for, and there is still the logger that there was. -/
theorem of_openOutput {host opened : Host} {settings : Option LoggingSettings} {output : LogOutput}
    {destination : Destination} (opens : host.openOutput settings output = (.ok destination, opened)) :
    destination.output = output ∧ opened.logger = host.logger := by
  cases output with
  | stdout | stderr =>
    obtain ⟨same, rfl⟩ := Prod.mk.inj opens
    obtain rfl := Except.ok.inj same
    exact ⟨rfl, rfl⟩
  | file =>
    unfold openOutput at opens
    dsimp only at opens
    obtain ⟨same, rfl⟩ := Prod.mk.inj opens
    refine ⟨?_, logger_openFile _ _⟩
    cases found : (host.openFile (settings.elim (LoggingSettings.defaultFile host.surroundings) (·.file))).1 with
    | error problem => rw [found] at same; cases same
    | ok place =>
      rw [found] at same
      obtain rfl := Except.ok.inj same
      rfl

theorem exists_openOutput_complain {host : Host} {settings : Option LoggingSettings} {output : LogOutput}
    (opens : Opens host settings) (chosen : chosenOutput host.surroundings settings = .ok output)
    (complaints : List String) :
    ∃ destination opened, (host.complain complaints).openOutput settings output = (.ok destination, opened) ∧
      opened.logger = host.logger := by
  have succeeds : ∃ destination, ((host.complain complaints).openOutput settings output).1 = .ok destination := by
    cases output with
    | stdout | stderr => exact ⟨_, rfl⟩
    | file =>
      obtain ⟨place, found⟩ := opens chosen
      refine ⟨.file place, ?_⟩
      unfold openOutput
      dsimp only
      rw [fst_openFile_complain]
      exact congrArg (Except.map Destination.file) found
  obtain ⟨destination, succeeds⟩ := succeeds
  exact ⟨destination, _, Prod.ext succeeds rfl, (of_openOutput (Prod.ext succeeds rfl)).2⟩

/-! ## Installing -/

/-- The three choices in the order in which they are made. -/
def choices (w : Surroundings) (settings : Option LoggingSettings) :
    Except SettingsProblem (Filter × LogFormat × LogOutput) := do
  let filter ← (Filter.chosen w settings).1
  let format ← chosenFormat w settings
  return (filter, format, ← chosenOutput w settings)

theorem choices_eq_ok_iff {w : Surroundings} {settings : Option LoggingSettings} {filter : Filter}
    {format : LogFormat} {output : LogOutput} : choices w settings = .ok (filter, format, output) ↔
      (Filter.chosen w settings).1 = .ok filter ∧ chosenFormat w settings = .ok format ∧
        chosenOutput w settings = .ok output := by
  unfold choices
  cases (Filter.chosen w settings).1 with
  | error problem => exact ⟨nofun, nofun⟩
  | ok filter' =>
    cases chosenFormat w settings with
    | error problem => exact ⟨nofun, nofun⟩
    | ok format' =>
      cases chosenOutput w settings with
      | error problem => exact ⟨nofun, nofun⟩
      | ok output' =>
        show Except.ok _ = _ ↔ _
        simp only [Except.ok.injEq, Prod.mk.injEq]

theorem install_eq (host : Host) (settings : Option LoggingSettings) :
    host.install settings =
      match choices host.surroundings settings with
      | .error problem => (.error problem, host.complain (Filter.chosen host.surroundings settings).2)
      | .ok (filter, format, output) =>
        match (host.complain (Filter.chosen host.surroundings settings).2).openOutput settings output with
        | (.error problem, opened) => (.error problem, opened)
        | (.ok destination, opened) =>
          match opened.logger with
          | some _ => (.error .loggerInstalled, opened)
          | none => (.ok (), { opened with
              logger := some ⟨filter, format, settings.elim true (·.color) && output != .file, destination⟩ }) := rfl

/-- An installed logger is made of what was chosen. -/
theorem exists_of_install {host after : Host} {settings : Option LoggingSettings}
    (installed : host.install settings = (.ok (), after)) :
    ∃ logger, after.logger = some logger ∧ choices host.surroundings settings =
      .ok (logger.filter, logger.format, logger.destination.output) := by
  rw [install_eq] at installed
  split at installed
  · cases installed
  · next filter format output chosen =>
    split at installed
    · cases installed
    · next destination opened opens =>
      split at installed
      · cases installed
      · obtain ⟨-, rfl⟩ := Prod.mk.inj installed
        refine ⟨_, rfl, ?_⟩
        dsimp only
        rw [(of_openOutput opens).1, chosen]

/-- Where there is no logger yet and the log file can be opened, installing fails only if a choice does. -/
theorem install_fst {host : Host} {settings : Option LoggingSettings} (unlogged : host.logger = none)
    (opens : Opens host settings) :
    (host.install settings).1 = (choices host.surroundings settings).map fun _ => () := by
  rw [install_eq]
  cases chosen : choices host.surroundings settings with
  | error problem => rfl
  | ok choice =>
    obtain ⟨filter, format, output⟩ := choice
    obtain ⟨destination, opened, open_eq, logger⟩ := exists_openOutput_complain opens
      (choices_eq_ok_iff.1 chosen).2.2 (Filter.chosen host.surroundings settings).2
    dsimp only
    rw [open_eq]
    dsimp only
    rw [logger, unlogged]
    rfl

/-! ## Installing without variables -/

/-- None of the variables for the log is set. -/
def Quiet (w : Surroundings) : Prop :=
  ∀ name ∈ ["FIFOQ_LOG", "FIFOQ_LOG_FORMAT", "FIFOQ_LOG_OUTPUT", "FIFOQ_LOG_MODULES"], w.value? name = none

section Quiet

variable {w : Surroundings} (quiet : Quiet w) (s : LoggingSettings)
include quiet

theorem Quiet.exists_chosenFormat_iff :
    (∃ format, chosenFormat w (some s) = .ok format) ↔ LogFormat.ofName? s.format ≠ none := by
  unfold chosenFormat
  rw [quiet "FIFOQ_LOG_FORMAT" (by decide)]
  dsimp only [Option.bind_none, Option.elim_some]
  cases LogFormat.ofName? s.format with
  | none => exact ⟨nofun, fun some => absurd rfl some⟩
  | some format => exact iff_of_true ⟨format, rfl⟩ nofun

theorem Quiet.exists_chosenOutput_iff :
    (∃ output, chosenOutput w (some s) = .ok output) ↔ LogOutput.ofName? s.output ≠ none := by
  unfold chosenOutput
  rw [quiet "FIFOQ_LOG_OUTPUT" (by decide)]
  dsimp only [Option.getD_none, Option.elim_some]
  cases LogOutput.ofName? s.output with
  | none => exact ⟨nofun, fun some => absurd rfl some⟩
  | some output => exact iff_of_true ⟨output, rfl⟩ nofun

theorem Quiet.unread : (w.value? "FIFOQ_LOG").bind Filter.strict? = none := by
  rw [quiet "FIFOQ_LOG" (by decide)]
  rfl

theorem Quiet.entries : Filter.entries w (some s) = s.modules := by
  unfold Filter.entries Filter.listed
  rw [quiet "FIFOQ_LOG_MODULES" (by decide)]
  exact List.append_nil _

/-- The filter can be made if the log is off or all modules can be read. -/
theorem Quiet.exists_chosen_iff :
    (∃ filter, (Filter.chosen w (some s)).1 = .ok filter) ↔ s.level = "off" ∨ Directive.Good s.modules := by
  by_cases off : s.level = "off"
  · have off' : Option.elim (some s) "info" (·.level) = "off" := off
    rw [Filter.chosen_of_off quiet.unread off']
    exact iff_of_true ⟨_, rfl⟩ (.inl off)
  · have on : Option.elim (some s) "info" (·.level) ≠ "off" := off
    simp only [Filter.chosen_eq_ok_iff quiet.unread on, quiet.entries]
    exact ⟨fun ⟨_, good, _⟩ => .inr good, fun h => ⟨_, h.resolve_left off, rfl⟩⟩

theorem Quiet.exists_choices_iff :
    (∃ choice, choices w (some s) = .ok choice) ↔ s.Known ∧ (s.level = "off" ∨ Directive.Good s.modules) := by
  unfold LoggingSettings.Known
  rw [← quiet.exists_chosen_iff, ← quiet.exists_chosenFormat_iff, ← quiet.exists_chosenOutput_iff]
  constructor
  · rintro ⟨⟨filter, format, output⟩, chosen⟩
    obtain ⟨filter_ok, format_ok, output_ok⟩ := choices_eq_ok_iff.1 chosen
    exact ⟨⟨⟨format, format_ok⟩, output, output_ok⟩, filter, filter_ok⟩
  · rintro ⟨⟨⟨format, format_ok⟩, output, output_ok⟩, filter, filter_ok⟩
    exact ⟨_, choices_eq_ok_iff.2 ⟨filter_ok, format_ok, output_ok⟩⟩

end Quiet

/-- How validation of settings and installing a logger from them compare. -/
structure Compared (host : Host) (s : LoggingSettings) : Prop where
  installs : (host.install (some s)).1 = .ok () ↔ s.Known ∧ (s.level = "off" ∨ Directive.Good s.modules)
  valid : s.objection? = none ↔ s.Known ∧ s.level ∈ LoggingSettings.levels
  /-- Valid settings are refused for the level of a module, and for nothing else. -/
  refused : s.objection? = none → (host.install (some s)).1 ≠ .ok () →
    ∃ fault, (host.install (some s)).1 = .error (.badDirective fault)
  /-- A level that validation objects to does not keep a logger from being installed. -/
  passed : s.level ∉ LoggingSettings.levels → s.objection? = some (.logLevel s.level) ∧
    ((host.install (some s)).1 = .ok () ↔ s.Known ∧ Directive.Good s.modules)
  /-- The two agree unless format and output are good, and only one of level and modules is. -/
  agree : ((host.install (some s)).1 = .ok () ↔ s.objection? = none) ↔
    (s.Known → (s.level = "off" ∨ Directive.Good s.modules ↔ s.level ∈ LoggingSettings.levels))

/-- Without variables and without a logger, and where the log file can be opened if there is one, a logger can be
installed if format and output have a name and, unless the level turns the log off, all modules can be read. This
is not what validation looks at. -/
theorem install_iff_valid {host : Host} {s : LoggingSettings} (quiet : Quiet host.surroundings)
    (unlogged : host.logger = none) (opens : Opens host (some s)) : Compared host s := by
  have installs : (host.install (some s)).1 = .ok () ↔ s.Known ∧ (s.level = "off" ∨ Directive.Good s.modules) := by
    rw [install_fst unlogged opens, ← quiet.exists_choices_iff s]
    cases choices host.surroundings (some s) with
    | error problem => exact ⟨nofun, nofun⟩
    | ok choice => exact iff_of_true rfl ⟨choice, rfl⟩
  have valid : s.objection? = none ↔ s.Known ∧ s.level ∈ LoggingSettings.levels := by
    rw [LoggingSettings.objection?_eq_none_iff, and_comm]
  refine ⟨installs, valid, ?refused, ?passed, ?agree⟩
  case refused =>
    intro accepted refused
    have neither : ¬ (s.level = "off" ∨ Directive.Good s.modules) := fun h =>
      refused (installs.2 ⟨(valid.1 accepted).1, h⟩)
    obtain ⟨on, bad⟩ := not_or.1 neither
    have on' : Option.elim (some s) "info" (·.level) ≠ "off" := on
    obtain ⟨fault, fails⟩ := Filter.addModules_of_not_good bad (Filter.lenient s.level).1
    have chosen : (Filter.chosen host.surroundings (some s)).1 = .error (.badDirective fault) := by
      rw [Filter.chosen_of_on quiet.unread on', quiet.entries]
      exact fails
    refine ⟨fault, ?_⟩
    rw [install_fst unlogged opens]
    unfold choices
    rw [chosen]
    rfl
  case passed =>
    intro unknown
    have on : s.level ≠ "off" := fun off => unknown (by rw [off]; decide)
    refine ⟨if_pos unknown, ?_⟩
    rw [installs, or_iff_right on]
  case agree =>
    rw [installs, valid]
    exact and_congr_right_iff

/-- A program in an empty tree of files, without any variable. -/
def bare : Host := started ⟨[], "/", .empty⟩

/-- Settings with a level for a module that is none. -/
def verbose : LoggingSettings := ⟨"info", "text", "file", "fifoq.log", true, [("fifoq::queue", "verbose")]⟩

/-- Settings with a level that is none. -/
def loud : LoggingSettings := ⟨"loud", "json", "file", "logs/fifoq.log", true, [("fifoq::queue", "debug")]⟩

theorem quiet_bare : Quiet bare.surroundings := fun _ _ => rfl

theorem opens_verbose : Opens bare (some verbose) := fun _ => ⟨["fifoq.log"], rfl⟩

theorem opens_loud : Opens bare (some loud) := fun _ => ⟨["logs", "fifoq.log"], rfl⟩

/-- Valid settings without a logger, and invalid ones with one. -/
theorem install_verbose : Quiet bare.surroundings ∧ bare.logger = none ∧
    (Opens bare (some verbose) ∧ verbose.objection? = none ∧
      (bare.install (some verbose)).1 = .error (.badDirective .badLevel)) ∧
    Opens bare (some loud) ∧ loud.objection? = some (.logLevel "loud") ∧ (bare.install (some loud)).1 = .ok () :=
  ⟨quiet_bare, rfl, ⟨opens_verbose, by decide, by decide +kernel⟩, opens_loud, by decide, by decide +kernel⟩

/-- Both settings by the general theorem. -/
theorem install_iff_valid_verbose : Quiet bare.surroundings ∧ bare.logger = none ∧
    Opens bare (some verbose) ∧ Compared bare verbose ∧ Opens bare (some loud) ∧ Compared bare loud ∧
    ¬ Directive.Good verbose.modules ∧ Directive.Good loud.modules := by
  refine ⟨quiet_bare, rfl, opens_verbose, install_iff_valid quiet_bare rfl opens_verbose, opens_loud,
    install_iff_valid quiet_bare rfl opens_loud, ?verbose, ?loud⟩
  case verbose =>
    have refused : Directive.ofEntry ("fifoq::queue", "verbose") = .error .badLevel := by decide +kernel
    intro good
    obtain ⟨d, read⟩ := good _ List.mem_cons_self
    rw [refused] at read
    cases read
  case loud =>
    have debug : Directive.ofEntry ("fifoq::queue", "debug") = .ok (.events (some "fifoq::queue") (.upTo .debug)) := by
      decide +kernel
    exact List.forall_mem_singleton.2 ⟨_, debug⟩

end Host

end DurableQueue
