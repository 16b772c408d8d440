import DurableQueue.Log.Filter
import DurableQueue.Log.Line

/-!
# The log of a program

A program has at most one logger. Installing it picks filter, format and output from the environment
and the settings, in this order, and opens the log file if there is one; the first logger that is
installed stays.
-/

namespace DurableQueue

/-- Where the lines of a logger go. -/
inductive Destination where
  | stdout
  | stderr
  | file (place : Place)
  deriving DecidableEq, Repr

/-- An installed logger. -/
structure Logger where
  filter : Filter
  format : LogFormat
  color : Bool
  destination : Destination

/-- A program as its log sees it: what it finds around it, its logger, and what it has written to its
two standard outputs. -/
structure Host where
  surroundings : Surroundings
  logger : Option Logger
  stdout : String
  stderr : String

namespace Host

/-- A program that has just started. -/
def started (surroundings : Surroundings) : Host := ⟨surroundings, none, "", ""⟩

/-! ## Choices -/

/-- The format that environment and settings ask for. What is no format in the environment does not
count. -/
def chosenFormat (w : Surroundings) (settings : Option LoggingSettings) :
    Except SettingsProblem LogFormat :=
  match (w.value? "FIFOQ_LOG_FORMAT").bind LogFormat.ofName? with
  | some format => .ok format
  | none =>
    let name := settings.elim "text" (·.format)
    match LogFormat.ofName? name with
    | some format => .ok format
    | none => .error (.unusable (.logFormat name))

/-- The output that the environment asks for, or else the settings. -/
def chosenOutput (w : Surroundings) (settings : Option LoggingSettings) :
    Except SettingsProblem LogOutput :=
  let name := (w.value? "FIFOQ_LOG_OUTPUT").getD (settings.elim "stdout" (·.output))
  match LogOutput.ofName? name with
  | some output => .ok output
  | none => .error (.unusable (.logOutput name))

/-- Opens the log file at a path, in a directory that is created if need be. -/
def openFile (host : Host) (path : String) : Except SettingsProblem Place × Host :=
  let w := host.surroundings
  match w.files.makeParent w.here path with
  | .error fault => (.error (.logDirectory fault), host)
  | .ok files =>
    let host := { host with surroundings := { w with files } }
    match files.openForAppend w.here path with
    | .error fault => (.error (.logFile path fault), host)
    | .ok (files, place) => (.ok place, { host with surroundings := { w with files } })

/-- Opens the output of a logger. -/
def openOutput (host : Host) (settings : Option LoggingSettings) :
    LogOutput → Except SettingsProblem Destination × Host
  | .stdout => (.ok .stdout, host)
  | .stderr => (.ok .stderr, host)
  | .file =>
    let path := settings.elim (LoggingSettings.defaultFile host.surroundings) (·.file)
    let (opened, host) := host.openFile path
    (opened.map .file, host)

/-! ## Installing -/

/-- Writes lines to the standard output for errors. -/
def complain (host : Host) (complaints : List String) : Host :=
  { host with stderr := complaints.foldl (fun text line => text ++ line ++ "\n") host.stderr }

/-- Installs a logger, if there is none yet. Complaints about directives are written in any case. -/
def install (host : Host) (settings : Option LoggingSettings) :
    Except SettingsProblem Unit × Host :=
  let w := host.surroundings
  let (filter, complaints) := Filter.chosen w settings
  let host := host.complain complaints
  let choices := do
    let filter ← filter
    let format ← chosenFormat w settings
    return (filter, format, ← chosenOutput w settings)
  match choices with
  | .error problem => (.error problem, host)
  | .ok (filter, format, output) =>
    let color := settings.elim true (·.color) && output != .file
    match host.openOutput settings output with
    | (.error problem, host) => (.error problem, host)
    | (.ok destination, host) =>
      match host.logger with
      | some _ => (.error .loggerInstalled, host)
      | none => (.ok (), { host with logger := some ⟨filter, format, color, destination⟩ })

/-! ## Logging -/

/-- Writes an event to the log, if there is a logger and its filter shows the event. -/
def log (host : Host) (time : String) (event : Event) : Host :=
  match host.logger with
  | none => host
  | some logger =>
    if logger.filter.shows event.target event.level then
      let line := event.line logger.format logger.color time ++ "\n"
      match logger.destination with
      | .stdout => { host with stdout := host.stdout ++ line }
      | .stderr => { host with stderr := host.stderr ++ line }
      | .file place =>
        let w := host.surroundings
        { host with surroundings := { w with files := w.files.append place line } }
    else host

end Host

end DurableQueue
