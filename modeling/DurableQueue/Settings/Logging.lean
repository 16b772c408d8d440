import DurableQueue.Settings.Problem

/-!
# Logging settings

What is logged, how and where to, with the values that hold where nothing is set. Levels, formats and
outputs are texts here, as they were set; `objection?` says whether they name anything.
-/

namespace DurableQueue

/-- How log lines are written. -/
inductive LogFormat where
  | text | json
  deriving DecidableEq, Repr

/-- The format with a name. -/
def LogFormat.ofName? (name : String) : Option LogFormat :=
  if name = "text" then some .text
  else if name = "json" then some .json
  else none

/-- Where log lines go. -/
inductive LogOutput where
  | stdout | stderr | file
  deriving DecidableEq, Repr

/-- The output with a name. -/
def LogOutput.ofName? (name : String) : Option LogOutput :=
  if name = "stdout" then some .stdout
  else if name = "stderr" then some .stderr
  else if name = "file" then some .file
  else none

/-- What is logged, how and where to. -/
structure LoggingSettings where
  level : String
  format : String
  output : String
  /-- the path of the log file, for output to a file -/
  file : String
  /-- colours on a terminal -/
  color : Bool
  /-- levels of single modules, by name -/
  modules : List (String × String)
  deriving DecidableEq, Repr

namespace LoggingSettings

/-- The names of levels that validation lets pass. -/
def levels : List String := ["trace", "debug", "info", "warn", "error", "off"]

/-- The directory for a user's data, if the environment says where it is. -/
def dataDirectory? (w : Surroundings) : Option String :=
  match (w.value? "XDG_DATA_HOME").filter Path.isAbsolute with
  | some directory => some directory
  | none => ((w.value? "HOME").filter (· ≠ "")).map fun home => Path.join home ".local/share"

/-- The log file where none is set: in the directory for a user's data, or else beside the default
place of the queue. -/
def defaultFile (w : Surroundings) : String :=
  match dataDirectory? w with
  | some directory => Path.join (Path.join directory "fifoq") "fifoq.log"
  | none => ".fifoq/fifoq.log"

/-- The settings where nothing is set. -/
def default (w : Surroundings) : LoggingSettings :=
  ⟨"info", "text", "stdout", defaultFile w, true, []⟩

/-- What validation objects to first. -/
def objection? (s : LoggingSettings) : Option Invalidity :=
  if s.level ∉ levels then some (.logLevel s.level)
  else if (LogFormat.ofName? s.format).isNone then some (.logFormat s.format)
  else if (LogOutput.ofName? s.output).isNone then some (.logOutput s.output)
  else none

end LoggingSettings

end DurableQueue
