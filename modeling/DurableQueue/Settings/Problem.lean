import DurableQueue.Files.Tree
import DurableQueue.Text.Quoted

/-!
# What can be wrong with settings

The causes for which settings are refused, from a file that cannot be read to a value that validation
rejects, and the sentence for each of them.
-/

namespace DurableQueue

/-- What was found where a value of some type was expected. -/
inductive Found where
  | null
  | unit
  | boolean (b : Bool)
  | integer (n : Int)
  | integer64 (n : Int)
  | float (written : String)
  | text (s : String)
  | sequence
  | map
  deriving DecidableEq, Repr

/-- A found value in words. -/
def Found.message : Found → String
  | null => "null"
  | unit => "unit value"
  | boolean b => "boolean `" ++ toString b ++ "`"
  | integer n => "integer `" ++ toString n ++ "`"
  | integer64 n => "64-bit integer `" ++ toString n ++ "`"
  | float written => "floating point `" ++ written ++ "`"
  | text s => "string " ++ Text.quoted s
  | sequence => "sequence"
  | map => "map"

/-- What validation objects to. -/
inductive Invalidity where
  | emptyDataDir
  | zeroCacheCapacity
  | logLevel (level : String)
  | logFormat (format : String)
  | logOutput (output : String)
  deriving DecidableEq, Repr

/-- An objection in words. -/
def Invalidity.message : Invalidity → String
  | emptyDataDir => "Data directory cannot be empty"
  | zeroCacheCapacity => "Cache capacity must be greater than zero"
  | logLevel level => s!"Invalid log level: {level}"
  | logFormat format => s!"Invalid log format: {format} (must be 'json' or 'text')"
  | logOutput output => s!"Invalid log output: {output} (must be 'stdout', 'stderr', or 'file')"

/-- The part of the settings an objection is about. -/
def Invalidity.part : Invalidity → String
  | emptyDataDir | zeroCacheCapacity => "Storage"
  | logLevel _ | logFormat _ | logOutput _ => "Logging"

/-- An objection together with the part of the settings it is about. -/
def Invalidity.full (i : Invalidity) : String := i.part ++ ": " ++ i.message

/-- Why a filter directive was refused. -/
inductive DirectiveFault where
  | malformed
  | badLevel
  deriving DecidableEq, Repr

/-- A directive's fault in words. -/
def DirectiveFault.message : DirectiveFault → String
  | malformed => "invalid filter directive"
  | badLevel => "error parsing level filter: expected one of \"off\", \"error\", \"warn\", "
      ++ "\"info\", \"debug\", \"trace\", or a number 0-5"

/-- Why settings were refused. -/
inductive SettingsProblem where
  /-- a reason given by the embedding program -/
  | reported (reason : String)
  /-- a settings file does not follow its format -/
  | badSyntax
  /-- a settings file holds something else than settings by name -/
  | wrongRoot (found : Found) (path : String)
  /-- a settings file has no extension that stands for a format -/
  | unknownFormat (path : String)
  | noFile (path : String)
  /-- a value of another type than the one wanted under `key` -/
  | wrongType (found : Found) (expected key : String) (origin : Option String)
  /-- a whole section of another shape than the one wanted -/
  | wrongShape (found : Found) (expected : String)
  | invalid (objections : List Invalidity)
  /-- a setting that logging cannot start with -/
  | unusable (objection : Invalidity)
  | badDirective (fault : DirectiveFault)
  | logDirectory (fault : FileFault)
  | logFile (path : String) (fault : FileFault)
  | loggerInstalled
  deriving DecidableEq, Repr

/-- A problem in words. -/
def SettingsProblem.message : SettingsProblem → String
  | reported reason => reason
  | badSyntax => "<file syntax error>"
  | wrongRoot found path =>
    "invalid type: " ++ found.message ++ ", expected a map in " ++ path ++ " in " ++ path
  | unknownFormat path =>
    "configuration file \"" ++ path ++ "\" is not of a registered file format"
  | noFile path => "configuration file \"" ++ path ++ "\" not found"
  | wrongType found expected key origin =>
    "invalid type: " ++ found.message ++ ", expected " ++ expected ++ " for key `" ++ key ++ "`"
      ++ (match origin with
        | some place => " in " ++ place
        | none => "")
  | wrongShape found expected => "invalid type: " ++ found.message ++ ", expected " ++ expected
  | invalid objections =>
    "Configuration validation failed:\n" ++ "\n".intercalate (objections.map Invalidity.full)
  | unusable objection => objection.message
  | badDirective fault => "Invalid log directive: " ++ fault.message
  | logDirectory fault => "Failed to create log directory: " ++ fault.message
  | logFile path fault =>
    "Failed to open log file " ++ Text.quoted path ++ ": " ++ fault.message
  | loggerInstalled =>
    "Failed to install logger: a global default trace dispatcher has already been set"

end DurableQueue
