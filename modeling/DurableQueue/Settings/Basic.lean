import DurableQueue.Settings.Logging
import DurableQueue.Settings.Storage

/-!
# Settings

The settings of a program that embeds a queue: those of the storage and those of logging. Validation
names what is wrong with each of the two.
-/

namespace DurableQueue

/-- All settings. -/
structure Settings where
  storage : StorageSettings
  logging : LoggingSettings
  deriving DecidableEq, Repr

namespace Settings

/-- The settings where nothing is set. -/
def default (w : Surroundings) : Settings := ⟨.default, .default w⟩

/-- What validation objects to, at most once for each part. -/
def objections (s : Settings) : List Invalidity :=
  s.storage.objection?.toList ++ s.logging.objection?.toList

/-- The settings, if validation does not object. -/
def validated (s : Settings) : Except SettingsProblem Settings :=
  if s.objections.isEmpty then .ok s else .error (.invalid s.objections)

/-- A relative directory of the store is seen from `root`. -/
def resolvedAgainst (s : Settings) (root : String) : Settings :=
  { s with storage := s.storage.resolvedAgainst root }

end Settings

end DurableQueue
