import DurableQueue.Event
import DurableQueue.Settings.Source
import DurableQueue.Settings.Typed

/-!
# Loading settings

Settings are laid over one another, later ones first in rank: defaults, the user's own file, the two
files of the workspace, and the environment. What comes out is checked before it is answered.
-/

namespace DurableQueue.Settings

/-- The defaults as a tree, written out apart from those of the typed settings. The log file, the colours
and the modules have none here. -/
def defaults : Node :=
  let text (s : String) : Node := .scalar (.text s) none
  let number (n : Int) : Node := .scalar (.integer n) none
  .table [
    ("storage", .table [
      ("data_dir", text ".fifoq/queue"),
      ("cache_capacity", number (64 * 1024 * 1024)),
      ("flush_every_ms", number 500),
      ("sync_writes", .scalar (.boolean true) none)] none),
    ("logging", .table [
      ("level", text "info"),
      ("format", text "text"),
      ("output", text "stdout")] none)] none

/-- The path of the user's own settings file, if the environment says where to look for it. -/
def globalPath? (w : Surroundings) : Option String :=
  let below (directory : String) := Path.join (Path.join directory "fifoq") "config.toml"
  match (w.value? "XDG_CONFIG_HOME").filter (· ≠ "") with
  | some directory => some (below directory)
  | none => (w.value? "HOME").map fun home => below (Path.join home ".config")

/-- The path under which the user's own settings are read, if they exist, and a warning if they do
not. -/
def globalFile (w : Surroundings) : List String × List Event :=
  match globalPath? w with
  | none => ([], [])
  | some path =>
    if w.has path then ([(w.canonical? path).getD path], [])
    else ([], [.noGlobalSettings path])

/-- The paths of the settings files of a workspace that exist: those of every environment, and those
of the one that is chosen. -/
def workspaceFiles (w : Surroundings) (workspace : String) : List String :=
  let directory := Path.join workspace "config"
  let environment := (w.value? "FIFOQ_ENV").getD "development"
  ([Path.join directory "config.toml", Path.join directory (environment ++ ".toml")]).filter w.has

/-- The settings that sources come to, on top of the defaults. -/
def ofSources (w : Surroundings) (sources : List (Named Node)) : Except SettingsProblem Settings :=
  ofNode w (defaults.layAll (sources ++ [EnvironmentSource.settings w]))

/-- Loads the settings of a workspace. A relative directory of the store is seen from the workspace. -/
def load (w : Surroundings) (workspace : String) : Except SettingsProblem Settings × List Event :=
  let (files, events) := globalFile w
  let loaded := do
    let sources ← (files ++ workspaceFiles w workspace).mapM (SettingsFile.ifFound w)
    let settings ← ofSources w sources
    (settings.resolvedAgainst workspace).validated
  match loaded with
  | .error problem => (.error problem, events)
  | .ok settings =>
    (.ok settings, events ++ [.settingsLoaded workspace settings.storage.dataDir])

/-- Loads the settings in a single file, and in the environment. -/
def loadFile (w : Surroundings) (path : String) : Except SettingsProblem Settings := do
  let source ← SettingsFile.required w path
  (← ofSources w [source]).validated

end DurableQueue.Settings
