import DurableQueue.Proofs.Settings.Files
import DurableQueue.Proofs.Settings.Layers

/-!
# The rank of the sources of settings

The settings of a workspace come from four layers: the user's own file, the file of the workspace for every
environment, its file for the environment that is chosen, and the variables. What is loaded has, field by
field, the value of the uppermost layer that sets it, and else the default (`Settings.load_layered`).

The file of the chosen environment is left out of this if the name of the environment is empty or ends in a
slash. The file then has nothing before `.toml` in its name, and it is passed over although it is there
(`Settings.load_unnamed`).
-/

namespace DurableQueue

/-! ## Files -/

/-- What is found under a path sets the layer: there is nothing and nothing is set, or there is a file, in
TOML, that holds the layer. The file is asked for under one path and read under another one that leads to
it. -/
inductive Surroundings.FileSets (w : Surroundings) (asked path : String) : Layer → Prop where
  | absent (missing : w.has asked = false) : FileSets w asked path Layer.nothing
  | present {text source} (there : w.has asked = true)
      (found : w.text? (Path.join w.workingDirectory path) = some text)
      (read : SettingsFile.settings w ⟨Path.join w.workingDirectory path, text, .toml⟩ = .ok source)
      (fits : Shape.settings.Fits (.table source none)) :
      FileSets w asked path (Node.table source none).get?

/-- The user's own settings set the layer. -/
inductive Surroundings.OwnSets (w : Surroundings) : Layer → Prop where
  | nowhere (unknown : Settings.globalPath? w = none) : OwnSets w Layer.nothing
  | file {path layer} (known : Settings.globalPath? w = some path)
      (sets : w.FileSets path ((w.canonical? path).getD path) layer) : OwnSets w layer

theorem Surroundings.FileSets.sources {w : Surroundings} {asked path stem : String} {layer : Layer}
    (h : w.FileSets asked path layer) (ends : (Path.parts path).getLast? = some (stem ++ ".toml")) :
    ∃ sources, (if w.has asked then [path] else []).mapM (SettingsFile.ifFound w) = .ok sources ∧
      Sets sources (if stem = "" then Layer.nothing else layer) := by
  cases h with
  | absent missing =>
    refine ⟨[], by rw [missing]; rfl, ?_⟩
    rw [ite_self]
    exact Sets.nil
  | present there found read fits =>
    rw [if_pos there]
    by_cases unnamed : stem = ""
    · subst unnamed
      have passed := SettingsFile.ifFound_unnamed ends found
      exact ⟨[[]], by rw [List.mapM_cons, passed]; rfl, Sets.empty⟩
    · have taken := (SettingsFile.ifFound_toml ends unnamed found).trans read
      rw [if_neg unnamed]
      exact ⟨[_], by rw [List.mapM_cons, taken]; rfl, Sets.file fits⟩

namespace Settings

theorem getLast?_parts_globalPath {w : Surroundings} {path : String} (known : globalPath? w = some path) :
    (Path.parts path).getLast? = some "config.toml" := by
  unfold globalPath? at known
  dsimp only at known
  split at known
  · obtain rfl := Option.some.inj known
    exact Path.getLast?_parts_join _ _
  · obtain ⟨home, -, rfl⟩ := Option.map_eq_some_iff.1 known
    exact Path.getLast?_parts_join _ _

/-- The user's own settings are read under a name of their own. -/
theorem sources_own {w : Surroundings} {layer : Layer} (h : w.OwnSets layer) :
    ∃ sources, (globalFile w).1.mapM (SettingsFile.ifFound w) = .ok sources ∧ Sets sources layer := by
  unfold globalFile
  cases h with
  | nowhere unknown =>
    rw [unknown]
    exact ⟨[], rfl, Sets.nil⟩
  | @file path layer known sets =>
    have ends := getLast?_parts_globalPath known
    have read_ends : (Path.parts ((w.canonical? path).getD path)).getLast? = some ("config" ++ ".toml") := by
      cases found : w.canonical? path with
      | none => exact ends
      | some canonical => exact Surroundings.getLast?_canonical (by decide) (by decide) ends found
    rw [known]
    dsimp only
    rw [apply_ite Prod.fst]
    exact sets.sources read_ends

/-- The name of the environment whose settings are chosen. -/
def environment (w : Surroundings) : String := (w.value? "FIFOQ_ENV").getD "development"

/-- The settings file of a workspace for every environment. -/
def basePath (workspace : String) : String := Path.join (Path.join workspace "config") "config.toml"

/-- The settings file of a workspace for the environment that is chosen. -/
def chosenPath (w : Surroundings) (workspace : String) : String :=
  Path.join (Path.join workspace "config") (environment w ++ ".toml")

theorem workspaceFiles_eq (w : Surroundings) (workspace : String) :
    workspaceFiles w workspace = (if w.has (basePath workspace) then [basePath workspace] else []) ++
      (if w.has (chosenPath w workspace) then [chosenPath w workspace] else []) := by
  show [basePath workspace, chosenPath w workspace].filter w.has = _
  rw [List.filter_cons, List.filter_cons, List.filter_nil]
  cases w.has (basePath workspace) <;> rfl

/-- The settings have the values of the layer, and the defaults where it sets nothing. -/
structure Takes (w : Surroundings) (layer : Layer) (m : Settings) : Prop where
  value : ∀ f, m.get? f = (layer f).or ((default w).get? f)
  modules : (m.logging.modules.map (·.1)).Nodup

theorem ofSources_takes {w : Surroundings} {sources : List (Named Node)} {layer : Layer}
    (sets : Sets (sources ++ [EnvironmentSource.settings w]) layer) :
    ∃ m, ofSources w sources = .ok m ∧ Takes w layer m := by
  obtain ⟨fits, held⟩ := sets Node.noMembers (Shape.fits_noMembers _)
  unfold ofSources Node.layAll
  generalize (sources ++ [EnvironmentSource.settings w]).foldl Node.lay Node.noMembers = merged at fits held
  cases merged with
  | scalar x origin => cases fits
  | array items origin => cases fits
  | table members origin =>
    rw [Node.members, Node.lay_eq_laidOver fits fits_defaults]
    obtain ⟨root_fits, root_get⟩ := Node.get?_laidOver fits fits_defaults
    obtain ⟨m, read, nodup, value⟩ := ofNode_of_fits w root_fits
    refine ⟨m, read, ?_, nodup⟩
    intro f
    have bare : Node.noMembers.get? f = none := by
      rw [Node.get?, Node.setting?_noMembers]
      rfl
    rw [value, root_get, held, bare, Option.or_none, Option.or_assoc, get?_defaults]

/-- The settings in which a relative directory of the store is seen from `root`. -/
theorem resolvedAgainst_eq (m : Settings) (root : String) :
    m.resolvedAgainst root = { m with
      storage.dataDir :=
        if Path.isAbsolute m.storage.dataDir then m.storage.dataDir
        else Path.join root m.storage.dataDir } := by
  unfold resolvedAgainst StorageSettings.resolvedAgainst
  by_cases absolute : Path.isAbsolute m.storage.dataDir
  · rw [if_pos absolute, Path.join, if_pos absolute]
  · rw [if_neg absolute]

/-- What the four sources of a workspace set. -/
structure Sources (w : Surroundings) (workspace : String) (own base chosen named : Layer) : Prop where
  own : w.OwnSets own
  base : w.FileSets (basePath workspace) (basePath workspace) base
  chosen : w.FileSets (chosenPath w workspace) (chosenPath w workspace) chosen
  named : w.VariablesSet named

/-- The settings of a workspace, as they are set, have field by field the value of the uppermost layer. -/
theorem merged_takes {w : Surroundings} {workspace : String} {own base chosen named : Layer}
    (h : Sources w workspace own base chosen named) :
    ∃ m, merged w workspace = .ok m ∧
      Takes w (Layer.top [named,
        if (Path.parts (environment w)).getLast? = some "" then Layer.nothing else chosen, base, own]) m := by
  obtain ⟨own_sources, own_read, own_sets⟩ := sources_own h.own
  have base_ends : (Path.parts (basePath workspace)).getLast? = some ("config" ++ ".toml") :=
    Path.getLast?_parts_join _ "config.toml"
  obtain ⟨base_sources, base_read, base_sets⟩ := h.base.sources base_ends
  rw [if_neg (by decide)] at base_sets
  obtain ⟨stem, stem_eq⟩ : ∃ stem, (Path.parts (environment w)).getLast? = some stem :=
    ⟨_, List.getLast?_eq_some_getLast (Path.parts_ne_nil _)⟩
  have chosen_ends : (Path.parts (chosenPath w workspace)).getLast? = some (stem ++ ".toml") := by
    rw [chosenPath, Path.getLast?_parts_join, Path.getLast?_parts_append (by decide), stem_eq]
    rfl
  obtain ⟨chosen_sources, chosen_read, chosen_sets⟩ := h.chosen.sources chosen_ends
  have read : ((globalFile w).1 ++ workspaceFiles w workspace).mapM (SettingsFile.ifFound w) =
      .ok (own_sources ++ (base_sources ++ chosen_sources)) := by
    rw [workspaceFiles_eq, List.mapM_append, List.mapM_append, own_read, base_read, chosen_read]
    rfl
  have sets := ((Sets.nil.append own_sets).append base_sets).append chosen_sets |>.append h.named.sets
  rw [List.nil_append, List.append_assoc own_sources] at sets
  obtain ⟨m, comes, takes⟩ := ofSources_takes sets
  refine ⟨m, ?_, ?_⟩
  · unfold merged
    rw [read]
    exact comes
  · simpa only [stem_eq, Option.some.injEq] using takes

/-- A single file and the environment come to the values of the upper one of the two. -/
theorem ofSources_single {w : Surroundings} {source : Named Node} {named : Layer}
    (named_set : w.VariablesSet named) (fits : Shape.settings.Fits (.table source none)) :
    ∃ m, ofSources w [source] = .ok m ∧
      Takes w (Layer.top [named, (Node.table source none).get?]) m :=
  ofSources_takes ((Sets.nil.append (Sets.file fits)).append named_set.sets)

/-- Loading a workspace takes each setting from the uppermost of the four layers that sets it: the
environment, the file of the chosen environment, the file of every environment and the user's own. The file
of the chosen environment is passed over if it has no name before `.toml`. A setting that none of them sets
has its default. A relative directory of the store is seen from the workspace, and validation has the last
word. Loading a single file is the same with that file and the environment alone, and the directory stays as
it is. -/
theorem load_layered {w : Surroundings} {workspace : String} {own base chosen named : Layer}
    (sources : Sources w workspace own base chosen named) :
    (∃ m, Takes w (Layer.top [named,
          if (Path.parts (environment w)).getLast? = some "" then Layer.nothing else chosen,
          base, own]) m ∧
        (load w workspace).1 = Settings.validated { m with
          storage.dataDir :=
            if Path.isAbsolute m.storage.dataDir then m.storage.dataDir
            else Path.join workspace m.storage.dataDir }) ∧
      ∀ w' path source named', SettingsFile.required w' path = .ok source →
        Shape.settings.Fits (.table source none) → Surroundings.VariablesSet w' named' →
        ∃ m, Takes w' (Layer.top [named', (Node.table source none).get?]) m ∧
          loadFile w' path = m.validated := by
  refine ⟨?workspace, ?single⟩
  case workspace =>
    obtain ⟨m, comes, takes⟩ := merged_takes sources
    refine ⟨m, takes, ?_⟩
    rw [load_eq, comes, ← resolvedAgainst_eq]
    rfl
  case single =>
    intro w' path source named' found fits named_set
    obtain ⟨m, comes, takes⟩ := ofSources_single named_set fits
    exact ⟨m, takes, loadFile_eq found comes⟩

/-- A workspace with settings in every layer. -/
def stacked : Surroundings :=
  ⟨[("XDG_CONFIG_HOME", "/etc"), ("FIFOQ_ENV", "test"), ("FIFOQ__STORAGE__DATA_DIR", "/q"),
      ("Fifoq__Logging__Modules__B", "off")], "/",
    ⟨[(["etc"], .directory), (["etc", "fifoq"], .directory), (["ws"], .directory),
      (["ws", "config"], .directory),
      (["etc", "fifoq", "config.toml"], .file "[storage]\ncache_capacity = 9\nflush_every_ms = 1\n"),
      (["ws", "config", "config.toml"], .file "[storage]\nsync_writes = false\nflush_every_ms = 2\n"),
      (["ws", "config", "test.toml"], .file "storage.flush_every_ms = 3\n")]⟩⟩

/-- What the user's own file holds. -/
def stackedOwn : Named Node :=
  let origin := some "etc/fifoq/config.toml"
  [("storage", .table
    [("cache_capacity", .scalar (.integer 9) origin),
      ("flush_every_ms", .scalar (.integer 1) origin)] origin)]

/-- What the file for every environment holds. -/
def stackedBase : Named Node :=
  let origin := some "ws/config/config.toml"
  [("storage", .table
    [("sync_writes", .scalar (.boolean false) origin),
      ("flush_every_ms", .scalar (.integer 2) origin)] origin)]

/-- What the file for the chosen environment holds. -/
def stackedChosen : Named Node :=
  let origin := some "ws/config/test.toml"
  [("storage", .table [("flush_every_ms", .scalar (.integer 3) origin)] origin)]

/-- What the variables hold. -/
def stackedNamed : Layer
  | .dataDir => some "/q"
  | .module name => if name = "b" then some "off" else none
  | _ => none

theorem variablesSet_stacked : stacked.VariablesSet stackedNamed := by
  have lettered : (Field.module "b").Lettered := by
    refine ⟨by decide, ?_⟩
    intro c there
    obtain rfl : c = 'b' := List.mem_singleton.1 there
    decide
  refine ⟨?read, ?named⟩
  case read =>
    have xdg : EnvironmentSource.key? "XDG_CONFIG_HOME" = none := by rfl
    have chosen : EnvironmentSource.key? "FIFOQ_ENV" = none := by rfl
    simp only [stacked, List.forall_mem_cons]
    refine ⟨fun names => absurd xdg names, fun names => absurd chosen names, fun _ => ?_, fun _ => ?_,
      nofun⟩
    · exact ⟨.dataDir, "/q", trivial, by decide, rfl, rfl⟩
    · exact ⟨.module "b", "off", lettered, by decide, rfl, rfl⟩
  case named =>
    intro f v set
    cases f with
    | dataDir => exact ⟨trivial, ("FIFOQ__STORAGE__DATA_DIR", "/q"), by decide, by decide⟩
    | module name =>
      by_cases same : name = "b"
      · subst same
        exact ⟨lettered, ("Fifoq__Logging__Modules__B", "off"), by decide, by decide⟩
      · cases (if_neg same).symm.trans set
    | _ => cases set

/-- A file with a section for the store alone. -/
theorem fits_storageFile {members : Named Node} {origin : Option String} (nodup : (members.map (·.1)).Nodup)
    (fits : ∀ e ∈ members, e.1.toList.all Text.isLow = true ∧ (Shape.storage.part e.1).Fits e.2) :
    Shape.settings.Fits (.table [("storage", .table members origin)] none) := by
  have storage_fits : Shape.storage.Fits (.table members origin) :=
    ⟨nodup, fun e there => ⟨Text.lower_of_low (fits e there).1, (fits e there).2⟩⟩
  have low : "storage".toList.all Text.isLow = true := by decide
  refine ⟨List.nodup_singleton _, ?_⟩
  intro e there
  obtain rfl := List.mem_singleton.1 there
  exact ⟨Text.lower_of_low low, storage_fits⟩

theorem fits_stackedBase : Shape.settings.Fits (.table stackedBase none) := by
  refine fits_storageFile (by decide) ?_
  simp only [List.forall_mem_cons]
  exact ⟨⟨by decide, rfl⟩, ⟨by decide, rfl⟩, nofun⟩

theorem sources_stacked : Sources stacked "ws" (Node.table stackedOwn none).get?
    (Node.table stackedBase none).get? (Node.table stackedChosen none).get? stackedNamed where
  own := by
    refine .file rfl (.present rfl rfl rfl (fits_storageFile (by decide) ?_))
    simp only [List.forall_mem_cons]
    exact ⟨⟨by decide, rfl⟩, ⟨by decide, rfl⟩, nofun⟩
  base := .present rfl rfl rfl fits_stackedBase
  chosen := by
    refine .present rfl rfl rfl (fits_storageFile (by decide) ?_)
    simp only [List.forall_mem_cons]
    exact ⟨⟨by decide, rfl⟩, nofun⟩
  named := variablesSet_stacked

/-- Every layer has its say in this workspace. One of its files, loaded by itself, is seen through the same
variables. -/
theorem load_stacked :
    let own := (Node.table stackedOwn none).get?
    let base := (Node.table stackedBase none).get?
    let chosen := (Node.table stackedChosen none).get?
    Sources stacked "ws" own base chosen stackedNamed ∧
      (∃ m, Takes stacked (Layer.top [stackedNamed, chosen, base, own]) m ∧
        (load stacked "ws").1 = Settings.validated { m with
          storage.dataDir :=
            if Path.isAbsolute m.storage.dataDir then m.storage.dataDir
            else Path.join "ws" m.storage.dataDir }) ∧
      ∃ m, Takes stacked (Layer.top [stackedNamed, base]) m ∧
        loadFile stacked "ws/config/config.toml" = m.validated := by
  intro own base chosen
  obtain ⟨⟨m, takes, loaded⟩, single⟩ := load_layered sources_stacked
  have named : (Path.parts (environment stacked)).getLast? ≠ some "" := by decide
  rw [if_neg named] at takes
  refine ⟨sources_stacked, ⟨m, takes, loaded⟩, ?_⟩
  exact single stacked "ws/config/config.toml" stackedBase stackedNamed rfl fits_stackedBase
    variablesSet_stacked

/-- A workspace whose chosen environment has an empty name, with a settings file for it. -/
def unnamed : Surroundings :=
  ⟨[("FIFOQ_ENV", "")], "/", ⟨[(["ws"], .directory), (["ws", "config"], .directory),
    (["ws", "config", ".toml"], .file "[storage]\nflush_every_ms = 8\n")]⟩⟩

/-- What the file of the empty environment holds. -/
def unnamedFile : Named Node :=
  [("storage", .table [("flush_every_ms", .scalar (.integer 8) (some "ws/config/.toml"))]
    (some "ws/config/.toml"))]

theorem sources_unnamed : Sources unnamed "ws" Layer.nothing Layer.nothing
    (Node.table unnamedFile none).get? Layer.nothing where
  own := .nowhere rfl
  base := .absent rfl
  chosen := by
    refine .present rfl rfl rfl (fits_storageFile (by decide) ?_)
    intro e there
    obtain rfl := List.mem_singleton.1 there
    exact ⟨by decide, rfl⟩
  named := by
    refine ⟨?_, nofun⟩
    intro e there names
    obtain rfl := List.mem_singleton.1 there
    exact absurd (show EnvironmentSource.key? "FIFOQ_ENV" = none by rfl) names

/-- The only layer that sets the interval between flushes has no effect: its file is passed over. -/
theorem load_unnamed : Sources unnamed "ws" Layer.nothing Layer.nothing
      (Node.table unnamedFile none).get? Layer.nothing ∧
    (Node.table unnamedFile none).get? .flushEveryMs = some (8 : UInt64) ∧
    ∃ m, (load unnamed "ws").1 = .ok m ∧ m.get? .flushEveryMs = some (500 : UInt64) :=
  ⟨sources_unnamed, rfl, _, rfl, rfl⟩

end Settings

end DurableQueue
