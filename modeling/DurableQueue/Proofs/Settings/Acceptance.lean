import DurableQueue.Settings.Load

/-!
# What loading accepts

Loading the settings of a workspace lays the sources over one another (`merged`), sees the directory of the
store from the workspace, and only then checks what has come out (`load_eq`). From a workspace that is named,
no directory is empty (`Path.join_ne_empty`), so the check cannot tell any more whether one was given.
`load_eq_ok_iff` says which settings loading accepts: those that validation accepts, and those to which it
objects for the empty directory alone. The directory of the latter is the workspace itself.
-/

namespace DurableQueue

/-! ## Paths seen from a directory -/

/-- The pieces before a separator and those behind it. -/
theorem Text.splitAll_append_cons (sep : Char) (cs rest : List Char) :
    splitAll sep (cs ++ sep :: rest) = splitAll sep cs ++ splitAll sep rest := by
  induction cs with
  | nil => simp [splitAll]
  | cons c cs ih =>
    rw [List.cons_append, splitAll, splitAll]
    by_cases at_c : c = sep
    · rw [if_pos at_c, if_pos at_c, ih, List.cons_append]
    · rw [if_neg at_c, if_neg at_c, ih]
      cases pieces : splitAll sep cs with
      | nil => exact absurd pieces (splitAll_ne_nil sep cs)
      | cons piece pieces => rfl

namespace Path

/-- Seen from a directory that has a name, no path is empty. -/
theorem join_ne_empty {base : String} (named : base ≠ "") (path : String) : join base path ≠ "" := by
  unfold join
  split
  · next absolute =>
    rintro rfl
    cases absolute
  · split
    · simp [named]
    · simp [named]

theorem join_empty (base : String) : join base "" = base ∨ join base "" = base ++ "/" := by
  unfold join
  rw [if_neg (by decide)]
  split
  · exact Or.inl (by simp)
  · exact Or.inr (by simp)

/-- The empty path leads along the names of the directory that it is seen from. -/
theorem components_join_empty (base : String) : components (join base "") = components base := by
  rcases join_empty base with same | slash
  · rw [same]
  · have parts_eq : parts (base ++ "/") = parts base ++ [""] := by
      unfold parts
      rw [String.toList_append, show "/".toList = ['/'] from rfl, Text.splitAll_append_cons, List.map_append]
      rfl
    rw [slash, components, parts_eq, List.filter_append]
    simp [components]

theorem isAbsolute_join_empty {base : String} (named : base ≠ "") :
    isAbsolute (join base "") = isAbsolute base := by
  rcases join_empty base with same | slash
  · rw [same]
  · rw [slash]
    unfold isAbsolute
    rw [String.toList_append]
    cases chars : base.toList with
    | nil => exact absurd (String.toList_eq_nil_iff.1 chars) named
    | cons c cs => rfl

end Path

/-! ## Validation -/

theorem StorageSettings.objection?_eq_none_iff (s : StorageSettings) :
    s.objection? = none ↔ s.dataDir ≠ "" ∧ s.cacheCapacity ≠ 0 := by
  unfold objection?
  by_cases empty : s.dataDir = ""
  · simp [empty]
  · by_cases zero : s.cacheCapacity = 0 <;> simp [empty, zero]

namespace Settings

theorem objections_eq_nil_iff (m : Settings) :
    m.objections = [] ↔ m.storage.objection? = none ∧ m.logging.objection? = none := by
  unfold objections
  rw [List.append_eq_nil_iff, Option.toList_eq_nil_iff, Option.toList_eq_nil_iff]

/-- Validation answers the settings themselves if it has no objection, and nothing but an error else. -/
theorem validated_eq_ok_iff {m settings : Settings} :
    m.validated = .ok settings ↔ settings = m ∧ m.objections = [] := by
  unfold validated
  by_cases none : m.objections = []
  · simp [none, eq_comm]
  · simp [none]

/-- The settings would do if it were not for the directory of the store, which is empty. -/
structure LacksDirectory (m : Settings) : Prop where
  empty : m.storage.dataDir = ""
  capacity : m.storage.cacheCapacity ≠ 0
  logging : m.logging.objection? = none

/-- Seen from a directory that has a name, settings are valid if there is no objection but for an empty
directory. -/
theorem objections_resolvedAgainst {root : String} (named : root ≠ "") (m : Settings) :
    (m.resolvedAgainst root).objections = [] ↔ m.objections = [] ∨ m.LacksDirectory := by
  rw [objections_eq_nil_iff, objections_eq_nil_iff, StorageSettings.objection?_eq_none_iff,
    StorageSettings.objection?_eq_none_iff]
  constructor
  · rintro ⟨⟨-, capacity⟩, logging⟩
    by_cases empty : m.storage.dataDir = ""
    · exact Or.inr ⟨empty, capacity, logging⟩
    · exact Or.inl ⟨⟨empty, capacity⟩, logging⟩
  · rintro (⟨⟨-, capacity⟩, logging⟩ | lacks)
    · exact ⟨⟨Path.join_ne_empty named _, capacity⟩, logging⟩
    · exact ⟨⟨Path.join_ne_empty named _, lacks.capacity⟩, lacks.logging⟩

/-! ## Loading -/

/-- The settings that the sources of a workspace come to, as they are set. -/
def merged (w : Surroundings) (workspace : String) : Except SettingsProblem Settings := do
  let sources ← ((globalFile w).1 ++ workspaceFiles w workspace).mapM (SettingsFile.ifFound w)
  ofSources w sources

theorem load_eq (w : Surroundings) (workspace : String) :
    (load w workspace).1 =
      (merged w workspace).bind fun m => (m.resolvedAgainst workspace).validated := by
  unfold load merged
  dsimp only [bind]
  cases ((globalFile w).1 ++ workspaceFiles w workspace).mapM (SettingsFile.ifFound w) with
  | error problem => rfl
  | ok sources =>
    dsimp only [Except.bind]
    cases ofSources w sources with
    | error problem => rfl
    | ok m =>
      dsimp only
      cases (m.resolvedAgainst workspace).validated <;> rfl

/-- What validation answers to the settings that a single file and the environment come to. -/
theorem loadFile_eq {w : Surroundings} {path : String} {source : Named Node} {m : Settings}
    (found : SettingsFile.required w path = .ok source) (sources : ofSources w [source] = .ok m) :
    loadFile w path = m.validated := by
  unfold loadFile
  simp only [found, sources, bind, Except.bind]

/-- Loading a workspace that has a name accepts the settings that its sources come to if validation accepts
them, or if it objects to nothing but the empty directory, and no others. In the second case the directory
is the workspace itself. A single file that comes to the same settings is accepted only by validation. -/
theorem load_eq_ok_iff {w : Surroundings} {workspace : String} (named : workspace ≠ "") {m : Settings}
    (sources : merged w workspace = .ok m) :
    (∀ settings, (load w workspace).1 = .ok settings ↔
        settings = m.resolvedAgainst workspace ∧ (m.validated = .ok m ∨ m.LacksDirectory)) ∧
      (∀ w' path source, SettingsFile.required w' path = .ok source → ofSources w' [source] = .ok m →
        loadFile w' path = m.validated) ∧
      (m.LacksDirectory → m.validated = .error (.invalid [.emptyDataDir]) ∧
        let directory := (m.resolvedAgainst workspace).storage.dataDir
        Path.components directory = Path.components workspace ∧
          Path.isAbsolute directory = Path.isAbsolute workspace) := by
  refine ⟨?accepted, fun w' path source found comes => loadFile_eq found comes, ?lacking⟩
  case accepted =>
    intro settings
    rw [load_eq, sources, validated_eq_ok_iff]
    show (m.resolvedAgainst workspace).validated = .ok settings ↔ _
    rw [validated_eq_ok_iff, objections_resolvedAgainst named]
    simp
  case lacking =>
    intro lacks
    have objections : m.objections = [.emptyDataDir] := by
      simp [Settings.objections, StorageSettings.objection?, lacks.empty, lacks.logging]
    refine ⟨by simp [validated, objections], ?_⟩
    show Path.components (Path.join workspace m.storage.dataDir) = _ ∧
      Path.isAbsolute (Path.join workspace m.storage.dataDir) = _
    rw [lacks.empty]
    exact ⟨Path.components_join_empty workspace, Path.isAbsolute_join_empty named⟩

/-- Surroundings whose environment names an empty directory for the store, with a file that sets nothing. -/
def emptied : Surroundings :=
  ⟨[("FIFOQ__STORAGE__DATA_DIR", "")], "/", ⟨[(["bare.toml"], .file "")]⟩⟩

/-- The settings that `emptied` comes to. -/
def withoutDirectory : Settings := ⟨.inDirectory "", .default emptied⟩

theorem merged_emptied : merged emptied "ws" = .ok withoutDirectory := by
  rfl

/-- An empty directory is refused where a file is loaded, and passes where a workspace is. -/
theorem load_emptied : merged emptied "ws" = .ok withoutDirectory ∧
    withoutDirectory.validated = .error (.invalid [.emptyDataDir]) ∧
    loadFile emptied "bare.toml" = .error (.invalid [.emptyDataDir]) ∧
    (load emptied "ws").1 = .ok { withoutDirectory with storage := .inDirectory "ws/" } :=
  ⟨merged_emptied, rfl, rfl, rfl⟩

/-- The settings of a workspace that names an empty directory, by the general theorem. -/
theorem load_emptied_iff : "ws" ≠ "" ∧ merged emptied "ws" = .ok withoutDirectory ∧
    withoutDirectory.LacksDirectory ∧
    (load emptied "ws").1 = .ok (withoutDirectory.resolvedAgainst "ws") := by
  have lacks : withoutDirectory.LacksDirectory := ⟨rfl, by decide, by decide⟩
  have accepted := (load_eq_ok_iff (by decide : "ws" ≠ "") merged_emptied).1
    (withoutDirectory.resolvedAgainst "ws")
  exact ⟨by decide, merged_emptied, lacks, accepted.2 ⟨rfl, Or.inr lacks⟩⟩

end Settings

end DurableQueue
