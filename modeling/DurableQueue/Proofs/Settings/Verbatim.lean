import DurableQueue.Proofs.Number.Decimal
import DurableQueue.Proofs.Settings.Acceptance
import DurableQueue.Proofs.Settings.Precedence
import DurableQueue.Proofs.Settings.Reach

/-!
# Paths in the environment

The text of a variable is parsed before anyone knows what it is for: as a truth value, else as a whole number,
else as a floating-point number, and only then is it left as text. A setting that is a text gets the parsed
value written again, so what arrives is `EnvironmentSource.reread` of the text. Parsing and writing leave the
text alone unless it is a number or a truth value in another spelling (`EnvironmentSource.rereading`): every
path with a slash in it arrives as it is, and a single name such as `007` does not (`Settings.load_respelled`).

Loading is looked at twice. Where the sources are layers, settings are answered, with the paths of the variables
(`Settings.PathsReread`). Where the sources hold anything whatsoever, the settings have these paths if any are
answered (`Settings.HasReread`).
-/

namespace DurableQueue

/-! ## Texts parsed and written again -/

/-- The text that a plain value is written as. -/
def Scalar.written : Scalar → String
  | .null => ""
  | .boolean b => toString b
  | .integer n => toString n
  | .float x => x.plain
  | .text s => s

theorem Kind.value?_text {x : Scalar} (given : x ≠ .null) : Kind.text.value? x = some x.written := by
  cases x with
  | null => exact absurd rfl given
  | _ => rfl

namespace EnvironmentSource

/-- The value that a text is parsed as, by the first of the four readings that succeeds. -/
inductive ParsedAs (text : String) : Scalar → Prop where
  | truth (b : Bool) (word : Text.lower text = toString b) : ParsedAs text (.boolean b)
  | whole {n : Int} (digits : readInt64? text.toList = some n) : ParsedAs text (.integer n)
  | decimal {x : Binary64} (not_whole : readInt64? text.toList = none)
      (number : Binary64.read? text = some x) : ParsedAs text (.float x)
  | plain : ParsedAs text (.text text)

theorem parsedAs_value (text : String) : ParsedAs text (value text) := by
  unfold value
  dsimp only
  split
  · next word => exact .truth true word
  · split
    · next word => exact .truth false word
    · split
      · next digits => exact .whole digits
      · next not_whole number => exact .decimal not_whole number
      · exact .plain

/-- The text of a variable as a setting gets it that is a text itself: parsed and written again. -/
def reread (text : String) : String := (value text).written

theorem value?_text_value (text : String) : Kind.text.value? (value text) = some (reread text) := by
  have parsed := parsedAs_value text
  refine Kind.value?_text ?_
  rintro none
  rw [none] at parsed
  cases parsed

theorem eq_reread_of_value? {text v : String} (read : Kind.text.value? (value text) = some v) : v = reread text :=
  Option.some.inj (read.symm.trans (value?_text_value text))

theorem isAlpha_of_truth {text : String} {b : Bool} (word : Text.lower text = toString b) :
    ∀ c ∈ text.toList, c.isAlpha = true := by
  have low : (toString b).toList.all (fun d => d.isAlpha && d != 'k') = true := by cases b <;> decide
  refine Text.isAlpha_of_lower word fun d there => ?_
  simpa using List.all_eq_true.1 low d there

/-- A text that does not stay as it is looks like a number, and so does what becomes of it. -/
theorem reread_eq_or_numeric (text : String) :
    reread text = text ∨ ((∀ c ∈ text.toList, isNumeric c = true) ∧ Numeric (reread text)) := by
  have parsed := parsedAs_value text
  unfold reread
  generalize value text = x at parsed ⊢
  cases parsed with
  | plain => exact Or.inl rfl
  | truth b word =>
    have letters : ∀ c ∈ text.toList, isNumeric c = true := fun c there => by
      simp [isNumeric, Char.isAlphanum, isAlpha_of_truth word c there]
    have written : Numeric (toString b) := by cases b <;> exact numeric_of_all (by decide) (by decide)
    exact Or.inr ⟨letters, written⟩
  | whole digits => exact Or.inr ⟨isNumeric_of_readInt64? digits, numeric_toString _⟩
  | decimal not_whole number =>
    exact Or.inr ⟨Binary64.isNumeric_of_read? number, Binary64.numeric_plain _⟩

/-- A whole number of 64 bits stays as it is if it is written without needless signs and zeros. -/
theorem reread_toString {n : Int} (least : -Int.pow 2 63 ≤ n) (most : n < Int.pow 2 63) :
    reread (toString n) = toString n := by
  have parsed := parsedAs_value (toString n)
  have digits := readInt64?_toString least (Int.le_sub_one_of_lt most)
  unfold reread
  generalize value (toString n) = x at parsed ⊢
  cases parsed with
  | plain => rfl
  | truth b word =>
    -- No letter is written.
    obtain ⟨c, there⟩ := List.exists_mem_of_ne_nil _ (mt String.toList_eq_nil_iff.1 (numeric_toString n).1)
    have letter := isAlpha_of_truth word c there
    rcases mem_toString there with rfl | digit
    · cases letter
    · have to_nine : c.toNat ≤ 57 := of_decide_eq_true (Bool.and_eq_true_iff.1 digit).2
      have from_a := Text.isAlpha_iff.1 letter
      omega
  | whole digits' =>
    obtain rfl := Option.some.inj (digits.symm.trans digits')
    rfl
  | decimal not_whole number => cases digits.symm.trans not_whole

/-- No number is an absolute path. -/
theorem isAbsolute_of_numeric {text : String} (numeric : ∀ c ∈ text.toList, isNumeric c = true) :
    Path.isAbsolute text = false := by
  unfold Path.isAbsolute
  refine Bool.eq_false_iff.2 fun absolute => ?_
  have slash : '/' ∈ text.toList := List.mem_of_head? (beq_iff_eq.1 absolute)
  exact absurd (numeric _ slash) (by decide)

/-- What parsing a text and writing it again leaves of it. -/
structure Rereading (text : String) : Prop where
  /-- The text stays as it is if it is left as text, or if it is a value in the spelling in which the value
  is written. -/
  kept : reread text = text ↔ value text = .text text ∨ text = "true" ∨ text = "false" ∨
    (∃ n : Int, -Int.pow 2 63 ≤ n ∧ n < Int.pow 2 63 ∧ text = toString n) ∨
    ∃ x, value text = .float x ∧ text = x.plain
  /-- A single character that no number has in it is enough. -/
  verbatim : (∃ c ∈ text.toList, isNumeric c = false) → reread text = text
  empty : reread text = "" ↔ text = ""
  absolute : Path.isAbsolute (reread text) = Path.isAbsolute text

theorem rereading (text : String) : Rereading text where
  kept := by
    constructor
    · intro same
      have parsed := parsedAs_value text
      unfold reread at same
      generalize value text = x at parsed same ⊢
      cases parsed with
      | plain => exact Or.inl rfl
      | truth b word =>
        cases b with
        | true => exact Or.inr (Or.inl same.symm)
        | false => exact Or.inr (Or.inr (Or.inl same.symm))
      | whole digits =>
        obtain ⟨least, most⟩ := bounds_of_readInt64? digits
        exact Or.inr (Or.inr (Or.inr (Or.inl ⟨_, least, Int.lt_of_le_sub_one most, same.symm⟩)))
      | decimal not_whole number => exact Or.inr (Or.inr (Or.inr (Or.inr ⟨_, rfl, same.symm⟩)))
    · rintro (plain | rfl | rfl | ⟨n, least, most, rfl⟩ | ⟨x, decimal, plain⟩)
      · rw [reread, plain, Scalar.written]
      · rfl
      · rfl
      · exact reread_toString least most
      · rw [reread, decimal, Scalar.written, ← plain]
  verbatim := by
    rintro ⟨c, there, odd⟩
    refine (reread_eq_or_numeric text).resolve_right ?_
    rintro ⟨numeric, -⟩
    exact Bool.false_ne_true (odd.symm.trans (numeric c there))
  empty := by
    constructor
    · intro none
      rcases reread_eq_or_numeric text with same | ⟨-, numeric⟩
      · exact same.symm.trans none
      · exact absurd none numeric.1
    · rintro rfl
      rfl
  absolute := by
    rcases reread_eq_or_numeric text with same | ⟨before, after⟩
    · rw [same]
    · rw [isAbsolute_of_numeric before, isAbsolute_of_numeric after.2]

end EnvironmentSource

/-! ## Variables -/

/-- The layer of the variables has the value that the text of the variable is read as. -/
theorem Surroundings.VariablesSet.layer_of_names {w : Surroundings} {layer : Layer} (h : w.VariablesSet layer)
    {f : Field} (lettered : f.Lettered) {text : String} (names : w.Names f text) :
    ∃ v, f.kind.value? (EnvironmentSource.value text) = some v ∧ layer f = some v := by
  obtain ⟨name, there, reads⟩ := names
  have key := EnvironmentSource.key?_of_lower lettered reads
  have sets : EnvironmentSource.key? name ≠ none := by
    rw [key]
    nofun
  obtain ⟨g, v, g_lettered, g_reads, read, set⟩ := h.read _ there sets
  have g_key := EnvironmentSource.key?_of_lower g_lettered g_reads
  have steps : g.path.map Step.name = f.path.map Step.name := by
    rw [← Field.ofKey_key lettered, ← Field.ofKey_key g_lettered, Option.some.inj (g_key.symm.trans key)]
  obtain rfl : g = f := Field.path_injective (List.map_injective_iff.2 (fun _ _ => Step.name.inj) steps)
  exact ⟨v, read, set⟩

/-! ## Loading -/

/-- A path that is not empty is not empty from wherever it is seen. -/
theorem Path.join_ne_empty_of_path (base : String) {path : String} (given : path ≠ "") :
    join base path ≠ "" := by
  unfold join
  split
  · exact given
  · split <;> simp [given]

namespace Settings

open EnvironmentSource (reread Rereading)

/-- What a setting gets if there is a variable for it. -/
theorem Takes.get?_of_names {w : Surroundings} {named : Layer} {layers : List Layer} {m : Settings}
    (takes : Takes w (Layer.top (named :: layers)) m) (set : w.VariablesSet named) {f : Field}
    (lettered : f.Lettered) {text : String} (names : w.Names f text) :
    ∃ v, f.kind.value? (EnvironmentSource.value text) = some v ∧ m.get? f = some v := by
  obtain ⟨v, read, named_f⟩ := set.layer_of_names lettered names
  refine ⟨v, read, ?_⟩
  rw [takes.value, Layer.top_cons, named_f, Option.some_or, Option.some_or]

/-- The paths of settings are those in the variables, parsed and written again. The answer to the caller, if
the settings are valid, has `seen` of the directory of the store. -/
structure PathsReread (w : Surroundings) (m : Settings) (seen : String → String)
    (answer : Except SettingsProblem Settings) : Prop where
  directory : ∀ text, w.Names .dataDir text → m.storage.dataDir = reread text
  file : ∀ text, w.Names .file text → m.logging.file = reread text
  answered : m.storage.dataDir ≠ "" → m.storage.cacheCapacity ≠ 0 → m.logging.objection? = none →
    answer = .ok { m with storage.dataDir := seen m.storage.dataDir }

theorem objections_resolvedAgainst_of_valid {m : Settings} (valid : m.objections = []) (root : String) :
    (m.resolvedAgainst root).objections = [] := by
  rw [objections_eq_nil_iff, StorageSettings.objection?_eq_none_iff] at valid ⊢
  exact ⟨⟨Path.join_ne_empty_of_path root valid.1.1, valid.1.2⟩, valid.2⟩

theorem Takes.pathsReread {w : Surroundings} {named : Layer} {layers : List Layer} {m : Settings}
    (takes : Takes w (Layer.top (named :: layers)) m) (set : w.VariablesSet named) {seen : String → String}
    {answer : Except SettingsProblem Settings}
    (answered : m.objections = [] → answer = .ok { m with storage.dataDir := seen m.storage.dataDir }) :
    PathsReread w m seen answer where
  directory text names := by
    obtain ⟨v, read, got⟩ := takes.get?_of_names set (f := .dataDir) trivial names
    exact (Option.some.inj got).trans (EnvironmentSource.eq_reread_of_value? read)
  file text names := by
    obtain ⟨v, read, got⟩ := takes.get?_of_names set (f := .file) trivial names
    exact (Option.some.inj got).trans (EnvironmentSource.eq_reread_of_value? read)
  answered directory capacity logging := by
    refine answered ?_
    rw [objections_eq_nil_iff, StorageSettings.objection?_eq_none_iff]
    exact ⟨⟨directory, capacity⟩, logging⟩

/-- The paths in loaded settings are those of the variables that are alone in reaching them, parsed and written
again, and with `seen` of the directory of the store. -/
structure HasReread (w : Surroundings) (seen : String → String) (loaded : Settings) : Prop where
  directory : ∀ text, w.Reaches .dataDir text → loaded.storage.dataDir = seen (reread text)
  file : ∀ text, w.Reaches .file text → loaded.logging.file = reread text

/-- A directory of a store as it is seen from a workspace. -/
def seenFrom (workspace directory : String) : String :=
  if Path.isAbsolute directory then directory else Path.join workspace directory

theorem hasReread_of_ofSources {w : Surroundings} {sources : List (Named Node)} {m : Settings}
    (steady : ∀ source ∈ sources, ∀ e ∈ source, Address.Steady e.1) (comes : ofSources w sources = .ok m)
    (seen : String → String) : HasReread w seen { m with storage.dataDir := seen m.storage.dataDir } where
  directory text reaches := by
    obtain ⟨v, read, got⟩ := get?_of_reaches steady comes (f := .dataDir) (fun _ => nofun) reaches
    exact congrArg seen ((Option.some.inj got).trans (EnvironmentSource.eq_reread_of_value? read))
  file text reaches := by
    obtain ⟨v, read, got⟩ := get?_of_reaches steady comes (f := .file) (fun _ => nofun) reaches
    exact (Option.some.inj got).trans (EnvironmentSource.eq_reread_of_value? read)

theorem hasReread_of_load {w : Surroundings} {workspace : String} {sources : List (Named Node)}
    {loaded : Settings} (steady : ∀ source ∈ sources, ∀ e ∈ source, Address.Steady e.1)
    (found : ((globalFile w).1 ++ workspaceFiles w workspace).mapM (SettingsFile.ifFound w) = .ok sources)
    (loads : (load w workspace).1 = .ok loaded) : HasReread w (seenFrom workspace) loaded := by
  rw [load_eq] at loads
  obtain ⟨m, comes, valid⟩ := exists_of_bind_ok loads
  unfold merged at comes
  rw [found] at comes
  obtain rfl := (validated_eq_ok_iff.1 valid).1
  rw [resolvedAgainst_eq]
  exact hasReread_of_ofSources steady comes (seenFrom workspace)

theorem hasReread_of_loadFile {w : Surroundings} {path : String} {source : Named Node} {loaded : Settings}
    (steady : ∀ e ∈ source, Address.Steady e.1) (found : SettingsFile.required w path = .ok source)
    (loads : loadFile w path = .ok loaded) : HasReread w (fun directory => directory) loaded := by
  obtain ⟨source', found', loads⟩ := exists_of_bind_ok loads
  obtain rfl : source = source' := Except.ok.inj (found.symm.trans found')
  obtain ⟨m, comes, valid⟩ := exists_of_bind_ok loads
  obtain rfl := (validated_eq_ok_iff.1 valid).1
  exact hasReread_of_ofSources (List.forall_mem_cons.2 ⟨steady, List.forall_mem_nil _⟩) comes _

/-- Where the settings of a workspace are loaded, and where those of a single file are, the directory of the
store and the log file are the texts of their variables as these are parsed and written again. The directory
is then seen from the workspace, or left as it is. Settings are answered if the layers hold valid ones, and
whatever the files and the other variables hold, if settings are answered, they have these paths. What
parsing and writing do to a text is in `Rereading`. -/
theorem load_reread {w : Surroundings} {workspace : String} {own base chosen named : Layer}
    (sources : Sources w workspace own base chosen named) :
    (∃ m, Takes w (Layer.top [named,
          if (Path.parts (environment w)).getLast? = some "" then Layer.nothing else chosen,
          base, own]) m ∧
        PathsReread w m (seenFrom workspace) (load w workspace).1) ∧
      (∀ w' path source named', SettingsFile.required w' path = .ok source →
        Shape.settings.Fits (.table source none) → Surroundings.VariablesSet w' named' →
        ∃ m, Takes w' (Layer.top [named', (Node.table source none).get?]) m ∧
          PathsReread w' m (fun directory => directory) (loadFile w' path)) ∧
      (∀ w' workspace' sources' loaded, (∀ source ∈ sources', ∀ e ∈ source, Address.Steady e.1) →
        ((globalFile w').1 ++ workspaceFiles w' workspace').mapM (SettingsFile.ifFound w') = .ok sources' →
        (load w' workspace').1 = .ok loaded → HasReread w' (seenFrom workspace') loaded) ∧
      (∀ w' path source loaded, (∀ e ∈ source, Address.Steady e.1) →
        SettingsFile.required w' path = .ok source → loadFile w' path = .ok loaded →
        HasReread w' (fun directory => directory) loaded) ∧
      ∀ text, Rereading text := by
  refine ⟨?workspace, ?single, ?anyWorkspace, ?anySingle, EnvironmentSource.rereading⟩
  case workspace =>
    obtain ⟨m, comes, takes⟩ := merged_takes sources
    refine ⟨m, takes, takes.pathsReread sources.named ?_⟩
    intro valid
    have resolved : m.resolvedAgainst workspace =
        { m with storage.dataDir := seenFrom workspace m.storage.dataDir } := resolvedAgainst_eq m workspace
    rw [load_eq, comes, ← resolved]
    exact validated_eq_ok_iff.2 ⟨rfl, objections_resolvedAgainst_of_valid valid workspace⟩
  case single =>
    intro w' path source named' found fits named_set
    obtain ⟨m, comes, takes⟩ := ofSources_single named_set fits
    refine ⟨m, takes, takes.pathsReread named_set ?_⟩
    intro valid
    rw [loadFile_eq found comes]
    exact validated_eq_ok_iff.2 ⟨rfl, valid⟩
  case anyWorkspace => exact fun _ _ _ _ steady found loads => hasReread_of_load steady found loads
  case anySingle => exact fun _ _ _ _ steady found loads => hasReread_of_loadFile steady found loads

/-- Surroundings whose variables name a directory that reads as a number, and a log file that reads as a truth
value. -/
def respelled : Surroundings :=
  ⟨[("FIFOQ__STORAGE__DATA_DIR", "007"), ("FIFOQ__LOGGING__FILE", "True")], "/",
    ⟨[(["bare.toml"], .file "")]⟩⟩

/-- What the variables hold. -/
def respelledNamed : Layer
  | .dataDir => some "7"
  | .file => some "true"
  | _ => none

theorem variablesSet_respelled : respelled.VariablesSet respelledNamed := by
  refine ⟨?read, ?named⟩
  case read =>
    simp only [respelled, List.forall_mem_cons]
    refine ⟨fun _ => ?_, fun _ => ?_, nofun⟩
    · exact ⟨.dataDir, "7", trivial, by decide, rfl, rfl⟩
    · exact ⟨.file, "true", trivial, by decide, rfl, rfl⟩
  case named =>
    intro f v set
    cases f with
    | dataDir => exact ⟨trivial, ("FIFOQ__STORAGE__DATA_DIR", "007"), by decide, by decide⟩
    | file => exact ⟨trivial, ("FIFOQ__LOGGING__FILE", "True"), by decide, by decide⟩
    | _ => cases set

theorem sources_respelled :
    Sources respelled "ws" Layer.nothing Layer.nothing Layer.nothing respelledNamed where
  own := .nowhere rfl
  base := .absent rfl
  chosen := .absent rfl
  named := variablesSet_respelled

/-- The settings that `respelled` comes to. -/
def respelledSettings : Settings := ⟨.inDirectory "7", { LoggingSettings.default respelled with file := "true" }⟩

/-- Neither of the two paths arrives as it was given. -/
theorem load_respelled : respelled.Names .dataDir "007" ∧ respelled.Names .file "True" ∧
    (load respelled "ws").1 = .ok { respelledSettings with storage := .inDirectory "ws/7" } ∧
    loadFile respelled "bare.toml" = .ok respelledSettings ∧ Path.join "ws" "007" = "ws/007" :=
  ⟨⟨_, List.mem_cons_self, by decide⟩, ⟨_, List.mem_cons_of_mem _ List.mem_cons_self, by decide⟩,
    by decide +kernel, by decide +kernel, rfl⟩

theorem reaches_respelled : respelled.Reaches .dataDir "007" where
  names := ⟨_, List.mem_cons_self, by decide⟩
  alone := by
    have directory : EnvironmentSource.key? "FIFOQ__STORAGE__DATA_DIR" = some Field.dataDir.key :=
      EnvironmentSource.key?_of_lower (f := .dataDir) trivial (by decide)
    have file : EnvironmentSource.key? "FIFOQ__LOGGING__FILE" = some Field.file.key :=
      EnvironmentSource.key?_of_lower (f := .file) trivial (by decide)
    unfold respelled
    refine List.forall_mem_cons.2 ⟨?_, List.forall_mem_cons.2 ⟨?_, nofun⟩⟩
    · intro key names
      exact Or.inl ⟨Option.some.inj (names.symm.trans directory), rfl⟩
    · intro key names
      obtain rfl := Option.some.inj (names.symm.trans file)
      rw [Field.ofKey_key (f := .file) trivial]
      have other : Text.lower "logging" ≠ "storage" := by decide
      exact Or.inr (Or.inl other)

/-- The paths in these surroundings, by the general theorem. -/
theorem load_reread_respelled :
    Sources respelled "ws" Layer.nothing Layer.nothing Layer.nothing respelledNamed ∧
      respelled.Reaches .dataDir "007" ∧
      (∃ loaded, (load respelled "ws").1 = .ok loaded ∧ HasReread respelled (seenFrom "ws") loaded ∧
        loaded.storage.dataDir = Path.join "ws" (reread "007")) ∧
      (∃ m, PathsReread respelled m (fun directory => directory) (loadFile respelled "bare.toml")) ∧
      Rereading "007" ∧ reread "007" ≠ "007" ∧ reread "/tmp/007" = "/tmp/007" := by
  obtain ⟨⟨m, takes, paths⟩, single, anyWorkspace, -, rereading⟩ := load_reread sources_respelled
  have directory : m.storage.dataDir = reread "007" :=
    paths.directory "007" ⟨_, List.mem_cons_self, by decide⟩
  have capacity : m.storage.cacheCapacity = 64 * 1024 * 1024 := Option.some.inj (takes.value .cacheCapacity)
  have level : m.logging.level = "info" := Option.some.inj (takes.value .level)
  have format : m.logging.format = "text" := Option.some.inj (takes.value .format)
  have output : m.logging.output = "stdout" := Option.some.inj (takes.value .output)
  have logging : m.logging.objection? = none := by
    rw [LoggingSettings.objection?, level, format, output]
    decide
  have answered := paths.answered (by rw [directory]; decide +kernel) (by rw [capacity]; decide) logging
  have loaded := anyWorkspace respelled "ws" [] _ nofun rfl answered
  obtain ⟨m', -, paths'⟩ :=
    single respelled "bare.toml" [] respelledNamed rfl (Shape.fits_noMembers _) variablesSet_respelled
  refine ⟨sources_respelled, reaches_respelled, ⟨_, answered, loaded, ?_⟩, ⟨m', paths'⟩, rereading "007",
    by decide +kernel, ?_⟩
  · rw [loaded.directory "007" reaches_respelled]
    rfl
  · exact (rereading "/tmp/007").verbatim ⟨'/', by decide, rfl⟩

end Settings

end DurableQueue
