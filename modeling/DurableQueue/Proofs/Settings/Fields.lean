import DurableQueue.Proofs.Settings.Overlay
import DurableQueue.Proofs.Text.LowerCase
import DurableQueue.Settings.Load

/-!
# The settings one by one

The single settings (`Field`), with the path of each in a tree. A tree that has their shape holds a value for
some of them, and reading it gives these values and the defaults for the rest (`Settings.ofNode_of_fits`). The
defaults that are laid below every source are the defaults of the typed settings
(`Settings.get?_defaults`), so it does not matter which of the two is taken.
-/

namespace DurableQueue

/-- A single setting. -/
inductive Field where
  | dataDir | cacheCapacity | flushEveryMs | syncWrites
  | level | format | output | file | color
  /-- the level of a module -/
  | module (name : String)
  deriving DecidableEq

namespace Field

/-- The kind of value that the setting has. -/
def kind : Field → Kind
  | cacheCapacity | flushEveryMs => .word
  | syncWrites | color => .truth
  | _ => .text

/-- The names on the way to the setting. -/
def path : Field → List String
  | dataDir => ["storage", "data_dir"]
  | cacheCapacity => ["storage", "cache_capacity"]
  | flushEveryMs => ["storage", "flush_every_ms"]
  | syncWrites => ["storage", "sync_writes"]
  | level => ["logging", "level"]
  | format => ["logging", "format"]
  | output => ["logging", "output"]
  | file => ["logging", "file"]
  | color => ["logging", "color"]
  | module name => ["logging", "modules", name]

theorem path_injective : Function.Injective path := by
  intro f g same
  cases f <;> cases g <;> simp [path] at same ⊢
  exact same

end Field

/-! ## The shape of settings -/

namespace Shape

def storage : Shape := .table fun
  | "data_dir" => .value .text
  | "cache_capacity" => .value .word
  | "flush_every_ms" => .value .word
  | "sync_writes" => .value .truth
  | _ => .nothing

def logging : Shape := .table fun
  | "level" => .value .text
  | "format" => .value .text
  | "output" => .value .text
  | "file" => .value .text
  | "color" => .value .truth
  | "modules" => .table fun _ => .value .text
  | _ => .nothing

/-- What a tree of settings may hold. -/
def settings : Shape := .table fun
  | "storage" => storage
  | "logging" => logging
  | _ => .nothing

theorem along_path (f : Field) : settings.along f.path = .value f.kind := by
  cases f <;> rfl

end Shape

/-! ## Values of settings -/

/-- The value that a tree holds for a setting, if it holds one. -/
def Node.get? (root : Node) (f : Field) : Option f.kind.Value :=
  (root.setting? f.path).bind f.kind.value?

/-- The value of a setting. Only the level of a module may be missing. -/
def Settings.get? (m : Settings) : (f : Field) → Option f.kind.Value
  | .dataDir => some m.storage.dataDir
  | .cacheCapacity => some m.storage.cacheCapacity
  | .flushEveryMs => some m.storage.flushEveryMs
  | .syncWrites => some m.storage.syncWrites
  | .level => some m.logging.level
  | .format => some m.logging.format
  | .output => some m.logging.output
  | .file => some m.logging.file
  | .color => some m.logging.color
  | .module name => m.logging.modules.lookup name

/-- The defaults that are laid below every source say nothing else than those of the typed settings. -/
theorem Settings.get?_defaults (w : Surroundings) (f : Field) :
    (defaults.get? f).or ((default w).get? f) = (default w).get? f := by
  cases f <;> rfl

theorem Settings.fits_defaults : Shape.settings.Fits defaults := by
  have low {name : String} (chars : name.toList.all Text.isLow = true) : Text.lower name = name :=
    Text.lower_of_low chars
  refine ⟨by decide, ?_⟩
  simp only [List.forall_mem_cons]
  refine ⟨⟨low (by decide), by decide, ?storage⟩, ⟨low (by decide), by decide, ?logging⟩, fun _ => nofun⟩
  case storage =>
    simp only [List.forall_mem_cons]
    exact ⟨⟨low (by decide), rfl⟩, ⟨low (by decide), rfl⟩, ⟨low (by decide), rfl⟩, ⟨low (by decide), rfl⟩,
      fun _ => nofun⟩
  case logging =>
    simp only [List.forall_mem_cons]
    exact ⟨⟨low (by decide), rfl⟩, ⟨low (by decide), rfl⟩, ⟨low (by decide), rfl⟩, fun _ => nofun⟩

/-! ## Reading sections -/

/-- The value under a name in a section, or a default. -/
def Node.valueOr (node : Node) (kind : Kind) (name : String) (default : kind.Value) : kind.Value :=
  ((node.setting? [name]).bind kind.value?).getD default

section Sections

variable {part : String → Shape} {node : Node}

theorem Shape.Fits.checkSection (h : (Shape.table part).Fits node) (expected : String) :
    node.checkSection expected = .ok () := by
  cases node with
  | table members origin => rfl
  | scalar x origin => cases h
  | array items origin => cases h

/-- The field of a section that fits, whatever it is read as. -/
theorem Shape.Fits.field_eq {α : Type} (h : (Shape.table part).Fits node) (address : Address)
    (position : Nat) (name : String) (read : Address → Node → Except SettingsProblem α) (default : α) :
    node.field address position name read default =
      (node.member? name).elim (.ok default) (read (address ++ [.name name])) := by
  cases node with
  | table members origin =>
    unfold Node.field
    dsimp only
    cases (Node.table members origin).member? name <;> rfl
  | scalar x origin => cases h
  | array items origin => cases h

/-- A value that fits is read as the value it is. -/
theorem Shape.Fits.read {kind : Kind} (h : (Shape.value kind).Fits node) (address : Address) :
    ∃ v, (node.setting? []).bind kind.value? = some v ∧ kind.read address node = .ok v := by
  cases node with
  | table members origin => cases h
  | array items origin => cases h
  | scalar x origin =>
    obtain ⟨v, read⟩ := Option.isSome_iff_exists.1 h
    refine ⟨v, ?_, Kind.read_of_value? read address origin⟩
    rcases Node.plain?_eq_none_or x origin with plain | rfl
    · exact (congrArg (·.bind kind.value?) plain).trans read
    · cases (Kind.value?_null kind).symm.trans read

theorem Shape.Fits.field (h : (Shape.table part).Fits node) (kind : Kind) (name : String)
    (kinds : part name = .value kind) (address : Address) (position : Nat) (default : kind.Value) :
    node.field address position name kind.read default = .ok (node.valueOr kind name default) := by
  rw [h.field_eq, Node.valueOr, Node.setting?_cons]
  cases found : node.member? name with
  | none => rfl
  | some member =>
    have fits := (h.member found).2
    rw [kinds] at fits
    obtain ⟨v, held, read⟩ := fits.read (address ++ [.name name])
    exact read.trans (congrArg (fun held => Except.ok (Option.getD held default)) held).symm

/-- Texts by name are read one after the other. -/
theorem Node.asTexts_table {members : Named Node} (fits : ∀ e ∈ members, (Shape.value .text).Fits e.2)
    (address : Address) (origin : Option String) :
    ∃ texts, (Node.table members origin).asTexts address = .ok texts ∧
      texts.map (·.1) = members.map (·.1) ∧
      ∀ name, texts.lookup name =
        ((Node.table members origin).setting? [name]).bind Kind.text.value? := by
  induction members with
  | nil => exact ⟨[], rfl, rfl, fun _ => rfl⟩
  | cons head rest ih =>
    obtain ⟨name, member⟩ := head
    obtain ⟨first, later⟩ := List.forall_mem_cons.1 fits
    obtain ⟨texts, read, names, lookups⟩ := ih later
    obtain ⟨v, held, here⟩ := first.read (address ++ [.name name])
    refine ⟨(name, v) :: texts, ?_, congrArg (name :: ·) names, ?_⟩
    · have here : Node.asText (address ++ [.name name]) member = .ok v := here
      unfold Node.asTexts at read ⊢
      dsimp only at read ⊢
      rw [List.mapM_cons, read, here]
      rfl
    · intro n
      rw [Node.setting?_cons, Node.member?, Node.members, List.lookup_cons, List.lookup_cons]
      cases n == name with
      | true => exact held.symm
      | false => exact lookups n

theorem Shape.Fits.asTexts (h : (Shape.table fun _ => .value .text).Fits node) (address : Address) :
    ∃ texts, node.asTexts address = .ok texts ∧ (texts.map (·.1)).Nodup ∧
      ∀ name, texts.lookup name = (node.setting? [name]).bind Kind.text.value? := by
  cases node with
  | scalar x origin => cases h
  | array items origin => cases h
  | table members origin =>
    obtain ⟨texts, read, names, lookups⟩ :=
      Node.asTexts_table (fun e there => (h.2 e there).2) address origin
    exact ⟨texts, read, names ▸ h.1, lookups⟩

/-- The levels of the modules in a section of logging that fits. -/
theorem Shape.Fits.modules (h : Shape.logging.Fits node) (address : Address) (position : Nat) :
    ∃ texts, node.field address position "modules" Node.asTexts [] = .ok texts ∧
      (texts.map (·.1)).Nodup ∧
      ∀ name, texts.lookup name = (node.setting? ["modules", name]).bind Kind.text.value? := by
  rw [h.field_eq]
  cases found : node.member? "modules" with
  | none =>
    refine ⟨[], rfl, List.nodup_nil, ?_⟩
    intro name
    rw [Node.setting?_cons, found]
    rfl
  | some member =>
    obtain ⟨texts, read, nodup, lookups⟩ := (h.member found).2.asTexts (address ++ [.name "modules"])
    refine ⟨texts, read, nodup, ?_⟩
    intro name
    rw [Node.setting?_cons, found, lookups]
    rfl

end Sections

/-! ## Reading settings -/

/-- A section of storage settings that fits is read field by field. -/
theorem StorageSettings.ofNode_of_fits {node : Node} (fits : Shape.storage.Fits node) (address : Address) :
    ofNode address node = .ok {
      dataDir := node.valueOr .text "data_dir" default.dataDir
      cacheCapacity := node.valueOr .word "cache_capacity" default.cacheCapacity
      flushEveryMs := node.valueOr .word "flush_every_ms" default.flushEveryMs
      syncWrites := node.valueOr .truth "sync_writes" default.syncWrites } := by
  have dataDir := fits.field .text "data_dir" rfl address 0 default.dataDir
  have cacheCapacity := fits.field .word "cache_capacity" rfl address 1 default.cacheCapacity
  have flushEveryMs := fits.field .word "flush_every_ms" rfl address 2 default.flushEveryMs
  have syncWrites := fits.field .truth "sync_writes" rfl address 3 default.syncWrites
  simp only [Kind.read] at dataDir cacheCapacity flushEveryMs syncWrites
  unfold ofNode
  simp only [fits.checkSection, dataDir, cacheCapacity, flushEveryMs, syncWrites, bind, Except.bind, pure,
    Except.pure]

/-- A section of logging settings that fits is read field by field, and the modules name by name. -/
theorem LoggingSettings.ofNode_of_fits (w : Surroundings) {node : Node} (fits : Shape.logging.Fits node)
    (address : Address) :
    ∃ modules, ofNode w address node = .ok {
        level := node.valueOr .text "level" (default w).level
        format := node.valueOr .text "format" (default w).format
        output := node.valueOr .text "output" (default w).output
        file := node.valueOr .text "file" (default w).file
        color := node.valueOr .truth "color" (default w).color
        modules := modules } ∧
      (modules.map (·.1)).Nodup ∧
      ∀ name, modules.lookup name = (node.setting? ["modules", name]).bind Kind.text.value? := by
  have level := fits.field .text "level" rfl address 0 (default w).level
  have format := fits.field .text "format" rfl address 1 (default w).format
  have output := fits.field .text "output" rfl address 2 (default w).output
  have file := fits.field .text "file" rfl address 3 (default w).file
  have color := fits.field .truth "color" rfl address 4 (default w).color
  obtain ⟨modules, read, nodup, lookups⟩ := fits.modules address 5
  refine ⟨modules, ?_, nodup, lookups⟩
  have read : node.field address 5 "modules" Node.asTexts (default w).modules = .ok modules := read
  simp only [Kind.read] at level format output file color
  unfold ofNode
  simp only [fits.checkSection, level, format, output, file, color, read, bind, Except.bind, pure,
    Except.pure]

/-- The section under a name; one that is not there has no members. -/
def Node.sectionOf (root : Node) (name : String) : Node := (root.member? name).getD noMembers

theorem Node.setting?_sectionOf (root : Node) (name : String) (path : List String) :
    (root.sectionOf name).setting? path = root.setting? (name :: path) := by
  rw [setting?_cons, sectionOf]
  cases root.member? name with
  | none => exact setting?_noMembers path
  | some member => rfl

theorem Node.some_valueOr_sectionOf (root : Node) (kind : Kind) (name field : String) (d : kind.Value) :
    some ((root.sectionOf name).valueOr kind field d) =
      ((root.setting? [name, field]).bind kind.value?).or (some d) := by
  rw [valueOr, setting?_sectionOf]
  cases (root.setting? [name, field]).bind kind.value? <;> rfl

theorem Shape.Fits.sectionOf {part part' : String → Shape} {root : Node} (h : (Shape.table part).Fits root)
    {name : String} (below : part name = .table part') : (Shape.table part').Fits (root.sectionOf name) := by
  unfold Node.sectionOf
  cases found : root.member? name with
  | none => exact Shape.fits_noMembers part'
  | some member => exact below ▸ (h.member found).2

namespace Settings

theorem ofNode_eq {w : Surroundings} {root : Node} {storage : StorageSettings} {logging : LoggingSettings}
    (read_storage : root.field [] 0 "storage" StorageSettings.ofNode .default = .ok storage)
    (read_logging : root.field [] 1 "logging" (LoggingSettings.ofNode w) (.default w) = .ok logging) :
    ofNode w root = .ok ⟨storage, logging⟩ := by
  unfold ofNode
  rw [read_storage, read_logging]
  rfl

/-- A tree that fits is read as the values that it holds, and the defaults for the others. -/
theorem ofNode_of_fits (w : Surroundings) {root : Node} (fits : Shape.settings.Fits root) :
    ∃ m, ofNode w root = .ok m ∧ (m.logging.modules.map (·.1)).Nodup ∧
      ∀ f, m.get? f = (root.get? f).or ((default w).get? f) := by
  have storage : root.field [] 0 "storage" StorageSettings.ofNode .default =
      StorageSettings.ofNode [.name "storage"] (root.sectionOf "storage") := by
    rw [fits.field_eq, Node.sectionOf]
    cases root.member? "storage" <;> rfl
  have logging : root.field [] 1 "logging" (LoggingSettings.ofNode w) (.default w) =
      LoggingSettings.ofNode w [.name "logging"] (root.sectionOf "logging") := by
    rw [fits.field_eq, Node.sectionOf]
    cases root.member? "logging" <;> rfl
  have storage_fits : Shape.storage.Fits (root.sectionOf "storage") := fits.sectionOf rfl
  have logging_fits : Shape.logging.Fits (root.sectionOf "logging") := fits.sectionOf rfl
  rw [StorageSettings.ofNode_of_fits storage_fits] at storage
  obtain ⟨modules, read, nodup, lookups⟩ :=
    LoggingSettings.ofNode_of_fits w logging_fits [.name "logging"]
  rw [read] at logging
  refine ⟨_, ofNode_eq storage logging, nodup, ?_⟩
  intro f
  cases f with
  | module name =>
    show modules.lookup name = ((root.setting? _).bind _).or none
    rw [lookups, Node.setting?_sectionOf, Option.or_none]
    rfl
  | _ => exact root.some_valueOr_sectionOf _ _ _ _

end Settings

end DurableQueue
