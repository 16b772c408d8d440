import DurableQueue.Proofs.Settings.Layers
import Mathlib.Data.List.TakeWhile

/-!
# Variables have the last word

Files may hold anything: names that no setting has, an array where a section is asked for, one name in several
spellings. Whatever they hold, a variable that is alone in reaching its setting decides the value of the setting
(`Settings.get?_of_reaches`).

The sources are laid over one another, and what comes of it is laid over the defaults. A change at an address
leaves alone the settings that it leads away from (`Address.Apart`), and a value that is laid at the path of a
setting is there afterwards. It is still there after the second laying, as the tables that are made by laying
are tidy (`Node.Tidy`): they have no name twice, and all of their names are in lower case.
-/

namespace DurableQueue

/-! ## Tidy tables -/

namespace Node

/-- In the tables of a tree, arrays apart, no name comes up twice, and all names are in lower case. -/
inductive Tidy : Node → Prop where
  | scalar (x : Scalar) (origin : Option String) : Tidy (.scalar x origin)
  | array (items : List Node) (origin : Option String) : Tidy (.array items origin)
  | table {members : Named Node} (origin : Option String) (nodup : (members.map (·.1)).Nodup)
      (lower : ∀ e ∈ members, Text.lower e.1 = e.1) (below : ∀ e ∈ members, Tidy e.2) :
      Tidy (.table members origin)

namespace Tidy

theorem noMembers : Tidy Node.noMembers := .table none List.nodup_nil nofun nofun

theorem asTable {root : Node} (h : Tidy root) : Tidy (.table root.asTable.1 root.asTable.2) := by
  cases h with
  | scalar | array => exact .noMembers
  | table origin nodup lower below => exact .table origin nodup lower below

theorem orTable {root : Node} (h : Tidy root) : Tidy root.orTable := by
  unfold Node.orTable
  split
  · exact .noMembers
  · exact h

theorem member {root child : Node} {name : String} (h : Tidy root) (found : root.member? name = some child) :
    Tidy child := by
  cases h with
  | scalar | array => cases found
  | table origin nodup lower below => exact below _ (Named.mem_of_lookup found)

theorem changeMember {root : Node} {name : String} {change : Node → Node} (h : Tidy root)
    (changes : ∀ child, Tidy child → Tidy (change child)) : Tidy (root.changeMember name change) := by
  cases h.asTable with
  | table origin nodup lower below =>
    have child : Tidy ((root.asTable.1.lookup (Text.lower name)).getD unset) := by
      cases found : root.asTable.1.lookup (Text.lower name) with
      | none => exact .scalar .null none
      | some child => exact below _ (Named.mem_of_lookup found)
    refine .table _ (Named.nodup_put _ _ nodup) ?_ ?_
    · intro e there
      rcases Named.mem_put there with rfl | there
      · exact Text.lower_lower name
      · exact lower e there
    · intro e there
      rcases Named.mem_put there with rfl | there
      · exact changes _ child
      · exact below e there

theorem changeItem {root : Node} (position : Int) (change : Node → Node) : Tidy (root.changeItem position change) := by
  unfold Node.changeItem
  split
  · exact .array _ _
  · exact .array _ _

theorem changeWithin {change : Node → Node} (changes : ∀ root, Tidy root → Tidy (change root))
    (address : Address) {root : Node} (h : Tidy root) : Tidy (root.changeWithin change address) := by
  induction address generalizing root with
  | nil => exact changes root h
  | cons step address ih =>
    cases step with
    | name name => exact h.changeMember fun child tidy => ih tidy
    | index position => exact changeItem position _

end Tidy

mutual

/-- Whatever is laid over a tidy tree, what comes of it is tidy. -/
theorem tidy_laidOver : (value root : Node) → Tidy root → Tidy (value.laidOver root)
  | .scalar x origin, _, _ => .scalar x origin
  | .array items origin, _, _ => .array items origin
  | .table members _, _, h => tidy_layMembers members _ h.orTable

theorem tidy_layMembers : (members : List (String × Node)) → (root : Node) → Tidy root →
    Tidy (laidOver.layMembers members root)
  | [], _, h => h
  | (_, value) :: members, _, h =>
    tidy_layMembers members _ (h.changeMember fun child tidy => tidy_laidOver value child tidy)

end

theorem Tidy.lay {root : Node} (h : Tidy root) (source : Named Node) : Tidy (root.lay source) := by
  induction source generalizing root with
  | nil => exact h
  | cons e source ih => exact ih (h.changeWithin (tidy_laidOver e.2) (Address.ofKey e.1))

/-! ## What laying leaves alone, and what it sets -/

theorem member?_layMembers {members : Named Node} {name : String} (other : ∀ e ∈ members, Text.lower e.1 ≠ name)
    (root : Node) : (laidOver.layMembers members root).member? name = root.member? name := by
  induction members generalizing root with
  | nil => rfl
  | cons head rest ih =>
    obtain ⟨first, later⟩ := List.forall_mem_cons.1 other
    rw [laidOver.layMembers, ih later, member?_changeMember, if_neg (Ne.symm first), asTable_fst]
    rfl

/-- Each member of a tidy table is laid over something, under its own name. -/
theorem exists_member?_layMembers {members : Named Node} (nodup : (members.map (·.1)).Nodup)
    (lower : ∀ e ∈ members, Text.lower e.1 = e.1) {name : String} {child : Node}
    (found : members.lookup name = some child) (root : Node) :
    ∃ below, (laidOver.layMembers members root).member? name = some (child.laidOver below) := by
  induction members generalizing root with
  | nil => cases found
  | cons head rest ih =>
    obtain ⟨n, value⟩ := head
    obtain ⟨fresh, rest_nodup⟩ := List.nodup_cons.1 nodup
    obtain ⟨first, later⟩ := List.forall_mem_cons.1 lower
    rw [laidOver.layMembers]
    by_cases same : name = n
    · subst same
      obtain rfl : value = child := Option.some.inj ((List.lookup_cons_self).symm.trans found)
      have other : ∀ e ∈ rest, Text.lower e.1 ≠ name := by
        intro e there again
        exact fresh (List.mem_map.2 ⟨e, there, (later e there).symm.trans again⟩)
      rw [member?_layMembers other, member?_changeMember, if_pos first.symm]
      exact ⟨_, rfl⟩
    · rw [List.lookup_cons, beq_false_of_ne same] at found
      exact ih rest_nodup later found _

/-- What a tidy tree has at a path is there after it has been laid over any other tree. -/
theorem Tidy.setting?_laidOver {value : Node} {path : List String} {x : Scalar} (h : Tidy value)
    (set : value.setting? path = some x) (root : Node) : (value.laidOver root).setting? path = some x := by
  induction path generalizing value root with
  | nil =>
    cases value with
    | scalar y origin => exact set
    | array | table => cases set
  | cons name path ih =>
    rw [setting?_cons] at set ⊢
    obtain ⟨child, found, child_set⟩ := Option.bind_eq_some_iff.1 set
    have child_tidy := h.member found
    cases h with
    | scalar | array => cases found
    | table origin nodup lower below =>
      obtain ⟨under, laid⟩ := exists_member?_layMembers nodup lower found root.orTable
      rw [laidOver, laid]
      exact ih child_tidy child_set under

end Node

/-- The address leads away from the path: somewhere it goes on to another name. -/
def Address.Apart : Address → List String → Prop
  | .name n :: address, name :: path => Text.lower n ≠ name ∨ Apart address path
  | _, _ => False

theorem Address.not_apart {path : List String} (lower : ∀ name ∈ path, Text.lower name = name) :
    ¬ Apart (path.map .name) path := by
  induction path with
  | nil => exact id
  | cons name path ih =>
    obtain ⟨first, later⟩ := List.forall_mem_cons.1 lower
    rintro (other | further)
    · exact other first
    · exact ih later further

namespace Node

theorem setting?_of_apart {address : Address} {path : List String} (apart : address.Apart path)
    (change : Node → Node) (root : Node) : (root.changeWithin change address).setting? path = root.setting? path := by
  induction path generalizing address root with
  | nil =>
    cases address with
    | nil => cases apart
    | cons step address => cases step <;> cases apart
  | cons name path ih =>
    cases address with
    | nil => cases apart
    | cons step address =>
      cases step with
      | index position => cases apart
      | name n =>
        rw [changeWithin, setting?_changeMember]
        by_cases same : name = Text.lower n
        · have further : Address.Apart address path := Or.resolve_left apart (not_not.2 same.symm)
          rw [if_pos same, ih further, setting?_getD_member?]
        · rw [if_neg same]

theorem tidy_nest {path : List String} (lower : ∀ name ∈ path, Text.lower name = name) {node : Node}
    (h : Tidy node) : Tidy (nest path node) := by
  induction path with
  | nil => exact h
  | cons name path ih =>
    obtain ⟨first, later⟩ := List.forall_mem_cons.1 lower
    refine .table none (List.nodup_singleton name) ?_ ?_
    · exact List.forall_mem_cons.2 ⟨first, List.forall_mem_nil _⟩
    · exact List.forall_mem_cons.2 ⟨ih later, List.forall_mem_nil _⟩

/-- The entries of a source are laid at the path with one value, or lead away from it. -/
def OnlySets (source : Named Node) (path : List String) (x : Scalar) : Prop :=
  ∀ e ∈ source, (Address.ofKey e.1 = path.map .name ∧ ∃ origin, e.2 = .scalar x origin) ∨
    (Address.ofKey e.1).Apart path

theorem OnlySets.setting?_lay {source : Named Node} {path : List String} {x : Scalar}
    (only : OnlySets source path x) (given : x ≠ .null) (lower : ∀ name ∈ path, Text.lower name = name)
    {root : Node}
    (somewhere : root.setting? path = some x ∨ ∃ e ∈ source, Address.ofKey e.1 = path.map .name) :
    (root.lay source).setting? path = some x := by
  induction source generalizing root with
  | nil => exact somewhere.resolve_right nofun
  | cons head rest ih =>
    obtain ⟨key, value⟩ := head
    obtain ⟨first, later⟩ := List.forall_mem_cons.1 only
    rw [lay_cons]
    refine ih later ?_
    rcases first with ⟨address, origin, scalar⟩ | apart
    · obtain rfl : value = .scalar x origin := scalar
      have nested : (nest path (.scalar x origin)).setting? path = some x := by
        rw [setting?_nest given, if_pos rfl]
      rw [address, changeWithin_eq_laidOver]
      exact Or.inl ((tidy_nest lower (.scalar x origin)).setting?_laidOver nested root)
    · rw [setting?_of_apart apart]
      rcases somewhere with before | ⟨e, there, address⟩
      · exact Or.inl before
      · rcases List.mem_cons.1 there with rfl | there
        · exact absurd (address ▸ apart) (Address.not_apart lower)
        · exact Or.inr ⟨e, there, address⟩

end Node

/-! ## Names at the top -/

namespace Address

/-- The first name of the key is read as itself when it is put in lower case. -/
def Steady (key : String) : Prop :=
  ∀ name address, ofKey key = .name name :: address → ofKey (Text.lower name) = [.name (Text.lower name)]

theorem exists_of_nameStep {cs rest : List Char} {step : Step} (read : nameStep cs = some (step, rest)) :
    ∃ name, step = .name name ∧ Plain name := by
  change (Format.Reader.run1 isNameChar cs).bind (fun x => some (Step.name (String.ofList x.1), x.2)) = _ at read
  obtain ⟨⟨run, left⟩, taken, same⟩ := Option.bind_eq_some_iff.1 read
  obtain ⟨rfl, rfl⟩ := Prod.mk.inj (Option.some.inj same)
  change (if (cs.takeWhile isNameChar).isEmpty then failure else return cs.takeWhile isNameChar :
    Format.Reader _) (cs.dropWhile isNameChar) = _ at taken
  split at taken
  · cases taken
  · next some_char =>
    obtain ⟨rfl, rfl⟩ := Prod.mk.inj (Option.some.inj taken)
    refine ⟨_, rfl, ?_, ?_⟩
    · simpa using some_char
    · rw [String.toList_ofList]
      exact List.all_eq_true.2 fun c there => List.mem_takeWhile_imp there

theorem exists_of_read? {key : String} {address : Address} (read : read? key = some address) :
    ∃ name rest, address = .name name :: rest ∧ Plain name := by
  unfold read? Format.Reader.whole at read
  split at read
  · next steps read_all =>
    obtain rfl := Option.some.inj read
    change (nameStep key.toList).bind (fun x => (furtherSteps (key.length + 1) x.2).bind
      fun y => some (x.1 :: y.1, y.2)) = _ at read_all
    obtain ⟨⟨step, left⟩, first, later⟩ := Option.bind_eq_some_iff.1 read_all
    obtain ⟨⟨rest, _⟩, -, same⟩ := Option.bind_eq_some_iff.1 later
    obtain ⟨rfl, -⟩ := Prod.mk.inj (Option.some.inj same)
    obtain ⟨name, rfl, plain⟩ := exists_of_nameStep first
    exact ⟨name, rest, rfl, plain⟩
  · cases read

theorem exists_of_ofKey (key : String) : ∃ name address, ofKey key = .name name :: address := by
  unfold ofKey
  cases read : read? key with
  | none => exact ⟨key, [], rfl⟩
  | some address =>
    obtain ⟨name, rest, rfl, -⟩ := exists_of_read? read
    exact ⟨name, rest, rfl⟩

/-- A single name is read as itself. -/
theorem ofKey_of_plain {name : String} (plain : Plain name) : ofKey name = [.name name] := by
  have whole : ".".intercalate [name] = name := by
    rw [← String.toList_inj, toList_intercalate]
    exact List.append_nil _
  have read := ofKey_intercalate (List.cons_ne_nil name []) (List.forall_mem_cons.2 ⟨plain, List.forall_mem_nil _⟩)
  rw [whole] at read
  exact read

theorem toNat_of_isNameChar {c : Char} (may : isNameChar c = true) : c.toNat < 128 := by
  simp only [isNameChar, Bool.or_eq_true, beq_iff_eq, Char.isAlphanum] at may
  rcases may with (((letter | digit) | rfl) | rfl) | rfl
  · have bounds := Text.isAlpha_iff.1 letter
    omega
  · have to_nine : c.toNat ≤ 57 := of_decide_eq_true (Bool.and_eq_true_iff.1 digit).2
    omega
  · decide
  · decide
  · decide

theorem isNameChar_lowerChar_ofNat : ∀ n < 128, isNameChar (Char.ofNat n) = true →
    (Text.lowerChar (Char.ofNat n)).all isNameChar = true := by
  decide +kernel

/-- Names stay names in lower case. -/
theorem isNameChar_lowerChar {c : Char} (may : isNameChar c = true) : ∀ d ∈ Text.lowerChar c, isNameChar d = true := by
  have code := isNameChar_lowerChar_ofNat c.toNat (toNat_of_isNameChar may)
  rw [Char.ofNat_toNat] at code
  exact List.all_eq_true.1 (code may)

theorem isNameChar_lowerBehind {cs : List Char} (may : ∀ c ∈ cs, isNameChar c = true) (before : List Char) :
    ∀ d ∈ Text.lowerBehind before cs, isNameChar d = true := by
  induction cs generalizing before with
  | nil => exact List.forall_mem_nil _
  | cons c cs ih =>
    obtain ⟨first, later⟩ := List.forall_mem_cons.1 may
    have not_sigma : c ≠ 'Σ' := by
      rintro rfl
      exact absurd first (by decide)
    rw [Text.lowerBehind, if_neg not_sigma]
    exact List.forall_mem_append.2 ⟨isNameChar_lowerChar first, ih later _⟩

theorem Plain.lower {name : String} (h : Plain name) : Plain (Text.lower name) := by
  refine ⟨Text.lower_ne_empty h.1, ?_⟩
  rw [Text.lower, String.toList_ofList]
  exact List.all_eq_true.2 (isNameChar_lowerBehind (List.all_eq_true.1 h.2) [])

theorem steady_of_read? {key : String} (readable : read? key ≠ none) : Steady key := by
  intro name address same
  obtain ⟨read, readable⟩ := Option.ne_none_iff_exists'.1 readable
  obtain ⟨name', rest, rfl, plain⟩ := exists_of_read? readable
  rw [ofKey, readable, Option.getD_some] at same
  obtain rfl := Step.name.inj (List.cons.inj same).1
  exact ofKey_of_plain plain.lower

end Address

namespace Node

/-- The names at the top of a tree are read as themselves. -/
def NamesStand (root : Node) : Prop := ∀ e ∈ root.members, Address.ofKey e.1 = [.name e.1]

theorem NamesStand.lay {root : Node} (h : root.NamesStand) {source : Named Node}
    (steady : ∀ e ∈ source, Address.Steady e.1) : (root.lay source).NamesStand := by
  induction source generalizing root with
  | nil => exact h
  | cons head rest ih =>
    obtain ⟨key, value⟩ := head
    obtain ⟨first, later⟩ := List.forall_mem_cons.1 steady
    rw [lay_cons]
    refine ih ?_ later
    obtain ⟨name, address, same⟩ := Address.exists_of_ofKey key
    rw [same]
    intro e there
    rcases Named.mem_put there with rfl | before
    · exact first name address same
    · rw [asTable_fst] at before
      exact h e before

/-- What the sources set by laying over one another is set when they are laid over the tree. -/
theorem setting?_layAll {sources : List (Named Node)} (steady : ∀ source ∈ sources, ∀ e ∈ source, Address.Steady e.1)
    {path : List String} (some_name : path ≠ []) {x : Scalar}
    (set : (sources.foldl lay noMembers).setting? path = some x) {root : Node} (table : root.orTable = root) :
    (root.layAll sources).setting? path = some x := by
  have laid (start : Node) (tidy : start.Tidy) (stand : start.NamesStand) :
      (sources.foldl lay start).Tidy ∧ (sources.foldl lay start).NamesStand := by
    clear set
    induction sources generalizing start with
    | nil => exact ⟨tidy, stand⟩
    | cons source rest ih =>
      obtain ⟨first, later⟩ := List.forall_mem_cons.1 steady
      exact ih later (start.lay source) (tidy.lay source) (stand.lay first)
  obtain ⟨tidy, stand⟩ := laid noMembers .noMembers nofun
  unfold layAll
  generalize sources.foldl lay noMembers = merged at set tidy stand ⊢
  obtain ⟨name, path, rfl⟩ := List.exists_cons_of_ne_nil some_name
  cases merged with
  | scalar | array => cases set
  | table members origin =>
    have names : ∀ e ∈ members, Address.ofKey e.1 = [.name e.1] := stand
    rw [Node.members, lay_eq_layMembers names]
    have laid_over := tidy.setting?_laidOver set root
    rw [laidOver, table] at laid_over
    exact laid_over

end Node

/-! ## Variables -/

namespace EnvironmentSource

theorem settled_dotted {cs : List Char} (settled : ∀ c ∈ cs, Text.Settled c) : ∀ c ∈ dotted cs, Text.Settled c := by
  induction cs using dotted.induct with
  | case1 cs ih =>
    rw [dotted]
    refine List.forall_mem_cons.2 ⟨Text.settled_of_lt (by decide), ih ?_⟩
    exact fun c there => settled c (List.mem_cons_of_mem _ (List.mem_cons_of_mem _ there))
  | case2 c cs other ih =>
    obtain ⟨first, later⟩ := List.forall_mem_cons.1 settled
    rw [dotted]
    · exact List.forall_mem_cons.2 ⟨first, ih later⟩
    · exact other
  | case3 => exact List.forall_mem_nil _

/-- The key of a variable is in lower case. -/
theorem lower_of_key? {name key : String} (names : key? name = some key) : Text.lower key = key := by
  unfold key? at names
  dsimp only at names
  split at names
  · obtain rfl := Option.some.inj names
    refine Text.lower_of_settled ?_
    rw [String.toList_ofList]
    exact settled_dotted fun c there => Text.settled_lower name c (List.mem_of_mem_drop there)
  · cases names

theorem steady_of_key? {name key : String} (names : key? name = some key) : Address.Steady key := by
  by_cases unreadable : Address.read? key = none
  · intro first address same
    rw [Address.ofKey, unreadable, Option.getD_none] at same
    obtain rfl := Step.name.inj (List.cons.inj same).1
    rw [lower_of_key? names, Address.ofKey, unreadable, Option.getD_none]
  · exact Address.steady_of_read? unreadable

end EnvironmentSource

/-- There is a variable for the setting, with this text. The case of the letters in its name does not
matter. -/
def Surroundings.Names (w : Surroundings) (f : Field) (text : String) : Prop :=
  ∃ name, (name, text) ∈ w.environment ∧ Text.lower name = f.variableName

/-- There is a variable for the setting, with this text, and whatever else is in the environment leads away
from the setting. -/
structure Surroundings.Reaches (w : Surroundings) (f : Field) (text : String) : Prop where
  names : w.Names f text
  alone : ∀ e ∈ w.environment, ∀ key, EnvironmentSource.key? e.1 = some key →
    (key = f.key ∧ e.2 = text) ∨ (Address.ofKey key).Apart f.path

theorem EnvironmentSource.value_ne_null (text : String) : value text ≠ .null := by
  unfold value
  dsimp only
  split
  · nofun
  · split
    · nofun
    · split <;> nofun

section Reaches

variable {w : Surroundings} {f : Field} {text : String}

theorem Surroundings.Reaches.setting?_lay (h : w.Reaches f text) (lettered : f.Lettered) (root : Node) :
    (root.lay (EnvironmentSource.settings w)).setting? f.path = some (EnvironmentSource.value text) := by
  have only : Node.OnlySets (EnvironmentSource.settings w) f.path (EnvironmentSource.value text) := by
    intro e there
    obtain ⟨x, in_environment, key, scalar⟩ := EnvironmentSource.mem_settings there
    rcases h.alone x in_environment e.1 key with ⟨same, same_text⟩ | apart
    · refine Or.inl ⟨by rw [same, Field.ofKey_key lettered], some "the environment", ?_⟩
      rw [scalar, same_text]
    · exact Or.inr apart
  obtain ⟨name, there, reads⟩ := h.names
  obtain ⟨node, entry⟩ :=
    EnvironmentSource.exists_mem_settings there (EnvironmentSource.key?_of_lower lettered reads)
  exact only.setting?_lay (EnvironmentSource.value_ne_null text) (f.lower_path lettered)
    (Or.inr ⟨_, entry, Field.ofKey_key lettered⟩)

end Reaches

/-! ## Reading a setting -/

theorem exists_of_bind_ok {ε α β : Type} {first : Except ε α} {next : α → Except ε β} {b : β}
    (h : first.bind next = .ok b) : ∃ a, first = .ok a ∧ next a = .ok b := by
  cases first with
  | error e => cases h
  | ok a => exact ⟨a, rfl, h⟩

namespace Node

theorem field_of_member? {node child : Node} {name : String} (found : node.member? name = some child) {α : Type}
    (address : Address) (position : Nat) (read : Address → Node → Except SettingsProblem α) (default : α) :
    node.field address position name read default = read (address ++ [.name name]) child := by
  cases node with
  | scalar | array => cases found
  | table members origin =>
    unfold field
    dsimp only
    rw [found]

/-- A plain value under a name in a section is what the field of that name is read from. -/
theorem value?_of_field {kind : Kind} {node : Node} {name : String} {x : Scalar}
    (set : node.setting? [name] = some x) {address : Address} {position : Nat} {default v : kind.Value}
    (read : node.field address position name kind.read default = .ok v) : kind.value? x = some v := by
  obtain ⟨child, found, plain⟩ := Option.bind_eq_some_iff.1 set
  rw [field_of_member? found] at read
  cases child with
  | array | table => cases plain
  | scalar y origin =>
    rcases plain?_eq_none_or y origin with same | rfl
    · obtain rfl := Option.some.inj (same.symm.trans plain)
      rw [← Kind.toOption_read kind y (address ++ [.name name]) origin, read]
      rfl
    · cases plain

end Node

/-- What each of the storage settings is read from. -/
structure StorageSettings.ReadFrom (address : Address) (node : Node) (s : StorageSettings) : Prop where
  dataDir : node.field address 0 "data_dir" Kind.text.read default.dataDir = .ok s.dataDir
  cacheCapacity : node.field address 1 "cache_capacity" Kind.word.read default.cacheCapacity = .ok s.cacheCapacity
  flushEveryMs : node.field address 2 "flush_every_ms" Kind.word.read default.flushEveryMs = .ok s.flushEveryMs
  syncWrites : node.field address 3 "sync_writes" Kind.truth.read default.syncWrites = .ok s.syncWrites

theorem StorageSettings.readFrom_of_ofNode {address : Address} {node : Node} {s : StorageSettings}
    (read : ofNode address node = .ok s) : ReadFrom address node s := by
  unfold ofNode at read
  obtain ⟨_, -, read⟩ := exists_of_bind_ok read
  obtain ⟨dataDir, first, read⟩ := exists_of_bind_ok read
  obtain ⟨cacheCapacity, second, read⟩ := exists_of_bind_ok read
  obtain ⟨flushEveryMs, third, read⟩ := exists_of_bind_ok read
  obtain ⟨syncWrites, fourth, read⟩ := exists_of_bind_ok read
  obtain rfl := Except.ok.inj read
  exact ⟨first, second, third, fourth⟩

/-- What each of the logging settings is read from, the levels of modules apart. -/
structure LoggingSettings.ReadFrom (w : Surroundings) (address : Address) (node : Node) (s : LoggingSettings) :
    Prop where
  level : node.field address 0 "level" Kind.text.read (default w).level = .ok s.level
  format : node.field address 1 "format" Kind.text.read (default w).format = .ok s.format
  output : node.field address 2 "output" Kind.text.read (default w).output = .ok s.output
  file : node.field address 3 "file" Kind.text.read (default w).file = .ok s.file
  color : node.field address 4 "color" Kind.truth.read (default w).color = .ok s.color

theorem LoggingSettings.readFrom_of_ofNode {w : Surroundings} {address : Address} {node : Node}
    {s : LoggingSettings} (read : ofNode w address node = .ok s) : ReadFrom w address node s := by
  unfold ofNode at read
  obtain ⟨_, -, read⟩ := exists_of_bind_ok read
  obtain ⟨level, first, read⟩ := exists_of_bind_ok read
  obtain ⟨format, second, read⟩ := exists_of_bind_ok read
  obtain ⟨output, third, read⟩ := exists_of_bind_ok read
  obtain ⟨file, fourth, read⟩ := exists_of_bind_ok read
  obtain ⟨color, fifth, read⟩ := exists_of_bind_ok read
  obtain ⟨modules, -, read⟩ := exists_of_bind_ok read
  obtain rfl := Except.ok.inj read
  exact ⟨first, second, third, fourth, fifth⟩

namespace Settings

/-- A setting with a name of its own is read from the plain value at its path, if there is one. -/
theorem get?_of_ofNode {w : Surroundings} {root : Node} {m : Settings} (read : ofNode w root = .ok m) {f : Field}
    (fixed : ∀ name, f ≠ .module name) {x : Scalar} (set : root.setting? f.path = some x) :
    ∃ v, f.kind.value? x = some v ∧ m.get? f = some v := by
  unfold ofNode at read
  obtain ⟨storage, read_storage, read⟩ := exists_of_bind_ok read
  obtain ⟨logging, read_logging, read⟩ := exists_of_bind_ok read
  obtain rfl := Except.ok.inj read
  have in_storage {field : String} (set : root.setting? ["storage", field] = some x) :
      ∃ address node, StorageSettings.ReadFrom address node storage ∧ node.setting? [field] = some x := by
    obtain ⟨node, found, set⟩ := Option.bind_eq_some_iff.1 set
    rw [Node.field_of_member? found] at read_storage
    exact ⟨_, node, StorageSettings.readFrom_of_ofNode read_storage, set⟩
  have in_logging {field : String} (set : root.setting? ["logging", field] = some x) :
      ∃ address node, LoggingSettings.ReadFrom w address node logging ∧ node.setting? [field] = some x := by
    obtain ⟨node, found, set⟩ := Option.bind_eq_some_iff.1 set
    rw [Node.field_of_member? found] at read_logging
    exact ⟨_, node, LoggingSettings.readFrom_of_ofNode read_logging, set⟩
  cases f with
  | module name => exact absurd rfl (fixed name)
  | dataDir =>
    obtain ⟨_, _, fields, set⟩ := in_storage set
    exact ⟨_, Node.value?_of_field set fields.dataDir, rfl⟩
  | cacheCapacity =>
    obtain ⟨_, _, fields, set⟩ := in_storage set
    exact ⟨_, Node.value?_of_field set fields.cacheCapacity, rfl⟩
  | flushEveryMs =>
    obtain ⟨_, _, fields, set⟩ := in_storage set
    exact ⟨_, Node.value?_of_field set fields.flushEveryMs, rfl⟩
  | syncWrites =>
    obtain ⟨_, _, fields, set⟩ := in_storage set
    exact ⟨_, Node.value?_of_field set fields.syncWrites, rfl⟩
  | level =>
    obtain ⟨_, _, fields, set⟩ := in_logging set
    exact ⟨_, Node.value?_of_field set fields.level, rfl⟩
  | format =>
    obtain ⟨_, _, fields, set⟩ := in_logging set
    exact ⟨_, Node.value?_of_field set fields.format, rfl⟩
  | output =>
    obtain ⟨_, _, fields, set⟩ := in_logging set
    exact ⟨_, Node.value?_of_field set fields.output, rfl⟩
  | file =>
    obtain ⟨_, _, fields, set⟩ := in_logging set
    exact ⟨_, Node.value?_of_field set fields.file, rfl⟩
  | color =>
    obtain ⟨_, _, fields, set⟩ := in_logging set
    exact ⟨_, Node.value?_of_field set fields.color, rfl⟩

/-- A variable that is alone in reaching a setting decides it, whatever the other sources hold. -/
theorem get?_of_reaches {w : Surroundings} {sources : List (Named Node)} {m : Settings}
    (steady : ∀ source ∈ sources, ∀ e ∈ source, Address.Steady e.1) (comes : ofSources w sources = .ok m)
    {f : Field} (fixed : ∀ name, f ≠ .module name) {text : String} (reaches : w.Reaches f text) :
    ∃ v, f.kind.value? (EnvironmentSource.value text) = some v ∧ m.get? f = some v := by
  have lettered : f.Lettered := by
    cases f with
    | module name => exact absurd rfl (fixed name)
    | _ => trivial
  have some_name : f.path ≠ [] := by cases f <;> nofun
  have all_steady : ∀ source ∈ sources ++ [EnvironmentSource.settings w], ∀ e ∈ source, Address.Steady e.1 := by
    refine List.forall_mem_append.2 ⟨steady, List.forall_mem_cons.2 ⟨?_, List.forall_mem_nil _⟩⟩
    intro e there
    obtain ⟨x, -, key, -⟩ := EnvironmentSource.mem_settings there
    exact EnvironmentSource.steady_of_key? key
  have set : ((sources ++ [EnvironmentSource.settings w]).foldl Node.lay Node.noMembers).setting? f.path =
      some (EnvironmentSource.value text) := by
    rw [List.foldl_append]
    exact reaches.setting?_lay lettered _
  have table : defaults.orTable = defaults := rfl
  unfold ofSources at comes
  exact get?_of_ofNode comes fixed (Node.setting?_layAll all_steady some_name set table)

end Settings

end DurableQueue
