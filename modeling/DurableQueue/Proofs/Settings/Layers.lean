import DurableQueue.Proofs.Settings.Variables

/-!
# Sources of settings as layers

A source of settings is a layer: a value for some of the settings. Laid over what is below, it sets its own
layer and leaves the rest (`Sets`). This is proved once for the sections of a file (`Sets.file`) and once for
the environment (`Surroundings.VariablesSet.sets`), whose variables are laid one by one at their addresses,
and it carries over to sources above one another (`Sets.append`).
-/

namespace DurableQueue

/-- Values for some of the settings. -/
abbrev Layer : Type := (f : Field) → Option f.kind.Value

namespace Layer

/-- The layer that sets nothing. -/
def nothing : Layer := fun _ => none

/-- The value of the first layer that sets one. -/
def top (layers : List Layer) : Layer := fun f => layers.findSome? fun layer => layer f

theorem top_cons (layer : Layer) (layers : List Layer) (f : Field) :
    top (layer :: layers) f = (layer f).or (top layers f) := by
  rw [top, List.findSome?_cons]
  cases layer f <;> rfl

end Layer

/-! ## Values in trees laid over one another -/

namespace Node

theorem get?_laidOver {value root : Node} (value_fits : Shape.settings.Fits value)
    (root_fits : Shape.settings.Fits root) :
    Shape.settings.Fits (value.laidOver root) ∧
      ∀ f, (value.laidOver root).get? f = (value.get? f).or (root.get? f) := by
  have laid_over := Shape.settings.lays value root value_fits (Or.inr root_fits)
  refine ⟨laid_over.fits, ?_⟩
  intro f
  unfold get?
  rw [laid_over.setting]
  cases set : value.setting? f.path with
  | none => rfl
  | some x =>
    obtain ⟨v, read⟩ := Option.isSome_iff_exists.1 (value_fits.value? (Shape.along_path f) set)
    simp [read]

/-- A tree with a single value has that for its setting and no other. -/
theorem get?_nest {f : Field} {x : Scalar} {v : f.kind.Value} (read : f.kind.value? x = some v)
    (origin : Option String) :
    (nest f.path (.scalar x origin)).get? f = some v ∧
      ∀ g, g ≠ f → (nest f.path (.scalar x origin)).get? g = none := by
  have given : x ≠ .null := by
    rintro rfl
    cases f.kind.value?_null.symm.trans read
  refine ⟨?_, ?_⟩
  · rw [get?, setting?_nest given, if_pos rfl]
    exact read
  · intro g other
    rw [get?, setting?_nest given, if_neg (fun same => other (Field.path_injective same))]
    rfl

/-- The name of a section is read as it is. -/
theorem ofKey_section {name : String} {node : Node} (fits : (Shape.settings.part name).Fits node) :
    Address.ofKey name = [.name name] := by
  unfold Shape.settings Shape.part at fits
  dsimp only at fits
  split at fits
  · rfl
  · rfl
  · cases fits

theorem lay_cons (key : String) (value : Node) (rest : Named Node) (root : Node) :
    root.lay ((key, value) :: rest) =
      (root.changeWithin value.laidOver (Address.ofKey key)).lay rest := rfl

/-- To lay sections by name is to lay the table of them. -/
theorem lay_eq_layMembers {source : Named Node} (names : ∀ e ∈ source, Address.ofKey e.1 = [.name e.1])
    (root : Node) : root.lay source = laidOver.layMembers source root := by
  induction source generalizing root with
  | nil => rfl
  | cons head rest ih =>
    obtain ⟨name, value⟩ := head
    obtain ⟨first, later⟩ := List.forall_mem_cons.1 names
    rw [lay_cons, laidOver.layMembers, show Address.ofKey name = [.name name] from first, ih later]
    rfl

theorem lay_eq_laidOver {source : Named Node} {origin : Option String} {root : Node}
    (fits : Shape.settings.Fits (.table source origin)) (root_fits : Shape.settings.Fits root) :
    root.lay source = (Node.table source origin).laidOver root := by
  have table : (Node.table source origin).laidOver root = laidOver.layMembers source root.orTable := rfl
  rw [table, root_fits.orTable]
  exact lay_eq_layMembers (fun e there => ofKey_section (fits.2 e there).2) root

end Node

/-! ## Sources as layers -/

/-- Laid over any settings, one after the other, the sources set what the layer sets and leave the rest. -/
def Sets (sources : List (Named Node)) (layer : Layer) : Prop :=
  ∀ root, Shape.settings.Fits root →
    Shape.settings.Fits (sources.foldl Node.lay root) ∧
      ∀ f, (sources.foldl Node.lay root).get? f = (layer f).or (root.get? f)

namespace Sets

theorem nil : Sets [] (Layer.top []) := fun _ fits => ⟨fits, fun _ => rfl⟩

/-- Sources with nothing in them set nothing. -/
theorem empty : Sets [[]] Layer.nothing := fun _ fits => ⟨fits, fun _ => rfl⟩

/-- Sources above others: their layer is on top. -/
theorem append {below above : List (Named Node)} {layer : Layer} {layers : List Layer}
    (sets_below : Sets below (Layer.top layers)) (sets_above : Sets above layer) :
    Sets (below ++ above) (Layer.top (layer :: layers)) := by
  intro root fits
  obtain ⟨below_fits, below_get⟩ := sets_below root fits
  obtain ⟨above_fits, above_get⟩ := sets_above _ below_fits
  rw [List.foldl_append]
  refine ⟨above_fits, ?_⟩
  intro f
  rw [above_get, below_get, Layer.top_cons, Option.or_assoc]

/-- A file sets what it holds. -/
theorem file {source : Named Node} (fits : Shape.settings.Fits (.table source none)) :
    Sets [source] (Node.table source none).get? := by
  intro root root_fits
  show Shape.settings.Fits (root.lay source) ∧ _
  rw [List.foldl_cons, List.foldl_nil, Node.lay_eq_laidOver fits root_fits]
  exact Node.get?_laidOver fits root_fits

end Sets

/-! ## The environment -/

/-- The variables for settings set the layer: they all name a setting, their texts are read as its value,
and there is a variable for whatever is set. -/
structure Surroundings.VariablesSet (w : Surroundings) (layer : Layer) : Prop where
  read : ∀ e ∈ w.environment, EnvironmentSource.key? e.1 ≠ none →
    ∃ f v, f.Lettered ∧ Text.lower e.1 = f.variableName ∧
      f.kind.value? (EnvironmentSource.value e.2) = some v ∧ layer f = some v
  named : ∀ f v, layer f = some v →
    f.Lettered ∧ ∃ e ∈ w.environment, Text.lower e.1 = f.variableName

/-- An entry of a source sets one of the settings, as the layer has it. -/
def Layer.Entry (layer : Layer) (e : String × Node) : Prop :=
  ∃ f x origin v, Address.ofKey e.1 = f.path.map .name ∧ (∀ name ∈ f.path, Text.lower name = name) ∧
    e.2 = .scalar x origin ∧ f.kind.value? x = some v ∧ layer f = some v

/-- Entries laid one after the other: a setting has the value of the layer if there is an entry for it, and
otherwise what it had. -/
theorem Layer.get?_lay {layer : Layer} {source : Named Node} (entries : ∀ e ∈ source, layer.Entry e)
    {root : Node} (fits : Shape.settings.Fits root) :
    Shape.settings.Fits (root.lay source) ∧ ∀ g,
      ((root.lay source).get? g = layer g ∧ layer g ≠ none) ∨
        ((root.lay source).get? g = root.get? g ∧
          ∀ e ∈ source, Address.ofKey e.1 ≠ g.path.map .name) := by
  induction source generalizing root with
  | nil => exact ⟨fits, fun _ => Or.inr ⟨rfl, nofun⟩⟩
  | cons head rest ih =>
    obtain ⟨first, later⟩ := List.forall_mem_cons.1 entries
    obtain ⟨f, x, origin, v, address, lower, scalar, read, set⟩ := first
    obtain ⟨key, node⟩ := head
    obtain rfl : node = .scalar x origin := scalar
    have value_fits : Shape.settings.Fits (Node.nest f.path (.scalar x origin)) := by
      refine Shape.fits_nest lower ?_
      rw [Shape.along_path]
      exact Option.isSome_iff_exists.2 ⟨v, read⟩
    have step : root.lay ((key, .scalar x origin) :: rest) =
        ((Node.nest f.path (.scalar x origin)).laidOver root).lay rest := by
      rw [Node.lay_cons, address, Node.changeWithin_eq_laidOver]
    obtain ⟨here, others⟩ := Node.get?_nest read origin
    obtain ⟨laid_fits, laid⟩ := Node.get?_laidOver value_fits fits
    obtain ⟨rest_fits, rest_get⟩ := ih later laid_fits
    rw [step]
    refine ⟨rest_fits, ?_⟩
    intro g
    rcases rest_get g with again | ⟨kept, none_later⟩
    · exact Or.inl again
    · by_cases same : g = f
      · subst same
        refine Or.inl ⟨?_, ?_⟩
        · rw [kept, laid, here, set]
          rfl
        · rw [set]
          nofun
      · refine Or.inr ⟨?_, ?_⟩
        · rw [kept, laid, others g same]
          rfl
        · refine List.forall_mem_cons.2 ⟨?_, none_later⟩
          intro to_g
          have paths := List.map_injective_iff.2 (fun _ _ => Step.name.inj) (address.symm.trans to_g)
          exact same (Field.path_injective paths).symm

namespace EnvironmentSource

/-- The settings with one more variable. -/
def add (settings : Named Node) (x : String × String) : Named Node :=
  match key? x.1 with
  | some key => settings.put key (.scalar (value x.2) (some "the environment"))
  | none => settings

theorem mem_foldl_add {environment : List (String × String)} {settings : Named Node} {e : String × Node}
    (there : e ∈ environment.foldl add settings) :
    e ∈ settings ∨ ∃ x ∈ environment,
      key? x.1 = some e.1 ∧ e.2 = .scalar (value x.2) (some "the environment") := by
  induction environment generalizing settings with
  | nil => exact Or.inl there
  | cons x environment ih =>
    rcases ih there with added | ⟨y, later, entry⟩
    · unfold add at added
      split at added
      · next key found =>
        rcases Named.mem_put added with rfl | before
        · exact Or.inr ⟨x, List.mem_cons_self, found, rfl⟩
        · exact Or.inl before
      · exact Or.inl added
    · exact Or.inr ⟨y, List.mem_cons_of_mem _ later, entry⟩

theorem lookup_foldl_add {environment : List (String × String)} {settings : Named Node} {key : String}
    (given : (settings.lookup key).isSome ∨ ∃ x ∈ environment, key? x.1 = some key) :
    ((environment.foldl add settings).lookup key).isSome := by
  induction environment generalizing settings with
  | nil => exact given.resolve_right nofun
  | cons x environment ih =>
    refine ih ?_
    rcases given with before | ⟨y, there, found⟩
    · refine Or.inl ?_
      unfold add
      split
      · rw [Named.lookup_put]
        split
        · rfl
        · exact before
      · exact before
    · rcases List.mem_cons.1 there with rfl | later
      · refine Or.inl ?_
        rw [add, found]
        simp
      · exact Or.inr ⟨y, later, found⟩

theorem settings_eq (w : Surroundings) : settings w = w.environment.foldl add [] := by
  unfold settings
  refine congrArg (fun step => w.environment.foldl step []) ?_
  funext settings ⟨name, text⟩
  unfold add
  cases found : key? name with
  | none => simp only [found]
  | some key => simp only [found]

/-- Each entry comes from a variable. -/
theorem mem_settings {w : Surroundings} {e : String × Node} (there : e ∈ settings w) :
    ∃ x ∈ w.environment, key? x.1 = some e.1 ∧ e.2 = .scalar (value x.2) (some "the environment") := by
  rw [settings_eq] at there
  exact (mem_foldl_add there).resolve_left nofun

/-- For each variable that sets a key there is an entry. -/
theorem exists_mem_settings {w : Surroundings} {x : String × String} {key : String} (there : x ∈ w.environment)
    (names : key? x.1 = some key) : ∃ node, (key, node) ∈ settings w := by
  have given : ((w.environment.foldl add []).lookup key).isSome := lookup_foldl_add (Or.inr ⟨x, there, names⟩)
  rw [← settings_eq] at given
  obtain ⟨node, found⟩ := Option.isSome_iff_exists.1 given
  exact ⟨node, Named.mem_of_lookup found⟩

end EnvironmentSource

theorem Surroundings.VariablesSet.sets {w : Surroundings} {layer : Layer} (h : w.VariablesSet layer) :
    Sets [EnvironmentSource.settings w] layer := by
  have entries : ∀ e ∈ EnvironmentSource.settings w, layer.Entry e := by
    intro e there
    obtain ⟨x, in_environment, key, scalar⟩ := EnvironmentSource.mem_settings there
    have names_setting : EnvironmentSource.key? x.1 ≠ none := by
      rw [key]
      nofun
    obtain ⟨f, v, lettered, named, read, set⟩ := h.read x in_environment names_setting
    have e_key : e.1 = f.key :=
      Option.some.inj (key.symm.trans (EnvironmentSource.key?_of_lower lettered named))
    have address : Address.ofKey e.1 = f.path.map .name := by rw [e_key, Field.ofKey_key lettered]
    exact ⟨f, _, _, v, address, Field.lower_path lettered, scalar, read, set⟩
  have all_there (g : Field) (v : g.kind.Value) (set : layer g = some v) :
      ∃ e ∈ EnvironmentSource.settings w, Address.ofKey e.1 = g.path.map .name := by
    obtain ⟨lettered, x, in_environment, named⟩ := h.named g v set
    have key := EnvironmentSource.key?_of_lower lettered named
    obtain ⟨node, there⟩ := EnvironmentSource.exists_mem_settings in_environment key
    exact ⟨_, there, Field.ofKey_key lettered⟩
  intro root fits
  obtain ⟨laid_fits, laid⟩ := Layer.get?_lay entries fits
  refine ⟨laid_fits, ?_⟩
  intro g
  show (root.lay _).get? g = _
  rcases laid g with ⟨value, set⟩ | ⟨kept, nowhere⟩
  · rw [value]
    cases layer_g : layer g with
    | none => exact absurd layer_g set
    | some v => rfl
  · rw [kept]
    cases layer_g : layer g with
    | none => rfl
    | some v =>
      obtain ⟨e, there, address⟩ := all_there g v layer_g
      exact absurd address (nowhere e there)

end DurableQueue
