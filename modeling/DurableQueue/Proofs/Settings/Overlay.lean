import DurableQueue.Settings.Typed
import Mathlib.Data.List.Nodup

/-!
# Settings laid over one another

A tree of settings is seen here as the plain values along the paths of names in it (`Node.setting?`). A
`Shape` says at which paths a tree may hold values, and of which kind. Where two trees of one shape are laid
over one another, each path has the value of the upper one, if that has any, and else the value of the lower
one (`Shape.lays`). The induction is on the shape, and for a table on the members laid one by one; no member
is laid twice, as the names of a table that fits differ and are in lower case already.
-/

namespace DurableQueue

/-! ## Named values -/

namespace Named

variable {α : Type}

theorem mem_put {name : String} {value : α} {values : Named α} {e : String × α}
    (h : e ∈ put name value values) : e = (name, value) ∨ e ∈ values := by
  induction values with
  | nil => exact Or.inl (List.mem_singleton.1 h)
  | cons head rest ih =>
    rw [put] at h
    split at h
    · exact (List.mem_cons.1 h).imp_right (List.mem_cons_of_mem _)
    · rcases List.mem_cons.1 h with same | later
      · exact Or.inr (same ▸ List.mem_cons_self)
      · exact (ih later).imp_right (List.mem_cons_of_mem _)

theorem nodup_put (name : String) (value : α) {values : Named α} (h : (values.map (·.1)).Nodup) :
    ((put name value values).map (·.1)).Nodup := by
  induction values with
  | nil => exact List.nodup_singleton name
  | cons head rest ih =>
    obtain ⟨fresh, rest_nodup⟩ := List.nodup_cons.1 h
    rw [put]
    split
    · next same => exact List.nodup_cons.2 ⟨same ▸ fresh, rest_nodup⟩
    · next other =>
      refine List.nodup_cons.2 ⟨?_, ih rest_nodup⟩
      intro again
      obtain ⟨e, there, same⟩ := List.mem_map.1 again
      rcases mem_put there with rfl | there
      · exact other same.symm
      · exact fresh (List.mem_map.2 ⟨e, there, same⟩)

theorem mem_of_lookup {name : String} {value : α} {values : Named α}
    (h : values.lookup name = some value) : (name, value) ∈ values := by
  obtain ⟨before, after, split, -⟩ := List.lookup_eq_some_iff.1 h
  rw [split]
  exact List.mem_append_right _ List.mem_cons_self

theorem lookup_eq_none {name : String} {values : Named α} (h : name ∉ values.map (·.1)) :
    values.lookup name = none := by
  refine List.lookup_eq_none_iff.2 fun e there => ?_
  refine bne_iff_ne.2 fun same => h (List.mem_map.2 ⟨e, there, same.symm⟩)

end Named

/-! ## Plain values -/

/-- The kinds of values that settings have. -/
inductive Kind where
  | text | word | truth

namespace Kind

/-- The values of a kind. -/
abbrev Value : Kind → Type
  | text => String
  | word => UInt64
  | truth => Bool

/-- Reads a node as a value of a kind. -/
def read : (kind : Kind) → Address → Node → Except SettingsProblem kind.Value
  | text => Node.asText
  | word => Node.asWord
  | truth => Node.asTruth

/-- The value that a plain value is read as, if it is read as one. -/
def value? (kind : Kind) (x : Scalar) : Option kind.Value := (kind.read [] (.scalar x none)).toOption

theorem value?_null (kind : Kind) : kind.value? .null = none := by cases kind <;> rfl

/-- Where a plain value stands and where it comes from does not matter to its reading. -/
theorem toOption_read (kind : Kind) (x : Scalar) (address : Address) (origin : Option String) :
    (kind.read address (.scalar x origin)).toOption = kind.value? x := by
  cases kind with
  | text => cases x <;> rfl
  | word =>
    show (Node.asWord address (.scalar x origin)).toOption = (Node.asWord [] (.scalar x none)).toOption
    cases x with
    | integer n =>
      unfold Node.asWord
      by_cases natural : 0 ≤ n
      · simp only [if_pos natural]
      · simp only [if_neg natural]
        rfl
    | text s =>
      unfold Node.asWord
      dsimp only
      cases Node.truthOf? (Text.lower s) with
      | some b => rfl
      | none => cases readUnsigned? 64 s.toList <;> rfl
    | _ => rfl
  | truth =>
    show (Node.asTruth address (.scalar x origin)).toOption = (Node.asTruth [] (.scalar x none)).toOption
    cases x with
    | text s =>
      unfold Node.asTruth
      dsimp only
      split
      · rfl
      · split
        · rfl
        · cases Node.truthOf? (Text.lower s) <;> rfl
    | _ => rfl

theorem read_of_value? {kind : Kind} {x : Scalar} {v : kind.Value} (h : kind.value? x = some v)
    (address : Address) (origin : Option String) : kind.read address (.scalar x origin) = .ok v := by
  rw [← toOption_read kind x address origin] at h
  cases outcome : kind.read address (.scalar x origin) with
  | error problem =>
    rw [outcome] at h
    cases h
  | ok v' =>
    rw [outcome] at h
    exact congrArg Except.ok (Option.some.inj h)

end Kind

namespace Node

/-- The plain value that a node is, unless nothing is set there. -/
def plain? : Node → Option Scalar
  | .scalar .null _ => none
  | .scalar x _ => some x
  | _ => none

/-- The plain value at the end of a path of names. -/
def setting? : Node → List String → Option Scalar
  | node, [] => node.plain?
  | node, name :: path => (node.member? name).bind (·.setting? path)

theorem setting?_cons (node : Node) (name : String) (path : List String) :
    node.setting? (name :: path) = (node.member? name).bind (·.setting? path) := rfl

theorem plain?_eq_none_or (x : Scalar) (origin : Option String) :
    plain? (.scalar x origin) = some x ∨ x = .null := by
  cases x with
  | null => exact Or.inr rfl
  | _ => exact Or.inl rfl

theorem setting?_unset (path : List String) : unset.setting? path = none := by
  cases path <;> rfl

/-- A member that is not there holds no settings. -/
theorem setting?_getD_member? (root : Node) (name : String) (path : List String) :
    ((root.member? name).getD unset).setting? path = root.setting? (name :: path) := by
  rw [setting?_cons]
  cases root.member? name with
  | none => exact setting?_unset path
  | some member => rfl

theorem setting?_noMembers (path : List String) : noMembers.setting? path = none := by
  cases path <;> rfl

theorem setting?_orTable (root : Node) (path : List String) :
    root.orTable.setting? path = root.setting? path := by
  unfold orTable
  split
  · rw [setting?_noMembers]
    cases path <;> rfl
  · rfl

theorem asTable_fst (root : Node) : root.asTable.1 = root.members := by cases root <;> rfl

/-- Changing a member changes the settings below its name only, which is put in lower case. -/
theorem setting?_changeMember (name : String) (change : Node → Node) (root : Node) (n : String)
    (path : List String) :
    (root.changeMember name change).setting? (n :: path) =
      if n = Text.lower name then (change ((root.member? n).getD unset)).setting? path
      else root.setting? (n :: path) := by
  rw [setting?_cons, member?_changeMember, asTable_fst]
  by_cases same : n = Text.lower name
  · rw [if_pos same, if_pos same, same]
    rfl
  · rw [if_neg same, if_neg same]
    rfl

end Node

/-! ## Shapes -/

/-- What a tree of settings may hold: nothing at all, a value of some kind, or members by name. -/
inductive Shape where
  | nothing
  | value (kind : Kind)
  | table (part : String → Shape)

namespace Shape

/-- The shape of the member with a name. -/
def part : Shape → String → Shape
  | table part, name => part name
  | _, _ => nothing

/-- The shape at the end of a path of names. -/
def along : Shape → List String → Shape
  | shape, [] => shape
  | shape, name :: path => (shape.part name).along path

theorem along_nothing (path : List String) : nothing.along path = nothing := by
  induction path with
  | nil => rfl
  | cons name path ih => exact ih

/-- Has the tree the shape? Values must read as values of their kind, and no two members may have the same
name when it is put in lower case. -/
def Fits : Shape → Node → Prop
  | value kind, .scalar x _ => (kind.value? x).isSome
  | table part, .table members _ =>
    (members.map (·.1)).Nodup ∧ ∀ e ∈ members, Text.lower e.1 = e.1 ∧ (part e.1).Fits e.2
  | _, _ => False

theorem fits_noMembers (part : String → Shape) : (table part).Fits Node.noMembers :=
  ⟨List.nodup_nil, nofun⟩

section Table

variable {part : String → Shape} {node : Node}

/-- The member of a table that fits has a name in lower case and fits the shape under it. -/
theorem Fits.member {name : String} {member : Node} (h : (table part).Fits node)
    (found : node.member? name = some member) : Text.lower name = name ∧ (part name).Fits member := by
  cases node with
  | table members origin => exact h.2 _ (Named.mem_of_lookup found)
  | scalar x origin => cases h
  | array items origin => cases h

/-- Only a table fits the shape of one, and a table it stays when members are laid over it. -/
theorem Fits.orTable (h : (table part).Fits node) : node.orTable = node := by
  cases node with
  | table members origin => rfl
  | scalar x origin => cases h
  | array items origin => cases h

theorem Fits.changeMember {name : String} {change : Node → Node} (h : (table part).Fits node)
    (lower : Text.lower name = name)
    (changed : (part name).Fits (change ((node.member? name).getD Node.unset))) :
    (table part).Fits (node.changeMember name change) := by
  cases node with
  | scalar x origin => cases h
  | array items origin => cases h
  | table members origin =>
    obtain ⟨nodup, fits⟩ := h
    unfold Node.changeMember
    rw [lower]
    refine ⟨Named.nodup_put _ _ nodup, ?_⟩
    intro e there
    rcases Named.mem_put there with rfl | there
    · exact ⟨lower, changed⟩
    · exact fits e there

end Table

/-- The plain value at the end of a path is read as a value of the kind that the shape has there. -/
theorem Fits.value? {shape : Shape} {node : Node} (h : shape.Fits node) {path : List String} {kind : Kind}
    (kinds : shape.along path = value kind) {x : Scalar} (set : node.setting? path = some x) :
    (kind.value? x).isSome := by
  induction path generalizing shape node with
  | nil =>
    obtain rfl : shape = value kind := kinds
    cases node with
    | table members origin => cases h
    | array items origin => cases h
    | scalar y origin =>
      rcases Node.plain?_eq_none_or y origin with plain | rfl
      · obtain rfl := Option.some.inj (plain.symm.trans set)
        exact h
      · cases set
  | cons name path ih =>
    cases shape with
    | nothing => cases (along_nothing path).symm.trans kinds
    | value kind' => cases (along_nothing path).symm.trans kinds
    | table part =>
      rw [Node.setting?_cons] at set
      obtain ⟨member, found, set⟩ := Option.bind_eq_some_iff.1 set
      exact ih (h.member found).2 kinds set

/-! ## Laying over -/

/-- A tree that fits, or nothing yet. -/
def Room (shape : Shape) (root : Node) : Prop := root = .unset ∨ shape.Fits root

/-- The tree has the shape, and at each path the value of the upper of two trees or else of the lower one. -/
structure Over (shape : Shape) (value root result : Node) : Prop where
  fits : shape.Fits result
  setting : ∀ path, result.setting? path = (value.setting? path).or (root.setting? path)

/-- Laying trees of the shape over one another lays their settings over one another. -/
def Lays (shape : Shape) : Prop :=
  ∀ value root, shape.Fits value → shape.Room root → shape.Over value root (value.laidOver root)

theorem Fits.room_member {part : String → Shape} {root : Node} (h : (table part).Fits root)
    (name : String) : (part name).Room ((root.member? name).getD .unset) := by
  cases found : root.member? name with
  | none => exact Or.inl rfl
  | some member => exact Or.inr (h.member found).2

/-- Members laid one after the other, where each can be laid. -/
theorem over_layMembers {part : String → Shape} (lays : ∀ name, (part name).Lays) {members : Named Node}
    {origin : Option String} {root : Node} (fits : (table part).Fits (.table members origin))
    (root_fits : (table part).Fits root) :
    (table part).Over (.table members origin) root (Node.laidOver.layMembers members root) := by
  induction members generalizing root with
  | nil =>
    refine ⟨root_fits, ?_⟩
    intro path
    cases path <;> rfl
  | cons head rest ih =>
    obtain ⟨name, value⟩ := head
    obtain ⟨nodup, each⟩ := fits
    obtain ⟨fresh, rest_nodup⟩ := List.nodup_cons.1 nodup
    obtain ⟨lower, value_fits⟩ := each _ List.mem_cons_self
    have laid := lays name value _ value_fits (root_fits.room_member name)
    have laid_over := ih ⟨rest_nodup, fun e there => each e (List.mem_cons_of_mem _ there)⟩
      (root_fits.changeMember lower laid.fits)
    refine ⟨laid_over.fits, ?_⟩
    intro path
    rw [Node.laidOver.layMembers, laid_over.setting]
    cases path with
    | nil =>
      cases root with
      | table members origin => rfl
      | scalar x origin => cases root_fits
      | array items origin => cases root_fits
    | cons n path =>
      rw [Node.setting?_changeMember, lower]
      by_cases same : n = name
      · -- The rest lays nothing here: its names are others.
        subst same
        have rest_unset : (Node.table rest origin).setting? (n :: path) = none := by
          rw [Node.setting?_cons, Node.member?, Node.members, Named.lookup_eq_none fresh]
          rfl
        have value_set : (Node.table ((n, value) :: rest) origin).setting? (n :: path) =
            value.setting? path := by
          rw [Node.setting?_cons, Node.member?, Node.members, List.lookup_cons_self]
          rfl
        rw [if_pos rfl, rest_unset, Option.none_or, laid.setting, value_set, Node.setting?_getD_member?]
      · have rest_same : (Node.table ((name, value) :: rest) origin).setting? (n :: path) =
            (Node.table rest origin).setting? (n :: path) := by
          rw [Node.setting?_cons, Node.setting?_cons, Node.member?, Node.member?, Node.members,
            Node.members, List.lookup_cons, beq_false_of_ne same]
        rw [if_neg same, rest_same]

/-- Trees of one shape are laid over one another path by path. -/
theorem lays (shape : Shape) : shape.Lays := by
  induction shape with
  | nothing =>
    intro value root fits
    cases fits
  | value kind =>
    intro value root fits room
    cases value with
    | table members origin => cases fits
    | array items origin => cases fits
    | scalar x origin =>
      refine ⟨fits, ?_⟩
      intro path
      cases path with
      | nil =>
        rcases Node.plain?_eq_none_or x origin with plain | rfl
        · show Node.plain? (.scalar x origin) = (Node.plain? (.scalar x origin)).or _
          rw [plain, Option.some_or]
        · rw [Fits, Kind.value?_null] at fits
          cases fits
      | cons name path =>
        have below : root.setting? (name :: path) = none := by
          rcases room with rfl | root_fits
          · exact Node.setting?_unset _
          · cases root with
            | scalar y origin => rfl
            | table members origin => cases root_fits
            | array items origin => cases root_fits
        rw [below]
        rfl
  | table part lays =>
    intro value root fits room
    cases value with
    | scalar x origin => cases fits
    | array items origin => cases fits
    | table members origin =>
      have root_fits : (table part).Fits root.orTable := by
        rcases room with rfl | root_fits
        · exact fits_noMembers part
        · rw [root_fits.orTable]
          exact root_fits
      have laid_over := over_layMembers lays fits root_fits
      refine ⟨laid_over.fits, ?_⟩
      intro path
      rw [← root.setting?_orTable]
      exact laid_over.setting path

end Shape

/-! ## A single value at a path -/

namespace Node

/-- The tree in which there is only one node, at the end of a path. -/
def nest : List String → Node → Node
  | [], node => node
  | name :: path, node => .table [(name, nest path node)] none

theorem changeMember_orTable (name : String) (change : Node → Node) (root : Node) :
    root.orTable.changeMember name change = root.changeMember name change := by
  unfold orTable
  split <;> rfl

/-- To lay a node over what stands at an address of names is to lay a tree with nothing else in it. -/
theorem changeWithin_eq_laidOver (path : List String) (node root : Node) :
    root.changeWithin node.laidOver (path.map .name) = (nest path node).laidOver root := by
  induction path generalizing root with
  | nil => rfl
  | cons name path ih =>
    have below : changeWithin node.laidOver (path.map .name) = (nest path node).laidOver := funext ih
    show root.changeMember name (changeWithin node.laidOver (path.map .name)) =
      root.orTable.changeMember name (nest path node).laidOver
    rw [below, changeMember_orTable]

/-- A nested value is set at its own path only. -/
theorem setting?_nest {x : Scalar} (given : x ≠ .null) (origin : Option String) (path path' : List String) :
    (nest path (.scalar x origin)).setting? path' = if path' = path then some x else none := by
  induction path generalizing path' with
  | nil =>
    cases path' with
    | nil => exact (plain?_eq_none_or x origin).resolve_right given
    | cons name path' => rfl
  | cons name path ih =>
    cases path' with
    | nil => rfl
    | cons name' path' =>
      rw [setting?_cons, nest, member?, members, List.lookup_cons]
      by_cases same : name' = name
      · subst same
        rw [beq_self_eq_true]
        simpa using ih path'
      · rw [beq_false_of_ne same]
        simp [same]

end Node

theorem Shape.fits_nest {shape : Shape} {path : List String} {node : Node}
    (lower : ∀ name ∈ path, Text.lower name = name) (fits : (shape.along path).Fits node) :
    shape.Fits (Node.nest path node) := by
  induction path generalizing shape with
  | nil => exact fits
  | cons name path ih =>
    obtain ⟨first, later⟩ := List.forall_mem_cons.1 lower
    cases shape with
    | table part =>
      refine ⟨List.nodup_singleton name, ?_⟩
      intro e there
      obtain rfl := List.mem_singleton.1 there
      exact ⟨first, ih later fits⟩
    | nothing =>
      rw [show nothing.along (name :: path) = nothing from along_nothing path] at fits
      cases fits
    | value kind =>
      rw [show (value kind).along (name :: path) = nothing from along_nothing path] at fits
      cases fits

end DurableQueue
