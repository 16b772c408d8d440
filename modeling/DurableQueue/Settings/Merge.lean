import DurableQueue.Settings.Address
import DurableQueue.Settings.Node
import DurableQueue.Text.LowerCase

/-!
# Merging settings

How one source of settings is laid over another. Tables are merged member by member, under names in
lower case; any other value takes the place of what was there. A table without members changes nothing
where there is something already.
-/

namespace DurableQueue.Node

/-! ## Changing parts -/

/-- The members of a node that is made a table if it is none. -/
def asTable : Node → Named Node × Option String
  | .table members origin => (members, origin)
  | _ => ([], none)

/-- Changes the members of a node that is made a table if it is none. -/
def changeMembers (change : Named Node → Named Node) (root : Node) : Node :=
  .table (change root.asTable.1) root.asTable.2

@[simp] theorem members_changeMembers (change : Named Node → Named Node) (root : Node) :
    (root.changeMembers change).members = change root.asTable.1 := rfl

/-- Changes the member with a name, in lower case, of a node that is made a table if it is none. -/
def changeMember (name : String) (change : Node → Node) (root : Node) : Node :=
  root.changeMembers fun members =>
    members.put (Text.lower name) (change ((members.lookup (Text.lower name)).getD unset))

/-- Only the member with that name changes. -/
theorem member?_changeMember (name n : String) (change : Node → Node) (root : Node) :
    (root.changeMember name change).member? n =
      if n = Text.lower name then
        some (change ((root.asTable.1.lookup (Text.lower name)).getD unset))
      else root.asTable.1.lookup n :=
  Named.lookup_put _ _ _ _

/-- Changes the item at a position; negative positions count back from the end. Items that are not
there yet are put behind the others, or in front of them, as many as are missing. -/
def changeAt (position : Int) (change : Node → Node) (items : List Node) : List Node :=
  let place := if position < 0 then items.length + position else position
  if 0 ≤ place then
    (items ++ List.replicate (place.toNat + 1 - items.length) unset).modify place.toNat change
  else change unset :: List.replicate (place.natAbs - 1) unset ++ items

/-- Changes the item at a position of a node that is made an array if it is none. -/
def changeItem (position : Int) (change : Node → Node) : Node → Node
  | .array items origin => .array (changeAt position change items) origin
  | _ => .array (changeAt position change []) none

/-- Changes what stands at an address. -/
def changeWithin (change : Node → Node) : Address → Node → Node
  | [], root => change root
  | .name name :: address, root => root.changeMember name (changeWithin change address)
  | .index position :: address, root => root.changeItem position (changeWithin change address)

/-! ## Laying over -/

/-- Makes a table where nothing is set. -/
def orTable : Node → Node
  | .scalar .null _ => noMembers
  | root => root

/-- Lays a value over what is there: the members of a table one after the other, and anything else in
its place. -/
def laidOver : (value root : Node) → Node
  | .table members _, root => layMembers members root.orTable
  | .scalar v origin, _ => .scalar v origin
  | .array items origin, _ => .array items origin
where
  /-- Lays members over those of a node. -/
  layMembers : List (String × Node) → Node → Node
    | [], root => root
    | (name, value) :: members, root => layMembers members (root.changeMember name value.laidOver)

/-- Lays the members of a source over a node, their keys read as addresses. -/
def lay (root : Node) (source : Named Node) : Node :=
  source.foldl (fun root (key, value) => root.changeWithin value.laidOver (Address.ofKey key)) root

/-- Lays sources over a node: the sources over one another first, a later one over those before it. -/
def layAll (root : Node) (sources : List (Named Node)) : Node :=
  root.lay (sources.foldl lay noMembers).members

end DurableQueue.Node
