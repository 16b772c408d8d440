import DurableQueue.Format.Json
import DurableQueue.Format.Toml.Document

/-!
# Trees of settings

Settings as they come from files and environment variables: a tree of tables and arrays with plain
values at its ends. Every node that was read from somewhere remembers its origin, for messages; a
table that was put together from several sources has none.
-/

namespace DurableQueue

/-- A value without parts. -/
inductive Scalar where
  | null
  | boolean (b : Bool)
  | integer (n : Int)
  | float (x : Binary64)
  | text (s : String)
  deriving DecidableEq, Repr

/-- A tree of settings. -/
inductive Node where
  | scalar (value : Scalar) (origin : Option String)
  | array (items : List Node) (origin : Option String)
  | table (members : List (String × Node)) (origin : Option String)

namespace Node

instance : Inhabited Node := ⟨.scalar .null none⟩

/-- The table without members. -/
def noMembers : Node := .table [] none

/-- The node where nothing was set. -/
def unset : Node := .scalar .null none

/-- Where the node was read. -/
def origin : Node → Option String
  | scalar _ origin | array _ origin | table _ origin => origin

/-- The members of a table; any other node has none. -/
def members : Node → Named Node
  | table members _ => members
  | _ => []

/-- The items of an array; any other node has none. -/
def items : Node → List Node
  | array items _ => items
  | _ => []

/-- The member of a table with a name. -/
def member? (node : Node) (name : String) : Option Node := node.members.lookup name

/-! ## Nodes from file formats -/

/-- The tree of a JSON value. A whole number beyond 63 bits and a sign becomes a floating-point
number. -/
def ofJson (origin : String) : Format.Json → Node
  | .null => .scalar .null origin
  | .boolean b => .scalar (.boolean b) origin
  | .integer n =>
    if n < Int.pow 2 63 then .scalar (.integer n) origin
    else .scalar (.float (.ofDecimal ⟨false, n.toNat, 0⟩)) origin
  | .number x => .scalar (.float x) origin
  | .text s => .scalar (.text s) origin
  | .array items => .array (ofItems items) origin
  | .object members => .table (ofMembers members) origin
where
  ofItems : List Format.Json → List Node
    | [] => []
    | item :: items => ofJson origin item :: ofItems items
  ofMembers : List (String × Format.Json) → List (String × Node)
    | [] => []
    | (name, value) :: members => (name, ofJson origin value) :: ofMembers members

/-- The tree of a TOML value. Dates and times are texts. -/
def ofToml (origin : String) : Format.Toml → Node
  | .text s => .scalar (.text s) origin
  | .integer n => .scalar (.integer n) origin
  | .float x => .scalar (.float x) origin
  | .boolean b => .scalar (.boolean b) origin
  | .date written => .scalar (.text written) origin
  | .array items => .array (ofItems items) origin
  | .inline members => .table (ofMembers members) origin
  | .table _ members => .table (ofMembers members) origin
  | .tables items => .array (ofTables items).reverse origin
where
  ofItems : List Format.Toml → List Node
    | [] => []
    | item :: items => ofToml origin item :: ofItems items
  ofMembers : List (String × Format.Toml) → List (String × Node)
    | [] => []
    | (name, value) :: members => (name, ofToml origin value) :: ofMembers members
  ofTables : List (List (String × Format.Toml)) → List Node
    | [] => []
    | members :: items => .table (ofMembers members) origin :: ofTables items

end Node

end DurableQueue
