import DurableQueue.Format.Toml.Scalar

/-!
# TOML documents

A document is a sequence of lines: blank, a comment, the header of a table or of the next table of an
array, or a key with its value. `Toml.read?` answers the table of the whole document, or nothing if the
text is not TOML 1.0. Keys have fewer than 80 parts, and values stand inside one another less than 80
deep.
-/

namespace DurableQueue.Format.Toml

open Reader

/-! ## Keys -/

/-- May the character stand in a key without quotes? -/
def isBare (c : Char) : Bool := c.isAlphanum || c == '_' || c == '-'

/-- One part of a key. -/
def keyPart : Reader String := do
  match ← peek? with
  | some '"' | some '\x27' => shortText
  | _ => return String.ofList (← run1 isBare)

/-- The further parts of a dotted key, on top of those read so far, last part first. -/
def keyParts : Nat → List String → Reader (List String)
  | 0, _ => failure
  | fuel + 1, read => do
    spaces
    if ← ifNext "." then
      spaces
      let part ← keyPart
      keyParts fuel (part :: read)
    else return read

/-- The greatest number of parts of a key, and of levels of arrays and inline tables. -/
def greatestDepth : Nat := 79

/-- A key: the parts before the last one, and the last one. -/
def key : Reader (List String × String) := do
  let first ← keyPart
  let parts ← keyParts ((← rest).length + 1) [first]
  if greatestDepth < parts.length then failure
  match parts with
  | last :: before => return (before.reverse, last)
  | [] => failure

/-! ## Values -/

/-- Blanks, line ends and comments between the items of an array. -/
def gaps : Nat → Reader Unit
  | 0 => return
  | fuel + 1 => do
    spaces
    comment
    if ← newline? then gaps fuel else return

/-- A value with at most `depth` levels of arrays and inline tables; the fuel bounds the number of
values inside and after it. -/
def value : Nat → (depth : Nat) → Reader Toml
  | 0, _ => failure
  | fuel + 1, depth => do
    match ← peek?, depth with
    | some '[', depth + 1 =>
      exactly "["
      items fuel depth []
    | some '\x7b', depth + 1 =>
      exactly "\x7b"
      spaces
      if ← ifNext "\x7d" then return .inline []
      members fuel depth []
    | _, _ => scalar
where
  /-- The items of an array up to its bracket, on top of those read so far, last one first. A comma
  may stand behind the last item. -/
  items : Nat → Nat → List Toml → Reader Toml
    | 0, _, _ => failure
    | fuel + 1, depth, read => do
      gaps ((← rest).length + 1)
      if ← ifNext "]" then return .array read.reverse
      let item ← value fuel depth
      gaps ((← rest).length + 1)
      if ← ifNext "," then items fuel depth (item :: read)
      else
        exactly "]"
        return .array (item :: read).reverse
  /-- The members of an inline table up to its brace, on top of those read so far. -/
  members : Nat → Nat → Members → Reader Toml
    | 0, _, _ => failure
    | fuel + 1, depth, read => do
      spaces
      let (path, last) ← key
      spaces
      exactly "="
      spaces
      let v ← value fuel depth
      spaces
      match addDotted last v path read with
      | none => failure
      | some read =>
        if ← ifNext "," then members fuel depth read
        else
          exactly "\x7d"
          return .inline read

/-! ## Lines -/

/-- The members read so far and the path of the last header. -/
structure Draft where
  members : Members
  path : List String

/-- Begins the table that a header names. -/
def header (draft : Draft) : Reader Draft := do
  exactly "["
  let next ← ifNext "["
  spaces
  let (path, last) ← key
  spaces
  exactly (if next then "]]" else "]")
  match within (if next then beginNext last else beginTable last) path draft.members with
  | some members => return ⟨members, path ++ [last]⟩
  | none => failure

/-- Adds a key with its value to the table of the last header. -/
def assignment (draft : Draft) : Reader Draft := do
  let (path, last) ← key
  spaces
  exactly "="
  spaces
  let v ← value (2 * (← rest).length + 2) greatestDepth
  match within (addDotted last v path) draft.path draft.members with
  | some members => return { draft with members }
  | none => failure

/-- What a line adds to the draft. -/
def line (draft : Draft) : Reader Draft := do
  spaces
  match ← peek? with
  | none | some '\n' | some '\r' | some '#' => return draft
  | some '[' => header draft
  | some _ => assignment draft

/-- Lines up to the end of the text. -/
def lines : Nat → Draft → Reader Members
  | 0, _ => failure
  | fuel + 1, draft => do
    let draft ← line draft
    spaces
    comment
    if ← newline? then lines fuel draft
    else
      atEnd
      return draft.members

/-- The table of a TOML document; a date or time if it stands for one. A byte order mark may stand at
its beginning. -/
def read? (document : String) : Option Toml := do
  let cs := match document.toList with
    | '\ufeff' :: cs => cs
    | cs => cs
  let members ← whole (lines (cs.length + 1) ⟨[], []⟩) cs
  settled? (.table .header members)

end DurableQueue.Format.Toml
