import DurableQueue.Settings.Basic
import DurableQueue.Settings.Merge

/-!
# Settings from a tree

The typed settings that a merged tree stands for. Plain values are read generously: numbers as truth
values, truth values and texts as numbers, and everything plain as text. A setting that is not given
has its default.
-/

namespace DurableQueue

/-- A number in plain notation, with a point in it if it is finite. -/
def Found.ofFloat (x : Binary64) : Found :=
  let text := x.plain
  .float (if x.isFinite && !text.toList.contains '.' then text ++ ".0" else text)

namespace Node

/-- What stands in the node, for a message. -/
def found : Node → Found
  | .scalar .null _ => .unit
  | .scalar (.boolean b) _ => .boolean b
  | .scalar (.integer n) _ => .integer n
  | .scalar (.float x) _ => .ofFloat x
  | .scalar (.text s) _ => .text s
  | .array .. => .sequence
  | .table .. => .map

/-- Refuses the node at an address. -/
def refuse {α : Type} (node : Node) (found : Found) (expected : String) (address : Address) :
    Except SettingsProblem α :=
  .error (.wrongType found expected address.text node.origin)

/-! ## Plain values -/

/-- The truth value that a word in lower case stands for. -/
def truthOf? (word : String) : Option Bool :=
  if word = "true" ∨ word = "on" ∨ word = "yes" then some true
  else if word = "false" ∨ word = "off" ∨ word = "no" then some false
  else none

/-- The node as a number of 64 bits. -/
def asWord (address : Address) (node : Node) : Except SettingsProblem UInt64 :=
  match node with
  | .scalar (.integer n) _ =>
    if 0 ≤ n then .ok (UInt64.ofNat n.toNat)
    else node.refuse (.integer64 n) "an unsigned 64 bit or less integer" address
  | .scalar (.boolean b) _ => .ok (if b then 1 else 0)
  | .scalar (.float x) _ => .ok x.toUInt64
  | .scalar (.text s) _ =>
    match truthOf? (Text.lower s), readUnsigned? 64 s.toList with
    | some b, _ => .ok (if b then 1 else 0)
    | none, some n => .ok (UInt64.ofNat n)
    | none, none => node.refuse (.text s) "an integer" address
  | node => node.refuse node.found "an integer" address

/-- The node as a truth value. -/
def asTruth (address : Address) (node : Node) : Except SettingsProblem Bool :=
  match node with
  | .scalar (.boolean b) _ => .ok b
  | .scalar (.integer n) _ => .ok (n ≠ 0)
  | .scalar (.float x) _ => .ok (!x.isZero)
  | .scalar (.text s) _ =>
    let word := Text.lower s
    if word = "1" then .ok true
    else if word = "0" then .ok false
    else match truthOf? word with
      | some b => .ok b
      | none => node.refuse (.text word) "a boolean" address
  | node => node.refuse node.found "a boolean" address

/-- The node as a text. -/
def asText (address : Address) (node : Node) : Except SettingsProblem String :=
  match node with
  | .scalar (.text s) _ => .ok s
  | .scalar (.boolean b) _ => .ok (toString b)
  | .scalar (.integer n) _ => .ok (toString n)
  | .scalar (.float x) _ => .ok x.plain
  | node => node.refuse node.found "a string" address

/-- The node as texts by name. -/
def asTexts (address : Address) (node : Node) : Except SettingsProblem (Named String) :=
  match node with
  | .table members _ =>
    members.mapM fun (name, value) => do return (name, ← asText (address ++ [.name name]) value)
  | node => .error (.wrongShape node.found "a map")

/-! ## Sections -/

/-- Refuses a node that cannot hold the fields of a section. -/
def checkSection (expected : String) : Node → Except SettingsProblem Unit
  | .scalar value origin => .error (.wrongShape (Node.scalar value origin).found expected)
  | _ => .ok ()

/-- Reads the field of a section by its name, or by its position if the section is an array. -/
def field {α : Type} (node : Node) (address : Address) (position : Nat) (name : String)
    (read : Address → Node → Except SettingsProblem α) (default : α) : Except SettingsProblem α :=
  match node with
  | .array items _ =>
    match items[position]? with
    | some value => read (address ++ [.index position]) value
    | none => .ok default
  | node =>
    match node.member? name with
    | some value => read (address ++ [.name name]) value
    | none => .ok default

end Node

/-- The storage settings in a section. -/
def StorageSettings.ofNode (address : Address) (node : Node) :
    Except SettingsProblem StorageSettings := do
  node.checkSection "struct StorageConfig"
  let unset := StorageSettings.default
  return {
    dataDir := ← node.field address 0 "data_dir" Node.asText unset.dataDir
    cacheCapacity := ← node.field address 1 "cache_capacity" Node.asWord unset.cacheCapacity
    flushEveryMs := ← node.field address 2 "flush_every_ms" Node.asWord unset.flushEveryMs
    syncWrites := ← node.field address 3 "sync_writes" Node.asTruth unset.syncWrites }

/-- The logging settings in a section. -/
def LoggingSettings.ofNode (w : Surroundings) (address : Address) (node : Node) :
    Except SettingsProblem LoggingSettings := do
  node.checkSection "struct LoggingConfig"
  let unset := LoggingSettings.default w
  return {
    level := ← node.field address 0 "level" Node.asText unset.level
    format := ← node.field address 1 "format" Node.asText unset.format
    output := ← node.field address 2 "output" Node.asText unset.output
    file := ← node.field address 3 "file" Node.asText unset.file
    color := ← node.field address 4 "color" Node.asTruth unset.color
    modules := ← node.field address 5 "modules" Node.asTexts unset.modules }

/-- The settings in a tree. -/
def Settings.ofNode (w : Surroundings) (root : Node) : Except SettingsProblem Settings := do
  return {
    storage := ← root.field [] 0 "storage" StorageSettings.ofNode .default
    logging := ← root.field [] 1 "logging" (LoggingSettings.ofNode w) (.default w) }

end DurableQueue
