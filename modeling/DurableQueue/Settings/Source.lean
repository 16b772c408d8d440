import DurableQueue.Settings.Basic
import DurableQueue.Settings.Merge

/-!
# Sources of settings

Where settings come from: files in one of several formats, told apart by their extensions, and the
environment variables whose names begin with `FIFOQ__`.
-/

namespace DurableQueue

/-! ## Files -/

/-- The formats a settings file can have. The texts of `other` formats are not read here: they count
as badly written. -/
inductive FileFormat where
  | toml | json | other
  deriving DecidableEq, Repr

namespace FileFormat

/-- The extensions of settings files and the formats they stand for, in lower case only. -/
def extensions : Named FileFormat := [
  ("toml", .toml), ("json", .json), ("yaml", .other), ("yml", .other), ("ini", .other),
  ("ron", .other), ("json5", .other)]

/-- The tree in a text of some format. -/
def read? (format : FileFormat) (origin text : String) : Option Node :=
  match format with
  | .toml => (Format.Toml.read? text).map (Node.ofToml origin)
  | .json => (Format.Json.read? text).map (Node.ofJson origin)
  | .other => none

end FileFormat

/-- A settings file that was found. -/
structure SettingsFile where
  path : String
  text : String
  format : FileFormat

namespace SettingsFile

/-- The file at exactly this path, if its extension stands for a format. -/
def exact (path text : String) : Except SettingsProblem SettingsFile :=
  match (Path.extension? path).bind fun extension => FileFormat.extensions.lookup extension with
  | some format => .ok ⟨path, text, format⟩
  | none => .error (.unknownFormat path)

/-- The first file whose name is that of the path with an extension behind it. -/
def extended? (w : Surroundings) (path : String) : Option SettingsFile :=
  FileFormat.extensions.findSome? fun (extension, format) => do
    let path ← Path.appendExtension? path extension
    let text ← w.text? path
    return ⟨path, text, format⟩

/-- The settings file that a path stands for. -/
def find (w : Surroundings) (path : String) : Except SettingsProblem SettingsFile :=
  let full := Path.join w.workingDirectory path
  match w.text? full with
  | some text => exact full text
  | none =>
    match extended? w full with
    | some file => .ok file
    | none => .error (.noFile path)

/-- The text of a file without the mark that some editors put at its beginning. -/
def content (file : SettingsFile) : String :=
  match file.text.toList with
  | '\ufeff' :: rest => String.ofList rest
  | _ => file.text

/-- What a file holds instead of settings by name, for a message. -/
def foundRoot : Node → Found
  | .scalar .null _ => .unit
  | .scalar (.boolean b) _ => .boolean b
  | .scalar (.integer n) _ => .integer64 n
  | .scalar (.float x) _ => .float x.plain
  | .scalar (.text s) _ => .text s
  | .array .. => .sequence
  | .table .. => .map

/-- The settings in a file. -/
def settings (w : Surroundings) (file : SettingsFile) : Except SettingsProblem (Named Node) :=
  let origin := Path.relativeTo w.workingDirectory file.path
  match file.format.read? origin file.content with
  | some (.table members _) => .ok members
  | some root => .error (.wrongRoot (foundRoot root) origin)
  | none => .error .badSyntax

/-- The settings in the file that a path stands for. -/
def required (w : Surroundings) (path : String) : Except SettingsProblem (Named Node) := do
  (← find w path).settings w

/-- The settings in the file that a path stands for, or none if there is no such file. -/
def ifFound (w : Surroundings) (path : String) : Except SettingsProblem (Named Node) :=
  match find w path with
  | .ok file => file.settings w
  | .error _ => .ok []

end SettingsFile

/-! ## The environment -/

namespace EnvironmentSource

/-- What the names of variables with settings begin with, in lower case. -/
def front : List Char := "fifoq__".toList

/-- Writes a point for every two underscores. -/
def dotted : List Char → List Char
  | '_' :: '_' :: cs => '.' :: dotted cs
  | c :: cs => c :: dotted cs
  | [] => []

/-- The key that a variable sets, if it sets one. Case does not matter. -/
def key? (name : String) : Option String :=
  let name := (Text.lower name).toList
  if front.isPrefixOf name then some (String.ofList (dotted (name.drop front.length))) else none

/-- The value that a text stands for: a truth value, a whole number of 64 bits, a floating-point
number, or else the text itself. -/
def value (text : String) : Scalar :=
  let word := Text.lower text
  if word = "true" then .boolean true
  else if word = "false" then .boolean false
  else match readInt64? text.toList, Binary64.read? text with
    | some n, _ => .integer n
    | none, some x => .float x
    | none, none => .text text

/-- The settings in the environment variables. -/
def settings (w : Surroundings) : Named Node :=
  w.environment.foldl (fun settings (name, text) =>
    match key? name with
    | some key => settings.put key (.scalar (value text) (some "the environment"))
    | none => settings) []

end EnvironmentSource

end DurableQueue
