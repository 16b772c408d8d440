import DurableQueue.Text.Split

/-!
# Paths

Paths are texts; nothing is normalised when they are joined. A path is absolute if it begins with a
slash. Its components are the names between slashes, without empty ones and dots that stand for the
directory itself.
-/

namespace DurableQueue.Path

/-- Does the path begin at the root? -/
def isAbsolute (path : String) : Bool := path.toList.head? == some '/'

/-- `path` as seen from `base`: an absolute path replaces it, and otherwise one slash separates the
two unless `base` is empty or already ends in one. -/
def join (base path : String) : String :=
  if isAbsolute path then path
  else if base.toList.isEmpty || base.toList.getLast? == some '/' then base ++ path
  else base ++ "/" ++ path

/-- The parts between slashes, empty ones included. -/
def parts (path : String) : List String :=
  (Text.splitAll '/' path.toList).map String.ofList

/-- The names along the path, without the parts that stay where they are. -/
def components (path : String) : List String :=
  (parts path).filter fun part => part ≠ "" && part ≠ "."

/-- The last component, if it names something inside the directory before it. -/
def fileName? (path : String) : Option String :=
  match (components path).getLast? with
  | some name => if name = ".." then none else some name
  | none => none

/-- What follows the last point of the file name; a point at its very front does not count. -/
def extension? (path : String) : Option String :=
  match fileName? path with
  | none => none
  | some name =>
    let pieces := (Text.splitAll '.' name.toList).map String.ofList
    if pieces.length < 2 || (pieces.length = 2 && pieces.head? = some "") then none
    else pieces.getLast?

/-- The path with `.` and an extension put behind its file name, and nothing behind that. -/
def appendExtension? (path extension : String) : Option String :=
  match fileName? path with
  | none => none
  | some _ =>
    let kept := ((parts path).reverse.dropWhile fun part => part = "" || part = ".").reverse
    some ("/".intercalate kept ++ "." ++ extension)

/-- The components of the way from `base` to `path`, for two absolute paths given by components. -/
def wayFrom : (base path : List String) → List String
  | b :: base, p :: path =>
    if b = p then wayFrom base path else (b :: base).map (fun _ => "..") ++ p :: path
  | base, path => base.map (fun _ => "..") ++ path

/-- An absolute path as seen from another one. -/
def relativeTo (base path : String) : String :=
  "/".intercalate (wayFrom (components base) (components path))

end DurableQueue.Path
