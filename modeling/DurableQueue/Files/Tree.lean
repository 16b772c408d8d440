import DurableQueue.Files.Path

/-!
# A tree of files

The files a program can reach, as a value: which places hold a file and its text, and which are
directories. A place is the list of names from the root. Paths are followed name by name; every name
but the last must lead into a directory, and `..` leads back out of one. Names and paths are limited in
length, and a path with a zero character in it leads nowhere. There are no symbolic links, so nothing
has a second place.
-/

namespace DurableQueue

/-- Why a path could not be followed, or nothing created or removed there. -/
inductive FileFault where
  | notFound | notADirectory | isADirectory | alreadyExists | invalidArgument | nameTooLong
  | zeroCharacter
  deriving DecidableEq, Repr

/-- A fault in words. -/
def FileFault.message : FileFault → String
  | notFound => "No such file or directory (os error 2)"
  | notADirectory => "Not a directory (os error 20)"
  | isADirectory => "Is a directory (os error 21)"
  | alreadyExists => "File exists (os error 17)"
  | invalidArgument => "Invalid argument (os error 22)"
  | nameTooLong => "File name too long (os error 36)"
  | zeroCharacter => "file name contained an unexpected NUL byte"

/-- What is wrong with a path before it is followed. -/
def FileFault.ofPath? (path : String) : Option FileFault :=
  if path.toList.contains '\x00' then some zeroCharacter
  else if 4095 < path.utf8ByteSize then some nameTooLong
  else none

/-- What is wrong with a name in a directory. -/
def FileFault.ofName? (name : String) : Option FileFault :=
  if 255 < name.utf8ByteSize then some nameTooLong else none

/-- What stands at a place. -/
inductive FileEntry where
  | file (text : String)
  | directory
  deriving DecidableEq, Repr

/-- A place: the names from the root to it. -/
abbrev Place := List String

/-- The files and directories, by place, without symbolic links. The root is always a directory. -/
structure FileTree where
  entries : List (Place × FileEntry)

namespace FileTree

/-- The tree with nothing below the root. -/
def empty : FileTree := ⟨[]⟩

/-- What stands at a place, if anything. -/
def at? (tree : FileTree) (place : Place) : Option FileEntry :=
  if place.isEmpty then some .directory
  else (tree.entries.find? (·.1 == place)).map (·.2)

/-- Puts something at a place, instead of what stood there. -/
def put (tree : FileTree) (place : Place) (entry : FileEntry) : FileTree :=
  ⟨(place, entry) :: tree.entries.filter (·.1 ≠ place)⟩

/-- Removes everything below a place. -/
def clear (tree : FileTree) (place : Place) : FileTree :=
  ⟨tree.entries.filter fun e => !place.isPrefixOf e.1 || e.1 == place⟩

/-- Removes a place and everything below it. -/
def remove (tree : FileTree) (place : Place) : FileTree :=
  ⟨tree.entries.filter fun e => !place.isPrefixOf e.1⟩

/-- Follows the parts of a path from a place on. -/
def follow (tree : FileTree) (place : Place) : List String → Except FileFault (Place × FileEntry)
  | [] =>
    match tree.at? place with
    | some entry => .ok (place, entry)
    | none => .error .notFound
  | part :: parts =>
    match tree.at? place with
    | none => .error .notFound
    | some (.file _) => .error .notADirectory
    | some .directory =>
      if part = "" ∨ part = "." then follow tree place parts
      else if part = ".." then follow tree place.dropLast parts
      else match FileFault.ofName? part with
        | some fault => .error fault
        | none => follow tree (place ++ [part]) parts

/-- The place where following a path starts. -/
def start (cwd : Place) (path : String) : Place := if Path.isAbsolute path then [] else cwd

/-- What a path leads to, seen from the working directory. The empty path leads nowhere. -/
def resolve (tree : FileTree) (cwd : Place) (path : String) : Except FileFault (Place × FileEntry) :=
  if path = "" then .error .notFound
  else match FileFault.ofPath? path with
    | some fault => .error fault
    | none => tree.follow (start cwd path) (Path.parts path)

/-- Does the path lead to a file or directory? -/
def has (tree : FileTree) (cwd : Place) (path : String) : Bool :=
  match tree.resolve cwd path with
  | .ok _ => true
  | .error _ => false

/-- The text of the file a path leads to. -/
def text? (tree : FileTree) (cwd : Place) (path : String) : Option String :=
  match tree.resolve cwd path with
  | .ok (_, .file text) => some text
  | _ => none

/-- Creates the directories along the parts of a path that are missing. -/
def makeAlong (tree : FileTree) (place : Place) : List String → Except FileFault FileTree
  | [] => .ok tree
  | part :: parts =>
    if part = "" ∨ part = "." then makeAlong tree place parts
    else if part = ".." then makeAlong tree place.dropLast parts
    else
      let next := place ++ [part]
      match FileFault.ofName? part, tree.at? next with
      | some fault, _ => .error fault
      | none, some .directory => makeAlong tree next parts
      | none, some (.file _) => .error (if parts.isEmpty then .alreadyExists else .notADirectory)
      | none, none => makeAlong (tree.put next .directory) next parts

/-- Creates the directory that a path names, with all directories on the way. -/
def makeDirectory (tree : FileTree) (cwd : Place) (path : String) : Except FileFault FileTree :=
  match FileFault.ofPath? path with
  | some fault => .error fault
  | none => tree.makeAlong (start cwd path) (Path.parts path)

/-- Creates the directory in which a path would put a file, with all directories on the way. -/
def makeParent (tree : FileTree) (cwd : Place) (path : String) : Except FileFault FileTree :=
  let names := (Path.components path).dropLast
  match FileFault.ofPath? ("/".intercalate names) with
  | some fault => .error fault
  | none => tree.makeAlong (start cwd path) names

/-- Removes the directory that a path leads to, with all it holds; says what stood in the way. A path
that ends in a dot removes what is in the directory, but cannot remove the directory; one that leads
through what is removed leaves the directory behind, too. -/
def removeDirectory (tree : FileTree) (cwd : Place) (path : String) : FileTree × Option FileFault :=
  match tree.resolve cwd path with
  | .error fault => (tree, some fault)
  | .ok (_, .file _) => (tree, some .notADirectory)
  | .ok (place, .directory) =>
    let cleared := tree.clear place
    if ((Path.parts path).reverse.dropWhile (· = "")).head? = some "." then
      (cleared, some .invalidArgument)
    else match cleared.resolve cwd path with
      | .ok _ => (cleared.remove place, none)
      | .error _ => (cleared, none)

/-- Opens the file at a path for writing at its end, creating it in an existing directory if it is not
there; answers its place. A path that ends in a slash asks for a directory, which cannot be written. -/
def openForAppend (tree : FileTree) (cwd : Place) (path : String) :
    Except FileFault (FileTree × Place) := do
  if let some fault := FileFault.ofPath? path then throw fault
  let names := ((Path.parts path).reverse.dropWhile (· = "")).reverse
  match names.getLast? with
  | none => throw (if path = "" then .notFound else .isADirectory)
  | some name =>
    match ← tree.follow (start cwd path) names.dropLast with
    | (_, .file _) => throw .notADirectory
    | (parent, .directory) =>
      let place := parent ++ [name]
      if name = "." ∨ name = ".." ∨ path.toList.getLast? = some '/' then throw .isADirectory
      if let some fault := FileFault.ofName? name then throw fault
      match tree.at? place with
      | some (.file _) => return (tree, place)
      | some .directory => throw .isADirectory
      | none => return (tree.put place (.file ""), place)

/-- Writes at the end of the file at a place. -/
def append (tree : FileTree) (place : Place) (text : String) : FileTree :=
  match tree.at? place with
  | some (.file old) => tree.put place (.file (old ++ text))
  | _ => tree

end FileTree

/-- What a program finds around it: its environment variables, its working directory and the files. -/
structure Surroundings where
  environment : List (String × String)
  workingDirectory : String
  files : FileTree

namespace Surroundings

/-- The value of an environment variable. -/
def value? (s : Surroundings) (name : String) : Option String :=
  (s.environment.find? (·.1 == name)).map (·.2)

/-- The working directory as a place. -/
def here (s : Surroundings) : Place := Path.components s.workingDirectory

/-- Does the path lead to a file or directory? -/
def has (s : Surroundings) (path : String) : Bool := s.files.has s.here path

/-- The text of the file a path leads to. -/
def text? (s : Surroundings) (path : String) : Option String := s.files.text? s.here path

/-- A path that leads somewhere, from the root and without detours. There are no symbolic links in the
tree that would have to be followed to their ends. -/
def canonical? (s : Surroundings) (path : String) : Option String :=
  match s.files.resolve s.here path with
  | .ok (place, _) => some ("/" ++ "/".intercalate place)
  | .error _ => none

end Surroundings

end DurableQueue
