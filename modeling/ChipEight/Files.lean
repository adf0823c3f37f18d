/-!
A view of a file system. A path is followed name by name, from the root or from the working
directory; every place on the way must be a directory, and a slash at the end asks for one too.
-/

namespace ChipEight

/-- What the system says when a file operation fails. -/
inductive FileError where
  | notFound
  | notDirectory
  | isDirectory
  | nameTooLong
  | other (reason : String)
  deriving DecidableEq

/-- The wording of a file error. -/
def FileError.message : FileError → String
  | .notFound => "No such file or directory (os error 2)"
  | .notDirectory => "Not a directory (os error 20)"
  | .isDirectory => "Is a directory (os error 21)"
  | .nameTooLong => "File name too long (os error 36)"
  | .other reason => reason

/-- The names that lead from the root to a file or a directory. -/
abbrev Place := List String

/-- What is at a place. -/
inductive FileNode where
  | file (bytes : List UInt8)
  | directory
  deriving DecidableEq

/-- What is at which place, the first entry of a place counting, and the working directory. -/
structure Files where
  nodes : List (Place × FileNode)
  working : Place
  deriving DecidableEq

namespace Files

/-- The most bytes of a name. -/
def nameLimit : Nat := 255

/-- The most bytes of a path. -/
def pathLimit : Nat := 4095

/-- What is at a place; the root is a directory. -/
def node? (files : Files) (place : Place) : Option FileNode :=
  if place.isEmpty then some .directory else files.nodes.lookup place

/-- The place of a name in the directory at `place`, whether or not anything is there. -/
def enter (files : Files) (place : Place) (name : String) : Except FileError Place :=
  match files.node? place with
  | none => .error .notFound
  | some (.file _) => .error .notDirectory
  | some .directory =>
    if name = "." then .ok place
    else if name = ".." then .ok place.dropLast
    else if nameLimit < name.utf8ByteSize then .error .nameTooLong
    else .ok (place ++ [name])

/-- The names in a path. -/
def names (path : String) : List String := (path.splitOn "/").filter (· ≠ "")

/-- Whether a path ends with a slash. -/
def asksDirectory (path : String) : Bool := path.toList.getLast? == some '/'

/-- Follows names from where a path starts. -/
def follow (files : Files) (path : String) (names : List String) : Except FileError Place :=
  if pathLimit < path.utf8ByteSize then .error .nameTooLong
  else names.foldlM files.enter (if path.toList.head? = some '/' then [] else files.working)

/-- The bytes of a file. -/
def read (files : Files) (path : String) : Except FileError (List UInt8) := do
  let place ← files.follow path (names path)
  match files.node? place with
  | none => .error .notFound
  | some .directory => .error .isDirectory
  | some (.file bytes) => if asksDirectory path then .error .notDirectory else .ok bytes

/-- Makes an empty file, or empties one, and tells its place. -/
def create (files : Files) (path : String) : Except FileError (Place × Files) := do
  let parent ← files.enter (← files.follow path (names path).dropLast) "."
  if asksDirectory path then throw .isDirectory
  let place ← files.enter parent ((names path).getLastD ".")
  match files.node? place with
  | some .directory => .error .isDirectory
  | _ => .ok (place, { files with nodes := (place, .file []) :: files.nodes })

end Files

end ChipEight
