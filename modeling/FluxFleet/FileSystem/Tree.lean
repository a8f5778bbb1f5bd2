import FluxFleet.FileSystem.Path
import FluxFleet.Text.Quoted

/-!
# File trees

A tree of directories and files with their bytes. A path is followed name by name from the root or
from the working directory: every name before the last must lead to a directory, and `..` leads to
the directory above. Making a directory, writing a file and reading one fail as the rules below
say, and a failure names the path at which it arose.
-/

namespace FluxFleet

/-- A file or a directory. -/
inductive Tree where
  | file (bytes : List UInt8)
  | directory (entries : List (String × Tree))
deriving Repr, Inhabited

/-- Why an operation on a path fails. -/
inductive FileFault where
  | missing
  | exists
  | notDirectory
  | isDirectory
  | nameTooLong
deriving DecidableEq, Repr

/-- The wording of a fault at a path. -/
def FileFault.message (f : FileFault) (p : Path) : String :=
  let text := match f with
    | .missing => "[Errno 2] No such file or directory"
    | .exists => "[Errno 17] File exists"
    | .notDirectory => "[Errno 20] Not a directory"
    | .isDirectory => "[Errno 21] Is a directory"
    | .nameTooLong => "[Errno 36] File name too long"
  s!"{text}: {Text.quoted p.text}"

namespace Tree

/-- The directory without entries. -/
def empty : Tree := .directory []

/-- The entry of a name. -/
def find? (name : String) : List (String × Tree) → Option Tree
  | [] => none
  | (n, t) :: rest => if n == name then some t else find? name rest

/-- Set the entry of a name. -/
def put (name : String) (t : Tree) : List (String × Tree) → List (String × Tree)
  | [] => [(name, t)]
  | (n, u) :: rest => if n == name then (n, t) :: rest else (n, u) :: put name t rest

/-- What lies at the end of a row of names. -/
def get? : Tree → List String → Option Tree
  | t, [] => some t
  | .file _, _ :: _ => none
  | .directory entries, name :: names => (find? name entries).bind (get? · names)

/-- Put something at the end of a row of names whose directories exist. -/
def set : Tree → List String → Tree → Tree
  | _, [], new => new
  | .file bytes, _ :: _, _ => .file bytes
  | .directory entries, name :: names, new =>
    .directory (put name (set ((find? name entries).getD empty) names new) entries)

/-- Whether this is a directory. -/
def isDirectory : Tree → Bool
  | .directory _ => true
  | .file _ => false

end Tree

/-- A file tree with a working directory. -/
structure FileSystem where
  root : Tree := .empty
  /-- the names from the root to the working directory -/
  working : List String := []
deriving Repr, Inhabited

namespace FileSystem

/-- The longest name in bytes. -/
def longestName : Nat := 255

/-- The longest path in bytes. -/
def longestPath : Nat := 4095

/-- Refuse a path that is too long as it is written. -/
def measured (p : Path) : Except FileFault Unit :=
  if longestPath < p.text.utf8ByteSize then throw .nameTooLong else return ()

/-- Where a path starts. -/
def origin (fs : FileSystem) (p : Path) : List String :=
  if p.isAbsolute then [] else fs.working

/-- Follow names from a place that exists; every place on the way must exist. -/
def follow (fs : FileSystem) : List String → List String → Except FileFault (List String)
  | place, [] => return place
  | place, name :: names =>
    match fs.root.get? place with
    | none => throw .missing
    | some (.file _) => throw .notDirectory
    | some (.directory entries) =>
      if name == ".." then follow fs place.dropLast names
      else if longestName < name.utf8ByteSize then throw .nameTooLong
      else if (Tree.find? name entries).isSome then follow fs (place ++ [name]) names
      else throw .missing

/-- The place that a path leads to. -/
def locate (fs : FileSystem) (p : Path) : Except FileFault (List String) := do
  measured p
  fs.follow (fs.origin p) p.parts

/-- What a path leads to. -/
def lookup (fs : FileSystem) (p : Path) : Except FileFault Tree := do
  match fs.root.get? (← fs.locate p) with
  | some t => return t
  | none => throw .missing

/-- Whether a path leads to a directory. -/
def isDirectory (fs : FileSystem) (p : Path) : Bool :=
  match fs.lookup p with
  | .ok t => t.isDirectory
  | .error _ => false

/-- Whether a path leads anywhere. -/
def contains (fs : FileSystem) (p : Path) : Bool := (fs.lookup p).isOk

/-- The directory in which the last name of a path stands, and that name. -/
def slot (fs : FileSystem) (p : Path) : Except FileFault (List String × String) := do
  measured p
  let place ← fs.follow (fs.origin p) p.parts.dropLast
  match fs.root.get? place with
  | some (.directory _) =>
    if longestName < p.name.utf8ByteSize then throw .nameTooLong
    return (place, p.name)
  | some (.file _) => throw .notDirectory
  | none => throw .missing

/-- Make a directory whose parent exists. -/
def makeDirectory (fs : FileSystem) (p : Path) : Except FileFault FileSystem := do
  if p.parts.isEmpty then throw .exists
  let (place, name) ← fs.slot p
  if name == ".." then throw .exists
  match fs.root.get? (place ++ [name]) with
  | some _ => throw .exists
  | none => return { fs with root := fs.root.set (place ++ [name]) .empty }

/-- Make a directory unless it is there; the failure names its path. -/
def ensureDirectory (fs : FileSystem) (p : Path) :
    FileSystem × Except (FileFault × Path) Unit :=
  match fs.makeDirectory p with
  | .ok fs => (fs, .ok ())
  | .error f => (fs, if fs.isDirectory p then .ok () else .error (f, p))

/-- Make a directory and the ones above it as far as they are missing; `names` are the names of the
path from the last to the first. What was made before a failure stays. -/
def ensureNames (root : String) (fs : FileSystem) :
    List String → FileSystem × Except (FileFault × Path) Unit
  | [] => ensureDirectory fs { root, parts := [] }
  | name :: above =>
    let p : Path := { root, parts := (name :: above).reverse }
    match fs.makeDirectory p with
    | .error .missing =>
      match ensureNames root fs above with
      | (fs, .ok ()) => ensureDirectory fs p
      | failed => failed
    | .ok fs => (fs, .ok ())
    | .error f => (fs, if fs.isDirectory p then .ok () else .error (f, p))

/-- Make a directory and the ones above it as far as they are missing. -/
def ensureDirectories (fs : FileSystem) (p : Path) :
    FileSystem × Except (FileFault × Path) Unit :=
  ensureNames p.root fs p.parts.reverse

/-- Write a file, new or in place of another one. -/
def writeFile (fs : FileSystem) (p : Path) (bytes : List UInt8) : Except FileFault FileSystem := do
  if p.parts.isEmpty then throw .isDirectory
  let (place, name) ← fs.slot p
  if name == ".." then throw .isDirectory
  match fs.root.get? (place ++ [name]) with
  | some (.directory _) => throw .isDirectory
  | _ => return { fs with root := fs.root.set (place ++ [name]) (.file bytes) }

/-- The bytes of a file. -/
def readFile (fs : FileSystem) (p : Path) : Except FileFault (List UInt8) := do
  match ← fs.lookup p with
  | .file bytes => return bytes
  | .directory _ => throw .isDirectory

/-- The names in a directory. -/
def names (fs : FileSystem) (p : Path) : List String :=
  match fs.lookup p with
  | .ok (.directory entries) => entries.map (·.1)
  | _ => []

/-- A path from the root, with each `..` taken back. -/
def absolute (fs : FileSystem) (p : Path) : Path :=
  Path.resolved { root := "/", parts := fs.origin p ++ p.parts }

end FileSystem

mutual

/-- All files below a tree with the names that lead to them. -/
def Tree.files (above : List String) : Tree → List (List String × List UInt8)
  | .file bytes => [(above, bytes)]
  | .directory entries => Tree.filesOf above entries

/-- All files below the entries of a directory. -/
def Tree.filesOf (above : List String) :
    List (String × Tree) → List (List String × List UInt8)
  | [] => []
  | (name, t) :: rest => Tree.files (above ++ [name]) t ++ Tree.filesOf above rest

end

mutual

/-- All places of a name below a tree, directories among them. -/
def Tree.named (wanted : String) (above : List String) : Tree → List (List String)
  | .file _ => []
  | .directory entries => Tree.namedOf wanted above entries

/-- All places of a name below the entries of a directory. -/
def Tree.namedOf (wanted : String) (above : List String) :
    List (String × Tree) → List (List String)
  | [] => []
  | (name, t) :: rest =>
    (if name == wanted then [above ++ [name]] else []) ++
      Tree.named wanted (above ++ [name]) t ++ Tree.namedOf wanted above rest

end

end FluxFleet
