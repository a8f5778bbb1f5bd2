import FluxFleet.Text.CodePoint

/-!
# Paths

A path is a row of names, behind a root if it is absolute. Empty names and names `.` say nothing
and are dropped when a path is read; names `..` are kept, because what they lead to is decided by
the file tree. Two leading slashes are a root of their own.
-/

namespace FluxFleet

/-- A path. -/
structure Path where
  /-- one slash or two for an absolute path, none for a relative one -/
  root : String := ""
  parts : List String := []
deriving DecidableEq, Repr, Inhabited

namespace Path

/-- Cut a text at slashes. -/
def pieces : List Char → List (List Char)
  | [] => [[]]
  | c :: cs =>
    if c == '/' then [] :: pieces cs
    else match pieces cs with
      | piece :: rest => (c :: piece) :: rest
      | [] => [[c]]

/-- Whether a piece between slashes says anything. -/
def isName (piece : List Char) : Bool := !piece.isEmpty && piece != ['.']

/-- The root of a text. -/
def rootOf (cs : List Char) : String :=
  match (cs.takeWhile (· == '/')).length with
  | 0 => ""
  | 2 => "//"
  | _ => "/"

/-- The path of a text. -/
def ofString (s : String) : Path :=
  { root := rootOf s.toList
    parts := ((pieces s.toList).filter isName).map String.ofList }

/-- Whether a path has a root. -/
def isAbsolute (p : Path) : Bool := !p.root.isEmpty

/-- A path as a text; the path without names is `.`. -/
def text (p : Path) : String :=
  if p.root.isEmpty && p.parts.isEmpty then "." else p.root ++ "/".intercalate p.parts

/-- Follow one path behind another; an absolute one stands alone. -/
def append (p q : Path) : Path :=
  if q.isAbsolute then q else { p with parts := p.parts ++ q.parts }

instance : Append Path := ⟨append⟩

/-- Follow a path behind another. -/
def child (p : Path) (s : String) : Path := p ++ ofString s

/-- The path without its last name. -/
def parent (p : Path) : Path := { p with parts := p.parts.dropLast }

/-- The last name, empty if there is none. -/
def name (p : Path) : String := p.parts.getLastD ""

/-- The last name from its last point on; a point at either end of the name does not count. -/
def suffixOf (name : List Char) : List Char :=
  let tail := (name.reverse.takeWhile (· != '.')).reverse
  let before := name.length - tail.length
  if tail.isEmpty || before ≤ 1 then [] else '.' :: tail

/-- The suffix of the last name. -/
def suffix (p : Path) : String := String.ofList (suffixOf p.name.toList)

/-- Whether some name is `..`. -/
def climbs (p : Path) : Bool := p.parts.contains ".."

/-- The path with each `..` taken back together with the name before it. -/
def resolved (p : Path) : Path :=
  { p with parts := (p.parts.foldl (fun back name =>
      if name == ".." then back.drop 1 else name :: back) []).reverse }

/-- The order of rows of names, name by name; a row comes before the ones that go on behind it. -/
def inOrder : List String → List String → Bool
  | [], _ => true
  | _ :: _, [] => false
  | a :: as, b :: bs => if a == b then inOrder as bs else Text.precedes a b

/-- The names of a path below a directory, if it lies there. -/
def below? (directory p : Path) : Option (List String) :=
  if p.root == directory.root && directory.parts.isPrefixOf p.parts then
    some (p.parts.drop directory.parts.length)
  else none

end Path

end FluxFleet
