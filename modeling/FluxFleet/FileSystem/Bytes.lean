import FluxFleet.Error
import FluxFleet.FileSystem.Path

/-!
# Paths as bytes

A path is handed to the system as bytes, which end at the first null character. Hence the null
character has no place in one, nor has a half of a surrogate pair.
-/

namespace FluxFleet.Path

/-- Refuse a text that is no path as bytes. -/
def checkBytes (text : String) : Except Error Unit := do
  if let some fault := Text.surrogateFault? 0 (Text.codePoints text) then throw (.surrogate fault)
  if text.toList.contains '\x00' then throw .nullCharacter

/-- The names of a path, last one first, with one more name. A name `..` takes back the name before
it, but not another `..`, and it does nothing at a root. -/
def climbed (root : String) (back : List String) (name : String) : List String :=
  match name, back with
  | "..", [] => if root.isEmpty then [".."] else []
  | "..", ".." :: _ => ".." :: back
  | "..", _ :: above => above
  | _, _ => name :: back

/-- Follow a path name by name, and refuse the first start of it that is no path as bytes. -/
def checkStarts (root : String) : List String → List String → Except Error Unit
  | _, [] => return ()
  | back, name :: names => do
    let back := climbed root back name
    if name != ".." then checkBytes (Path.text { root, parts := back.reverse })
    checkStarts root back names

end FluxFleet.Path
