import FluxFleet.Yaml.Cursor
import FluxFleet.Yaml.Tag

/-!
# Parts of a YAML document that is read

A document that is read is a row of parts: scalars with their text, sequences and mappings. A part
names the parts inside it by their place in the row, so that one part may stand in several others,
and even in itself. The first part is the root.
-/

namespace FluxFleet.Yaml

/-- A part of a document. -/
inductive Part where
  | scalar (tag : Tag) (text : String)
  | sequence (tag : Tag) (items : List Nat)
  | mapping (tag : Tag) (entries : List (Nat × Nat))
deriving Repr, Inhabited

namespace Part

/-- The tag of a part. -/
def tag : Part → Tag
  | .scalar t _ => t
  | .sequence t _ => t
  | .mapping t _ => t

/-- The entries of a mapping; any other part has none. -/
def entries : Part → List (Nat × Nat)
  | .mapping _ entries => entries
  | _ => []

/-- The part with another tag. -/
def withTag (t : Tag) : Part → Part
  | .scalar _ text => .scalar t text
  | .sequence _ items => .sequence t items
  | .mapping _ entries => .mapping t entries

end Part

/-- The parts of a document. -/
abbrev Parts := Array Part

namespace Parts

/-- The part with a number. -/
def nth (ps : Parts) (n : Nat) : Part := ps.getD n (.scalar Tag.null "")

/-- The parts with another part in the place of one. -/
def put (ps : Parts) (n : Nat) (p : Part) : Parts := ps.setIfInBounds n p

end Parts

end FluxFleet.Yaml
