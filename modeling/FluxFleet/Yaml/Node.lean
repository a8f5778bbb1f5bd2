import FluxFleet.Error
import FluxFleet.Model.Outline
import FluxFleet.Number.Shortest
import FluxFleet.Text.Base64
import FluxFleet.Text.Digit
import FluxFleet.Value.Height
import FluxFleet.Value.Order
import FluxFleet.Yaml.Tag

/-!
# Nodes of a YAML document that is written

A document is a tree of nodes: scalars with their text, sequences and mappings, each with a tag. A
part of a value that stands at several places is a node at the first of them and a reference at the
others. `Document.ofValue` is the tree of a value.
-/

namespace FluxFleet.Yaml

/-- A node of a document. A number makes it known to its references. -/
inductive Node where
  /-- a scalar; `block` asks for the block style that keeps line breaks -/
  | scalar (number : Option Nat) (tag : Tag) (text : String) (block : Bool)
  | sequence (number : Option Nat) (tag : Tag) (items : List Node)
  | mapping (number : Option Nat) (tag : Tag) (entries : List (Node × Node))
  /-- the node with this number, which stands earlier -/
  | reference (number : Nat)
deriving Repr, Inhabited

/-- A document that is written. -/
structure Document where
  root : Node
  /-- the numbers that are referred to, in the order of their first references -/
  shared : List Nat
deriving Repr, Inhabited

/-- What is known of a document while its tree grows. -/
structure Growth where
  /-- the numbers of the nodes so far -/
  seen : List Nat := []
  /-- the numbers referred to so far -/
  shared : List Nat := []

/-- Growing a tree. -/
abbrev Grow := StateM Growth

namespace Node

/-- A node for a part with this mark, or a reference if the part has a node already. -/
def once (mark : Mark) (node : Option Nat → Grow Node) : Grow Node := do
  match mark.number? with
  | none => node none
  | some n =>
    let g ← get
    if g.seen.contains n then
      if !g.shared.contains n then set { g with shared := g.shared ++ [n] }
      return .reference n
    else
      set { g with seen := n :: g.seen }
      node (some n)

/-- Numbers have a decimal point before an exponent, and names of their own for infinity. -/
def floatText (x : Double) : String :=
  match x.parts with
  | .nan => ".nan"
  | .infinite negative => if negative then "-.inf" else ".inf"
  | .finite _ _ _ =>
    let cs := x.text.toList
    if cs.contains '.' then x.text
    else String.ofList (cs.takeWhile (· != 'e') ++
      (match cs.dropWhile (· != 'e') with
        | [] => []
        | rest => '.' :: '0' :: rest))

/-- What a tree keeps of a value's form. -/
structure Form where
  /-- whether the keys of mappings are sorted -/
  sortKeys : Bool := false
  /-- whether texts of several lines ask for the block style -/
  blockText : Bool := false
  /-- how high documents may be -/
  stack : Stack := {}

/-- The tag of a sequence that is fixed in length. -/
def tupleTag : Tag := Tag.ofWord "python/tuple"

/-- The tag of a kind of reference. -/
def referenceTag (kind : String) : Tag := Tag.ofWord ("python/object:kustodian.manifest." ++ kind)

/-! ## The order of keys -/

/-- Entries in the order of their keys, if the keys can be compared. -/
def sorted {α : Type} (key : α → Value) (entries : List α) : List α :=
  (Value.sortBy key entries).toOption.getD entries

mutual

/-- A value with sorted keys. -/
def sortedValue : Value → Value
  | .list m items => .list m (sortedItems items)
  | .tuple m items => .tuple m (sortedItems items)
  | .set m items => .set m (sorted id items)
  | .dict m entries => .dict m (sorted (·.1) (sortedEntries entries))
  | v => v

/-- The items of a sequence, with sorted keys. -/
def sortedItems : List Value → List Value
  | [] => []
  | v :: vs => sortedValue v :: sortedItems vs

/-- The entries of a mapping, each with sorted keys. -/
def sortedEntries : List (Value × Value) → List (Value × Value)
  | [] => []
  | (k, v) :: es => (k, sortedValue v) :: sortedEntries es

end

theorem isNull_sortedValue (v : Value) : (sortedValue v).isNull = v.isNull := by
  cases v <;> rfl

/-- A reference with sorted keys in what names a resource. -/
def sortedReference : Reference → Reference
  | .external r =>
    .external { name := sortedValue r.name, ns := sortedValue r.ns,
                given := (isNull_sortedValue r.ns).trans r.given }
  | ref => ref

mutual

/-- An outline with sorted keys. -/
def sortedOutline : Outline → Outline
  | .value v => .value (sortedValue v)
  | .reference ref => .reference (sortedReference ref)
  | .list os => .list (sortedOutlines os)
  | .record fields => .record (sorted (fun f => .str f.1) (sortedFields fields))

/-- The items of a list, with sorted keys. -/
def sortedOutlines : List Outline → List Outline
  | [] => []
  | o :: os => sortedOutline o :: sortedOutlines os

/-- The fields of a record, each with sorted keys. -/
def sortedFields : List (String × Outline) → List (String × Outline)
  | [] => []
  | (k, o) :: fs => (k, sortedOutline o) :: sortedFields fs

end

/-! ## Trees -/

/-- The tree of a scalar. -/
def ofScalar (form : Form) (number : Option Nat) : Value → Node
  | .null => .scalar number Tag.null "null" false
  | .bool b => .scalar number Tag.bool (if b then "true" else "false") false
  | .int i => .scalar number Tag.int (toString i) false
  | .float x => .scalar number Tag.float (floatText x) false
  | .str s => .scalar number Tag.str s (form.blockText && s.toList.contains '\n')
  | .bytes bs => .scalar number Tag.binary (Text.Base64.encode bs) true
  | .date _ d => .scalar number Tag.timestamp d.iso false
  | .moment _ t => .scalar number Tag.timestamp (t.iso " ") false
  | _ => .scalar number Tag.null "" false

mutual

/-- The tree of a value. An empty tuple is never referred to. -/
def ofValue (form : Form) : Value → Grow Node
  | .list m items => once m fun n => return .sequence n Tag.seq (← ofItems form items)
  | .tuple _ [] => return .sequence none tupleTag []
  | .tuple m (v :: vs) => once m fun n => do
    let first ← ofValue form v
    return .sequence n tupleTag (first :: (← ofItems form vs))
  | .set m items => once m fun n => return .mapping n Tag.set (← ofMembers form items)
  | .dict m entries => once m fun n => return .mapping n Tag.map (← ofEntries form entries)
  | .date m d => once m fun n => return ofScalar form n (.date m d)
  | .moment m t => once m fun n => return ofScalar form n (.moment m t)
  | .again n => once (.one n) fun n => return ofScalar form n .null
  | v => return ofScalar form none v

/-- The trees of the items of a sequence. -/
def ofItems (form : Form) : List Value → Grow (List Node)
  | [] => return []
  | v :: vs => do
    let first ← ofValue form v
    return first :: (← ofItems form vs)

/-- The members of a set as keys without values. -/
def ofMembers (form : Form) : List Value → Grow (List (Node × Node))
  | [] => return []
  | v :: vs => do
    let first ← ofValue form v
    return (first, .scalar none Tag.null "null" false) :: (← ofMembers form vs)

/-- The trees of the entries of a mapping. -/
def ofEntries (form : Form) : List (Value × Value) → Grow (List (Node × Node))
  | [] => return []
  | (k, v) :: es => do
    let key ← ofValue form k
    let value ← ofValue form v
    return (key, value) :: (← ofEntries form es)

end

/-- The tree of a text. -/
def ofText (form : Form) (s : String) : Node := ofScalar form none (.str s)

/-- The tree of a reference, with its parts in the order of their names. -/
def ofReference (form : Form) : Reference → Grow Node
  | .within name =>
    return .mapping none (referenceTag "WithinTemplateRef")
      [(ofText form "kustomization", ofText form name)]
  | .across template name =>
    return .mapping none (referenceTag "CrossTemplateRef")
      [(ofText form "kustomization", ofText form name),
        (ofText form "template", ofText form template)]
  | .external resource => do
    let name ← ofValue form resource.name
    let ns ← ofValue form resource.ns
    return .mapping none (referenceTag "RawExternalRef")
      [(ofText form "name", name), (ofText form "namespace", ns)]

mutual

/-- The tree of an outline. -/
def ofOutline (form : Form) : Outline → Grow Node
  | .value v => ofValue form v
  | .reference ref => ofReference form ref
  | .list os => return .sequence none Tag.seq (← ofOutlines form os)
  | .record fields => return .mapping none Tag.map (← ofOutlineFields form fields)

/-- The trees of the items of a list. -/
def ofOutlines (form : Form) : List Outline → Grow (List Node)
  | [] => return []
  | o :: os => do
    let first ← ofOutline form o
    return first :: (← ofOutlines form os)

/-- The trees of the fields of a record. -/
def ofOutlineFields (form : Form) : List (String × Outline) → Grow (List (Node × Node))
  | [] => return []
  | (k, o) :: fs => do
    let first ← ofOutline form o
    return (ofText form k, first) :: (← ofOutlineFields form fs)

end

/-! ## Limits -/

mutual

/-- The number of nodes on the longest way down. -/
def height : Node → Nat
  | .sequence _ _ items => heightOfItems items + 1
  | .mapping _ _ entries => heightOfEntries entries + 1
  | _ => 1

/-- The greatest height among items. -/
def heightOfItems : List Node → Nat
  | [] => 0
  | n :: ns => max n.height (heightOfItems ns)

/-- The greatest height among the nodes of entries. -/
def heightOfEntries : List (Node × Node) → Nat
  | [] => 0
  | (k, v) :: es => max (max k.height v.height) (heightOfEntries es)

end

mutual

/-- Whether no whole number has too many digits. -/
def isWritable : Node → Bool
  | .scalar _ tag text _ =>
    tag != Tag.int || Text.digitCount 10 (Text.unsigned text.toList) ≤ digitLimit
  | .sequence _ _ items => areWritable items
  | .mapping _ _ entries => areEntriesWritable entries
  | .reference _ => true

/-- Whether all items are writable. -/
def areWritable : List Node → Bool
  | [] => true
  | n :: ns => n.isWritable && areWritable ns

/-- Whether all nodes of entries are writable. -/
def areEntriesWritable : List (Node × Node) → Bool
  | [] => true
  | (k, v) :: es => k.isWritable && v.isWritable && areEntriesWritable es

end

end Node

namespace Document

/-- The document of a tree that has grown. -/
def ofGrowth (grow : Grow Node) : Document :=
  let (root, g) := grow.run {}
  { root, shared := g.shared }

/-- The document of a value. -/
def ofValue (form : Node.Form) (v : Value) : Document :=
  ofGrowth (Node.ofValue form (if form.sortKeys then Node.sortedValue v else v))

/-- The document of an outline. -/
def ofOutline (form : Node.Form) (o : Outline) : Document :=
  ofGrowth (Node.ofOutline form (if form.sortKeys then Node.sortedOutline o else o))

/-- The name of a node that is referred to. -/
def anchor? (d : Document) (number : Option Nat) : Option String := do
  let n ← number
  if d.shared.contains n then return "id" ++ padded 3 (d.shared.idxOf n + 1) else none

/-- Why a document cannot be written with room for nodes up to a height, if it cannot. -/
def fault? (limit : Nat) (d : Document) : Option Error :=
  if limit < d.root.height then some .depth
  else if !d.root.isWritable then some (.digits .writing)
  else none

end Document

end FluxFleet.Yaml
