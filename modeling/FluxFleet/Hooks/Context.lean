import FluxFleet.Generation

/-!
# The context of hooks

Hooks see a run through a context: the cluster, the templates, the resolved kustomizations and,
later, the result. Plugins leave values for each other as extensions; an extension is set once, and
asking for it with the wrong kind fails.
-/

namespace FluxFleet

/-- What hooks see of a run, and may change. -/
structure Context where
  cluster : Cluster
  templates : List Template := []
  kustomizations : List Resolved := []
  /-- absent until the manifests are generated -/
  result : Option Generation := none
  extensions : OrderedMap Value Value := .empty
deriving Repr

/-- The kinds of value that an extension can be asked for. -/
inductive ExtensionKind where
  | dict
  | list
  | str
  | int
  | bool
  | float
deriving DecidableEq, Repr

namespace ExtensionKind

/-- The name of a kind. -/
def word : ExtensionKind → String
  | .dict => "dict"
  | .list => "list"
  | .str => "str"
  | .int => "int"
  | .bool => "bool"
  | .float => "float"

/-- Whether a value is of a kind; a truth value is a whole number too. -/
def admits : ExtensionKind → Value → Bool
  | .dict, .dict _ _ => true
  | .list, .list _ _ => true
  | .str, .str _ => true
  | .int, .int _ => true
  | .int, .bool _ => true
  | .bool, .bool _ => true
  | .float, .float _ => true
  | _, _ => false

end ExtensionKind

namespace Context

/-- Set an extension that is not set. -/
def setExtension (c : Context) (key v : Value) : Except Error Context := do
  let key ← key.asKey
  if c.extensions.contains key then throw (.extensionTaken key.text)
  return { c with extensions := c.extensions.insert key v }

/-- The value of an extension, absent if it is not set; it must be of the given kind. -/
def extension (c : Context) (key : Value) (kind : ExtensionKind) : Except Error Value := do
  let key ← key.asKey
  let v := (c.extensions.get? key).getD .null
  if v.isNull then return .null
  if kind.admits v then return v
  throw (.extensionKind key.text v.kind kind.word)

/-- A context of the same run without extensions. -/
def withoutExtensions (c : Context) : Context := { c with extensions := .empty }

end Context

end FluxFleet
