import FluxFleet.Error

/-!
# Documents: reading fields and writing them down

The parsers of the model read a document field by field. An absent field is the absent value; a
value that has no fields, no items or no entries fails where it is used as if it had.

A document is written down as a mapping in the order of its fields, and an optional field without
value is left out (`optional`).

A reference is read from a document as well, or from a text (`Reference.read`).
-/

namespace FluxFleet.Value

/-- The value of a field, absent if the document has no such field. -/
def field (doc : Value) (key : String) : Except Error Value :=
  match doc.entries? with
  | some entries => return (OrderedMap.find? (.str key) entries).getD .null
  | none => throw (.noAttribute doc.qualifiedKind "get")

/-- The value of a field, or another value if the document has no such field. -/
def fieldOr (doc : Value) (key : String) (other : Value) : Except Error Value :=
  match doc.entries? with
  | some entries => return (OrderedMap.find? (.str key) entries).getD other
  | none => throw (.noAttribute doc.qualifiedKind "get")

/-- The items that a value runs through. -/
def each (v : Value) : Except Error (List Value) :=
  match v.items? with
  | some items => return items
  | none => throw (.notIterable v.qualifiedKind)

/-- The items of a value that counts as given, otherwise none. -/
def eachGiven (v : Value) : Except Error (List Value) := if v.truthy then v.each else return []

/-- The entries of a mapping that counts as given, otherwise none. -/
def entriesGiven (v : Value) : Except Error (List (Value × Value)) :=
  if v.truthy then
    match v.entries? with
    | some entries => return entries
    | none => throw (.noAttribute v.qualifiedKind "items")
  else return []

/-- Whether a text starts with another one. -/
def startsWith (v : Value) (start : String) : Except Error Bool :=
  match v with
  | .str s => return start.toList.isPrefixOf s.toList
  | .bytes _ =>
    throw (.wrongArgument "startswith first arg must be bytes or a tuple of bytes, not str")
  | v => throw (.noAttribute v.qualifiedKind "startswith")

/-- A value that can be a key. -/
def asKey (v : Value) : Except Error Value :=
  match v.unkeyable? with
  | some kind => throw (.notKeyable kind)
  | none => return v

/-- The text of a value that can be written. -/
def written (v : Value) : Except Error String :=
  if v.isWritable then return v.text else throw (.digits .writing)

/-- The text of a field, absent if the field is. -/
def optionalText (doc : Value) (key : String) : Except Error (Option String) := do
  match (← doc.field key).given? with
  | some v => some <$> v.written
  | none => return none

/-- A field that is left out when it has no value. -/
def optional (key : String) (v : Value) : List (String × Value) :=
  if v.isNull then [] else [(key, v)]

/-- A text field that is left out when it has no value. -/
def optionalString (key : String) (s : Option String) : List (String × Value) :=
  match s with
  | some s => [(key, .str s)]
  | none => []

end FluxFleet.Value

namespace FluxFleet.Reference

/-- Read a reference. What cannot be read is reported together with what was to be read. -/
def read (v : Value) : Except Error Reference := (ofValue v).mapError (.reference v)

end FluxFleet.Reference
