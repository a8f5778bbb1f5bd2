import FluxFleet.Text.Blank
import FluxFleet.Value.Text

/-!
# References between kustomizations

A kustomization names what has to be ready before it. A reference is written `db` (a kustomization
of the same template) or `secrets/doppler` (a kustomization of another template), with blanks
around it ignored; a resource outside the templates is given by name and namespace.

`Reference.parse` accepts exactly these forms, and `Reference.written?` writes a reference down
again. A kustomization may declare a reference that has been read, or a value that is read when the
reference is used (`Dependency`).
-/

namespace FluxFleet

/-- A resource outside the known templates. It always has a namespace: a reader asks for one
(`Reference.ofRaw`), and a reference that is put together elsewhere is declared with one. -/
structure Outside where
  name : Value
  ns : Value
  given : ns.isNull = false
deriving Repr

/-- A parsed reference. -/
inductive Reference where
  /-- a kustomization of the template that declares the reference -/
  | within (kustomization : String)
  /-- a kustomization of a named template -/
  | across (template kustomization : String)
  /-- a resource outside the known templates -/
  | external (resource : Outside)
deriving Repr

/-- A reference as a kustomization declares it: one that is parsed, or a value that is parsed when
it is used. A value that is no reference is quoted in a message, so it must be one that can be
written. -/
inductive Dependency where
  | parsed (ref : Reference)
  | value (v : Value) (writable : v.isWritable = true)
deriving Repr

/-- Why something is not a reference. -/
inductive ReferenceFault where
  | empty
  /-- a slash with nothing on one side -/
  | emptyPart (written : String)
  /-- more than one slash -/
  | tooManyParts (written : String)
  /-- neither a text nor a mapping -/
  | notText (value : Value)
  /-- a mapping without the name and namespace of a resource -/
  | incomplete (value : Value)
deriving Repr

/-- The wording of a fault. -/
def ReferenceFault.message : ReferenceFault → String
  | .empty => "Empty dependency reference"
  | .emptyPart s =>
    s!"Invalid dependency reference format: '{s}' - both template " ++
      "and kustomization names must be non-empty"
  | .tooManyParts s =>
    s!"Invalid dependency reference format: '{s}' - expected " ++
      "'kustomization' or 'template/kustomization'"
  | .notText v => s!"Invalid dependency reference: {v.literal}"
  | .incomplete v =>
    s!"Invalid raw dependency reference: {v.text} - expected raw.name and raw.namespace"

/-- The identity of a kustomization: the names of its template and its own, joined. -/
def joined (template kustomization : String) : String := template ++ "-" ++ kustomization

namespace Reference

/-- The parts of a text between slashes. -/
def parts : List Char → List (List Char)
  | [] => [[]]
  | c :: cs =>
    if c == '/' then [] :: parts cs
    else
      match parts cs with
      | [] => [[c]]
      | p :: ps => (c :: p) :: ps

/-- Parse a written reference. -/
def parse (written : String) : Except ReferenceFault Reference :=
  let trimmed := Text.trimChars written.toList
  if trimmed.isEmpty then throw .empty
  else
    match parts trimmed with
    | [name] => return .within (String.ofList name)
    | [template, name] =>
      if template.isEmpty || name.isEmpty then throw (.emptyPart written)
      else return .across (String.ofList template) (String.ofList name)
    | _ => throw (.tooManyParts written)

/-- The identity that a reference of a template leads to; none outside the templates. -/
def target? (template : String) : Reference → Option String
  | .within name => some (joined template name)
  | .across other name => some (joined other name)
  | .external _ => none

/-- The written form of a reference to a kustomization. -/
def written? : Reference → Option String
  | .within name => some name
  | .across template name => some (template ++ "/" ++ name)
  | .external _ => none

/-- A reference as it is shown. -/
def text : Reference → String
  | .within name => s!"WithinTemplateRef(kustomization={(Value.str name).literal})"
  | .across template name =>
    s!"CrossTemplateRef(template={(Value.str template).literal}, " ++
      s!"kustomization={(Value.str name).literal})"
  | .external resource =>
    s!"RawExternalRef(name={resource.name.literal}, namespace={resource.ns.literal})"

/-- The entry of a mapping with a text key. -/
def lookup? (key : String) (entries : List (Value × Value)) : Option Value :=
  OrderedMap.find? (.str key) entries

/-- The resource that a mapping `doc` describes under its key `raw`. -/
def ofRaw (doc : Value) (entries : List (Value × Value)) : Except ReferenceFault Outside :=
  match (lookup? "raw" entries).bind Value.entries? with
  | some raw =>
    match lookup? "name" raw, lookup? "namespace" raw with
    | some name, some ns =>
      if h : name.truthy = true ∧ ns.truthy = true then
        return { name, ns, given := Value.isNull_of_truthy h.2 }
      else throw (.incomplete doc)
    | _, _ => throw (.incomplete doc)
  | none => throw (.incomplete doc)

/-- The reference of a document: a text, or a mapping that describes a resource. -/
def ofValue (v : Value) : Except ReferenceFault Reference :=
  match v, v.entries? with
  | .str s, _ => parse s
  | v, some entries => .external <$> ofRaw v entries
  | v, none => throw (.notText v)

end Reference

namespace Dependency

/-- A declared text. -/
def written (text : String) : Dependency := .value (.str text) rfl

/-- A declared resource outside the templates. -/
def external (name ns : Value) (given : ns.isNull = false := by rfl) : Dependency :=
  .parsed (.external { name, ns, given })

/-- The reference that a declaration stands for. -/
def reference : Dependency → Except ReferenceFault Reference
  | .parsed ref => return ref
  | .value v _ => Reference.ofValue v

/-- A declaration that cannot be parsed, as it is written into a message. -/
def text : Dependency → String
  | .parsed ref => ref.text
  | .value v _ => v.text

end Dependency

end FluxFleet
