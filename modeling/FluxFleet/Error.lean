import FluxFleet.Json.Writer
import FluxFleet.Model.Reference
import FluxFleet.Problem

/-!
# Errors

Everything that can fail, by its cause. `Error.message` holds the wording. The errors that the
library itself reports (`Error.isReported`) are told apart from those that a malformed value or a
plugin causes below it: a hook passes the former on and wraps the latter.
-/

namespace FluxFleet

/-- What a message is about: a kind of document and, once it is known, its name. -/
structure Subject where
  kind : String
  name : Option Value := none
  /-- the part of the document that is at fault -/
  part : String := ""
deriving Repr

/-- The subject as it is written. -/
def Subject.text (s : Subject) : String :=
  s.kind ++ (match s.name with | some n => s!" '{n.text}'" | none => "") ++
    (if s.part.isEmpty then "" else " " ++ s.part)

/-- The values that the subject is written with. -/
def Subject.values (s : Subject) : List Value := s.name.toList

/-- Why a document or a project is refused. -/
inductive InputFault where
  /-- a required field is absent or empty -/
  | missing (subject : Subject) (field : String) (doc : Value)
  /-- the document does not belong to this family of resources -/
  | foreignGroup (group : String) (doc : Value)
  | wrongKind (expected : String) (doc : Value)
  /-- one of several fields is required -/
  | requirement (subject : Subject) (rule : String) (doc : Value)
  | chartScheme (doc : Value)
  | preservationMode (mode doc : Value)
  /-- a part of the document fails for a reason of its own -/
  | within (subject : Subject) (reason : String)
  | duplicateKustomization (template : String) (name : Value)
  | noSource (cluster : String)
  | override (selection kustomization value : Value)
  /-- a kustomization of a deployment cannot be written -/
  | kustomization (name reason : String)
  | unknownCluster (name : String) (known : List String)
  | unreadable (path reason : String)
  | notYaml (path reason : String)
  | notMapping (path : String)
  | templateFile (path reason : String)
  | clusterFile (path reason : String)
  | notDirectory (path : String)
  | duplicateTemplates (names : List String)
deriving Repr

/-- The wording of an input fault. -/
def InputFault.message : InputFault → String
  | .missing s field doc => s!"Invalid {s.text} missing {field}: {doc.text}"
  | .foreignGroup group doc => s!"Invalid object expected '{group}': {doc.text}"
  | .wrongKind expected doc => s!"Invalid object expected kind '{expected}': {doc.text}"
  | .requirement s rule doc => s!"Invalid {s.text} requires {rule}: {doc.text}"
  | .chartScheme doc => s!"Invalid HelmConfig oci must be oci://: {doc.text}"
  | .preservationMode mode doc => s!"Invalid preservation mode '{mode.text}': {doc.text}"
  | .within s reason => s!"Invalid {s.text}: {reason}"
  | .duplicateKustomization t n => s!"Invalid Template '{t}' has duplicate kustomization '{n.text}'"
  | .noSource c => s!"Invalid Cluster '{c}' requires either spec.git or spec.oci"
  | .override s k v => s!"Invalid TemplateConfig '{s.text}' override for '{k.text}': {v.text}"
  | .kustomization n reason => s!"Kustomization '{n}': {reason}"
  | .unknownCluster n known =>
    let names := ", ".intercalate known
    s!"Cluster '{n}' not found in project (found: {names})"
  | .unreadable p reason => s!"Failed to read file {p}: {reason}"
  | .notYaml p reason => s!"Invalid YAML in file {p}: {reason}"
  | .notMapping p => s!"Expected a mapping in file {p}"
  | .templateFile p reason => s!"Invalid template file {p}: {reason}"
  | .clusterFile p reason => s!"Invalid cluster file {p}: {reason}"
  | .notDirectory p => s!"Project path is not a directory: {p}"
  | .duplicateTemplates names => "Duplicate template names: " ++ ", ".intercalate names

/-- The values that an input fault is written with. -/
def InputFault.values : InputFault → List Value
  | .missing s _ doc | .requirement s _ doc => doc :: s.values
  | .foreignGroup _ doc | .wrongKind _ doc | .chartScheme doc => [doc]
  | .preservationMode mode doc => [mode, doc]
  | .within s _ => s.values
  | .duplicateKustomization _ n => [n]
  | .override s k v => [s, k, v]
  | _ => []

/-- Why a cluster cannot be generated or does not pass its checks. -/
inductive ConfigurationFault where
  | noTag (cluster : String)
  | problems (lines : List String)
deriving DecidableEq, Repr

/-- The wording of a configuration fault. -/
def ConfigurationFault.message : ConfigurationFault → String
  | .noTag c => s!"Cluster '{c}' uses the manual OCI tag strategy but no tag is set"
  | .problems lines => "\n".intercalate lines

/-- Why a result cannot be written. -/
inductive OutputFault where
  | format (name : String)
  | notRelative (path : String)
  | conflict (path : String)
  | unwritable (path reason : String)
deriving DecidableEq, Repr

/-- The wording of an output fault. -/
def OutputFault.message : OutputFault → String
  | .format f => s!"Unsupported output format '{f}'"
  | .notRelative p => s!"Additional file path must be relative: {p}"
  | .conflict p => s!"Additional file path conflicts with a generated file: {p}"
  | .unwritable p reason => s!"Failed to write {p}: {reason}"

/-- Why a scalar of a file has no value. -/
inductive ScalarFault where
  | calendar (fault : CalendarFault)
  | integer (base : Nat) (text : String)
  | digits (fault : DigitFault)
  | float (text : String)
  /-- a word that is no truth value -/
  | truth (word : String)
  /-- an escape beyond the last code point -/
  | codePoint
  /-- an escape that is no machine number -/
  | codeSize
  /-- a digit of base sixty that stands too far left -/
  | sixtieths
deriving DecidableEq, Repr

/-- Why bytes are not a text. -/
structure EncodingFault where
  /-- the first byte that does not fit -/
  byte : UInt8
  start : Nat
  /-- the position behind the last byte that does not fit -/
  stop : Nat
  reason : String
deriving DecidableEq, Repr

/-- The wording of an encoding fault. -/
def EncodingFault.message (f : EncodingFault) : String :=
  if f.start + 1 = f.stop then
    s!"'utf-8' codec can't decode byte 0x{Text.hex 2 f.byte.toNat} in position {f.start}: " ++
      f.reason
  else
    s!"'utf-8' codec can't decode bytes in position {f.start}-{f.stop - 1}: {f.reason}"

/-- The kinds of failure that a plugin can raise. -/
inductive RaisedKind where
  | general
  | input
  | configuration
  | output
  | value
  | key
  | runtime
deriving DecidableEq, Repr

/-- Why something failed. -/
inductive Error where
  | input (fault : InputFault)
  | configuration (fault : ConfigurationFault)
  | graph (problems : List GraphProblem)
  | cycles (cycles : List Cycle)
  | enablement (conflicts : List DisabledDependency)
  /-- a provider of substitution values failed -/
  | resolution (provider : Value) (reason : String)
  /-- a hook failed -/
  | hook (event : Value) (reason : String)
  | output (fault : OutputFault)
  | reference (value : Value) (fault : ReferenceFault)
  /-- a required field of a settings record is absent -/
  | missingField (record field : String)
  /-- a field of a settings record cannot be read -/
  | invalidField (record field type shown : String)
  /-- a settings record that is no mapping -/
  | notRecord (record : String)
  | providerTaken (type : Value)
  | extensionTaken (key : String)
  | extensionKind (key kind expected : String)
  /-- a value that is used as something it is not -/
  | noAttribute (kind member : String)
  | notIterable (kind : String)
  | notKeyable (kind : String)
  | notComparable (left right : String)
  | wrongArgument (reason : String)
  | outOfRange (assigning : Bool)
  /-- the pairs of a mapping: item number, length of the item if it has one -/
  | notPair (index : Nat) (length : Option Nat)
  | json (fault : Json.Fault)
  /-- a whole number that cannot be written -/
  | digits (fault : DigitFault)
  /-- a field of a settings record that cannot be read, with a value that cannot be written -/
  | hiddenField
  /-- a value that is nested too deep -/
  | depth
  /-- the home directory of an unknown person -/
  | noHome
  /-- the name of a file that has no bytes -/
  | surrogate (fault : Text.SurrogateFault)
  | scalar (fault : ScalarFault)
  | encoding (fault : EncodingFault)
  /-- a path that holds the null character -/
  | nullCharacter
  /-- raised by a plugin -/
  | raised (kind : RaisedKind) (arguments : List Value)
deriving Repr

namespace Error

/-- The wording of an error. -/
def message : Error → String
  | .input f => f.message
  | .configuration f => f.message
  | .graph ps => bulleted "Dependency validation failed:" (ps.map (·.message))
  | .cycles cs => bulleted "Dependency cycles detected:" (cs.map (·.message))
  | .enablement ds => "\n".intercalate (ds.map (·.message))
  | .resolution p reason => s!"Failed to resolve '{p.text}' substitutions: {reason}"
  | .hook e reason => s!"Hook for event '{e.text}' failed: {reason}"
  | .output f => f.message
  | .reference _ f => f.message
  | .missingField record field =>
    s!"Field \"{field}\" of type str is missing in {record} instance"
  | .invalidField record field type shown =>
    s!"Field \"{field}\" of type {type} in {record} has invalid value {shown}"
  | .notRecord record =>
    s!"Argument for kustodian.manifest.{record}.__mashumaro_from_dict__ method " ++
      "should be a dict instance"
  | .providerTaken t => s!"Substitution provider for '{t.text}' already registered"
  | .extensionTaken k => Text.quoted s!"Extension '{k}' is already set"
  | .extensionKind k kind expected => s!"Extension '{k}' has type {kind}, expected {expected}"
  | .noAttribute kind member => s!"'{kind}' object has no attribute '{member}'"
  | .notIterable kind => s!"'{kind}' object is not iterable"
  | .notKeyable kind => s!"unhashable type: '{kind}'"
  | .notComparable l r => s!"'<' not supported between instances of '{l}' and '{r}'"
  | .wrongArgument reason => reason
  | .outOfRange assigning => if assigning then "list assignment index out of range"
    else "list index out of range"
  | .notPair i (some n) =>
    s!"dictionary update sequence element #{i} has length {n}; 2 is required"
  | .notPair i none => s!"cannot convert dictionary update sequence element #{i} to a sequence"
  | .json f => f.message
  | .digits f => f.message
  | .hiddenField => DigitFault.writing.message
  | .depth => "maximum recursion depth exceeded"
  | .noHome => "Could not determine home directory."
  | .surrogate f =>
    (if f.count = 1 then
      s!"'utf-8' codec can't encode character '\\u{Text.hex 4 f.half}' in position {f.position}: "
    else
      s!"'utf-8' codec can't encode characters in position {f.position}-" ++
        s!"{f.position + f.count - 1}: ") ++ "surrogates not allowed"
  | .scalar (.calendar f) => f.message
  | .scalar (.integer base t) =>
    let quoted := String.ofList ((Text.quoted t).toList.take 200)
    s!"invalid literal for int() with base {base}: {quoted}"
  | .scalar (.digits f) => f.message
  | .scalar .sixtieths => "int too large to convert to float"
  | .scalar (.float t) => s!"could not convert string to float: {Text.quoted t}"
  | .scalar (.truth w) => Text.quoted w
  | .scalar .codePoint => "chr() arg not in range(0x110000)"
  | .scalar .codeSize => "Python int too large to convert to C int"
  | .encoding f => f.message
  | .nullCharacter => "embedded null byte"
  | .raised .key [v] => v.literal
  | .raised _ args => Value.argumentsText args

/-- The error of an input fault, unless a value in its message cannot be written. -/
def ofInput (f : InputFault) : Error :=
  if f.values.all Value.isWritable then .input f else .digits .writing

/-- Whether the library reports the error as its own. -/
def isReported : Error → Bool
  | .input _ | .configuration _ | .graph _ | .cycles _ | .enablement _ | .resolution _ _
  | .hook _ _ | .output _ => true
  | .raised .general _ | .raised .input _ | .raised .configuration _ | .raised .output _ => true
  | _ => false

end Error

end FluxFleet
