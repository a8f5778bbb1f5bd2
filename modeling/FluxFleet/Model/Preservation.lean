import FluxFleet.Document

/-!
# Preservation: what outlives a disabled kustomization

When a kustomization is disabled, resources that hold state may be kept. The mode says which
kinds: none, the stateful ones, or a list of the policy's own.
-/

namespace FluxFleet

/-- Which kinds of resources are kept. -/
inductive PreservationMode where
  | none
  | stateful
  | custom
deriving DecidableEq, Repr, Inhabited

/-- The word for a mode. -/
def PreservationMode.word : PreservationMode → String
  | .none => "none"
  | .stateful => "stateful"
  | .custom => "custom"

/-- The name of a mode in a message. -/
def PreservationMode.constant : PreservationMode → String
  | .none => "NONE"
  | .stateful => "STATEFUL"
  | .custom => "CUSTOM"

/-- The mode of a word. -/
def PreservationMode.ofWord? : Value → Option PreservationMode
  | .str "none" => some .none
  | .str "stateful" => some .stateful
  | .str "custom" => some .custom
  | _ => Option.none

@[simp] theorem PreservationMode.ofWord?_word (m : PreservationMode) :
    PreservationMode.ofWord? (.str m.word) = some m := by cases m <;> rfl

/-- A preservation policy. -/
structure Preservation where
  mode : PreservationMode := .stateful
  /-- the kinds kept in the custom mode, absent if the policy lists none -/
  keepResources : Value := .null
deriving Repr, Inhabited

namespace Preservation

/-- Read a policy from a document; the mode is stateful unless it is given. -/
def ofDocument (doc : Value) : Except Error Preservation := do
  let mode ← doc.fieldOr "mode" "stateful"
  match PreservationMode.ofWord? mode with
  | some m => return { mode := m, keepResources := ← doc.field "keep_resources" }
  | Option.none => throw (.ofInput (.preservationMode mode doc))

/-- The kinds that hold state. -/
def statefulKinds : List Value := ["PersistentVolumeClaim", "Secret", "ConfigMap"]

/-- The kinds of resources that a policy keeps. -/
def kinds (p : Preservation) : Except Error (List Value) :=
  match p.mode with
  | .none => return []
  | .stateful => return statefulKinds
  | .custom => p.keepResources.eachGiven

/-- The document of a policy; kinds to keep that are no collection have none. -/
def document (p : Preservation) : Except Error Value :=
  match p.keepResources with
  | .null => return .record [("mode", p.mode.word)]
  | v =>
    match v.copy? with
    | some copy => return .record [("mode", p.mode.word), ("keep_resources", copy)]
    | Option.none => throw (.noAttribute v.qualifiedKind "copy")

end Preservation

end FluxFleet
