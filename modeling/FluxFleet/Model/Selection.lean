import FluxFleet.Model.Preservation

/-!
# Selections: the templates that a cluster deploys

A template is deployed only where a cluster selects it. A selection sets the values of variables,
and it may override single kustomizations: by a truth value that switches one on or off, or by an
adjustment that also replaces the preservation policy.
-/

namespace FluxFleet

/-- What a selection says about one kustomization. -/
inductive Override where
  | switch (on : Bool)
  /-- absent parts leave the template's own setting -/
  | adjust (enabled : Value) (preservation : Option Preservation)
deriving Repr

/-- A template that a cluster deploys. -/
structure Selection where
  /-- the name of the template -/
  name : Value
  /-- the values of variables -/
  values : OrderedMap Value String := .empty
  /-- by the name of the kustomization -/
  overrides : OrderedMap Value Override := .empty
deriving Repr

/-- A scalar as the text that is put in place of a variable. -/
def Value.variableText : Value → Except Error String
  | .bool b => return if b then "true" else "false"
  | v => v.written

namespace Override

/-- Read the override of a kustomization. -/
def ofDocument (selection kustomization doc : Value) : Except Error Override :=
  match doc with
  | .bool b => return .switch b
  | .dict _ _ => do
    let policy ← doc.field "preservation"
    let enabled ← doc.field "enabled"
    let preservation ← if policy.isNull then pure none else some <$> Preservation.ofDocument policy
    return .adjust enabled preservation
  | v => throw (.ofInput (.override selection kustomization v))

/-- An override as it is shown in a message. -/
def literal : Override → String
  | .switch on => (Value.bool on).literal
  | .adjust enabled preservation =>
    let policy := match preservation with
      | none => "None"
      | some p => s!"PreservationPolicy(mode=<PreservationMode.{p.mode.constant}: " ++
        s!"{Text.quoted p.mode.word}>, keep_resources={p.keepResources.literal})"
    s!"KustomizationOverride(enabled={enabled.literal}, preservation={policy})"

/-- The document of an override. -/
def document (o : Override) : Except Error Value :=
  match o with
  | .switch on => return .bool on
  | .adjust enabled none => return .record (Value.optional "enabled" enabled)
  | .adjust enabled (some p) =>
    match p.document with
    | .ok policy => return .record (Value.optional "enabled" enabled ++ [("preservation", policy)])
    | .error _ =>
      throw (.invalidField "TemplateConfig" "kustomizations" "Union[bool, KustomizationOverride]"
        o.literal)

end Override

namespace Selection

/-- Read a selection from a document. -/
def ofDocument (doc : Value) : Except Error Selection := do
  let name ← doc.field "name"
  if !name.truthy then throw (.ofInput (.missing { kind := "TemplateConfig" } "name" doc))
  let overrides ← (← (← doc.field "kustomizations").entriesGiven).mapM fun (k, v) => do
    return (k, ← Override.ofDocument name k v)
  let values ← (← (← doc.field "values").entriesGiven).mapM fun (k, v) => do
    return (k, ← v.variableText)
  return { name, values := ⟨values⟩, overrides := ⟨overrides⟩ }

/-- The document of a selection. -/
def document (s : Selection) : Except Error Value := do
  let overrides ← s.overrides.entries.mapM fun (k, o) => do return (k, ← o.document)
  return .record [("name", s.name),
    ("values", .ofEntries (s.values.entries.map fun (k, v) => (k, .str v))),
    ("kustomizations", .ofEntries overrides)]

end Selection

end FluxFleet
