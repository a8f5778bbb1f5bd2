import FluxFleet.Model.Source

/-!
# Substitutions: the variables of a kustomization

A kustomization declares the variables that are put into its manifests. The `type` of a
declaration says where the value comes from. The core types are resolved by the library itself;
values of every other type come from a provider registered for that type (`isCore`).
-/

namespace FluxFleet

/-- Where the value of a variable comes from, with the settings of that source. -/
inductive SubstitutionKind where
  | generic (secret preserveCase : Value)
  | version (image : Option ImageSource) (constraint tagPattern excludePrerelease : Value)
  | helm (chart : Option ChartSource) (constraint tagPattern excludePrerelease : Value)
  /-- the name of a namespace -/
  | namespaceName
  | onePassword (ref item field «section» : Value)
  | doppler (secret project config : Value)
  /-- a type contributed by a plugin, with the fields that only the plugin knows -/
  | plugin (type : Value) (options : List (Value × Value))
deriving Repr

/-- A declared variable. -/
structure Substitution where
  name : Value
  /-- the value used when nothing of higher precedence sets one -/
  fallback : Option String
  kind : SubstitutionKind
deriving Repr

namespace Substitution

/-- The type of a declaration, by which its provider is found. -/
def type (s : Substitution) : Value :=
  match s.kind with
  | .generic _ _ => "generic"
  | .version _ _ _ _ => "version"
  | .helm _ _ _ _ => "helm"
  | .namespaceName => "namespace"
  | .onePassword _ _ _ _ => "1password"
  | .doppler _ _ _ => "doppler"
  | .plugin type _ => type

/-- The types that need no provider. -/
def coreTypes : List Value := ["generic", "version", "helm", "namespace"]

/-- Whether a type needs no provider. -/
def isCoreType (type : Value) : Bool := coreTypes.any (type == ·)

/-- Whether a declaration needs no provider. -/
def isCore (s : Substitution) : Bool := isCoreType s.type

/-- The fields that every declaration has. -/
def commonFields : List Value := ["type", "name", "default"]

/-- The value of a field that is read only when it counts as given. -/
def givenSource {α : Type} (doc : Value) (key : String) (read : Value → Except Error α) :
    Except Error (Option α) := do
  let v ← doc.field key
  if v.truthy then some <$> read v else return none

/-- Read the settings of a declaration of the type `type`. -/
def kindOfDocument (type name doc : Value) : Except Error SubstitutionKind := do
  match type with
  | .str "generic" => return .generic (← doc.field "secret") (← doc.field "preserve_case")
  | .str "version" =>
    let image ← givenSource doc "registry" ImageSource.ofDocument
    return .version image (← doc.field "constraint") (← doc.field "tag_pattern")
      (← doc.field "exclude_prerelease")
  | .str "helm" =>
    let chart ← givenSource doc "helm" ChartSource.ofDocument
    return .helm chart (← doc.field "constraint") (← doc.field "tag_pattern")
      (← doc.field "exclude_prerelease")
  | .str "namespace" => return .namespaceName
  | .str "1password" =>
    let ref ← doc.field "ref"
    let item ← doc.field "item"
    let field ← doc.field "field"
    if ref.isNull && (item.isNull || field.isNull) then
      throw (.ofInput (.requirement { kind := "1password substitution", name := some name }
        "ref or item and field" doc))
    return .onePassword ref item field (← doc.field "section")
  | .str "doppler" =>
    let secret ← doc.field "secret"
    if !secret.truthy then
      throw (.ofInput (.missing { kind := "doppler substitution", name := some name } "secret" doc))
    return .doppler secret (← doc.field "project") (← doc.field "config")
  | type =>
    let entries := doc.entries?.getD []
    return .plugin type (entries.filter fun e => !commonFields.any (e.1 == ·))

/-- Read a declaration from a document. Without a type it is generic. -/
def ofDocument (doc : Value) : Except Error Substitution := do
  let name ← doc.field "name"
  if !name.truthy then throw (.ofInput (.missing { kind := "substitution" } "name" doc))
  let type := (← doc.field "type").orElse "generic"
  let fallback ← doc.optionalText "default"
  return { name, fallback, kind := ← kindOfDocument type name doc }

/-- The name and default of a declaration, without the settings of its type. -/
def summary (s : Substitution) : Value :=
  .record ([("name", s.name)] ++ Value.optionalString "default" s.fallback)

/-- The fields of the settings. -/
def kindFields : SubstitutionKind → List (String × Value)
  | .generic secret preserveCase =>
    Value.optional "secret" secret ++ Value.optional "preserve_case" preserveCase
  | .version image constraint tagPattern excludePrerelease =>
    (match image with | some i => [("registry", i.document)] | none => []) ++
      Value.optional "constraint" constraint ++ Value.optional "tag_pattern" tagPattern ++
      Value.optional "exclude_prerelease" excludePrerelease
  | .helm chart constraint tagPattern excludePrerelease =>
    (match chart with | some c => [("helm", c.document)] | none => []) ++
      Value.optional "constraint" constraint ++ Value.optional "tag_pattern" tagPattern ++
      Value.optional "exclude_prerelease" excludePrerelease
  | .namespaceName => []
  | .onePassword ref item field sect =>
    Value.optional "ref" ref ++ Value.optional "item" item ++ Value.optional "field" field ++
      Value.optional "section" sect
  | .doppler secret project config =>
    [("secret", secret)] ++ Value.optional "project" project ++ Value.optional "config" config
  | .plugin type options => [("plugin_type", type), ("options", .ofEntries options)]

/-- The document of a declaration. -/
def document (s : Substitution) : Value :=
  .record ([("name", s.name)] ++ Value.optionalString "default" s.fallback ++ kindFields s.kind)

end Substitution

end FluxFleet
