import FluxFleet.Model.Selection
import FluxFleet.Model.Template
import FluxFleet.Text.Digit

/-!
# Clusters: where templates are deployed

A cluster is tracked in a git repository or pulled from a registry of artifacts. It selects the
templates to deploy, and it may set defaults, tune the controllers and configure plugins.

The settings records of a cluster are read leniently: a text field takes the text of any value, a
truth value follows from whether something counts as given, a whole number is read from a text or
cut from a fraction, and unknown fields are ignored. A record that is no mapping, or lacks a
required field, is refused.
-/

namespace FluxFleet

/-- The git repository that a cluster is tracked in. -/
structure GitSource where
  owner : String
  repository : String
  branch : String := "main"
  path : Option String := none
deriving Repr

/-- The registry that the generated artifact is pulled from. -/
structure ArtifactSource where
  registry : String
  repository : String
  /-- one of `cluster`, `git-sha`, `version` and `manual` -/
  tagStrategy : String := "git-sha"
  tag : Option String := none
  secretRef : Option String := none
  provider : String := "generic"
  insecure : Bool := false
deriving Repr

/-- The tuning of a controller; an absent setting is left alone. -/
structure Tuning where
  /-- how many objects are worked on at once -/
  concurrent : Option Int := none
  /-- how long to wait for a dependency -/
  requeueDependency : Option String := none
deriving Repr, DecidableEq

/-- The tuning shared by all controllers, and the tuning of each one. -/
structure ControllerTuning where
  shared : Tuning := {}
  kustomize : Option Tuning := none
  helm : Option Tuning := none
  source : Option Tuning := none
deriving Repr

/-- The settings of the deployment system of a cluster. -/
structure SystemSettings where
  controllers : Option ControllerTuning := none
deriving Repr

/-- What a cluster sets in place of the defaults of the generator. -/
structure ClusterDefaults where
  systemNamespace : Option String := none
  sourceName : Option String := none
  sourceSecret : Option String := none
  interval : Option String := none
  timeout : Option String := none
deriving Repr

/-- The configuration that a cluster hands to a plugin. -/
structure PluginSettings where
  name : String
  config : List (Value × Value) := []
deriving Repr

/-- A place where templates are deployed. -/
structure Cluster where
  name : String
  git : Option GitSource := none
  oci : Option ArtifactSource := none
  selections : List Selection := []
  system : Option SystemSettings := none
  defaults : Option ClusterDefaults := none
  plugins : List PluginSettings := []
deriving Repr

/-! ## Settings records -/

namespace Value

/-- The entries of a settings record. -/
def settings (v : Value) (record : String) : Except Error (List (Value × Value)) :=
  match v.entries? with
  | some entries => return entries
  | none => throw (.notRecord record)

/-- The entry of a text key. -/
def lookup? (entries : List (Value × Value)) (key : String) : Option Value :=
  OrderedMap.find? (.str key) entries

/-- The text of a setting. -/
def settingText (v : Value) : Except Error String := v.written.mapError fun _ => .hiddenField

/-- A required text. -/
def requiredSetting (entries : List (Value × Value)) (record key : String) : Except Error String :=
  match lookup? entries key with
  | some v => v.settingText
  | none => throw (.missingField record key)

/-- A text with a default. -/
def textSetting (entries : List (Value × Value)) (key other : String) : Except Error String :=
  match lookup? entries key with
  | some v => v.settingText
  | none => return other

/-- An optional text. -/
def optionalSetting (entries : List (Value × Value)) (key : String) :
    Except Error (Option String) :=
  match (lookup? entries key).bind given? with
  | some v => some <$> v.settingText
  | none => return none

/-- The error of a field that cannot be read. -/
def invalidField (record field type : String) (v : Value) : Error :=
  if v.isWritable then .invalidField record field type v.literal else .hiddenField

/-- The whole number that a value stands for, if it does. -/
def wholeNumber? : Value → Option Int
  | .bool b => some (if b then 1 else 0)
  | .int i => some i
  | .float x => x.truncate?
  | .str s => Text.readInt? s.toList
  | .bytes bs => Text.readPlainInt? (bs.map fun b => Char.ofNat b.toNat)
  | _ => none

end Value

namespace GitSource

/-- Read a git repository from a settings record. -/
def ofSettings (doc : Value) : Except Error GitSource := do
  let entries ← doc.settings "GitConfig"
  return {
    owner := ← Value.requiredSetting entries "GitConfig" "owner"
    repository := ← Value.requiredSetting entries "GitConfig" "repository"
    branch := ← Value.textSetting entries "branch" "main"
    path := ← Value.optionalSetting entries "path" }

/-- The document of a git repository. -/
def document (g : GitSource) : Value :=
  .record ([("owner", .str g.owner), ("repository", .str g.repository),
    ("branch", .str g.branch)] ++ Value.optionalString "path" g.path)

end GitSource

namespace ArtifactSource

/-- Read a registry of artifacts from a settings record. -/
def ofSettings (doc : Value) : Except Error ArtifactSource := do
  let entries ← doc.settings "OciConfig"
  return {
    registry := ← Value.requiredSetting entries "OciConfig" "registry"
    repository := ← Value.requiredSetting entries "OciConfig" "repository"
    tagStrategy := ← Value.textSetting entries "tag_strategy" "git-sha"
    tag := ← Value.optionalSetting entries "tag"
    secretRef := ← Value.optionalSetting entries "secret_ref"
    provider := ← Value.textSetting entries "provider" "generic"
    insecure := ((Value.lookup? entries "insecure").map Value.truthy).getD false }

/-- The document of a registry of artifacts. -/
def document (a : ArtifactSource) : Value :=
  .record ([("registry", .str a.registry), ("repository", .str a.repository),
    ("tag_strategy", .str a.tagStrategy)] ++ Value.optionalString "tag" a.tag ++
    Value.optionalString "secret_ref" a.secretRef ++
    [("provider", .str a.provider), ("insecure", .bool a.insecure)])

end ArtifactSource

namespace Tuning

/-- Read the tuning of a controller; `none` if it is no record of tunings. -/
def ofSettings? (doc : Value) : Option Tuning :=
  match doc.entries? with
  | some entries => do
    let requeueDependency ← (Value.optionalSetting entries "requeue_dependency").toOption
    match (Value.lookup? entries "concurrent").bind Value.given? with
    | none => some { requeueDependency }
    | some v => v.wholeNumber?.map fun n => { concurrent := some n, requeueDependency }
  | none => none

/-- The fields of a tuning. -/
def fields (t : Tuning) : List (String × Value) :=
  (match t.concurrent with | some n => [("concurrent", .int n)] | none => []) ++
    Value.optionalString "requeue_dependency" t.requeueDependency

end Tuning

namespace ControllerTuning

/-- Read the tuning of one controller: the outer `none` refuses, the inner one is no tuning. -/
def single? (entries : List (Value × Value)) (key : String) : Option (Option Tuning) :=
  match (Value.lookup? entries key).bind Value.given? with
  | none => some none
  | some v => (Tuning.ofSettings? v).map some

/-- Read the tuning of all controllers; `none` if it is no record of tunings. -/
def ofSettings? (doc : Value) : Option ControllerTuning :=
  match doc.entries? with
  | some entries => do
    return {
      shared := ← Tuning.ofSettings? doc
      kustomize := ← single? entries "kustomize_controller"
      helm := ← single? entries "helm_controller"
      source := ← single? entries "source_controller" }
  | none => none

/-- The field of the tuning of one controller. -/
def singleField (key : String) (t : Option Tuning) : List (String × Value) :=
  match t with
  | some t => [(key, .record t.fields)]
  | none => []

/-- The document of the tuning of all controllers. -/
def document (t : ControllerTuning) : Value :=
  .record (t.shared.fields ++ singleField "kustomize_controller" t.kustomize ++
    singleField "helm_controller" t.helm ++ singleField "source_controller" t.source)

end ControllerTuning

namespace SystemSettings

/-- Read the settings of the deployment system from a settings record. -/
def ofSettings (doc : Value) : Except Error SystemSettings := do
  let entries ← doc.settings "FluxConfig"
  match (Value.lookup? entries "controllers").bind Value.given? with
  | none => return {}
  | some v =>
    match ControllerTuning.ofSettings? v with
    | some t => return { controllers := some t }
    | none =>
      throw (v.invalidField "FluxConfig" "controllers" "Optional[FluxControllersConfig]")

/-- The document of the settings of the deployment system. -/
def document (s : SystemSettings) : Value :=
  .record (match s.controllers with | some t => [("controllers", t.document)] | none => [])

end SystemSettings

namespace ClusterDefaults

/-- Read the defaults of a cluster from a settings record. -/
def ofSettings (doc : Value) : Except Error ClusterDefaults := do
  let entries ← doc.settings "ClusterDefaults"
  return {
    systemNamespace := ← Value.optionalSetting entries "flux_namespace"
    sourceName := ← Value.optionalSetting entries "oci_repository_name"
    sourceSecret := ← Value.optionalSetting entries "oci_registry_secret_name"
    interval := ← Value.optionalSetting entries "flux_reconciliation_interval"
    timeout := ← Value.optionalSetting entries "flux_reconciliation_timeout" }

/-- The document of the defaults of a cluster. -/
def document (d : ClusterDefaults) : Value :=
  .record (Value.optionalString "flux_namespace" d.systemNamespace ++
    Value.optionalString "oci_repository_name" d.sourceName ++
    Value.optionalString "oci_registry_secret_name" d.sourceSecret ++
    Value.optionalString "flux_reconciliation_interval" d.interval ++
    Value.optionalString "flux_reconciliation_timeout" d.timeout)

end ClusterDefaults

namespace PluginSettings

/-- Read the configuration of a plugin from a settings record. -/
def ofSettings (doc : Value) : Except Error PluginSettings := do
  let entries ← doc.settings "PluginConfig"
  let name ← Value.requiredSetting entries "PluginConfig" "name"
  match Value.lookup? entries "config" with
  | none => return { name }
  | some v =>
    match v.entries? with
    | some config => do
      let config ← config.mapM fun e => do return (Value.str (← e.1.settingText), e.2)
      return { name, config := (OrderedMap.ofList config).entries }
    | none => throw (v.invalidField "PluginConfig" "config" "dict[str, Any]")

/-- The document of the configuration of a plugin. -/
def document (p : PluginSettings) : Value :=
  .record [("name", .str p.name), ("config", .ofEntries p.config)]

end PluginSettings

namespace Cluster

/-- The selection of a template, if the cluster deploys it. -/
def selection? (c : Cluster) (template : Value) : Option Selection :=
  c.selections.find? fun s => s.name == template

/-- The configuration of a plugin, if the cluster has one. -/
def pluginConfig? (c : Cluster) (plugin : Value) : Option (List (Value × Value)) :=
  (c.plugins.find? fun p => Value.str p.name == plugin).map (·.config)

/-- Name the cluster in an error of a settings record; other errors pass. -/
def blame {α : Type} (name : String) (read : Except Error α) : Except Error α :=
  match read with
  | .error e =>
    match e with
    | .invalidField .. | .notRecord _ | .notIterable _ | .notKeyable _ | .wrongArgument _
    | .digits _ =>
      throw (.ofInput (.within { kind := "Cluster", name := some (.str name) } e.message))
    | e => throw e
  | .ok a => return a

/-- Read an optional settings record that is given unless it is absent. -/
def givenSettings {α : Type} (doc : Value) (given : Bool) (read : Value → Except Error α) :
    Except Error (Option α) :=
  if given then some <$> read doc else return none

/-- Read a cluster from a resource document. -/
def ofDocument (doc : Value) : Except Error Cluster := do
  checkKind doc "Cluster"
  let name ← resourceName "Cluster" doc
  let spec ← resourceSpec "Cluster" doc
  let git ← spec.field "git"
  let oci ← spec.field "oci"
  if git.isNull && oci.isNull then throw (.ofInput (.noSource name))
  blame name do
    let git ← givenSettings git (!git.isNull) GitSource.ofSettings
    let oci ← givenSettings oci (!oci.isNull) ArtifactSource.ofSettings
    let selections ← (← (← spec.field "templates").eachGiven).mapM Selection.ofDocument
    let system ← spec.field "flux"
    let system ← givenSettings system system.truthy SystemSettings.ofSettings
    let defaults ← spec.field "defaults"
    let defaults ← givenSettings defaults defaults.truthy ClusterDefaults.ofSettings
    let plugins ← (← (← spec.field "plugins").eachGiven).mapM PluginSettings.ofSettings
    return { name, git, oci, selections, system, defaults, plugins }

/-- The document of a cluster. -/
def document (c : Cluster) : Except Error Value := do
  let selections ← c.selections.mapM Selection.document
  let given {α : Type} (key : String) (write : α → Value) (a : Option α) : List (String × Value) :=
    match a with
    | some a => [(key, write a)]
    | none => []
  return .record ([("name", .str c.name)] ++ given "git" GitSource.document c.git ++
    given "oci" ArtifactSource.document c.oci ++ [("templates", .ofList selections)] ++
    given "flux" SystemSettings.document c.system ++
    given "defaults" ClusterDefaults.document c.defaults ++
    [("plugins", .ofList (c.plugins.map PluginSettings.document))])

end Cluster

end FluxFleet
