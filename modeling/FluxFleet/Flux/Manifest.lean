import FluxFleet.Flux.Patch
import FluxFleet.Flux.Resource
import FluxFleet.Resolution

/-!
# Manifests of kustomizations

Each deployed kustomization becomes one resource of the deployment system. A kustomization that is
disabled but preserved becomes a manifest too: it is never pruned and carries a patch for each kind
of resource that is kept.
-/

namespace FluxFleet

/-- What has to be ready before a manifest is applied. -/
structure Requirement where
  name : Value
  /-- absent for a kustomization of the same system namespace -/
  ns : Value := .null
deriving Repr

/-- A manifest of a kustomization. -/
structure Manifest where
  name : String
  systemNamespace : Value
  interval : Value
  targetNamespace : Value
  path : String
  prune : Value
  wait : Value
  sourceKind : SourceKind
  sourceName : Value
  timeout : Value
  retryInterval : Value
  dependsOn : List Requirement
  values : OrderedMap Value Value
  healthChecks : List HealthCheck
  healthExpressions : List HealthExpression
  patches : List Patch
deriving Repr

namespace Manifest

/-- The path of the manifests of a kustomization in the source. -/
def sourcePath (r : Resolved) (basePath : Value) : Except Error String :=
  match r.kustomization.path with
  | .str path =>
    let directory := (ArtifactRepository.nonEmpty? r.template.sourcePath).getD r.template.name
    let cs := path.toList
    let rest := if "./".toList.isPrefixOf cs then String.ofList (cs.drop 2) else path
    return s!"{basePath.text}/{directory}/{rest}"
  | .bytes _ => throw (.wrongArgument "a bytes-like object is required, not 'str'")
  | v => throw (.noAttribute v.qualifiedKind "removeprefix")

/-- The requirement that a declared dependency stands for. -/
def requirement (r : Resolved) (d : Dependency) : Except Error Requirement :=
  match d.reference with
  | .error fault => throw (.input (.kustomization r.name fault.message))
  | .ok (.external resource) => return { name := resource.name, ns := resource.ns }
  | .ok (.within name) => return { name := .str (joined r.template.name name) }
  | .ok (.across template name) => return { name := .str (joined template name) }

/-- A health check with its defaults: workloads, in the target namespace. -/
def completed (target : Value) (c : HealthCheck) : HealthCheck :=
  { c with apiVersion := c.apiVersion.orElse "apps/v1", ns := c.ns.orElse target }

/-- A health expression with its default, the target namespace. -/
def completedExpression (target : Value) (e : HealthExpression) : HealthExpression :=
  { e with ns := e.ns.orElse target }

/-- The manifest of a resolved kustomization; `kept` are the kinds to be labelled. -/
def ofResolved (r : Resolved) (s : Settings) (kept : List Value) (preserved : Bool) :
    Except Error Manifest := do
  let ks := r.kustomization
  discard ks.name.written
  let dependsOn ← ks.dependsOn.mapM (requirement r)
  for kind in kept do
    discard kind.written
  return {
    name := r.name
    systemNamespace := s.systemNamespace
    interval := s.interval
    targetNamespace := r.targetNamespace
    path := ← sourcePath r s.basePath
    prune := if ks.prune.truthy then .bool (!preserved) else ks.prune
    wait := ks.wait
    sourceKind := s.sourceKind
    sourceName := s.sourceName
    timeout := ks.timeout.orElse s.timeout
    retryInterval := ks.retryInterval
    dependsOn
    values := r.values
    healthChecks := ks.healthChecks.map (completed r.targetNamespace)
    healthExpressions := ks.healthExpressions.map (completedExpression r.targetNamespace)
    patches := kept.map Patch.preserving }

/-- A list field that is left out when it is empty. -/
def listField {α : Type} (key : String) (write : α → Value) (items : List α) :
    List (String × Value) :=
  if items.isEmpty then [] else [(key, .ofList (items.map write))]

/-- The document of a requirement. -/
def requirementDocument (r : Requirement) : Value :=
  metadata r.name r.ns

/-- The document of a health check. -/
def healthCheckDocument (c : HealthCheck) : Value :=
  .record [("apiVersion", c.apiVersion), ("kind", c.kind), ("name", c.name), ("namespace", c.ns)]

/-- The document of a health expression. -/
def healthExpressionDocument (e : HealthExpression) : Value :=
  .record ([("apiVersion", e.apiVersion), ("kind", e.kind)] ++ Value.optional "namespace" e.ns ++
    Value.optional "current" e.current ++ Value.optional "failed" e.failed)

/-- The specification of a manifest. -/
def spec (m : Manifest) : Value :=
  .record ([("interval", m.interval)] ++ Value.optional "targetNamespace" m.targetNamespace ++
    [("path", .str m.path), ("prune", m.prune), ("wait", m.wait),
      ("sourceRef", .record [("kind", .str m.sourceKind.resource), ("name", m.sourceName)])] ++
    Value.optional "timeout" m.timeout ++ Value.optional "retryInterval" m.retryInterval ++
    listField "dependsOn" requirementDocument m.dependsOn ++
    (if m.values.isEmpty then []
      else [("postBuild", .record [("substitute", .ofEntries m.values.entries)])]) ++
    listField "healthChecks" healthCheckDocument m.healthChecks ++
    listField "customHealthChecks" healthExpressionDocument m.healthExpressions ++
    listField "patches" Patch.document m.patches)

/-- The document of a manifest. -/
def document (m : Manifest) : Value :=
  .record [("apiVersion", "kustomize.toolkit.fluxcd.io/v1"), ("kind", "Kustomization"),
    ("metadata", metadata (.str m.name) m.systemNamespace), ("spec", m.spec)]

end Manifest

end FluxFleet
