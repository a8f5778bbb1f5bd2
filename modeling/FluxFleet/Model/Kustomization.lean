import FluxFleet.Model.Outline
import FluxFleet.Model.Preservation
import FluxFleet.Model.Substitution

/-!
# Kustomizations: the units of deployment

A kustomization of a template becomes one resource of the cluster. It says where its manifests
are, which variables are put into them, what has to be ready before it, and how its health is
checked. Its identity is `<template>-<name>`.

Settings that the library hands on without reading them (`timeout`, `prune`, …) are kept as they
were written.
-/

namespace FluxFleet

/-- The namespace that the resources of a kustomization go to. -/
structure NamespaceTarget where
  name : Value
  /-- whether the namespace is generated along with the kustomization -/
  create : Value
deriving Repr

/-- A resource whose readiness is waited for. -/
structure HealthCheck where
  kind : Value
  name : Value
  ns : Value
  apiVersion : Value
deriving Repr

/-- A health check by expressions over a kind of resource. -/
structure HealthExpression where
  apiVersion : Value
  kind : Value
  ns : Value
  /-- when the resource is healthy -/
  current : Value
  /-- when the resource has failed -/
  failed : Value
deriving Repr

/-- A kustomization of a template. -/
structure Kustomization where
  name : Value
  /-- the directory of the manifests, relative to the template -/
  path : Value
  target : Option NamespaceTarget
  substitutions : List Substitution
  dependsOn : List Dependency
  healthChecks : List HealthCheck
  healthExpressions : List HealthExpression
  prune : Value
  wait : Value
  timeout : Value
  retryInterval : Value
  /-- whether the kustomization is deployed when the cluster does not say -/
  enabled : Value
  preservation : Option Preservation
deriving Repr

/-- The identity of a kustomization among all templates. -/
def identityOf (template : String) (name : Value) : String := joined template name.text

namespace Kustomization

/-- The identity of a kustomization of a template. -/
def identity (ks : Kustomization) (template : String) : String := identityOf template ks.name

/-- The subject of a fault of a kustomization. -/
def subject (name : Value) (part : String := "") : Subject :=
  { kind := "Kustomization", name := some name, part }

/-- Read the namespace of a kustomization. -/
def targetOfDocument (name doc : Value) : Except Error (Option NamespaceTarget) := do
  let ns ← doc.field "namespace"
  if ns.isNull then return none
  let target ← if ns.isDict then ns.field "default" else pure Value.null
  if !target.truthy then throw (.ofInput (.missing (subject name "namespace") "default" doc))
  return some { name := target, create := ← ns.fieldOr "create" (.bool true) }

/-- Read one declared dependency: a mapping is checked at once, anything else when it is used. -/
def dependencyOfDocument (name dep : Value) : Except Error Dependency :=
  match dep.entries? with
  | some entries =>
    match Reference.ofRaw dep entries with
    | .ok resource => return .parsed (.external resource)
    | .error fault =>
      if dep.isWritable then throw (.ofInput (.within (subject name) fault.message))
      else throw (.digits .writing)
  | none => return .written (← dep.written)

/-- Read one health check. -/
def healthCheckOfDocument (name check : Value) : Except Error HealthCheck := do
  let kind ← check.field "kind"
  let checked ← check.field "name"
  if !kind.truthy || !checked.truthy then
    throw (.ofInput (.missing (subject name "health check") "kind or name" check))
  return { kind, name := checked, ns := ← check.field "namespace",
           apiVersion := ← check.field "api_version" }

/-- Read one health expression. -/
def healthExpressionOfDocument (name expr : Value) : Except Error HealthExpression := do
  let apiVersion ← expr.field "api_version"
  let kind ← expr.field "kind"
  if !apiVersion.truthy || !kind.truthy then
    throw (.ofInput (.missing (subject name "health check expression") "api_version or kind" expr))
  return { apiVersion, kind, ns := ← expr.field "namespace", current := ← expr.field "current",
           failed := ← expr.field "failed" }

/-- Read a kustomization from a document. -/
def ofDocument (doc : Value) : Except Error Kustomization := do
  let name ← doc.field "name"
  if !name.truthy then throw (.ofInput (.missing { kind := "Kustomization" } "name" doc))
  let path ← doc.field "path"
  if !path.truthy then throw (.ofInput (.missing (subject name) "path" doc))
  let target ← targetOfDocument name doc
  let dependsOn ← (← (← doc.field "depends_on").eachGiven).mapM (dependencyOfDocument name)
  let healthChecks ← (← (← doc.field "health_checks").eachGiven).mapM (healthCheckOfDocument name)
  let healthExpressions ←
    (← (← doc.field "health_check_exprs").eachGiven).mapM (healthExpressionOfDocument name)
  let policy ← doc.field "preservation"
  let preservation ←
    if policy.isNull then pure none else some <$> Preservation.ofDocument policy
  let substitutions ← (← (← doc.field "substitutions").eachGiven).mapM Substitution.ofDocument
  return {
    name, path, target, substitutions, dependsOn, healthChecks, healthExpressions,
    prune := ← doc.fieldOr "prune" (.bool true)
    wait := ← doc.fieldOr "wait" (.bool true)
    timeout := ← doc.field "timeout"
    retryInterval := ← doc.field "retry_interval"
    enabled := ← doc.fieldOr "enabled" (.bool true)
    preservation }

/-- The document of a namespace target. -/
def targetDocument (t : NamespaceTarget) : Value :=
  .record [("default", t.name), ("create", t.create)]

/-- The outline of a declared dependency. -/
def dependencyOutline : Dependency → Outline
  | .parsed ref => .reference ref
  | .value v _ => .value v

/-- The document of a health check. -/
def healthCheckDocument (c : HealthCheck) : Value :=
  .record ([("kind", c.kind), ("name", c.name)] ++ Value.optional "namespace" c.ns ++
    Value.optional "api_version" c.apiVersion)

/-- The document of a health expression. -/
def healthExpressionDocument (e : HealthExpression) : Value :=
  .record ([("api_version", e.apiVersion), ("kind", e.kind)] ++ Value.optional "namespace" e.ns ++
    Value.optional "current" e.current ++ Value.optional "failed" e.failed)

/-- The outline of a kustomization; `nested` writes down its substitutions. -/
def outline (nested : Substitution → Value) (ks : Kustomization) : Except Error Outline := do
  let preservation ← match ks.preservation with
    | some p => do pure [("preservation", ← p.document)]
    | none => pure []
  let target := match ks.target with
    | some t => [("namespace", targetDocument t)]
    | none => []
  return .record (
    Outline.ofFields ([("name", ks.name), ("path", ks.path)] ++ target ++
      [("substitutions", .ofList (ks.substitutions.map nested))]) ++
    [("depends_on", .list (ks.dependsOn.map dependencyOutline))] ++
    Outline.ofFields ([("health_checks", .ofList (ks.healthChecks.map healthCheckDocument)),
      ("health_check_exprs", .ofList (ks.healthExpressions.map healthExpressionDocument)),
      ("prune", ks.prune), ("wait", ks.wait)] ++ Value.optional "timeout" ks.timeout ++
      Value.optional "retry_interval" ks.retryInterval ++ [("enabled", ks.enabled)] ++
      preservation))

end Kustomization

end FluxFleet
