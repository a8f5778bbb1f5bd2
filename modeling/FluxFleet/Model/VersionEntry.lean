import FluxFleet.Model.Source

/-!
# Version entries

A template may declare versions that all its kustomizations share. A version entry names the
variable, its default, and the one place where newer versions are looked up.
-/

namespace FluxFleet

/-- The place where a version is looked up. -/
inductive VersionSource where
  | image (source : ImageSource)
  | chart (source : ChartSource)
deriving Repr

/-- A version variable of a template. -/
structure VersionEntry where
  name : Value
  /-- the version used when the cluster sets none -/
  fallback : Option String
  constraint : Value
  tagPattern : Value
  excludePrerelease : Value
  source : VersionSource
deriving Repr

namespace VersionEntry

/-- Read a version entry from a document. -/
def ofDocument (doc : Value) : Except Error VersionEntry := do
  let name ← doc.field "name"
  if !name.truthy then throw (.ofInput (.missing { kind := "version entry" } "name" doc))
  let registry ← doc.field "registry"
  let helm ← doc.field "helm"
  if registry.isNull == helm.isNull then
    throw (.ofInput (.requirement { kind := "version entry", name := some name }
      "exactly one of registry or helm" doc))
  let fallback ← doc.optionalText "default"
  let constraint ← doc.field "constraint"
  let tagPattern ← doc.field "tag_pattern"
  let excludePrerelease ← doc.field "exclude_prerelease"
  let source ←
    if registry.isNull then VersionSource.chart <$> ChartSource.ofDocument helm
    else VersionSource.image <$> ImageSource.ofDocument registry
  return { name, fallback, constraint, tagPattern, excludePrerelease, source }

/-- The document of a version entry. -/
def document (v : VersionEntry) : Value :=
  .record ([("name", v.name)] ++ Value.optionalString "default" v.fallback ++
    Value.optional "constraint" v.constraint ++ Value.optional "tag_pattern" v.tagPattern ++
    Value.optional "exclude_prerelease" v.excludePrerelease ++
    (match v.source with
      | .image s => [("registry", s.document)]
      | .chart s => [("helm", s.document)]))

end VersionEntry

end FluxFleet
