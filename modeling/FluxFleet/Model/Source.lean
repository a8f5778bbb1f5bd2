import FluxFleet.Document

/-!
# Where versions come from

A version is looked up in a container registry (`ImageSource`) or in a chart repository
(`ChartSource`). A chart repository is given by its address or as an address of a registry, which
starts with `oci://`.
-/

namespace FluxFleet

/-- A container image whose versions are looked up. -/
structure ImageSource where
  image : Value
  /-- the flavour of the registry's interface -/
  type : Value
deriving Repr

namespace ImageSource

/-- Read an image source from a document. -/
def ofDocument (doc : Value) : Except Error ImageSource := do
  let image ← doc.field "image"
  if !image.truthy then throw (.ofInput (.missing { kind := "RegistryConfig" } "image" doc))
  return { image, type := ← doc.field "type" }

/-- The document of an image source. -/
def document (s : ImageSource) : Value :=
  .record ([("image", s.image)] ++ Value.optional "type" s.type)

end ImageSource

/-- A chart whose versions are looked up. -/
structure ChartSource where
  chart : Value
  repository : Value
  oci : Value
deriving Repr

namespace ChartSource

/-- Read a chart source from a document. -/
def ofDocument (doc : Value) : Except Error ChartSource := do
  let chart ← doc.field "chart"
  if !chart.truthy then throw (.ofInput (.missing { kind := "HelmConfig" } "chart" doc))
  let repository ← doc.field "repository"
  let oci ← doc.field "oci"
  if repository.isNull && oci.isNull then
    throw (.ofInput (.requirement { kind := "HelmConfig" } "either repository or oci" doc))
  if !oci.isNull then
    if !(← oci.startsWith "oci://") then throw (.ofInput (.chartScheme doc))
  return { chart, repository, oci }

/-- The document of a chart source. -/
def document (s : ChartSource) : Value :=
  .record ([("chart", s.chart)] ++ Value.optional "repository" s.repository ++
    Value.optional "oci" s.oci)

end ChartSource

end FluxFleet
