import FluxFleet.Settings

/-!
# Resources of a cluster: the artifact repository and namespaces

The artifact repository tells the deployment system where to pull the generated manifests from.
Its tag follows from the tag strategy of the cluster: the name of the cluster, a tag set by hand,
or a tag that is put in when the artifact is pushed.
-/

namespace FluxFleet

/-- The metadata of a resource. -/
def metadata (name ns : Value) : Value :=
  .record ([("name", name)] ++ Value.optional "namespace" ns)

/-- A namespace to be generated. -/
structure NamespaceResource where
  name : Value
  ns : Value := .null
deriving Repr

/-- The document of a namespace. -/
def NamespaceResource.document (n : NamespaceResource) : Value :=
  .record [("apiVersion", "v1"), ("kind", "Namespace"), ("metadata", metadata n.name n.ns)]

/-- The repository that manifests are pulled from. -/
structure ArtifactRepository where
  name : Value
  ns : Value
  interval : Value
  url : String
  tag : String
  provider : String
  secret : Option String
  insecure : Bool
deriving Repr

namespace ArtifactRepository

/-- The tag of the artifact of a cluster. -/
def tagOf (cluster : Cluster) (source : ArtifactSource) : Except Error String :=
  match source.tagStrategy with
  | "cluster" => return cluster.name
  | "manual" =>
    match source.tag with
    | some tag =>
      if tag.isEmpty then throw (.configuration (.noTag cluster.name)) else return tag
    | none => throw (.configuration (.noTag cluster.name))
  | _ => return "latest"

/-- A text unless it is absent or empty. -/
def nonEmpty? (s : Option String) : Option String :=
  s.filter fun t => !t.isEmpty

/-- The repository of a cluster. -/
def ofCluster (cluster : Cluster) (source : ArtifactSource) (name ns interval : Value) :
    Except Error ArtifactRepository := do
  return {
    name, ns, interval
    url := s!"oci://{source.registry}/{source.repository}"
    tag := ← tagOf cluster source
    provider := if source.provider.isEmpty then "generic" else source.provider
    secret := nonEmpty? source.secretRef
    insecure := source.insecure }

/-- The document of a repository. -/
def document (r : ArtifactRepository) : Value :=
  let secret := match r.secret with
    | some s => [("secretRef", Value.record [("name", .str s)])]
    | none => []
  .record [("apiVersion", "source.toolkit.fluxcd.io/v1"), ("kind", .str SourceKind.oci.resource),
    ("metadata", metadata r.name r.ns),
    ("spec", .record ([("interval", r.interval), ("url", .str r.url),
      ("ref", .record [("tag", .str r.tag)]), ("provider", .str r.provider)] ++ secret ++
      (if r.insecure then [("insecure", .bool true)] else [])))]

end ArtifactRepository

end FluxFleet
