import FluxFleet.Graph.Search
import FluxFleet.Hooks.Registry
import FluxFleet.Namespaces

/-!
# Generating the manifests of a cluster

A run checks the dependency graph and the enablement, resolves the kustomizations that the cluster
selects, lets hooks adjust them, renders a manifest for each enabled one, and lets hooks adjust the
result. A disabled kustomization is rendered only on request, and only if it keeps resources.
-/

namespace FluxFleet.Generator

/-- What a run does beyond the usual. -/
structure Options where
  directory : Path := Path.ofString "output"
  /-- whether the checks are skipped -/
  skipValidation : Bool := false
  /-- whether disabled kustomizations that keep resources are rendered too -/
  includePreserved : Bool := false
deriving Repr

/-- Check the dependency graph and the enablement. -/
def validate (cluster : Cluster) (templates : List Template) : Except Error Unit := do
  discard (Graph.validate templates)
  Enablement.check cluster templates

/-- The manifest of a resolved kustomization, if it gets one. -/
def render (s : Settings) (includePreserved : Bool) (r : Resolved) :
    Except Error (Option Generated) := do
  let generated (m : Manifest) (preserved : Bool) : Generated :=
    { name := r.name, template := r.template.name, manifest := m, preserved }
  if r.enabled.truthy then
    return some (generated (← Manifest.ofResolved r s [] false) false)
  else if includePreserved then
    let kinds ← r.preservation.kinds
    if kinds.isEmpty then return none
    return some (generated (← Manifest.ofResolved r s kinds true) true)
  else return none

/-- The manifests of resolved kustomizations, in their order. -/
def renderAll (s : Settings) (includePreserved : Bool) (resolved : List Resolved) :
    Except Error (List Generated) := do
  return (← resolved.mapM (render s includePreserved)).filterMap id

/-- The repository that manifests are pulled from, for a cluster with a registry of artifacts. -/
def repository (cluster : Cluster) (s : Settings) : Except Error (Option ArtifactRepository) :=
  match cluster.oci with
  | none => return none
  | some source =>
    some <$> ArtifactRepository.ofCluster cluster source s.sourceName s.systemNamespace s.interval

/-- The result before hooks adjust it. -/
def build (cluster : Cluster) (s : Settings) (options : Options) (resolved : List Resolved) :
    Except Error Generation := do
  let manifests ← renderAll s options.includePreserved resolved
  let repository ← repository cluster s
  let controllerPatches ← Patch.ofSystem? cluster.system
  let names ← Namespaces.names resolved
  return { cluster := cluster.name, directory := options.directory, manifests, repository,
           namespaces := names.map fun n => { name := .str n }, controllerPatches }

/-- The extension that holds documents to be written. -/
def additionalFiles : Value := "additional_files"

/-- The result that hooks have left in a context, with the documents of the extension. -/
def finish (c : Context) : Except Error Generation :=
  match c.result with
  | none => throw (.hook beforeWrite "the generation result was removed")
  | some g => do
    match (← c.extension additionalFiles .dict).entries? with
    | some entries => return { g with additional := g.additional.insertAll entries }
    | none => return g

/-- The context of a run before any hook. -/
def start (cluster : Cluster) (templates : List Template) (options : Options) :
    Except Error Context := do
  if !options.skipValidation then validate cluster templates
  return { cluster, templates, kustomizations := ← Resolution.resolveAll cluster templates }

variable {η π τ : Type}

/-- Generate the manifests of a cluster. Hooks and providers leave their trace also when the run
fails. -/
def generate (plugins : Plugins η π τ) (registry : Registry η π) (d : GeneratorDefaults)
    (cluster : Cluster) (templates : List Template) (options : Options) :
    List τ × Except Error Generation :=
  match start cluster templates options with
  | .error e => ([], .error e)
  | .ok c =>
    let (first, resolved) := registry.dispatch plugins afterResolve c
    match resolved with
    | .error e => (first.trace, .error e)
    | .ok c =>
      match build cluster (Settings.ofCluster cluster d) options c.kustomizations with
      | .error e => (first.trace, .error e)
      | .ok g =>
        let registry := { registry with dispatcher := first.dispatcher }
        let (second, adjusted) := registry.dispatch plugins beforeWrite { c with result := some g }
        (first.trace ++ second.trace, adjusted.bind finish)

end FluxFleet.Generator
