import FluxFleet.FileSystem.Path
import FluxFleet.Flux.Manifest

/-!
# The result of a generation run

Everything that is generated for a cluster before it is written: the manifests of kustomizations,
the resources of the cluster, and documents that plugins add by their path.
-/

namespace FluxFleet

/-- A generated manifest and the template it belongs to. -/
structure Generated where
  name : String
  template : String
  manifest : Manifest
  /-- whether it stands for a disabled kustomization whose resources are kept -/
  preserved : Bool := false
deriving Repr

/-- Everything generated for a cluster. -/
structure Generation where
  cluster : String
  /-- the directory that everything is written to -/
  directory : Path
  manifests : List Generated := []
  repository : Option ArtifactRepository := none
  namespaces : List NamespaceResource := []
  /-- none if no controller is tuned -/
  controllerPatches : Option (List Patch) := none
  /-- documents of plugins, by a path relative to the directory -/
  additional : OrderedMap Value Value := .empty
deriving Repr

end FluxFleet
