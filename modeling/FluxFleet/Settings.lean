import FluxFleet.Model.Cluster

/-!
# Settings of a generation run

The generator has defaults of its own. A cluster may set others, and an empty one does not count.
Whether manifests come from a git repository or from a registry of artifacts follows from the
cluster.
-/

namespace FluxFleet

/-- The defaults of a generator. -/
structure GeneratorDefaults where
  /-- the directory of all templates in the source -/
  basePath : Value := "./templates"
  interval : Value := "10m"
  timeout : Value := "5m"
  systemNamespace : Value := "flux-system"
  sourceName : Value := "flux-system"
deriving Repr, Inhabited

/-- Where the cluster takes its manifests from. -/
inductive SourceKind where
  | git
  | oci
deriving DecidableEq, Repr, Inhabited

/-- The kind of resource that stands for a source. -/
def SourceKind.resource : SourceKind → String
  | .git => "GitRepository"
  | .oci => "OCIRepository"

/-- The settings in force for a cluster. -/
structure Settings where
  basePath : Value
  interval : Value
  timeout : Value
  systemNamespace : Value
  sourceName : Value
  sourceKind : SourceKind
deriving Repr, Inhabited

namespace GeneratorDefaults

/-- Set one default by its name. -/
def set (d : GeneratorDefaults) (key : String) (v : Value) : Except Error GeneratorDefaults :=
  match key with
  | "base_path" => return { d with basePath := v }
  | "interval" => return { d with interval := v }
  | "timeout" => return { d with timeout := v }
  | "flux_namespace" => return { d with systemNamespace := v }
  | "source_repository_name" => return { d with sourceName := v }
  | key => throw (.wrongArgument s!"unexpected option '{key}'")

/-- The defaults with some of them replaced. -/
def ofOptions (options : List (String × Value)) : Except Error GeneratorDefaults :=
  options.foldlM (fun d (k, v) => d.set k v) {}

end GeneratorDefaults

namespace Settings

/-- The cluster's text if it is not empty, otherwise the generator's default. -/
def prefer (own : Option String) (other : Value) : Value :=
  match own with
  | some s => if s.isEmpty then other else .str s
  | none => other

/-- The settings for a cluster. -/
def ofCluster (cluster : Cluster) (d : GeneratorDefaults) : Settings :=
  let own := cluster.defaults.getD {}
  { basePath := d.basePath
    interval := prefer own.interval d.interval
    timeout := prefer own.timeout d.timeout
    systemNamespace := prefer own.systemNamespace d.systemNamespace
    sourceName := prefer own.sourceName d.sourceName
    sourceKind := if cluster.oci.isSome then .oci else .git }

end Settings

end FluxFleet
