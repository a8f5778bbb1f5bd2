import FluxFleet.Enablement

/-!
# Resolution: a kustomization as a cluster deploys it

The values of variables are merged from tiers. A version entry of the template has the lowest
precedence, then come the defaults of the kustomization's own variables, then the values that the
cluster sets for names that are declared. Providers write their values over these later.
-/

namespace FluxFleet

/-- A kustomization resolved for a cluster. -/
structure Resolved where
  template : Template
  kustomization : Kustomization
  /-- the values of variables -/
  values : OrderedMap Value Value := .empty
  /-- the namespace that resources go to -/
  targetNamespace : Value := "default"
  /-- whether the kustomization is deployed, as it was written -/
  enabled : Value := .bool true
  preservation : Preservation := {}
deriving Repr

/-- The identity of a resolved kustomization. -/
def Resolved.name (r : Resolved) : String := r.kustomization.identity r.template.name

namespace Resolution

/-- The names that a template and one of its kustomizations declare, with their defaults. -/
def declarations (t : Template) (ks : Kustomization) : List (Value × Option String) :=
  t.versions.map (fun v => (v.name, v.fallback)) ++
    ks.substitutions.map fun s => (s.name, s.fallback)

/-- The defaults of declared names; of several defaults of a name the last one stands. -/
def defaults (declared : List (Value × Option String)) : OrderedMap Value String :=
  declared.foldl (fun m (name, fallback) =>
    match fallback with
    | some v => m.insert name v
    | none => m) .empty

/-- Set the declared names that the cluster has a value for. -/
def applyCluster (cluster : OrderedMap Value String) (names : List Value)
    (values : OrderedMap Value String) : OrderedMap Value String :=
  names.foldl (fun m name =>
    match cluster.get? name with
    | some v => m.insert name v
    | none => m) values

/-- The tiers merged: defaults, then the cluster's values for declared names. -/
def merge (declared : List (Value × Option String)) (cluster : OrderedMap Value String) :
    OrderedMap Value String :=
  applyCluster cluster (declared.map (·.1)) (defaults declared)

/-- The values of the variables of a kustomization. A name that cannot be a key fails. -/
def values (t : Template) (ks : Kustomization) (cluster : OrderedMap Value String) :
    Except Error (OrderedMap Value String) := do
  let declared := declarations t ks
  for (name, _) in declared do
    discard name.asKey
  return merge declared cluster

/-- The variable that holds the target namespace unless it is declared. -/
def namespaceVariable : Value := "namespace"

/-- The target namespace of a kustomization. -/
def targetNamespace (ks : Kustomization) : Value :=
  match ks.target with
  | some t => t.name
  | none => "default"

/-- Resolve a kustomization under the selection of its template. -/
def resolve (t : Template) (ks : Kustomization) (selection : Option Selection) :
    Except Error Resolved := do
  let cluster := match selection with
    | some s => s.values
    | none => .empty
  let merged ← values t ks cluster
  let ns := targetNamespace ks
  let shown : OrderedMap Value Value := ⟨merged.entries.map fun (k, v) => (k, .str v)⟩
  return { template := t, kustomization := ks, values := shown.insertIfNew namespaceVariable ns,
           targetNamespace := ns, enabled := ks.enabledUnder selection,
           preservation := ks.preservationUnder selection }

/-- Resolve all kustomizations of the templates that a cluster selects. -/
def resolveAll (cluster : Cluster) (templates : List Template) : Except Error (List Resolved) := do
  let perTemplate ← templates.mapM fun t =>
    match cluster.selection? (.str t.name) with
    | none => pure []
    | some s => t.kustomizations.mapM fun ks => resolve t ks (some s)
  return perTemplate.flatten

/-- The names of variables without a default. -/
def required (ks : Kustomization) : List Value :=
  (ks.substitutions.filter (·.fallback.isNone)).map (·.name)

/-- How the values of a cluster fit the variables of a kustomization. -/
structure Fit where
  /-- variables without a default and without a value -/
  missing : List Value
  /-- values that no variable declares -/
  unused : List Value
deriving Repr

/-- Compare the values of a cluster with the variables of a kustomization. -/
def fit (ks : Kustomization) (cluster : OrderedMap Value String) : Except Error Fit := do
  for s in ks.substitutions do
    discard s.name.asKey
  let declared := ks.substitutions.map (·.name)
  return { missing := (required ks).filter fun n => !cluster.contains n,
           unused := cluster.keys.filter fun n => !declared.any (n == ·) }

/-- The variables of enabled kustomizations that need a provider, grouped by type in the order of
first appearance. A type that cannot be a key fails. -/
def external (resolved : List Resolved) : Except Error (OrderedMap Value (List Substitution)) := do
  let needed := (resolved.filter (·.enabled.truthy)).flatMap (·.kustomization.substitutions)
  needed.foldlM (fun groups s => do
    let type ← s.type.asKey
    if Substitution.isCoreType type then return groups
    else return groups.insert type (((groups.get? type).getD []) ++ [s])) .empty

end Resolution

end FluxFleet
