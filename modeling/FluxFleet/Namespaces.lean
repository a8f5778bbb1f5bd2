import FluxFleet.Resolution

/-!
# Namespaces of a deployment

A kustomization may ask for its namespace to be generated. The namespaces of the enabled ones are
listed in ascending order, each once, without those that exist in every cluster.
-/

namespace FluxFleet.Namespaces

/-- The namespaces that exist in every cluster by name. -/
def systemNames : List String :=
  ["default", "flux-system", "kube-system", "kube-public", "kube-node-lease"]

/-- Whether a namespace exists in every cluster. -/
def isSystemName (name : String) : Bool :=
  systemNames.contains name || "kube-".toList.isPrefixOf name.toList

/-- Whether a namespace exists in every cluster; only texts and keys can be asked about. -/
def isSystem (name : Value) : Except Error Bool :=
  match name with
  | .str s => return isSystemName s
  | v => do
    let v ← v.asKey
    v.startsWith "kube-"

/-- Whether a resolved kustomization asks for its namespace. -/
def isWanted (r : Resolved) : Bool :=
  r.enabled.truthy && (match r.kustomization.target with
    | some t => t.create.truthy
    | none => false)

/-- The namespace that a resolved kustomization wants to have generated. -/
def wanted? (r : Resolved) : Except Error (Option String) := do
  if isWanted r then
    if ← isSystem r.targetNamespace then return none else return some r.targetNamespace.text
  else return none

/-- The names in ascending order of their code points, each once. -/
def sortedNames (names : List String) : List String :=
  names.eraseDups.mergeSort Text.inOrder

/-- The namespaces to generate. -/
def names (resolved : List Resolved) : Except Error (List String) := do
  return sortedNames ((← resolved.mapM wanted?).filterMap id)

end FluxFleet.Namespaces
