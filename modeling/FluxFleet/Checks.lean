import FluxFleet.Resolution
import FluxFleet.Value.Order

/-!
# Checks of the values of a cluster

Every variable of an enabled kustomization needs a value, unless a provider or a version entry
supplies it. A value that no variable of a template declares is worth a warning.
-/

namespace FluxFleet

/-- A variable without a value. -/
structure MissingValue where
  cluster : String
  kustomization : String
  name : Value
deriving Repr

/-- The wording of a missing value. -/
def MissingValue.message (m : MissingValue) : String :=
  s!"Cluster '{m.cluster}': kustomization '{m.kustomization}' requires a value for " ++
    s!"'{m.name.text}'"

/-- A value that no variable declares. -/
structure UnusedValue where
  cluster : String
  name : Value
  template : String
deriving Repr

/-- The wording of an unused value. -/
def UnusedValue.message (u : UnusedValue) : String :=
  s!"Cluster '{u.cluster}' sets value '{u.name.text}' not used by template '{u.template}'"

namespace Checks

/-- What the checks of one template find. -/
structure Report where
  missing : List MissingValue := []
  unused : List UnusedValue := []
deriving Repr

/-- The values in ascending order, if they can be compared. -/
def sorted (vs : List Value) : Except Error (List Value) :=
  match Value.sortBy id vs with
  | .ok vs => return vs
  | .error (v, w) => throw (.notComparable v.kind w.kind)

/-- The variables of a template that a provider supplies. -/
def provided (t : Template) : List Value :=
  t.kustomizations.flatMap fun ks => (ks.substitutions.filter fun s => !s.isCore).map (·.name)

/-- The missing values of one kustomization. -/
def missingOf (cluster : Cluster) (t : Template) (ks : Kustomization) (missing : List Value) :
    List MissingValue :=
  let supplied := provided t ++ t.versions.map (·.name)
  (missing.filter fun n => !supplied.any (n == ·)).map fun n =>
    { cluster := cluster.name, kustomization := ks.identity t.name, name := n }

/-- The values that neither a version entry nor any kustomization declares. -/
def unusedOf (t : Template) (s : Selection) (fits : List Resolution.Fit) : List Value :=
  let free := s.values.keys.filter fun n => !t.versions.any fun v => n == v.name
  fits.foldl (fun acc f => acc.filter fun n => f.unused.any (n == ·)) free

/-- Check the values that a cluster sets for one template. -/
def ofTemplate (cluster : Cluster) (t : Template) : Except Error Report := do
  match cluster.selection? (.str t.name) with
  | none => return {}
  | some s =>
    for v in t.versions do
      discard v.name.asKey
    for ks in t.kustomizations do
      for sub in ks.substitutions do
        discard sub.type.asKey
        discard sub.name.asKey
    let fits ← t.kustomizations.mapM fun ks => Resolution.fit ks s.values
    let missing := (t.kustomizations.zip fits).flatMap fun (ks, f) =>
      if (ks.enabledUnder (some s)).truthy then missingOf cluster t ks f.missing else []
    for m in missing do
      discard m.name.written
    let unused ← sorted (unusedOf t s fits)
    return { missing,
             unused := unused.map fun n => { cluster := cluster.name, name := n,
                                             template := t.name } }

/-- Check the values of a cluster for all templates. -/
def ofCluster (cluster : Cluster) (templates : List Template) : Except Error Report := do
  let reports ← templates.mapM (ofTemplate cluster)
  return { missing := reports.flatMap (·.missing), unused := reports.flatMap (·.unused) }

end Checks

end FluxFleet
