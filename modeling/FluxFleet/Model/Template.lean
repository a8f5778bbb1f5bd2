import FluxFleet.Model.Kustomization
import FluxFleet.Model.VersionEntry

/-!
# Templates: reusable bundles of kustomizations

A template document belongs to the family `kustodian.io` and bundles kustomizations and version
entries. The names of its kustomizations are pairwise different.
-/

namespace FluxFleet

/-- A bundle of kustomizations and the versions they share. -/
structure Template where
  name : String
  /-- in the order of declaration -/
  kustomizations : List Kustomization
  versions : List VersionEntry
  /-- the directory of the template, relative to the root of all templates -/
  sourcePath : Option String := none
deriving Repr

/-- The family that templates and clusters belong to. -/
def resourceGroup : String := "kustodian.io"

/-- Check the family and the kind of a resource document. -/
def checkKind (doc : Value) (kind : String) : Except Error Unit := do
  let apiVersion ← doc.field "apiVersion"
  if !apiVersion.truthy then throw (.ofInput (.missing { kind := "object" } "apiVersion" doc))
  if !(← apiVersion.startsWith resourceGroup) then
    throw (.ofInput (.foreignGroup resourceGroup doc))
  if !((← doc.field "kind") == Value.str kind) then throw (.ofInput (.wrongKind kind doc))

/-- The name of a resource document. -/
def resourceName (kind : String) (doc : Value) : Except Error String := do
  let metadata ← doc.field "metadata"
  if !metadata.truthy then throw (.ofInput (.missing { kind } "metadata" doc))
  let name ← metadata.field "name"
  if !name.truthy then throw (.ofInput (.missing { kind } "metadata.name" doc))
  name.written

/-- The specification of a resource document. -/
def resourceSpec (kind : String) (doc : Value) : Except Error Value := do
  let spec ← doc.field "spec"
  if !spec.truthy then throw (.ofInput (.missing { kind } "spec" doc))
  return spec

namespace Template

/-- The first name that occurs before; a name that cannot be a key fails. -/
def firstDuplicate? : List Value → List Value → Except Error (Option Value)
  | _, [] => return none
  | seen, n :: ns => do
    let n ← n.asKey
    if seen.any (n == ·) then return some n else firstDuplicate? (n :: seen) ns

/-- Read a template from a resource document. -/
def ofDocument (doc : Value) : Except Error Template := do
  checkKind doc "Template"
  let name ← resourceName "Template" doc
  let spec ← resourceSpec "Template" doc
  let declared ← spec.field "kustomizations"
  if !declared.truthy then
    throw (.ofInput (.missing { kind := "Template", name := some (.str name) } "spec.kustomizations"
      doc))
  let kustomizations ← (← declared.each).mapM Kustomization.ofDocument
  if let some duplicate ← firstDuplicate? [] (kustomizations.map (·.name)) then
    throw (.ofInput (.duplicateKustomization name duplicate))
  let versions ← (← (← spec.field "versions").eachGiven).mapM VersionEntry.ofDocument
  return { name, kustomizations, versions }

/-- The outline of a template; `nested` writes down the substitutions. -/
def outline (nested : Substitution → Value) (t : Template) : Except Error Outline := do
  let kustomizations ← t.kustomizations.mapM (Kustomization.outline nested)
  return .record ([("name", .value (.str t.name)), ("kustomizations", .list kustomizations)] ++
    Outline.ofFields ([("versions", .ofList (t.versions.map VersionEntry.document))] ++
      Value.optionalString "source_path" t.sourcePath))

end Template

end FluxFleet
