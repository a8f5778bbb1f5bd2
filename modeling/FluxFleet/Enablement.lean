import FluxFleet.Graph.Basic
import FluxFleet.Model.Cluster

/-!
# Enablement: what a cluster deploys

A template that the cluster does not select is not deployed at all. Within a selected template a
kustomization follows its own setting unless the cluster overrides it. The setting is kept as it
was written, so it need not be a truth value.

`disabledDependencies` finds the enabled kustomizations that depend on disabled ones.
-/

namespace FluxFleet

/-- The override of a kustomization in a selection. -/
def Selection.override? (s : Selection) (ks : Kustomization) : Option Override :=
  s.overrides.get? ks.name

namespace Kustomization

/-- Whether a kustomization is deployed under a selection of its template, as it was written. -/
def enabledUnder (ks : Kustomization) (selection : Option Selection) : Value :=
  match selection with
  | none => .bool false
  | some s =>
    match s.override? ks with
    | some (.switch on) => .bool on
    | some (.adjust enabled _) => if enabled.isNull then ks.enabled else enabled
    | none => ks.enabled

/-- The preservation policy of a kustomization under a selection of its template. An override sets
the mode; the kinds to keep stay those of the template unless it lists its own. -/
def preservationUnder (ks : Kustomization) (selection : Option Selection) : Preservation :=
  let own := ks.preservation.getD {}
  match selection.bind (·.override? ks) with
  | some (.adjust _ (some p)) =>
    { mode := p.mode,
      keepResources := if p.keepResources.isNull then own.keepResources else p.keepResources }
  | _ => own

end Kustomization

namespace Enablement

/-- Whether each kustomization is deployed to a cluster, by identity. -/
def table (cluster : Cluster) (templates : List Template) : OrderedMap String Value :=
  (Graph.declared templates).foldl (fun m (t, ks) =>
    m.insert (ks.identity t.name) (ks.enabledUnder (cluster.selection? (.str t.name)))) .empty

/-- The identity of a declared dependency, unless it is malformed or outside the templates. -/
def target? (template : String) (d : Dependency) : Option String :=
  match d.reference with
  | .ok ref => ref.target? template
  | .error _ => none

/-- Whether a kustomization is known and switched off. -/
def isOff (enabled : OrderedMap String Value) (id : String) : Bool :=
  match enabled.get? id with
  | some (.bool false) => true
  | _ => false

/-- The dependencies of one kustomization that are switched off, if it is enabled itself. -/
def conflicts (enabled : OrderedMap String Value) (template : String) (ks : Kustomization) :
    List DisabledDependency :=
  let source := ks.identity template
  if ((enabled.get? source).getD .null).truthy then
    (ks.dependsOn.filterMap (target? template)).filterMap fun target =>
      if isOff enabled target then some { source, target } else none
  else []

/-- The dependencies of enabled kustomizations on disabled ones. -/
def disabledDependencies (cluster : Cluster) (templates : List Template) :
    List DisabledDependency :=
  let enabled := table cluster templates
  (Graph.declared templates).flatMap fun (t, ks) => conflicts enabled t.name ks

/-- Refuse a cluster with a disabled dependency. -/
def check (cluster : Cluster) (templates : List Template) : Except Error Unit :=
  match disabledDependencies cluster templates with
  | [] => return ()
  | ds => throw (.enablement ds)

end Enablement

end FluxFleet
