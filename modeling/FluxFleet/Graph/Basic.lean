import FluxFleet.Model.Template

/-!
# The dependency graph of a set of templates

The graph has a node for each kustomization, named by its identity, and an edge to every
kustomization that it depends on. `build` goes through all declared references in order and keeps
all problems, so that they can be reported at once: each reference is an edge, a problem, or leads
to a resource outside the templates (`Outcome`).
-/

namespace FluxFleet

/-- A kustomization in the dependency graph. -/
structure GraphNode where
  id : String
  template : String
  kustomization : Value
  /-- the nodes that this one depends on, in the order of declaration -/
  dependencies : List String := []
deriving Repr

/-- The dependency graph: nodes by their identity. -/
abbrev Graph := OrderedMap String GraphNode

/-- What becomes of a declared reference. -/
inductive Outcome where
  /-- the reference leads to a resource outside the templates -/
  | outside
  | edge (target : String)
  | problem (p : GraphProblem)
deriving DecidableEq, Repr

namespace Graph

/-- All kustomizations with their templates, in the order of declaration. -/
def declared (templates : List Template) : List (Template × Kustomization) :=
  templates.flatMap fun t => t.kustomizations.map fun ks => (t, ks)

/-- Check that every kustomization has an identity: its name can be written. -/
def checkNames (templates : List Template) : Except Error Unit := do
  for (_, ks) in declared templates do
    discard ks.name.written

/-- The nodes of a set of templates, without edges. Of two kustomizations of one identity the
later one stands. -/
def nodes (templates : List Template) : Graph :=
  (declared templates).foldl (fun g (t, ks) =>
    let id := ks.identity t.name
    g.insert id { id, template := t.name, kustomization := ks.name }) .empty

/-- The outcome of a reference that the kustomization `source` of a template declares. -/
def outcome (g : Graph) (template source : String) (d : Dependency) : Outcome :=
  match d.reference with
  | .error fault => .problem (.malformed source d.text fault.message)
  | .ok ref =>
    match ref.target? template with
    | none => .outside
    | some target =>
      if target = source then .problem (.selfReference source)
      else if g.contains target then .edge target
      else .problem (.missing source target)

/-- Add an edge to a node. -/
def addEdge (g : Graph) (source target : String) : Graph :=
  g.modify source fun n => { n with dependencies := n.dependencies ++ [target] }

/-- Take in one declared reference. -/
def addReference (template source : String) (acc : Graph × List GraphProblem) (d : Dependency) :
    Graph × List GraphProblem :=
  match outcome acc.1 template source d with
  | .outside => acc
  | .edge target => (addEdge acc.1 source target, acc.2)
  | .problem p => (acc.1, acc.2 ++ [p])

/-- The graph of a set of templates with all edges that can be drawn, and all problems. -/
def build (templates : List Template) : Graph × List GraphProblem :=
  (declared templates).foldl (fun acc (t, ks) =>
    ks.dependsOn.foldl (addReference t.name (ks.identity t.name)) acc) (nodes templates, [])

/-- The nodes that a node depends on. -/
def dependencies (g : Graph) (id : String) : List String :=
  match g.get? id with
  | some n => n.dependencies
  | none => []

end Graph

end FluxFleet
