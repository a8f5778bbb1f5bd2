import FluxFleet.Value.Basic

/-!
# Problems of a set of templates

What the checks of a set of templates report: references that lead nowhere, cycles of
dependencies, and enabled kustomizations that depend on disabled ones. Each problem has its
wording beside it.
-/

namespace FluxFleet

/-- A structural problem of the dependency graph. -/
inductive GraphProblem where
  /-- a reference that cannot be parsed -/
  | malformed (source reference reason : String)
  /-- a kustomization that refers to itself -/
  | selfReference (source : String)
  /-- a reference to a kustomization that does not exist -/
  | missing (source target : String)
deriving DecidableEq, Repr

namespace GraphProblem

/-- The kustomization that declares the faulty reference. -/
def source : GraphProblem → String
  | .malformed s _ _ => s
  | .selfReference s => s
  | .missing s _ => s

/-- The wording of the problem. -/
def message : GraphProblem → String
  | .malformed s _ reason => s!"Kustomization '{s}': {reason}"
  | .selfReference s => s!"Kustomization '{s}' cannot depend on itself"
  | .missing s t => s!"Kustomization '{s}' depends on '{t}' which does not exist"

end GraphProblem

/-- A cycle of dependencies; its path starts and ends with the same kustomization. -/
structure Cycle where
  path : List String
deriving DecidableEq, Repr

/-- The wording of a cycle. -/
def Cycle.message (c : Cycle) : String :=
  "Dependency cycle detected: " ++ " → ".intercalate c.path

/-- An enabled kustomization that depends on a disabled one. -/
structure DisabledDependency where
  source : String
  target : String
deriving DecidableEq, Repr

/-- The wording of a disabled dependency. -/
def DisabledDependency.message (d : DisabledDependency) : String :=
  s!"Enabled kustomization '{d.source}' depends on disabled kustomization '{d.target}'. " ++
    s!"Either enable '{d.target}' or disable '{d.source}'."

/-- A heading with one indented line for each item. -/
def bulleted (heading : String) (items : List String) : String :=
  heading ++ "\n" ++ "\n".intercalate (items.map ("  - " ++ ·))

end FluxFleet
