import FluxFleet.Checks
import FluxFleet.CommandLine.Session
import FluxFleet.Graph.Search
import FluxFleet.Project

/-!
# The command `validate`

The dependency graph of all templates is checked first, then each selected cluster: its enablement
and its values. A cluster whose enablement is inconsistent ends the run; clusters with missing
values are reported together at the end.
-/

namespace FluxFleet.CommandLine.Validate

/-- The selected clusters of a project. -/
def clusters (p : Project) (a : ValidateArguments) : Except Error (List Cluster) :=
  if a.cluster.isEmpty then return p.clusters else do return [← p.clusterNamed a.cluster]

/-- Check the values of a cluster, log the unused ones and return the missing ones. -/
def missingValues (c : Cluster) (templates : List Template) : Session (List String) := do
  let found ← templates.mapM fun t => do
    let report ← Checks.ofTemplate c t
    for u in report.unused do
      Session.log .warning "kustodian.tool.validate" u.message
    return report.missing.map (·.message)
  return found.flatten

/-- Check a cluster and return its missing values. -/
def cluster (p : Project) (c : Cluster) : Session (List String) := do
  Enablement.check c p.templates
  let missing ← missingValues c p.templates
  if missing.isEmpty then Session.print s!"Cluster {c.name} is valid\n"
  return missing

/-- Run the command. -/
def run (stack : Stack) (a : ValidateArguments) : Session Unit := do
  let p ← Project.load stack (← get).files (← Session.path a.path)
  discard (liftM (Graph.validate p.templates))
  let selected ← clusters p a
  let missing := (← selected.mapM (cluster p)).flatten
  if !missing.isEmpty then throw (.configuration (.problems missing))

end FluxFleet.CommandLine.Validate
