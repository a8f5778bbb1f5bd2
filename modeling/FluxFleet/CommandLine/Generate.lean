import FluxFleet.CommandLine.Session
import FluxFleet.Generator
import FluxFleet.Project
import FluxFleet.Publish

/-!
# The command `generate`

The manifests of each selected cluster go to a directory named after it, or to the output. There are
no plugins. Texts of several lines are written in block style.
-/

namespace FluxFleet.CommandLine.Generate

/-- How documents are written. -/
def form (stack : Stack) : Yaml.Node.Form := { blockText := true, stack }

/-- A run without plugins. -/
def noPlugins : Plugins Empty Empty Empty :=
  { answer := fun _ _ c d => { left := c, dispatcher := d }, provide := fun _ _ => ([], .ok .null) }

/-- The selected clusters of a project. -/
def clusters (p : Project) (a : GenerateArguments) : Except Error (List Cluster) :=
  match a.cluster with
  | none => return p.clusters
  | some name => do return [← p.clusterNamed name]

/-- The result for a cluster. -/
def result (p : Project) (a : GenerateArguments) (directory : Path) (c : Cluster) :
    Except Error Generation :=
  (Generator.generate noPlugins Registry.new {} c p.templates
    { directory := directory.child c.name, skipValidation := a.skipValidation
      includePreserved := a.includePreserved }).2

/-- The resource files of a result as they are printed: each below a line with its path. -/
def listing (stack : Stack) (g : Generation) (format : String) : Except Error String := do
  let files ← Output.files (form stack) g format
  return String.join ((Output.sortedFiles files).map fun (name, text) =>
    s!"# {(g.directory.child name).text}\n{text}")

/-- Write the files of a result, and return their paths. -/
def write (stack : Stack) (g : Generation) (format : String) : Session (List Path) := do
  let c ← get
  let (files, written) := Publish.write (form stack) g format c.files
  set { c with files }
  written

/-- Generate the manifests of one cluster. -/
def cluster (stack : Stack) (p : Project) (a : GenerateArguments) (c : Cluster) :
    Session Unit := do
  let g ← result p a (← Session.path a.directory) c
  Session.log .info "kustodian.tool.generate"
    s!"Generated {g.manifests.length} kustomizations for cluster {c.name}"
  if a.dryRun then
    Session.print (← listing stack g a.format)
  else
    let written ← write stack g a.format
    Session.print
      s!"Wrote {written.length} files for cluster {c.name} to {g.directory.text}\n"

/-- Run the command. -/
def run (stack : Stack) (a : GenerateArguments) : Session Unit := do
  let p ← Project.load stack (← get).files (← Session.path a.path)
  let selected ← clusters p a
  selected.forM (cluster stack p a)

end FluxFleet.CommandLine.Generate
