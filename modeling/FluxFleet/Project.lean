import FluxFleet.FileSystem.Bytes
import FluxFleet.FileSystem.Tree
import FluxFleet.Model.Cluster
import FluxFleet.Model.Template
import FluxFleet.Value.Height
import FluxFleet.Yaml.Reader

/-!
# Projects: templates and clusters in a file tree

A project is a directory with a `template.yaml` anywhere below `templates` for each template, and a
`cluster.yaml` in a directory of its own below `clusters` for each cluster. The directory of a
template relative to `templates` is where its manifests lie.

Templates are ordered by their paths, name by name, and clusters by the names of their directories.
The first file that cannot be read ends the loading, and the names of templates are pairwise
different.
-/

namespace FluxFleet

/-- The templates and clusters of a project. -/
structure Project where
  /-- the directory of the project, from the root -/
  path : Path
  templates : List Template
  clusters : List Cluster
deriving Repr

namespace Project

/-- The name of the file that defines a template. -/
def templateFile : String := "template.yaml"

/-- The name of the file that defines a cluster. -/
def clusterFile : String := "cluster.yaml"

/-- Reading files one after the other; the state is the next number for the parts of a document. -/
abbrev Loader := StateT Nat (Except Error)

/-- The mapping in a file, and the next number. -/
def document (stack : Stack) (fs : FileSystem) (p : Path) (first : Nat) :
    Except Error (Value × Nat) := do
  let bytes ← (fs.readFile p).mapError fun f => .input (.unreadable p.text (f.message p))
  let text ← (Text.decode bytes).mapError .encoding
  match Yaml.read stack.reading first text with
  | .error (.malformed reason) => throw (.input (.notYaml p.text reason))
  | .error (.unusable cause) => throw cause
  | .ok (doc, next) =>
    if doc.isDict then return (doc, next) else throw (.input (.notMapping p.text))

/-- Name the file in which a document is refused. -/
def blaming {α : Type} (fault : String → InputFault) (r : Except Error α) : Except Error α :=
  r.mapError fun e =>
    match e with
    | .input f => .input (fault f.message)
    | e => e

/-- The template in a file below the directory of all templates. -/
def template (stack : Stack) (fs : FileSystem) (directory p : Path) : Loader Template := do
  let doc ← StateT.mk (document stack fs p)
  let t ← blaming (.templateFile p.text) (Template.ofDocument doc)
  let above := (directory.below? p.parent).getD []
  return { t with sourcePath := some (Path.text { parts := above }) }

/-- The cluster in a file. -/
def cluster (stack : Stack) (fs : FileSystem) (p : Path) : Loader Cluster := do
  let doc ← StateT.mk (document stack fs p)
  blaming (.clusterFile p.text) (Cluster.ofDocument doc)

/-- The files of all templates below a directory, in order. -/
def templateFiles (fs : FileSystem) (directory : Path) : List Path :=
  match fs.lookup directory with
  | .ok tree =>
    let places := (tree.named templateFile []).mergeSort Path.inOrder
    places.map fun names => { directory with parts := directory.parts ++ names }
  | .error _ => []

/-- The files of all clusters below a directory, in order. -/
def clusterFiles (fs : FileSystem) (directory : Path) : List Path :=
  let names := (fs.names directory).mergeSort Text.inOrder
  let files : List Path := names.map fun name =>
    { directory with parts := directory.parts ++ [name, clusterFile] }
  files.filter fs.contains

/-- The names that occur more than once, each once and in order. -/
def repeated (names : List String) : List String :=
  ((names.filter fun n => decide (1 < names.count n)).mergeSort Text.inOrder).eraseDups

/-- The first name of a relative path, if it stands for the home directory of somebody. -/
def home? (path : Path) : Option String :=
  if path.isAbsolute then none
  else path.parts.head?.filter fun name => name.toList.head? == some '~'

/-- Load the project in a directory. Nobody has a home directory. -/
def load (stack : Stack) (fs : FileSystem) (path : Path) : Except Error Project := do
  if let some name := home? path then
    if name.toList.contains '\x00' then throw .nullCharacter
    throw .noHome
  Path.checkStarts path.root [] path.parts
  let root := fs.absolute path
  if !fs.isDirectory root then throw (.input (.notDirectory root.text))
  let templatesDirectory := root.child "templates"
  let files := templateFiles fs templatesDirectory
  let (templates, next) ← (files.mapM (template stack fs templatesDirectory)).run 0
  let (clusters, _) ← ((clusterFiles fs (root.child "clusters")).mapM (cluster stack fs)).run next
  let duplicates := repeated (templates.map (·.name))
  if !duplicates.isEmpty then throw (.input (.duplicateTemplates duplicates))
  return { path := root, templates, clusters }

/-- The first cluster of a name. -/
def clusterNamed (p : Project) (name : String) : Except Error Cluster :=
  match p.clusters.find? fun c => c.name == name with
  | some c => return c
  | none => throw (.input (.unknownCluster name (p.clusters.map (·.name))))

end Project

end FluxFleet
