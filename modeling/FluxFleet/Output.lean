import FluxFleet.Generation
import FluxFleet.Yaml.Writer

/-!
# The files of a generation result

A result is written as one file for each manifest, one for each kind of cluster resource, and the
documents that plugins add. A path that a plugin chooses must stay inside the directory and must
not collide with another file. The root file lists the resource files.

The format of a file follows from its suffix where the suffix names one, and is the format of the
run otherwise.
-/

namespace FluxFleet.Output

/-- What stands in a file: a document, or a row of documents. -/
inductive Content where
  | single (document : Value)
  | many (documents : List Value)
deriving Repr

/-- The formats by name. -/
def formats : List String := ["yaml", "json"]

/-- A content as one value. -/
def Content.value : Content → Value
  | .single v => v
  | .many vs => .ofList vs

/-- A content as text in a format. Rows of rows that are too high for the stack fail first. -/
def serialize (form : Yaml.Node.Form) (content : Content) (format : String) :
    Except Error String := do
  if !content.value.isWithin .rows form.stack.rows then throw .depth
  match format with
  | "json" =>
    match Json.pretty form.stack.json content.value with
    | .ok text => return text ++ "\n"
    | .error fault => throw (.json fault)
  | "yaml" =>
    let roots := match content with
      | .single v => [v]
      | .many vs => vs
    Yaml.stream form.stack.yaml (roots.map (Yaml.Document.ofValue form))
  | other => throw (.output (.format other))

/-- The format that the suffix of a path names, or another one. -/
def formatFor (path : Path) (other : String) : String :=
  match path.suffix with
  | ".yaml" => "yaml"
  | ".yml" => "yaml"
  | ".json" => "json"
  | _ => other

/-- The root file. -/
def rootFile : String := "kustomization.yaml"

/-- The file of controller patches. -/
def patchesFile (format : String) : String := s!"flux-system/patches.{format}"

/-- The file of a manifest. -/
def manifestFile (g : Generated) (format : String) : String := s!"{g.template}/{g.name}.{format}"

/-- The files that follow from the result itself. -/
def generatedFiles (form : Yaml.Node.Form) (g : Generation) (format : String) :
    Except Error (OrderedMap String String) := do
  let files ← g.manifests.foldlM (fun (files : OrderedMap String String) m => do
    return files.insert (manifestFile m format)
      (← serialize form (.single m.manifest.document) format)) .empty
  let files ← match g.repository with
    | some r => do
      pure (files.insert s!"oci-repository.{format}" (← serialize form (.single r.document) format))
    | none => pure files
  if g.namespaces.isEmpty then return files
  let text ← serialize form (.many (g.namespaces.map (·.document))) format
  return files.insert s!"namespaces.{format}" text

/-- A document as content: a list is a row of documents. -/
def Content.ofValue : Value → Content
  | .list _ items => .many items
  | .tuple _ items => .many items
  | v => .single v

/-- The text of a path that a plugin gives. -/
def pathText (v : Value) : Except Error String :=
  match v with
  | .str s => return s
  | v => throw (.wrongArgument
      s!"expected str, bytes or os.PathLike object, not {v.kind}")

/-- Take in the document of a plugin. -/
def addFile (form : Yaml.Node.Form) (format : String) (files : OrderedMap String String)
    (entry : Value × Value) : Except Error (OrderedMap String String) := do
  let written ← pathText entry.1
  let path := Path.ofString written
  if path.isAbsolute || path.climbs then throw (.output (.notRelative written))
  if [rootFile, patchesFile format].contains path.text || files.contains path.text then
    throw (.output (.conflict written))
  return files.insert path.text
    (← serialize form (Content.ofValue entry.2) (formatFor path format))

/-- The resource files of a result, by their path below its directory. -/
def files (form : Yaml.Node.Form) (g : Generation) (format : String) :
    Except Error (OrderedMap String String) := do
  g.additional.entries.foldlM (addFile form format) (← generatedFiles form g format)

/-- The documents of controller patches. -/
def patchDocuments (ps : List Patch) : List Value := ps.map Patch.document

/-- The root document, which lists resource files. -/
def root (resources : List String) (g : Generation) : Value :=
  let sorted := resources.mergeSort Text.inOrder
  let patches : List (String × Value) := match g.controllerPatches with
    | some (p :: ps) => [("patches", .ofList (patchDocuments (p :: ps)))]
    | _ => []
  .record ([("apiVersion", .str "kustomize.config.k8s.io/v1beta1"), ("kind", .str "Kustomization"),
    ("resources", .ofList (sorted.map .str))] ++ patches)

/-- The files that the root lists: those whose suffix names a format. -/
def listed (paths : List String) : List String :=
  paths.filter fun p => formats.contains (formatFor (Path.ofString p) "")

/-- The files in ascending order of their paths. -/
def sortedFiles (files : OrderedMap String String) : List (String × String) :=
  files.entries.mergeSort fun a b => Text.inOrder a.1 b.1

/-- All files of a result in the order of writing: resources, controller patches, and the root. -/
def plan (form : Yaml.Node.Form) (g : Generation) (format : String) :
    Except Error (List (String × String)) := do
  if !formats.contains format then throw (.output (.format format))
  let resources ← files form g format
  let patches ← match g.controllerPatches with
    | some (p :: ps) => do
      pure [(patchesFile format, ← serialize form (.many (patchDocuments (p :: ps))) format)]
    | _ => pure []
  let rootText ← serialize form (.single (root (listed resources.keys) g)) "yaml"
  return sortedFiles resources ++ patches ++ [(rootFile, rootText)]

end FluxFleet.Output
