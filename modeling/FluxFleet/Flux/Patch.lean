import FluxFleet.Model.Cluster

/-!
# Patches of deployed resources

A patch changes the resources of a kind, or one of them by name. Preservation patches label the
resources of a kind so that they are kept; controller patches add tuning arguments to the
controllers of the deployment system.
-/

namespace FluxFleet

/-- A patch and the resources it applies to. -/
structure Patch where
  text : String
  kind : Value
  name : Option String := none
deriving Repr

/-- The controllers that can be tuned. -/
inductive Controller where
  | kustomize
  | helm
  | source
deriving DecidableEq, Repr

namespace Controller

/-- All controllers in the order of their patches. -/
def all : List Controller := [.kustomize, .helm, .source]

/-- The name of a controller's deployment. -/
def name : Controller → String
  | .kustomize => "kustomize-controller"
  | .helm => "helm-controller"
  | .source => "source-controller"

/-- The tuning of its own that a controller has. -/
def own? (t : ControllerTuning) : Controller → Option Tuning
  | .kustomize => t.kustomize
  | .helm => t.helm
  | .source => t.source

/-- The tuning in force for a controller: each setting is its own or else the shared one. -/
def tuning (t : ControllerTuning) (c : Controller) : Tuning :=
  let own := (own? t c).getD {}
  { concurrent := own.concurrent <|> t.shared.concurrent
    requeueDependency := own.requeueDependency <|> t.shared.requeueDependency }

end Controller

namespace Patch

/-- The document of a patch. -/
def document (p : Patch) : Value :=
  .record [("patch", .str p.text),
    ("target", .record ([("kind", p.kind)] ++ Value.optionalString "name" p.name))]

/-- The label of resources that are kept. -/
def preserveLabel : String := "kustodian.io/preserve"

/-- The patch that labels the resources of a kind to be kept. -/
def preserving (kind : Value) : Patch :=
  { text := s!"\napiVersion: v1\nkind: {kind.text}\nmetadata:\n  labels:\n    " ++
      s!"{preserveLabel}: \"true\"\n",
    kind }

/-- The arguments of a tuning. -/
def arguments (t : Tuning) : Except Error (List String) := do
  let concurrent ← match t.concurrent with
    | some n => pure [s!"--concurrent={← Value.written (.int n)}"]
    | none => pure []
  return concurrent ++
    (match t.requeueDependency with | some d => [s!"--requeue-dependency={d}"] | none => [])

/-- The place of a controller's arguments. -/
def argumentsPath : String := "/spec/template/spec/containers/0/args/-"

/-- The operation that adds one argument. -/
def addition (argument : String) : Value :=
  .record [("op", "add"), ("path", .str argumentsPath), ("value", .str argument)]

/-- The patch of one controller, if it has any setting. -/
def ofController? (t : ControllerTuning) (c : Controller) : Except Error (Option Patch) := do
  match ← arguments (c.tuning t) with
  | [] => return none
  | args =>
    match Json.compact (.ofList (args.map addition)) with
    | .ok text => return some { text, kind := "Deployment", name := some c.name }
    | .error fault => throw (.json fault)

/-- The patches of all controllers; none if no controller has a setting. -/
def ofSystem? (system : Option SystemSettings) : Except Error (Option (List Patch)) := do
  match system.bind (·.controllers) with
  | none => return none
  | some t =>
    let patches := (← Controller.all.mapM (ofController? t)).filterMap id
    return if patches.isEmpty then none else some patches

end Patch

end FluxFleet
