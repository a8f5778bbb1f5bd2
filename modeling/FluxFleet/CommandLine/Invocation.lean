import FluxFleet.CommandLine.Options
import FluxFleet.FileSystem.Path
import FluxFleet.Output

/-!
# Commands and their arguments

The program has two commands: `generate` writes the manifests of one cluster or of all clusters, and
`validate` checks them. `Invocation.read` says what a command line asks for.
-/

namespace FluxFleet.CommandLine

/-- How much is logged. -/
inductive Level where
  | debug
  | info
  | warning
  | error
  | critical
deriving DecidableEq, Repr

namespace Level

/-- All levels. -/
def all : List Level := [debug, info, warning, error, critical]

/-- The name of a level. -/
def name : Level → String
  | debug => "DEBUG"
  | info => "INFO"
  | warning => "WARNING"
  | error => "ERROR"
  | critical => "CRITICAL"

/-- The level of a name. -/
def ofName? (name : String) : Option Level := all.find? fun l => l.name == name

/-- The place of a level among all levels. -/
def rank : Level → Nat
  | debug => 0
  | info => 1
  | warning => 2
  | error => 3
  | critical => 4

end Level

/-- The arguments of `generate`. An option for a path may be given without one. -/
structure GenerateArguments where
  /-- the project -/
  path : Option Path := Path.ofString "."
  /-- the name of the cluster; all clusters if there is none -/
  cluster : Option String := none
  /-- the directory of the directories of the clusters -/
  directory : Option Path := Path.ofString "output"
  format : String := "yaml"
  /-- whether the files are printed instead of written -/
  dryRun : Bool := false
  skipValidation : Bool := false
  includePreserved : Bool := false
deriving Repr

/-- The arguments of `validate`. The option for a path may be given without one. -/
structure ValidateArguments where
  /-- the project -/
  path : Option Path := Path.ofString "."
  /-- the name of the cluster; all clusters if it is empty -/
  cluster : String := ""
deriving Repr

/-- What the program is asked to do. -/
inductive Command where
  | generate (arguments : GenerateArguments)
  | validate (arguments : ValidateArguments)
deriving Repr

/-- A command with the settings of the program. -/
structure Invocation where
  level : Option Level := none
  command : Command
deriving Repr

/-- The end of a program that does not run: its name and the reason. -/
structure Refusal where
  program : String
  stop : Stop
deriving DecidableEq, Repr

namespace Invocation

/-- The name of the program. -/
def program : String := "kustodian"

/-- The options before a command. -/
def programFlags : List Flag :=
  [Options.help,
   { names := ["--log-level"], takesArgument := true, choices := Level.all.map Level.name }]

/-- A switch that can be turned on and off. -/
def switch (name : String) : Flag := { names := ["--" ++ name, "--no-" ++ name] }

/-- The options of `generate`. -/
def generateFlags : List Flag :=
  [Options.help,
   { names := ["--path"], takesArgument := true },
   { names := ["--cluster"], takesArgument := true, exclusive := true },
   { names := ["--all"], exclusive := true },
   { names := ["--output-dir"], takesArgument := true },
   { names := ["--format"], takesArgument := true, choices := Output.formats },
   switch "dry-run",
   switch "skip-validation",
   switch "include-preserved"]

/-- The options of `validate`. -/
def validateFlags : List Flag :=
  [Options.help,
   { names := ["--path"], takesArgument := true },
   { names := ["--cluster"], takesArgument := true }]

/-- The path that an option gives, or a default. -/
def pathOr (r : Options.Reading) (name default : String) : Option Path :=
  ((r.argument? name).getD default).map Path.ofString

/-- The format that is meant by an option that is given without one. -/
def noFormat : String := "[]"

/-- The arguments of `generate`. -/
def generateArguments (r : Options.Reading) : GenerateArguments :=
  { path := pathOr r "--path" "."
    cluster := (r.argument? "--cluster").map fun name => name.getD ""
    directory := pathOr r "--output-dir" "output"
    format := ((r.argument? "--format").getD "yaml").getD noFormat
    dryRun := r.isOn "--dry-run"
    skipValidation := r.isOn "--skip-validation"
    includePreserved := r.isOn "--include-preserved" }

/-- The arguments of `validate`. -/
def validateArguments (r : Options.Reading) : ValidateArguments :=
  { path := pathOr r "--path" ".", cluster := (r.argument? "--cluster").join.getD "" }

/-- The names of the commands. -/
def commands : List String := ["generate", "validate"]

/-- A command with its options, and the words that belong to none of them. -/
def commandNamed (name : String) (words : List String) : Except Refusal (Command × List String) :=
  let options (flags : List Flag) : Except Refusal Options.Reading :=
    (Options.read flags words).mapError fun stop => { program := s!"{program} {name}", stop }
  match name with
  | "generate" => do
    let r ← options generateFlags
    return (.generate (generateArguments r), r.extra)
  | "validate" => do
    let r ← options validateFlags
    return (.validate (validateArguments r), r.extra)
  | _ => throw { program, stop := .refused (.choice "command" name commands) }

/-- What a command line asks for. -/
def read (words : List String) : Except Refusal Invocation := do
  let refuse {α : Type} (stop : Stop) : Except Refusal α := throw { program, stop }
  let own {α : Type} (r : Except Stop α) : Except Refusal α :=
    r.mapError fun stop => { program, stop }
  let classified ← own (Options.classifyAll programFlags words)
  let (r, rest) ← own (Options.consume true {} classified)
  match rest.map Word.written with
  | [] => refuse (.refused (.required "command"))
  | name :: words =>
    let (command, extra) ← commandNamed name words
    let unknown := r.extra ++ extra
    if !unknown.isEmpty then refuse (.refused (.unknown unknown))
    return { level := (r.argument? "--log-level").join.bind Level.ofName?, command }

/-- The places of a project in the file tree. -/
def projectPlaces (path : Option Path) : List Path :=
  path.toList.flatMap fun p => [p.child "templates", p.child "clusters"]

/-- The places in the file tree that a command looks at. -/
def places : Command → List Path
  | .generate a => projectPlaces a.path ++ a.directory.toList
  | .validate a => projectPlaces a.path

end Invocation

end FluxFleet.CommandLine
