import FluxFleet.Text.Digit
import FluxFleet.Text.Quoted

/-!
# Options on a command line

A command line is a row of words. A word that names an option, or is the start of the name of
exactly one, selects it; the argument of an option follows as the next word or behind `=`. Behind
the word `--` no word is an option, and `--` behind `=` is no argument: the option is given without
one. `Options.consume` takes options from the front of the row and keeps the words that belong to
none.
-/

namespace FluxFleet.CommandLine

/-- An option. -/
structure Flag where
  /-- the names that select it -/
  names : List String
  /-- whether it has an argument -/
  takesArgument : Bool := false
  /-- the arguments that are possible, if not every one is -/
  choices : List String := []
  /-- whether it is among the options of which exactly one is required -/
  exclusive : Bool := false
deriving DecidableEq, Repr

/-- The option in a message. -/
def Flag.title (f : Flag) : String := "/".intercalate f.names

/-- Why a command line is refused. -/
inductive ArgumentFault where
  | required (title : String)
  | oneRequired (titles : List String)
  | choice (title word : String) (choices : List String)
  | noArgument (title : String)
  | surplus (title argument : String)
  | conflict (title other : String)
  | ambiguous (word : String) (names : List String)
  | unknown (words : List String)
deriving DecidableEq, Repr

/-- The wording of a fault. -/
def ArgumentFault.message : ArgumentFault → String
  | .required title => s!"the following arguments are required: {title}"
  | .oneRequired titles =>
    let names := " ".intercalate titles
    s!"one of the arguments {names} is required"
  | .choice title word choices =>
    let possible := ", ".intercalate (choices.map Text.quoted)
    s!"argument {title}: invalid choice: {Text.quoted word} (choose from {possible})"
  | .noArgument title => s!"argument {title}: expected one argument"
  | .surplus title argument =>
    s!"argument {title}: ignored explicit argument {Text.quoted argument}"
  | .conflict title other => s!"argument {title}: not allowed with argument {other}"
  | .ambiguous word names =>
    let possible := ", ".intercalate names
    s!"ambiguous option: {word} could match {possible}"
  | .unknown words => "unrecognized arguments: " ++ " ".intercalate words

/-- Why the reading of a command line ends early. -/
inductive Stop where
  /-- the help was asked for -/
  | help
  | refused (fault : ArgumentFault)
deriving DecidableEq, Repr

/-- A word by what it is. -/
inductive Word where
  | plain (written : String)
  /-- the word `--` -/
  | separator
  /-- the name of an option, if it is known, and the argument behind `=` -/
  | option (written : String) (flag : Option (Flag × String)) (argument : Option String)
deriving Repr

/-- A word as it stands on the command line. -/
def Word.written : Word → String
  | .plain s => s
  | .separator => "--"
  | .option s _ _ => s

namespace Options

/-- The option for help, which every command has. -/
def help : Flag := { names := ["-h", "--help"] }

/-- All names with their options. -/
def named (flags : List Flag) : List (String × Flag) :=
  flags.flatMap fun f => f.names.map fun n => (n, f)

/-- Whether a word is a negative number, and so no option. -/
def isNegativeNumber (cs : List Char) : Bool :=
  let isDigit (c : Char) : Bool := (Text.digitValue? c).isSome
  match cs with
  | '-' :: rest =>
    match rest.dropWhile isDigit with
    | [] => !rest.isEmpty
    | '.' :: fraction => !fraction.isEmpty && fraction.all isDigit
    | _ => false
  | _ => false

/-- A word cut at its first `=`. -/
def cut (cs : List Char) : String × Option String :=
  (String.ofList (cs.takeWhile (· != '=')),
    match cs.dropWhile (· != '=') with
    | [] => none
    | _ :: argument => some (String.ofList argument))

/-- The options that a word may stand for, with the argument behind it. A short name may stand
together with more letters. -/
def candidates (flags : List Flag) (cs : List Char) : List (String × Flag × Option String) :=
  match cs with
  | '-' :: '-' :: _ =>
    let (start, argument) := cut cs
    ((named flags).filter fun e => start.toList.isPrefixOf e.1.toList).map fun e =>
      (e.1, e.2, argument)
  | _ =>
    (named flags).filterMap fun e =>
      if e.1.toList == cs.take 2 then some (e.1, e.2, some (String.ofList (cs.drop 2)))
      else if cs.isPrefixOf e.1.toList then some (e.1, e.2, none)
      else none

/-- What a word is. -/
def classify (flags : List Flag) (word : String) : Except Stop Word :=
  let cs := word.toList
  let exact (name : String) : Option (Flag × String) :=
    ((named flags).lookup name).map fun f => (f, name)
  if cs.head? != some '-' then return .plain word
  else match exact word with
    | some f => return .option word (some f) none
    | none =>
      if cs.length = 1 then return .plain word
      else
        let (name, argument) := cut cs
        match exact name, argument with
        | some f, some a => return .option word (some f) (some a)
        | _, _ =>
          match candidates flags cs with
          | [(name, f, argument)] => return .option word (some (f, name)) argument
          | [] =>
            if isNegativeNumber cs || cs.contains ' ' then return .plain word
            else return .option word none none
          | several => throw (.refused (.ambiguous word (several.map (·.1))))

/-- What the words of a command line are. -/
def classifyAll (flags : List Flag) : List String → Except Stop (List Word)
  | [] => return []
  | w :: ws =>
    if w == "--" then return .separator :: ws.map .plain
    else do
      let word ← classify flags w
      return word :: (← classifyAll flags ws)

/-- An option that was given. -/
structure Given where
  flag : Flag
  /-- the name that selected it, spelled out -/
  name : String
  argument : Option String
deriving Repr

/-- What was read from a command line. -/
structure Reading where
  /-- in the order on the command line -/
  given : List Given := []
  /-- the words that belong to no option -/
  extra : List String := []
deriving Repr

/-- The letters behind the short name for help that do not ask for help once more: one of them is
no option. -/
def beyondHelp (letters : List Char) : String := String.ofList (letters.dropWhile (· == 'h'))

/-- Take in an option. Letters behind a short name stand for more short names, of which there is
only the one for help. -/
def Reading.take (r : Reading) (flag : Flag) (name : String) (argument : Option String) :
    Except Stop Reading := do
  if let some a := argument then
    if !flag.takesArgument then
      let a' := if name.length == 2 then beyondHelp a.toList else a
      if a'.isEmpty && !a.isEmpty then throw .help
      throw (.refused (.surplus flag.title a'))
    if a != "--" && !flag.choices.isEmpty && !flag.choices.contains a then
      throw (.refused (.choice flag.title a flag.choices))
  if flag == help then throw .help
  if flag.exclusive then
    if let some other := r.given.find? fun g => g.flag.exclusive && g.flag != flag then
      throw (.refused (.conflict flag.title other.flag.title))
  return { r with given := r.given ++ [{ flag, name, argument := argument.filter (· != "--") }] }

/-- Keep a word that belongs to no option. -/
def Reading.keep (r : Reading) (word : String) : Reading := { r with extra := r.extra ++ [word] }

/-- Take options from the front of a row of words. With `stops` the first word that is none, and all
words behind it, are left. -/
def consume (stops : Bool) (r : Reading) : List Word → Except Stop (Reading × List Word)
  | [] => return (r, [])
  | .plain w :: rest =>
    if stops then return (r, .plain w :: rest) else consume stops (r.keep w) rest
  | .separator :: rest =>
    if stops && !rest.isEmpty then return (r, .separator :: rest)
    else consume stops (r.keep "--") rest
  | .option w none _ :: rest => consume stops (r.keep w) rest
  | .option _ (some (f, name)) (some a) :: rest => do
    consume stops (← r.take f name (some a)) rest
  | .option _ (some (f, name)) none :: rest =>
    if f.takesArgument then
      match rest with
      | .plain a :: rest => do consume stops (← r.take f name (some a)) rest
      | _ => throw (.refused (.noArgument f.title))
    else do consume stops (← r.take f name none) rest

/-- Read a command line that consists of options. -/
def read (flags : List Flag) (words : List String) : Except Stop Reading := do
  let (r, _) ← consume false {} (← classifyAll flags words)
  let exclusive := flags.filter (·.exclusive)
  if !exclusive.isEmpty && !r.given.any fun g => g.flag.exclusive then
    throw (.refused (.oneRequired (exclusive.map (·.title))))
  return r

/-- The argument of an option that is given, by one of its names; of several the last one counts. -/
def Reading.argument? (r : Reading) (name : String) : Option (Option String) :=
  (r.given.reverse.find? fun g => g.flag.names.contains name).map (·.argument)

/-- Whether a switch is on, by its name: the last of its names on the command line says so. -/
def Reading.isOn (r : Reading) (name : String) : Bool :=
  (r.given.reverse.find? fun g => g.flag.names.contains name).any fun g => g.name == name

end Options

end FluxFleet.CommandLine
