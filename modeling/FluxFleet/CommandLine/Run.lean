import FluxFleet.CommandLine.Generate
import FluxFleet.CommandLine.Validate

/-!
# Running the program

A run reads its command line, carries out the command, and ends with an exit code: 0 if all went
well, 1 if the command failed, 2 if the command line is refused. A failure that the library does not
report as its own has no exit code.
-/

namespace FluxFleet.CommandLine

/-- How a run ends, and what it leaves. -/
structure Run where
  console : Console
  /-- the exit code, or the failure for which there is none -/
  exit : Except Error Nat
deriving Repr

namespace Run

/-- How a program is called. -/
def usage (program : String) : String :=
  if program == s!"{Invocation.program} generate" then
    s!"usage: {program} [--path PATH] (--cluster CLUSTER | --all) [--output-dir DIRECTORY] " ++
      "[--format FORMAT] [--dry-run] [--skip-validation] [--include-preserved]\n"
  else if program == s!"{Invocation.program} validate" then
    s!"usage: {program} [--path PATH] [--cluster CLUSTER]\n"
  else s!"usage: {program} [--log-level LEVEL] (generate | validate) ...\n"

/-- Carry out a command. -/
def execute (stack : Stack) : Command → Session Unit
  | .generate a => Generate.run stack a
  | .validate a => Validate.run stack a

/-- The end of a run with a failure. -/
def failed (c : Console) (e : Error) : Run :=
  if e.isReported then
    { console := { c with errors := c.errors ++ s!"{Invocation.program} error:  {e.message}\n" }
      exit := .ok 1 }
  else { console := c, exit := .error e }

/-- The end of a run whose command line is refused. -/
def refused (c : Console) (r : Refusal) : Run :=
  match r.stop with
  | .help => { console := { c with output := usage r.program }, exit := .ok 0 }
  | .refused fault =>
    { console := { c with errors := s!"{r.program}: error: {fault.message}\n" }, exit := .ok 2 }

/-- Run the program in a file tree. -/
def ofWords (stack : Stack) (files : FileSystem) (words : List String) : Run :=
  match Invocation.read words with
  | .error r => refused { files } r
  | .ok i =>
    match (execute stack i.command).run { level := i.level, files } with
    | (.ok (), c) => { console := c, exit := .ok 0 }
    | (.error e, c) => failed c e

end Run

end FluxFleet.CommandLine
