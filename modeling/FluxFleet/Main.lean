import FluxFleet.CommandLine.Run

/-!
# The program on a disk

The program runs on a picture of the places that its command looks at. What it changed in the
picture is written back, and what it printed and logged is put out.
-/

namespace FluxFleet.Main

/-- The tree at a place of the disk. -/
partial def treeAt (place : String) : IO (Option Tree) := do
  let p := (← IO.currentDir) / place
  if ← p.isDir then
    let entries ← p.readDir
    let children ← entries.toList.filterMapM fun e => do
      return (← treeAt s!"{place}/{e.fileName}").map fun t => (e.fileName, t)
    return some (.directory children)
  else if ← p.pathExists then return some (.file (← IO.FS.readBinFile p).toList)
  else return none

/-- Put the directories above a place into the picture, as far as they are on the disk; `place` is
the part of the way that is done. -/
def addDirectories (files : FileSystem) (place : List String) :
    List String → IO FileSystem
  | [] => return files
  | name :: names => do
    let place := place ++ [name]
    if (files.root.get? place).isSome then addDirectories files place names
    else if ← ((← IO.currentDir) / ("/" ++ "/".intercalate place)).isDir then
      addDirectories { files with root := files.root.set place .empty } place names
    else return files

/-- Put a place of the disk into the picture. -/
def add (files : FileSystem) (p : Path) : IO FileSystem := do
  let p := files.absolute p
  let files ← addDirectories files [] p.parts.dropLast
  match ← treeAt p.text with
  | some t => return { files with root := files.root.set p.parts t }
  | none => return files

/-- The picture of the places that a command line asks for. -/
def picture (words : List String) : IO FileSystem := do
  let working := (Path.ofString (← IO.currentDir).toString).parts
  let files ← addDirectories { root := .empty, working } [] working
  match CommandLine.Invocation.read words with
  | .ok i => (CommandLine.Invocation.places i.command).foldlM add files
  | .error _ => return files

/-- Write the files that are new or changed. -/
def writeBack (before after : FileSystem) : IO Unit := do
  let old := Tree.files [] before.root
  for (names, bytes) in Tree.files [] after.root do
    unless old.contains (names, bytes) do
      IO.FS.createDirAll ("/" ++ "/".intercalate names.dropLast)
      IO.FS.writeBinFile ("/" ++ "/".intercalate names) ⟨bytes.toArray⟩

end FluxFleet.Main

open FluxFleet in
/-- Run the program with the words of its command line. -/
def main (words : List String) : IO UInt32 := do
  let files ← Main.picture words
  let run := CommandLine.Run.ofWords {} files words
  Main.writeBack files run.console.files
  (← IO.getStdout).putStr run.console.output
  (← IO.getStderr).putStr run.console.errors
  match run.exit with
  | .ok code => return code.toUInt32
  | .error e => do
    (← IO.getStderr).putStr s!"{e.message}\n"
    return 1
