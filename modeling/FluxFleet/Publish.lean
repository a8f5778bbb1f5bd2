import FluxFleet.FileSystem.Bytes
import FluxFleet.FileSystem.Tree
import FluxFleet.Output
import FluxFleet.Text.Utf8

/-!
# Writing a result to a file tree

The files of a result are written one after another, the root file last, each with the directories
that it needs. A failure ends the writing; the files before it stay, and so do the directories.
-/

namespace FluxFleet.Publish

/-- Write one file: the tree afterwards, and the failure if there was one. It is unfolded by name
only: a run of writes is reasoned about without the checks of its texts. -/
@[irreducible]
def writeText (fs : FileSystem) (p : Path) (text : String) : FileSystem × Except Error Unit :=
  let unwritable (f : FileFault) (at_ : Path) : Error :=
    .output (.unwritable p.text (f.message at_))
  match Path.checkBytes p.parent.text with
  | .error e => (fs, .error e)
  | .ok () =>
    match fs.ensureDirectories p.parent with
    | (fs, .error (f, at_)) => (fs, .error (unwritable f at_))
    | (fs, .ok ()) =>
      match Path.checkBytes p.text with
      | .error e => (fs, .error e)
      | .ok () =>
        match fs.writeFile p (Text.bytesOf text) with
        | .error f => (fs, .error (unwritable f p))
        | .ok fs => (fs, .ok ())

/-- Write files below a directory one after another, up to the first that fails. -/
def writeAll (directory : Path) (fs : FileSystem) (written : List Path) :
    List (String × String) → FileSystem × Except Error (List Path)
  | [] => (fs, .ok written)
  | (name, text) :: rest =>
    let p := directory.child name
    match writeText fs p text with
    | (fs, .ok ()) => writeAll directory fs (written ++ [p]) rest
    | (fs, .error e) => (fs, .error e)

/-- Write a result: the tree afterwards, and the paths that were written or the failure. -/
def write (form : Yaml.Node.Form) (g : Generation) (format : String) (fs : FileSystem) :
    FileSystem × Except Error (List Path) :=
  match Output.plan form g format with
  | .ok files => writeAll g.directory fs [] files
  | .error e => (fs, .error e)

end FluxFleet.Publish
