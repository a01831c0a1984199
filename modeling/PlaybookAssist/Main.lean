import PlaybookAssist.CommandLine.Program

/-!
# The command line

The files that the arguments are about are read into a file tree, from which everything else follows.
A file that is in none of the places of `Program.sources` counts as absent.
-/

namespace PlaybookAssist

/-- The place of a program with the given working directory and home directory. -/
def Place.of? (workingDirectory homeDirectory : Text) : Option Place :=
  if h : Path.isAbsolute workingDirectory = true
      ∧ Path.normalise workingDirectory = workingDirectory then
    some ⟨workingDirectory, homeDirectory, h.1, h.2⟩
  else none

section

variable [Place]

/-- The tree after one more change, unless the change is refused. -/
def FileTree.after (fs : FileTree) : Except FileError FileTree → FileTree
  | .ok changed => changed
  | .error _ => fs

/-- The tree with everything at a path of this machine. What cannot be read is left out. -/
partial def FileTree.gather (path : String) (fs : FileTree) : IO FileTree := do
  try
    let here ← IO.FS.realPath path
    if ← here.isDir then
      let mut fs := fs.after (fs.makeDirectories path.toList)
      for entry in ← here.readDir do
        fs ← fs.gather (path ++ "/" ++ entry.fileName)
      return fs
    else
      let content ← IO.FS.readBinFile here
      return fs.after (fs.writeFile path.toList content.toList)
  catch _ => return fs

/-- The program with fresh ids and the files of this machine; the answer is its status. -/
def Program.main (arguments : List Text) : IO UInt32 := do
  let fresh : IO Text := do
    return IdSource.random (← IO.getRandomBytes 16).toList
  let activity ← fresh
  let suggestion ← fresh
  let request ← fresh
  let ids : IdSource := ⟨fun _ => activity, fun _ => suggestion, fun _ => request⟩
  let places := match Arguments.parse Place.workingDirectory arguments with
    | .done a => Program.sources a
    | _ => []
  let fs ← places.foldlM
    (fun fs path => fs.gather (String.ofList (Path.absolute path))) FileTree.empty
  match Program.run fs ids arguments with
  | .ok output =>
    IO.print (String.ofList output.out)
    IO.eprint (String.ofList output.err)
    return output.status.toUInt32
  | .error e =>
    IO.eprintln (String.ofList e.message)
    return 1

end

end PlaybookAssist

open PlaybookAssist in
/-- Shows the completion request for a place in a file. -/
def main (arguments : List String) : IO UInt32 := do
  let here := (← IO.currentDir).toString
  let home := (← IO.getEnv "HOME").getD "/"
  match Place.of? here.toList home.toList with
  | some place =>
    letI := place
    Program.main (arguments.map String.toList)
  | none =>
    IO.eprintln "the working directory is not known"
    return 1
