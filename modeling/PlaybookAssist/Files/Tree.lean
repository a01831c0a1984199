import PlaybookAssist.Path
import PlaybookAssist.Text.Quoted

/-!
# File trees

A file system is a tree of directories with files at its leaves. A path is followed component by
component: every component but the last has to be a directory, also before a step up.

## Main definitions

- `Entry` : a file with its octets, or a directory with its named entries
- `FileTree.entry` : what a path leads to, or why it leads nowhere
- `FileTree.readFile`, `FileTree.isDirectory`, `FileTree.isFile`, `FileTree.list` : the queries
- `FileTree.writeFile`, `FileTree.makeDirectories`, `FileTree.remove` : the changes
-/

namespace PlaybookAssist

/-! ## Errors -/

/-- Why the file system refuses a path. -/
inductive FileError where
  | notFound
  | exists
  | notADirectory
  | isADirectory
  /-- The path holds the zero character, which ends every path. -/
  | zeroCharacter
  | nameTooLong
  deriving DecidableEq, Repr

/-- The number of an error. -/
def FileError.number : FileError → Nat
  | .notFound => 2
  | .exists => 17
  | .notADirectory => 20
  | .isADirectory => 21
  | .zeroCharacter => 22
  | .nameTooLong => 36

/-- The wording of an error. -/
def FileError.reason : FileError → Text
  | .notFound => "No such file or directory"
  | .exists => "File exists"
  | .notADirectory => "Not a directory"
  | .isADirectory => "Is a directory"
  | .zeroCharacter => "Invalid argument"
  | .nameTooLong => "File name too long"

/-- The wording of an error about a path. -/
def FileError.message (e : FileError) (path : Text) : Text :=
  "[Errno ".toList ++ Text.ofNat e.number ++ "] ".toList ++ e.reason ++ ": ".toList
    ++ path.quoted

/-! ## Trees -/

/-- A file or a directory. -/
inductive Entry where
  | file (content : Octets)
  | directory (entries : List (Text × Entry))
  deriving Repr, Inhabited

namespace Entry

/-- Is this a directory? -/
def isDirectory : Entry → Bool
  | .directory _ => true
  | .file _ => false

/-- The named entries of a directory; a file has none. -/
def entries : Entry → List (Text × Entry)
  | .directory es => es
  | .file _ => []

/-- The entry with the given name. -/
def child? (e : Entry) (name : Text) : Option Entry :=
  e.entries.lookup name

/-- The entries with the named one changed, dropped when `f` gives none, added when it is new. -/
def alterEntries (name : Text) (f : Option Entry → Option Entry) :
    List (Text × Entry) → List (Text × Entry)
  | [] => ((f none).map fun e => (name, e)).toList
  | (n, e) :: rest =>
    if n = name then ((f (some e)).map fun e' => (n, e')).toList ++ rest
    else (n, e) :: alterEntries name f rest

/-- The tree with the entry at the end of a way changed; where the way does not exist, directories
    are made of it. -/
def alter (f : Option Entry → Option Entry) : List Text → Option Entry → Option Entry
  | [], e => f e
  | n :: ns, e =>
    let es := (e.map entries).getD []
    some (.directory (alterEntries n (alter f ns) es))

end Entry

/-- A file system: the entries of the root directory. -/
structure FileTree where
  root : Entry
  deriving Repr, Inhabited

namespace FileTree

variable [Place]

/-! ## Following a path -/

/-- The longest name of an entry, in octets. -/
def nameLimit : Nat := 255

/-- The longest path, in octets. -/
def pathLimit : Nat := 4096

/-- The components of a path in the order in which they are followed; a trailing slash asks for a
    directory. -/
def stepsOf (path : Text) : List Text :=
  let parts := (Text.splitOn '/' path).filter fun c => !c.isEmpty
  if path.getLast? == some '/' then parts ++ [['.']] else parts

/-- Where a way of components leads from a directory; `above` holds the directories on the way
    there, the nearest first, each with the names that lead to it from the root. -/
def follow (above : List (List Text × Entry)) (here : List Text × Entry) :
    List Text → Except FileError (List Text × Entry)
  | [] => .ok here
  | c :: rest =>
    if !here.2.isDirectory then .error .notADirectory
    else if c = ['.'] then follow above here rest
    else if c = ['.', '.'] then
      match above with
      | [] => follow [] here rest
      | up :: further => follow further up rest
    else if nameLimit < (Utf8.encode c).length then .error .nameTooLong
    else match here.2.child? c with
      | none => .error .notFound
      | some e => follow (here :: above) (here.1 ++ [c], e) rest

/-- The names from the root and the entry that a path leads to, seen from the working directory. -/
def locate (fs : FileTree) (path : Text) : Except FileError (List Text × Entry) :=
  if path.elem '\x00' then .error .zeroCharacter
  else if path.isEmpty then .error .notFound
  else if pathLimit ≤ (Utf8.encode path).length then .error .nameTooLong
  else
    let steps := if Path.isAbsolute path then stepsOf path
      else stepsOf Place.workingDirectory ++ stepsOf path
    follow [] ([], fs.root) steps

/-- What a path leads to. -/
def entry (fs : FileTree) (path : Text) : Except FileError Entry :=
  (fs.locate path).map (·.2)

/-! ## Queries -/

/-- Does the path lead to a directory? -/
def isDirectory (fs : FileTree) (path : Text) : Bool :=
  match fs.entry path with
  | .ok e => e.isDirectory
  | .error _ => false

/-- Does the path lead to a file? -/
def isFile (fs : FileTree) (path : Text) : Bool :=
  match fs.entry path with
  | .ok e => !e.isDirectory
  | .error _ => false

/-- Does the path lead anywhere? -/
def pathExists (fs : FileTree) (path : Text) : Bool :=
  match fs.entry path with
  | .ok _ => true
  | .error _ => false

/-- The names in a directory. -/
def list (fs : FileTree) (path : Text) : Except FileError (List Text) := do
  match ← fs.entry path with
  | .directory es => pure (es.map (·.1))
  | .file _ => throw .notADirectory

/-- The octets of a file. -/
def readFile (fs : FileTree) (path : Text) : Except FileError Octets := do
  match ← fs.entry path with
  | .file content => pure content
  | .directory _ => throw .isADirectory

/-! ## Changes -/

/-- The tree with the entry at a way of names changed. -/
def alterAt (fs : FileTree) (way : List Text) (f : Option Entry → Option Entry) : FileTree :=
  ⟨(Entry.alter f way (some fs.root)).getD fs.root⟩

/-- The tree with a new directory at a path whose parent is a directory. -/
def makeDirectory (fs : FileTree) (path : Text) : Except FileError FileTree :=
  let trimmed := Text.trimEnd (· = '/') path
  match fs.locate path with
  | .ok _ => .error .exists
  | .error .notFound => do
    let up := Path.parent trimmed
    let (way, above) ← fs.locate (if up.isEmpty then ['.'] else up)
    if !above.isDirectory then throw .notADirectory
    let name := Path.name trimmed
    if nameLimit < (Utf8.encode name).length then throw .nameTooLong
    pure (fs.alterAt (way ++ [name]) fun _ => some (.directory []))
  | .error e => .error e

/-- The tree with a directory at a path, made in at most `fuel` steps up along missing ones; one
    that is there stays as it is, and so does one that is named `.` below a missing one. -/
def makeDirectoriesIn (fuel : Nat) (fs : FileTree) (path : Text) : Except FileError FileTree :=
  match fuel with
  | 0 => .ok fs
  | fuel + 1 => do
    let trimmed := if (Path.name path).isEmpty then Path.parent path else path
    let up := Path.parent trimmed
    let last := Path.name trimmed
    let missing := !up.isEmpty && !last.isEmpty && !fs.pathExists up
    let fs ←
      if missing then
        match makeDirectoriesIn fuel fs up with
        | .error .exists => pure fs
        | result => result
      else pure fs
    if missing && last = ['.'] then pure fs
    else match fs.makeDirectory path with
      | .ok made => pure made
      | .error e => if fs.isDirectory path then pure fs else throw e

/-- The tree with a directory at a path and at every missing place on the way there. -/
def makeDirectories (fs : FileTree) (path : Text) : Except FileError FileTree :=
  makeDirectoriesIn (path.length + 1) fs path

/-- The tree with a file at a path whose parent is a directory. -/
def putFile (fs : FileTree) (path : Text) (content : Octets) : Except FileError FileTree :=
  match fs.locate path with
  | .ok (way, .file _) => .ok (fs.alterAt way fun _ => some (.file content))
  | .ok (_, .directory _) => .error .isADirectory
  | .error .notFound => do
    if (Path.name path).isEmpty then throw .isADirectory
    let up := Path.parent path
    let (way, above) ← fs.locate (if up.isEmpty then ['.'] else up)
    if !above.isDirectory then throw .notADirectory
    pure (fs.alterAt (way ++ [Path.name path]) fun _ => some (.file content))
  | .error e => .error e

/-- The tree with a file at a path, directories made on the way there. -/
def writeFile (fs : FileTree) (path : Text) (content : Octets) : Except FileError FileTree := do
  let up := Path.parent path
  let fs ← if up.isEmpty then pure fs else fs.makeDirectories up
  fs.putFile path content

/-- The tree without what a path leads to. -/
def remove (fs : FileTree) (path : Text) : FileTree :=
  match fs.locate path with
  | .ok (way, _) => if way.isEmpty then fs else fs.alterAt way fun _ => none
  | .error _ => fs

/-- The tree that holds nothing but the working directory. -/
def empty : FileTree :=
  (FileTree.mk (.directory [])).alterAt (stepsOf Place.workingDirectory)
    fun _ => some (.directory [])

end FileTree

end PlaybookAssist
