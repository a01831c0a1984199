import PlaybookAssist.Files.Load
import PlaybookAssist.FileType
import PlaybookAssist.Prompt
import PlaybookAssist.Role.Context
import PlaybookAssist.Text.Words

/-!
# Variable files of a document

Plays name variable files under `vars_files`; tasks include them with `include_vars`. A file that is
missing or holds no mapping is left out. A path with a template in it names no file yet.

How a file is loaded is left open; the files of a tree are loaded as `FileTree.loadMapping` does it.

## Main definitions

- `Variables.Loader` : what gives the mapping of a file
- `Variables.listed` : the files that the plays of a document list
- `Variables.included` : the files that the tasks of a document include
- `Variables.visits` : the walk through the tasks of a document
- `Variables.targets` : the paths that the tasks include
- `Variables.add` : one more file, looked for in some directories in order
-/

namespace PlaybookAssist.Variables

/-! ## Files -/

/-- What gives the mapping of a file, or nothing when the file counts as absent. -/
abbrev Loader := Text → Except Failure (Option Mapping)

instance [Place] : Coe FileTree Loader := ⟨FileTree.loadMapping⟩

/-- Does the path hold the start of a template? -/
def isTemplated (path : Text) : Bool :=
  Text.contains "\x7b\x7b" path || Text.contains "\x7b%" path

/-- The mapping of a file in the first of the directories in which it counts as present. -/
def loadFrom (load : Loader) (path : Text) : List Text → Except Failure (Option Mapping)
  | [] => .ok none
  | directory :: others => do
    let full := if Path.isAbsolute path then path else Path.join directory path
    match ← load (Path.normalise full) with
    | some m => pure (some m)
    | none => loadFrom load path others

/-- The files with one more, looked for in the directories in order, and whether it is among them
    now. -/
def add (load : Loader) (directories : List Text) (files : VariableFiles) (path : Value) :
    Except Failure (VariableFiles × Bool) :=
  match path with
  | .str p =>
    if p.isEmpty || isTemplated p then .ok (files, false)
    else if files.hasKey p then .ok (files, true)
    else do
      match ← loadFrom load p directories with
      | some m => pure (files.set p m, true)
      | none => pure (files, false)
  | _ => .ok (files, false)

/-! ## Files that plays list -/

/-- The files with the first of the candidates that can be loaded. -/
def addFirst (load : Loader) (directory : Text) (files : VariableFiles) :
    List Value → Except Failure VariableFiles
  | [] => .ok files
  | c :: cs => do
    let (files, isThere) ← add load [directory] files c
    if isThere then pure files else addFirst load directory files cs

/-- The files with those of the entries; an entry that is a list stands for the first of its files
    that can be loaded. -/
def addEntries (load : Loader) (directory : Text) (files : VariableFiles) :
    List Value → Except Failure VariableFiles
  | [] => .ok files
  | e :: es => do
    let files ← addFirst load directory files (e.asList?.getD [e])
    addEntries load directory files es

/-- The entries under `vars_files` of a play. -/
def listedIn (play : Value) : List Value :=
  ((play.asMap?.bind (Mapping.find? "vars_files")).bind Value.asList?).getD []

/-- The values that a document of any kind consists of. -/
def entriesOf (document : Value) : Except Failure (List Value) :=
  if !document.isTruthy then .ok []
  else match document.content with
    | .list xs | .tuple xs | .set xs => .ok xs
    | .map ps => .ok (ps.map (·.1))
    | .str t => .ok (t.map fun c => .str [c])
    | .bytes bs => .ok (bs.map fun b => .int b.toNat)
    | v => .error (.wrongKind ('\x27' :: v.kindName ++ "' object is not iterable".toList))

/-- The files that the plays of a document list, relative to a directory. -/
def listed (load : Loader) (document : Value) (directory : Text) :
    Except Failure VariableFiles := do
  let plays ← entriesOf document
  addEntries load directory [] (plays.flatMap listedIn)

/-! ## Files that tasks include -/

/-- The names of the module that includes variable files. -/
def includeModules : List Text :=
  ["include_vars", "ansible.builtin.include_vars", "ansible.legacy.include_vars"]

/-- The file of arguments in one line: what follows `file=`, or the first word if it is no
    assignment, or else the whole line. -/
def fileOfLine (line : Text) : Text :=
  match Text.words? line with
  | none => Text.strip line
  | some words =>
    match words.findSome? (Text.dropStart? "file=") with
    | some file => file
    | none =>
      match words with
      | first :: _ => if first.elem '=' then Text.strip line else first
      | [] => Text.strip line

/-- The file that the arguments of the module name. -/
def targetOf? (arguments : Value) : Option Text :=
  match arguments.content with
  | .str line => some (fileOfLine line)
  | .map ps =>
    match Mapping.find? "file" ps with
    | some (.str file) => some file
    | _ => none
  | _ => none

/-- The path that a task includes, if it includes one. -/
def target? (task : Mapping) : Option Text :=
  includeModules.findSome? fun name => (Mapping.find? name task).bind targetOf?

/-- What a walk through the tasks of a document meets. -/
inductive Visit where
  | task (task : Mapping)
  /-- A list of tasks, or a task, that is part of one of its own blocks: the walk has no end. -/
  | again
  deriving DecidableEq, Repr

namespace Visit

/-- Does the walk go on? -/
def isTask : Visit → Bool
  | .task _ => true
  | .again => false

/-- The path that the task includes, if it includes one. -/
def target? : Visit → Option Text
  | .task ps => Variables.target? ps
  | .again => none

end Visit

mutual

/-- The walk through a list of tasks inside the knots of the given names; each task comes before
    those of its own blocks. -/
def visitsIn (around : List Nat) : Value → List Visit
  | .list xs => visitsAmong around xs
  | .knot n v => if around.elem n then [.again] else visitsIn (n :: around) v
  | _ => []

/-- The walk through some values of a list of tasks. -/
def visitsAmong (around : List Nat) : List Value → List Visit
  | [] => []
  | x :: rest => visitsFrom around x ++ visitsAmong around rest

/-- The walk through the task that a value is, if it is one, and through its blocks. -/
def visitsFrom (around : List Nat) : Value → List Visit
  | .map ps =>
    .task ps :: (visitsUnder around "block" ps ++ visitsUnder around "rescue" ps
      ++ visitsUnder around "always" ps)
  | .knot n v => if around.elem n then [.again] else visitsFrom (n :: around) v
  | _ => []

/-- The walk through the list of tasks under a key of a mapping. -/
def visitsUnder (around : List Nat) (key : Text) : List (Value × Value) → List Visit
  | [] => []
  | (k, v) :: rest =>
    if Value.sameKey k (.str key) then visitsIn around v else visitsUnder around key rest

end

/-- The lists of tasks of a document: of a playbook those in the sections of its plays, otherwise the
    document itself. -/
def taskLists (document : Value) (type : FileType) : Except Failure (List Value) :=
  if type = .playbook then do
    let plays ← entriesOf document
    pure (plays.flatMap fun play =>
      Prompt.taskSections.filterMap fun key => play.asMap?.bind (Mapping.find? key))
  else .ok [document]

/-- The walk through the tasks of a document. -/
def visits (document : Value) (type : FileType) : Except Failure (List Visit) := do
  pure ((← taskLists document type).flatMap (visitsIn []))

/-- The paths that the tasks of a document include, in order, as far as the walk gets. -/
def targets (document : Value) (type : FileType) : Except Failure (List Text) := do
  pure (((← visits document type).takeWhile Visit.isTask).filterMap Visit.target?)

/-- The files with those at the given paths. -/
def addAll (load : Loader) (directories : List Text) (files : VariableFiles) :
    List Text → Except Failure VariableFiles
  | [] => .ok files
  | p :: ps => do
    let (files, _) ← add load directories files (.str p)
    addAll load directories files ps

/-- The directories in which an included file is looked for: inside a role its own variables come
    first. -/
def searchDirectories (directory : Text) (type : FileType) (role : Option Text) : List Text :=
  match type, role with
  | .tasksInRole, some r => if r.isEmpty then [directory] else [Path.join r "vars", directory]
  | _, _ => [directory]

/-- The files that the tasks of a document include. A walk without end fails after the files on its
    way have been loaded. -/
def included (load : Loader) (document : Value) (directory : Text) (type : FileType)
    (role : Option Text) : Except Failure VariableFiles := do
  let paths ← targets document type
  let files ← addAll load (searchDirectories directory type role) [] paths
  if (← visits document type).all Visit.isTask then pure files else throw .endless

end PlaybookAssist.Variables
