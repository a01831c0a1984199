import PlaybookAssist.Files.Load
import PlaybookAssist.Files.Wildcard

/-!
# Kinds of files

A document is a playbook when its last entry has a key that only plays have; otherwise the layout of
directories around it decides.

## Main definitions

- `FileType` : the kinds
- `FileType.ofDocument` : the kind of a document with a path
- `FileType.detect` : the same, with the document read from the path when it is not given
-/

namespace PlaybookAssist

/-- The kinds of files. -/
inductive FileType where
  | playbook
  | tasksInRole
  | tasks
  | other
  deriving DecidableEq, Repr

namespace FileType

variable [Place]

/-- The name of a kind. -/
def name : FileType → Text
  | .playbook => "playbook"
  | .tasksInRole => "tasks_in_role"
  | .tasks => "tasks"
  | .other => "other"

/-- The kind of the given name; a name of no kind counts as other. -/
def ofName (t : Text) : FileType :=
  ([.playbook, .tasksInRole, .tasks] : List FileType).find? (fun k => k.name == t) |>.getD .other

/-- The keys that only plays have. -/
def playKeywords : List Text :=
  ["hosts", "import_playbook", "ansible.builtin.import_playbook", "roles", "tasks", "pre_tasks",
   "post_tasks", "handlers", "gather_facts", "gather_subset", "gather_timeout", "fact_path",
   "vars_files", "vars_prompt", "strategy", "serial", "max_fail_percentage", "force_handlers",
   "order"]

/-- The layouts in order of precedence. -/
def layouts : List (Text × FileType) :=
  [("*/roles/*/tasks/*.yml", .tasksInRole), ("*/roles/*/tasks/*.yaml", .tasksInRole),
   ("*/tasks/*.yml", .tasks), ("*/tasks/*.yaml", .tasks),
   ("*/playbooks/*.yml", .playbook), ("*/playbooks/*.yaml", .playbook)]

/-- Does the mapping have a key that only plays have? -/
def isPlay (ps : Mapping) : Bool :=
  ps.any fun p =>
    match p.1 with
    | .str key => playKeywords.elem key
    | _ => false

/-- The kind that the layout of directories gives a path. -/
def ofPath (path : Text) : FileType :=
  match layouts.find? fun l => Wildcard.fits l.1 path with
  | some l => l.2
  | none => .other

/-- The kind of a document with a path. -/
def ofDocument (path : Text) (document : Value) : FileType :=
  match (document.asList?.bind List.getLast?).bind Value.asMap? with
  | some ps => if isPlay ps then .playbook else ofPath path
  | none => .other

/-- The kind of a document with a path; without a document the file at the path is read, which
    counts for nothing when it cannot be opened or is malformed. -/
def detect (fs : FileTree) (path : Text) (document : Value) : Except Failure FileType :=
  match document with
  | .null => do
    let read ← fs.load? path
    pure (ofDocument path (read.getD .null))
  | v => .ok (ofDocument path v)

end FileType

end PlaybookAssist
