import PlaybookAssist.Files.Load
import PlaybookAssist.Role.Context
import PlaybookAssist.Role.Directory

/-!
# Reading roles

## Main definitions

- `Role.listIn` : the roles of a `roles` directory
- `Role.documents`, `Role.sections?` : what the subdirectories of a role hold
- `Role.read?` : what is known of a role, unless its directory is gone or cannot be listed
-/

namespace PlaybookAssist.Role

variable [Place]

/-- The subdirectories of a role whose files declare variables. -/
def variableSections : List Text := ["defaults", "vars"]

/-- The endings of the names of document files. -/
def documentEndings : List Text := [".yml", ".yaml"]

/-- Is this the name of a document file? -/
def isDocumentName (name : Text) : Bool :=
  documentEndings.any fun ending => Text.endsWith ending name

/-- The paths of the roles of a `roles` directory in the order of their names; hidden directories
    are no roles. There are none where no directory is. -/
def listIn (fs : FileTree) (rolesDirectory : Text) : Except Failure (List Text) :=
  match fs.list rolesDirectory with
  | .error .zeroCharacter => .error (.ofFileError rolesDirectory .zeroCharacter)
  | .error _ => .ok []
  | .ok names =>
    let roles := (Text.sort names).filter fun n =>
      !isHidden n && fs.isDirectory (Path.join rolesDirectory n)
    .ok (roles.map fun n => Path.join rolesDirectory n)

/-- The names of the document files in a directory, ascending; none if there is no such directory. -/
def documents (fs : FileTree) (directory : Text) : Except FileError (List Text) :=
  if !fs.isDirectory directory then .ok []
  else (fs.list directory).map fun names =>
    Text.sort (names.filter fun n => isDocumentName n && fs.isFile (Path.join directory n))

/-- The variables of the given files of a directory. A file that counts as absent is left out. -/
def variablesOf (fs : FileTree) (directory : Text) : List Text → Except Failure VariableFiles
  | [] => .ok []
  | name :: names => do
    let here ← fs.loadMapping (Path.join directory name)
    let others ← variablesOf fs directory names
    pure ((here.map fun m => (name, m)).toList ++ others)

/-- The variable files of each section that declares variables, unless one of the sections is a
    directory that cannot be listed. -/
def sections? (fs : FileTree) (role : Text) :
    List Text → Except Failure (Option (Table VariableFiles))
  | [] => .ok (some [])
  | sectionName :: sections =>
    let directory := Path.join role sectionName
    match documents fs directory with
    | .error _ => .ok none
    | .ok names => do
      let here ← variablesOf fs directory names
      let others? ← sections? fs role sections
      pure (others?.map fun others =>
        if here.isEmpty then others else (sectionName, here) :: others)

/-- What is known of the role at a path, unless there is no directory, or one in it cannot be
    listed. -/
def read? (fs : FileTree) (role : Text) : Except Failure (Option RoleContext) :=
  if !fs.isDirectory role then .ok none
  else
    match documents fs (Path.join role "tasks") with
    | .error _ => .ok none
    | .ok tasks => do
      let found? ← sections? fs role variableSections
      let name := Path.name (Path.normalise role)
      pure (found?.map fun sections =>
        ⟨some name, tasks, .map (VariableFiles.sectionsToMapping sections), none⟩)

end PlaybookAssist.Role
