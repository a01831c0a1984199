import PlaybookAssist.Failure
import PlaybookAssist.Files.Search

/-!
# Role directories

Roles live in directories named `roles`: below a workspace, at any depth, or at the places where
roles are installed for everyone.

## Main definitions

- `Role.directoriesBelow` : the `roles` directories of a workspace
- `Role.installedDirectories` : the installation directories that exist
- `Role.enclosing?` : the role that a file lies in, from its path alone
- `Role.ownerIn?` : the role of a given `roles` directory that a path lies in
-/

namespace PlaybookAssist.Role

variable [Place]

/-- The name of a directory that holds roles. -/
def directoryName : Text := "roles"

/-- Directories below which no roles are looked for. -/
def ignoredDirectories : List Text := [".git", "node_modules"]

/-- The places where roles are installed for everyone. -/
def standardDirectories : List Text :=
  ["~/.ansible/roles", "/usr/share/ansible/roles", "/etc/ansible/roles"]

/-- Is one of the components the name of an ignored directory? -/
def isIgnored (components : List Text) : Bool :=
  components.any fun c => ignoredDirectories.elem c

/-- The `roles` directories below a workspace, in the order of their paths. The path of the workspace
    is part of the search pattern as it is written. -/
def directoriesBelow (fs : FileTree) (workspace : Option Text) : Except Failure (List Text) :=
  match workspace with
  | none => .ok []
  | some w => do
    if w.isEmpty then pure []
    else
      let pattern := Path.join (Path.join w FileTree.anyDepth) directoryName
      let found ← (fs.search pattern).mapError (Failure.ofFileError pattern)
      let kept := (Text.sort found).filter fun p =>
        !isIgnored (Text.splitOn '/' (Path.normalise p)) && fs.isDirectory p
      pure (kept.map Path.absolute)

/-- The installation directories that exist, the home directory put in for `~`. -/
def installedDirectories (fs : FileTree) (standard : List Text) : List Text :=
  (standard.map Path.expandHome).filter fs.isDirectory

/-- The parts of a path up to and with the one after the last `roles` that at least two more parts
    follow; the parts are given with the last one first. -/
def enclosingParts? : List Text → Option (List Text)
  | role :: roles :: above =>
    if roles = directoryName then some (role :: roles :: above)
    else enclosingParts? (roles :: above)
  | _ => none

/-- The role directory that a file lies in: `roles` and one more component, with the file below. -/
def enclosing? (path : Text) : Option Text := do
  let parts := Text.splitOn '/' (Path.normalise path)
  let found ← enclosingParts? (parts.reverse.drop 1)
  let role := Text.joinWith "/" found.reverse
  if role.isEmpty then none else some role

/-- The role of the given `roles` directory that a path lies in or is. -/
def ownerIn? (rolesDirectory path : Text) : Option Text :=
  if !Path.isWithin path rolesDirectory then none
  else
    let way := Path.relativeTo rolesDirectory path
    if way = ['.'] then none
    else some (Path.join rolesDirectory ((Text.splitOn '/' way).headD []))

end PlaybookAssist.Role
