import PlaybookAssist.Role.Cache
import PlaybookAssist.Variables

/-!
# The context of a document

What goes with a completion request: for a playbook its variable files and the roles it can refer
to, for a task file of a role that role, for other task files the variables they include.

## Main definitions

- `ContextBranch`, `AdditionalContext` : the context
- `AdditionalContext.toTable` : its form in a request, of which at most one branch is filled
- `Workspace` : the workspace folders; `Workspace.rootFor` is the one that a document belongs to
- `AdditionalContext.assemble` : the context of a document
-/

namespace PlaybookAssist

/-- The part of a context that is filled. Variable files are there in the form that they have in a
    request. -/
inductive ContextBranch where
  /-- The listed files, the visible roles and the included files of a playbook. -/
  | playbook (listed : Value) (roles : Roles) (included : Value)
  | role (context : RoleContext)
  /-- The included files of a task file outside of roles. -/
  | tasks (included : Value)
  deriving DecidableEq, Repr

/-- The form of a branch in a request. -/
def ContextBranch.toMapping : ContextBranch → Mapping
  | .playbook listed roles included =>
    Mapping.ofTexts
      [("varInfiles", listed),
       ("roles", .map (Mapping.ofTexts (roles.map fun p => (p.1, .map p.2.toMapping)))),
       ("includeVars", included)]
  | .role context => context.toMapping
  | .tasks included => Mapping.ofTexts [("includeVars", included)]

/-- The context of a document of a kind. -/
structure AdditionalContext where
  fileType : FileType
  branch : Option ContextBranch
  deriving DecidableEq, Repr

namespace AdditionalContext

/-- The key of the branch that a kind of file fills. -/
def branchKey? : FileType → Option Text
  | .playbook => some "playbookContext"
  | .tasksInRole => some "roleContext"
  | .tasks => some "standaloneTaskContext"
  | .other => none

/-- The keys of all branches. -/
def branchKeys : List Text := ["playbookContext", "roleContext", "standaloneTaskContext"]

/-- The form of a context in a request: all branches are there, the one of the kind of file is
    filled. -/
def toTable (c : AdditionalContext) : Table Value :=
  branchKeys.map fun key =>
    match c.branch with
    | some b => (key, .map (if branchKey? c.fileType = some key then b.toMapping else []))
    | none => (key, .map [])

/-- The form of a context as a mapping. -/
def toMapping (c : AdditionalContext) : Mapping :=
  Mapping.ofTexts c.toTable

end AdditionalContext

/-! ## Workspace folders -/

/-- The absolute paths of the folders that are open. -/
structure Workspace where
  folders : List Text
  deriving DecidableEq, Repr, Inhabited

namespace Workspace

variable [Place]

/-- The workspace of folders given by any paths. -/
def ofFolders (folders : List Text) : Workspace :=
  ⟨folders.map Path.absolute⟩

/-- The first longest of some texts, of which there is at least one. -/
def longest (first : Text) (others : List Text) : Text :=
  others.foldl (fun best t => if best.length < t.length then t else best) first

/-- The innermost folder that a document lies in, or the first folder when it lies in none. -/
def rootFor (w : Workspace) (path : Text) : Option Text :=
  match w.folders.filter fun folder => Path.isWithin path folder with
  | first :: others => some (longest first others)
  | [] => w.folders.head?

end Workspace

/-! ## Assembly -/

namespace AdditionalContext

variable [Place]

/-- The branch of a playbook. -/
def playbookBranch (fs : FileTree) (root : Option Text) (document : Value) (directory : Text)
    (cache : RoleCache) : RoleCache.Result ContextBranch :=
  match Variables.listed fs document directory with
  | .error e => (cache, .error e)
  | .ok listed =>
    match cache.visible fs root directory with
    | (cache, .error e) => (cache, .error e)
    | (cache, .ok roles) =>
      (cache, (Variables.included fs document directory .playbook none).map
        fun included => .playbook (.map listed.toMapping) roles (.map included.toMapping))

/-- What the cache knows of the role that a file lies in. -/
def ownRole (fs : FileTree) (root : Option Text) (role : Option Text) (cache : RoleCache) :
    RoleCache.Result (Option RoleContext) :=
  match root, role with
  | some w, some r => if w.isEmpty then (cache, .ok none) else cache.role? fs w r
  | _, _ => (cache, .ok none)

/-- The branch of a task file of a role. The cache keeps its own copy of the role, without the files
    that this document includes. -/
def roleBranch (fs : FileTree) (root : Option Text) (document : Value) (directory path : Text)
    (cache : RoleCache) : RoleCache.Result ContextBranch :=
  let role := Role.enclosing? path
  match ownRole fs root role cache with
  | (cache, .error e) => (cache, .error e)
  | (cache, .ok known) =>
    let context := known.getD RoleContext.unknown
    (cache, (Variables.included fs document directory .tasksInRole role).map
      fun included => .role { context with included := some (.map included.toMapping) })

/-- The context of a document of a kind, at a path in a directory. -/
def assemble (fs : FileTree) (workspace : Workspace) (document : Value) (directory path : Text)
    (type : FileType) (cache : RoleCache) : RoleCache.Result AdditionalContext :=
  let root := workspace.rootFor path
  let ofBranch : RoleCache.Result ContextBranch → RoleCache.Result AdditionalContext
    | (cache, r) => (cache, r.map fun b => ⟨type, some b⟩)
  match type with
  | .playbook => ofBranch (playbookBranch fs root document directory cache)
  | .tasksInRole => ofBranch (roleBranch fs root document directory path cache)
  | .tasks =>
    ofBranch (cache, (Variables.included fs document directory .tasks none).map
      fun included => .tasks (.map included.toMapping))
  | .other => (cache, .ok ⟨type, none⟩)

end AdditionalContext

end PlaybookAssist
