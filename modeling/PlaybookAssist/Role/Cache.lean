import PlaybookAssist.Role.Reader

/-!
# The role cache

What is known of the roles of a workspace is read once, when the workspace is first asked for.
Changes are queued and worked off before every look at the cache, one role at a time.

## Main definitions

- `RoleChange` : the report of a change in a role directory
- `RoleCache` : the roles of each workspace asked for, and the changes not worked off
- `RoleCache.rolesOf`, `RoleCache.commonRoles`, `RoleCache.visible` : what is known
- `RoleCache.post`, `RoleCache.postForPath`, `RoleCache.workOff` : changes
-/

namespace PlaybookAssist

/-- Why a role may have changed. -/
inductive ChangeKind where
  | fileOpen
  | fileClose
  | tabChange
  | modified
  | deleted
  deriving DecidableEq, Repr

namespace ChangeKind

/-- The name of a kind of change. -/
def name : ChangeKind → Text
  | .fileOpen => "FILE_OPEN"
  | .fileClose => "FILE_CLOSE"
  | .tabChange => "TAB_CHANGE"
  | .modified => "MODIFIED"
  | .deleted => "DELETED"

/-- The kind of change of a given name. -/
def ofName? (t : Text) : Option ChangeKind :=
  ([.fileOpen, .fileClose, .tabChange, .modified, .deleted] : List ChangeKind).find?
    fun k => k.name == t

end ChangeKind

/-- The report that something changed in a role of a workspace. -/
structure RoleChange where
  workspace : Text
  role : Text
  kind : ChangeKind
  deriving DecidableEq, Repr

/-- The roles of a workspace under their paths. -/
abbrev Roles := Table RoleContext

/-- What is known of roles, by workspace. -/
structure RoleCache where
  /-- The places where roles are installed for everyone. -/
  standardDirectories : List Text
  /-- The roles of each workspace that was asked for. -/
  entries : Table Roles
  /-- The `roles` directories found so far, each with the workspace it was last found for. -/
  directories : Table Text
  /-- The changes that have not been worked off, the oldest first. -/
  queue : List RoleChange
  /-- The `roles` directories found, with their workspaces, of which no one has been told yet. -/
  discovered : List (Text × Text)
  deriving DecidableEq, Repr, Inhabited

namespace RoleCache

variable [Place]

/-- A cache that knows nothing. -/
def empty (standardDirectories : List Text) : RoleCache :=
  ⟨standardDirectories, [], [], [], []⟩

/-- The key under which the roles installed for everyone are kept. -/
def commonKey : Text := "common"

/-- An operation on a cache gives the cache after it and an answer or failure. What was done before
    a failure stays done. -/
abbrev Result (α : Type) := RoleCache × Except Failure α

/-! ## Finding roles -/

/-- The roles of a `roles` directory entered among those known; a role of which nothing can be
    learnt is left out. -/
def readRoles (fs : FileTree) (known : Roles) : List Text → Except Failure Roles
  | [] => .ok known
  | role :: roles => do
    match ← Role.read? fs role with
    | some context => readRoles fs (known.set role context) roles
    | none => readRoles fs known roles

/-- The roles of the given `roles` directories entered among those known. Each directory is noted
    before it is read. -/
def populateFrom (fs : FileTree) (key : Text) (cache : RoleCache) (known : Roles) :
    List Text → Result Roles
  | [] => (cache, .ok known)
  | directory :: directories =>
    let cache := { cache with
      directories := cache.directories.set directory key
      discovered := cache.discovered ++ [(directory, key)] }
    match Role.listIn fs directory >>= readRoles fs known with
    | .ok known => populateFrom fs key cache known directories
    | .error e => (cache, .error e)

/-- The cache with the roles of the given `roles` directories under a key, if all can be read. -/
def populate (fs : FileTree) (key : Text) (directories : List Text) (cache : RoleCache) :
    Result Roles :=
  match populateFrom fs key cache [] directories with
  | (cache, .ok roles) => ({ cache with entries := cache.entries.set key roles }, .ok roles)
  | (cache, .error e) => (cache, .error e)

/-! ## Changes -/

/-- The cache with one more change to work off. -/
def post (change : RoleChange) (cache : RoleCache) : RoleCache :=
  { cache with queue := cache.queue ++ [change] }

/-- The `roles` directories with their workspaces, those with the longest paths first. -/
def directoriesByLength (cache : RoleCache) : List (Text × Text) :=
  cache.directories.mergeSort fun a b => b.1.length ≤ a.1.length

/-- The role that a path lies in, with its workspace: the first match among the `roles` directories,
    the longest path first. -/
def ownerOf? (cache : RoleCache) (path : Text) : Option (Text × Text) :=
  cache.directoriesByLength.findSome? fun d => (Role.ownerIn? d.1 path).map fun role => (d.2, role)

/-- The cache with a change of the role that a path lies in, and whether it lies in any. -/
def postForPath (path : Text) (kind : ChangeKind) (cache : RoleCache) : RoleCache × Bool :=
  match cache.ownerOf? path with
  | some (workspace, role) => (cache.post ⟨workspace, role, kind⟩, true)
  | none => (cache, false)

/-- The cache with one role of a workspace read anew, or dropped when its directory is gone. A
    workspace that has not been asked for stays unknown. -/
def refresh (fs : FileTree) (workspace role : Text) (cache : RoleCache) : Result Unit :=
  match cache.entries.find? workspace with
  | none => (cache, .ok ())
  | some roles =>
    match Role.read? fs role with
    | .error e => (cache, .error e)
    | .ok none => ({ cache with entries := cache.entries.set workspace (roles.erase role) }, .ok ())
    | .ok (some context) =>
      ({ cache with entries := cache.entries.set workspace (roles.set role context) }, .ok ())

/-- The cache after the given changes, with their number. After a failure the later changes are
    still to be worked off. -/
def workOffAll (fs : FileTree) (cache : RoleCache) (handled : Nat) :
    List RoleChange → Result Nat
  | [] => ({ cache with queue := [] }, .ok handled)
  | change :: changes =>
    match refresh fs change.workspace change.role cache with
    | (cache, .ok ()) => workOffAll fs cache (handled + 1) changes
    | (cache, .error e) => ({ cache with queue := changes }, .error e)

/-- The cache after all queued changes, with their number. -/
def workOff (fs : FileTree) (cache : RoleCache) : Result Nat :=
  workOffAll fs cache 0 cache.queue

/-! ## Looking at the cache -/

/-- The roles under a key, read from the given directories if the key has not been asked for. -/
def lookUp (fs : FileTree) (key : Text) (directories : Except Failure (List Text))
    (cache : RoleCache) : Result Roles :=
  match cache.workOff fs with
  | (cache, .error e) => (cache, .error e)
  | (cache, .ok _) =>
    match cache.entries.find? key with
    | some roles => (cache, .ok roles)
    | none =>
      match directories with
      | .ok directories => cache.populate fs key directories
      | .error e => (cache, .error e)

/-- The roles of a workspace. -/
def rolesOf (fs : FileTree) (workspace : Text) (cache : RoleCache) : Result Roles :=
  cache.lookUp fs workspace (Role.directoriesBelow fs (some workspace))

/-- The roles installed for everyone. -/
def commonRoles (fs : FileTree) (cache : RoleCache) : Result Roles :=
  cache.lookUp fs commonKey (.ok (Role.installedDirectories fs cache.standardDirectories))

/-- What is known of a role of a workspace. -/
def role? (fs : FileTree) (workspace role : Text) (cache : RoleCache) :
    Result (Option RoleContext) :=
  match cache.rolesOf fs workspace with
  | (cache, .ok roles) => (cache, .ok (roles.find? role))
  | (cache, .error e) => (cache, .error e)

/-- The roles under their paths relative to a directory. -/
def relativeRoles (directory : Text) (roles : Roles) : Roles :=
  roles.foldl (fun seen p => seen.set (Path.relativeTo directory p.1) p.2) []

/-- The roles seen from a directory: those of the workspace under their relative paths, then the
    common ones under their own, where these are not taken. -/
def addCommon (workspaceRoles seen : Roles) (common : Roles) : Roles :=
  common.foldl
    (fun seen p => if workspaceRoles.hasKey p.1 || seen.hasKey p.1 then seen
      else seen.set p.1 p.2)
    seen

/-- The roles that a playbook in a directory can refer to. -/
def visible (fs : FileTree) (workspace : Option Text) (directory : Text) (cache : RoleCache) :
    Result Roles :=
  let (cache, own) : Result Roles :=
    match workspace with
    | some w => if w.isEmpty then (cache, .ok []) else cache.rolesOf fs w
    | none => (cache, .ok [])
  match own with
  | .error e => (cache, .error e)
  | .ok own =>
    match cache.commonRoles fs with
    | (cache, .ok common) => (cache, .ok (addCommon own (relativeRoles directory own) common))
    | (cache, .error e) => (cache, .error e)

/-- The cache after everyone has been told of the directories found, and those directories. -/
def takeDiscovered (cache : RoleCache) : RoleCache × List (Text × Text) :=
  ({ cache with discovered := [] }, cache.discovered)

end RoleCache

end PlaybookAssist
