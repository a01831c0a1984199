import PlaybookAssist.Failure
import PlaybookAssist.Role.Cache

/-!
# Notices of file changes

A notice says that something happened to a path below a `roles` directory, or to two paths when
something was moved. It is turned into the changes of the roles that the paths lie in.

## Main definitions

- `Notice` : what happened where
- `RolesWatch` : a `roles` directory that is watched for a workspace
- `RolesWatch.changes` : the changes of roles that a notice means
-/

namespace PlaybookAssist

/-- What happened to a path. -/
inductive NoticeKind where
  | created
  | modified
  | deleted
  | moved
  | opened
  | closed
  | closedUnwritten
  deriving DecidableEq, Repr

namespace NoticeKind

/-- The name of a kind of notice. -/
def name : NoticeKind → Text
  | .created => "created"
  | .modified => "modified"
  | .deleted => "deleted"
  | .moved => "moved"
  | .opened => "opened"
  | .closed => "closed"
  | .closedUnwritten => "closed_no_write"

/-- The kind of notice of a given name. -/
def ofName? (t : Text) : Option NoticeKind :=
  ([.created, .modified, .deleted, .moved, .opened, .closed, .closedUnwritten] :
    List NoticeKind).find? fun k => k.name == t

/-- Does what happened change the files? -/
def changesFiles : NoticeKind → Bool
  | .created | .modified | .deleted | .moved => true
  | .opened | .closed | .closedUnwritten => false

end NoticeKind

/-- A path as it is told, as text or in octets. -/
inductive ToldPath where
  | text (path : Text)
  | octets (path : Octets)
  deriving DecidableEq, Repr

namespace ToldPath

/-- Is nothing told? -/
def isEmpty : ToldPath → Bool
  | .text t => t.isEmpty
  | .octets bs => bs.isEmpty

/-- The path as text. -/
def read : ToldPath → Except Failure Text
  | .text t => .ok t
  | .octets bs => (Utf8.decode bs).mapError .undecodable

end ToldPath

/-- The notice that something happened to a path; what is moved has a destination. -/
structure Notice where
  kind : NoticeKind
  source : ToldPath
  destination : ToldPath
  deriving DecidableEq, Repr

/-- The paths of a notice. -/
def Notice.paths (n : Notice) : List ToldPath :=
  if n.destination.isEmpty then [n.source] else [n.source, n.destination]

/-- A `roles` directory that is watched for a workspace. -/
structure RolesWatch where
  directory : Text
  workspace : Text
  deriving DecidableEq, Repr

namespace RolesWatch

variable [Place]

/-- The change of a role that something at a path means, if the path lies in a role. A role is gone
    when its own directory is deleted; nothing in an ignored directory counts. -/
def change? (w : RolesWatch) (kind : NoticeKind) (path : Text) : Option RoleChange :=
  if Role.isIgnored (Text.splitOn '/' path) then none
  else (Role.ownerIn? w.directory path).map fun role =>
    ⟨w.workspace, role,
      if kind = .deleted ∧ path = role then ChangeKind.deleted else ChangeKind.modified⟩

/-- The changes that something at several paths means. When a path has no text, the changes of those
    before it stand. -/
def changesAt (w : RolesWatch) (kind : NoticeKind) :
    List ToldPath → List RoleChange × Option Failure
  | [] => ([], none)
  | p :: ps =>
    match p.read with
    | .error e => ([], some e)
    | .ok path =>
      let (changes, failure) := changesAt w kind ps
      ((w.change? kind path).toList ++ changes, failure)

/-- The changes that a notice means, and the failure if one of its paths has no text. -/
def changes (w : RolesWatch) (n : Notice) : List RoleChange × Option Failure :=
  if n.kind.changesFiles then w.changesAt n.kind n.paths else ([], none)

end RolesWatch

end PlaybookAssist
