import PlaybookAssist.Context
import PlaybookAssist.Proofs.Context.Folder
import PlaybookAssist.Proofs.Role.Coherence
import PlaybookAssist.Proofs.Role.Present
import PlaybookAssist.Proofs.Variables.Present

/-!
# What stops assembly

The context of a document holds what is present of its variable files and of the roles around it. A
file that counts as absent is left out and nothing else changes with it. A file on which loading
fails stops the assembly of the whole context, and so does a playbook that consists of nothing that
could be a play, a task that is part of itself and a workspace that cannot be searched; nothing else
does.

## Main definitions

- `AdditionalContext.Harmless` : nothing that is looked at for the document stops assembly
- `AdditionalContext.present` : the context with all that is present

## Main statements

- `AdditionalContext.assemble_eq_ok_iff` : when there is a context, and which
- `AdditionalContext.stopped_by_undecodable` : a file that is no text stops assembly
-/

namespace PlaybookAssist

open PlaybookAssist.Variables (OpensIncluded OpensListed presentIncluded presentListed)

namespace AdditionalContext

section

variable [Place]

/-- Nothing that is looked at for a document of a kind stops assembly: all the variable files that
    are tried open, and where roles are looked at, those of the workspace, and for a playbook the
    common ones, can be read. -/
def Harmless (fs : FileTree) (root : Option Text) (standard : List Text) (document : Value)
    (directory path : Text) : FileType → Prop
  | .playbook =>
    OpensListed fs document directory ∧ RoleCache.Known fs root ∧
      RoleCache.Readable fs (Role.installedDirectories fs standard) ∧
      OpensIncluded fs document directory .playbook none
  | .tasksInRole =>
    ((Role.enclosing? path).isSome → RoleCache.Known fs root) ∧
      OpensIncluded fs document directory .tasksInRole (Role.enclosing? path)
  | .tasks => OpensIncluded fs document directory .tasks none
  | .other => True

/-- What is known of the role that a file lies in. -/
def presentRole (fs : FileTree) (root : Option Text) (path : Text) : RoleContext :=
  ((Role.enclosing? path).bind fun role => (RoleCache.ownRoles fs root).find? role).getD
    RoleContext.unknown

/-- The branch with all variable files and roles that are present. -/
def presentBranch? (fs : FileTree) (root : Option Text) (standard : List Text) (document : Value)
    (directory path : Text) : FileType → Option ContextBranch
  | .playbook =>
    let own := RoleCache.ownRoles fs root
    some (.playbook (.map (presentListed fs document directory).toMapping)
      (RoleCache.addCommon own (RoleCache.relativeRoles directory own)
        (RoleCache.installedRoles fs standard))
      (.map (presentIncluded fs document directory .playbook none).toMapping))
  | .tasksInRole =>
    let included := presentIncluded fs document directory .tasksInRole (Role.enclosing? path)
    some (.role { presentRole fs root path with included := some (.map included.toMapping) })
  | .tasks => some (.tasks (.map (presentIncluded fs document directory .tasks none).toMapping))
  | .other => none

/-- The context with all variable files and roles that are present. -/
def present (fs : FileTree) (root : Option Text) (standard : List Text) (document : Value)
    (directory path : Text) (type : FileType) : AdditionalContext :=
  ⟨type, presentBranch? fs root standard document directory path type⟩

variable {fs : FileTree} {root : Option Text} {standard : List Text} {document : Value}
  {directory path : Text} {branch : ContextBranch}

theorem playbookBranch_eq_ok_iff (hroot : ∀ w, root = some w → w ≠ [] ∧ w ≠ RoleCache.commonKey) :
    (playbookBranch fs root document directory (.empty standard)).2 = .ok branch ↔
      Harmless fs root standard document directory path .playbook ∧
        presentBranch? fs root standard document directory path .playbook = some branch := by
  have hlisted (files : VariableFiles) :=
    @Variables.listed_eq_ok_iff _ fs directory files document
  have hvisible (seen : Roles) :=
    @RoleCache.visible_empty_eq_ok_iff _ fs directory standard seen root hroot
  have hincluded (files : VariableFiles) :=
    @Variables.included_eq_ok_iff _ fs directory files document .playbook none
  rw [playbookBranch, Harmless, presentBranch?]
  -- The three parts are worked off in the order in which they are assembled.
  cases hfirst : Variables.listed fs document directory with
  | error e =>
    rw [hfirst] at hlisted
    -- The listed files cannot be read, so that the documents are not harmless.
    apply error_eq_ok_iff
    intro h
    cases (hlisted _).mpr ⟨h.1.1, rfl⟩
  | ok listed =>
    rw [hfirst] at hlisted
    obtain ⟨hopens, rfl⟩ := (hlisted listed).mp rfl
    dsimp only
    rw [and_iff_right hopens]
    cases hsecond : (RoleCache.empty standard).visible fs root directory with
    | mk cache seen =>
      rw [hsecond] at hvisible
      cases seen with
      | error e =>
        -- What the cache can see cannot be read.
        apply error_eq_ok_iff
        intro h
        cases (hvisible _).mpr ⟨h.1.1, h.1.2.1, rfl⟩
      | ok seen =>
        obtain ⟨hknown, hreadable, rfl⟩ := (hvisible seen).mp rfl
        dsimp only
        rw [and_iff_right hknown, and_iff_right hreadable, map_eq_ok]
        -- The included files are the last part, and they decide what the branch holds.
        simp only [hincluded, and_assoc, exists_and_left, exists_eq_left, Option.some.injEq]
        exact and_congr_right fun _ => eq_comm

/-- An empty cache gives what is known of the role that a file lies in. -/
theorem ownRole_eq_ok_iff {role : Option Text} {known : Option RoleContext}
    (hroot : ∀ w, root = some w → w ≠ [] ∧ w ≠ RoleCache.commonKey) :
    (ownRole fs root role (.empty standard)).2 = .ok known ↔
      (role.isSome → RoleCache.Known fs root) ∧
        known = role.bind fun role => (RoleCache.ownRoles fs root).find? role := by
  cases role with
  | none =>
    -- Outside of roles the cache is not asked.
    have hnone : ownRole fs root none (.empty standard) = (.empty standard, .ok none) := by
      cases root <;> rfl
    rw [hnone]
    apply ok_eq_ok_iff
    intro h
    cases h
  | some role =>
    rw [Option.isSome_some, forall_prop_of_true rfl, Option.bind_some]
    -- Without a root there is no entry, and nothing of it is known.
    cases root with
    | none =>
      have hknown : RoleCache.Known fs none := ⟨[], rfl, RoleCache.readable_nil fs⟩
      exact ok_eq_ok_iff hknown
    | some w =>
      have hempty : w.isEmpty = false := List.isEmpty_eq_false_iff.mpr (hroot w rfl).1
      simp only [ownRole, hempty, Bool.false_eq_true, if_false]
      exact RoleCache.role?_empty_eq_ok_iff

theorem roleBranch_eq_ok_iff (hroot : ∀ w, root = some w → w ≠ [] ∧ w ≠ RoleCache.commonKey) :
    (roleBranch fs root document directory path (.empty standard)).2 = .ok branch ↔
      Harmless fs root standard document directory path .tasksInRole ∧
        presentBranch? fs root standard document directory path .tasksInRole = some branch := by
  have hincluded (files : VariableFiles) := @Variables.included_eq_ok_iff _ fs directory files
    document .tasksInRole (Role.enclosing? path)
  have hknown (known : Option RoleContext) :=
    @ownRole_eq_ok_iff _ fs root standard (Role.enclosing? path) known hroot
  rw [roleBranch, Harmless, presentBranch?, presentRole]
  cases hfirst : ownRole fs root (Role.enclosing? path) (.empty standard) with
  | mk cache known =>
    rw [hfirst] at hknown
    cases known with
    -- The role is asked for first, and an error there is not harmless.
    | error e =>
      apply error_eq_ok_iff
      intro h
      cases (hknown _).mpr ⟨h.1.1, rfl⟩
    | ok known =>
      obtain ⟨hrole, rfl⟩ := (hknown known).mp rfl
      dsimp only
      rw [and_iff_right hrole, map_eq_ok]
      simp only [hincluded, and_assoc, exists_and_left, exists_eq_left, Option.some.injEq]
      exact and_congr_right fun _ => eq_comm

theorem tasksBranch_eq_ok_iff :
    ((Variables.included fs document directory .tasks none).map fun included =>
        ContextBranch.tasks (.map included.toMapping)) = .ok branch ↔
      Harmless fs root standard document directory path .tasks ∧
        presentBranch? fs root standard document directory path .tasks = some branch := by
  rw [map_eq_ok, Harmless, presentBranch?]
  simp only [Variables.included_eq_ok_iff, and_assoc, exists_and_left, exists_eq_left,
    Option.some.injEq]
  exact and_congr_right fun _ => eq_comm

/-- A context is a branch under its kind of document, for all kinds that fill one. -/
theorem map_branch_eq_ok_iff {type : FileType} {result : Except Failure ContextBranch}
    (hresult : ∀ branch, result = .ok branch ↔
      Harmless fs root standard document directory path type ∧
        presentBranch? fs root standard document directory path type = some branch)
    (hsome : (presentBranch? fs root standard document directory path type).isSome)
    (context : AdditionalContext) :
    (result.map fun b => (⟨type, some b⟩ : AdditionalContext)) = .ok context ↔
      Harmless fs root standard document directory path type ∧
        context = present fs root standard document directory path type := by
  obtain ⟨branch, hbranch⟩ := Option.isSome_iff_exists.mp hsome
  rw [map_eq_ok]
  simp only [hresult, present, hbranch, Option.some.injEq, and_assoc, exists_and_left,
    exists_eq_left']

/-- A document has a context if nothing stops assembly, and then it is the context with all that is
    present. -/
theorem assemble_eq_ok_iff (fs : FileTree) (folders standard : List Text) (document : Value)
    (directory path : Text) (type : FileType) (context : AdditionalContext) :
    (assemble fs (.ofFolders folders) document directory path type (.empty standard)).2 =
        .ok context ↔
      Harmless fs ((Workspace.ofFolders folders).rootFor path) standard document directory path
          type ∧
        context = present fs ((Workspace.ofFolders folders).rootFor path) standard document
          directory path type := by
  have hroot : ∀ w, (Workspace.ofFolders folders).rootFor path = some w →
      w ≠ [] ∧ w ≠ RoleCache.commonKey := fun w h => Workspace.rootFor_ofFolders h
  generalize hfolder : (Workspace.ofFolders folders).rootFor path = root at hroot
  unfold assemble
  rw [hfolder]
  -- Each kind of document has its branch, except for the one that has none.
  cases type with
  | playbook => exact map_branch_eq_ok_iff (fun branch => playbookBranch_eq_ok_iff hroot) rfl context
  | tasksInRole => exact map_branch_eq_ok_iff (fun branch => roleBranch_eq_ok_iff hroot) rfl context
  | tasks => exact map_branch_eq_ok_iff (fun branch => tasksBranch_eq_ok_iff) rfl context
  | other => exact ok_eq_ok_iff trivial

end

/-! ## A file that is no text -/

namespace Sample

/-- Two variable files, of which the first is no text and the second an empty mapping. -/
def tree : FileTree :=
  ⟨.directory [("w".toList, .directory
    [("bad.yml".toList, .file [0xff]), ("good.yml".toList, .file [0x7b, 0x7d])])]⟩

/-- The tasks that include both files. -/
def tasks : Value :=
  .list (["bad.yml".toList, "good.yml".toList].map fun file =>
    .map [(.str "include_vars".toList, .str file)])

attribute [local instance] RoleCache.Sample.place

/-- Of the two files the second is present. -/
theorem presentIncluded_tasks : presentIncluded tree tasks "/w" .tasks none =
    [("good.yml".toList, [])] := by
  decide +kernel

end Sample

attribute [local instance] RoleCache.Sample.place

/-- There is no context at all, where the context with all that is present has the second file. -/
theorem stopped_by_undecodable :
    (assemble Sample.tree (.ofFolders []) Sample.tasks "/w" "/w/tasks.yml" .tasks (.empty [])).2 =
        .error (.undecodable ⟨0, [0xff], .badStart⟩) ∧
      present Sample.tree none [] Sample.tasks "/w" "/w/tasks.yml" .tasks =
        ⟨.tasks, some (.tasks (.map [(.str "good.yml".toList, .map [])]))⟩ := by
  constructor
  · decide +kernel
  · rw [present, presentBranch?, Sample.presentIncluded_tasks]
    rfl

end AdditionalContext

end PlaybookAssist
