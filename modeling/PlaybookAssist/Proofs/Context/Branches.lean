import PlaybookAssist.Proofs.Context.Assembly
import PlaybookAssist.Proofs.Role.Visible
import PlaybookAssist.Proofs.Value.Mapping

/-!
# What a context consists of

The context of a document has all its branches, and exactly the one of its kind of file is filled.
The files that the tasks of the document include stand in that branch and nowhere else; in
particular the roles that a playbook can refer to come without any, since a cache never keeps what
one document includes.

## Main definitions

- `AdditionalContext.Shape` : the form that the context of a kind of file has in a request
- `RoleCache.Use`, `RoleCache.used` : a cache in use, also for contexts

## Main statements

- `RoleCache.noneIncluded_used` : no role is held with the files that a document includes
- `AdditionalContext.shape_of_used` : what is assembled over any cache in use has the form of its
  kind
-/

namespace PlaybookAssist

namespace RoleCache

section

variable [Place]

/-! ## Caches in use -/

/-- What a cache is used for. -/
inductive Use where
  | operation (op : Operation)
  | assembly (workspace : Workspace) (document : Value) (directory path : Text) (type : FileType)

/-- The cache after it has been used, whether that fails or not. -/
def Use.run (fs : FileTree) (cache : RoleCache) : Use → RoleCache
  | .operation op => op.run fs cache
  | .assembly workspace document directory path type =>
    (AdditionalContext.assemble fs workspace document directory path type cache).1

/-- The cache after a history of uses, each with the file system that it met. -/
def used (cache : RoleCache) (history : List (FileTree × Use)) : RoleCache :=
  history.foldl (fun cache h => h.2.run h.1 cache) cache

variable {fs : FileTree} {cache : RoleCache} {roles own common : Roles} {root : Option Text}
  {directory : Text}

/-- A cache is asked for the role that a file lies in only where there may be one. -/
theorem ownRole_cases (fs : FileTree) (root role : Option Text) (cache : RoleCache) :
    AdditionalContext.ownRole fs root role cache = (cache, .ok none) ∨
      ∃ w r, AdditionalContext.ownRole fs root role cache = cache.role? fs w r := by
  cases root with
  | none => exact .inl rfl
  | some w =>
    cases role with
    | none => exact .inl rfl
    | some role =>
      rw [AdditionalContext.ownRole]
      cases w.isEmpty with
      | true => exact .inl rfl
      | false => exact .inr ⟨w, role, rfl⟩

/-- Assembly asks a cache at most one question. -/
theorem assemble_cache (fs : FileTree) (workspace : Workspace) (document : Value)
    (directory path : Text) (type : FileType) (cache : RoleCache) :
    let after := (AdditionalContext.assemble fs workspace document directory path type cache).1
    after = cache ∨ ∃ op : Operation, after = op.run fs cache := by
  intro after
  cases type with
  | playbook =>
    have hafter : after = (AdditionalContext.playbookBranch fs (workspace.rootFor path) document
      directory cache).1 := rfl
    rw [hafter, AdditionalContext.playbookBranch]
    cases Variables.listed fs document directory with
    -- The listed files come first; if they fail, the cache is not asked.
    | error e => exact .inl rfl
    | ok listed =>
      refine .inr ⟨.visible (workspace.rootFor path) directory, ?_⟩
      dsimp only [Operation.run]
      obtain ⟨next, e | seen⟩ := cache.visible fs (workspace.rootFor path) directory <;> rfl
  | tasksInRole =>
    have hafter : after = (AdditionalContext.ownRole fs (workspace.rootFor path)
        (Role.enclosing? path) cache).1 := by
      simp only [after, AdditionalContext.assemble, AdditionalContext.roleBranch]
      obtain ⟨next, e | known⟩ :=
        AdditionalContext.ownRole fs (workspace.rootFor path) (Role.enclosing? path) cache <;> rfl
    -- In a role the cache is asked for the role alone.
    rcases ownRole_cases fs (workspace.rootFor path) (Role.enclosing? path) cache with
      hnone | ⟨w, role, hsome⟩
    · rw [hafter, hnone]
      exact .inl rfl
    · rw [hafter, hsome]
      exact .inr ⟨.role? w role, rfl⟩
  -- For tasks and for other documents it is not asked at all.
  | tasks => exact .inl rfl
  | other => exact .inl rfl

/-! ## Roles without included files -/

/-- No role of the table comes with the files that a document includes. -/
def NoneIncluded (roles : Roles) : Prop :=
  ∀ p ∈ roles, p.2.included = none

omit [Place] in
theorem NoneIncluded.set {context : RoleContext} (h : NoneIncluded roles) (role : Text)
    (hcontext : context.included = none) : NoneIncluded (roles.set role context) := by
  intro p hp
  rcases Table.eq_or_mem_of_mem_set hp with rfl | hp
  · exact hcontext
  · exact h p hp

theorem kept_noneIncluded : Kept NoneIncluded where
  nil := by
    intro p hp
    cases hp
  set fs role context roles hread h := by
    -- What is read of a role are its own files.
    have hthere : fs.isDirectory role = true := by
      by_contra habsent
      rw [Role.read?_of_not_isDirectory (by simpa using habsent)] at hread
      cases hread
    obtain ⟨-, hcontext⟩ := (Role.read?_eq_ok_iff hthere).mp hread
    cases hcontext
    exact h.set role rfl
  erase role roles h p hp := h p ((Table.sublist_erase role roles).subset hp)

/-- No role that a cache in use holds comes with the files that a document includes. -/
theorem noneIncluded_used (standard : List Text) (history : List (FileTree × Use)) :
    ((empty standard).used history).Holding NoneIncluded := by
  have hstep (fs : FileTree) (u : Use) (cache : RoleCache) (h : cache.Holding NoneIncluded) :
      (u.run fs cache).Holding NoneIncluded := by
    cases u with
    | operation op => exact Holding.run kept_noneIncluded h fs op
    | assembly workspace document directory path type =>
      -- An assembly leaves the cache as it is, or is one of its operations.
      rcases assemble_cache fs workspace document directory path type cache with hsame | ⟨op, hop⟩
      · rw [Use.run, hsame]
        exact h
      · rw [Use.run, hop]
        exact Holding.run kept_noneIncluded h fs op
  have hempty : (empty standard).Holding NoneIncluded := fun key roles h => by cases h
  rw [used]
  generalize empty standard = cache at hempty ⊢
  -- Induction over the uses, from a cache that holds nothing.
  induction history generalizing cache with
  | nil => exact hempty
  | cons m history ih => exact ih _ (hstep m.1 m.2 cache hempty)

/-! ## Roles that are seen -/

omit [Place] in
theorem NoneIncluded.addCommon {seen : Roles} (h : NoneIncluded seen) (hcommon : NoneIncluded common)
    (own : Roles) : NoneIncluded (addCommon own seen common) := by
  induction common generalizing seen with
  | nil => exact h
  | cons p common ih =>
    unfold NoneIncluded at hcommon
    rw [List.forall_mem_cons] at hcommon
    rw [RoleCache.addCommon, List.foldl_cons]
    split
    · exact ih h hcommon.2
    · exact ih (h.set _ hcommon.1) hcommon.2

theorem NoneIncluded.relativeRoles (h : NoneIncluded own) (directory : Text) :
    NoneIncluded (relativeRoles directory own) := by
  have hfold (seen : Roles) (hseen : NoneIncluded seen) : NoneIncluded
      (own.foldl (fun seen p => seen.set (Path.relativeTo directory p.1) p.2) seen) := by
    induction own generalizing seen with
    | nil => exact hseen
    | cons p own ih =>
      unfold NoneIncluded at h
      rw [List.forall_mem_cons] at h
      exact ih h.2 _ (hseen.set _ h.1)
  exact hfold [] kept_noneIncluded.nil

theorem noneIncluded_of_lookUp {key : Text} {directories : Except Failure (List Text)}
    {next : RoleCache} (h : cache.Holding NoneIncluded)
    (hlook : cache.lookUp fs key directories = (next, .ok roles)) :
    next.Holding NoneIncluded ∧ NoneIncluded roles := by
  have hnext := Holding.lookUp kept_noneIncluded h fs key directories
  rw [hlook] at hnext
  exact ⟨hnext, hnext key roles (find?_lookUp hlook)⟩

theorem noneIncluded_of_visible (h : cache.Holding NoneIncluded)
    (hvisible : (cache.visible fs root directory).2 = .ok roles) : NoneIncluded roles := by
  have hcommonRoles {cache : RoleCache} {seen : Roles} (h : cache.Holding NoneIncluded)
      (hseen : NoneIncluded seen) (own : Roles)
      (hmap : (cache.commonRoles fs).2.map (fun common => RoleCache.addCommon own seen common) =
        .ok roles) : NoneIncluded roles := by
    obtain ⟨common, hcommon, rfl⟩ := map_eq_ok.mp hmap
    exact hseen.addCommon (noneIncluded_of_lookUp h (Prod.ext rfl hcommon)).2 own
  -- Without a root only the common roles are seen; with one the roles of the root as well.
  by_cases hnone : root = none ∨ root = some []
  · rw [visible_of_none hnone] at hvisible
    exact hcommonRoles h (kept_noneIncluded.nil.relativeRoles directory) [] hvisible
  · rw [not_or] at hnone
    obtain ⟨w, rfl⟩ := Option.ne_none_iff_exists'.mp hnone.1
    have hw : w ≠ [] := fun hempty => hnone.2 (congrArg some hempty)
    rw [visible_of_some hw] at hvisible
    cases hroles : cache.rolesOf fs w with
    | mk next result =>
      rw [hroles] at hvisible
      cases result with
      | error e => cases hvisible
      | ok own =>
        obtain ⟨hnext, hown⟩ := noneIncluded_of_lookUp h hroles
        exact hcommonRoles hnext (hown.relativeRoles directory) own hvisible

end

end RoleCache

/-! ## The forms of branches -/

/-- A role has the key of the included files exactly if it comes with some. -/
theorem RoleContext.hasKey_toMapping (r : RoleContext) :
    Mapping.hasKey "includeVars" r.toMapping = r.included.isSome := by
  obtain ⟨name, tasks, files, included⟩ := r
  -- None of the other keys is that of the included files.
  have hname : Table.find? "includeVars"
      (name.toList.map fun n => (("name" : Text), Value.str n)) = none := by
    cases name <;> rfl
  have htasks : Table.find? "includeVars" (if tasks.isEmpty then ([] : List (Text × Value))
      else [("tasks", .list (tasks.map .str))]) = none := by
    split <;> rfl
  have hdeclared : Table.find? "includeVars" (if files.isTruthy then [(("roleVars" : Text), files)]
      else []) = none := by
    split <;> rfl
  rw [RoleContext.toMapping, Mapping.hasKey_ofTexts, Table.hasKey, Table.find?_append,
    Table.find?_append, Table.find?_append, hname, htasks, hdeclared]
  cases included <;> rfl

namespace AdditionalContext

/-- The form of a context in a request, for a kind of file: there are all branches, the one of the
    kind is filled and tells of the included files, and the roles of a playbook do not. -/
structure Shape (type : FileType) (form : Table Value) : Prop where
  keys : form.keys = branchKeys
  filled : ∀ key ∈ branchKeys, ∃ branch : Mapping, form.find? key = some (.map branch) ∧
    (branch ≠ [] ↔ branchKey? type = some key) ∧
    (branch ≠ [] → Mapping.hasKey "includeVars" branch = true)
  roles : type = .playbook → ∃ branch roles : Mapping,
    form.find? "playbookContext" = some (.map branch) ∧
      Mapping.find? "roles" branch = some (.map roles) ∧
      ∀ p ∈ roles, ∃ role : Mapping, p.2 = .map role ∧ Mapping.hasKey "includeVars" role = false

/-- A context without a branch has the form of other files. -/
theorem shape_other : Shape .other (toTable ⟨.other, none⟩) where
  keys := rfl
  filled key hkey := by
    have hfind := Table.find?_map_of_mem hkey fun _ => Value.map []
    refine ⟨[], hfind, ?_, fun h => absurd rfl h⟩
    exact iff_of_false (fun h => h rfl) (fun h => nomatch h)
  roles h := nomatch h

/-- The form of a context with a branch. -/
theorem shape_of_branch {type : FileType} {branch : ContextBranch}
    (hincluded : Mapping.hasKey "includeVars" branch.toMapping = true)
    (hroles : type = .playbook → ∃ listed roles included,
      branch = .playbook listed roles included ∧ RoleCache.NoneIncluded roles) :
    Shape type (toTable ⟨type, some branch⟩) where
  keys := rfl
  filled key hkey := by
    have hbranch : branch.toMapping ≠ [] := by
      intro hempty
      rw [hempty] at hincluded
      cases hincluded
    have hfind := Table.find?_map_of_mem hkey fun key =>
      Value.map (if branchKey? type = some key then branch.toMapping else [])
    refine ⟨_, hfind, ?_⟩
    -- The branch of the type is the one that is filled; the others are empty mappings.
    by_cases htype : branchKey? type = some key
    · simp only [if_pos htype]
      exact ⟨iff_of_true hbranch htype, fun _ => hincluded⟩
    · simp only [if_neg htype]
      exact ⟨iff_of_false (fun h => h rfl) htype, fun h => absurd rfl h⟩
  roles htype := by
    obtain ⟨listed, roles, included, rfl, hnone⟩ := hroles htype
    subst htype
    refine ⟨_, Mapping.ofTexts (roles.map fun p => (p.1, .map p.2.toMapping)), rfl, rfl, ?_⟩
    intro p hp
    rw [Mapping.ofTexts, List.map_map] at hp
    obtain ⟨q, hq, rfl⟩ := List.mem_map.mp hp
    refine ⟨q.2.toMapping, rfl, ?_⟩
    rw [RoleContext.hasKey_toMapping, hnone q hq]
    rfl

/-! ## Contexts over caches in use -/

section

variable [Place] {fs : FileTree} {root : Option Text} {document : Value} {directory path : Text}
  {branch : ContextBranch} {cache : RoleCache}

theorem exists_of_playbookBranch
    (h : (playbookBranch fs root document directory cache).2 = .ok branch) :
    ∃ listed roles included, branch = .playbook listed roles included ∧
      (cache.visible fs root directory).2 = .ok roles := by
  rw [playbookBranch] at h
  cases hlisted : Variables.listed fs document directory with
  | error e =>
    rw [hlisted] at h
    cases h
  | ok listed =>
    rw [hlisted] at h
    cases hvisible : cache.visible fs root directory with
    | mk next result =>
      rw [hvisible] at h
      cases result with
      | error e => cases h
      | ok roles =>
        obtain ⟨included, -, rfl⟩ := map_eq_ok.mp h
        exact ⟨_, roles, _, rfl, rfl⟩

theorem exists_of_roleBranch
    (h : (roleBranch fs root document directory path cache).2 = .ok branch) :
    ∃ (context : RoleContext) (files : Value),
      branch = .role { context with included := some files } := by
  rw [roleBranch] at h
  cases hown : ownRole fs root (Role.enclosing? path) cache with
  | mk next result =>
    rw [hown] at h
    cases result with
    | error e => cases h
    | ok known =>
      obtain ⟨included, -, rfl⟩ := map_eq_ok.mp h
      exact ⟨known.getD RoleContext.unknown, _, rfl⟩

/-- A context that is assembled over a cache in use has the form of its kind of file: exactly the
    branch of the kind is filled, also where nothing is known, that branch tells of the included
    files and no role in it does. The cache holds no role with included files afterwards, whether or
    not there is a context. -/
theorem shape_of_used (standard : List Text) (history : List (FileTree × RoleCache.Use))
    (fs : FileTree) (workspace : Workspace) (document : Value) (directory path : Text)
    (type : FileType) :
    let result := assemble fs workspace document directory path type
      ((RoleCache.empty standard).used history)
    (∀ context, result.2 = .ok context → Shape type context.toTable) ∧
      ∀ key roles, result.1.entries.find? key = some roles → ∀ p ∈ roles, p.2.included = none := by
  intro result
  -- Both the roles seen now and those held afterwards include nothing.
  have hbefore := RoleCache.noneIncluded_used standard history
  have hafter : result.1.Holding RoleCache.NoneIncluded := by
    have hlast : result.1 = (RoleCache.empty standard).used
        (history ++ [(fs, .assembly workspace document directory path type)]) := by
      rw [RoleCache.used, List.foldl_append]
      rfl
    rw [hlast]
    exact RoleCache.noneIncluded_used standard _
  refine ⟨fun context hcontext => ?_, hafter⟩
  cases type with
  -- Only the branch of a playbook has roles.
  | playbook =>
    obtain ⟨branch, hbranch, rfl⟩ := map_eq_ok.mp hcontext
    obtain ⟨listed, roles, included, rfl, hvisible⟩ := exists_of_playbookBranch hbranch
    have hroles := RoleCache.noneIncluded_of_visible hbefore hvisible
    exact shape_of_branch rfl fun _ => ⟨listed, roles, included, rfl, hroles⟩
  | tasksInRole =>
    obtain ⟨branch, hbranch, rfl⟩ := map_eq_ok.mp hcontext
    obtain ⟨context, files, rfl⟩ := exists_of_roleBranch hbranch
    have hincluded := RoleContext.hasKey_toMapping { context with included := some files }
    exact shape_of_branch hincluded fun h => nomatch h
  | tasks =>
    obtain ⟨branch, hbranch, rfl⟩ := map_eq_ok.mp hcontext
    obtain ⟨files, -, rfl⟩ := map_eq_ok.mp hbranch
    exact shape_of_branch rfl fun h => nomatch h
  | other =>
    cases hcontext
    exact shape_other

end

attribute [local instance] RoleCache.Sample.place

/-- The role that a cache has found is seen from a playbook, without included files. -/
theorem shape_sample :
    let fs := RoleCache.Sample.tree RoleCache.Sample.web RoleCache.Sample.one
    let history : List (FileTree × RoleCache.Use) := [(fs, .operation (.rolesOf "/w"))]
    let context : AdditionalContext := ⟨.playbook, some (.playbook (.map [])
      [("roles/web".toList, RoleCache.Sample.context RoleCache.Sample.one)] (.map []))⟩
    (assemble fs ⟨["/w"]⟩ (.list []) "/w" "/w/site.yml" .playbook
        ((RoleCache.empty []).used history)).2 = .ok context ∧
      Shape .playbook context.toTable := by
  intro fs history context
  let roles : Roles := [("/w/roles/web".toList, RoleCache.Sample.context RoleCache.Sample.one)]
  let held := RoleCache.Sample.holding [] "/w"
  have hused : (RoleCache.empty []).used history = held :=
    congrArg Prod.fst RoleCache.Sample.rolesOf_web.1
  have hheld : RoleCache.HoldsSample roles held := ⟨rfl, rfl, rfl⟩
  -- The roles are read once, and after that they are held.
  obtain ⟨last, hcommon⟩ := hheld.commonRoles fs
  have hvisible : held.visible fs (some "/w".toList) "/w" =
      (last, .ok [("roles/web".toList, RoleCache.Sample.context RoleCache.Sample.one)]) := by
    have hway : Path.relativeTo "/w" "/w/roles/web" = "roles/web".toList := by decide
    rw [RoleCache.visible_of_some (by decide), hheld.rolesOf fs]
    dsimp only
    rw [hcommon, RoleCache.relativeRoles, List.foldl_cons, hway]
    rfl
  have hcontext : (assemble fs ⟨["/w"]⟩ (.list []) "/w" "/w/site.yml" .playbook
      ((RoleCache.empty []).used history)).2 = .ok context := by
    have hbranch : assemble fs ⟨["/w"]⟩ (.list []) "/w" "/w/site.yml" .playbook held =
        (playbookBranch fs (some "/w".toList) (.list []) "/w" held).map id
          fun r => r.map fun b => ⟨.playbook, some b⟩ := rfl
    have hlisted : Variables.listed fs (.list []) "/w" = .ok [] := rfl
    rw [hused, hbranch, playbookBranch, hlisted, hvisible]
    rfl
  exact ⟨hcontext, (shape_of_used [] history fs ⟨["/w"]⟩ (.list []) "/w" "/w/site.yml"
    .playbook).1 context hcontext⟩

end AdditionalContext

end PlaybookAssist
