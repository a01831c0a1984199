import PlaybookAssist.Proofs.Context.Assembly
import PlaybookAssist.Proofs.Role.History

/-!
# Asking a cache again and again

What a cache has read it does not read a second time. As long as the files stay as they are this
cannot be told from its answers: whatever has been asked before, by itself or for the context of some
document, and whether it could be answered or not, the answer is the one that a cache gives which has
never been asked anything.

## Main definitions

- `RoleCache.Query` : what can be asked; `RoleCache.Query.ask` and `RoleCache.askAll` put it to a
  cache
- `RoleCache.Faithful` : the cache holds nothing but what a new cache finds
- `RoleCache.Alike` : two faithful caches, with the same answer

## Main statements

- `RoleCache.alike_ask` : faithful caches answer everything alike, and stay faithful
- `RoleCache.askAll_eq_map` : a cache answers each question as if it were the first one
-/

namespace PlaybookAssist.RoleCache

section

variable [Place]

/-! ## Questions -/

/-- A question that a cache is asked, for its own sake or for the context of a document. -/
inductive Query where
  | rolesOf (workspace : Text)
  | commonRoles
  | role? (workspace role : Text)
  | visible (workspace : Option Text) (directory : Text)
  | context (workspace : Workspace) (document : Value) (directory path : Text) (type : FileType)

/-- The answer to a question, or why there is none. -/
inductive Reply where
  | roles (result : Except Failure Roles)
  | role (result : Except Failure (Option RoleContext))
  | context (result : Except Failure AdditionalContext)

namespace Query

/-- The cache after a question, and the answer. -/
def ask (fs : FileTree) (cache : RoleCache) : Query → RoleCache × Reply
  | .rolesOf workspace => (cache.rolesOf fs workspace).map id .roles
  | .commonRoles => (cache.commonRoles fs).map id .roles
  | .role? workspace role => (cache.role? fs workspace role).map id .role
  | .visible workspace directory => (cache.visible fs workspace directory).map id .roles
  | .context workspace document directory path type =>
    (AdditionalContext.assemble fs workspace document directory path type cache).map id .context

/-- The workspaces that a question names. An empty path names none. -/
def workspaces : Query → List Text
  | .rolesOf workspace | .role? workspace _ => [workspace]
  | .commonRoles => []
  | .visible workspace _ => workspace.toList.filter fun w => !w.isEmpty
  | .context workspace _ _ _ _ => workspace.folders

/-- All workspaces that a question names are absolute paths. -/
def NamesAbsolute (q : Query) : Prop :=
  ∀ w ∈ q.workspaces, Path.isAbsolute w = true

end Query

/-- The cache after some questions, one after the other, and the answers. -/
def askAll (fs : FileTree) (cache : RoleCache) : List Query → RoleCache × List Reply
  | [] => (cache, [])
  | q :: qs =>
    let (next, reply) := q.ask fs cache
    let (last, replies) := askAll fs next qs
    (last, reply :: replies)

/-! ## Faithful caches -/

/-- What a new cache finds under a key. -/
def afresh (fs : FileTree) (standard : List Text) (key : Text) : Except Failure Roles :=
  if key = commonKey then ((empty standard).commonRoles fs).2
  else ((empty standard).rolesOf fs key).2

/-- No change waits, and what is held is what a new cache finds. Which directories have been noted
    does not matter. -/
structure Faithful (fs : FileTree) (standard : List Text) (cache : RoleCache) : Prop where
  standardDirectories : cache.standardDirectories = standard
  queue : cache.queue = []
  entries : ∀ key roles, cache.entries.find? key = some roles → afresh fs standard key = .ok roles

/-- Two faithful caches after the same answer. -/
structure Alike {α : Type} (fs : FileTree) (standard : List Text) (r r' : RoleCache × α) : Prop where
  left : Faithful fs standard r.1
  right : Faithful fs standard r'.1
  answer : r.2 = r'.2

variable {fs : FileTree} {standard dirs : List Text} {key : Text} {cache cache' : RoleCache}

theorem faithful_empty (fs : FileTree) (standard : List Text) :
    Faithful fs standard (empty standard) :=
  ⟨rfl, rfl, fun key roles h => by cases h⟩

theorem Alike.map {α β : Type} {r r' : RoleCache × α} (h : Alike fs standard r r') (f : α → β) :
    Alike fs standard (r.map id f) (r'.map id f) :=
  ⟨h.left, h.right, congrArg f h.answer⟩

/-- Caches that are alike have the one answer. -/
theorem Alike.exists_answer {α : Type} {r r' : RoleCache × α} (h : Alike fs standard r r') :
    ∃ next next' a, r = (next, a) ∧ r' = (next', a) ∧
      Faithful fs standard next ∧ Faithful fs standard next' := by
  obtain ⟨next, a⟩ := r
  obtain ⟨next', a'⟩ := r'
  obtain ⟨hleft, hright, rfl : a = a'⟩ := h
  exact ⟨next, next', a, rfl, rfl, hleft, hright⟩

/-- Noting directories leaves what is held as it is. -/
theorem Faithful.note (h : Faithful fs standard cache) (key : Text) (found : List Text) :
    Faithful fs standard (cache.note key found) :=
  ⟨h.standardDirectories, h.queue, h.entries⟩

theorem Faithful.set {roles : Roles} (h : Faithful fs standard cache)
    (hroles : afresh fs standard key = .ok roles) :
    Faithful fs standard { cache with entries := cache.entries.set key roles } := by
  refine ⟨h.standardDirectories, h.queue, fun other held hheld => ?_⟩
  by_cases hother : other = key
  · subst hother
    rw [Table.find?_set_self] at hheld
    cases hheld
    exact hroles
  · rw [Table.find?_set_of_ne hother] at hheld
    exact h.entries other held hheld

/-- Reading directories enters their roles only when all of them can be read. -/
theorem Faithful.populate (h : Faithful fs standard cache)
    (hafresh : readAll fs [] dirs = afresh fs standard key) :
    Faithful fs standard (cache.populate fs key dirs).1 := by
  have hanswer := populate_answer fs key dirs cache
  rcases populate_cases fs key dirs cache with ⟨found, e, -, hfails⟩ | ⟨roles, -, hresult⟩
  · rw [hfails]
    exact h.note key found
  · rw [hresult] at hanswer ⊢
    exact (h.note key dirs).set (hafresh ▸ hanswer.symm)

/-- A faithful cache finds under a key what a new one finds that looks in the same directories. -/
theorem Faithful.lookUp {directories : Except Failure (List Text)} (h : Faithful fs standard cache)
    (hafresh : ((empty standard).lookUp fs key directories).2 = afresh fs standard key) :
    Faithful fs standard (cache.lookUp fs key directories).1 ∧
      (cache.lookUp fs key directories).2 = afresh fs standard key := by
  cases hheld : cache.entries.find? key with
  -- What is held has been found out afresh, and finding it out leaves the cache as it is.
  | some roles =>
    rw [lookUp_of_held h.queue hheld]
    exact ⟨h, (h.entries key roles hheld).symm⟩
  | none =>
    -- A failure leaves nothing behind.
    cases directories with
    | error e =>
      have hfails : cache.lookUp fs key (.error e) = (cache, .error e) := by
        rw [RoleCache.lookUp, workOff_of_idle h.queue]
        dsimp only
        rw [hheld]
      rw [hfails]
      exact ⟨h, hafresh⟩
    | ok dirs =>
      -- Otherwise both caches read the same directories.
      rw [lookUp_of_new rfl rfl, populate_answer] at hafresh
      rw [lookUp_of_new h.queue hheld, populate_answer]
      exact ⟨h.populate hafresh, hafresh⟩

/-! ## Answers of faithful caches -/

omit [Place] in
/-- An absolute path is not the key of the common roles. -/
theorem ne_commonKey {w : Text} (hw : Path.isAbsolute w = true) : w ≠ commonKey := by
  rintro rfl
  exact absurd hw (by decide)

section

variable (h : Faithful fs standard cache) (h' : Faithful fs standard cache')

include h h'

theorem alike_rolesOf {w : Text} (hw : w ≠ commonKey) :
    Alike fs standard (cache.rolesOf fs w) (cache'.rolesOf fs w) := by
  have hafresh : ((empty standard).rolesOf fs w).2 = afresh fs standard w := (if_neg hw).symm
  obtain ⟨hleft, hanswer⟩ := h.lookUp hafresh
  obtain ⟨hright, hanswer'⟩ := h'.lookUp hafresh
  exact ⟨hleft, hright, hanswer.trans hanswer'.symm⟩

theorem alike_commonRoles :
    Alike fs standard (cache.commonRoles fs) (cache'.commonRoles fs) := by
  have hafresh : ((empty standard).commonRoles fs).2 = afresh fs standard commonKey :=
    (if_pos rfl).symm
  obtain ⟨hleft, hanswer⟩ := h.lookUp hafresh
  obtain ⟨hright, hanswer'⟩ := h'.lookUp hafresh
  rw [commonRoles, commonRoles, h.standardDirectories, h'.standardDirectories]
  exact ⟨hleft, hright, hanswer.trans hanswer'.symm⟩

theorem alike_role? {w : Text} (hw : w ≠ commonKey) (role : Text) :
    Alike fs standard (cache.role? fs w role) (cache'.role? fs w role) := by
  obtain ⟨next, next', result, hroles, hroles', hleft, hright⟩ :=
    (alike_rolesOf h h' hw).exists_answer
  rw [role?, role?, hroles, hroles']
  cases result with
  | error e => exact ⟨hleft, hright, rfl⟩
  | ok roles => exact ⟨hleft, hright, rfl⟩

theorem alike_visible {root : Option Text} (hroot : ∀ w, root = some w → w ≠ commonKey)
    (directory : Text) :
    Alike fs standard (cache.visible fs root directory) (cache'.visible fs root directory) := by
  -- without a root both caches answer with the common roles alone
  by_cases hnone : root = none ∨ root = some []
  · rw [visible_of_none hnone, visible_of_none hnone]
    exact (alike_commonRoles h h').map _
  · rw [not_or] at hnone
    obtain ⟨w, rfl⟩ := Option.ne_none_iff_exists'.mp hnone.1
    have hw : w ≠ [] := fun hempty => hnone.2 (congrArg some hempty)
    obtain ⟨next, next', result, hroles, hroles', hleft, hright⟩ :=
      (alike_rolesOf h h' (hroot w rfl)).exists_answer
    rw [visible_of_some hw, visible_of_some hw, hroles, hroles']
    cases result with
    | error e => exact ⟨hleft, hright, rfl⟩
    | ok own => exact (alike_commonRoles hleft hright).map _

/-! ## Contexts -/

theorem alike_playbookBranch {root : Option Text} (hroot : ∀ w, root = some w → w ≠ commonKey)
    (document : Value) (directory : Text) :
    Alike fs standard (AdditionalContext.playbookBranch fs root document directory cache)
      (AdditionalContext.playbookBranch fs root document directory cache') := by
  obtain ⟨next, next', result, hvisible, hvisible', hleft, hright⟩ :=
    (alike_visible h h' hroot directory).exists_answer
  rw [AdditionalContext.playbookBranch, AdditionalContext.playbookBranch, hvisible, hvisible']
  cases Variables.listed fs document directory with
  | error e => exact ⟨h, h', rfl⟩
  | ok listed =>
    cases result with
    | error e => exact ⟨hleft, hright, rfl⟩
    | ok roles => exact ⟨hleft, hright, rfl⟩

theorem alike_ownRole {root : Option Text} (hroot : ∀ w, root = some w → w ≠ commonKey)
    (role : Option Text) :
    Alike fs standard (AdditionalContext.ownRole fs root role cache)
      (AdditionalContext.ownRole fs root role cache') := by
  cases root with
  | none => exact ⟨h, h', rfl⟩
  | some w =>
    cases role with
    | none => exact ⟨h, h', rfl⟩
    | some role =>
      rw [AdditionalContext.ownRole, AdditionalContext.ownRole]
      cases w.isEmpty with
      | true => exact ⟨h, h', rfl⟩
      | false => exact alike_role? h h' (hroot w rfl) role

theorem alike_roleBranch {root : Option Text} (hroot : ∀ w, root = some w → w ≠ commonKey)
    (document : Value) (directory path : Text) :
    Alike fs standard (AdditionalContext.roleBranch fs root document directory path cache)
      (AdditionalContext.roleBranch fs root document directory path cache') := by
  obtain ⟨next, next', result, hown, hown', hleft, hright⟩ :=
    (alike_ownRole h h' hroot (Role.enclosing? path)).exists_answer
  rw [AdditionalContext.roleBranch, AdditionalContext.roleBranch, hown, hown']
  cases result with
  | error e => exact ⟨hleft, hright, rfl⟩
  | ok known => exact ⟨hleft, hright, rfl⟩

theorem alike_assemble {workspace : Workspace} {path : Text}
    (hroot : ∀ w, workspace.rootFor path = some w → w ≠ commonKey) (document : Value)
    (directory : Text) (type : FileType) :
    Alike fs standard
      (AdditionalContext.assemble fs workspace document directory path type cache)
      (AdditionalContext.assemble fs workspace document directory path type cache') := by
  cases type with
  | playbook => exact (alike_playbookBranch h h' hroot document directory).map _
  | tasksInRole => exact (alike_roleBranch h h' hroot document directory path).map _
  | tasks => exact ⟨h, h', rfl⟩
  | other => exact ⟨h, h', rfl⟩

/-- Faithful caches give the same answer to every question, and stay faithful. -/
theorem alike_ask {q : Query} (hq : q.NamesAbsolute) :
    Alike fs standard (q.ask fs cache) (q.ask fs cache') := by
  -- Each query asks about workspaces that are named absolutely, which the common key is not.
  cases q with
  | rolesOf w =>
    have hw : w ≠ commonKey := ne_commonKey (hq w List.mem_cons_self)
    exact (alike_rolesOf h h' hw).map _
  | commonRoles => exact (alike_commonRoles h h').map _
  | role? w role =>
    have hw : w ≠ commonKey := ne_commonKey (hq w List.mem_cons_self)
    exact (alike_role? h h' hw role).map _
  | visible root directory =>
    have hroot : ∀ w, root = some w → w ≠ commonKey := by
      rintro w rfl
      -- An empty name is not the common key either.
      by_cases hempty : w = []
      · subst hempty
        exact fun heq => nomatch heq
      · exact ne_commonKey (hq w (by simpa [Query.workspaces] using hempty))
    exact (alike_visible h h' hroot directory).map _
  | context workspace document directory path type =>
    have hroot : ∀ w, workspace.rootFor path = some w → w ≠ commonKey :=
      fun w hw => ne_commonKey (hq w (Workspace.rootFor_mem hw))
    exact (alike_assemble h h' hroot document directory type).map _

end

/-! ## The law -/

/-- A faithful cache gives the answers of a new one to any questions, and stays faithful. -/
theorem Faithful.askAll {qs : List Query} (h : Faithful fs standard cache)
    (hqs : ∀ q ∈ qs, q.NamesAbsolute) :
    Faithful fs standard (cache.askAll fs qs).1 ∧
      (cache.askAll fs qs).2 = qs.map fun q => (q.ask fs (empty standard)).2 := by
  induction qs generalizing cache with
  | nil => exact ⟨h, rfl⟩
  | cons q qs ih =>
    rw [List.forall_mem_cons] at hqs
    have hfirst := alike_ask h (faithful_empty fs standard) hqs.1
    obtain ⟨hlast, hreplies⟩ := ih hfirst.left hqs.2
    exact ⟨hlast, congrArg₂ List.cons hfirst.answer hreplies⟩

/-- However often a cache is asked, about workspaces with absolute paths and while the files stay as
    they are, it gives each answer, and each failure, that a new cache gives which is asked nothing
    else. What it holds then is what a new cache finds; so of roles that could not all be read it
    holds nothing. -/
theorem askAll_eq_map (fs : FileTree) (standard : List Text) (qs : List Query)
    (hqs : ∀ q ∈ qs, q.NamesAbsolute) :
    let asked := (empty standard).askAll fs qs
    asked.2 = qs.map (fun q => (q.ask fs (empty standard)).2) ∧
      ∀ key, (∀ roles, asked.1.entries.find? key = some roles → afresh fs standard key = .ok roles) ∧
        ∀ e, afresh fs standard key = .error e → asked.1.entries.find? key = none := by
  intro asked
  obtain ⟨hlast, hreplies⟩ := (faithful_empty fs standard).askAll hqs
  -- a held entry is what a fresh cache finds, so where that fails nothing is held
  refine ⟨hreplies, fun key => ⟨hlast.entries key, fun e hfails => ?_⟩⟩
  cases hheld : asked.1.entries.find? key with
  | none => rfl
  | some roles =>
    have hfound := hlast.entries key roles hheld
    rw [hfails] at hfound
    cases hfound

end

attribute [local instance] Sample.place

/-- A task file of the sample role is looked at between two questions for the roles. Its context
    names the files that it includes, of which there are none; the role that is held stays without
    them. -/
theorem askAll_sample :
    let fs := Sample.tree Sample.web Sample.one
    let roles : Roles := [("/w/roles/web".toList, Sample.context Sample.one)]
    let qs : List Query := [.rolesOf "/w",
      .context ⟨["/w"]⟩ (.list []) "/w/roles/web/tasks" "/w/roles/web/tasks/a.yml" .tasksInRole,
      .rolesOf "/w"]
    (∀ q ∈ qs, q.NamesAbsolute) ∧
      ((empty []).askAll fs qs).2 = [.roles (.ok roles),
        .context (.ok ⟨.tasksInRole,
          some (.role { Sample.context Sample.one with included := some (.map []) })⟩),
        .roles (.ok roles)] := by
  intro fs roles qs
  have hqs : ∀ q ∈ qs, q.NamesAbsolute := by
    have habsolute : ∀ w ∈ ["/w".toList], Path.isAbsolute w = true := by decide
    simpa [qs, Query.NamesAbsolute, Query.workspaces] using habsolute
  refine ⟨hqs, ?_⟩
  rw [(askAll_eq_map fs [] qs hqs).1]
  -- The first and the last query read the roles; the one between uses what they have read.
  have hroles : (empty []).rolesOf fs "/w" = (Sample.holding [] "/w", .ok roles) :=
    Sample.rolesOf_web.1
  have hrole : (empty []).role? fs "/w" "/w/roles/web" =
      (Sample.holding [] "/w", .ok (some (Sample.context Sample.one))) := by
    rw [role?, hroles]
    rfl
  have hbranch : (AdditionalContext.roleBranch fs (some "/w".toList) (.list [])
      "/w/roles/web/tasks" "/w/roles/web/tasks/a.yml" (empty [])).2 =
        .ok (.role { Sample.context Sample.one with included := some (.map []) }) := by
    have henclosing : Role.enclosing? "/w/roles/web/tasks/a.yml" = some "/w/roles/web".toList := by
      decide
    have hown : AdditionalContext.ownRole fs (some "/w".toList) (some "/w/roles/web".toList)
        (empty []) = (empty []).role? fs "/w" "/w/roles/web" := rfl
    rw [AdditionalContext.roleBranch, henclosing, hown, hrole]
    rfl
  have hfirst : (Query.ask fs (empty []) (.rolesOf "/w")).2 = .roles (.ok roles) := by
    rw [Query.ask, hroles]
    rfl
  have hsecond := congrArg (fun r => Reply.context (r.map fun b => ⟨.tasksInRole, some b⟩)) hbranch
  exact congrArg₂ List.cons hfirst
    (congrArg₂ List.cons hsecond (congrArg₂ List.cons hfirst rfl))

end PlaybookAssist.RoleCache
