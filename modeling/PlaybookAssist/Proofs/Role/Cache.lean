import PlaybookAssist.Proofs.Role.Reader
import PlaybookAssist.Role.Cache

/-!
# What the role cache holds

A workspace is read into a table with what is known of each role. A report becomes a change of the
role that its path belongs to, and working a change off reads its role anew and leaves the others
alone.

## Main definitions

- `RoleCache.listed` : the roles of some directories
- `RoleCache.postAll` : the cache after a list of reports
- `RoleCache.renew` : the tables of the workspaces with the role of a change read anew

## Main statements

- `RoleCache.reads_populateFrom` : what is known of each role after directories are read
- `RoleCache.workOffAll_eq`, `RoleCache.find?_foldl_renew` : the tables after changes are worked off
-/

namespace PlaybookAssist.RoleCache

variable [Place] {fs : FileTree} {key workspace role path d : Text} {dirs qs : List Text}
  {known roles : Roles} {cache cache' : RoleCache} {reports : List (Text × ChangeKind)}
  {changes : List RoleChange} {handled : Nat}

/-! ## Reading a workspace -/

/-- The roles of some directories. -/
def listed (fs : FileTree) (dirs : List Text) : List Text :=
  dirs.flatMap fun d => (Role.listIn fs d).toOption.getD []

/-- Reading the roles of the directories does not fail. -/
def Parses (fs : FileTree) (dirs : List Text) : Prop :=
  ∀ d ∈ dirs, ∃ roles, Role.listIn fs d = .ok roles ∧
    ∀ role ∈ roles, ∃ context, Role.read? fs role = .ok context

theorem exists_readRoles (h : ∀ role ∈ qs, ∃ context, Role.read? fs role = .ok context)
    (known : Roles) : ∃ roles, readRoles fs known qs = .ok roles := by
  induction qs generalizing known with
  | nil => exact ⟨known, rfl⟩
  | cons q qs ih =>
    rw [List.forall_mem_cons] at h
    obtain ⟨⟨context, hread⟩, hrest⟩ := h
    rw [readRoles, hread]
    cases context with
    | none => exact ih hrest known
    | some context => exact ih hrest (known.set q context)

/-- What is known after some roles are read: of these, what reading them gives, if anything. -/
theorem find?_readRoles (h : readRoles fs known qs = .ok roles) :
    (known.keys.Nodup → roles.keys.Nodup) ∧ ∀ role, roles.find? role =
      if role ∈ qs then (Role.known? fs role).or (known.find? role) else known.find? role := by
  -- Induction over the roles that are read; each of them is put in its place.
  induction qs generalizing known with
  | nil =>
    cases h
    exact ⟨id, fun role => rfl⟩
  | cons q qs ih =>
    rw [readRoles] at h
    cases hread : Role.read? fs q with
    | error e =>
      rw [hread] at h
      cases h
    | ok context =>
      rw [hread] at h
      have hknown : Role.known? fs q = context := by rw [Role.known?, hread]
      cases context with
      | none =>
        -- The role is not there, so that its place is that of those known before.
        obtain ⟨hnodup, hfind⟩ := ih h
        refine ⟨hnodup, fun role => ?_⟩
        rw [hfind]
        by_cases hrole : role = q
        · subst hrole
          simp [hknown]
        · simp [hrole]
      | some context =>
        -- It is there, and stands in its own place from now on.
        obtain ⟨hnodup, hfind⟩ := ih h
        refine ⟨fun hkeys => hnodup (Table.nodup_keys_set hkeys), fun role => ?_⟩
        rw [hfind]
        by_cases hrole : role = q
        · subst hrole
          simp [hknown]
        · simp [hrole, Table.find?_set_of_ne hrole]

/-- Reading directories: which are noted, what stays as it is, and what is known afterwards. -/
structure Reads (fs : FileTree) (key : Text) (dirs : List Text) (known roles : Roles)
    (cache cache' : RoleCache) : Prop where
  entries : cache'.entries = cache.entries
  queue : cache'.queue = cache.queue
  keys : ∀ d, d ∈ cache'.directories.keys ↔ d ∈ dirs ∨ d ∈ cache.directories.keys
  workspaces : (∀ p ∈ cache.directories, p.2 = key) → ∀ p ∈ cache'.directories, p.2 = key
  nodup : known.keys.Nodup → roles.keys.Nodup
  find? : ∀ role, roles.find? role =
    if role ∈ listed fs dirs then (Role.known? fs role).or (known.find? role)
    else known.find? role

theorem reads_populateFrom (h : populateFrom fs key cache known dirs = (cache', .ok roles)) :
    Reads fs key dirs known roles cache cache' := by
  -- Induction over the directories, with what has been read so far.
  induction dirs generalizing cache known with
  | nil =>
    cases h
    exact ⟨rfl, rfl, fun d => by simp, id, id, fun role => rfl⟩
  | cons d dirs ih =>
    rw [populateFrom] at h
    cases hlist : Role.listIn fs d with
    | error e =>
      rw [hlist] at h
      cases h
    | ok qs =>
      have hbind : (Except.ok qs >>= readRoles fs known) = readRoles fs known qs := rfl
      rw [hlist, hbind] at h
      cases hread : readRoles fs known qs with
      | error e =>
        rw [hread] at h
        cases h
      | ok known' =>
        rw [hread] at h
        have hrest := ih h
        obtain ⟨hnodup, hfind⟩ := find?_readRoles hread
        -- What the first directory lists is read before the others.
        have hlisted : listed fs (d :: dirs) = qs ++ listed fs dirs := by
          rw [listed, List.flatMap_cons, hlist]
          rfl
        refine ⟨hrest.entries, hrest.queue, fun d' => ?_, fun hbefore => ?_,
          hrest.nodup ∘ hnodup, fun role => ?_⟩
        · rw [hrest.keys, Table.mem_keys_set, List.mem_cons]
          exact or_left_comm.trans or_assoc.symm
        · refine hrest.workspaces fun p hp => ?_
          -- A directory that was there before belongs to the workspace, too.
          rcases Table.eq_or_mem_of_mem_set hp with rfl | hp
          · rfl
          · exact hbefore p hp
        · -- A role that two of the directories list is read twice, to the same effect.
          rw [hrest.find?, hfind, hlisted]
          by_cases hlater : role ∈ listed fs dirs <;> by_cases hhere : role ∈ qs <;>
            simp [hlater, hhere, ← Option.or_assoc]

theorem exists_populateFrom (h : Parses fs dirs) (key : Text) (cache : RoleCache) (known : Roles) :
    ∃ cache' roles, populateFrom fs key cache known dirs = (cache', .ok roles) := by
  induction dirs generalizing cache known with
  | nil => exact ⟨cache, known, rfl⟩
  | cons d dirs ih =>
    unfold Parses at h
    rw [List.forall_mem_cons] at h
    obtain ⟨⟨qs, hlist, hqs⟩, hrest⟩ := h
    obtain ⟨known', hread⟩ := exists_readRoles hqs known
    have hbind : (Except.ok qs >>= readRoles fs known) = readRoles fs known qs := rfl
    rw [populateFrom, hlist, hbind, hread]
    exact ih hrest _ known'

/-- A workspace is read when an empty cache is asked for it. -/
theorem rolesOf_empty {standard : List Text}
    (h : Role.directoriesBelow fs (some workspace) = .ok dirs) :
    (empty standard).rolesOf fs workspace = (empty standard).populate fs workspace dirs := by
  rw [rolesOf, lookUp, h]
  rfl

/-- A cache that has read one workspace. -/
structure HoldsOnly (fs : FileTree) (workspace : Text) (dirs : List Text) (roles : Roles)
    (cache : RoleCache) : Prop where
  entries : cache.entries = [(workspace, roles)]
  queue : cache.queue = []
  keys : ∀ d, d ∈ cache.directories.keys ↔ d ∈ dirs
  workspaces : ∀ p ∈ cache.directories, p.2 = workspace
  nodup : roles.keys.Nodup
  find? : ∀ role, roles.find? role = if role ∈ listed fs dirs then Role.known? fs role else none

theorem holdsOnly_rolesOf {standard : List Text}
    (hdirs : Role.directoriesBelow fs (some workspace) = .ok dirs)
    (h : (empty standard).rolesOf fs workspace = (cache, .ok roles)) :
    HoldsOnly fs workspace dirs roles cache := by
  rw [rolesOf_empty hdirs, populate] at h
  cases hread : populateFrom fs workspace (empty standard) [] dirs with
  | mk cache' result =>
    rw [hread] at h
    cases result with
    | error e => cases h
    | ok roles' =>
      cases h
      have hreads := reads_populateFrom hread
      refine ⟨?_, hreads.queue, fun d => ?_, hreads.workspaces fun p hp => (by cases hp),
        hreads.nodup List.nodup_nil, fun role => ?_⟩
      · rw [hreads.entries]
        rfl
      -- The cache was empty, so that all of it comes from the reading.
      · rw [hreads.keys]
        exact or_iff_left List.not_mem_nil
      · rw [hreads.find?]
        exact if_congr Iff.rfl (Option.or_none) rfl

/-- An empty cache that is asked for a workspace gives its roles if they can be read. -/
theorem exists_rolesOf_empty (hdirs : Role.directoriesBelow fs (some workspace) = .ok dirs)
    (hparses : Parses fs dirs) (standard : List Text) :
    ∃ cache roles, (empty standard).rolesOf fs workspace = (cache, .ok roles) := by
  obtain ⟨cache, roles, hread⟩ := exists_populateFrom hparses workspace (empty standard) []
  rw [rolesOf_empty hdirs, populate, hread]
  exact ⟨_, _, rfl⟩

/-! ## Reports -/

/-- The cache after reports of changes at paths, in order. -/
def postAll (reports : List (Text × ChangeKind)) (cache : RoleCache) : RoleCache :=
  reports.foldl (fun cache r => (cache.postForPath r.1 r.2).1) cache

omit [Place] in
theorem foldl_post (changes : List RoleChange) (cache : RoleCache) :
    changes.foldl (fun cache change => cache.post change) cache =
      { cache with queue := cache.queue ++ changes } := by
  induction changes generalizing cache with
  | nil => simp
  | cons change changes ih =>
    rw [List.foldl_cons, ih]
    simp [post]

/-- The changes that reports are turned into: one for each path that belongs to a role. -/
def changesOf (cache : RoleCache) (reports : List (Text × ChangeKind)) : List RoleChange :=
  reports.filterMap fun r => (cache.ownerOf? r.1).map fun o => ⟨o.1, o.2, r.2⟩

theorem postAll_eq (reports : List (Text × ChangeKind)) (cache : RoleCache) :
    cache.postAll reports = { cache with queue := cache.queue ++ cache.changesOf reports } := by
  induction reports generalizing cache with
  | nil => simp [postAll, changesOf]
  | cons r reports ih =>
    rw [postAll, List.foldl_cons, ← postAll, ih, changesOf, changesOf, List.filterMap_cons]
    cases howner : cache.ownerOf? r.1 with
    | none => simp [postForPath, howner]
    | some o =>
      have hpost : (cache.postForPath r.1 r.2).1 = cache.post ⟨o.1, o.2, r.2⟩ := by
        rw [postForPath, howner]
      -- Who owns a path does not depend on the queue.
      have howners : ∀ p, (cache.post ⟨o.1, o.2, r.2⟩).ownerOf? p = cache.ownerOf? p :=
        fun p => rfl
      simp only [hpost, howners]
      simp [post]

theorem mem_changesOf {change : RoleChange} :
    change ∈ cache.changesOf reports ↔
      ∃ r ∈ reports, cache.ownerOf? r.1 = some (change.workspace, change.role) ∧
        change.kind = r.2 := by
  obtain ⟨workspace, role, kind⟩ := change
  simp only [changesOf, List.mem_filterMap, Option.map_eq_some_iff, RoleChange.mk.injEq]
  constructor
  · rintro ⟨r, hr, ⟨w, q⟩, howner, rfl, rfl, rfl⟩
    exact ⟨r, hr, howner, rfl⟩
  · rintro ⟨r, hr, howner, rfl⟩
    exact ⟨r, hr, _, howner, rfl, rfl, rfl⟩

theorem mem_map_changesOf : role ∈ (cache.changesOf reports).map RoleChange.role ↔
    ∃ r ∈ reports, ∃ w, cache.ownerOf? r.1 = some (w, role) := by
  rw [List.mem_map]
  constructor
  · rintro ⟨change, hchange, rfl⟩
    obtain ⟨r, hr, howner, -⟩ := mem_changesOf.mp hchange
    exact ⟨r, hr, _, howner⟩
  · rintro ⟨r, hr, w, howner⟩
    exact ⟨⟨w, role, r.2⟩, mem_changesOf.mpr ⟨r, hr, howner, rfl⟩, rfl⟩

/-! ## Working off -/

/-- The tables of the workspaces with the role of a change as reading it gives it. A workspace that
    has no table stays without one. -/
def renew (fs : FileTree) (entries : Table Roles) (change : RoleChange) : Table Roles :=
  match entries.find? change.workspace with
  | none => entries
  | some roles =>
    entries.set change.workspace (roles.update change.role (Role.known? fs change.role))

/-- The roles of a workspace that changes name. -/
def named (workspace : Text) (changes : List RoleChange) : List Text :=
  (changes.filter fun c => c.workspace = workspace).map RoleChange.role

theorem refresh_eq {change : RoleChange}
    (hread : ∃ context, Role.read? fs change.role = .ok context) (cache : RoleCache) :
    refresh fs change.workspace change.role cache =
      ({ cache with entries := renew fs cache.entries change }, .ok ()) := by
  obtain ⟨context, hread⟩ := hread
  have hknown : Role.known? fs change.role = context := by rw [Role.known?, hread]
  rw [refresh, renew, hknown, hread]
  cases cache.entries.find? change.workspace with
  | none => rfl
  | some roles => cases context <;> rfl

/-- Working changes off, where all of their roles can be read, renews the tables with one after the
    other. -/
theorem workOffAll_eq (hread : ∀ c ∈ changes, ∃ context, Role.read? fs c.role = .ok context)
    (cache : RoleCache) (handled : Nat) :
    workOffAll fs cache handled changes =
      ({ cache with entries := changes.foldl (renew fs) cache.entries, queue := [] },
        .ok (handled + changes.length)) := by
  induction changes generalizing cache handled with
  | nil => rfl
  | cons change changes ih =>
    rw [List.forall_mem_cons] at hread
    rw [workOffAll, refresh_eq hread.1]
    dsimp only
    rw [ih hread.2, List.foldl_cons, List.length_cons, Nat.add_right_comm, Nat.add_assoc]

theorem find?_renew (fs : FileTree) (entries : Table Roles) (change : RoleChange) (key : Text) :
    (renew fs entries change).find? key = (entries.find? key).map fun roles =>
      if change.workspace = key then roles.update change.role (Role.known? fs change.role)
      else roles := by
  rw [renew]
  by_cases hkey : change.workspace = key
  · subst hkey
    cases hroles : entries.find? change.workspace with
    | none => exact hroles
    | some roles =>
      rw [Option.map_some, if_pos rfl]
      exact Table.find?_set_self _ _ _
  -- a change for another key leaves what is under this one, renewed or not
  · simp only [if_neg hkey, Option.map_id']
    split
    · rfl
    · exact Table.find?_set_of_ne (Ne.symm hkey) _ _

/-- Changes reach the tables of their own workspaces only, and there they update the roles that they
    name. -/
theorem find?_foldl_renew (fs : FileTree) (changes : List RoleChange) (entries : Table Roles)
    (key : Text) : (changes.foldl (renew fs) entries).find? key =
      (entries.find? key).map (Table.updateAll (Role.known? fs) (named key changes)) := by
  induction changes generalizing entries with
  | nil => exact Option.map_id'.symm
  | cons change changes ih =>
    rw [List.foldl_cons, ih, find?_renew, Option.map_map]
    congr 1
    funext roles
    by_cases hkey : change.workspace = key <;> simp [named, hkey, Table.updateAll]

/-- Working changes off reads their roles anew and leaves all others alone. -/
theorem exists_workOffAll (hroles : cache.entries.find? workspace = some roles)
    (hnodup : roles.keys.Nodup) (hworkspace : ∀ c ∈ changes, c.workspace = workspace)
    (hread : ∀ c ∈ changes, ∃ context, Role.read? fs c.role = .ok context) :
    ∃ cache' count roles', workOffAll fs cache handled changes = (cache', .ok count) ∧
      cache'.entries.find? workspace = some roles' ∧
      ∀ q, roles'.find? q =
        if q ∈ changes.map RoleChange.role then Role.known? fs q else roles.find? q := by
  have hnamed : named workspace changes = changes.map RoleChange.role := by
    rw [named, List.filter_eq_self.mpr fun c hc => decide_eq_true (hworkspace c hc)]
  refine ⟨_, _, roles.updateAll (Role.known? fs) (changes.map RoleChange.role),
    workOffAll_eq hread cache handled, ?_, fun q => Table.find?_updateAll hnodup q⟩
  show (changes.foldl (renew fs) cache.entries).find? workspace = _
  rw [find?_foldl_renew, hroles, hnamed]
  rfl

end PlaybookAssist.RoleCache
