import PlaybookAssist.Proofs.Files.Load
import PlaybookAssist.Proofs.Role.Cache

/-!
# What a role cache has gone through

A cache is filled and changed by the operations on it, each at a time at which the file system is in
some state. What can be said of every cache that has been in use is proved once for each operation
and then for all histories of operations.

## Main definitions

- `RoleCache.Operation` : the operations on a cache; `Operation.run` is the cache after one
- `RoleCache.after` : the cache after a history of operations
- `RoleCache.note` : the cache after `roles` directories were found for a key
- `RoleCache.Holding` : what all tables of roles have that are held

## Main statements

- `RoleCache.lookUp_cases`, `RoleCache.populate_cases` : what a look can do to a cache
- `RoleCache.holding_after` : what is kept as roles are read and dropped holds of all tables
- `RoleCache.distinct_after` : no role is held twice under a key
-/

namespace PlaybookAssist.RoleCache

variable [Place]

/-! ## Histories -/

/-- An operation on a cache. -/
inductive Operation where
  | rolesOf (workspace : Text)
  | commonRoles
  | role? (workspace role : Text)
  | visible (workspace : Option Text) (directory : Text)
  | post (change : RoleChange)
  | postForPath (path : Text) (kind : ChangeKind)
  | refresh (workspace role : Text)
  | workOff
  | takeDiscovered

/-- The cache after an operation, whether the operation fails or not. -/
def Operation.run (fs : FileTree) (cache : RoleCache) : Operation → RoleCache
  | .rolesOf workspace => (cache.rolesOf fs workspace).1
  | .commonRoles => (cache.commonRoles fs).1
  | .role? workspace role => (cache.role? fs workspace role).1
  | .visible workspace directory => (cache.visible fs workspace directory).1
  | .post change => cache.post change
  | .postForPath path kind => (cache.postForPath path kind).1
  | .refresh workspace role => (cache.refresh fs workspace role).1
  | .workOff => (cache.workOff fs).1
  | .takeDiscovered => cache.takeDiscovered.1

/-- Does the operation only look at the cache? -/
def Operation.IsLook : Operation → Prop
  | .rolesOf _ | .commonRoles | .role? _ _ | .visible _ _ => True
  | .post _ | .postForPath _ _ | .refresh _ _ | .workOff | .takeDiscovered => False

/-- The cache after a history of operations, each with the file system that it met. -/
def after (cache : RoleCache) (history : List (FileTree × Operation)) : RoleCache :=
  history.foldl (fun cache h => h.2.run h.1 cache) cache

variable {fs : FileTree} {key workspace role d : Text} {dirs found : List Text} {known roles : Roles}
  {cache cache' : RoleCache} {directories : Except Failure (List Text)} {op : Operation}
  {history : List (FileTree × Operation)} {P : RoleCache → Prop}

/-- What every operation of a history preserves holds after the history. -/
theorem preserved_after (h : P cache)
    (hstep : ∀ m ∈ history, ∀ cache, P cache → P (m.2.run m.1 cache)) : P (cache.after history) := by
  induction history generalizing cache with
  | nil => exact h
  | cons m history ih =>
    rw [List.forall_mem_cons] at hstep
    exact ih (hstep.1 _ h) hstep.2

/-! ## Looks -/

/-- Without a workspace only the common roles are visible. -/
theorem visible_of_none {own : Option Text} (h : own = none ∨ own = some []) (directory : Text) :
    cache.visible fs own directory = ((cache.commonRoles fs).1,
      (cache.commonRoles fs).2.map fun common => addCommon [] (relativeRoles directory []) common) := by
  rw [visible.eq_def]
  rcases h with rfl | rfl
  · dsimp only
    obtain ⟨cache', e | common⟩ := cache.commonRoles fs <;> rfl
  · simp only [List.isEmpty_nil, if_true]
    obtain ⟨cache', e | common⟩ := cache.commonRoles fs <;> rfl

/-- In a workspace its roles are visible and then the common ones. -/
theorem visible_of_some (h : workspace ≠ []) (directory : Text) :
    cache.visible fs (some workspace) directory =
      match cache.rolesOf fs workspace with
      | (cache, .error e) => (cache, .error e)
      | (cache, .ok own) => ((cache.commonRoles fs).1,
          (cache.commonRoles fs).2.map
            fun common => addCommon own (relativeRoles directory own) common) := by
  have hempty : workspace.isEmpty = false := by simpa using h
  rw [visible.eq_def]
  simp only [hempty, Bool.false_eq_true, if_false]
  obtain ⟨cache', e | own⟩ := cache.rolesOf fs workspace
  · rfl
  · dsimp only
    obtain ⟨cache'', e | common⟩ := cache'.commonRoles fs <;> rfl

/-- To look for one role of a workspace is to look for all of them. -/
theorem role?_cache (fs : FileTree) (workspace role : Text) (cache : RoleCache) :
    (cache.role? fs workspace role).1 = (cache.rolesOf fs workspace).1 := by
  rw [role?]
  split <;> simp [*]

/-- What holds after the first look up, and of which later ones take nothing away, holds after every
    operation that only looks. -/
theorem holds_of_isLook {Q : RoleCache → Prop} (hlook : op.IsLook)
    (hrolesOf : ∀ cache workspace, P cache → Q (cache.rolesOf fs workspace).1)
    (hcommon : ∀ cache, P cache → Q (cache.commonRoles fs).1)
    (hlater : ∀ cache, Q cache → Q (cache.commonRoles fs).1) (h : P cache) :
    Q (op.run fs cache) := by
  -- A look either finds directories for one workspace or reads the common roles.
  cases op with
  | rolesOf workspace => exact hrolesOf _ _ h
  | commonRoles => exact hcommon _ h
  | role? workspace role =>
    rw [Operation.run, role?_cache]
    exact hrolesOf _ _ h
  | visible workspace directory =>
    rw [Operation.run]
    -- Without a workspace only the common roles are read; with one, both.
    by_cases hnone : workspace = none ∨ workspace = some []
    · rw [visible_of_none hnone]
      exact hcommon _ h
    · rw [not_or] at hnone
      obtain ⟨w, rfl⟩ := Option.ne_none_iff_exists'.mp hnone.1
      have hw : w ≠ [] := fun hempty => hnone.2 (congrArg some hempty)
      have hown := hrolesOf cache w h
      rw [visible_of_some hw]
      generalize cache.rolesOf fs w = result at hown ⊢
      obtain ⟨cache', e | own⟩ := result
      · exact hown
      · exact hlater _ hown
  -- Everything else changes the cache in other ways.
  | post | postForPath | refresh | workOff | takeDiscovered => cases hlook

/-- What the two kinds of looks preserve every operation preserves that only looks. -/
theorem preserved_of_isLook (hlook : op.IsLook)
    (hrolesOf : ∀ cache workspace, P cache → P (cache.rolesOf fs workspace).1)
    (hcommon : ∀ cache, P cache → P (cache.commonRoles fs).1) (h : P cache) :
    P (op.run fs cache) :=
  holds_of_isLook hlook hrolesOf hcommon hcommon h

/-- A look works off the changes; if the key has not been asked for and the directories are known,
    it goes on to read them. -/
theorem lookUp_cases (fs : FileTree) (key : Text) (directories : Except Failure (List Text))
    (cache : RoleCache) :
    (cache.lookUp fs key directories).1 = (cache.workOff fs).1 ∨
      ∃ count dirs, (cache.workOff fs).2 = .ok count ∧ directories = .ok dirs ∧
        (cache.workOff fs).1.entries.find? key = none ∧
        cache.lookUp fs key directories = (cache.workOff fs).1.populate fs key dirs := by
  rw [lookUp]
  obtain ⟨cache', e | count⟩ := cache.workOff fs
  · exact .inl rfl
  · dsimp only
    cases hentry : cache'.entries.find? key with
    | some roles => exact .inl rfl
    | none =>
      cases directories with
      | error e => exact .inl rfl
      | ok dirs => exact .inr ⟨count, dirs, rfl, rfl, rfl, rfl⟩

/-! ## Directories that are noted -/

/-- The cache after `roles` directories were found for a key. -/
def note (key : Text) (found : List Text) (cache : RoleCache) : RoleCache :=
  { cache with
    directories := found.foldl (fun noted d => noted.set d key) cache.directories
    discovered := cache.discovered ++ found.map fun d => (d, key) }

omit [Place] in
theorem note_cons (key d : Text) (found : List Text) (cache : RoleCache) :
    cache.note key (d :: found) = (cache.note key [d]).note key found := by
  simp [note]

/-- Reading directories notes those up to the first that cannot be read, and does nothing else to
    the cache. -/
theorem exists_note (fs : FileTree) (key : Text) (cache : RoleCache) (known : Roles)
    (dirs : List Text) : ∃ found, found <+: dirs ∧
      (populateFrom fs key cache known dirs).1 = cache.note key found ∧
      ((populateFrom fs key cache known dirs).2.isOk → found = dirs) := by
  induction dirs generalizing cache known with
  | nil => exact ⟨[], List.prefix_refl _, by simp [populateFrom, note], fun _ => rfl⟩
  | cons d dirs ih =>
    rw [populateFrom]
    cases Role.listIn fs d >>= readRoles fs known with
    -- a directory that cannot be read has been noted all the same
    | error e => exact ⟨[d], by simp, rfl, fun h => by cases h⟩
    | ok known' =>
      obtain ⟨found, hprefix, hcache, hall⟩ := ih (cache.note key [d]) known'
      refine ⟨d :: found, (List.prefix_cons_inj d).mpr hprefix, ?_, fun h => ?_⟩
      · rw [note_cons]
        exact hcache
      · rw [hall h]

omit [Place] in
/-- The directories that are noted afterwards were noted before, or have been found for the key. -/
theorem mem_directories_note {key' : Text} (h : (d, key') ∈ (cache.note key dirs).directories) :
    (d, key') ∈ cache.directories ∨ key' = key ∧ d ∈ dirs := by
  suffices hfold : ∀ (dirs : List Text) (noted : Table Text),
      (d, key') ∈ dirs.foldl (fun noted d => noted.set d key) noted →
        (d, key') ∈ noted ∨ key' = key ∧ d ∈ dirs from
    hfold dirs cache.directories h
  -- an induction on the directories needs the table that they are noted in to vary
  intro dirs
  induction dirs with
  | nil => exact fun noted hmem => .inl hmem
  | cons d' dirs ih =>
    intro noted hmem
    rcases ih _ hmem with hset | ⟨hkey, hd⟩
    · rcases Table.eq_or_mem_of_mem_set hset with heq | hmem
      · cases heq
        exact .inr ⟨rfl, List.mem_cons_self⟩
      · exact .inl hmem
    · exact .inr ⟨hkey, List.mem_cons_of_mem _ hd⟩

/-- Reading the directories under a key notes them and enters their roles, if all can be read. -/
theorem populate_cases (fs : FileTree) (key : Text) (dirs : List Text) (cache : RoleCache) :
    (∃ found e, found <+: dirs ∧
      cache.populate fs key dirs = (cache.note key found, .error e)) ∨
    ∃ roles, Reads fs key dirs [] roles cache (cache.note key dirs) ∧
      cache.populate fs key dirs =
        ({ cache.note key dirs with entries := cache.entries.set key roles }, .ok roles) := by
  obtain ⟨found, hprefix, hcache, hall⟩ := exists_note fs key cache [] dirs
  rw [populate]
  cases hread : populateFrom fs key cache [] dirs with
  | mk cache' result =>
    rw [hread] at hcache hall
    obtain rfl : cache' = cache.note key found := hcache
    cases result with
    | error e => exact .inl ⟨found, e, hprefix, rfl⟩
    | ok roles =>
      obtain rfl : found = dirs := hall rfl
      exact .inr ⟨roles, reads_populateFrom hread, rfl⟩

/-! ## What reading directories gives -/

/-- The roles of the given `roles` directories entered among those known. -/
def readAll (fs : FileTree) (known : Roles) (dirs : List Text) : Except Failure Roles :=
  dirs.foldlM (fun known d => Role.listIn fs d >>= readRoles fs known) known

/-- What reading directories gives depends neither on the key nor on the cache. -/
theorem populateFrom_answer (fs : FileTree) (key : Text) (cache : RoleCache) (known : Roles)
    (dirs : List Text) : (populateFrom fs key cache known dirs).2 = readAll fs known dirs := by
  induction dirs generalizing cache known with
  | nil => rfl
  | cons d dirs ih =>
    rw [populateFrom, readAll, List.foldlM_cons]
    cases Role.listIn fs d >>= readRoles fs known with
    | error e => rfl
    | ok known' => exact ih _ known'

theorem populate_answer (fs : FileTree) (key : Text) (dirs : List Text) (cache : RoleCache) :
    (cache.populate fs key dirs).2 = readAll fs [] dirs := by
  have hanswer := populateFrom_answer fs key cache [] dirs
  rw [populate]
  generalize populateFrom fs key cache [] dirs = read at hanswer ⊢
  obtain ⟨next, e | roles⟩ := read <;> exact hanswer

/-! ## Changes note nothing -/

theorem directories_refresh (fs : FileTree) (workspace role : Text) (cache : RoleCache) :
    (cache.refresh fs workspace role).1.directories = cache.directories := by
  rw [RoleCache.refresh]
  split
  · rfl
  · split <;> rfl

theorem directories_workOffAll (fs : FileTree) (cache : RoleCache) (handled : Nat)
    (changes : List RoleChange) :
    (workOffAll fs cache handled changes).1.directories = cache.directories := by
  induction changes generalizing cache handled with
  | nil => rfl
  | cons change changes ih =>
    have hrefresh := directories_refresh fs change.workspace change.role cache
    rw [workOffAll]
    generalize cache.refresh fs change.workspace change.role = result at hrefresh ⊢
    obtain ⟨next, e | ⟨⟩⟩ := result
    · exact hrefresh
    · exact (ih next _).trans hrefresh

/-! ## Looks where no change waits -/

/-- Where no change waits there is nothing to work off. -/
theorem workOff_of_idle (h : cache.queue = []) (fs : FileTree) : cache.workOff fs = (cache, .ok 0) := by
  obtain ⟨standard, entries, directories, queue, discovered⟩ := cache
  obtain rfl : queue = [] := h
  rfl

/-- Where no change waits, a look gives what is held under its key. -/
theorem lookUp_of_held (h : cache.queue = []) (hroles : cache.entries.find? key = some roles)
    (fs : FileTree) (directories : Except Failure (List Text)) :
    cache.lookUp fs key directories = (cache, .ok roles) := by
  rw [lookUp, workOff_of_idle h]
  dsimp only
  rw [hroles]

/-- Where no change waits, a look under a new key reads the directories. -/
theorem lookUp_of_new (h : cache.queue = []) (hnone : cache.entries.find? key = none)
    (fs : FileTree) (dirs : List Text) :
    cache.lookUp fs key (.ok dirs) = cache.populate fs key dirs := by
  rw [lookUp, workOff_of_idle h]
  dsimp only
  rw [hnone]

/-- What a look gives is held under its key afterwards. -/
theorem find?_lookUp (h : cache.lookUp fs key directories = (cache', .ok roles)) :
    cache'.entries.find? key = some roles := by
  -- What is held already stays as it is; otherwise it is read now.
  rw [lookUp] at h
  generalize cache.workOff fs = worked at h
  obtain ⟨next, e | count⟩ := worked
  · cases h
  · dsimp only at h
    cases hentry : next.entries.find? key with
    | some held =>
      rw [hentry] at h
      cases h
      exact hentry
    | none =>
      rw [hentry] at h
      cases directories with
      | error e => cases h
      | ok dirs =>
        have hpopulate : next.populate fs key dirs = (cache', .ok roles) := h
        -- Reading fails, or the roles it gives are the entry.
        rcases populate_cases fs key dirs next with ⟨found, e, -, hfails⟩ | ⟨read, -, hresult⟩
        · rw [hfails] at hpopulate
          cases hpopulate
        · rw [hresult] at hpopulate
          cases hpopulate
          exact Table.find?_set_self _ _ _

/-! ## Tables of roles -/

/-- All tables of roles that are held have the property. -/
def Holding (P : Roles → Prop) (cache : RoleCache) : Prop :=
  ∀ key roles, cache.entries.find? key = some roles → P roles

/-- A property of tables of roles that comes with the empty table and is kept as roles are read and
    dropped. -/
structure Kept (P : Roles → Prop) : Prop where
  nil : P []
  set : ∀ fs role context roles, Role.read? fs role = .ok (some context) → P roles →
    P (roles.set role context)
  erase : ∀ role roles, P roles → P (roles.erase role)

section

variable {P : Roles → Prop}

omit [Place] in
theorem Holding.set (h : cache.Holding P) (hroles : P roles)
    (hentries : cache'.entries = cache.entries.set key roles) : cache'.Holding P := by
  intro key' roles' hfind
  rw [hentries] at hfind
  by_cases hkey : key' = key
  · subst hkey
    rw [Table.find?_set_self] at hfind
    cases hfind
    exact hroles
  · rw [Table.find?_set_of_ne hkey] at hfind
    exact h key' roles' hfind

variable (hP : Kept P)

include hP

theorem Kept.readRoles {qs : List Text} (h : P known)
    (hread : RoleCache.readRoles fs known qs = .ok roles) : P roles := by
  induction qs generalizing known with
  | nil =>
    cases hread
    exact h
  | cons q qs ih =>
    rw [RoleCache.readRoles] at hread
    obtain ⟨context, hq, hrest⟩ := bind_eq_ok.mp hread
    cases context with
    | none => exact ih h hrest
    | some context => exact ih (hP.set fs q context known hq h) hrest

theorem Kept.readAll (h : P known) (hread : RoleCache.readAll fs known dirs = .ok roles) :
    P roles := by
  induction dirs generalizing known with
  | nil =>
    cases hread
    exact h
  | cons d dirs ih =>
    rw [RoleCache.readAll, List.foldlM_cons] at hread
    obtain ⟨known', hknown, hrest⟩ := bind_eq_ok.mp hread
    obtain ⟨qs, -, hqs⟩ := bind_eq_ok.mp hknown
    exact ih (hP.readRoles h hqs) hrest

theorem Holding.refresh (h : cache.Holding P) (fs : FileTree) (workspace role : Text) :
    (cache.refresh fs workspace role).1.Holding P := by
  rw [RoleCache.refresh]
  cases hroles : cache.entries.find? workspace with
  | none => exact h
  | some roles =>
    have hheld := h workspace roles hroles
    dsimp only
    cases hread : Role.read? fs role with
    | error e => exact h
    | ok context =>
      cases context with
      | none => exact h.set (hP.erase role roles hheld) rfl
      | some context => exact h.set (hP.set fs role context roles hread hheld) rfl

theorem Holding.workOffAll {changes : List RoleChange} {handled : Nat} (h : cache.Holding P)
    (fs : FileTree) : (workOffAll fs cache handled changes).1.Holding P := by
  induction changes generalizing cache handled with
  | nil => exact h
  | cons change changes ih =>
    have hrefresh := Holding.refresh hP h fs change.workspace change.role
    rw [RoleCache.workOffAll]
    generalize cache.refresh fs change.workspace change.role = result at hrefresh ⊢
    obtain ⟨cache', e | ⟨⟩⟩ := result
    · exact hrefresh
    · exact ih hrefresh

theorem Holding.populate (h : cache.Holding P) (fs : FileTree) (key : Text) (dirs : List Text) :
    (cache.populate fs key dirs).1.Holding P := by
  have hanswer := populate_answer fs key dirs cache
  rcases populate_cases fs key dirs cache with ⟨found, e, -, hfails⟩ | ⟨roles, -, hresult⟩
  · rw [hfails]
    exact h
  · rw [hresult] at hanswer ⊢
    exact h.set (hP.readAll hP.nil hanswer.symm) rfl

theorem Holding.lookUp (h : cache.Holding P) (fs : FileTree) (key : Text)
    (directories : Except Failure (List Text)) : (cache.lookUp fs key directories).1.Holding P := by
  have hwork : (cache.workOff fs).1.Holding P := Holding.workOffAll hP h fs
  rcases lookUp_cases fs key directories cache with hsame | ⟨count, dirs, -, -, -, hpopulate⟩
  · rw [hsame]
    exact hwork
  · rw [hpopulate]
    exact Holding.populate hP hwork fs key dirs

theorem Holding.run (h : cache.Holding P) (fs : FileTree) (op : Operation) :
    (op.run fs cache).Holding P := by
  have hlook (hlook : op.IsLook) : (op.run fs cache).Holding P :=
    preserved_of_isLook hlook (fun cache workspace h => Holding.lookUp hP h fs _ _)
      (fun cache h => Holding.lookUp hP h fs _ _) h
  cases op with
  | rolesOf | commonRoles | role? | visible => exact hlook trivial
  | post => exact h
  | postForPath path kind =>
    rw [Operation.run, RoleCache.postForPath]
    split <;> exact h
  | refresh workspace role => exact Holding.refresh hP h fs workspace role
  | workOff => exact Holding.workOffAll hP h fs
  | takeDiscovered => exact h

/-- What is kept as roles are read and dropped holds of all tables of a cache that has been in
    use. -/
theorem holding_after (standard : List Text) (history : List (FileTree × Operation)) :
    ((empty standard).after history).Holding P := by
  apply preserved_after
  · intro key roles hfind
    cases hfind
  · intro m _ cache h
    exact Holding.run hP h m.1 m.2

end

/-! ## Roles that are held twice -/

/-- No role is held twice under a key. -/
def Distinct (cache : RoleCache) : Prop :=
  ∀ key roles, cache.entries.find? key = some roles → roles.keys.Nodup

theorem kept_nodup : Kept fun roles => roles.keys.Nodup where
  nil := List.nodup_nil
  set _ _ _ _ _ := Table.nodup_keys_set
  erase _ _ := Table.nodup_keys_erase

theorem Distinct.run (h : cache.Distinct) (fs : FileTree) (op : Operation) :
    (op.run fs cache).Distinct :=
  Holding.run kept_nodup h fs op

/-- No cache that has been in use holds a role twice under a key. -/
theorem distinct_after (standard : List Text) (history : List (FileTree × Operation)) :
    ((empty standard).after history).Distinct :=
  holding_after kept_nodup standard history

end PlaybookAssist.RoleCache
