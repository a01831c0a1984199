import PlaybookAssist.Proofs.Role.History
import PlaybookAssist.Proofs.Role.Owner

/-!
# Where what a cache keeps comes from

A cache keeps directories and roles under keys. Each directory has been discovered for its key by a
look. Each role belongs to a directory that was discovered for its key, where it was listed or a path
was reported, or a change has named it. What is true of the directories that looks find, of the roles
that belong to these and of the roles that changes name is true of all that a cache keeps.

## Main definitions

- `RoleCache.Finds` : a look finds a directory for a key
- `RoleCache.Claims` : what is claimed of directories and roles
- `RoleCache.Accounted` : all that is kept under a key is as claimed

## Main statements

- `RoleCache.Accounted.look` : looks keep to what is claimed of what they find
- `RoleCache.Accounted.post`, `RoleCache.Accounted.postForPath` : so do changes
- `RoleCache.exists_accounted_after` : so does whatever a cache can go through
-/

namespace PlaybookAssist.RoleCache

/-- What is claimed of the directories found for a key, of the roles under a key that belong to a
    directory, and of the roles under a key that changes name. -/
structure Claims where
  found : Text → Text → Prop
  held : Text → Text → Text → Prop
  named : Text → Text → Prop

variable [Place] {fs : FileTree} {standard dirs : List Text} {key workspace role path d : Text}
  {told : List (Text × Text)} {roles : Roles} {cache : RoleCache} {claims claims' : Claims}

/-- A look finds the directory for the key: below the workspace that the key names, or among the
    installed ones. -/
def Finds (fs : FileTree) (standard : List Text) (key d : Text) : Prop :=
  (∃ dirs, Role.directoriesBelow fs (some key) = .ok dirs ∧ d ∈ dirs) ∨
    key = commonKey ∧ d ∈ Role.installedDirectories fs standard

/-- The directory was discovered for the key; everyone may have been told already. -/
def Discovered (told : List (Text × Text)) (cache : RoleCache) (key d : Text) : Prop :=
  (d, key) ∈ told ++ cache.discovered

/-- The role belongs to a directory that was discovered for the key, or a change has named it. -/
def Belongs (told : List (Text × Text)) (claims : Claims) (cache : RoleCache) (key role : Text) :
    Prop :=
  (∃ d, Discovered told cache key d ∧ claims.held key d role) ∨ claims.named key role

/-- Directories are noted for keys for which they were discovered, what was discovered was found, and
    all roles that are held or are to be read anew belong where they are. -/
structure Accounted (standard : List Text) (told : List (Text × Text)) (claims : Claims)
    (cache : RoleCache) : Prop where
  standard : cache.standardDirectories = standard
  directories : ∀ d key, (d, key) ∈ cache.directories → Discovered told cache key d
  found : ∀ key d, Discovered told cache key d → claims.found key d
  roles : ∀ key roles, cache.entries.find? key = some roles → ∀ q ∈ roles.keys,
    Belongs told claims cache key q
  queue : ∀ c ∈ cache.queue, Belongs told claims cache c.workspace c.role

/-- The directory and the roles that it lists are as claimed. -/
def Brings (fs : FileTree) (claims : Claims) (key d : Text) : Prop :=
  claims.found key d ∧ ∀ roles, Role.listIn fs d = .ok roles → ∀ q ∈ roles, claims.held key d q

omit [Place] in
theorem accounted_empty (standard : List Text) (claims : Claims) :
    Accounted standard [] claims (empty standard) where
  standard := rfl
  directories _ _ h := by cases h
  found _ _ h := by cases h
  roles _ _ h := by cases h
  queue _ h := by cases h

omit [Place] in
theorem Accounted.mono (h : cache.Accounted standard told claims)
    (hfound : ∀ key d, claims.found key d → claims'.found key d)
    (hheld : ∀ key d q, claims.held key d q → claims'.held key d q)
    (hnamed : ∀ key q, claims.named key q → claims'.named key q) :
    cache.Accounted standard told claims' := by
  have hbelongs (key q : Text) (hq : Belongs told claims cache key q) :
      Belongs told claims' cache key q :=
    hq.imp (fun ⟨d, hd, hrole⟩ => ⟨d, hd, hheld key d q hrole⟩) (hnamed key q)
  exact ⟨h.standard, h.directories, fun key d hd => hfound key d (h.found key d hd),
    fun key roles hroles q hq => hbelongs key q (h.roles key roles hroles q hq),
    fun c hc => hbelongs _ _ (h.queue c hc)⟩

omit [Place] in
/-- Whether everyone has been told makes no difference. -/
theorem Accounted.takeDiscovered (h : cache.Accounted standard told claims) :
    cache.takeDiscovered.1.Accounted standard (told ++ cache.discovered) claims := by
  have hsame (key d : Text) : Discovered (told ++ cache.discovered) cache.takeDiscovered.1 key d ↔
      Discovered told cache key d := by
    simp [Discovered, RoleCache.takeDiscovered]
  have hbelongs (key q : Text) (hq : Belongs told claims cache key q) :
      Belongs (told ++ cache.discovered) claims cache.takeDiscovered.1 key q :=
    hq.imp (fun ⟨d, hd, hrole⟩ => ⟨d, (hsame key d).mpr hd, hrole⟩) id
  exact ⟨h.standard, fun d key hd => (hsame key d).mpr (h.directories d key hd),
    fun key d hd => h.found key d ((hsame key d).mp hd),
    fun key roles hroles q hq => hbelongs key q (h.roles key roles hroles q hq),
    fun c hc => hbelongs _ _ (h.queue c hc)⟩

/-! ## Changes -/

omit [Place] in
theorem Accounted.postEach {changes : List RoleChange} (h : cache.Accounted standard told claims)
    (hchanges : ∀ c ∈ changes, Belongs told claims cache c.workspace c.role) :
    Accounted standard told claims { cache with queue := cache.queue ++ changes } :=
  ⟨h.standard, h.directories, h.found, h.roles, List.forall_mem_append.mpr ⟨h.queue, hchanges⟩⟩

omit [Place] in
theorem Accounted.post {change : RoleChange} (h : cache.Accounted standard told claims)
    (hchange : Belongs told claims cache change.workspace change.role) :
    (cache.post change).Accounted standard told claims :=
  h.postEach (List.forall_mem_singleton.mpr hchange)

theorem Accounted.postForPath (h : cache.Accounted standard told claims)
    (howner : ∀ key d role, claims.found key d →
      Role.ownerIn? d path = some role → claims.held key d role)
    (kind : ChangeKind) : (cache.postForPath path kind).1.Accounted standard told claims := by
  rw [RoleCache.postForPath]
  cases howns : cache.ownerOf? path with
  | none => exact h
  | some o =>
    obtain ⟨d, hd, hrole, -⟩ := ownerOf?_spec howns
    have hdiscovered := h.directories d _ hd
    exact h.post (.inl ⟨d, hdiscovered, howner _ d _ (h.found _ d hdiscovered) hrole⟩)

omit [Place] in
theorem Accounted.set (h : cache.Accounted standard told claims)
    (hroles : ∀ q ∈ roles.keys, Belongs told claims cache key q) :
    Accounted standard told claims { cache with entries := cache.entries.set key roles } := by
  refine ⟨h.standard, h.directories, h.found, fun key' roles' hfind => ?_, h.queue⟩
  by_cases hkey : key' = key
  · subst hkey
    rw [Table.find?_set_self] at hfind
    cases hfind
    exact hroles
  · rw [Table.find?_set_of_ne hkey] at hfind
    exact h.roles key' roles' hfind

theorem Accounted.refresh (h : cache.Accounted standard told claims) (fs : FileTree)
    (hrole : Belongs told claims cache workspace role) :
    (cache.refresh fs workspace role).1.Accounted standard told claims := by
  rw [RoleCache.refresh]
  cases hroles : cache.entries.find? workspace with
  | none => exact h
  | some roles =>
    have hold := h.roles workspace roles hroles
    dsimp only
    split
    · exact h
    · exact h.set fun q hq => hold q (Table.mem_keys_of_mem_keys_erase hq)
    -- the renewed role is the one accounted for here, every other one was before
    · refine h.set fun q hq => ?_
      rcases Table.mem_keys_set.mp hq with rfl | hq
      · exact hrole
      · exact hold q hq

theorem discovered_refresh (fs : FileTree) (workspace role : Text) (cache : RoleCache) :
    (cache.refresh fs workspace role).1.discovered = cache.discovered := by
  rw [RoleCache.refresh]
  split
  · rfl
  · split <;> rfl

theorem Accounted.workOffAll {changes : List RoleChange} {handled : Nat}
    (h : cache.Accounted standard told claims) (fs : FileTree)
    (hchanges : ∀ c ∈ changes, Belongs told claims cache c.workspace c.role) :
    (RoleCache.workOffAll fs cache handled changes).1.Accounted standard told claims := by
  -- Induction over the changes: each of them names a role that belongs to the workspace.
  induction changes generalizing cache handled with
  | nil => exact ⟨h.standard, h.directories, h.found, h.roles, fun c hc => by cases hc⟩
  | cons change changes ih =>
    rw [List.forall_mem_cons] at hchanges
    have hrefresh := h.refresh fs hchanges.1
    have hdiscovered := discovered_refresh fs change.workspace change.role cache
    rw [RoleCache.workOffAll]
    generalize cache.refresh fs change.workspace change.role = result at hrefresh hdiscovered ⊢
    obtain ⟨next, result⟩ := result
    -- Reading a role anew discovers nothing, so the later changes belong where they did.
    have hlater : ∀ c ∈ changes, Belongs told claims next c.workspace c.role := by
      intro c hc
      have hsame : Belongs told claims next = Belongs told claims cache := by
        unfold Belongs Discovered
        rw [show next.discovered = cache.discovered from hdiscovered]
      rw [hsame]
      exact hchanges.2 c hc
    -- A failure leaves the rest of the queue where it is.
    cases result with
    | error e =>
      exact ⟨hrefresh.standard, hrefresh.directories, hrefresh.found, hrefresh.roles, hlater⟩
    | ok => exact ih hrefresh hlater

/-! ## Looks -/

omit [Place] in
theorem Accounted.note (h : cache.Accounted standard told claims)
    (hdirs : ∀ d ∈ dirs, claims.found key d) :
    (cache.note key dirs).Accounted standard told claims := by
  -- The directories that are noted are discovered now, together with what was before.
  have hdiscovered (key' d : Text) : Discovered told (cache.note key dirs) key' d ↔
      Discovered told cache key' d ∨ key' = key ∧ d ∈ dirs := by
    simp only [Discovered, RoleCache.note, List.mem_append, List.mem_map, Prod.mk.injEq, or_assoc]
    refine or_congr Iff.rfl (or_congr Iff.rfl ⟨?_, ?_⟩)
    · rintro ⟨d, hd, rfl, rfl⟩
      exact ⟨rfl, hd⟩
    · rintro ⟨rfl, hd⟩
      exact ⟨d, hd, rfl, rfl⟩
  have hbelongs (key' q : Text) (hq : Belongs told claims cache key' q) :
      Belongs told claims (cache.note key dirs) key' q := by
    rcases hq with ⟨d, hd, hrole⟩ | hnamed
    · exact .inl ⟨d, (hdiscovered key' d).mpr (.inl hd), hrole⟩
    · exact .inr hnamed
  -- Everything else is as it was before.
  refine ⟨h.standard, fun d key' hd => (hdiscovered key' d).mpr ?_, fun key' d hd => ?_,
    fun key' roles hroles q hq => hbelongs key' q (h.roles key' roles hroles q hq),
    fun c hc => hbelongs _ _ (h.queue c hc)⟩
  · exact (mem_directories_note hd).imp (h.directories d key') id
  · rcases (hdiscovered key' d).mp hd with hbefore | ⟨rfl, hmem⟩
    · exact h.found key' d hbefore
    · exact hdirs d hmem

theorem Accounted.lookUp {directories : Except Failure (List Text)}
    (h : cache.Accounted standard told claims)
    (hdirs : ∀ dirs, directories = .ok dirs → ∀ d ∈ dirs, Brings fs claims key d) :
    (cache.lookUp fs key directories).1.Accounted standard told claims := by
  have hwork : (cache.workOff fs).1.Accounted standard told claims := h.workOffAll fs h.queue
  -- What is looked up is held already, or it is read from the directories now.
  rcases lookUp_cases fs key directories cache with hsame | ⟨count, dirs, -, hfound, -, hpopulate⟩
  · rw [hsame]
    exact hwork
  · have hbrings := hdirs dirs hfound
    rw [hpopulate]
    rcases populate_cases fs key dirs (cache.workOff fs).1 with
      ⟨found, e, hsome, hfails⟩ | ⟨roles, hreads, hresult⟩
    · rw [hfails]
      exact hwork.note fun d hd => (hbrings d (hsome.subset hd)).1
    · rw [hresult]
      refine (hwork.note fun d hd => (hbrings d hd).1).set fun q hq => ?_
      -- What is read are roles that the directories list, and these have just been noted.
      have hlisted : q ∈ listed fs dirs := by
        by_contra hnot
        have hnone := hreads.find? q
        rw [if_neg hnot] at hnone
        rw [← Table.hasKey_iff, Table.hasKey, hnone] at hq
        cases hq
      obtain ⟨d, hd, hq⟩ := List.mem_flatMap.mp hlisted
      have hdiscovered : Discovered told ((cache.workOff fs).1.note key dirs) key d := by
        simp only [Discovered, RoleCache.note, List.mem_append, List.mem_map]
        exact .inr (.inr ⟨d, hd, rfl⟩)
      cases hlist : Role.listIn fs d with
      | error e =>
        rw [hlist] at hq
        cases hq
      | ok qs =>
        rw [hlist] at hq
        exact .inl ⟨d, hdiscovered, (hbrings d hd).2 qs hlist q hq⟩

/-- Looks keep to what is claimed of the directories that they find and of the roles that these
    list. -/
theorem Accounted.look {op : Operation} (h : cache.Accounted standard told claims)
    (hbrings : ∀ key d, Finds fs standard key d → Brings fs claims key d) (hlook : op.IsLook) :
    (op.run fs cache).Accounted standard told claims := by
  refine preserved_of_isLook hlook (fun cache workspace h => ?_) (fun cache h => ?_) h
  · exact h.lookUp fun dirs hdirs d hd => hbrings _ _ (.inl ⟨dirs, hdirs, hd⟩)
  · refine h.lookUp fun dirs hdirs d hd => hbrings _ _ (.inr ⟨rfl, ?_⟩)
    cases hdirs
    rw [← h.standard]
    exact hd

/-! ## All operations -/

/-- The roles that the operation names are as claimed. -/
def Operation.Names (claims : Claims) : Operation → Prop
  | .post change => claims.named change.workspace change.role
  | .refresh workspace role => claims.named workspace role
  | _ => True

/-- Operations keep to what is claimed if what looks find, the owners of paths and the roles that the
    operation names are as claimed. -/
theorem exists_accounted_run {op : Operation} (h : ∃ told, cache.Accounted standard told claims)
    (hbrings : ∀ key d, Finds fs standard key d → Brings fs claims key d)
    (howner : ∀ path key d role, claims.found key d → Role.ownerIn? d path = some role →
      claims.held key d role)
    (hnames : op.Names claims) : ∃ told, (op.run fs cache).Accounted standard told claims := by
  obtain ⟨told, h⟩ := h
  cases op with
  | rolesOf | commonRoles | role? | visible => exact ⟨told, h.look hbrings trivial⟩
  | post change => exact ⟨told, h.post (.inr hnames)⟩
  | postForPath path kind => exact ⟨told, h.postForPath (howner path) kind⟩
  | refresh workspace role => exact ⟨told, h.refresh fs (.inr hnames)⟩
  | workOff => exact ⟨told, h.workOffAll fs h.queue⟩
  | takeDiscovered => exact ⟨_, h.takeDiscovered⟩

/-- What is claimed holds whatever the cache has gone through. -/
theorem exists_accounted_after {history : List (FileTree × Operation)}
    (hbrings : ∀ m ∈ history, ∀ key d, Finds m.1 standard key d → Brings m.1 claims key d)
    (howner : ∀ path key d role, claims.found key d → Role.ownerIn? d path = some role →
      claims.held key d role)
    (hnames : ∀ m ∈ history, m.2.Names claims) :
    ∃ told, ((empty standard).after history).Accounted standard told claims := by
  let P (cache : RoleCache) : Prop := ∃ told, cache.Accounted standard told claims
  show P ((empty standard).after history)
  apply preserved_after
  · exact ⟨[], accounted_empty standard _⟩
  · intro m hm cache h
    exact exists_accounted_run h (hbrings m hm) howner (hnames m hm)

end PlaybookAssist.RoleCache
