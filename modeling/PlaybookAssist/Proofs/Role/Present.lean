import PlaybookAssist.Proofs.Files.Load
import PlaybookAssist.Proofs.Role.History

/-!
# Roles that are present

What is known of a role are its task files and those of its variable files that are present. A
workspace is known with all its roles if loading fails on no variable file of any of them.

## Main definitions

- `Role.context` : what is known of a role
- `Role.Opens` : loading fails on no variable file of a role
- `RoleCache.present` : what is known of the roles of some directories

## Main statements

- `Role.read?_eq_ok_iff` : what reading a role gives
- `RoleCache.populate_eq_ok_iff` : what reading directories gives
- `RoleCache.visible_empty_eq_ok_iff` : what is visible to a playbook if the cache is empty
-/

namespace PlaybookAssist

namespace Role

variable [Place] {fs : FileTree} {role d q : Text} {names roles : List Text}
  {files : VariableFiles}

/-- The variable files of a section that are present. -/
def declared (fs : FileTree) (directory : Text) : VariableFiles :=
  (documentsIn fs directory).filterMap fun name =>
    (fs.mapping? (Path.join directory name)).map fun m => (name, m)

/-- What is known of a role: the names of its task files, and the variable files that are present; a
    section without any is left out. -/
def context (fs : FileTree) (role : Text) : RoleContext where
  name := some (Path.name (Path.normalise role))
  tasks := documentsIn fs (Path.join role "tasks")
  variableFiles := .map (VariableFiles.sectionsToMapping
    ((variableSections.map fun s => (s, declared fs (Path.join role s))).filter
      fun p => !p.2.isEmpty))
  included := none

/-- Loading fails on no variable file of the role. -/
def Opens (fs : FileTree) (role : Text) : Prop :=
  ∀ s ∈ variableSections, ∀ name ∈ documentsIn fs (Path.join role s),
    ¬ fs.Fails (Path.join (Path.join role s) name)

theorem variablesOf_eq_ok_iff {directory : Text} : variablesOf fs directory names = .ok files ↔
    (∀ name ∈ names, ¬ fs.Fails (Path.join directory name)) ∧
      files = names.filterMap fun name =>
        (fs.mapping? (Path.join directory name)).map fun m => (name, m) := by
  induction names generalizing files with
  | nil => exact ok_eq_ok_iff (List.forall_mem_nil _)
  | cons name names ih =>
    rw [variablesOf, FileTree.bind_loadMapping_eq_ok_iff, bind_eq_ok, List.forall_mem_cons,
      List.filterMap_eq_flatMap_toList, List.flatMap_cons, ← List.filterMap_eq_flatMap_toList,
      and_assoc]
    apply and_congr_right
    intro _
    simp only [ih, and_assoc, exists_and_left, exists_eq_left, pure, Except.pure, Except.ok.injEq]
    exact and_congr_right fun _ => eq_comm

theorem sectionsOf_eq_ok_iff {sections : List Text} {found : Table VariableFiles} :
    sectionsOf fs role sections = .ok found ↔
      (∀ s ∈ sections, ∀ name ∈ documentsIn fs (Path.join role s),
        ¬ fs.Fails (Path.join (Path.join role s) name)) ∧
      found = (sections.map fun s => (s, declared fs (Path.join role s))).filter
        fun p => !p.2.isEmpty := by
  -- Induction over the sections; each one can fail by itself.
  induction sections generalizing found with
  | nil => exact ok_eq_ok_iff (List.forall_mem_nil _)
  | cons s sections ih =>
    rw [sectionsOf, bind_eq_ok, List.forall_mem_cons]
    -- The files of the section are read, and the other sections after that.
    simp only [variablesOf_eq_ok_iff, bind_eq_ok, ih, and_assoc, exists_and_left, exists_eq_left,
      pure, Except.pure, Except.ok.injEq]
    apply and_congr_right
    intro _
    apply and_congr_right
    intro _
    -- The section itself is left out if none of its files is present.
    show (if (declared fs (Path.join role s)).isEmpty then _ else _) = found ↔ _
    rw [List.map_cons, List.filter_cons]
    cases (declared fs (Path.join role s)).isEmpty <;> exact eq_comm

/-- Reading a role gives what is known of it if loading fails on none of its variable files. -/
theorem read?_eq_ok_iff {known : Option RoleContext} (h : fs.isDirectory role = true) :
    read? fs role = .ok known ↔ Opens fs role ∧ known = some (context fs role) := by
  rw [read?_of_isDirectory h, Opens, context, map_eq_ok]
  simp only [sectionsOf_eq_ok_iff, and_assoc, exists_and_left, exists_eq_left]

/-- The roles of a directory are directories. -/
theorem isDirectory_of_mem_listIn (h : listIn fs d = .ok roles) (hq : q ∈ roles) :
    fs.isDirectory q = true := by
  rw [listIn] at h
  cases hlist : fs.list d with
  | error err =>
    rw [hlist] at h
    cases err <;> cases h <;> cases hq
  | ok names =>
    rw [hlist] at h
    cases h
    obtain ⟨x, hx, rfl⟩ := List.mem_map.mp hq
    have hkeep := (List.mem_filter.mp hx).2
    rw [Bool.and_eq_true] at hkeep
    exact hkeep.2

end Role

namespace RoleCache

variable [Place] {fs : FileTree} {key w directory : Text} {dirs qs standard : List Text}
  {known roles seen : Roles} {cache : RoleCache}

/-- What is known of the roles of some directories. -/
def present (fs : FileTree) (dirs : List Text) : Roles :=
  Table.setAll [] ((listed fs dirs).map fun role => (role, Role.context fs role))

theorem readRoles_eq_ok_iff (h : ∀ q ∈ qs, fs.isDirectory q = true) :
    readRoles fs known qs = .ok roles ↔ (∀ q ∈ qs, Role.Opens fs q) ∧
      roles = known.setAll (qs.map fun q => (q, Role.context fs q)) := by
  induction qs generalizing known with
  | nil => exact ok_eq_ok_iff (List.forall_mem_nil _)
  | cons q qs ih =>
    rw [List.forall_mem_cons] at h ⊢
    rw [readRoles, bind_eq_ok]
    simp only [Role.read?_eq_ok_iff h.1, and_assoc, exists_and_left, exists_eq_left]
    apply and_congr_right
    intro _
    exact ih h.2

/-- The directories can be listed and loading fails on no variable file of their roles. -/
structure Readable (fs : FileTree) (dirs : List Text) : Prop where
  lists : ∀ d ∈ dirs, ∃ qs, Role.listIn fs d = .ok qs
  opens : ∀ q ∈ listed fs dirs, Role.Opens fs q

theorem readable_nil (fs : FileTree) : Readable fs [] where
  lists d hd := by cases hd
  opens q hq := by cases hq

theorem readable_cons {d : Text} (hlist : Role.listIn fs d = .ok qs) :
    Readable fs (d :: dirs) ↔ (∀ q ∈ qs, Role.Opens fs q) ∧ Readable fs dirs := by
  have hlisted : listed fs (d :: dirs) = qs ++ listed fs dirs := by
    rw [listed, List.flatMap_cons, hlist]
    rfl
  constructor
  · intro h
    have hopens := h.opens
    rw [hlisted, List.forall_mem_append] at hopens
    exact ⟨hopens.1, fun d hd => h.lists d (List.mem_cons_of_mem _ hd), hopens.2⟩
  · intro h
    refine ⟨List.forall_mem_cons.mpr ⟨⟨qs, hlist⟩, h.2.lists⟩, ?_⟩
    rw [hlisted, List.forall_mem_append]
    exact ⟨h.1, h.2.opens⟩

theorem populateFrom_eq_ok_iff : (populateFrom fs key cache known dirs).2 = .ok roles ↔
    Readable fs dirs ∧
      roles = known.setAll ((listed fs dirs).map fun q => (q, Role.context fs q)) := by
  -- Each directory is noted in the cache before it is read, but reading does not look at the cache.
  induction dirs generalizing cache known with
  | nil => exact ok_eq_ok_iff (readable_nil fs)
  | cons d dirs ih =>
    rw [populateFrom]
    cases hlist : Role.listIn fs d with
    -- A directory that cannot be listed is an error of the whole.
    | error e =>
      apply error_eq_ok_iff
      intro h
      obtain ⟨qs, hqs⟩ := h.1.lists d List.mem_cons_self
      rw [hlist] at hqs
      cases hqs
    | ok qs =>
      have hlisted : listed fs (d :: dirs) = qs ++ listed fs dirs := by
        rw [listed, List.flatMap_cons, hlist]
        rfl
      have hread (roles : Roles) := @readRoles_eq_ok_iff _ fs qs known roles fun q hq =>
        Role.isDirectory_of_mem_listIn hlist hq
      rw [readable_cons hlist, hlisted, List.map_append, Table.setAll_append,
        show (Except.ok qs >>= readRoles fs known) = readRoles fs known qs from rfl]
      cases hresult : readRoles fs known qs with
      -- So is a role in it that cannot be read.
      | error e =>
        apply error_eq_ok_iff
        intro h
        have hok := (hread _).mpr ⟨h.1.1, rfl⟩
        rw [hresult] at hok
        cases hok
      | ok known' =>
        obtain ⟨hopens, rfl⟩ := (hread known').mp hresult
        dsimp only
        rw [ih, and_assoc, and_iff_right hopens]

theorem populate_eq_ok_iff (fs : FileTree) (key : Text) (dirs : List Text) (cache : RoleCache) :
    (cache.populate fs key dirs).2 = .ok roles ↔ Readable fs dirs ∧ roles = present fs dirs := by
  rw [present, ← populateFrom_eq_ok_iff, populate]
  obtain ⟨cache', e | roles'⟩ := populateFrom fs key cache [] dirs <;> exact Iff.rfl

/-! ## Looking at an empty cache -/

/-- The `roles` directories of a workspace can be found and read. -/
def Known (fs : FileTree) (root : Option Text) : Prop :=
  ∃ dirs, Role.directoriesBelow fs root = .ok dirs ∧ Readable fs dirs

/-- What is known of the roles of a workspace. -/
def ownRoles (fs : FileTree) (root : Option Text) : Roles :=
  present fs ((Role.directoriesBelow fs root).toOption.getD [])

/-- What is known of the roles installed for everyone. -/
def installedRoles (fs : FileTree) (standard : List Text) : Roles :=
  present fs (Role.installedDirectories fs standard)

theorem rolesOf_empty_eq_ok_iff (standard : List Text) : ((empty standard).rolesOf fs w).2 = .ok roles ↔
    Known fs (some w) ∧ roles = ownRoles fs (some w) := by
  rw [Known, ownRoles]
  cases hdirs : Role.directoriesBelow fs (some w) with
  | error e =>
    rw [rolesOf, lookUp, hdirs]
    apply error_eq_ok_iff
    intro h
    obtain ⟨⟨dirs, h, -⟩, -⟩ := h
    cases h
  | ok dirs =>
    rw [rolesOf_empty hdirs, populate_eq_ok_iff]
    simp only [Except.ok.injEq, exists_eq_left']
    rfl

/-- The common roles are read when they are first asked for. -/
theorem commonRoles_eq_ok_iff (hqueue : cache.queue = [])
    (hnew : cache.entries.find? commonKey = none) (fs : FileTree) :
    (cache.commonRoles fs).2 = .ok roles ↔
      Readable fs (Role.installedDirectories fs cache.standardDirectories) ∧
        roles = installedRoles fs cache.standardDirectories := by
  rw [commonRoles, lookUp_of_new hqueue hnew]
  exact populate_eq_ok_iff _ _ _ _

/-- An empty cache that has been asked for a workspace holds the roles of the workspace only. -/
theorem rolesOf_empty_cases (h : (empty standard).rolesOf fs w = (cache, .ok known)) :
    cache.standardDirectories = standard ∧ cache.entries = [(w, known)] ∧ cache.queue = [] := by
  cases hdirs : Role.directoriesBelow fs (some w) with
  | error e =>
    rw [rolesOf, lookUp, hdirs] at h
    cases h
  | ok dirs =>
    rw [rolesOf_empty hdirs] at h
    rcases populate_cases fs w dirs (empty standard) with ⟨found, e, -, hfails⟩ | ⟨own, -, hown⟩
    · rw [hfails] at h
      cases h
    · rw [hown] at h
      cases h
      exact ⟨rfl, rfl, rfl⟩

/-- An empty cache makes visible what is known of the roles of the workspace and of the common
    ones. -/
theorem visible_empty_eq_ok_iff {root : Option Text}
    (hroot : ∀ w, root = some w → w ≠ [] ∧ w ≠ commonKey) :
    ((empty standard).visible fs root directory).2 = .ok seen ↔
      Known fs root ∧ Readable fs (Role.installedDirectories fs standard) ∧
        seen = addCommon (ownRoles fs root) (relativeRoles directory (ownRoles fs root))
          (installedRoles fs standard) := by
  cases root with
  -- Without a root there are no own roles, and the common ones are all that is seen.
  | none =>
    have hknown : Known fs none := ⟨[], rfl, readable_nil fs⟩
    have hcommon (roles : Roles) :=
      @commonRoles_eq_ok_iff _ roles (empty standard) rfl rfl fs
    rw [visible_of_none (.inl rfl), and_iff_right hknown]
    dsimp only
    rw [map_eq_ok]
    simp only [hcommon, and_assoc, exists_and_left, exists_eq_left]
    exact Iff.rfl
  | some w =>
    obtain ⟨hempty, hkey⟩ := hroot w rfl
    rw [visible_of_some hempty]
    have hown (roles : Roles) := @rolesOf_empty_eq_ok_iff _ fs w roles standard
    -- The own roles come first, and the common ones are read from the cache after them.
    cases hresult : (empty standard).rolesOf fs w with
    | mk cache own =>
      rw [hresult] at hown
      dsimp only at hown ⊢
      cases own with
      | error e =>
        apply error_eq_ok_iff
        intro h
        cases (hown _).mpr ⟨h.1, rfl⟩
      | ok own =>
        obtain ⟨hknown, rfl⟩ := (hown own).mp rfl
        obtain ⟨hstandard, hentries, hqueue⟩ := rolesOf_empty_cases hresult
        -- The cache has an entry now, but not under the key of the common roles.
        have hnew : cache.entries.find? commonKey = none := by
          rw [hentries, Table.find?, if_neg hkey]
          rfl
        have hcommon (roles : Roles) := @commonRoles_eq_ok_iff _ roles cache hqueue hnew fs
        rw [hstandard] at hcommon
        dsimp only
        rw [map_eq_ok, and_iff_right hknown]
        simp only [hcommon, and_assoc, exists_and_left, exists_eq_left]

/-- An empty cache gives what is known of a role of the workspace. -/
theorem role?_empty_eq_ok_iff {role : Text} {found : Option RoleContext} :
    ((empty standard).role? fs w role).2 = .ok found ↔
      Known fs (some w) ∧ found = (ownRoles fs (some w)).find? role := by
  have hown (roles : Roles) := @rolesOf_empty_eq_ok_iff _ fs w roles standard
  rw [role?]
  cases hresult : (empty standard).rolesOf fs w with
  | mk cache own =>
    rw [hresult] at hown
    cases own with
    | error e =>
      apply error_eq_ok_iff
      intro h
      cases (hown _).mpr ⟨h.1, rfl⟩
    | ok own =>
      obtain ⟨hknown, rfl⟩ := (hown own).mp rfl
      exact ok_eq_ok_iff hknown

end RoleCache

end PlaybookAssist
