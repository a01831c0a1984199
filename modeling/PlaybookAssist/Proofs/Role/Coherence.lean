import PlaybookAssist.Proofs.Role.Cache
import PlaybookAssist.Proofs.Role.Owner

/-!
# Refreshing and reading anew

A cache that has read a workspace, and is told of every path below a `roles` directory that has come
to look different, knows of each role what a cache knows that reads the workspace now. There is one
exception. A `roles` directory that lies in another one is itself a role of the outer one, but a
change inside it is put down to a role of the inner one; what was known of it as a role stays, until
the directory itself is reported.

## Main definitions

- `RoleCache.ReportsAll` : every path below some directories that looks different is reported
- `RoleCache.IsOverlooked` : the exception

## Main statements

- `RoleCache.exists_next` : what is known of each role at the next look
- `RoleCache.refreshed_iff` : when the next look gives what reading the workspace anew gives
- `RoleCache.refreshed_of_apart` : it does where no `roles` directory lies directly in another one
-/

namespace PlaybookAssist.RoleCache

open PlaybookAssist.Path (Name rooted)
open Role (rolesName)

section

variable [Place] {fs₀ fs₁ : FileTree} {workspace w role path q : Text} {dirs standard : List Text}
  {old : Roles} {cache : RoleCache} {reports : List (Text × ChangeKind)} {ds ps : List Name}
  {n : Name}

/-- The role is the entry of one of the directories, under a name that is not hidden. -/
def IsCandidate (dirs : List Text) (role : Text) : Prop :=
  ∃ ds, ∃ n : Name, rooted ds ∈ dirs ∧ isHidden n.text = false ∧ role = rooted (ds ++ [n])

/-- A directory that is itself an entry of one of the directories, and is not reported. -/
def IsOverlooked (dirs : List Text) (reports : List (Text × ChangeKind)) (role : Text) : Prop :=
  role ∈ dirs ∧ IsCandidate dirs role ∧ ∀ r ∈ reports, Path.absolute r.1 ≠ role

/-- Every path below the directories at which the file systems look different is reported. -/
def ReportsAll (fs₀ fs₁ : FileTree) (dirs : List Text) (reports : List (Text × ChangeKind)) :
    Prop :=
  ∀ d ∈ dirs, ∀ p, Path.absolute p = p → p ≠ d → Path.isWithin p d = true →
    fs₀.sight p ≠ fs₁.sight p → ∃ r ∈ reports, Path.absolute r.1 = p

/-- The directories are there and named `roles`, and the names around them are proper. -/
structure Houses (fs : FileTree) (dirs : List Text) : Prop where
  sound : fs.Sound
  areRoles : AreRoles dirs
  isDirectory : ∀ d ∈ dirs, fs.isDirectory d = true

/-! ## What is known of candidates -/

theorem mem_listed (h : Houses fs₀ dirs) :
    q ∈ listed fs₀ dirs ↔ IsCandidate dirs q ∧ fs₀.isDirectory q = true := by
  rw [listed, List.mem_flatMap]
  -- What a directory lists is there as a directory, and is one of the candidates.
  constructor
  · rintro ⟨d, hd, hq⟩
    obtain ⟨roles, hlist⟩ := Role.exists_listIn (h.isDirectory d hd)
    obtain ⟨ds, rfl⟩ := h.areRoles d hd
    rw [hlist] at hq
    obtain ⟨n, hn, rfl, hdirectory⟩ := (Role.mem_listIn h.sound (by simp) hlist).mp hq
    exact ⟨⟨_, n, hd, hn, rfl⟩, hdirectory⟩
  -- A candidate that is there is listed where it stands.
  · rintro ⟨⟨ds, n, hd, hn, rfl⟩, hdirectory⟩
    obtain ⟨roles, hlist⟩ := Role.exists_listIn (h.isDirectory _ hd)
    have hds : ds ≠ [] := by
      obtain ⟨es, hes⟩ := h.areRoles _ hd
      rw [Path.rooted_injective hes]
      simp
    refine ⟨_, hd, ?_⟩
    rw [hlist]
    exact (Role.mem_listIn h.sound hds hlist).mpr ⟨n, hn, rfl, hdirectory⟩

/-- Of a candidate it is known what reading it gives. -/
theorem HoldsOnly.find?_of_isCandidate (h : HoldsOnly fs₀ workspace dirs old cache)
    (hhouses : Houses fs₀ dirs) (hq : IsCandidate dirs q) :
    old.find? q = Role.known? fs₀ q := by
  rw [h.find?]
  split
  case isTrue => rfl
  case isFalse hlisted =>
    have hgone : fs₀.isDirectory q = false := by
      by_contra hthere
      exact hlisted ((mem_listed hhouses).mpr ⟨hq, by simpa using hthere⟩)
    rw [Role.known?, Role.read?_of_not_isDirectory hgone]

theorem HoldsOnly.find?_of_not_isCandidate (h : HoldsOnly fs₀ workspace dirs old cache)
    (hhouses : Houses fs₀ dirs) (hq : ¬ IsCandidate dirs q) : old.find? q = none := by
  rw [h.find?, if_neg fun hlisted => hq ((mem_listed hhouses).mp hlisted).1]

/-! ## The next look -/

/-- No report is about a role whose name is hidden. -/
def ReportsVisible (cache : RoleCache) (reports : List (Text × ChangeKind)) : Prop :=
  ∀ r ∈ reports, ∀ o, cache.ownerOf? r.1 = some o → isHidden (Path.name o.2) = false

/-- What is put down to a role is put down to a candidate. -/
theorem isCandidate_of_ownerOf? (hroles : AreRoles dirs)
    (hkeys : ∀ d, d ∈ cache.directories.keys ↔ d ∈ dirs) (hvisible : ReportsVisible cache reports)
    {r : Text × ChangeKind} (hr : r ∈ reports) (h : cache.ownerOf? r.1 = some (w, q)) :
    IsCandidate dirs q := by
  obtain ⟨ds, n, ns, hd, -, rfl, -⟩ := ownerOf?_names hroles hkeys h
  have hhidden := hvisible r hr _ h
  rw [Path.name_rooted] at hhidden
  exact ⟨ds, n, hd, hhidden, rfl⟩

/-- A look after reports reads the roles anew that the reports are put down to. -/
theorem exists_rolesOf_postAll (hold : HoldsOnly fs₀ workspace dirs old cache)
    (hhouses : Houses fs₁ dirs) (hparses : Parses fs₁ dirs)
    (hvisible : ReportsVisible cache reports) :
    ∃ roles, ((cache.postAll reports).rolesOf fs₁ workspace).2 = .ok roles ∧
      ∀ q, roles.find? q = if q ∈ (cache.changesOf reports).map RoleChange.role
        then Role.known? fs₁ q else old.find? q := by
  have hroles : (cache.postAll reports).entries.find? workspace = some old := by
    -- What is looked up first are the changes that have been queued, and no others.
    rw [postAll_eq, hold.entries]
    exact if_pos rfl
  have hqueue : (cache.postAll reports).queue = cache.changesOf reports := by
    rw [postAll_eq, hold.queue]
    rfl
  -- Every change is one of the workspace, and every role that it names can be read or is gone.
  have hworkspace : ∀ c ∈ cache.changesOf reports, c.workspace = workspace := by
    intro c hc
    obtain ⟨r, -, howner, -⟩ := mem_changesOf.mp hc
    obtain ⟨d, hd, -⟩ := ownerOf?_spec howner
    exact hold.workspaces _ hd
  have hread : ∀ c ∈ cache.changesOf reports, ∃ context, Role.read? fs₁ c.role = .ok context := by
    intro c hc
    obtain ⟨r, hr, howner, -⟩ := mem_changesOf.mp hc
    have hcandidate := isCandidate_of_ownerOf? hhouses.areRoles hold.keys hvisible hr howner
    -- A role is there and can be read, or it is gone.
    cases hthere : fs₁.isDirectory c.role with
    | false => exact ⟨none, Role.read?_of_not_isDirectory hthere⟩
    | true =>
      have hlisted := (mem_listed hhouses).mpr ⟨hcandidate, hthere⟩
      obtain ⟨d, hd, hmem⟩ := List.mem_flatMap.mp hlisted
      obtain ⟨roles, hlist, hall⟩ := hparses d hd
      rw [hlist] at hmem
      exact hall _ hmem
  -- Working off the queue reads every named role anew and leaves the others alone.
  obtain ⟨cache', count, roles, hwork, hentries, hfind⟩ :=
    exists_workOffAll hroles hold.nodup hworkspace hread
  refine ⟨roles, ?_, hfind⟩
  rw [rolesOf, lookUp, workOff, hqueue, hwork]
  simp only [hentries]

/-- A role is the same in both file systems if no path that concerns it is reported. -/
theorem known?_of_unreported (hhouses₀ : Houses fs₀ dirs) (hhouses₁ : Houses fs₁ dirs)
    (hreports : ReportsAll fs₀ fs₁ dirs reports) (hd : rooted ds ∈ dirs)
    (hunreported : ∀ ps, Role.Concerns (ds ++ [n]) ps →
      ∀ r ∈ reports, Path.absolute r.1 ≠ rooted ps) :
    Role.known? fs₀ (rooted (ds ++ [n])) = Role.known? fs₁ (rooted (ds ++ [n])) := by
  -- The role reads only these paths, so that a difference in it would be a difference in one.
  have hsight (ps : List Name) (hps : Role.Concerns (ds ++ [n]) ps) :
      fs₀.sight (rooted ps) = fs₁.sight (rooted ps) := by
    by_contra hdiffers
    -- The path lies below the directory, so a difference there is reported.
    obtain ⟨rest, rfl⟩ : ∃ rest, ps = ds ++ n :: rest := by
      rcases hps with rfl | ⟨s, x, -, rfl⟩
      · exact ⟨[], rfl⟩
      · exact ⟨[s, x], by simp⟩
    have hbelow : rooted (ds ++ n :: rest) ≠ rooted ds := by
      intro hsame
      simpa using Path.rooted_injective hsame
    have hwithin : Path.isWithin (rooted (ds ++ n :: rest)) (rooted ds) = true :=
      (Path.isWithin_rooted (Path.absolute_rooted _)).mpr (List.prefix_append _ _)
    obtain ⟨r, hr, hpath⟩ := hreports _ hd _ (Path.absolute_rooted _) hbelow hwithin hdiffers
    exact hunreported _ hps r hr hpath
  rw [Role.known?, Role.known?, Role.read?_congr hhouses₀.sound hhouses₁.sound hsight]

/-- What is known of each role at the next look: what reading the workspace anew gives, and of a
    directory inside another one that is not itself reported what was known before. -/
theorem find?_next {fresh : Roles} {cache' : RoleCache} {roles : Roles}
    (hhouses₀ : Houses fs₀ dirs) (hhouses₁ : Houses fs₁ dirs)
    (hold : HoldsOnly fs₀ workspace dirs old cache)
    (hfresh : HoldsOnly fs₁ workspace dirs fresh cache')
    (hreports : ReportsAll fs₀ fs₁ dirs reports) (hvisible : ReportsVisible cache reports)
    (hfind : ∀ q, roles.find? q = if q ∈ (cache.changesOf reports).map RoleChange.role
      then Role.known? fs₁ q else old.find? q) (q : Text) :
    (IsOverlooked dirs reports q → roles.find? q = old.find? q) ∧
      (¬ IsOverlooked dirs reports q → roles.find? q = fresh.find? q) := by
  have hroles := hhouses₀.areRoles
  -- What is read anew is up to date; what is not is as old as the cache.
  rw [hfind]
  by_cases hread : ∃ r ∈ reports, ∃ w, cache.ownerOf? r.1 = some (w, q)
  · -- The role is read anew; if it is a directory, the directory itself has been reported.
    rw [if_pos (mem_map_changesOf.mpr hread)]
    obtain ⟨r, hr, w, howner⟩ := hread
    have hcandidate := isCandidate_of_ownerOf? hroles hold.keys hvisible hr howner
    refine ⟨fun ⟨hq, _, hnone⟩ => ?_, fun _ => ?_⟩
    · exact absurd (absolute_of_ownerOf? hroles hold.keys hq howner) (hnone r hr)
    · exact (hfresh.find?_of_isCandidate hhouses₁ hcandidate).symm
  · rw [if_neg (hread ∘ mem_map_changesOf.mp)]
    refine ⟨fun _ => rfl, fun hcurrent => ?_⟩
    -- Of the others a candidate is listed in both trees, and everything else in neither.
    by_cases hcandidate : IsCandidate dirs q
    case neg =>
      rw [hold.find?_of_not_isCandidate hhouses₀ hcandidate,
        hfresh.find?_of_not_isCandidate hhouses₁ hcandidate]
    rw [hold.find?_of_isCandidate hhouses₀ hcandidate,
      hfresh.find?_of_isCandidate hhouses₁ hcandidate]
    have hentry := hcandidate
    obtain ⟨ds, n, hd, -, rfl⟩ := hcandidate
    -- A path that concerns the role and is reported would have had it read anew.
    have hunreported {ps : List Name} (hps : Role.Concerns (ds ++ [n]) ps)
        (hq : rooted (ds ++ [n]) ∉ dirs ∨ ps = ds ++ [n]) :
        ∀ r ∈ reports, Path.absolute r.1 ≠ rooted ps := by
      intro r hr hpath
      obtain ⟨w, howner⟩ := ownerOf?_of_concerns hroles hold.keys hd hps hq hpath
      exact hread ⟨r, hr, w, howner⟩
    -- The role is no directory of roles, for those are looked at one by one.
    have hinner : rooted (ds ++ [n]) ∉ dirs := fun hq =>
      hcurrent ⟨hq, hentry, hunreported (.inl rfl) (.inr rfl)⟩
    exact known?_of_unreported hhouses₀ hhouses₁ hreports hd
      fun ps hps => hunreported hps (.inl hinner)

theorem houses_of_directoriesBelow {ws : List Name} (hs : fs₀.Sound)
    (h : Role.directoriesBelow fs₀ (some (rooted ws)) = .ok dirs) : Houses fs₀ dirs :=
  ⟨hs, fun _ hd => (Role.exists_of_mem_directoriesBelow hs h hd).1,
    fun _ hd => (Role.exists_of_mem_directoriesBelow hs h hd).2⟩

/-! ## Writing a file and reporting it -/

/-- A file that is written and reported is all there is to report. -/
theorem reportsAll_alterAt {content : Octets} (hroles : AreRoles dirs)
    (hway : Entry.TakesFile (ps.map Name.text) (some fs₀.root))
    (hreported : ∃ r ∈ reports, Path.absolute r.1 = rooted ps) :
    ReportsAll fs₀ (fs₀.alterAt (ps.map Name.text) fun _ => some (.file content)) dirs reports := by
  intro d hd p hnormal hbelow hwithin hdiffers
  obtain ⟨ds, rfl⟩ := hroles d hd
  -- A path is a chain of names, or it has two slashes in front and lies within nothing.
  obtain ⟨ns, hp | hp⟩ := Path.absolute_cases p
  case inr => exact absurd hwithin (by simp [Path.isWithin_slash hp])
  rw [hnormal] at hp
  subst hp
  have hprefix := (Path.isWithin_rooted hnormal).mp hwithin
  have hns : ns ≠ [] := by
    rintro rfl
    simp at hprefix
  -- Only the path of the file is reported, and only there do the two trees differ.
  by_cases hsame : ns = ps
  · subst hsame
    exact hreported
  · exact absurd (FileTree.sight_alterAt hway hns hsame).symm hdiffers

/-- Reports of paths without hidden names are about roles whose names are not hidden. -/
theorem reportsVisible_of_names (hroles : AreRoles dirs)
    (hkeys : ∀ d, d ∈ cache.directories.keys ↔ d ∈ dirs)
    (h : ∀ r ∈ reports, ∃ ns : List Name, Path.absolute r.1 = rooted ns ∧
      ∀ n ∈ ns, isHidden n.text = false) : ReportsVisible cache reports := by
  rintro r hr ⟨w, role⟩ howner
  obtain ⟨ns, hpath, hnames⟩ := h r hr
  obtain ⟨ds, n, rest, -, hpath', rfl, -⟩ := ownerOf?_names hroles hkeys howner
  rw [Path.name_rooted]
  refine hnames n ?_
  rw [Path.rooted_injective (hpath.symm.trans hpath')]
  simp

/-! ## The law -/

section

variable (hs₀ : fs₀.Sound) (hs₁ : fs₁.Sound) (habsolute : Path.isAbsolute workspace = true)
  (hnormal : Path.normalise workspace = workspace) (hsingle : Path.root workspace = "/".toList)
  (hdirs₀ : Role.directoriesBelow fs₀ (some workspace) = .ok dirs)
  (hdirs₁ : Role.directoriesBelow fs₁ (some workspace) = .ok dirs)
  (hread : (empty standard).rolesOf fs₀ workspace = (cache, .ok old))
  (hparses : Parses fs₁ dirs) (hreports : ReportsAll fs₀ fs₁ dirs reports)
  (hvisible : ReportsVisible cache reports)

include hs₀ hs₁ habsolute hnormal hsingle hdirs₀ hdirs₁ hread hparses hreports hvisible

/-- At the next look of a cache that is told of every difference, each role is known as a cache that
    reads the workspace anew knows it, but for directories inside others that are not reported. -/
theorem exists_next : ∃ roles fresh,
    ((cache.postAll reports).rolesOf fs₁ workspace).2 = .ok roles ∧
    ((empty standard).rolesOf fs₁ workspace).2 = .ok fresh ∧
    ∀ q, (IsOverlooked dirs reports q → roles.find? q = old.find? q) ∧
      (¬ IsOverlooked dirs reports q → roles.find? q = fresh.find? q) := by
  -- The workspace is a chain of names, since it has only one slash in front.
  obtain ⟨ws, -, ⟨-, hws⟩ | ⟨hdouble, -⟩⟩ := Path.normalise_of_isAbsolute habsolute
  case inr =>
    rw [hsingle] at hdouble
    exact absurd hdouble (by decide)
  rw [hnormal] at hws
  subst hws
  have hhouses₀ := houses_of_directoriesBelow hs₀ hdirs₀
  have hhouses₁ := houses_of_directoriesBelow hs₁ hdirs₁
  -- The old cache, the new one, and what working off makes of the old one.
  have hold := holdsOnly_rolesOf hdirs₀ hread
  obtain ⟨cache', fresh, hanew⟩ := exists_rolesOf_empty hdirs₁ hparses standard
  have hfresh := holdsOnly_rolesOf hdirs₁ hanew
  obtain ⟨roles, hnext, hfind⟩ := exists_rolesOf_postAll hold hhouses₁ hparses hvisible
  exact ⟨roles, fresh, hnext, by rw [hanew],
    find?_next hhouses₀ hhouses₁ hold hfresh hreports hvisible hfind⟩

/-- A cache that has read a workspace, and is told of every path below a `roles` directory that has
    come to look different, gives at the next look exactly what reading the workspace anew gives,
    unless a `roles` directory that is an entry of another one has changed as a role and has not been
    reported itself. -/
theorem refreshed_iff : ∃ roles fresh,
    ((cache.postAll reports).rolesOf fs₁ workspace).2 = .ok roles ∧
    ((empty standard).rolesOf fs₁ workspace).2 = .ok fresh ∧
    ((∀ q, roles.find? q = fresh.find? q) ↔
      ∀ q, IsOverlooked dirs reports q → old.find? q = fresh.find? q) := by
  obtain ⟨roles, fresh, hnext, hanew, hfind⟩ := exists_next hs₀ hs₁ habsolute hnormal hsingle
    hdirs₀ hdirs₁ hread hparses hreports hvisible
  refine ⟨roles, fresh, hnext, hanew, ?_, ?_⟩
  -- what is overlooked stays as it was, so it agrees just where nothing has changed
  · intro hall q hq
    rw [← hall q, (hfind q).1 hq]
  · intro hsame q
    by_cases hq : IsOverlooked dirs reports q
    · rw [(hfind q).1 hq, hsame q hq]
    · exact (hfind q).2 hq

/-- Where no `roles` directory is an entry of another one there is no exception. -/
theorem refreshed_of_apart (hapart : ∀ d ∈ dirs, ¬ IsCandidate dirs d) : ∃ roles fresh,
    ((cache.postAll reports).rolesOf fs₁ workspace).2 = .ok roles ∧
    ((empty standard).rolesOf fs₁ workspace).2 = .ok fresh ∧
    ∀ q, roles.find? q = fresh.find? q := by
  obtain ⟨roles, fresh, hnext, hanew, hfind⟩ := exists_next hs₀ hs₁ habsolute hnormal hsingle
    hdirs₀ hdirs₁ hread hparses hreports hvisible
  exact ⟨roles, fresh, hnext, hanew, fun q => (hfind q).2 fun hq => hapart q hq.1 hq.2.1⟩

end

end

/-! ## Samples -/

namespace Sample

/-- Where the samples run. -/
@[reducible] def place : Place :=
  ⟨"/", "/", by decide, by decide⟩

/-- A workspace with one `roles` directory; the one entry of it holds the given task files. -/
def tree (role : Name) (documents : List Text) : FileTree :=
  ⟨.directory [("w".toList, .directory [("roles".toList, .directory [(role.text,
    .directory [("tasks".toList, .directory (documents.map fun d => (d, .file [])))])])])]⟩

/-- One task file. -/
def one : List Text :=
  ["a.yml"]

/-- Two task files. -/
def two : List Text :=
  ["a.yml", "b.yml"]

/-- The name of the workspace. -/
def top : Name :=
  ⟨"w", by decide, by decide, by decide, by decide⟩

/-- The names on the way to the second task file. -/
def way (role : Name) : List Name :=
  [top, rolesName, role,
    ⟨"tasks", by decide, by decide, by decide, by decide⟩,
    ⟨"b.yml", by decide, by decide, by decide, by decide⟩]

/-- The second task file is reported. -/
def reports (role : Name) : List (Text × ChangeKind) :=
  [(rooted (way role), .modified)]

/-- A role like most. -/
def web : Name :=
  ⟨"web", by decide, by decide, by decide, by decide⟩

attribute [local instance] place

/-- What the samples need of a tree: proper names, the directories found, and roles that can be
    read. -/
structure Fits (fs : FileTree) (dirs : List Text) : Prop where
  sound : fs.Sound
  directoriesBelow : Role.directoriesBelow fs (some "/w".toList) = .ok dirs
  parses : Parses fs dirs

theorem Fits.houses {fs : FileTree} {dirs : List Text} (h : Fits fs dirs) : Houses fs dirs :=
  @houses_of_directoriesBelow _ fs dirs [top] h.sound h.directoriesBelow

theorem sound_tree {role : Name} {documents : List Text} (hrole : Entry.IsProper role.text)
    (hnodup : documents.Nodup) (hproper : ∀ d ∈ documents, Entry.IsProper d) :
    (tree role documents).Sound := by
  have hdocuments : (Entry.directory (documents.map fun d => (d, .file []))).Sound := by
    refine Entry.sound_directory_iff.mpr ⟨by simpa [Function.comp_def] using hnodup, fun p hp => ?_⟩
    obtain ⟨d, hd, rfl⟩ := List.mem_map.mp hp
    exact ⟨hproper d hd, .file []⟩
  have hone {n : Text} {e : Entry} (hn : Entry.IsProper n) (he : e.Sound) :
      (Entry.directory [(n, e)]).Sound := by
    refine Entry.sound_directory_iff.mpr ⟨by simp, fun p hp => ?_⟩
    rw [List.mem_singleton.mp hp]
    exact ⟨hn, he⟩
  exact hone (by decide) (hone (by decide) (hone hrole (hone (by decide) hdocuments)))

theorem listIn_of_list {fs : FileTree} {d x : Text} (hlist : fs.list d = .ok [x])
    (hx : isHidden x = false) (hthere : fs.isDirectory (Path.join d x) = true) :
    Role.listIn fs d = .ok [Path.join d x] := by
  have hsort : Text.sort [x] = [x] := Text.sort_eq_self (by simp)
  simp only [Role.listIn, hlist, hsort, hx, hthere, List.filter, Bool.not_false, Bool.and_self,
    List.map_cons, List.map_nil]

/-- A directory with one role that has no variable files. -/
theorem parses_cons {fs : FileTree} {d x : Text} {dirs : List Text} (hlist : fs.list d = .ok [x])
    (hx : isHidden x = false) (hthere : fs.isDirectory (Path.join d x) = true)
    (hempty : ∀ s ∈ Role.variableSections,
      Role.documentsIn fs (Path.join (Path.join d x) s) = [])
    (hrest : Parses fs dirs) : Parses fs (d :: dirs) := by
  refine List.forall_mem_cons.mpr ⟨⟨_, listIn_of_list hlist hx hthere, fun q hq => ?_⟩, hrest⟩
  rw [List.mem_singleton.mp hq]
  exact ⟨_, Role.read?_of_no_variables hthere hempty⟩

theorem parses_nil (fs : FileTree) : Parses fs [] := by
  intro d hd
  cases hd

theorem noVariables {fs : FileTree} {q : Text}
    (hdefaults : Role.documentsIn fs (Path.join q "defaults") = [])
    (hvars : Role.documentsIn fs (Path.join q "vars") = []) :
    ∀ s ∈ Role.variableSections, Role.documentsIn fs (Path.join q s) = [] :=
  List.forall_mem_cons.mpr ⟨hdefaults, List.forall_mem_singleton.mpr hvars⟩

theorem fits_web : Fits (tree web one) ["/w/roles".toList] ∧
    Fits (tree web two) ["/w/roles".toList] := by
  constructor
  all_goals
    exact ⟨sound_tree (by decide) (by decide) (by decide),
      Role.directoriesBelow_of_search rfl rfl (by decide) rfl,
      parses_cons rfl rfl rfl (noVariables rfl rfl) (parses_nil _)⟩

theorem fits_roles : Fits (tree rolesName one) ["/w/roles".toList, "/w/roles/roles".toList] ∧
    Fits (tree rolesName two) ["/w/roles".toList, "/w/roles/roles".toList] := by
  constructor
  all_goals
    exact ⟨sound_tree (by decide) (by decide) (by decide),
      Role.directoriesBelow_of_search rfl rfl (by decide) rfl,
      parses_cons rfl rfl rfl (noVariables rfl rfl)
        (parses_cons rfl rfl rfl (noVariables rfl rfl) (parses_nil _))⟩

/-- The second file is all that there is to report. -/
theorem reportsAll {role : Name} {dirs : List Text} (hroles : AreRoles dirs)
    (hway : Entry.TakesFile ((way role).map Name.text) (some (tree role one).root))
    (hwritten : tree role two =
      (tree role one).alterAt ((way role).map Name.text) fun _ => some (.file [])) :
    ReportsAll (tree role one) (tree role two) dirs (reports role) := by
  rw [hwritten]
  exact reportsAll_alterAt hroles hway ⟨_, List.mem_singleton_self _, Path.absolute_rooted _⟩

theorem takesFile_web :
    Entry.TakesFile ((way web).map Name.text) (some (tree web one).root) :=
  ⟨_, rfl, _, rfl, _, rfl, _, rfl, _, rfl, fun es h => by cases h⟩

theorem takesFile_roles :
    Entry.TakesFile ((way rolesName).map Name.text) (some (tree rolesName one).root) :=
  ⟨_, rfl, _, rfl, _, rfl, _, rfl, _, rfl, fun es h => by cases h⟩

theorem documentsIn_of_list {fs : FileTree} {d : Text} {names : List Text}
    (hlist : fs.list d = .ok names)
    (hkeep : (names.filter fun n => Role.isDocumentName n && fs.isFile (Path.join d n)) = names)
    (hsorted : names.Pairwise fun s t => Text.le s t = true) : Role.documentsIn fs d = names := by
  simp only [Role.documentsIn, hlist, hkeep, Text.sort_eq_self hsorted]

/-- What is known of the inner directory as a role of the outer one. -/
theorem tasks_of_known? {fs : FileTree} {names : List Text} {context : RoleContext}
    (hthere : fs.isDirectory "/w/roles/roles" = true)
    (hempty : ∀ s ∈ Role.variableSections, Role.documentsIn fs (Path.join "/w/roles/roles" s) = [])
    (htasks : Role.documentsIn fs "/w/roles/roles/tasks" = names)
    (h : Role.known? fs "/w/roles/roles" = some context) : context.tasks = names := by
  rw [Role.known?, Role.read?_of_no_variables hthere hempty] at h
  cases h
  exact htasks

/-- What reading the ordinary role gives. -/
def context (documents : List Text) : RoleContext :=
  ⟨some "web", documents, .map [], none⟩

theorem read?_web :
    Role.read? (tree web one) "/w/roles/web" = .ok (some (context one)) ∧
      Role.read? (tree web two) "/w/roles/web" = .ok (some (context two)) := by
  constructor
  · have htasks : Role.documentsIn (tree web one) (Path.join "/w/roles/web" "tasks") = one :=
      documentsIn_of_list rfl rfl (by decide)
    rw [Role.read?_of_no_variables rfl (noVariables rfl rfl), htasks]
    rfl
  · have htasks : Role.documentsIn (tree web two) (Path.join "/w/roles/web" "tasks") = two :=
      documentsIn_of_list rfl rfl (by decide)
    rw [Role.read?_of_no_variables rfl (noVariables rfl rfl), htasks]
    rfl

/-- The cache that has found the ordinary role for some workspaces, one after the other. -/
def holding (earlier : List Text) (last : Text) : RoleCache where
  standardDirectories := []
  entries := (earlier ++ [last]).map fun w => (w, [("/w/roles/web".toList, context one)])
  directories := [("/w/roles".toList, last)]
  queue := []
  discovered := (earlier ++ [last]).map fun w => ("/w/roles".toList, w)

theorem listIn_web : Role.listIn (tree web one) "/w/roles" = .ok ["/w/roles/web".toList] :=
  @listIn_of_list (tree web one) "/w/roles" "web" rfl rfl rfl

/-- The role is found once more for whoever else has its directory below. -/
theorem rolesOf_holding {v : Text}
    (hdirs : Role.directoriesBelow (tree web one) (some v) = .ok ["/w/roles".toList])
    (hnew : (holding [] "/w").entries.find? v = none) :
    (holding [] "/w").rolesOf (tree web one) v =
      (holding ["/w".toList] v, .ok [("/w/roles/web".toList, context one)]) := by
  have hset : (holding [] "/w").entries.set v [("/w/roles/web".toList, context one)] =
      (holding ["/w".toList] v).entries :=
    Table.set_of_not_mem (fun h => by rw [← Table.hasKey_iff, Table.hasKey, hnew] at h; cases h) _
  have hidle : (holding [] "/w").workOff (tree web one) = (holding [] "/w", .ok 0) := rfl
  rw [rolesOf, hdirs, lookUp, hidle]
  dsimp only
  rw [hnew]
  simp only [populate, populateFrom, listIn_web, bind, Except.bind, readRoles, read?_web.1]
  exact congrArg (fun entries => (RoleCache.mk [] entries _ [] _, _)) hset

/-- The role is found for its workspace, and then for the root as well. -/
theorem rolesOf_web :
    (empty []).rolesOf (tree web one) "/w" =
        (holding [] "/w", .ok [("/w/roles/web".toList, context one)]) ∧
      (holding [] "/w").rolesOf (tree web one) "/" =
        (holding ["/w".toList] "/", .ok [("/w/roles/web".toList, context one)]) := by
  constructor
  · rw [rolesOf_empty fits_web.1.directoriesBelow]
    simp only [populate, populateFrom, listIn_web, bind, Except.bind, readRoles, read?_web.1]
    rfl
  · exact rolesOf_holding (Role.directoriesBelow_of_search rfl rfl (by decide) rfl) rfl

theorem reportsVisible {role : Name} {cache : RoleCache} {dirs : List Text} (hroles : AreRoles dirs)
    (hkeys : ∀ d, d ∈ cache.directories.keys ↔ d ∈ dirs)
    (hnames : ∀ n ∈ way role, isHidden n.text = false) : ReportsVisible cache (reports role) := by
  refine reportsVisible_of_names hroles hkeys fun r hr => ?_
  rw [List.mem_singleton.mp hr]
  exact ⟨_, Path.absolute_rooted _, hnames⟩

end Sample

attribute [local instance] Sample.place

/-- A file that is written in an ordinary role is all that a cache has to be told of. -/
theorem refreshed_after_write :
    ∃ cache old, (empty []).rolesOf (Sample.tree Sample.web Sample.one) "/w" = (cache, .ok old) ∧
      ∃ roles fresh,
        ((cache.postAll (Sample.reports Sample.web)).rolesOf
          (Sample.tree Sample.web Sample.two) "/w").2 = .ok roles ∧
        ((empty []).rolesOf (Sample.tree Sample.web Sample.two) "/w").2 = .ok fresh ∧
        ∀ q, roles.find? q = fresh.find? q := by
  obtain ⟨hone, htwo⟩ := Sample.fits_web
  obtain ⟨cache, old, hread⟩ := exists_rolesOf_empty hone.directoriesBelow hone.parses []
  have hold := holdsOnly_rolesOf hone.directoriesBelow hread
  -- Nothing is overlooked here, so that the two caches agree everywhere.
  obtain ⟨roles, fresh, hnext, hfresh, hiff⟩ := refreshed_iff hone.sound htwo.sound rfl rfl rfl
    hone.directoriesBelow htwo.directoriesBelow hread htwo.parses
    (Sample.reportsAll hone.houses.areRoles Sample.takesFile_web rfl)
    (Sample.reportsVisible hone.houses.areRoles hold.keys (by decide))
  refine ⟨cache, old, hread, roles, fresh, hnext, hfresh, hiff.mpr ?_⟩
  -- The one directory is no entry of itself.
  rintro q ⟨hq, ⟨ds, n, hds, -, hsame⟩, -⟩
  rw [List.mem_singleton.mp hq, ← List.mem_singleton.mp hds] at hsame
  simpa using Path.rooted_injective hsame

/-- A directory inside another one that is not itself reported is not read anew: a file that is
    written in it stays unknown. -/
theorem inner_directory_stays :
    let before := Sample.tree rolesName Sample.one
    let after := Sample.tree rolesName Sample.two
    let dirs := ["/w/roles".toList, "/w/roles/roles".toList]
    Sample.Fits before dirs ∧ Sample.Fits after dirs ∧
      ReportsAll before after dirs (Sample.reports rolesName) ∧
      ∃ cache old, (empty []).rolesOf before "/w" = (cache, .ok old) ∧
        ReportsVisible cache (Sample.reports rolesName) ∧
        ∃ roles fresh,
          ((cache.postAll (Sample.reports rolesName)).rolesOf after "/w").2 = .ok roles ∧
          ((empty []).rolesOf after "/w").2 = .ok fresh ∧
          roles.find? "/w/roles/roles" ≠ fresh.find? "/w/roles/roles" := by
  intro before after dirs
  obtain ⟨hone, htwo⟩ := Sample.fits_roles
  have hroles := hone.houses.areRoles
  have hreports : ReportsAll before after dirs (Sample.reports rolesName) :=
    Sample.reportsAll hroles Sample.takesFile_roles rfl
  -- What the program holds before and after, and what a fresh one would hold.
  obtain ⟨cache, old, hread⟩ := exists_rolesOf_empty hone.directoriesBelow hone.parses []
  have hold := holdsOnly_rolesOf hone.directoriesBelow hread
  have hvisible : ReportsVisible cache (Sample.reports rolesName) :=
    Sample.reportsVisible hroles hold.keys (by decide)
  obtain ⟨cache', fresh, hanew⟩ := exists_rolesOf_empty htwo.directoriesBelow htwo.parses []
  have hfresh := holdsOnly_rolesOf htwo.directoriesBelow hanew
  obtain ⟨roles, hnext, hfind⟩ :=
    exists_rolesOf_postAll hold htwo.houses htwo.parses hvisible
  refine ⟨hone, htwo, hreports, cache, old, hread, hvisible, roles, fresh, hnext, by rw [hanew],
    fun hsame => ?_⟩
  have hcandidate : IsCandidate dirs "/w/roles/roles" :=
    ⟨[Sample.top, rolesName], rolesName, by decide, by decide, rfl⟩
  -- The role is overlooked: no report concerns it.
  have hstays := (find?_next hone.houses htwo.houses hold hfresh hreports hvisible hfind
    "/w/roles/roles").1
  have hunreported :
      ∀ r ∈ Sample.reports rolesName, Path.absolute r.1 ≠ "/w/roles/roles".toList := by
    decide
  -- So what is held is as old as before, while a fresh cache would have read the new tasks.
  have hsame' := hsame.symm.trans (hstays ⟨by decide, hcandidate, hunreported⟩)
  rw [hold.find?_of_isCandidate hone.houses hcandidate,
    hfresh.find?_of_isCandidate htwo.houses hcandidate] at hsame'
  -- The two readings differ in the task files.
  obtain ⟨context, hknown⟩ : ∃ context, Role.known? after "/w/roles/roles" = some context := by
    rw [Role.known?, Role.read?_of_no_variables rfl (Sample.noVariables rfl rfl)]
    exact ⟨_, rfl⟩
  have htwoTasks : context.tasks = Sample.two :=
    Sample.tasks_of_known? rfl (Sample.noVariables rfl rfl)
      (Sample.documentsIn_of_list rfl rfl (by decide)) hknown
  have honeTasks : context.tasks = Sample.one :=
    Sample.tasks_of_known? rfl (Sample.noVariables rfl rfl)
      (Sample.documentsIn_of_list rfl rfl (by decide)) (hsame' ▸ hknown)
  -- One of the two has the new tasks.
  exact absurd (honeTasks.symm.trans htwoTasks) (by decide)

end PlaybookAssist.RoleCache
