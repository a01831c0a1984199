import PlaybookAssist.Engine
import PlaybookAssist.Proofs.Role.Origin
import PlaybookAssist.Proofs.Role.WorkOff

/-!
# Which roles an engine holds

An engine looks at its roles, is told of files that changed, and gets notices about the directories
that it has found. Whatever comes in which order, a role that it holds is a directory found for its
workspace with one more name. Names that begin with a dot are left out when a directory is read, but
not when a path is reported: a hidden directory is held as a role as soon as anything in it is
reported.

## Main definitions

- `Engine.Incident` : what an engine meets; `Engine.Incident.run` is what it makes of it
- `Engine.Scene` : an engine with the directories that it has found
- `Engine.Incident.Reports` : an incident reports a role of a directory

## Main statements

- `Engine.Scene.Kept.run` : what one incident keeps
- `Engine.held_as_discovered` : where the roles come from that an engine holds
- `Engine.hidden_once_reported` : a hidden directory that is held
-/

namespace PlaybookAssist.Engine

open PlaybookAssist.Path (Name rooted)
open RoleCache (Accounted Belongs Claims Discovered Finds)

/-! ## Incidents -/

/-- What an engine meets that concerns its roles. -/
inductive Incident where
  /-- Someone looks at the roles. -/
  | look (op : {op : RoleCache.Operation // op.IsLook})
  /-- A file was opened, closed or shown. -/
  | change (path : Text) (kind : ChangeKind)
  /-- Something happened in a directory that was found. -/
  | notice (watch : RolesWatch) (notice : Notice)

/-- An engine with all directories that it has found so far, each with the key that it was found
    for. -/
structure Scene where
  engine : Engine
  found : List (Text × Text)

section

variable [Place] {refuses : Text → Bool} {fs : FileTree} {standard : List Text} {e : Engine} {s : Scene}
  {history : List (FileTree × Incident)} {key d role path : Text} {watch : RolesWatch} {n : Notice}

/-- The engine after an incident. What is told of a directory that was never found does not arrive. -/
def Incident.run (refuses : Text → Bool) (fs : FileTree) (s : Scene) : Incident → Scene
  | .look op =>
    ⟨(s.engine.onCache refuses fun cache => (op.1.run fs cache, ())).1,
      s.found ++ (op.1.run fs s.engine.cache).discovered⟩
  | .change path kind => { s with engine := (s.engine.handleChange path kind).1 }
  | .notice watch n =>
    if (watch.directory, watch.workspace) ∈ s.found then
      { s with engine := (s.engine.handleNotice watch n).1 }
    else s

/-- The engine after a history of incidents, each with the file system that it met. -/
def Scene.after (refuses : Text → Bool) (s : Scene) (history : List (FileTree × Incident)) : Scene :=
  history.foldl (fun s m => m.2.run refuses m.1 s) s

/-- The incident reports a path that belongs to the role of the directory. -/
def Incident.Reports (d key role : Text) : Incident → Prop
  | .look _ => False
  | .change path _ => Role.ownerIn? d path = some role
  | .notice watch n => watch = ⟨d, key⟩ ∧
      ∃ p ∈ n.paths, ∃ path, p.read = .ok path ∧ Role.ownerIn? d path = some role

/-! ## The cache of an engine -/

omit [Place] in
theorem cache_takeIn (refuses : Text → Bool) (found : List RolesWatch) (e : Engine) :
    (e.takeIn refuses found).1.cache = e.cache := by
  rw [takeIn]
  cases e.watcher <;> rfl

omit [Place] in
/-- After an operation on the cache everyone has been told of what it discovered. -/
theorem cache_onCache {α : Type} (refuses : Text → Bool) (f : RoleCache → RoleCache × α)
    (e : Engine) : (e.onCache refuses f).1.cache = (f e.cache).1.takeDiscovered.1 :=
  cache_takeIn refuses _ _

theorem mem_changesAt {change : RoleChange} {kind : NoticeKind} {ps : List ToldPath}
    (h : change ∈ (watch.changesAt kind ps).1) :
    change.workspace = watch.workspace ∧ ∃ p ∈ ps, ∃ path, p.read = .ok path ∧
      Role.ownerIn? watch.directory path = some change.role := by
  -- Induction over the paths of the notice, each of which adds at most one change.
  induction ps with
  | nil => cases h
  | cons p ps ih =>
    rw [RolesWatch.changesAt] at h
    cases hread : p.read with
    | error e =>
      rw [hread] at h
      cases h
    | ok path =>
      rw [hread, List.mem_append, Option.mem_toList] at h
      rcases h with h | h
      -- The owner of the path, if it has one, is what the change names.
      · unfold RolesWatch.change? at h
        split at h
        · cases h
        · obtain ⟨role, hrole, rfl⟩ := Option.map_eq_some_iff.mp h
          exact ⟨rfl, p, List.mem_cons_self, path, hread, hrole⟩
      · obtain ⟨hworkspace, p', hp, hlater⟩ := ih h
        exact ⟨hworkspace, p', List.mem_cons_of_mem _ hp, hlater⟩

/-- A notice means changes of roles of its directory. -/
theorem mem_changes {change : RoleChange} (h : change ∈ (watch.changes n).1) :
    change.workspace = watch.workspace ∧
      (Incident.notice watch n).Reports watch.directory watch.workspace change.role := by
  rw [RolesWatch.changes] at h
  split at h
  · obtain ⟨hworkspace, hreports⟩ := mem_changesAt h
    exact ⟨hworkspace, rfl, hreports⟩
  · cases h

/-! ## What incidents keep -/

/-- What is claimed of an engine that has met a history of incidents: each directory was there to be
    found, and each role is its directory with one more name, which is hidden only if the role was
    reported. -/
def claimsOf (standard : List Text) (history : List (FileTree × Incident)) : Claims where
  found key d := ∃ m ∈ history, Finds m.1 standard key d
  held key d role := ∃ n : Name, role = Path.join d n.text ∧
    (isHidden n.text = true → ∃ m ∈ history, m.2.Reports d key role)
  named _ _ := False

/-- What holds of an engine that has met a history of incidents. -/
structure Scene.Kept (standard : List Text) (history : List (FileTree × Incident)) (s : Scene) :
    Prop where
  accounted : s.engine.cache.Accounted standard s.found (claimsOf standard history)
  distinct : s.engine.cache.Distinct
  told : s.engine.cache.discovered = []

theorem accounted_later {cache : RoleCache} {told : List (Text × Text)}
    (h : cache.Accounted standard told (claimsOf standard history)) (m : FileTree × Incident) :
    cache.Accounted standard told (claimsOf standard (history ++ [m])) := by
  have hmem : ∀ m' ∈ history, m' ∈ history ++ [m] := fun m' => List.mem_append_left _
  refine h.mono ?_ ?_ fun _ _ => id
  · rintro key d ⟨m', hm', hfinds⟩
    exact ⟨m', hmem m' hm', hfinds⟩
  · rintro key d role ⟨name, hrole, hreported⟩
    refine ⟨name, hrole, fun hhidden => ?_⟩
    obtain ⟨m', hm', hreports⟩ := hreported hhidden
    exact ⟨m', hmem m' hm', hreports⟩

/-- A role that is reported is as claimed. -/
theorem held_of_reports {m : FileTree × Incident} (howner : Role.ownerIn? d path = some role)
    (hreports : m.2.Reports d key role) : (claimsOf standard (history ++ [m])).held key d role := by
  obtain ⟨name, hrole⟩ := Role.exists_of_ownerIn? howner
  exact ⟨name, hrole, fun _ => ⟨m, by simp, hreports⟩⟩

theorem Scene.Kept.look (h : s.Kept standard history) (hs : fs.Sound) (refuses : Text → Bool)
    (op : {op : RoleCache.Operation // op.IsLook}) :
    ((Incident.look op).run refuses fs s).Kept standard (history ++ [(fs, .look op)]) := by
  let m : FileTree × Incident := (fs, .look op)
  -- The directories that a look finds are claimed by the look itself.
  have hrun : (op.1.run fs s.engine.cache).Accounted standard s.found
      (claimsOf standard (history ++ [m])) := by
    apply (accounted_later h.accounted m).look _ op.2
    intro key d hfinds
    refine ⟨⟨m, by simp, hfinds⟩, fun roles hlist role hrole => ?_⟩
    -- What a directory lists is not hidden.
    obtain ⟨name, hname, rfl, -⟩ := Role.exists_of_mem_listIn hs hlist hrole
    refine ⟨name, rfl, fun hhidden => ?_⟩
    rw [hname] at hhidden
    cases hhidden
  have hcache : ((Incident.look op).run refuses fs s).engine.cache =
      (op.1.run fs s.engine.cache).takeDiscovered.1 :=
    cache_onCache refuses (fun cache => (op.1.run fs cache, ())) s.engine
  -- Accounting, distinctness and the news that nobody has taken yet.
  refine ⟨?_, ?_, ?_⟩ <;> rw [hcache]
  · exact hrun.takeDiscovered
  · exact h.distinct.run fs op.1
  · rfl

theorem Scene.Kept.change (h : s.Kept standard history) (fs : FileTree) (refuses : Text → Bool)
    (path : Text) (kind : ChangeKind) :
    ((Incident.change path kind).run refuses fs s).Kept standard
      (history ++ [(fs, .change path kind)]) := by
  refine ⟨?_, h.distinct.run fs (.postForPath path kind), ?_⟩
  · apply (accounted_later h.accounted _).postForPath
    intro key d role _ howner
    exact held_of_reports howner howner
  · show (s.engine.cache.postForPath path kind).1.discovered = []
    rw [RoleCache.postForPath]
    split <;> exact h.told

theorem Scene.Kept.notice (h : s.Kept standard history) (fs : FileTree) (refuses : Text → Bool)
    (watch : RolesWatch) (n : Notice) :
    ((Incident.notice watch n).run refuses fs s).Kept standard
      (history ++ [(fs, .notice watch n)]) := by
  have hlater := accounted_later h.accounted (fs, .notice watch n)
  rw [Incident.run]
  split
  case isFalse => exact ⟨hlater, h.distinct, h.told⟩
  case isTrue hfound =>
    have hcache : (s.engine.handleNotice watch n).1.cache =
        { s.engine.cache with queue := s.engine.cache.queue ++ (watch.changes n).1 } :=
      RoleCache.foldl_post _ _
    refine ⟨?_, ?_, ?_⟩ <;> dsimp only <;> rw [hcache]
    · apply hlater.postEach
      intro c hc
      -- A change that is queued is one of a role of the directory.
      obtain ⟨hworkspace, hreports⟩ := mem_changes hc
      obtain ⟨-, p, -, path, -, howner⟩ := id hreports
      rw [hworkspace]
      exact .inl ⟨watch.directory, List.mem_append_left _ hfound, held_of_reports howner hreports⟩
    · exact h.distinct
    · exact h.told

/-- What holds after a history still holds after one more incident. -/
theorem Scene.Kept.run (h : s.Kept standard history) (hs : fs.Sound) (refuses : Text → Bool)
    (incident : Incident) :
    (incident.run refuses fs s).Kept standard (history ++ [(fs, incident)]) := by
  cases incident with
  | look op => exact h.look hs refuses op
  | change path kind => exact h.change fs refuses path kind
  | notice watch n => exact h.notice fs refuses watch n

theorem kept_after (hsound : ∀ m ∈ history, m.1.Sound) (he : e.cache = RoleCache.empty standard)
    -- by induction from the end: a moment more is a step of `Scene.Kept.run`
    (refuses : Text → Bool) : (Scene.after refuses ⟨e, []⟩ history).Kept standard history := by
  induction history using List.reverseRecOn with
  | nil =>
    have hfirst : (Scene.after refuses ⟨e, []⟩ []).engine.cache = RoleCache.empty standard := he
    refine ⟨?_, ?_, ?_⟩ <;> rw [hfirst]
    · exact RoleCache.accounted_empty standard _
    · intro key roles h
      cases h
    · rfl
  | append_singleton history m ih =>
    rw [List.forall_mem_append, List.forall_mem_singleton] at hsound
    rw [Scene.after, List.foldl_append]
    exact (ih hsound.1).run hsound.2 refuses m.2

/-! ## The roles that are held -/

/-- If a path is reported whose role belongs to a workspace that has been read, then, if this role and
    those that are still to be read anew can be read, the next read of the workspace gives the role
    exactly if its directory is there. -/
theorem Scene.Kept.next_read (h : s.Kept standard history)
    (howner : s.engine.cache.ownerOf? path = some (key, role))
    (hkey : s.engine.cache.entries.hasKey key = true)
    (hqueue : RoleCache.AllRead fs s.engine.cache.queue)
    (hread : ∃ context, Role.read? fs role = .ok context) (kind : ChangeKind) :
    ∃ next roles, (s.engine.handleChange path kind).1.cache.rolesOf fs key = (next, .ok roles) ∧
      roles.hasKey role = fs.isDirectory role := by
  let changes := s.engine.cache.queue ++ [⟨key, role, kind⟩]
  have hposted : (s.engine.handleChange path kind).1.cache =
      { s.engine.cache with queue := changes } := by
    show (s.engine.cache.postForPath path kind).1 = _
    rw [RoleCache.postForPath, howner]
    rfl
  -- With the new change, every change in the queue can be read.
  have hall : RoleCache.AllRead fs changes :=
    List.forall_mem_append.mpr ⟨hqueue, List.forall_mem_singleton.mpr hread⟩
  obtain ⟨next, hnext, hworked⟩ := RoleCache.workedOff h.distinct hall
  obtain ⟨roles, hroles⟩ := Option.isSome_iff_exists.mp ((hworked.workspaces key).trans hkey)
  -- The role of the change is held exactly if its directory is still there.
  have hheld := hworked.named key role (by simp [changes, RoleChange.target]) hkey
  rw [RoleCache.held?, hroles] at hheld
  refine ⟨next, roles, ?_, ?_⟩
  · rw [hposted, RoleCache.rolesOf, RoleCache.lookUp, hnext]
    dsimp only
    rw [hroles]
  · rw [← RoleCache.isSome_known? hread, ← hheld]
    rfl

/-- Whatever an engine has met: a role that it holds for a workspace is a directory discovered for this
    workspace with one more name, and if the name is hidden, the role has been reported. Each
    directory that was discovered was there to be found at some time. And if a path is reported whose
    role belongs to a workspace that has been read, then, if this role and those that are still to be
    read anew can be read, the next read of the workspace gives the role exactly if its directory is
    there, whether its name is hidden or not. -/
theorem held_as_discovered (hsound : ∀ m ∈ history, m.1.Sound)
    (he : e.cache = RoleCache.empty standard) (refuses : Text → Bool) :
    let s := Scene.after refuses ⟨e, []⟩ history
    (∀ key role, (s.engine.cache.held? key role).isSome → ∃ (d : Text) (n : Name),
      role = Path.join d n.text ∧ (d, key) ∈ s.found ∧
        (isHidden n.text = true → ∃ m ∈ history, m.2.Reports d key role)) ∧
    (∀ d key, (d, key) ∈ s.found → ∃ m ∈ history, Finds m.1 standard key d) ∧
    ∀ (fs : FileTree) (path : Text) (kind : ChangeKind) (key role : Text),
      s.engine.cache.ownerOf? path = some (key, role) →
      s.engine.cache.entries.hasKey key = true → RoleCache.AllRead fs s.engine.cache.queue →
      (∃ context, Role.read? fs role = .ok context) →
      ∃ next roles,
        (s.engine.handleChange path kind).1.cache.rolesOf fs key = (next, .ok roles) ∧
          roles.hasKey role = fs.isDirectory role := by
  intro s
  have hkept := kept_after hsound he refuses
  -- All that has been found has been told, so that the list of the scene is complete.
  have hdiscovered (key d : Text) : Discovered s.found s.engine.cache key d ↔ (d, key) ∈ s.found := by
    rw [Discovered, hkept.told, List.append_nil]
  refine ⟨fun key role hheld => ?_, fun d key hd => ?_,
    fun fs path kind key role howner hkey hqueue hread => ?_⟩
  · obtain ⟨context, hheld⟩ := Option.isSome_iff_exists.mp hheld
    obtain ⟨roles, hroles, hfind⟩ := Option.bind_eq_some_iff.mp hheld
    have hmem : role ∈ roles.keys := Table.hasKey_iff.mp (Option.isSome_of_eq_some hfind)
    -- What is held has been found or reported; nothing else is accounted for.
    rcases hkept.accounted.roles key roles hroles role hmem with ⟨d, hd, n, hrole, hhidden⟩ | hnamed
    · exact ⟨d, n, hrole, (hdiscovered key d).mp hd, hhidden⟩
    · exact hnamed.elim
  · exact hkept.accounted.found key d ((hdiscovered key d).mpr hd)
  · exact hkept.next_read howner hkey hqueue hread kind

end

/-! ## Samples -/

namespace Sample

open RoleCache.Sample (tree one way)

attribute [local instance] RoleCache.Sample.place

/-- The name of a hidden directory. -/
def hidden : Name :=
  ⟨".hidden", by decide, by decide, by decide, by decide⟩

/-- An engine that nothing has happened to. -/
def engine : Engine where
  lifecycle := .fresh
    { settings := .standard, active := none, now := 0, cancelled := [], asksEntitlement := false
      ids := .counting }
  cache := .empty []
  watcher := some .idle
  workspace := .ofFolders ["/w"]
  freshRequests := 0

/-- The sample workspace, with a hidden directory where its roles are. -/
def files : FileTree :=
  tree hidden one

/-- Someone looks at the workspace. -/
def looked : FileTree × Incident :=
  (files, .look ⟨.rolesOf "/w", trivial⟩)

/-- A file in the hidden directory is reported. -/
def reported : FileTree × Incident :=
  (files, .change (rooted (way hidden)) .modified)

/-- The engine after some incidents. -/
def after (history : List (FileTree × Incident)) : Scene :=
  Scene.after (fun _ => false) ⟨engine, []⟩ history

theorem sound_files : files.Sound :=
  RoleCache.Sample.sound_tree (by decide) (by decide) (by decide)

theorem listIn_files : Role.listIn files "/w/roles" = .ok [] := by
  have hlist : files.list "/w/roles" = .ok [".hidden".toList] := rfl
  have hsort : Text.sort [".hidden".toList] = [".hidden".toList] := Text.sort_eq_self (by simp)
  simp only [Role.listIn, hlist, hsort]
  rfl

theorem directoriesBelow_files :
    Role.directoriesBelow files (some "/w".toList) = .ok ["/w/roles".toList] :=
  Role.directoriesBelow_of_search rfl rfl (by decide) rfl

/-- A first look finds the directory and no roles. -/
theorem after_looked : (after [looked]).engine.cache =
      ⟨[], [("/w".toList, [])], [("/w/roles".toList, "/w".toList)], [], []⟩ ∧
    (after [looked]).found = [("/w/roles".toList, "/w".toList)] := by
  have hread : ((RoleCache.empty []).rolesOf files "/w").1 =
      ⟨[], [("/w".toList, [])], [("/w/roles".toList, "/w".toList)], [],
        -- The roles directory is empty, so that the workspace has an entry without roles.
        [("/w/roles".toList, "/w".toList)]⟩ := by
    rw [RoleCache.rolesOf_empty directoriesBelow_files]
    simp only [RoleCache.populate, RoleCache.populateFrom, listIn_files, bind, Except.bind,
      RoleCache.readRoles]
    rfl
  constructor
  · have hcache : (after [looked]).engine.cache =
        ((RoleCache.empty []).rolesOf files "/w").1.takeDiscovered.1 :=
      cache_onCache _ (fun cache => ((cache.rolesOf files "/w").1, ())) engine
    rw [hcache, hread]
    rfl
  · show [] ++ ((RoleCache.empty []).rolesOf files "/w").1.discovered = _
    rw [hread]
    rfl

theorem ownerOf?_reported :
    (after [looked]).engine.cache.ownerOf? (rooted (way hidden)) =
      some ("/w".toList, "/w/roles/.hidden".toList) := by
  have howner : Role.ownerIn? "/w/roles" (rooted (way hidden)) = some "/w/roles/.hidden".toList :=
    @Role.ownerIn?_of_below _ [RoleCache.Sample.top, Role.rolesName] _ hidden _
      (Path.absolute_rooted _)
  simp only [RoleCache.ownerOf?, RoleCache.directoriesByLength, after_looked.1,
    List.mergeSort_singleton, List.findSome?_cons, howner]
  rfl

/-- After the report the next look has the hidden directory among the roles. -/
theorem held_hidden :
    ((after [looked, reported, looked]).engine.cache.held? "/w" "/w/roles/.hidden").isSome := by
  have hkept : (after [looked]).Kept [] [looked] :=
    kept_after (List.forall_mem_singleton.mpr sound_files) rfl _
  have hread : ∃ context, Role.read? files "/w/roles/.hidden" = .ok context :=
    ⟨_, Role.read?_of_no_variables rfl (RoleCache.Sample.noVariables rfl rfl)⟩
  have hcache := after_looked.1
  -- The report queues a change for the role, and the next look works it off.
  obtain ⟨next, roles, hnext, hhas⟩ := hkept.next_read ownerOf?_reported (by rw [hcache]; rfl)
    (by rw [hcache]; intro c hc; cases hc) hread .modified
  have hlast : (after [looked, reported, looked]).engine.cache = next.takeDiscovered.1 := by
    have hlook : (after [looked, reported, looked]).engine.cache =
        (((after [looked]).engine.handleChange (rooted (way hidden)) .modified).1.cache.rolesOf
          files "/w").1.takeDiscovered.1 :=
      cache_onCache _ (fun cache => ((cache.rolesOf files "/w").1, ()))
        ((after [looked]).engine.handleChange (rooted (way hidden)) .modified).1
    rw [hlook, hnext]
  have hroles : next.entries.find? "/w" = some roles := RoleCache.find?_lookUp hnext
  -- The look that follows changes nothing of what is held.
  rw [hlast, RoleCache.held?, show next.takeDiscovered.1.entries = next.entries from rfl, hroles]
  exact hhas

end Sample

attribute [local instance] RoleCache.Sample.place

/-- The hidden directory that is held has been reported. -/
theorem hidden_held_as_discovered : ∃ (d : Text) (n : Name),
    "/w/roles/.hidden".toList = Path.join d n.text ∧
      (d, "/w".toList) ∈ (Sample.after [Sample.looked, Sample.reported, Sample.looked]).found ∧
      (isHidden n.text = true → ∃ m ∈ [Sample.looked, Sample.reported, Sample.looked],
        m.2.Reports d "/w" "/w/roles/.hidden") := by
  have hsound : ∀ m ∈ [Sample.looked, Sample.reported, Sample.looked], m.1.Sound := by
    simp only [List.forall_mem_cons, List.not_mem_nil, false_imp_iff, implies_true, and_true]
    exact ⟨Sample.sound_files, Sample.sound_files, Sample.sound_files⟩
  obtain ⟨hheld, -⟩ := held_as_discovered hsound (e := Sample.engine) rfl fun _ => false
  exact hheld "/w" "/w/roles/.hidden" Sample.held_hidden

/-- A hidden directory is no role when its workspace is read, and is held as one once a file in it is
    reported, although no look at these files finds a directory of which it is a visible entry. -/
theorem hidden_once_reported :
    Role.listIn Sample.files "/w/roles" = .ok [] ∧
      (Sample.after [Sample.looked]).engine.cache.entries.find? "/w" = some [] ∧
      ((Sample.after [Sample.looked, Sample.reported, Sample.looked]).engine.cache.held?
        "/w" "/w/roles/.hidden").isSome ∧
      ¬ ∃ (d : Text) (n : Name), Finds Sample.files [] "/w" d ∧ isHidden n.text = false ∧
        "/w/roles/.hidden".toList = Path.join d n.text := by
  refine ⟨Sample.listIn_files, ?_, Sample.held_hidden, ?_⟩
  · rw [Sample.after_looked.1]
    rfl
  -- The directory would be the roles directory, or one of the common ones.
  · rintro ⟨d, n, ⟨dirs, hdirs, hd⟩ | ⟨hcommon, -⟩, hvisible, hrole⟩
    · cases Sample.directoriesBelow_files.symm.trans hdirs
      rw [List.mem_singleton.mp hd] at hrole
      -- The names on both sides are those after the last slash.
      have hsame : rooted ([RoleCache.Sample.top, Role.rolesName] ++ [Sample.hidden]) =
          rooted ([RoleCache.Sample.top, Role.rolesName] ++ [n]) :=
        hrole.trans (Path.join_rooted [RoleCache.Sample.top, Role.rolesName] n)
      have hname : Sample.hidden = n := by simpa using Path.rooted_injective hsame
      rw [← hname] at hvisible
      exact absurd hvisible (by decide)
    · exact absurd hcommon (by decide)

end PlaybookAssist.Engine
