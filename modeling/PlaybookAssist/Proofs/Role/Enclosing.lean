import PlaybookAssist.Context
import PlaybookAssist.Proofs.Files.Layout
import PlaybookAssist.Proofs.Role.Discovery
import PlaybookAssist.Proofs.Role.WorkOff

/-!
# The role around a file

What role a task file lies in is told in three ways. The layout of directories makes it a task file
of a role; a scan of the names of its path, from the last one back, names the role that is looked up
for it; and of the directories that were discovered the longest one around it names the role that is
read anew when the file changes. However roles are nested, the three agree, provided that the
innermost `roles` directory around the file is among those discovered.

## Main definitions

- `Role.Around`, `Role.Innermost` : the `roles` directories around a path
- `RoleCache.FoundFor` : all directories that are noted were found below one workspace

## Main statements

- `Role.enclosing?_rooted` : the role that the scan names
- `RoleCache.ownerOf?_innermost` : the role that is read anew
- `RoleCache.foundFor_after` : what is noted when only one workspace is ever asked for
- `RoleCache.reported_role_is_looked_up` : the three agree
-/

namespace PlaybookAssist

open PlaybookAssist.Path (Name rooted)

/-! ## Directories around a path -/

namespace Role

section

variable [Place] {p d : Text} {ps ds es : List Name} {n : Name}

/-- A `roles` directory around a path. -/
structure Around (p d : Text) : Prop where
  normal : Path.IsNormal d
  named : Path.name d = directoryName
  within : Path.isWithin p d = true
  ne : d ≠ p

/-- The `roles` directory around a path that lies within all others. -/
def Innermost (p d : Text) : Prop :=
  Around p d ∧ ∀ e, Around p e → Path.isWithin d e = true

theorem around_rooted_iff : Around (rooted ps) d ↔
    ∃ ds es, es ≠ [] ∧ ps = ds ++ rolesName :: es ∧ d = rooted (ds ++ [rolesName]) := by
  constructor
  -- The names of the directory are those of the path up to some `roles`.
  · rintro ⟨hnormal, hname, hwithin, hne⟩
    obtain ⟨ns, rfl⟩ := Path.isNormal_iff.mp hnormal
    obtain ⟨es, rfl⟩ := (Path.isWithin_rooted (Path.absolute_rooted ps)).mp hwithin
    cases ns using List.reverseRecOn with
    | nil => exact absurd hname (by decide)
    | append_singleton ds n =>
      rw [Path.name_rooted] at hname
      obtain rfl : n = rolesName := Name.ext hname
      refine ⟨ds, es, ?_, by simp, rfl⟩
      rintro rfl
      exact hne (by rw [List.append_nil])
  -- And every `roles` with something after it is such a directory.
  · rintro ⟨ds, es, hes, rfl, rfl⟩
    refine ⟨Path.isNormal_iff.mpr ⟨_, rfl⟩, Path.name_rooted ds rolesName,
      (Path.isWithin_rooted (Path.absolute_rooted _)).mpr ⟨es, by simp⟩, fun h => hes ?_⟩
    have hsame := Path.rooted_injective h
    simpa using hsame

/-- The last `roles` among the names before that of the file is that of the innermost directory. -/
theorem innermost_of_names (hes : es ≠ []) (hlast : rolesName ∉ es.dropLast) :
    Innermost (rooted (ds ++ rolesName :: es)) (rooted (ds ++ [rolesName])) := by
  refine ⟨around_rooted_iff.mpr ⟨ds, es, hes, rfl, rfl⟩, fun e he => ?_⟩
  obtain ⟨ds', es', hes', hsame, rfl⟩ := around_rooted_iff.mp he
  rw [Path.isWithin_rooted (Path.absolute_rooted _)]
  have hbegins : ds ++ [rolesName] <+: ds ++ rolesName :: es := ⟨es, by simp⟩
  have hbegins' : ds' ++ [rolesName] <+: ds ++ rolesName :: es := ⟨es', by simp [hsame]⟩
  -- Of two beginnings of one path the shorter is a beginning of the longer.
  rcases List.prefix_or_prefix_of_prefix hbegins hbegins' with hlonger | hshorter
  case inr => exact hshorter
  obtain ⟨more, hmore⟩ := hlonger
  cases more using List.reverseRecOn with
  | nil =>
    rw [List.append_nil] at hmore
    exact hmore ▸ List.prefix_rfl
  | append_singleton more n =>
    -- A directory further in would have its name among those after the last one.
    rw [← List.append_assoc] at hmore
    obtain ⟨rfl, -⟩ := List.append_inj' hmore rfl
    have hnames : es = more ++ rolesName :: es' := by simpa using hsame
    rw [hnames, List.dropLast_append_of_ne_nil (List.cons_ne_nil _ _),
      List.dropLast_cons_of_ne_nil hes'] at hlast
    exact absurd (List.mem_append_right _ List.mem_cons_self) hlast

omit [Place] in
theorem parent_entry (ds : List Name) (n : Name) :
    Path.parent (rooted (ds ++ [rolesName, n])) = rooted (ds ++ [rolesName]) := by
  have hsplit : ds ++ [rolesName, n] = ds ++ [rolesName] ++ [n] := by simp
  rw [hsplit, Path.parent_rooted]

/-- The entry of a `roles` directory on the way to a path that lies below it. -/
theorem entry_on_way (hes : es ≠ []) :
    Path.isWithin (rooted (ds ++ rolesName :: n :: es)) (rooted (ds ++ [rolesName, n])) = true ∧
      rooted (ds ++ [rolesName, n]) ≠ rooted (ds ++ rolesName :: n :: es) ∧
      Path.name (Path.parent (rooted (ds ++ [rolesName, n]))) = directoryName := by
  refine ⟨(Path.isWithin_rooted (Path.absolute_rooted _)).mpr ⟨es, by simp⟩, fun hsame => hes ?_, ?_⟩
  · have hnames := Path.rooted_injective hsame
    simpa using hnames.symm
  · rw [parent_entry, Path.name_rooted]
    rfl

/-- There is one innermost directory at most. -/
theorem Innermost.unique {e : Text} (hd : Innermost p d) (he : Innermost p e) : d = e := by
  obtain ⟨ds, rfl⟩ := Path.isNormal_iff.mp hd.1.normal
  obtain ⟨es, rfl⟩ := Path.isNormal_iff.mp he.1.normal
  have hbegins := (Path.isWithin_rooted (Path.absolute_rooted _)).mp (hd.2 _ he.1)
  have hbegins' := (Path.isWithin_rooted (Path.absolute_rooted _)).mp (he.2 _ hd.1)
  rw [hbegins.eq_of_length_le hbegins'.length_le]

omit [Place] in
/-- The names of a path in which some directory is named `roles`, at the last of them. -/
theorem exists_last (h : rolesName ∈ ps.dropLast) :
    ∃ ds es, es ≠ [] ∧ ps = ds ++ rolesName :: es ∧ rolesName ∉ es.dropLast := by
  obtain ⟨after, before, hsplit, hnot⟩ := List.eq_append_cons_of_mem (List.mem_reverse.mpr h)
  have hne : ps ≠ [] := by
    rintro rfl
    cases h
  refine ⟨before.reverse, after.reverse ++ [ps.getLast hne], by simp, ?_, by simpa using hnot⟩
  have hnames : ps.dropLast = before.reverse ++ rolesName :: after.reverse := by
    rw [← List.reverse_reverse ps.dropLast, hsplit]
    simp
  rw [← List.cons_append, ← List.append_assoc, ← hnames, List.dropLast_append_getLast hne]

/-! ## The scan of names -/

omit [Place] in
theorem enclosingParts?_append {front above : List Text} {role : Text}
    (hfront : directoryName ∉ front) (hrole : role ≠ directoryName) :
    enclosingParts? (front ++ role :: directoryName :: above) =
      some (role :: directoryName :: above) := by
  induction front with
  | nil => exact if_pos rfl
  | cons t front ih =>
    rw [List.mem_cons, not_or] at hfront
    cases front with
    | nil => exact (if_neg hrole).trans (if_pos rfl)
    | cons t' front =>
      have hnext : t' ≠ directoryName := fun h => hfront.2 (h ▸ List.mem_cons_self)
      exact (if_neg hnext).trans (ih hfront.2)

omit [Place] in
/-- The scan names the entry of the innermost directory on the way to the file. -/
theorem enclosing?_rooted (hes : es ≠ []) (hlast : rolesName ∉ (n :: es).dropLast) :
    enclosing? (rooted (ds ++ rolesName :: n :: es)) = some (rooted (ds ++ [rolesName, n])) := by
  -- The file has a name, and the names between it and the role are no `roles`.
  obtain ⟨es, file, rfl⟩ := (List.eq_nil_or_concat' es).resolve_left hes
  rw [← List.cons_append, List.dropLast_concat, List.mem_cons, not_or] at hlast
  have hsplit : Text.splitOn '/' (rooted (ds ++ rolesName :: n :: (es ++ [file]))) =
      [] :: (ds ++ rolesName :: n :: (es ++ [file])).map Name.text := by
    rw [Path.rooted_eq_stem (by simp), Path.splitOn_stem]
  -- Seen from the file, the first `roles` comes right after the name of the role.
  have hscan : enclosingParts? ((es.map Name.text).reverse ++
      n.text :: directoryName :: ((ds.map Name.text).reverse ++ [[]])) =
        some (n.text :: directoryName :: ((ds.map Name.text).reverse ++ [[]])) := by
    refine enclosingParts?_append (fun hmem => hlast.2 ?_) fun hn => hlast.1 (Name.ext hn.symm)
    obtain ⟨m, hm, hname⟩ := List.mem_map.mp (List.mem_reverse.mp hmem)
    exact (Name.ext hname : m = rolesName) ▸ hm
  have hparts : ([] :: (ds ++ rolesName :: n :: (es ++ [file])).map Name.text).reverse.drop 1 =
      (es.map Name.text).reverse ++
        n.text :: directoryName :: ((ds.map Name.text).reverse ++ [[]]) := by
    simp [rolesName]
  have hrole : Text.joinWith "/"
      (n.text :: directoryName :: ((ds.map Name.text).reverse ++ [[]])).reverse =
        rooted (ds ++ [rolesName, n]) := by
    have hreverse : (n.text :: directoryName :: ((ds.map Name.text).reverse ++ [[]])).reverse =
        [] :: (ds ++ [rolesName, n]).map Name.text := by
      simp [rolesName]
    rw [hreverse]
    exact Text.joinWith_cons (by simp)
  -- The parts are looked through from the end, where the file stands.
  rw [enclosing?, Path.normalise_rooted, hsplit, hparts, hscan]
  simp only [Option.bind_eq_bind, Option.bind_some, hrole]
  rfl

/-- A task file of a role lies below some `roles` directory. -/
theorem mem_of_detect {fs : FileTree} {document : Value}
    (h : FileType.detect fs (rooted ps) document = .ok .tasksInRole) : rolesName ∈ ps.dropLast := by
  obtain ⟨before, between, after, hnames, -, -⟩ :=
    FileType.liesInRoleTasks_iff.mp (FileType.liesInRoleTasks_of_detect Path.not_mem_slash_of_mem h)
  have hmem : rolesName.text ∈ (ps.map Name.text).dropLast := by
    rw [hnames, List.dropLast_append_of_ne_nil (List.cons_ne_nil _ _),
      List.dropLast_cons_of_ne_nil (by simp)]
    exact List.mem_append_right _ List.mem_cons_self
  rw [← List.map_dropLast] at hmem
  obtain ⟨n, hn, hname⟩ := List.mem_map.mp hmem
  exact (Name.ext hname : n = rolesName) ▸ hn

end

end Role

namespace RoleCache

open Role (Innermost rolesName)

section

variable [Place] {fs : FileTree} {standard : List Text} {w p d key role : Text}
  {cache : RoleCache} {kind : ChangeKind} {ds es : List Name} {n : Name}
  {history : List (FileTree × Operation)}

/-! ## The longest directory -/

/-- Of the directories around a path that are noted, the innermost one tells the role that a path
    belongs to. -/
theorem ownerOf?_innermost (hroles : AreRoles cache.directories.keys)
    (hd : rooted (ds ++ [rolesName]) ∈ cache.directories.keys)
    (hinner : Innermost (rooted (ds ++ rolesName :: n :: es)) (rooted (ds ++ [rolesName]))) :
    ∃ w, cache.ownerOf? (rooted (ds ++ rolesName :: n :: es)) =
      some (w, rooted (ds ++ [rolesName, n])) := by
  have hpath : Path.absolute (rooted (ds ++ rolesName :: n :: es)) =
      rooted (ds ++ [rolesName] ++ n :: es) := by
    rw [Path.absolute_rooted, List.append_assoc, List.singleton_append]
  have hsome : (Role.ownerIn? (rooted (ds ++ [rolesName]))
      -- The directory owns the path, and the owner that is taken is the one with the longest way.
      (rooted (ds ++ rolesName :: n :: es))).isSome := by
    rw [Role.ownerIn?_of_below hpath]
    rfl
  obtain ⟨⟨w, role⟩, howner⟩ := exists_ownerOf? hd hsome
  obtain ⟨ds', m, ms, hd', hpath', rfl, hlongest⟩ := ownerOf?_names hroles (fun _ => Iff.rfl) howner
  -- Both owners are read off the same path, so that their names agree.
  have hsame : ds' ++ m :: ms = ds ++ [rolesName] ++ n :: es :=
    Path.rooted_injective (hpath'.symm.trans hpath)
  -- It has no fewer names than the innermost one, and lies around that one.
  have hlength := hlongest (ds ++ [rolesName]) n es hd hsame
  obtain ⟨above, habove⟩ := hroles _ hd'
  obtain rfl : ds' = above ++ [rolesName] := Path.rooted_injective habove
  have haround : Role.Around (rooted (ds ++ rolesName :: n :: es)) (rooted (above ++ [rolesName])) :=
    Role.around_rooted_iff.mpr ⟨above, m :: ms, List.cons_ne_nil _ _, by simpa using hsame.symm, rfl⟩
  have hbegins := (Path.isWithin_rooted (Path.absolute_rooted _)).mp (hinner.2 _ haround)
  rw [hbegins.eq_of_length_le hlength] at hsame howner
  obtain rfl : m = n := (List.cons.inj (List.append_cancel_left hsame)).1
  exact ⟨w, by simpa using howner⟩

/-! ## Caches that are asked for one workspace -/

/-- The operation reads no other workspace, and not the roles installed for everyone. -/
def Operation.AsksOnly (w : Text) : Operation → Prop
  | .rolesOf workspace | .role? workspace _ => workspace = w
  | .commonRoles | .visible _ _ => False
  | .post _ | .postForPath _ _ | .refresh _ _ | .workOff | .takeDiscovered => True

/-- All directories that are noted were found below the workspace, when the files were in some
    state. -/
def FoundFor (w : Text) (cache : RoleCache) : Prop :=
  ∀ d key, (d, key) ∈ cache.directories → key = w ∧ ∃ (fs : FileTree) (dirs : List Text),
    fs.Sound ∧ Role.directoriesBelow fs (some w) = .ok dirs ∧ d ∈ dirs

theorem FoundFor.note {dirs found : List Text} (h : cache.FoundFor w) (hfs : fs.Sound)
    (hdirs : Role.directoriesBelow fs (some w) = .ok dirs) (hfound : found ⊆ dirs) :
    (cache.note w found).FoundFor w := by
  intro d key hd
  rcases mem_directories_note hd with hd | ⟨hkey, hd⟩
  · exact h d key hd
  · exact ⟨hkey, fs, dirs, hfs, hdirs, hfound hd⟩

theorem FoundFor.workOff (h : cache.FoundFor w) (fs : FileTree) : (cache.workOff fs).1.FoundFor w := by
  intro d key hd
  rw [RoleCache.workOff, directories_workOffAll] at hd
  exact h d key hd

theorem FoundFor.rolesOf (h : cache.FoundFor w) (hfs : fs.Sound) :
    (cache.rolesOf fs w).1.FoundFor w := by
  rw [RoleCache.rolesOf]
  rcases lookUp_cases fs w (Role.directoriesBelow fs (some w)) cache with
    hsame | ⟨count, dirs, -, hdirs, -, hpopulate⟩
  · rw [hsame]
    exact h.workOff fs
  · rw [hpopulate]
    rcases populate_cases fs w dirs (cache.workOff fs).1 with
      ⟨found, e, hsome, hfails⟩ | ⟨roles, -, hresult⟩
    -- those found before the failure are noted as well
    · rw [hfails]
      exact (h.workOff fs).note hfs hdirs hsome.subset
    · rw [hresult]
      exact (h.workOff fs).note hfs hdirs (List.Subset.refl _)

theorem FoundFor.run {op : Operation} (h : cache.FoundFor w) (hfs : fs.Sound)
    (hop : op.AsksOnly w) : (op.run fs cache).FoundFor w := by
  -- The workspace is looked up where the operation is about it; everything else keeps what was
  -- found.
  cases op with
  | rolesOf workspace =>
    obtain rfl : workspace = w := hop
    exact h.rolesOf hfs
  | role? workspace role =>
    obtain rfl : workspace = w := hop
    rw [Operation.run, role?_cache]
    exact h.rolesOf hfs
  | commonRoles | visible => cases hop
  | post change => exact h
  | postForPath path kind =>
    rw [Operation.run, postForPath]
    split <;> exact h
  | refresh workspace role =>
    intro d key hd
    rw [Operation.run, directories_refresh] at hd
    exact h d key hd
  | workOff => exact h.workOff fs
  | takeDiscovered => exact h

/-- What a cache notes that is never asked for anything but one workspace. -/
theorem foundFor_after (hhistory : ∀ m ∈ history, m.1.Sound ∧ m.2.AsksOnly w)
    (standard : List Text) : ((empty standard).after history).FoundFor w := by
  apply preserved_after
  · intro d key hd
    cases hd
  · intro m hm cache h
    exact h.run (hhistory m hm).1 (hhistory m hm).2

/-- Where a directory is noted whose path begins with one slash, all that are noted are `roles`
    directories at such paths. -/
theorem FoundFor.areRoles (h : cache.FoundFor w) (hw : Path.isAbsolute w = true)
    (hd : rooted ds ∈ cache.directories.keys) : AreRoles cache.directories.keys := by
  -- What is found are directories of roles below the workspace, in the spelling that it has.
  have hfound {d : Text} (hd : d ∈ cache.directories.keys) : ∃ s above, Path.IsLead s ∧
      Path.root w = '/' :: s ∧ d = s ++ rooted (above ++ [rolesName]) := by
    obtain ⟨⟨d, key⟩, hmem, rfl⟩ := List.mem_map.mp hd
    obtain ⟨-, fs, dirs, hfs, hdirs, hin⟩ := h d key hmem
    exact Role.exists_lead_of_mem_directoriesBelow hfs hw hdirs hin
  -- All of them begin as the workspace does, which the one directory tells.
  have hroot : Path.root w = ['/'] := by
    obtain ⟨s, above, rfl | rfl, hroot, hsame⟩ := hfound hd
    · exact hroot
    · have hone := Path.root_rooted ds
      rw [hsame, List.singleton_append, Path.root_slash_rooted] at hone
      cases hone
  intro d hd
  -- The start is one slash, so that the directory is a chain of names.
  obtain ⟨s, above, -, hroot', rfl⟩ := hfound hd
  obtain rfl : [] = s := (List.cons.inj (hroot.symm.trans hroot')).2
  exact ⟨above, rfl⟩

/-! ## The main result -/

/-- After a change was reported, a look finds of its role what reading it now gives. -/
theorem role?_post {fs : FileTree} (hdistinct : cache.Distinct)
    (hpopulated : cache.entries.hasKey w = true)
    (hread : AllRead fs (cache.post ⟨w, role, kind⟩).queue) :
    ((cache.post ⟨w, role, kind⟩).role? fs w role).2 = .ok (Role.known? fs role) := by
  have hposted : (cache.post ⟨w, role, kind⟩).Distinct := hdistinct
  obtain ⟨next, hnext, hworked⟩ := workedOff hposted hread
  -- The change is worked off at the look, and after that the role is held.
  have hwork : (cache.post ⟨w, role, kind⟩).workOff fs =
      (next, .ok (cache.post ⟨w, role, kind⟩).queue.length) := hnext
  have hkey : next.entries.hasKey w = true := (hworked.workspaces w).trans hpopulated
  obtain ⟨roles, hroles⟩ := Option.isSome_iff_exists.mp hkey
  have htarget : (w, role) ∈ (cache.post ⟨w, role, kind⟩).queue.map RoleChange.target :=
    List.mem_map.mpr ⟨⟨w, role, kind⟩, List.mem_append_right _ List.mem_cons_self, rfl⟩
  have hheld := hworked.named w role htarget hpopulated
  rw [held?, hroles] at hheld
  rw [role?, rolesOf, lookUp, hwork]
  dsimp only
  rw [hroles]
  exact congrArg Except.ok hheld

/-- A cache was never asked for anything but the workspace `w`. A task file of a role does not lie
    directly in a `roles` directory, and the innermost one around it has been discovered. Then the role
    that its path names is an entry of a `roles` directory on the way to the file; a report of the
    file queues one change, which is of that role of `w`; and if the roles of the changes that wait can
    be read, the role that is looked up for the file afterwards is as reading it now gives it. -/
theorem reported_role_is_looked_up (hw : Path.isAbsolute w = true)
    (hhistory : ∀ m ∈ history, m.1.Sound ∧ m.2.AsksOnly w) {fs : FileTree} {document : Value}
    (hp : Path.IsNormal p) (htype : FileType.detect fs p document = .ok .tasksInRole)
    (hparent : Path.name (Path.parent p) ≠ Role.directoryName)
    (hinner : ∀ d, Innermost p d → d ∈ ((empty standard).after history).directories.keys)
    (kind : ChangeKind) :
    let cache := (empty standard).after history
    ∃ role, Role.enclosing? p = some role ∧
      Path.isWithin p role = true ∧ role ≠ p ∧
      Path.name (Path.parent role) = Role.directoryName ∧
      cache.postForPath p kind = (cache.post ⟨w, role, kind⟩, true) ∧
      ∀ fs' : FileTree, cache.entries.hasKey w = true →
        AllRead fs' (cache.post ⟨w, role, kind⟩).queue →
        (AdditionalContext.ownRole fs' (some w) (Role.enclosing? p)
          (cache.postForPath p kind).1).2 = .ok (Role.known? fs' role) := by
  intro cache
  -- The innermost directory of roles is the one after which no further `roles` stands.
  obtain ⟨ps, rfl⟩ := Path.isNormal_iff.mp hp
  obtain ⟨ds, es, hes, rfl, hlast⟩ := Role.exists_last (Role.mem_of_detect htype)
  have hinnermost : Innermost (rooted (ds ++ rolesName :: es)) (rooted (ds ++ [rolesName])) :=
    Role.innermost_of_names hes hlast
  -- The workspace has found it, and it owns the path.
  have hd := hinner _ hinnermost
  have hfound : cache.FoundFor w := foundFor_after hhistory standard
  -- The file is not an entry of the directory itself, so there is a role between the two.
  obtain ⟨n, es, rfl⟩ := List.exists_cons_of_ne_nil hes
  have hfile : es ≠ [] := by
    rintro rfl
    rw [Role.parent_entry, Path.name_rooted] at hparent
    exact hparent rfl
  have henclosing : Role.enclosing? (rooted (ds ++ rolesName :: n :: es)) =
      some (rooted (ds ++ [rolesName, n])) := Role.enclosing?_rooted hfile hlast
  obtain ⟨key, howner⟩ := ownerOf?_innermost (hfound.areRoles hw hd) hd hinnermost
  -- What it owns belongs to the workspace, for that is where it was found.
  obtain rfl : key = w := by
    obtain ⟨d, hmem, -⟩ := ownerOf?_spec howner
    exact (hfound d key hmem).1
  have hpost : cache.postForPath (rooted (ds ++ rolesName :: n :: es)) kind =
      (cache.post ⟨key, rooted (ds ++ [rolesName, n]), kind⟩, true) := by
    rw [postForPath, howner]
  obtain ⟨hway, hne, hname⟩ := Role.entry_on_way hfile
  refine ⟨_, henclosing, hway, hne, hname, hpost, fun fs' hpopulated hread => ?_⟩
  have hsome : key.isEmpty = false := by
    cases key with
    | nil => cases hw
    | cons c key => rfl
  -- The look reads the role anew, whatever it was before.
  rw [hpost, henclosing, AdditionalContext.ownRole, hsome, if_neg Bool.false_ne_true]
  exact role?_post (distinct_after standard history) hpopulated hread

end

attribute [local instance] Sample.place

/-- The sample workspace is asked for its roles. -/
def Sample.asked : List (FileTree × Operation) :=
  [(tree web one, .rolesOf "/w")]

/-- A task file of a role is reported after another one was written beside it: the role that is looked
    up for it has both. -/
theorem looked_up_after_report :
    let cache := (empty []).after [(Sample.tree Sample.web Sample.one, .rolesOf "/w".toList)]
    let path := "/w/roles/web/tasks/a.yml".toList
    cache.postForPath path .modified = (cache.post ⟨"/w", "/w/roles/web", .modified⟩, true) ∧
      (AdditionalContext.ownRole (Sample.tree Sample.web Sample.two) (some "/w".toList)
        (Role.enclosing? path) (cache.postForPath path .modified).1).2 =
          .ok (some (Sample.context Sample.two)) := by
  intro cache path
  have hcache : cache = Sample.holding [] "/w" := congrArg Prod.fst Sample.rolesOf_web.1
  have hpath : path = rooted ([Sample.top] ++ rolesName :: [Sample.web,
      ⟨"tasks", by decide, by decide, by decide, by decide⟩,
      ⟨"a.yml", by decide, by decide, by decide, by decide⟩]) := rfl
  have htype : FileType.detect default path (FileType.Sample.document "name") = .ok .tasksInRole := by
    decide
  -- The directory is the only one that the workspace has found.
  have hinner : ∀ d, Innermost path d → d ∈ cache.directories.keys := by
    intro d hd
    rw [hpath] at hd
    rw [hd.unique (Role.innermost_of_names (List.cons_ne_nil _ _) (by decide)), hcache]
    exact List.mem_singleton_self _
  have hasked : ∀ m ∈ Sample.asked, m.1.Sound ∧ m.2.AsksOnly "/w" :=
    List.forall_mem_singleton.mpr ⟨Sample.fits_web.1.sound, rfl⟩
  obtain ⟨role, hrole, -, -, -, hpost, hlook⟩ := reported_role_is_looked_up rfl hasked (by decide)
    htype (by decide) hinner .modified
  obtain rfl : "/w/roles/web".toList = role := Option.some.inj hrole
  have hread : Role.read? (Sample.tree Sample.web Sample.two) "/w/roles/web" =
      .ok (some (Sample.context Sample.two)) := Sample.read?_web.2
  refine ⟨hpost, (hlook _ ?_ ?_).trans ?_⟩
  · show cache.entries.hasKey "/w" = true
    rw [hcache]
    rfl
  · show AllRead _ (cache.post _).queue
    rw [hcache]
    exact List.forall_mem_singleton.mpr ⟨_, hread⟩
  · rw [Role.known?, hread]

end RoleCache

end PlaybookAssist
