import PlaybookAssist.Proofs.Files.Depth
import PlaybookAssist.Proofs.Role.Directory

/-!
# Which directories are discovered

Below a workspace whose path holds no wildcard the `roles` directories that are found are those that
lie in a directory reached from the workspace along names that are not hidden, less those on whose
path there is an ignored directory. The path of the workspace becomes a part of the search pattern as
it is written, so a workspace named `w[1]` is searched for below its neighbour `w1`.

## Main definitions

- `Role.Reached` : the directories that are reached from a directory

## Main statements

- `Role.reached_iff` : the paths of these directories
- `Role.directoriesBelow_exact` : the directories found below a workspace
- `Role.exists_lead_of_mem_directoriesBelow` : what their paths are like, whatever the workspace is
  called
- `Role.directoriesBelow_of_neighbour` : what a wildcard in the name of a workspace comes to
-/

namespace PlaybookAssist.Role

open PlaybookAssist.Path (IsLead Name rooted)

section

variable [Place] {fs : FileTree} {s w d way : Text} {ws ms : List Name}

/-! ## Directories reached from a directory -/

/-- The directories that are reached from a directory along names that are not hidden. -/
inductive Reached (fs : FileTree) (w : Text) : Text → Prop where
  | here (hdirectory : fs.isDirectory w = true) : Reached fs w w
  | into {d : Text} {n : Name} (habove : Reached fs w d) (hhidden : isHidden n.text = false)
      (hdirectory : fs.isDirectory (Path.join d n.text) = true) : Reached fs w (Path.join d n.text)

theorem isDirectory_on_way (hs : IsLead s)
    (h : fs.isDirectory (s ++ rooted (ws ++ ms)) = true) : fs.isDirectory (s ++ rooted ws) = true := by
  obtain ⟨es, hentry⟩ := FileTree.isDirectory_iff.mp h
  obtain ⟨es', hentry', -⟩ := FileTree.exists_entry_on_way hs hentry
  exact FileTree.isDirectory_iff.mpr ⟨es', hentry'⟩

/-- A directory is reached if it is there and no name on the way is hidden. -/
theorem reached_iff (hs : IsLead s) : Reached fs (s ++ rooted ws) d ↔
    ∃ ms : List Name, (∀ n ∈ ms, isHidden n.text = false) ∧ d = s ++ rooted (ws ++ ms) ∧
      fs.isDirectory d = true := by
  constructor
  · intro h
    -- Each step adds one name that is not hidden.
    induction h with
    | here hdirectory => exact ⟨[], List.forall_mem_nil _, by rw [List.append_nil], hdirectory⟩
    | @into d n _ hhidden hdirectory ih =>
      obtain ⟨ms, hms, rfl, -⟩ := ih
      refine ⟨ms ++ [n], List.forall_mem_append.mpr ⟨hms, by simpa using hhidden⟩, ?_, hdirectory⟩
      rw [Path.join_lead, List.append_assoc]
  · rintro ⟨ms, hms, rfl, hdirectory⟩
    -- And each name leads one step further down.
    induction ms using List.reverseRecOn with
    | nil =>
      rw [List.append_nil] at hdirectory ⊢
      exact .here hdirectory
    | append_singleton ms n ih =>
      obtain ⟨hms, hn⟩ := List.forall_mem_append.mp hms
      rw [← List.append_assoc] at hdirectory ⊢
      have habove := ih hms (isDirectory_on_way hs hdirectory)
      rw [← Path.join_lead] at hdirectory ⊢
      exact .into habove (hn n List.mem_cons_self) hdirectory

/-! ## Ways from a directory -/

/-- The ways that the search takes from a directory, which may stay there. -/
theorem exists_of_mem_waysFrom (hfs : fs.Sound) (h : way ∈ [] :: fs.waysFrom true w) :
    ∃ ms : List Name, way = Text.joinWith ['/'] (ms.map Name.text) ∧
      ∀ n ∈ ms, isHidden n.text = false := by
  rcases List.mem_cons.mp h with rfl | h
  · exact ⟨[], rfl, List.forall_mem_nil _⟩
  · rw [FileTree.waysFrom] at h
    cases hentry : fs.entry w with
    | error err =>
      rw [hentry] at h
      cases h
    | ok e =>
      rw [hentry] at h
      obtain ⟨ms, -, hway, hhidden, -⟩ := (hfs.entry hentry).mem_waysBelow_iff.mp h
      exact ⟨ms, hway, hhidden⟩

theorem mem_waysFrom (hfs : fs.Sound) (hs : IsLead s)
    (hdirectory : fs.isDirectory (s ++ rooted (ws ++ ms)) = true)
    (hhidden : ∀ n ∈ ms, isHidden n.text = false) :
    Text.joinWith ['/'] (ms.map Name.text) ∈ [] :: fs.waysFrom true (s ++ rooted ws) := by
  by_cases hms : ms = []
  · subst hms
    exact List.mem_cons_self
  · obtain ⟨es, hentry⟩ := FileTree.isDirectory_iff.mp hdirectory
    obtain ⟨es', hentry', hat⟩ := FileTree.exists_entry_on_way hs hentry
    refine List.mem_cons_of_mem _ ?_
    rw [FileTree.waysFrom, hentry']
    exact (hfs.entry hentry').mem_waysBelow_iff.mpr ⟨ms, hms, rfl, hhidden, _, hat, fun _ => rfl⟩

theorem nodup_waysFrom (hfs : fs.Sound) (w : Text) : ([] :: fs.waysFrom true w).Nodup := by
  rw [FileTree.waysFrom]
  cases hentry : fs.entry w with
  | error err => exact List.nodup_singleton _
  | ok e =>
    have hsound := hfs.entry hentry
    refine List.nodup_cons.mpr ⟨fun h => ?_, hsound.nodup_waysBelow true⟩
    -- A way below the directory has a first name.
    obtain ⟨ms, hms, hway, -⟩ := hsound.mem_waysBelow_iff.mp h
    have hsplit : Text.splitOn '/' (Text.joinWith ['/'] (ms.map Name.text)) = ms.map Name.text :=
      Text.splitOn_joinWith (by simpa using hms) Path.not_mem_slash_of_mem
    rw [← hway] at hsplit
    have hmem : [] ∈ ms.map Name.text := by
      rw [← hsplit]
      exact List.mem_cons_self
    obtain ⟨n, -, hn⟩ := List.mem_map.mp hmem
    exact n.ne_nil hn

/-! ## Discovery -/

/-- The paths that the search finds below a workspace whose path holds no wildcard. -/
def candidates (fs : FileTree) (w : Text) : List Text :=
  (([] :: fs.waysFrom true w).map fun way => Path.join (Path.join w way) directoryName).filter
    fs.pathExists

theorem exists_of_mem_candidates (hfs : fs.Sound) (h : d ∈ candidates fs (s ++ rooted ws)) :
    ∃ ms : List Name, d = s ++ rooted (ws ++ ms ++ [rolesName]) ∧
      ∀ n ∈ ms, isHidden n.text = false := by
  obtain ⟨way, hway, rfl⟩ := List.mem_map.mp (List.mem_filter.mp h).1
  obtain ⟨ms, rfl, hhidden⟩ := exists_of_mem_waysFrom hfs hway
  exact ⟨ms, Path.join_join_lead s ws ms rolesName, hhidden⟩

theorem mem_candidates (hfs : fs.Sound) (hs : IsLead s)
    (hdirectory : fs.isDirectory (s ++ rooted (ws ++ ms ++ [rolesName])) = true)
    (hhidden : ∀ n ∈ ms, isHidden n.text = false) :
    s ++ rooted (ws ++ ms ++ [rolesName]) ∈ candidates fs (s ++ rooted ws) := by
  obtain ⟨es, hentry⟩ := FileTree.isDirectory_iff.mp hdirectory
  have hexists : fs.pathExists (s ++ rooted (ws ++ ms ++ [rolesName])) = true := by
    rw [FileTree.pathExists, hentry]
  have hway := mem_waysFrom hfs hs (isDirectory_on_way hs hdirectory) hhidden
  exact List.mem_filter.mpr ⟨List.mem_map.mpr ⟨_, hway, Path.join_join_lead s ws ms rolesName⟩,
    hexists⟩

theorem nodup_candidates (hfs : fs.Sound) (s : Text) (ws : List Name) :
    (candidates fs (s ++ rooted ws)).Nodup := by
  refine List.Nodup.filter _ (List.Nodup.map_on (fun way hway way' hway' hsame => ?_)
    (nodup_waysFrom hfs _))
  -- The way can be read off the path that it gives.
  obtain ⟨ms, rfl, -⟩ := exists_of_mem_waysFrom hfs hway
  obtain ⟨ms', rfl, -⟩ := exists_of_mem_waysFrom hfs hway'
  have hnames : s ++ rooted (ws ++ ms ++ [rolesName]) = s ++ rooted (ws ++ ms' ++ [rolesName]) :=
    (Path.join_join_lead s ws ms rolesName).symm.trans
      (hsame.trans (Path.join_join_lead s ws ms' rolesName))
  have hms := Path.rooted_injective (List.append_cancel_left hnames)
  rw [List.append_cancel_left (List.append_cancel_right hms)]

/-- The directories found below a workspace whose path holds no wildcard. -/
theorem directoriesBelow_eq (hfs : fs.Sound) (hs : IsLead s)
    (hplain : Wildcard.isPlain (s ++ rooted ws) = true) (hzero : '\x00' ∉ s ++ rooted ws) :
    directoriesBelow fs (some (s ++ rooted ws)) =
      .ok ((Text.sort (candidates fs (s ++ rooted ws))).filter fun d =>
        !isIgnored (Text.splitOn '/' d) && fs.isDirectory d) := by
  -- The search lists the candidates, and of those only normal paths are kept.
  have hempty : (s ++ rooted ws).isEmpty = false := by simp [rooted]
  have hfound : fs.search (Path.join (Path.join (s ++ rooted ws) FileTree.anyDepth) directoryName) =
      .ok (candidates fs (s ++ rooted ws)) :=
    @FileTree.search_anyDepth _ fs s ws rolesName hs hplain hzero (by decide)
  rw [directoriesBelow]
  simp only [hempty, hfound, Bool.false_eq_true, if_false]
  -- Paths of normal form stay as they are.
  have hnormal : ∀ d ∈ Text.sort (candidates fs (s ++ rooted ws)),
      Path.normalise d = d ∧ Path.absolute d = d := by
    intro d hd
    obtain ⟨ms, rfl, -⟩ := exists_of_mem_candidates hfs (Text.mem_sort.mp hd)
    exact ⟨hs.normalise _, hs.absolute _⟩
  have hkeep : (Text.sort (candidates fs (s ++ rooted ws))).filter (fun d =>
        !isIgnored (Text.splitOn '/' (Path.normalise d)) && fs.isDirectory d) =
      (Text.sort (candidates fs (s ++ rooted ws))).filter fun d =>
        !isIgnored (Text.splitOn '/' d) && fs.isDirectory d :=
    List.filter_congr fun d hd => by rw [(hnormal d hd).1]
  refine congrArg Except.ok ?_
  rw [hkeep]
  refine (List.map_congr_left fun d hd => ?_).trans (List.map_id' _)
  exact (hnormal d (List.mem_filter.mp hd).1).2

/-- Below a workspace whose path holds no wildcard, the `roles` directories found are exactly those
    in the directories that are reached from it, but for those with an ignored directory on their
    path. Each is found once, and all lie below the workspace. -/
theorem directoriesBelow_exact (hfs : fs.Sound) (habsolute : Path.isAbsolute w = true)
    (hnormal : Path.normalise w = w) (hplain : Wildcard.isPlain w = true) (hzero : '\x00' ∉ w) :
    ∃ dirs, directoriesBelow fs (some w) = .ok dirs ∧ dirs.Nodup ∧
      (∀ d, d ∈ dirs ↔ ∃ above, Reached fs w above ∧ d = Path.join above directoryName ∧
        fs.isDirectory d = true ∧ isIgnored (Text.splitOn '/' d) = false) ∧
      ∀ d ∈ dirs, Path.isWithin d w = true ∧ d ≠ w := by
  obtain ⟨s, ws, hs, -, -, hw⟩ := Path.exists_lead_normalise habsolute
  obtain rfl : w = s ++ rooted ws := hnormal.symm.trans hw
  have hdirs := directoriesBelow_eq hfs hs hplain hzero
  refine ⟨_, hdirs, List.Nodup.filter _ ((Text.perm_sort _).nodup_iff.mpr (nodup_candidates hfs s ws)),
    fun d => ?_, fun d hd => ⟨(below_of_mem_directoriesBelow hfs habsolute hplain hdirs hd).isWithin
      habsolute, ?_⟩⟩
  -- Sorting and filtering change neither the list nor its elements.
  · rw [List.mem_filter, Text.mem_sort, Bool.and_eq_true, Bool.not_eq_true']
    constructor
    -- A candidate is below what is reached, and what is reached has such a candidate.
    · rintro ⟨hd, hignored, hdirectory⟩
      obtain ⟨ms, rfl, hhidden⟩ := exists_of_mem_candidates hfs hd
      have habove := isDirectory_on_way hs hdirectory
      exact ⟨_, (reached_iff hs).mpr ⟨ms, hhidden, rfl, habove⟩, (Path.join_lead s _ rolesName).symm,
        hdirectory, hignored⟩
    · rintro ⟨above, habove, rfl, hdirectory, hignored⟩
      obtain ⟨ms, hhidden, rfl, -⟩ := (reached_iff hs).mp habove
      have hjoin : Path.join (s ++ rooted (ws ++ ms)) directoryName =
          s ++ rooted (ws ++ ms ++ [rolesName]) := Path.join_lead s _ rolesName
      rw [hjoin] at hdirectory hignored ⊢
      exact ⟨mem_candidates hfs hs hdirectory hhidden, hignored, hdirectory⟩
  -- What is found lies below the workspace by at least one name.
  · obtain ⟨ms, rfl, -⟩ := exists_of_mem_candidates hfs (Text.mem_sort.mp (List.mem_filter.mp hd).1)
    intro hsame
    have hnames := Path.rooted_injective (List.append_cancel_left hsame)
    simp at hnames

/-! ## Whatever the workspace is called -/

/-- What the search finds is a `roles` entry of a directory whose path begins as that of the
    workspace does. -/
theorem exists_join_of_mem_search (hfs : fs.Sound) (hw : Path.isAbsolute w = true)
    {found : List Text} {q : Text}
    (hfound : fs.search (Path.join (Path.join w FileTree.anyDepth) directoryName) = .ok found)
    (hq : q ∈ found) :
    ∃ above, Path.front above = Path.front w ∧ q = Path.join above directoryName := by
  -- Everything that the pattern finds begins as the workspace does.
  have hfront : Path.front (Path.join w FileTree.anyDepth) = Path.front w := Path.front_join rfl w
  have habsolute : Path.isAbsolute (Path.join w FileTree.anyDepth) = true :=
    (Path.isAbsolute_of_front hfront).trans hw
  have hname : Path.name (Path.join (Path.join w FileTree.anyDepth) directoryName) = directoryName :=
    Path.name_join habsolute rolesName
  have hparent : Path.front (Path.parent (Path.join (Path.join w FileTree.anyDepth) directoryName)) =
      Path.front w := by
    rw [Path.front_parent, Path.front_join rfl, hfront]
  have habove := (Path.isAbsolute_of_front hparent).trans hw
  have hplain : Wildcard.isPlain (Path.join (Path.join w FileTree.anyDepth) directoryName) = false :=
    FileTree.isPlain_anyDepth w rfl
  have hne : (Path.parent (Path.join (Path.join w FileTree.anyDepth) directoryName)).isEmpty =
      false := by
    rw [List.isEmpty_eq_false_iff]
    intro hempty
    rw [hempty] at habove
    cases habove
  obtain ⟨d, ways, hways, ⟨way, hway, rfl⟩, hd⟩ :=
    FileTree.exists_of_searchFrom hplain hne hfound hq
  -- The last component of the pattern has no wildcard, so it is found as it is written.
  have hself : way = directoryName := by
    rw [hname, FileTree.searchIn, if_pos (by decide), if_neg (by decide)] at hways
    cases hways
    split at hway
    · exact List.mem_singleton.mp hway
    · cases hway
  refine ⟨d, ?_, by rw [hself]⟩
  rcases hd with rfl | ⟨above, hsearch, hd⟩
  · exact hparent
  · exact (hfs.front_of_searchFrom habove hsearch hd).trans hparent

/-- What is found below any absolute workspace lies at a path of normal form that ends in `roles` and
    begins as that of the workspace does. -/
theorem exists_lead_of_mem_directoriesBelow {dirs : List Text} (hfs : fs.Sound)
    (hw : Path.isAbsolute w = true) (h : directoriesBelow fs (some w) = .ok dirs) (hd : d ∈ dirs) :
    ∃ s ds, IsLead s ∧ Path.root w = '/' :: s ∧ d = s ++ rooted (ds ++ [rolesName]) := by
  -- The workspace is not empty, so that its directories come from a search.
  have hne : w ≠ [] := by
    rintro rfl
    cases hw
  obtain ⟨found, q, hfound, hq, rfl, -⟩ := exists_found hne h hd
  -- And what was searched for is a directory of roles below something.
  obtain ⟨above, hfront, rfl⟩ := exists_join_of_mem_search hfs hw hfound hq
  have habove := (Path.isAbsolute_of_front hfront).trans hw
  have hfront' : Path.front (Path.join above directoryName) = Path.front w :=
    (Path.front_join rfl above).trans hfront
  have habsolute := (Path.isAbsolute_of_front hfront').trans hw
  obtain ⟨ds, hds⟩ := Path.exists_names_of_isAbsolute habove
  obtain ⟨s, ns, hs, hroot, hns, hnormal⟩ := Path.exists_lead_normalise habsolute
  -- The names of the normal form are the components of what was found.
  obtain rfl : ns = ds ++ [rolesName] := by
    apply List.map_injective_iff.mpr fun (n m : Name) hnm => Name.ext hnm
    have hjoin : Path.components (Path.join above directoryName) =
        Path.components above ++ [rolesName.text] := Path.components_join habove [rolesName]
    rw [← hns, hjoin, hds, List.map_append, List.map_singleton]
  refine ⟨s, ds, hs, (Path.root_of_front hfront').symm.trans hroot, ?_⟩
  rw [Path.absolute, habsolute, if_pos rfl, hnormal]

end

/-! ## Workspaces side by side -/

namespace Sample

/-- Two workspaces, each with a `roles` directory. Read as a pattern, the name of the first is that
    of the second. -/
def neighbours : FileTree :=
  ⟨.directory [("w[1]".toList, .directory [("roles".toList, .directory [])]),
    ("w1".toList, .directory [("roles".toList, .directory [])])]⟩

theorem sound_neighbours : neighbours.Sound := by
  have hone {n : Text} {e : Entry} (hn : Entry.IsProper n) (he : e.Sound) :
      (Entry.directory [(n, e)]).Sound := by
    refine Entry.sound_directory_iff.mpr ⟨by simp, fun p hp => ?_⟩
    rw [List.mem_singleton.mp hp]
    exact ⟨hn, he⟩
  have hempty : (Entry.directory []).Sound :=
    Entry.sound_directory_iff.mpr ⟨List.nodup_nil, List.forall_mem_nil _⟩
  refine Entry.sound_directory_iff.mpr ⟨by decide, List.forall_mem_cons.mpr ⟨⟨by decide, ?_⟩,
    List.forall_mem_singleton.mpr ⟨by decide, ?_⟩⟩⟩
  · exact hone (by decide) hempty
  · exact hone (by decide) hempty

end Sample

attribute [local instance] Path.atRoot in
/-- The second workspace has its own directory. -/
theorem directoriesBelow_of_plain : ∃ dirs,
    directoriesBelow Sample.neighbours (some "/w1".toList) = .ok dirs ∧ dirs.Nodup ∧
      "/w1/roles".toList ∈ dirs ∧ "/w[1]/roles".toList ∉ dirs := by
  obtain ⟨dirs, hdirs, hnodup, hmem, hwithin⟩ := directoriesBelow_exact (w := "/w1".toList)
    Sample.sound_neighbours rfl (by decide) (by decide) (by decide)
  exact ⟨dirs, hdirs, hnodup, (hmem _).mpr ⟨_, .here rfl, rfl, rfl, by decide⟩,
    fun h => Bool.false_ne_true ((hwithin _ h).1)⟩

attribute [local instance] Path.atRoot in
/-- For the first workspace the directory of the second one is found, and its own is not. -/
theorem directoriesBelow_of_neighbour :
    Sample.neighbours.Sound ∧ Path.isAbsolute "/w[1]" = true ∧
      Path.normalise "/w[1]" = "/w[1]".toList ∧
      directoriesBelow Sample.neighbours (some "/w[1]".toList) = .ok ["/w1/roles".toList] ∧
      Path.isWithin "/w1/roles" "/w[1]" = false ∧
      ∃ above, Reached Sample.neighbours "/w[1]" above ∧
        "/w[1]/roles".toList = Path.join above directoryName ∧
        Sample.neighbours.isDirectory "/w[1]/roles" = true ∧
        isIgnored (Text.splitOn '/' "/w[1]/roles") = false :=
  ⟨Sample.sound_neighbours, rfl, by decide, directoriesBelow_of_search rfl rfl (by decide) rfl,
    by decide, _, .here rfl, rfl, rfl, by decide⟩

end PlaybookAssist.Role
