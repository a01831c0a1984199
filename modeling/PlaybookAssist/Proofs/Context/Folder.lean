import PlaybookAssist.Context
import PlaybookAssist.Proofs.Path.Nested
import PlaybookAssist.Proofs.Path.Relative

/-!
# The folder of a document

Of two folders around one document the one lies within the other, and the one with the longer path is
the inner one. So the longest of the folders around a document lies within all the others.

## Main statements

- `Workspace.longest_mem`, `Workspace.length_le_longest` : the longest of some texts
- `Workspace.isWithin_of_length_le` : the longer of two folders around a document is the inner one
- `Workspace.rootFor_mem`, `Workspace.rootFor_ofFolders` : the folder that a document belongs to
- `Workspace.rootFor_innermost` : it is the innermost around the document, or the first
-/

namespace PlaybookAssist.Workspace

open PlaybookAssist.Path (rooted)

variable {first t path w d e : Text} {others folders : List Text}

/-! ## The longest -/

theorem longest_mem (first : Text) (others : List Text) : longest first others ∈ first :: others := by
  rw [longest]
  induction others generalizing first with
  | nil => exact List.mem_cons_self
  | cons t others ih =>
    rw [List.foldl_cons]
    split
    · exact List.mem_cons_of_mem _ (ih t)
    · rcases List.mem_cons.mp (ih first) with heq | hmem
      · rw [heq]
        exact List.mem_cons_self
      · exact List.mem_cons_of_mem _ (List.mem_cons_of_mem _ hmem)

theorem length_le_longest (first : Text) (others : List Text) :
    ∀ t ∈ first :: others, t.length ≤ (longest first others).length := by
  rw [longest]
  -- Induction over the others, for every text that has been the longest so far.
  induction others generalizing first with
  | nil =>
    intro t ht
    rw [List.mem_singleton.mp ht]
    exact Nat.le_refl _
  | cons u others ih =>
    rw [List.foldl_cons]
    split
    case isTrue hlt =>
      -- The first one is shorter than the one that takes its place.
      have hu := ih u
      refine List.forall_mem_cons.mpr ⟨?_, hu⟩
      exact Nat.le_trans (Nat.le_of_lt hlt) (hu u List.mem_cons_self)
    case isFalse hle =>
      obtain ⟨hfirst, hothers⟩ := List.forall_mem_cons.mp (ih first)
      refine List.forall_mem_cons.mpr ⟨hfirst, List.forall_mem_cons.mpr ⟨?_, hothers⟩⟩
      exact Nat.le_trans (Nat.le_of_not_lt hle) hfirst

section

variable [Place]

/-! ## Folders around a document -/

/-- Of two folders around a path, the one with the longer path lies within the other. -/
theorem isWithin_of_length_le (hd : Path.root d = ['/']) (he : Path.root e = ['/'])
    (hpath : Path.isWithin path d = true) (hpath' : Path.isWithin path e = true)
    (h : (Path.absolute e).length ≤ (Path.absolute d).length) : Path.isWithin d e = true := by
  -- the paths of both folders are prefixes of one path, so one of them is a prefix of the other
  obtain ⟨ds, hds⟩ := Path.exists_absolute_of_root hd
  obtain ⟨es, hes⟩ := Path.exists_absolute_of_root he
  rcases Path.isWithin_or_isWithin hpath hpath' with hin | hout
  · exact hin
  · obtain ⟨ns, rfl⟩ := (Path.isWithin_iff_names hes hds).mp hout
    rw [hds, hes] at h
    by_cases hns : ns = []
    · subst hns
      rw [List.append_nil] at hes
      exact (Path.isWithin_iff_names hds hes).mpr (List.prefix_refl _)
    -- the other way round `e` would be the longer one
    · exact absurd h (Nat.not_le_of_lt (Path.length_rooted_lt ds hns))

/-- The folder that a document belongs to is one of the folders. -/
theorem rootFor_mem {workspace : Workspace} (h : workspace.rootFor path = some w) :
    w ∈ workspace.folders := by
  rw [rootFor] at h
  split at h
  case h_1 first others hfilter =>
    cases h
    have hmem : longest first others ∈ workspace.folders.filter fun f => Path.isWithin path f :=
      hfilter ▸ longest_mem first others
    exact (List.mem_filter.mp hmem).1
  case h_2 => exact List.mem_of_head? h

/-- The folder that a document belongs to is an absolute path, and so no other key of a cache. -/
theorem rootFor_ofFolders (h : (ofFolders folders).rootFor path = some w) :
    w ≠ [] ∧ w ≠ RoleCache.commonKey := by
  have hmem : w ∈ folders.map Path.absolute := rootFor_mem h
  obtain ⟨folder, -, rfl⟩ := List.mem_map.mp hmem
  obtain ⟨ns, hw | hw⟩ := Path.absolute_cases folder
  all_goals
    rw [hw]
    constructor
    · apply List.cons_ne_nil
    · intro heq
      cases heq

/-- Around a document that lies in some folder, the one that it belongs to has the longest path. -/
theorem exists_rootFor {workspace : Workspace} (hmem : d ∈ workspace.folders)
    (hd : Path.isWithin path d = true) : ∃ w, workspace.rootFor path = some w ∧
      Path.isWithin path w = true ∧
      ∀ e ∈ workspace.folders, Path.isWithin path e = true → e.length ≤ w.length := by
  have haround : ∀ e, e ∈ workspace.folders.filter (fun f => Path.isWithin path f) ↔
      e ∈ workspace.folders ∧ Path.isWithin path e = true := fun e => List.mem_filter
  rw [rootFor]
  split
  -- the first of the longest folders around the path
  case h_1 first others hfilter =>
    rw [hfilter] at haround
    exact ⟨_, rfl, ((haround _).mp (longest_mem first others)).2, fun e he hin =>
      length_le_longest first others e ((haround e).mpr ⟨he, hin⟩)⟩
  -- `d` is itself around the path, so the list is not empty
  case h_2 hnone => exact absurd ((haround d).mpr ⟨hmem, hd⟩) (hnone ▸ List.not_mem_nil)

theorem rootFor_eq_head? {workspace : Workspace}
    (h : ∀ d ∈ workspace.folders, Path.isWithin path d = false) :
    workspace.rootFor path = workspace.folders.head? := by
  have hnone : workspace.folders.filter (fun f => Path.isWithin path f) = [] :=
    List.filter_eq_nil_iff.mpr fun d hd => by rw [h d hd]; exact Bool.false_ne_true
  rw [rootFor, hnone]

/-! ## The innermost folder -/

/-- Of the folders that are open, the one is the innermost around the path: the path lies within it,
    and it lies within every folder that the path lies within. -/
structure IsInnermost (folders : List Text) (path d : Text) : Prop where
  mem : d ∈ folders
  isWithin : Path.isWithin path d = true
  isWithin_of_mem : ∀ e ∈ folders, Path.isWithin path e = true → Path.isWithin d e = true

theorem isWithin_absolute (hd : Path.root d = ['/']) :
    Path.isWithin path (Path.absolute d) = Path.isWithin path d := by
  obtain ⟨ds, hds⟩ := Path.exists_absolute_of_root hd
  rw [Path.isWithin, Path.isWithin, hds, Path.absolute_rooted]

theorem exists_isInnermost (hfolders : ∀ d ∈ folders, Path.root d = ['/']) (hmem : d ∈ folders)
    (hd : Path.isWithin path d = true) : ∃ d, IsInnermost folders path d ∧
      (ofFolders folders).rootFor path = some (Path.absolute d) := by
  have hin : ∀ e ∈ folders, Path.isWithin path (Path.absolute e) = Path.isWithin path e :=
    fun e he => isWithin_absolute (hfolders e he)
  have hopen : ∀ e ∈ folders, Path.absolute e ∈ (ofFolders folders).folders :=
    fun e he => List.mem_map_of_mem he
  obtain ⟨w, hroot, hpath, hlongest⟩ := exists_rootFor (hopen d hmem) ((hin d hmem).trans hd)
  obtain ⟨c, hc, rfl⟩ := List.mem_map.mp (rootFor_mem hroot)
  rw [hin c hc] at hpath
  refine ⟨c, ⟨hc, hpath, fun e he hpath' => ?_⟩, hroot⟩
  exact isWithin_of_length_le (hfolders c hc) (hfolders e he) hpath hpath'
    (hlongest _ (hopen e he) ((hin e he).trans hpath'))

theorem rootFor_eq_none_iff {workspace : Workspace} :
    workspace.rootFor path = none ↔ workspace.folders = [] := by
  by_cases h : ∃ d ∈ workspace.folders, Path.isWithin path d = true
  · obtain ⟨d, hmem, hd⟩ := h
    obtain ⟨w, hroot, -⟩ := exists_rootFor hmem hd
    simp [hroot, List.ne_nil_of_mem hmem]
  · simp only [not_exists, not_and, Bool.not_eq_true] at h
    rw [rootFor_eq_head? h, List.head?_eq_none_iff]

/-- Containment, and the folder of a document, for absolute paths that do not have two slashes for
    their root. A path lies within a directory exactly if the components of the normal form of the
    directory are the first ones of that of the path. A document belongs to the normal form of one of
    the folders: of the innermost one around it if it lies in any of them, and otherwise of the first
    one; it belongs to none exactly if there are no folders. -/
theorem rootFor_innermost (folders : List Text) (path : Text)
    (hfolders : ∀ d ∈ folders, Path.root d = ['/']) :
    (∀ p d, Path.root p = ['/'] → Path.root d = ['/'] → (Path.isWithin p d = true ↔
      Path.parts (Path.absolute d) <+: Path.parts (Path.absolute p))) ∧
    ((∃ d ∈ folders, Path.isWithin path d = true) → ∃ d, IsInnermost folders path d ∧
      (ofFolders folders).rootFor path = some (Path.absolute d)) ∧
    ((∀ d ∈ folders, Path.isWithin path d = false) →
      (ofFolders folders).rootFor path = folders.head?.map Path.absolute) ∧
    ((ofFolders folders).rootFor path = none ↔ folders = []) := by
  refine ⟨fun p d hp hd => ?_, ?_, fun hout => ?_, ?_⟩
  -- Parts are compared name by name, and so are the normal forms.
  · obtain ⟨ns, hns⟩ := Path.exists_absolute_of_root hp
    obtain ⟨ds, hds⟩ := Path.exists_absolute_of_root hd
    rw [Path.isWithin_iff_names hns hds, hns, hds, Path.parts_rooted, Path.parts_rooted,
      List.prefix_map_iff_of_injective fun n m h => Path.Name.ext h]
  · rintro ⟨d, hmem, hd⟩
    exact exists_isInnermost hfolders hmem hd
  -- No folder has the path in it, so that the first one is taken.
  · rw [rootFor_eq_head?]
    · exact List.head?_map
    · intro w hw
      obtain ⟨d, hd, rfl⟩ := List.mem_map.mp hw
      rw [isWithin_absolute (hfolders d hd), hout d hd]
  · rw [rootFor_eq_none_iff]
    exact List.map_eq_nil_iff

end

/-! ### Folders inside each other -/

namespace Sample

/-- Two folders inside each other, the inner one written with a detour, the root around both, and a
    folder beside them whose name begins in the same way. -/
def nestedFolders : List Text := ["/w/app", "/", "/w/x/../app-2/roles/", "/w/app-2"]

end Sample

attribute [local instance] Path.atRoot in
/-- A document in all but the first of the folders belongs to the one with the detour. -/
theorem rootFor_nested : ∃ d,
    IsInnermost Sample.nestedFolders "/w/app-2/roles/web/tasks/main.yml" d ∧
      Path.absolute d = "/w/app-2/roles".toList ∧
      (ofFolders Sample.nestedFolders).rootFor "/w/app-2/roles/web/tasks/main.yml" =
        some "/w/app-2/roles".toList := by
  have hroots : ∀ d ∈ Sample.nestedFolders, Path.root d = ['/'] := by
    simp [Sample.nestedFolders, Path.root]
  obtain ⟨-, hinnermost, -, -⟩ :=
    rootFor_innermost Sample.nestedFolders "/w/app-2/roles/web/tasks/main.yml" hroots
  obtain ⟨d, hd, hroot⟩ := hinnermost ⟨"/", by simp [Sample.nestedFolders], by decide⟩
  have hfolder : (ofFolders Sample.nestedFolders).rootFor "/w/app-2/roles/web/tasks/main.yml" =
      some "/w/app-2/roles".toList := by decide
  rw [hfolder] at hroot
  exact ⟨d, hd, (Option.some.inj hroot).symm, hfolder⟩

end PlaybookAssist.Workspace
