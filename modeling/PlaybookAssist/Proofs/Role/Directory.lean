import PlaybookAssist.Proofs.Files.Search
import PlaybookAssist.Proofs.Path.Relative
import PlaybookAssist.Role.Directory

/-!
# Where roles lie

The directories found below a workspace are named `roles`, and a path belongs to a role of such a
directory exactly if it lies below the directory: its role is the entry of the directory on the way.

## Main statements

- `Role.exists_of_mem_directoriesBelow` : what is found below a workspace
- `Role.isNormal_of_mem_directoriesBelow` : whatever the workspace, it is found at a normal path
- `Role.below_of_mem_directoriesBelow` : it is found below the workspace
- `Role.exists_of_ownerIn?`, `Role.ownerIn?_eq_some_iff` : the role of a directory that a path
  belongs to
-/

namespace PlaybookAssist.Role

open PlaybookAssist.FileTree (anyDepthName)
open PlaybookAssist.Path (Name rooted)

/-- The name of a directory that holds roles, as a component of a path. -/
def rolesName : Name :=
  ⟨directoryName, by decide, by decide, by decide, by decide⟩

variable [Place] {fs : FileTree} {ds ws ns : List Name} {n : Name}
  {dirs : List Text} {d p role : Text}

/-! ## Discovery -/

omit [Place] in
theorem isPlain_pattern (ws : List Name) :
    Wildcard.isPlain (rooted ((ws ++ [anyDepthName]) ++ [rolesName])) = false := by
  apply FileTree.isPlain_of_star
  rw [Path.rooted_concat, Path.stem_append]
  exact List.mem_append_left _ (List.mem_append_right _ (by decide))

/-- A directory below a workspace is found by its name at any depth. -/
theorem exists_found {w : Text} (hw : w ≠ []) (h : directoriesBelow fs (some w) = .ok dirs)
    (hd : d ∈ dirs) : ∃ found q,
      fs.search (Path.join (Path.join w FileTree.anyDepth) directoryName) = .ok found ∧ q ∈ found ∧
        d = Path.absolute q ∧ fs.isDirectory q = true := by
  have hempty : w.isEmpty = false := by simpa using hw
  simp only [directoriesBelow, hempty, Bool.false_eq_true, if_false] at h
  cases hfound : fs.search (Path.join (Path.join w FileTree.anyDepth) directoryName) with
  | error err =>
    rw [hfound] at h
    cases h
  | ok found =>
    rw [hfound] at h
    cases h
    obtain ⟨q, hq, rfl⟩ := List.mem_map.mp hd
    obtain ⟨hq, hkeep⟩ := List.mem_filter.mp hq
    rw [Bool.and_eq_true] at hkeep
    exact ⟨found, q, rfl, Text.mem_sort.mp hq, rfl, hkeep.2⟩

/-- A directory found below a workspace lies at a path from the root that ends in `roles`. -/
theorem exists_of_mem_directoriesBelow (hs : fs.Sound)
    (h : directoriesBelow fs (some (rooted ws)) = .ok dirs) (hd : d ∈ dirs) :
    (∃ ds, d = rooted (ds ++ [rolesName])) ∧ fs.isDirectory d = true := by
  have hpattern : Path.join (Path.join (rooted ws) FileTree.anyDepth) directoryName =
      rooted ((ws ++ [anyDepthName]) ++ [rolesName]) := by
    rw [← Path.join_rooted, ← Path.join_rooted]
    rfl
  have hne : rooted ws ≠ [] := List.cons_ne_nil _ _
  obtain ⟨found, q, hfound, hq, rfl, hdirectory⟩ := exists_found hne h hd
  rw [hpattern] at hfound
  obtain ⟨ms, rfl⟩ := hs.searchFrom_concat (isPlain_pattern ws) (by decide) hfound hq
  rw [Path.absolute_rooted]
  exact ⟨⟨ms, rfl⟩, hdirectory⟩

/-- A directory found below a workspace lies at a path of normal form, however the path of the
    workspace is written. -/
theorem isNormal_of_mem_directoriesBelow {w : Text} (hs : fs.Sound) (hw : Path.root w = ['/'])
    (h : directoriesBelow fs (some w) = .ok dirs) (hd : d ∈ dirs) : Path.IsNormal d := by
  have hne : w ≠ [] := by
    rintro rfl
    cases hw
  -- the search leaves the slashes in front of the workspace as they are
  have hfront : Path.front (Path.join (Path.join w FileTree.anyDepth) directoryName) =
      Path.front w := by
    rw [Path.front_join rfl, Path.front_join rfl]
  have habsolute := (Path.isAbsolute_of_front hfront).trans (Path.isAbsolute_of_root hw)
  obtain ⟨found, q, hfound, hmem, rfl, -⟩ := exists_found hne h hd
  have hq : Path.front q = Path.front w :=
    (hs.front_of_searchFrom habsolute hfound hmem).trans hfront
  have hroot : Path.root q = ['/'] := (Path.root_of_front hq).trans hw
  obtain ⟨ns, hns⟩ := Path.exists_normalise_of_root hroot
  rw [Path.absolute, Path.isAbsolute_of_root hroot, if_pos rfl]
  exact Path.isNormal_iff.mpr ⟨ns, hns⟩

/-- A directory found below a workspace leads along names from it, if the path of the workspace is
    itself no pattern. -/
theorem below_of_mem_directoriesBelow {w : Text} (hs : fs.Sound) (hw : Path.isAbsolute w = true)
    (hplain : Wildcard.isPlain w = true) (h : directoriesBelow fs (some w) = .ok dirs)
    (hd : d ∈ dirs) : Path.Below w d := by
  have hne : w ≠ [] := by
    rintro rfl
    cases hw
  obtain ⟨found, q, hfound, hq, rfl, -⟩ := exists_found hne h hd
  have hbelow : Path.Below w q := @FileTree.Sound.below_of_anyDepth _ _ _ _ rolesName _ _ _ hs hw
    hplain hfound hq
  exact hbelow.absolute

/-- When what the search finds is in order, and all of it are directories of normal form that count,
    it is what is found. -/
theorem directoriesBelow_of_search {workspace : Text} {found : List Text}
    (hworkspace : workspace.isEmpty = false)
    (hfound : fs.search (Path.join (Path.join workspace FileTree.anyDepth) directoryName) =
      .ok found)
    (hsorted : found.Pairwise fun s t => Text.le s t = true)
    (hkeep : (found.filter fun p => !isIgnored (Text.splitOn '/' (Path.normalise p)) &&
      fs.isDirectory p).map Path.absolute = found) :
    directoriesBelow fs (some workspace) = .ok found := by
  simp only [directoriesBelow, hworkspace, Bool.false_eq_true, if_false, hfound]
  exact congrArg Except.ok (by rw [Text.sort_eq_self hsorted, hkeep])

/-! ## Owners -/

theorem isWithin_of_ownerIn? (h : ownerIn? d p = some role) : Path.isWithin p d = true := by
  by_contra hout
  rw [ownerIn?, Bool.eq_false_iff.mpr hout] at h
  cases h

/-- The role of a directory that a path belongs to is named by the first name on the way. -/
theorem ownerIn?_of_names (hwithin : Path.isWithin p d = true)
    (hd : Path.components (Path.absolute d) = ds.map Name.text)
    (hp : Path.components (Path.absolute p) = (ds ++ ns).map Name.text) :
    ownerIn? d p = ns.head?.map fun n => Path.join d n.text := by
  rw [ownerIn?, hwithin, Path.relativeTo_of_names hd hp]
  -- The way from the directory is the names after it; the first of them is the role.
  cases ns with
  | nil => rfl
  | cons n ns =>
    have hsplit : Text.splitOn '/' (Text.joinWith ['/'] ((n :: ns).map Name.text)) =
        (n :: ns).map Name.text :=
      Text.splitOn_joinWith (by simp) Path.not_mem_slash_of_mem
    -- It is not the directory itself, for that is written as one dot.
    have hhere : Text.joinWith ['/'] ((n :: ns).map Name.text) ≠ ['.'] := by
      intro h
      rw [h] at hsplit
      have hname : ['.'] = n.text := (List.cons.inj hsplit).1
      exact n.ne_here hname.symm
    simp only [Bool.not_true, Bool.false_eq_true, if_false, reduceCtorEq, if_neg hhere, hsplit]
    rfl

/-- Whatever directory a path is in, the role that it belongs to is the directory with one more
    name. -/
theorem exists_of_ownerIn? (h : ownerIn? d p = some role) :
    ∃ n : Name, role = Path.join d n.text := by
  have hwithin := isWithin_of_ownerIn? h
  obtain ⟨ds, ns, hd, hp⟩ := Path.exists_names_of_isWithin hwithin
  rw [ownerIn?_of_names hwithin hd hp] at h
  obtain ⟨n, -, rfl⟩ := Option.map_eq_some_iff.mp h
  exact ⟨n, rfl⟩

/-- The role of a directory that a path below the directory belongs to. -/
theorem ownerIn?_of_below (hp : Path.absolute p = rooted (ds ++ n :: ns)) :
    ownerIn? (rooted ds) p = some (rooted (ds ++ [n])) := by
  have hwithin : Path.isWithin p (rooted ds) = true := (Path.isWithin_rooted hp).mpr ⟨_, rfl⟩
  rw [ownerIn?_of_names hwithin (by rw [Path.absolute_rooted, Path.components_rooted])
    (by rw [hp, Path.components_rooted])]
  exact congrArg some (Path.join_rooted ds n)

/-- The role of a directory that a path belongs to: the entry of the directory on the way to the
    path. -/
theorem ownerIn?_eq_some_iff (hds : ds ≠ []) :
    ownerIn? (rooted ds) p = some role ↔
      ∃ n ns, Path.absolute p = rooted (ds ++ n :: ns) ∧ role = rooted (ds ++ [n]) := by
  constructor
  -- The path is within the directory, and has a name of its own there.
  · intro h
    have hwithin := isWithin_of_ownerIn? h
    obtain ⟨names, hp | hp⟩ := Path.absolute_cases p
    case inr => exact absurd hwithin (by simp [Path.isWithin_slash hp hds])
    obtain ⟨ms, rfl⟩ := (Path.isWithin_rooted hp).mp hwithin
    cases ms with
    | nil =>
      -- The directory is no role of its own.
      rw [List.append_nil] at hp
      rw [ownerIn?, hwithin, Path.relativeTo_self hp] at h
      cases h
    | cons n ns =>
      rw [ownerIn?_of_below hp] at h
      cases h
      exact ⟨n, ns, hp, rfl⟩
  · rintro ⟨n, ns, hp, rfl⟩
    exact ownerIn?_of_below hp

/-- The role that a path belongs to lies at a path of normal form if its directory does. -/
theorem isNormal_of_ownerIn? (hd : Path.IsNormal d) (h : ownerIn? d p = some role) :
    Path.IsNormal role := by
  obtain ⟨ds, rfl⟩ := Path.isNormal_iff.mp hd
  obtain ⟨n, rfl⟩ := exists_of_ownerIn? h
  exact Path.isNormal_iff.mpr ⟨ds ++ [n], Path.join_rooted ds n⟩

end PlaybookAssist.Role
