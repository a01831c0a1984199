import PlaybookAssist.Proofs.Role.Directory

/-!
# The child of a directory around a path

A path strictly below a directory lies within one direct child of the directory, and within no other
one. That child is the role that the path belongs to, and a path anywhere else has no role in the
directory, however the two are written.

## Main definitions

- `Path.StrictlyBelow` : a path below a directory that is not the directory itself
- `Path.IsChild` : a direct child of a directory
- `Role.IsOwner` : the one child of a directory that a path lies within

## Main statements

- `Path.root_absolute` : what a path begins with, seen from the working directory
- `Path.absolute_join` : a name joined to a directory, however the directory is written
- `Path.IsChild.absolute_eq` : a path lies within at most one child of a directory
- `Role.ownerIn?_eq_some_iff_isOwner` : a path belongs to its owner
- `Role.isSome_ownerIn?_iff` : which paths have an owner
- `Role.IsOwner.absolute_eq_of_same`, `Role.IsOwner.apart` : other spellings, and other directories
- `Role.owned_by_only_child` : the role of a directory that a path belongs to
-/

namespace PlaybookAssist.Path

variable [Place] {a c d e p : Text} {ds ns : List Name}

/-! ## Normal forms -/

/-- A path that starts with one slash leads, in its normal form, along its own components. -/
theorem absolute_eq_rooted_iff (h : root p = ['/']) :
    absolute p = rooted ns ↔ components p = ns.map Name.text := by
  have habsolute := isAbsolute_of_root h
  obtain ⟨ms, hms, ⟨-, hnormal⟩ | ⟨hdouble, -⟩⟩ := normalise_of_isAbsolute habsolute
  · rw [absolute, habsolute, if_pos rfl, hnormal, hms, rooted_injective.eq_iff]
    exact (List.map_injective_iff.mpr fun n m hnm => Name.ext hnm).eq_iff.symm
  · rw [h] at hdouble
    cases hdouble

/-- The normal form has the slashes at its front that the path has; a relative path has those of the
    working directory. -/
theorem root_absolute (p : Text) :
    root (absolute p) = root (if isAbsolute p then p else Place.workingDirectory) := by
  have hnormal : ∀ q : Text, isAbsolute q = true → root (normalise q) = root q := by
    intro q hq
    obtain ⟨ns, -, ⟨hroot, hns⟩ | ⟨hroot, hns⟩⟩ := normalise_of_isAbsolute hq
    · rw [hns, hroot, root_rooted]
    · rw [hns, hroot, root_slash_rooted]
  rw [absolute]
  split
  case isTrue h => exact hnormal p h
  case isFalse h =>
    -- What is joined to the working directory comes behind its slashes.
    have hfront := front_join (Bool.eq_false_iff.mpr h) Place.workingDirectory
    have habsolute := (isAbsolute_of_front hfront).trans Place.workingDirectory_isAbsolute
    rw [hnormal _ habsolute, root_of_front hfront]

/-- A path that does not begin with two slashes in its normal form leads along names. -/
theorem exists_names_of_root_absolute (h : root (absolute p) = ['/']) :
    ∃ ns, absolute p = rooted ns := by
  obtain ⟨ns, hns | hns⟩ := absolute_cases p
  · exact ⟨ns, hns⟩
  · rw [hns, root_slash_rooted] at h
    cases h

/-- However a directory is written, joining a name to it leads one name further. -/
theorem absolute_join (hd : root d = ['/']) (hds : absolute d = rooted ds) (n : Name) :
    absolute (join d n.text) = rooted (ds ++ [n]) := by
  have hroot : root (join d n.text) = ['/'] := by
    rw [root_of_front (front_join (isAbsolute_name n) d), hd]
  have hcomponents := components_join (isAbsolute_of_root hd) [n]
  rw [(absolute_eq_rooted_iff hd).mp hds] at hcomponents
  apply (absolute_eq_rooted_iff hroot).mpr
  rw [List.map_append]
  exact hcomponents

/-! ## Below a directory -/

/-- The path lies strictly below the directory: what stands between the slashes of the directory's
    normal form comes first in that of the path, and more follows. -/
def StrictlyBelow (d p : Text) : Prop :=
  parts (absolute d) <+: parts (absolute p) ∧ parts (absolute d) ≠ parts (absolute p)

/-- The path is a direct child of the directory: its normal form is that of the directory and one
    more name. -/
def IsChild (d c : Text) : Prop :=
  ∃ n : Name, absolute c = join (absolute d) n.text

theorem strictlyBelow_iff (hd : absolute d = rooted ds) (hp : absolute p = rooted ns) :
    StrictlyBelow d p ↔ ∃ n rest, ns = ds ++ n :: rest := by
  have hinjective : Function.Injective Name.text := fun n m hnm => Name.ext hnm
  rw [StrictlyBelow, hd, hp, parts_rooted, parts_rooted,
    List.prefix_map_iff_of_injective hinjective]
  constructor
  · rintro ⟨⟨rest, rfl⟩, hne⟩
    cases rest with
    | nil => exact absurd (by rw [List.append_nil]) hne
    | cons n rest => exact ⟨n, rest, rfl⟩
  · rintro ⟨n, rest, rfl⟩
    refine ⟨List.prefix_append _ _, fun hsame => ?_⟩
    simpa using congrArg List.length hsame

theorem isChild_iff (hd : absolute d = rooted ds) :
    IsChild d c ↔ ∃ n, absolute c = rooted (ds ++ [n]) := by
  simp only [IsChild, hd, join_rooted]

theorem isWithin_of_isChild (hd : absolute d = rooted ds) (hc : IsChild d c) :
    isWithin c d = true := by
  obtain ⟨n, hn⟩ := (isChild_iff hd).mp hc
  exact (isWithin_iff_names hn hd).mpr (List.prefix_append ds [n])

/-- A child has more names than the directory. -/
theorem IsChild.absolute_ne (hd : absolute d = rooted ds) (hc : IsChild d c) :
    absolute c ≠ absolute d := by
  obtain ⟨n, hn⟩ := (isChild_iff hd).mp hc
  rw [hn, hd]
  intro hsame
  simpa using congrArg List.length (rooted_injective hsame)

/-- What has a child that leads along names leads along names itself. -/
theorem IsChild.exists_names (hd : absolute d = rooted ds) (h : IsChild a d) :
    ∃ ns, absolute a = rooted ns := by
  obtain ⟨n, hn⟩ := h
  apply exists_names_of_root_absolute
  -- Joining keeps the slashes at the front, and those of the child are known.
  rw [← root_of_front (front_join (isAbsolute_name n) (absolute a)), ← hn, hd, root_rooted]

/-- A path lies within at most one child of a directory. -/
theorem IsChild.absolute_eq (hd : absolute d = rooted ds) (hp : absolute p = rooted ns)
    (hc : IsChild d c) (he : IsChild d e) (hpc : isWithin p c = true) (hpe : isWithin p e = true) :
    absolute c = absolute e := by
  obtain ⟨n, hn⟩ := (isChild_iff hd).mp hc
  obtain ⟨m, hm⟩ := (isChild_iff hd).mp he
  rw [isWithin_iff_names hp hn] at hpc
  rw [isWithin_iff_names hp hm] at hpe
  -- Both are the first names of the path, and equally many.
  have hlength : (ds ++ [n]).length = (ds ++ [m]).length := by simp
  have hprefix := List.prefix_of_prefix_length_le hpc hpe (Nat.le_of_eq hlength)
  rw [hn, hm, hprefix.eq_of_length hlength]

/-- A path within one child of a directory lies within no other one. -/
theorem IsChild.not_isWithin (hd : absolute d = rooted ds) (hp : absolute p = rooted ns)
    (hc : IsChild a d) (he : IsChild a e) (hne : absolute e ≠ absolute d)
    (h : isWithin p d = true) : isWithin p e = false := by
  obtain ⟨as, has⟩ := hc.exists_names hd
  apply Bool.eq_false_iff.mpr
  intro hpe
  exact hne (he.absolute_eq has hp hc hpe h)

end PlaybookAssist.Path

namespace PlaybookAssist.Role

open PlaybookAssist.Path (Name rooted)

section

variable [Place] {above d d' e p p' role role' : Text} {ds ps : List Name}

/-! ## The owner of a path -/

/-- The role is the one child of the directory that the path lies within: it is the directory with
    one more name, which is not empty and neither `.` nor `..`, and whatever direct child of the
    directory the path lies within, in any spelling, has its normal form. -/
structure IsOwner (d p role : Text) : Prop where
  exists_name : ∃ n : Name, role = Path.join d n.text
  isChild : Path.IsChild d role
  isWithin : Path.isWithin p role = true
  absolute_eq : ∀ c, Path.IsChild d c → Path.isWithin p c = true →
    Path.absolute c = Path.absolute role

/-- The role of a directory that a path belongs to is named by the first name that follows those of
    the directory. -/
theorem ownerIn?_eq_some_iff_names (hd : Path.absolute d = rooted ds)
    (hp : Path.absolute p = rooted ps) :
    ownerIn? d p = some role ↔ ∃ n rest, ps = ds ++ n :: rest ∧ role = Path.join d n.text := by
  have hds : Path.components (Path.absolute d) = ds.map Name.text := by
    rw [hd, Path.components_rooted]
  have hps : Path.components (Path.absolute p) = ps.map Name.text := by
    rw [hp, Path.components_rooted]
  constructor
  · intro h
    have hwithin := isWithin_of_ownerIn? h
    -- Within the directory the names of the path go on, and the first of them is the role.
    obtain ⟨rest, rfl⟩ := (Path.isWithin_iff_names hp hd).mp hwithin
    rw [ownerIn?_of_names hwithin hds hps] at h
    obtain ⟨n, hn, rfl⟩ := Option.map_eq_some_iff.mp h
    obtain ⟨rest, rfl⟩ := List.head?_eq_some_iff.mp hn
    exact ⟨n, rest, rfl, rfl⟩
  -- Back again, for a path with at least one more name.
  · rintro ⟨n, rest, rfl, rfl⟩
    have hwithin : Path.isWithin p d = true :=
      (Path.isWithin_iff_names hp hd).mpr (List.prefix_append _ _)
    rw [ownerIn?_of_names hwithin hds hps]
    rfl

/-- So is the one child of the directory that the path lies within. -/
theorem isOwner_iff_names (hroot : Path.root d = ['/']) (hd : Path.absolute d = rooted ds)
    (hp : Path.absolute p = rooted ps) :
    IsOwner d p role ↔ ∃ n rest, ps = ds ++ n :: rest ∧ role = Path.join d n.text := by
  have hjoin := Path.absolute_join hroot hd
  constructor
  · intro h
    obtain ⟨n, rfl⟩ := h.exists_name
    obtain ⟨rest, rfl⟩ := (Path.isWithin_iff_names hp (hjoin n)).mp h.isWithin
    exact ⟨n, rest, by rw [List.append_assoc, List.singleton_append], rfl⟩
  · -- The first name that follows makes a child, and no other child is around the path.
    rintro ⟨n, rest, rfl, rfl⟩
    have hchild : Path.IsChild d (Path.join d n.text) := (Path.isChild_iff hd).mpr ⟨n, hjoin n⟩
    have hwithin : Path.isWithin p (Path.join d n.text) = true := by
      apply (Path.isWithin_iff_names hp (hjoin n)).mpr
      exact ⟨rest, by rw [List.append_assoc, List.singleton_append]⟩
    exact ⟨⟨n, rfl⟩, hchild, hwithin, fun c hc hpc => hc.absolute_eq hd hp hchild hpc hwithin⟩

theorem ownerIn?_eq_some_iff_isOwner (hroot : Path.root d = ['/'])
    (hp : Path.absolute p = rooted ps) : ownerIn? d p = some role ↔ IsOwner d p role := by
  obtain ⟨ds, hd⟩ := Path.exists_absolute_of_root hroot
  rw [ownerIn?_eq_some_iff_names hd hp, isOwner_iff_names hroot hd hp]

/-- A path belongs to a role of the directory exactly if it lies strictly below the directory. -/
theorem isSome_ownerIn?_iff (hd : Path.absolute d = rooted ds) (hp : Path.absolute p = rooted ps) :
    (ownerIn? d p).isSome ↔ Path.StrictlyBelow d p := by
  rw [Option.isSome_iff_exists, Path.strictlyBelow_iff hd hp]
  constructor
  · rintro ⟨role, h⟩
    obtain ⟨n, rest, hnames, -⟩ := (ownerIn?_eq_some_iff_names hd hp).mp h
    exact ⟨n, rest, hnames⟩
  · rintro ⟨n, rest, hnames⟩
    exact ⟨_, (ownerIn?_eq_some_iff_names hd hp).mpr ⟨n, rest, hnames, rfl⟩⟩

/-- Another spelling of the directory and the path is at most another spelling of the owner. -/
theorem IsOwner.absolute_eq_of_same (h : IsOwner d p role) (h' : IsOwner d' p' role')
    (hd : Path.absolute d' = Path.absolute d) (hp : Path.absolute p' = Path.absolute p) :
    Path.absolute role' = Path.absolute role := by
  apply h.absolute_eq
  · show ∃ n : Name, Path.absolute role' = Path.join (Path.absolute d) n.text
    rw [← hd]
    exact h'.isChild
  · rw [Path.isWithin, ← hp]
    exact h'.isWithin

/-- Neither a path nor its owner lies within a directory beside the one that has the owner. -/
theorem IsOwner.apart (h : IsOwner d p role) (hd : Path.absolute d = rooted ds)
    (hp : Path.absolute p = rooted ps) (hpd : Path.isWithin p d = true)
    (habove : Path.IsChild above d) (he : Path.IsChild above e)
    (hne : Path.absolute e ≠ Path.absolute d) :
    Path.isWithin p e = false ∧ Path.isWithin role e = false := by
  obtain ⟨n, hrole⟩ := (Path.isChild_iff hd).mp h.isChild
  constructor
  · exact habove.not_isWithin hd hp he hne hpd
  · exact habove.not_isWithin hd hrole he hne (Path.isWithin_of_isChild hd h.isChild)

/-- The role of a directory that a path belongs to, where neither of the two begins with exactly two
    slashes; the path may be relative, if the working directory does not begin so either. There is
    one exactly if the path lies strictly below the directory, and it is the one direct child of the
    directory that the path lies within. So it is the same in every spelling, it is not the
    directory itself, and neither it nor the path lies within a directory beside that one, whatever
    name the other has. -/
theorem owned_by_only_child (hd : Path.root d = ['/']) (hp : Path.root (Path.absolute p) = ['/']) :
    ((ownerIn? d p).isSome ↔ Path.StrictlyBelow d p) ∧
    (∀ role, ownerIn? d p = some role ↔ IsOwner d p role) ∧
    ∀ role, ownerIn? d p = some role →
      (∀ d' p' role', Path.root d' = ['/'] → Path.absolute d' = Path.absolute d →
        Path.absolute p' = Path.absolute p → ownerIn? d' p' = some role' →
        Path.absolute role' = Path.absolute role) ∧
      Path.absolute role ≠ Path.absolute d ∧
      ∀ above e, Path.IsChild above d → Path.IsChild above e →
        Path.absolute e ≠ Path.absolute d →
        Path.isWithin p e = false ∧ Path.isWithin role e = false := by
  obtain ⟨ds, hds⟩ := Path.exists_absolute_of_root hd
  obtain ⟨ps, hps⟩ := Path.exists_names_of_root_absolute hp
  have howns : ∀ role, ownerIn? d p = some role ↔ IsOwner d p role :=
    fun role => ownerIn?_eq_some_iff_isOwner hd hps
  -- The owner of a path is the child of the directory that the path goes through.
  refine ⟨isSome_ownerIn?_iff hds hps, howns, fun role h => ?_⟩
  have howner := (howns role).mp h
  refine ⟨?_, howner.isChild.absolute_ne hds, ?_⟩
  · intro d' p' role' hd' hsame hsame' h'
    have howner' := (ownerIn?_eq_some_iff_isOwner hd' (hsame'.trans hps)).mp h'
    exact howner.absolute_eq_of_same howner' hsame hsame'
  -- Anything beside the directory has another name there, and the path does not go through it.
  · intro above e habove he hne
    exact howner.apart hds hps (isWithin_of_ownerIn? h) habove he hne

end

/-! ### A directory with a detour -/

namespace Sample

/-- A directory of roles, written with a detour and slashes at its end. -/
def detour : Text := "/ws/x/../roles//"

/-- A file of a role in it, with detours of its own. -/
def roleFile : Text := "/ws//roles/./web/tasks/../main.yml"

end Sample

attribute [local instance] Path.atRoot in
/-- The file belongs to the one role that it lies within, and not to the directory beside, whose
    name begins in the same way. -/
theorem owned_by_web :
    Path.root Sample.detour = ['/'] ∧ Path.root (Path.absolute Sample.roleFile) = ['/'] ∧
    Path.StrictlyBelow Sample.detour Sample.roleFile ∧
    ownerIn? Sample.detour Sample.roleFile = some "/ws/x/../roles//web".toList ∧
    IsOwner Sample.detour Sample.roleFile "/ws/x/../roles//web" ∧
    Path.isWithin Sample.roleFile "/ws/roles-2" = false ∧
    Path.isWithin "/ws/x/../roles//web" "/ws/roles-2" = false := by
  have hroot : Path.root Sample.detour = ['/'] := by decide
  have hroot' : Path.root (Path.absolute Sample.roleFile) = ['/'] := by
    rw [Path.root_absolute]
    -- Both sides of the ownership are spelled in different ways, and name the same path.
    decide
  obtain ⟨hbelow, howns, hroles⟩ := owned_by_only_child hroot hroot'
  have howner : ownerIn? Sample.detour Sample.roleFile = some "/ws/x/../roles//web".toList := by
    decide
  obtain ⟨-, -, hbeside⟩ := hroles _ howner
  -- Both are children of one directory.
  have hchild : Path.IsChild "/ws" Sample.detour := ⟨rolesName, by decide⟩
  have hchild' : Path.IsChild "/ws" "/ws/roles-2" :=
    ⟨⟨"roles-2", by decide, by decide, by decide, by decide⟩, by decide⟩
  exact ⟨hroot, hroot', hbelow.mp (howner ▸ rfl), howner, (howns _).mp howner,
    hbeside "/ws" "/ws/roles-2" hchild hchild' (by decide)⟩

end PlaybookAssist.Role
