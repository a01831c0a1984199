import PlaybookAssist.Proofs.Path.Rooted

/-!
# Paths within paths

A path lies within a directory if its names begin with those of the directory, and the way from the
directory to the path consists of the names that follow.

## Main definitions

- `Path.parts` : what stands between the slashes of a path

## Main statements

- `Path.exists_names_of_isWithin` : how the names of any path and any directory around it compare
- `Path.isWithin_rooted` : containment is a prefix of names
- `Path.relativeTo_of_names` : the way to a path is what follows the prefix
-/

namespace PlaybookAssist.Path

theorem dropCommon_append (as bs : List Text) : dropCommon as (as ++ bs) = ([], bs) := by
  induction as with
  | nil => cases bs <;> rfl
  | cons a as ih => rw [List.cons_append, dropCommon, if_pos rfl, ih]

/-! ## Between the slashes -/

/-- What stands between the slashes of a path. -/
def parts (p : Text) : List Text :=
  (Text.splitOn '/' p).filter (· ≠ [])

theorem parts_append_slash (s t : Text) : parts (s ++ '/' :: t) = parts s ++ parts t := by
  rw [parts, Text.splitOn_append_cons, List.filter_append]
  rfl

/-- Slashes at the end have nothing between them. -/
theorem parts_trimEnd (p : Text) : parts (Text.trimEnd (· = '/') p) = parts p := by
  induction p using List.reverseRecOn with
  | nil => rfl
  | append_singleton p c ih =>
    by_cases hc : c = '/'
    · subst hc
      rw [trimEnd_slash, ih, parts_append_slash]
      exact (List.append_nil _).symm
    · rw [trimEnd_of_getLast? (by simpa using hc)]

variable [Place] {ns ms ds : List Name} {p d : Text}

omit [Place] in
theorem parts_stem (ns : List Name) : parts (stem ns) = ns.map Name.text := by
  have hnames : ∀ t ∈ ns.map Name.text, decide (t ≠ []) = true := by
    intro t ht
    obtain ⟨n, -, rfl⟩ := List.mem_map.mp ht
    exact decide_eq_true n.ne_nil
  rw [parts, splitOn_stem, List.filter_cons_of_neg (by simp), List.filter_eq_self.mpr hnames]

omit [Place] in
theorem parts_rooted (ns : List Name) : parts (rooted ns) = ns.map Name.text := by
  rw [← parts_trimEnd, trimEnd_rooted, parts_stem]

/-- Whether a path begins with one slash or with two, its names are what stands between them. -/
theorem exists_names_absolute (p : Text) : ∃ ns : List Name,
    components (absolute p) = ns.map Name.text ∧ parts (absolute p) = ns.map Name.text := by
  obtain ⟨ns, hp | hp⟩ := absolute_cases p
  · rw [hp]
    exact ⟨ns, components_rooted ns, parts_rooted ns⟩
  · rw [hp]
    refine ⟨ns, ?_, ?_⟩
    · rw [components_cons_slash (isAbsolute_rooted ns), components_rooted]
    · exact (parts_append_slash [] _).trans (parts_rooted ns)

/-- The names of a directory are the first names of whatever lies within it, whichever way the two
    paths begin. -/
theorem exists_names_of_isWithin (h : isWithin p d = true) : ∃ ds ms : List Name,
    components (absolute d) = ds.map Name.text ∧
      components (absolute p) = (ds ++ ms).map Name.text := by
  obtain ⟨ds, hds, hdparts⟩ := exists_names_absolute d
  obtain ⟨ns, hns, hnparts⟩ := exists_names_absolute p
  -- the same names where the paths are equal, and more of them behind a slash
  have hprefix : ds.map Name.text <+: ns.map Name.text := by
    rw [isWithin, Bool.or_eq_true, beq_iff_eq, Text.startsWith, List.isPrefixOf_iff_prefix] at h
    rcases h with hsame | ⟨rest, hrest⟩
    · have hnames : ns.map Name.text = ds.map Name.text := by rw [← hns, ← hds, hsame]
      exact hnames ▸ List.prefix_refl _
    · rw [← hnparts, ← hrest, List.append_assoc, List.singleton_append, parts_append_slash,
        parts_trimEnd, hdparts]
      exact List.prefix_append _ _
  obtain ⟨ms, rfl⟩ := (List.prefix_map_iff_of_injective fun n m h => Name.ext h).mp hprefix
  exact ⟨ds, ms, hds, hns⟩

/-! ## Containment -/

/-- A path that begins with two slashes lies within no directory below the root. -/
theorem isWithin_slash (hp : absolute p = '/' :: rooted ns) (hds : ds ≠ []) :
    isWithin p (rooted ds) = false := by
  obtain ⟨c, rest, hc, hstem⟩ := exists_cons_stem hds
  simp only [isWithin, hp, absolute_rooted, trimEnd_rooted]
  -- The second character decides.
  rw [rooted_eq_stem hds, hstem]
  simp [rooted, Text.startsWith, List.isPrefixOf_cons_cons, hc, Ne.symm hc]

theorem isWithin_rooted (hp : absolute p = rooted ns) :
    isWithin p (rooted ds) = true ↔ ds <+: ns := by
  constructor
  -- Within means the same start by names, and starts of names are prefixes.
  · intro h
    obtain ⟨ds', ms, hds, hns⟩ := exists_names_of_isWithin h
    rw [absolute_rooted, components_rooted] at hds
    rw [hp, components_rooted] at hns
    have hinjective := List.map_injective_iff.mpr fun (n m : Name) hnm => Name.ext hnm
    rw [hinjective hds, hinjective hns]
    exact List.prefix_append _ _
  -- Conversely the path is the directory, or goes on behind a slash.
  · rintro ⟨ms, rfl⟩
    simp only [isWithin, hp, absolute_rooted, trimEnd_rooted, Text.startsWith, Bool.or_eq_true,
      beq_iff_eq, List.isPrefixOf_iff_prefix]
    by_cases hms : ms = []
    · subst hms
      exact .inl (by rw [List.append_nil])
    · obtain ⟨c, rest, -, hstem⟩ := exists_cons_stem hms
      refine .inr ⟨c :: rest, ?_⟩
      rw [rooted_append ds hms, hstem]
      simp

/-- The way from a directory to a path in it consists of the names that follow; there is none to the
    directory itself. -/
theorem relativeTo_of_names (hd : components (absolute d) = ds.map Name.text)
    (hp : components (absolute p) = (ds ++ ms).map Name.text) :
    relativeTo d p = if ms = [] then ['.'] else Text.joinWith ['/'] (ms.map Name.text) := by
  rw [relativeTo, hd, hp, List.map_append, dropCommon_append]
  cases ms <;> rfl

/-- From a directory to itself. -/
theorem relativeTo_self (hp : absolute p = rooted ds) : relativeTo (rooted ds) p = ['.'] := by
  rw [← List.append_nil ds] at hp
  rw [relativeTo_of_names (by rw [absolute_rooted, components_rooted]) (by rw [hp, components_rooted]),
    if_pos rfl]

end PlaybookAssist.Path
