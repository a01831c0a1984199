import PlaybookAssist.Proofs.Path.Start
import PlaybookAssist.Proofs.Path.Within

/-!
# Ways between paths

The way from a directory to a path climbs out of the directory as far as the two have nothing more
in common, and then goes down. Followed from the directory it leads to the path, so it is different
for different paths.

## Main definitions

- `Path.IsNormal` : an absolute path in normal form, with a single slash at its front

## Main statements

- `Path.isNormal_iff` : such a path leads from the root along names
- `Path.isWithin_iff_names` : containment of paths in any spelling
- `Path.normalise_join_relativeTo` : the way from a directory leads back to the path
- `Path.relativeTo_injective` : different paths have different ways
-/

namespace PlaybookAssist.Path

/-- The path is absolute, has a single slash at its front and is in normal form. -/
structure IsNormal (p : Text) : Prop where
  root : Path.root p = ['/']
  normal : normalise p = p

variable {p q k d : Text} {parts taken : List Text} {ds ns : List Name}

theorem isAbsolute_of_root (h : root p = ['/']) : isAbsolute p = true := by
  unfold root at h
  split at h
  · rfl
  · cases h
  · rfl
  · cases h

/-- The normal form of a path with a single slash at its front leads along names. -/
theorem exists_normalise_of_root (h : root p = ['/']) : ∃ ns, normalise p = rooted ns := by
  obtain ⟨ns, -, ⟨-, hns⟩ | ⟨hdouble, -⟩⟩ := normalise_of_isAbsolute (isAbsolute_of_root h)
  · exact ⟨ns, hns⟩
  · rw [h] at hdouble
    cases hdouble

theorem isNormal_iff : IsNormal p ↔ ∃ ns, p = rooted ns := by
  constructor
  · intro h
    obtain ⟨ns, hns⟩ := exists_normalise_of_root h.root
    exact ⟨ns, h.normal.symm.trans hns⟩
  · rintro ⟨ns, rfl⟩
    exact ⟨root_rooted ns, normalise_rooted ns⟩

instance (p : Text) : Decidable (IsNormal p) :=
  decidable_of_iff (root p = ['/'] ∧ normalise p = p)
    ⟨fun h => ⟨h.1, h.2⟩, fun h => ⟨h.root, h.normal⟩⟩

/-! ## Following a way -/

/-- The parts of a directory and a way from it. -/
theorem splitOn_join (hne : parts ≠ []) (hslash : ∀ part ∈ parts, '/' ∉ part)
    (hparts : ∀ part ∈ parts, part ≠ []) :
    Text.splitOn '/' (join (rooted ds) (Text.joinWith ['/'] parts)) =
      [] :: (ds.map Name.text ++ parts) := by
  have hrelative := isAbsolute_joinWith hslash hparts
  have hsplit := Text.splitOn_joinWith hne hslash
  rw [join_of_relative hrelative (.inl rfl), Text.splitOn_append_cons, splitOn_stem, hsplit, List.cons_append]

/-- Climbing undoes as many names as there are steps up. -/
theorem foldl_step_up (up : List Name) (taken : List Text) :
    (List.replicate up.length (['.', '.'] : Text)).foldl (step true) (up.map Name.text ++ taken) =
      taken := by
  induction up with
  | nil => rfl
  | cons n up ih =>
    have hstep : step true ((n :: up).map Name.text ++ taken) ['.', '.'] =
        up.map Name.text ++ taken := by
      rw [List.map_cons, List.cons_append, step, if_neg (by simp), if_pos rfl]
      exact if_neg n.ne_up
    rw [List.length_cons, List.replicate_succ, List.foldl_cons, hstep, ih]

/-! ## What two paths have in common -/

theorem dropCommon_names (ds ns : List Name) : ∃ common up down,
    ds = common ++ up ∧ ns = common ++ down ∧
      dropCommon (ds.map Name.text) (ns.map Name.text) = (up.map Name.text, down.map Name.text) := by
  induction ds generalizing ns with
  | nil => exact ⟨[], [], ns, rfl, rfl, by cases ns <;> rfl⟩
  | cons d ds ih =>
    cases ns with
    | nil => exact ⟨[], d :: ds, [], rfl, rfl, rfl⟩
    | cons n ns =>
      -- equal names go on both sides, and the first difference ends what is common
      by_cases hdn : d = n
      · subst hdn
        obtain ⟨common, up, down, rfl, rfl, hdrop⟩ := ih ns
        refine ⟨d :: common, up, down, rfl, rfl, ?_⟩
        rw [List.map_cons, List.map_cons, dropCommon, if_pos rfl, hdrop]
      · refine ⟨[], d :: ds, n :: ns, rfl, rfl, ?_⟩
        rw [List.map_cons, List.map_cons, dropCommon, if_neg fun h => hdn (Name.ext h)]

variable [Place]

theorem exists_absolute_of_root (h : root p = ['/']) : ∃ ns, absolute p = rooted ns := by
  obtain ⟨ns, hns⟩ := exists_normalise_of_root h
  exact ⟨ns, by rw [absolute, isAbsolute_of_root h, if_pos rfl, hns]⟩

/-- Containment of paths in any spelling is a prefix of the names of their normal forms. -/
theorem isWithin_iff_names (hp : absolute p = rooted ns) (hd : absolute d = rooted ds) :
    isWithin p d = true ↔ ds <+: ns := by
  rw [← isWithin_rooted hp, isWithin, isWithin, hd, absolute_rooted]

/-- The parts of the way between two paths: steps up, then names, or the step that stays. -/
theorem relativeTo_eq (ds ns : List Name) : ∃ common up down parts,
    ds = common ++ up ∧ ns = common ++ down ∧
      relativeTo (rooted ds) (rooted ns) = Text.joinWith ['/'] parts ∧
      (parts = List.replicate up.length ['.', '.'] ++ down.map Name.text ∧ parts ≠ [] ∨
        parts = [['.']] ∧ up = [] ∧ down = []) := by
  obtain ⟨common, up, down, hds, hns, hdrop⟩ := dropCommon_names ds ns
  have hup : (up.map Name.text).map (fun _ => (['.', '.'] : Text)) =
      List.replicate up.length ['.', '.'] := by
    rw [List.map_map, List.map_eq_replicate_iff]
    exact fun _ _ => rfl
  simp only [relativeTo, absolute_rooted, components_rooted, hdrop, hup]
  -- Without anything to climb or to go down the way is the directory itself.
  split
  case h_1 hempty =>
    rw [List.append_eq_nil_iff] at hempty
    refine ⟨common, up, down, [['.']], hds, hns, rfl, .inr ⟨rfl, ?_, ?_⟩⟩
    · simpa using hempty.1
    · simpa using hempty.2
  case h_2 way hway =>
    exact ⟨common, up, down, _, hds, hns, rfl, .inl ⟨rfl, hway⟩⟩

/-- Followed from the directory, the way leads to the path. -/
theorem normalise_join_relativeTo (hd : IsNormal d) (hp : IsNormal p) :
    normalise (join d (relativeTo d p)) = p := by
  obtain ⟨ds, rfl⟩ := isNormal_iff.mp hd
  obtain ⟨ns, rfl⟩ := isNormal_iff.mp hp
  obtain ⟨common, up, down, parts, hds, hns, hway, hparts⟩ := relativeTo_eq ds ns
  -- The parts are steps up and names, so that joining them gives a relative path.
  have hne : parts ≠ [] := by
    rcases hparts with ⟨-, hne⟩ | ⟨rfl, -⟩
    · exact hne
    · simp
  have hproper : ∀ part ∈ parts, '/' ∉ part ∧ part ≠ [] := by
    intro part hpart
    rcases hparts with ⟨rfl, -⟩ | ⟨rfl, -⟩
    · rcases List.mem_append.mp hpart with hpart | hpart
      · rw [List.eq_of_mem_replicate hpart]
        decide
      · obtain ⟨n, -, rfl⟩ := List.mem_map.mp hpart
        exact ⟨n.not_mem_slash, n.ne_nil⟩
    · rw [List.mem_singleton.mp hpart]
      decide
  have hrelative := isAbsolute_joinWith (fun t ht => (hproper t ht).1) fun t ht => (hproper t ht).2
  have hfront := front_join hrelative (rooted ds)
  have habsolute := isAbsolute_of_front hfront
  have hsplit := @splitOn_join parts ds hne (fun t ht => (hproper t ht).1)
    fun t ht => (hproper t ht).2
  -- The steps up undo what the directory does not share, and the names lead on.
  have htaken : parts.foldl (step true) (ds.map Name.text).reverse = (ns.map Name.text).reverse := by
    have hds' : (ds.map Name.text).reverse =
        up.reverse.map Name.text ++ (common.map Name.text).reverse := by
      rw [hds, List.map_append, List.reverse_append, List.map_reverse]
    -- Either there are parts to follow, or the directory is the path already.
    rcases hparts with ⟨rfl, -⟩ | ⟨rfl, rfl, rfl⟩
    · have hclimb := foldl_step_up up.reverse (common.map Name.text).reverse
      rw [List.length_reverse] at hclimb
      rw [List.foldl_append, hds', hclimb, foldl_step_names, hns, List.map_append,
        List.reverse_append]
    · have hsame : ds = ns := by rw [hds, hns]
      rw [hsame]
      rfl
  -- The components of the joined path are those of the target.
  have hcomponents : components (join (rooted ds) (Text.joinWith ['/'] parts)) =
      ns.map Name.text := by
    have hempty : step true [] [] = [] := rfl
    rw [components, habsolute, isAbsolute_rooted, hsplit, List.foldl_cons, hempty,
      List.foldl_append, foldl_step_names, List.append_nil, htaken, List.reverse_reverse]
  rw [hway, normalise, root_of_front hfront, root_rooted, hcomponents]
  rfl

/-- Different paths have different ways from a directory. -/
theorem relativeTo_injective (hd : IsNormal d) (hp : IsNormal p) (hq : IsNormal q)
    (h : relativeTo d p = relativeTo d q) : p = q := by
  rw [← normalise_join_relativeTo hd hp, h, normalise_join_relativeTo hd hq]

end PlaybookAssist.Path
