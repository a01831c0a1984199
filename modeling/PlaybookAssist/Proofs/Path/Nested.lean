import PlaybookAssist.Proofs.Path.Start
import PlaybookAssist.Proofs.Path.Within

/-!
# Directories around a path

Of two directories around one path the one lies within the other. What is reached from an absolute
directory along names lies within it, however the directory is written.

## Main definitions

- `Path.Below` : a path that leads along names from a directory

## Main statements

- `Path.isWithin_or_isWithin` : two directories around one path
- `Path.Below.join`, `Path.Below.absolute`, `Path.below_parent_join` : what leads along names
- `Path.Below.isWithin` : it lies within the directory
- `Path.parent_join`, `Path.name_join` : taking apart what is joined
-/

namespace PlaybookAssist.Path

variable {p d e t : Text}

/-! ## Slashes at the end -/

theorem exists_slashes (p : Text) :
    ∃ slashes : Text, (∀ c ∈ slashes, c = '/') ∧ p = Text.trimEnd (· = '/') p ++ slashes := by
  obtain ⟨slashes, hslashes, hp⟩ := Text.exists_eq_trimEnd (· = '/') p
  exact ⟨slashes, fun c hc => of_decide_eq_true (hslashes c hc), hp⟩

/-- What is taken in after the last name of a path starts from the components so far. -/
theorem components_append_slash (h : isAbsolute (p ++ '/' :: t) = true) :
    components (p ++ '/' :: t) = ((Text.splitOn '/' t).foldl (step true)
      ((Text.splitOn '/' p).foldl (step true) [])).reverse := by
  rw [components, h, Text.splitOn_append_cons, List.foldl_append]

theorem isAbsolute_append (h : isAbsolute p = true) (t : Text) : isAbsolute (p ++ t) = true := by
  cases p with
  | nil => cases h
  | cons c p => exact h

theorem components_concat_slash (h : isAbsolute p = true) :
    components (p ++ ['/']) = components p := by
  have hempty : ∀ taken, step true taken [] = taken := fun taken => if_pos (.inl rfl)
  have hlast : Text.splitOn '/' [] = [[]] := rfl
  rw [components_append_slash (isAbsolute_append h _), components, h, hlast, List.foldl_cons,
    List.foldl_nil, hempty]

theorem components_append_slashes (h : isAbsolute p = true) (ht : ∀ c ∈ t, c = '/') :
    components (p ++ t) = components p := by
  induction t using List.reverseRecOn with
  | nil => rw [List.append_nil]
  | append_singleton t c ih =>
    obtain ⟨hfirst, hlast⟩ := List.forall_mem_append.mp ht
    rw [hlast c List.mem_cons_self, ← List.append_assoc,
      components_concat_slash (isAbsolute_append h t), ih hfirst]

theorem components_trimEnd (h : isAbsolute p = true) (hne : Text.trimEnd (· = '/') p ≠ []) :
    components (Text.trimEnd (· = '/') p) = components p := by
  obtain ⟨slashes, hslashes, hp⟩ := exists_slashes p
  have hkept : isAbsolute (Text.trimEnd (· = '/') p) = true := by
    rw [hp] at h
    obtain ⟨c, rest, hcons⟩ := List.exists_cons_of_ne_nil hne
    rw [hcons] at h ⊢
    exact h
  conv_rhs => rw [hp]
  exact (components_append_slashes hkept hslashes).symm

/-! ## Directories around one path -/

section

variable [Place]

theorem isWithin_iff : isWithin p d = true ↔ absolute p = absolute d ∨
    Text.trimEnd (· = '/') (absolute d) ++ ['/'] <+: absolute p := by
  rw [isWithin, Bool.or_eq_true, beq_iff_eq, Text.startsWith, List.isPrefixOf_iff_prefix]

/-- Of two directories, the one whose names are the first of those of the other has it within. -/
theorem isWithin_or_isWithin_of_start (h : Text.trimEnd (· = '/') (absolute d) ++ ['/'] <+:
    Text.trimEnd (· = '/') (absolute e) ++ ['/']) : isWithin d e = true ∨ isWithin e d = true := by
  obtain ⟨after, hafter, hd⟩ := exists_slashes (absolute d)
  obtain ⟨after', hafter', he⟩ := exists_slashes (absolute e)
  rw [isWithin_iff, isWithin_iff]
  -- One start is a prefix of the other; whose path is longer decides the direction.
  rcases List.prefix_concat_iff.mp h with hsame | hshorter
  · -- The two differ at most in the slashes at their ends.
    have hsame : Text.trimEnd (· = '/') (absolute d) = Text.trimEnd (· = '/') (absolute e) :=
      List.append_cancel_right hsame
    -- With slashes after it the one lies within the other; without, both are the same path.
    cases after with
    | cons c after =>
      rw [hafter c List.mem_cons_self, hsame] at hd
      exact .inl (.inr ⟨after, by rw [hd, List.append_assoc, List.singleton_append]⟩)
    | nil =>
      cases after' with
      | cons c after' =>
        rw [hafter' c List.mem_cons_self, ← hsame] at he
        exact .inr (.inr ⟨after', by rw [he, List.append_assoc, List.singleton_append]⟩)
      | nil =>
        rw [List.append_nil] at hd he
        exact .inl (.inl (by rw [hd, hsame, ← he]))
  · exact .inr (.inr (hshorter.trans ⟨after', he.symm⟩))

/-- Of two directories around one path the one lies within the other. -/
theorem isWithin_or_isWithin (hd : isWithin p d = true) (he : isWithin p e = true) :
    isWithin d e = true ∨ isWithin e d = true := by
  rw [isWithin_iff] at hd he
  rcases hd with hd | hd
  · exact .inl (isWithin_iff.mpr (hd ▸ he))
  rcases he with he | he
  · exact .inr (isWithin_iff.mpr (he ▸ .inr hd))
  rcases List.prefix_or_prefix_of_prefix hd he with h | h
  · exact isWithin_or_isWithin_of_start h
  · exact (isWithin_or_isWithin_of_start h).symm

end

/-! ## Along names -/

/-- What is joined to an absolute directory follows after a slash, which may be the last of those at
    the end of the directory. -/
theorem exists_join (h : isAbsolute d = true) : ∃ s : Text, s <+: d ∧
    components (s ++ ['/']) = components d ∧
      ∀ t, isAbsolute t = false → join d t = s ++ '/' :: t := by
  have hne : d ≠ [] := by
    rintro rfl
    cases h
  by_cases hlast : d.getLast? = some '/'
  · obtain ⟨s, rfl⟩ := List.getLast?_eq_some_iff.mp hlast
    exact ⟨s, List.prefix_append _ _, rfl, fun t ht => by simp [join, ht]⟩
  · exact ⟨d, List.prefix_refl _, components_concat_slash h,
      fun t ht => by simp [join, ht, hlast, hne]⟩

/-- Joining names adds them to the components. -/
theorem components_join (h : isAbsolute d = true) (ms : List Name) :
    components (join d (Text.joinWith ['/'] (ms.map Name.text))) =
      components d ++ ms.map Name.text := by
  obtain ⟨s, -, hs, hjoin⟩ := exists_join h
  -- whatever is put behind a start that is absolute leaves it absolute
  have habsolute : ∀ t, isAbsolute t = false → isAbsolute (s ++ '/' :: t) = true := by
    intro t ht
    rw [← hjoin t ht]
    exact (isAbsolute_of_front (front_join ht d)).trans h
  rw [hjoin _ (isAbsolute_names ms), components_append_slash (habsolute _ (isAbsolute_names ms)),
    ← hs, components_append_slash (habsolute [] rfl)]
  cases ms with
  | nil => exact (List.append_nil _).symm
  | cons m ms =>
    rw [Text.splitOn_joinWith (by simp) not_mem_slash_of_mem, foldl_step_names, List.reverse_append,
      List.reverse_reverse]
    rfl

/-- The path leads along names from the directory. -/
structure Below (d p : Text) : Prop where
  root : root p = root d
  isAbsolute : isAbsolute p = true
  names : ∃ ms : List Name, components p = components d ++ ms.map Name.text

theorem below_self (h : isAbsolute d = true) : Below d d :=
  ⟨rfl, h, [], (List.append_nil _).symm⟩

theorem Below.join (h : Below d p) (ms : List Name) :
    Below d (join p (Text.joinWith ['/'] (ms.map Name.text))) := by
  have hfront := front_join (isAbsolute_names ms) p
  obtain ⟨ns, hns⟩ := h.names
  refine ⟨(root_of_front hfront).trans h.root, (isAbsolute_of_front hfront).trans h.isAbsolute,
    ns ++ ms, ?_⟩
  rw [components_join h.isAbsolute, hns, List.map_append, List.append_assoc]

theorem isAbsolute_name (n : Name) : isAbsolute n.text = false :=
  isAbsolute_names [n]

theorem name_join (h : isAbsolute d = true) (n : Name) : name (join d n.text) = n.text := by
  obtain ⟨s, -, -, hjoin⟩ := exists_join h
  rw [hjoin _ (isAbsolute_name n), name, splitLast_append s n.not_mem_slash]

/-- The directory part of what is joined to a directory is the directory, up to slashes at its end. -/
theorem below_parent_join (h : isAbsolute d = true) (n : Name) :
    Below d (parent (join d n.text)) := by
  -- the parent begins as the directory does
  have hfront : front (parent (join d n.text)) = front d := by
    rw [front_parent, front_join (isAbsolute_name n)]
  obtain ⟨s, -, hs, hjoin⟩ := exists_join h
  refine ⟨root_of_front hfront, (isAbsolute_of_front hfront).trans h, [], ?_⟩
  rw [List.map_nil, List.append_nil, parent, hjoin _ (isAbsolute_name n),
    splitLast_append s n.not_mem_slash]
  -- the path above is kept with its slash where nothing but slashes is left of it
  dsimp only
  split
  case isTrue => exact hs
  case isFalse hne =>
    have habsolute : isAbsolute (s ++ ['/']) = true := by
      rw [← hjoin [] rfl]
      exact (isAbsolute_of_front (front_join rfl d)).trans h
    rw [components_trimEnd habsolute (by simpa using hne), hs]

/-! ## Normal form -/

/-- A path from the root begins with one slash, as no name begins with one. -/
theorem root_slash_rooted (ns : List Name) : root ('/' :: rooted ns) = ['/', '/'] := by
  have hthird := isAbsolute_names ns
  rw [rooted]
  cases hway : Text.joinWith ['/'] (ns.map Name.text) with
  | nil => rfl
  | cons c way =>
    rw [hway] at hthird
    have hc : c ≠ '/' := by simpa [isAbsolute] using hthird
    simp [root, hc]

/-- The normal form of an absolute path, with what its root has besides one slash. -/
theorem exists_normal (h : isAbsolute p = true) : ∃ (s : Text) (ns : List Name),
    (∀ c ∈ s, c = '/') ∧ root p = '/' :: s ∧ components p = ns.map Name.text ∧
      normalise p = s ++ rooted ns ∧ root (s ++ rooted ns) = '/' :: s ∧
      components (s ++ rooted ns) = ns.map Name.text := by
  obtain ⟨ns, hns, ⟨hroot, hp⟩ | ⟨hroot, hp⟩⟩ := normalise_of_isAbsolute h
  · exact ⟨[], ns, List.forall_mem_nil _, hroot, hns, hp, root_rooted ns, components_rooted ns⟩
  · refine ⟨['/'], ns, by simp, hroot, hns, hp, root_slash_rooted ns, ?_⟩
    rw [List.singleton_append, components_cons_slash (isAbsolute_rooted ns), components_rooted]

theorem join_of_getLast? (hne : d ≠ []) (hlast : d.getLast? ≠ some '/') (n : Name) :
    join d n.text = d ++ '/' :: n.text := by
  simp [join, isAbsolute_name n, hlast, hne]

/-- What ends in something else than a slash is the directory part of what is joined to it. -/
theorem parent_join (hne : d ≠ []) (hlast : d.getLast? ≠ some '/') (n : Name) :
    parent (join d n.text) = d := by
  rw [parent, join_of_getLast? hne hlast, splitLast_append d n.not_mem_slash]
  dsimp only
  rw [trimEnd_slash, trimEnd_of_getLast? hlast, if_neg (by simpa using hne)]

/-- Going up to a directory brings in nothing but slashes. -/
theorem mem_of_mem_parent_join {c : Char} (h : isAbsolute d = true) (n : Name)
    (hc : c ∈ parent (join d n.text)) : c ∈ d ∨ c = '/' := by
  obtain ⟨s, hs, -, hjoin⟩ := exists_join h
  have hhead : c ∈ s ++ ['/'] := by
    rw [parent, hjoin _ (isAbsolute_name n), splitLast_append s n.not_mem_slash] at hc
    dsimp only at hc
    split at hc
    case isTrue => exact hc
    case isFalse =>
      exact (Text.trimEnd_prefix _ _).subset hc
  rcases List.mem_append.mp hhead with hc | hc
  · exact .inl (hs.subset hc)
  · exact .inr (List.mem_singleton.mp hc)

section

variable [Place]

theorem Below.absolute (h : Below d p) : Below d (absolute p) := by
  obtain ⟨ms, hms⟩ := h.names
  obtain ⟨s, ns, hs, hroot, hns, hp, hroot', hns'⟩ := exists_normal h.isAbsolute
  rw [Path.absolute, h.isAbsolute, if_pos rfl, hp]
  refine ⟨?_, ?_, ms, ?_⟩
  · rw [hroot', ← hroot, h.root]
  · cases s with
    | nil => rfl
    | cons c s =>
      rw [hs c List.mem_cons_self]
      rfl
  · rw [hns', ← hns, hms]

/-- What leads along names from a directory lies within it. -/
theorem Below.isWithin (hd : Path.isAbsolute d = true) (h : Below d p) : isWithin p d = true := by
  obtain ⟨ms, hms⟩ := h.names
  obtain ⟨s, ds, hs, hdroot, hds, hd', -, -⟩ := exists_normal hd
  obtain ⟨s', ns, -, hproot, hns, hp', -, -⟩ := exists_normal h.isAbsolute
  -- Both normal forms begin with the same root, and the names of the one lead on.
  obtain rfl : s = s' := List.cons_injective (hdroot.symm.trans (h.root.symm.trans hproot))
  obtain rfl : ns = ds ++ ms := by
    apply List.map_injective_iff.mpr fun (n m : Name) hnm => Name.ext hnm
    rw [← hns, hms, hds, List.map_append]
  rw [isWithin_iff, Path.absolute, Path.absolute, hd, h.isAbsolute, if_pos rfl, if_pos rfl, hd', hp']
  -- Nothing follows: the path is the directory itself.
  by_cases hnone : ms = []
  · rw [hnone, List.append_nil]
    exact .inl rfl
  · refine .inr ?_
    obtain ⟨c, rest, -, hstem⟩ := exists_cons_stem hnone
    rw [rooted_append ds hnone, hstem, ← List.append_assoc]
    by_cases hroot : ds = []
    · -- The root is nothing but slashes.
      have hslashes : ∀ c ∈ s ++ rooted [], c = '/' :=
        List.forall_mem_append.mpr ⟨hs, by simp [rooted, Text.joinWith]⟩
      have htrimmed := Text.trimEnd_eq_nil_iff.mpr fun c hc => decide_eq_true (hslashes c hc)
      rw [hroot, htrimmed]
      cases s with
      | nil => exact ⟨c :: rest, rfl⟩
      | cons c' s =>
        rw [hs c' List.mem_cons_self]
        exact ⟨_, rfl⟩
    -- Another directory ends with a name, so that no slash is trimmed from it.
    · have hlast : (s ++ stem ds).getLast? ≠ some '/' := by
        obtain ⟨c', rest', -, hstem'⟩ := exists_cons_stem hroot
        have hends := getLast?_stem ds
        rw [List.getLast?_append]
        rw [hstem'] at hends ⊢
        simpa using hends
      rw [rooted_eq_stem hroot, trimEnd_of_getLast? hlast]
      exact (List.prefix_append_right_inj _).mpr ⟨c :: rest, rfl⟩

end

end PlaybookAssist.Path
