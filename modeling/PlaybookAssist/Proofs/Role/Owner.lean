import PlaybookAssist.Proofs.Role.Reader
import PlaybookAssist.Role.Cache

/-!
# Which role a path belongs to

Of the noted directories around a path the one with the longest path decides: the path belongs to
its role. When the directories are `roles` directories that is the innermost one, so a path that
concerns a role belongs to it, with one exception. A directory that lies in another one is itself a
role of the outer one, but what lies below it belongs to its own roles.

## Main statements

- `RoleCache.ownerOf?_spec` : the role that a path belongs to
- `RoleCache.ownerOf?_of_concerns` : a path that concerns a role belongs to it
- `RoleCache.absolute_of_ownerOf?` : what belongs to a role that is a directory
-/

namespace PlaybookAssist.RoleCache

open PlaybookAssist.Path (Name rooted)
open Role (rolesName)

variable [Place] {workspace role path d q : Text} {dirs : List Text} {cache : RoleCache}
  {ds ps : List Name} {n : Name}

/-! ## The longest path -/

omit [Place] in
theorem mem_directoriesByLength {p : Text × Text} :
    p ∈ cache.directoriesByLength ↔ p ∈ cache.directories :=
  (List.mergeSort_perm _ _).mem_iff

omit [Place] in
theorem pairwise_directoriesByLength (cache : RoleCache) :
    cache.directoriesByLength.Pairwise fun a b => b.1.length ≤ a.1.length := by
  have hsorted := @List.pairwise_mergeSort _
    (fun a b : Text × Text => decide (b.1.length ≤ a.1.length))
    (fun a b c hab hbc => by simp only [decide_eq_true_eq] at hab hbc ⊢; omega)
    (fun a b => by simp only [Bool.or_eq_true, decide_eq_true_eq]; omega) cache.directories
  exact hsorted.imp fun h => of_decide_eq_true h

/-- The role that a path belongs to is its role in a noted directory, and no noted directory with a
    longer path has one for it. -/
theorem ownerOf?_spec (h : cache.ownerOf? path = some (workspace, role)) :
    ∃ d, (d, workspace) ∈ cache.directories ∧ Role.ownerIn? d path = some role ∧
      ∀ d' ∈ cache.directories.keys, (Role.ownerIn? d' path).isSome → d'.length ≤ d.length := by
  rw [ownerOf?, List.findSome?_eq_some_iff] at h
  obtain ⟨before, ⟨d, w⟩, after, hsplit, hhere, hbefore⟩ := h
  obtain ⟨q, hq, heq⟩ := Option.map_eq_some_iff.mp hhere
  cases heq
  -- The directories are tried in the order of their lengths, so that the first hit is the longest.
  have hsorted := cache.pairwise_directoriesByLength
  have hmem : ∀ p, p ∈ cache.directories → p ∈ before ∨ p = (d, w) ∨ p ∈ after := by
    intro p hp
    rw [← mem_directoriesByLength, hsplit, List.mem_append, List.mem_cons] at hp
    exact hp
  refine ⟨d, ?_, hq, fun d' hd' hsome => ?_⟩
  · rw [← mem_directoriesByLength, hsplit]
    exact List.mem_append_right _ List.mem_cons_self
  · obtain ⟨⟨d', w'⟩, hp, rfl⟩ := List.mem_map.mp hd'
    rcases hmem _ hp with hp | hp | hp
    -- Those before it had no role for the path.
    · have hnone := hbefore _ hp
      rw [Option.map_eq_none_iff] at hnone
      rw [hnone] at hsome
      cases hsome
    · cases hp
      exact Nat.le_refl _
    -- Those after it are no longer.
    · rw [hsplit, List.pairwise_append] at hsorted
      exact (List.pairwise_cons.mp hsorted.2.1).1 _ hp

/-- A path that has a role in a noted directory belongs to a role. -/
theorem exists_ownerOf? (hd : d ∈ cache.directories.keys) (h : (Role.ownerIn? d path).isSome) :
    ∃ o, cache.ownerOf? path = some o := by
  obtain ⟨⟨d, w⟩, hp, rfl⟩ := List.mem_map.mp hd
  rw [← Option.isSome_iff_exists, ownerOf?, List.findSome?_isSome_iff]
  exact ⟨(d, w), mem_directoriesByLength.mpr hp, by simpa using h⟩

/-! ## Directories named `roles` -/

/-- The directories are named `roles`. -/
def AreRoles (dirs : List Text) : Prop :=
  ∀ d ∈ dirs, ∃ ds : List Name, d = rooted (ds ++ [rolesName])

/-- The role that a path belongs to lies in the innermost directory around the path. -/
theorem ownerOf?_names (hroles : AreRoles dirs)
    (hkeys : ∀ d, d ∈ cache.directories.keys ↔ d ∈ dirs)
    (h : cache.ownerOf? path = some (workspace, role)) :
    ∃ ds n ns, rooted ds ∈ dirs ∧ Path.absolute path = rooted (ds ++ n :: ns) ∧
      role = rooted (ds ++ [n]) ∧
      ∀ es m ms, rooted es ∈ dirs → ds ++ n :: ns = es ++ m :: ms → es.length ≤ ds.length := by
  -- The directory has a role for the path, and its names are the beginning of the path.
  obtain ⟨d, hd, howner, hlongest⟩ := ownerOf?_spec h
  have hmem : d ∈ dirs := (hkeys d).mp (List.mem_map_of_mem hd)
  obtain ⟨ds, rfl⟩ := hroles d hmem
  obtain ⟨n, ns, hpath, hrole⟩ := (Role.ownerIn?_eq_some_iff (by simp)).mp howner
  refine ⟨_, n, ns, hmem, hpath, hrole, fun es m ms hes hsame => ?_⟩
  -- The other directory has a role for the path as well, so its path is no longer.
  have hsome : (Role.ownerIn? (rooted es) path).isSome := by
    rw [Role.ownerIn?_of_below (hsame ▸ hpath)]
    rfl
  have hlength := hlongest _ ((hkeys _).mpr hes) hsome
  -- Of two directories around the path, the one with more names has the longer path.
  by_contra hless
  have hprefix : es <+: ds ++ [rolesName] ++ n :: ns := ⟨m :: ms, hsame.symm⟩
  obtain ⟨more, rfl⟩ : ds ++ [rolesName] <+: es :=
    List.prefix_of_prefix_length_le ⟨_, rfl⟩ hprefix (by omega)
  have hmore : more ≠ [] := by
    rintro rfl
    simp at hless
  exact absurd hlength (Nat.not_le_of_lt (Path.length_rooted_lt _ hmore))

/-- A path that concerns a role belongs to that role, unless the role is one of the directories
    itself and the path lies below it. -/
theorem ownerOf?_of_concerns (hroles : AreRoles dirs)
    (hkeys : ∀ d, d ∈ cache.directories.keys ↔ d ∈ dirs) (hd : rooted ds ∈ dirs)
    (hps : Role.Concerns (ds ++ [n]) ps) (hq : rooted (ds ++ [n]) ∉ dirs ∨ ps = ds ++ [n])
    (hpath : Path.absolute path = rooted ps) :
    ∃ w, cache.ownerOf? path = some (w, rooted (ds ++ [n])) := by
  -- The path is the role itself or a document in one of its sections.
  obtain ⟨rest, rfl, hrest⟩ : ∃ rest, ps = ds ++ n :: rest ∧
      (rest = [] ∨ ∃ s x : Name, s.text ∈ Role.sectionNames ∧ rest = [s, x]) := by
    rcases hps with rfl | ⟨s, x, hs, rfl⟩
    · exact ⟨[], by simp, .inl rfl⟩
    · exact ⟨[s, x], by simp, .inr ⟨s, x, hs, rfl⟩⟩
  have hsome : (Role.ownerIn? (rooted ds) path).isSome := by
    rw [Role.ownerIn?_of_below hpath]
    rfl
  obtain ⟨⟨w, role⟩, howner⟩ := exists_ownerOf? ((hkeys _).mpr hd) hsome
  obtain ⟨es, m, ms, hes, hpath', rfl, hlongest⟩ := ownerOf?_names hroles hkeys howner
  have hsame : es ++ m :: ms = ds ++ n :: rest := Path.rooted_injective (hpath' ▸ hpath)
  have hlength := hlongest ds n rest hd hsame
  -- The innermost directory around the path is the one that the role lies in.
  have hprefix : es <+: ds ++ n :: rest := ⟨m :: ms, hsame⟩
  obtain ⟨between, rfl⟩ : ds <+: es :=
    List.prefix_of_prefix_length_le ⟨_, rfl⟩ hprefix hlength
  rw [List.append_assoc, List.append_cancel_left_eq] at hsame
  suffices hnone : between = [] by
    subst hnone
    cases hsame
    exact ⟨w, by simpa using howner⟩
  -- A directory further in would begin with the role, or lie in one of its sections.
  by_contra hsomething
  obtain ⟨first, between, rfl⟩ := List.exists_cons_of_ne_nil hsomething
  rw [List.cons_append, List.cons.injEq] at hsame
  obtain ⟨rfl, hsame⟩ := hsame
  rcases hrest with rfl | ⟨s, x, hs, rfl⟩
  · simp at hsame
  · have hinner : rooted (ds ++ [first]) ∉ dirs := hq.resolve_right (by simp)
    cases between with
    | nil => exact hinner hes
    | cons second between =>
      cases between with
      | cons third between => simp at hsame
      | nil =>
        -- The directory would be a section, but no section is named `roles`.
        obtain ⟨rfl, -⟩ := List.cons.inj hsame
        obtain ⟨above, habove⟩ := hroles _ hes
        have hlast := congrArg List.getLast? (Path.rooted_injective habove)
        have hsection : second = rolesName := by simpa using hlast
        rw [hsection] at hs
        exact absurd hs (by decide)

/-- What belongs to a role that is one of the directories is the directory itself. -/
theorem absolute_of_ownerOf? (hroles : AreRoles dirs)
    (hkeys : ∀ d, d ∈ cache.directories.keys ↔ d ∈ dirs) (hq : q ∈ dirs)
    (h : cache.ownerOf? path = some (w, q)) : Path.absolute path = q := by
  obtain ⟨ds, n, ns, hd, hpath, rfl, hlongest⟩ := ownerOf?_names hroles hkeys h
  cases ns with
  | nil => exact hpath
  | cons m ms =>
    have hlength := hlongest (ds ++ [n]) m ms hq (by simp)
    rw [List.length_append, List.length_singleton] at hlength
    omega

end PlaybookAssist.RoleCache
