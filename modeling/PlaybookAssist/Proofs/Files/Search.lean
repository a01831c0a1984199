import PlaybookAssist.Files.Search
import PlaybookAssist.Proofs.Files.Tree
import PlaybookAssist.Proofs.Path.Nested

/-!
# What a search finds

Whatever pattern from the root a search is given, each path that it finds leads along names, with at
most a slash behind the last of them. What a pattern whose last component has no wildcard finds ends
in that component. What any absolute pattern finds starts where the pattern starts.

## Main statements

- `Entry.Sound.mem_waysBelow_iff`, `Entry.Sound.nodup_waysBelow` : the ways below a directory
- `FileTree.Sound.searchFrom` : the paths found for any pattern
- `FileTree.Sound.searchFrom_concat` : the paths found for a pattern with a plain last component
- `FileTree.Sound.front_of_searchFrom` : where the paths start that are found for any absolute pattern
-/

namespace PlaybookAssist

namespace Path

/-- The path leads along the names; a slash at its end does not count. -/
def LeadsAlong (ns : List Name) (p : Text) : Prop :=
  p = rooted ns ∨ p = stem ns ++ ['/']

theorem LeadsAlong.join_nil {ns : List Name} {p : Text} (h : LeadsAlong ns p) :
    LeadsAlong ns (join p []) := by
  rcases h with rfl | rfl
  · by_cases hns : ns = []
    · subst hns
      exact .inl rfl
    · obtain ⟨c, rest, -, hstem⟩ := exists_cons_stem hns
      refine .inr ?_
      have hlast := getLast?_stem ns
      rw [rooted_eq_stem hns]
      simp [join, isAbsolute, hlast]
      simp [hstem]
  · exact .inr (by simp [join, isAbsolute])

end Path

open PlaybookAssist.Path (Name LeadsAlong rooted)

variable {e : Entry} {es : List (Text × Entry)} {onlyDirectories : Bool} {n way : Text}

/-! ## Ways below a directory -/

namespace Entry

theorem mem_waysBelowAll_iff : way ∈ waysBelowAll onlyDirectories es ↔
    ∃ p ∈ es, isHidden p.1 = false ∧ (onlyDirectories = true → p.2.isDirectory = true) ∧
      (way = p.1 ∨ ∃ below ∈ waysBelow onlyDirectories p.2, way = p.1 ++ '/' :: below) := by
  -- Induction over the entries: the first one gives its ways or is skipped.
  induction es with
  | nil => simp [waysBelowAll]
  | cons p es ih =>
    obtain ⟨n, e⟩ := p
    have hhere : way ∈ n :: (waysBelow onlyDirectories e).map (fun way => n ++ '/' :: way) ↔
        way = n ∨ ∃ below ∈ waysBelow onlyDirectories e, way = n ++ '/' :: below := by
      rw [List.mem_cons, List.mem_map]
      simp only [eq_comm]
    rw [waysBelowAll, List.exists_mem_cons_iff]
    split
    case isTrue hskip =>
      -- What is skipped is hidden, or no directory where only those count.
      have hnot : ¬ (isHidden n = false ∧ (onlyDirectories = true → e.isDirectory = true)) := by
        rintro ⟨hhidden, hdirectory⟩
        rw [hhidden, Bool.false_or, Bool.and_eq_true, Bool.not_eq_true'] at hskip
        exact Bool.false_ne_true (hskip.2.symm.trans (hdirectory hskip.1))
      rw [ih]
      exact ⟨.inr, fun h => h.resolve_left fun ⟨hhidden, hdirectory, _⟩ => hnot ⟨hhidden, hdirectory⟩⟩
    case isFalse hkeep =>
      rw [Bool.or_eq_true, not_or, Bool.not_eq_true, Bool.and_eq_true, not_and, Bool.not_eq_true,
        Bool.not_eq_false'] at hkeep
      rw [List.mem_append, hhere, ih]
      -- What is kept meets both conditions, so that only the way itself is left to compare.
      exact or_congr_left ⟨fun h => ⟨hkeep.1, hkeep.2, h⟩, fun h => h.2.2⟩

/-- The ways below a directory are those of names that are not hidden; with `onlyDirectories` a way
    has to lead to a directory. -/
theorem Sound.mem_waysBelow_iff (hs : e.Sound) : way ∈ e.waysBelow onlyDirectories ↔
    ∃ ms : List Name, ms ≠ [] ∧ way = Text.joinWith ['/'] (ms.map Name.text) ∧
      (∀ n ∈ ms, isHidden n.text = false) ∧
      ∃ e', e.at? (ms.map Name.text) = some e' ∧ (onlyDirectories = true → e'.isDirectory = true) := by
  -- Induction along the tree: a way below a directory is an entry, or goes on below one.
  induction hs generalizing way with
  | file content =>
    rw [waysBelow]
    constructor
    -- Nothing lies below a file.
    · intro h
      cases h
    · rintro ⟨ms, hms, -, -, e', hat, -⟩
      obtain ⟨n, ms, rfl⟩ := List.exists_cons_of_ne_nil hms
      cases hat
  | directory es nodup proper _ ih =>
    rw [waysBelow, mem_waysBelowAll_iff]
    constructor
    · rintro ⟨p, hp, hhidden, hdirectory, hway⟩
      obtain ⟨name, hname⟩ := (proper p hp).exists_name
      have hchild : (Entry.directory es).child? name.text = some p.2 :=
        lookup_of_mem nodup (hname ▸ hp)
      rw [← hname] at hhidden hway
      -- The way ends at the entry, or goes on inside it.
      rcases hway with rfl | ⟨below, hbelow, rfl⟩
      · refine ⟨[name], List.cons_ne_nil _ _, rfl, by simpa using hhidden, p.2, ?_, hdirectory⟩
        rw [List.map_singleton, at?, hchild]
        rfl
      · obtain ⟨ms, hms, rfl, hall, e', hat, he'⟩ := (ih p hp).mp hbelow
        refine ⟨name :: ms, List.cons_ne_nil _ _, ?_, List.forall_mem_cons.mpr ⟨hhidden, hall⟩, e', ?_,
          he'⟩
        · rw [List.map_cons, Text.joinWith_cons (by simpa using hms)]
        · rw [List.map_cons, at?, hchild]
          exact hat
    · rintro ⟨ms, hms, rfl, hall, e', hat, he'⟩
      obtain ⟨name, ms, rfl⟩ := List.exists_cons_of_ne_nil hms
      obtain ⟨e, hchild, hat⟩ := Option.bind_eq_some_iff.mp hat
      obtain ⟨hhidden, hall⟩ := List.forall_mem_cons.mp hall
      refine ⟨(name.text, e), mem_of_lookup hchild, hhidden, ?_⟩
      -- And back again, by whether anything follows the first name.
      by_cases hnone : ms = []
      · subst hnone
        cases hat
        exact ⟨he', .inl rfl⟩
      · refine ⟨fun _ => isDirectory_of_at? (by simpa using hnone) hat, .inr
          ⟨_, (ih _ (mem_of_lookup hchild)).mpr ⟨ms, hnone, rfl, hall, e', hat, he'⟩, ?_⟩⟩
        rw [List.map_cons, Text.joinWith_cons (by simpa using hnone)]

/-- The names of a directory are found at the front of the ways along them. -/
theorem head?_splitOn_of_mem (hn : '/' ∉ n) {ways : List Text}
    (h : way ∈ n :: ways.map fun way => n ++ '/' :: way) :
    (Text.splitOn '/' way).head? = some n := by
  rcases List.mem_cons.mp h with rfl | h
  · rw [Text.splitOn_of_not_mem hn]
    rfl
  · obtain ⟨below, -, rfl⟩ := List.mem_map.mp h
    rw [Text.splitOn_append_cons, Text.splitOn_of_not_mem hn]
    rfl

theorem nodup_waysBelowAll (hnodup : (es.map (·.1)).Nodup) (hslash : ∀ p ∈ es, '/' ∉ p.1)
    (hbelow : ∀ p ∈ es, (waysBelow onlyDirectories p.2).Nodup) :
    (waysBelowAll onlyDirectories es).Nodup := by
  -- The ways below one entry begin with its name, and the names are different.
  induction es with
  | nil => exact List.nodup_nil
  | cons p es ih =>
    obtain ⟨n, e⟩ := p
    rw [List.map_cons, List.nodup_cons] at hnodup
    rw [List.forall_mem_cons] at hslash hbelow
    have hlater := ih hnodup.2 hslash.2 hbelow.2
    rw [waysBelowAll]
    split
    case isTrue => exact hlater
    case isFalse =>
      refine List.Nodup.append (List.nodup_cons.mpr ⟨?_, ?_⟩) hlater ?_
      -- The entry itself is no way below it, for those are longer.
      · intro hmem
        obtain ⟨below, -, hsame⟩ := List.mem_map.mp hmem
        exact List.cons_ne_nil _ _ (List.append_right_eq_self.mp hsame)
      · exact hbelow.1.map fun way way' h => (List.cons.inj (List.append_cancel_left h)).2
      · -- The first name of a way tells the two kinds of ways apart.
        intro way hhere hthere
        obtain ⟨p, hp, -, -, hway⟩ := mem_waysBelowAll_iff.mp hthere
        have hfirst : way ∈ p.1 :: (waysBelow onlyDirectories p.2).map fun way => p.1 ++ '/' :: way := by
          rcases hway with rfl | ⟨below, hbelow, rfl⟩
          · exact List.mem_cons_self
          · exact List.mem_cons_of_mem _ (List.mem_map_of_mem hbelow)
        have hsame : some n = some p.1 :=
          (head?_splitOn_of_mem hslash.1 hhere).symm.trans
            (head?_splitOn_of_mem (hslash.2 p hp) hfirst)
        exact hnodup.1 (List.mem_map.mpr ⟨p, hp, (Option.some.inj hsame).symm⟩)

/-- No way is listed twice. -/
theorem Sound.nodup_waysBelow (hs : e.Sound) (onlyDirectories : Bool) :
    (e.waysBelow onlyDirectories).Nodup := by
  induction hs with
  | file content => exact List.nodup_nil
  | directory es nodup proper _ ih =>
    rw [waysBelow]
    exact nodup_waysBelowAll nodup (fun p hp => (proper p hp).2.1) ih

end Entry

namespace FileTree

variable [Place] {fs : FileTree} {fuel : Nat} {directory component : Text} {ns : List Name}
  {n : Name} {directories found ways : List Text}

/-! ## Searching -/

/-- What a last component matches is the component itself, the directory, or a way of names. -/
theorem Sound.searchIn_cases (hs : fs.Sound)
    (h : fs.searchIn onlyDirectories directory component = .ok ways) (hway : way ∈ ways) :
    way = component ∨ way = [] ∨
      ∃ ms : List Name, ms ≠ [] ∧ way = Text.joinWith ['/'] (ms.map Name.text) := by
  rw [FileTree.searchIn] at h
  split at h
  case isTrue hplain =>
    -- The component leads somewhere, or nothing is matched.
    split at h
    case isTrue hempty =>
      cases h
      split at hway
      · exact .inr (.inl (List.mem_singleton.mp hway))
      -- Through an empty component the directory itself is matched.
      · cases hway
    case isFalse hempty =>
      cases h
      split at hway
      · exact .inl (List.mem_singleton.mp hway)
      · cases hway
  case isFalse hplain =>
    -- Names from the tree; a directory that is not there has none.
    obtain ⟨here, hsound, hhere⟩ : ∃ here : Entry, here.Sound ∧
        (if component = anyDepth then .ok ([] :: here.waysBelow onlyDirectories)
          else .ok ((here.entries.filter fun p => (!onlyDirectories || p.2.isDirectory) &&
            (isHidden component || !isHidden p.1) && Wildcard.fits component p.1).map (·.1))) =
        (.ok ways : Except FileError (List Text)) := by
      -- Only a path with a null character stops the search here.
      cases hentry : fs.entry (orHere directory) with
      | ok e =>
        rw [hentry] at h
        exact ⟨e, hs.entry hentry, h⟩
      | error err =>
        rw [hentry] at h
        have hnone : (Entry.directory []).Sound :=
          .directory [] List.nodup_nil (fun p hp => by cases hp) fun p hp => by cases hp
        cases err with
        | zeroCharacter => cases h
        | _ => exact ⟨_, hnone, h⟩
    split at hhere
    case isTrue =>
      cases hhere
      -- At any depth: the directory itself, or a way below it.
      rcases List.mem_cons.mp hway with rfl | hway
      · exact .inr (.inl rfl)
      · obtain ⟨ms, hms, hway, -⟩ := hsound.mem_waysBelow_iff.mp hway
        exact .inr (.inr ⟨ms, hms, hway⟩)
    case isFalse =>
      cases hhere
      -- In one directory: the name of one of its entries.
      obtain ⟨p, hp, rfl⟩ := List.mem_map.mp hway
      have hmem : p ∈ here.entries := (List.mem_filter.mp hp).1
      cases hsound with
      | file content => cases hmem
      | directory es _ proper _ =>
        obtain ⟨name, hname⟩ := (proper p hmem).exists_name
        exact .inr (.inr ⟨[name], List.cons_ne_nil _ _, hname.symm⟩)

/-- What a last component that is a name matches, or no component at all. -/
theorem Sound.searchIn (hs : fs.Sound)
    (hcomponent : component = [] ∨ ∃ n : Name, component = n.text)
    (h : fs.searchIn onlyDirectories directory component = .ok ways) (hway : way ∈ ways) :
    way = [] ∨ ∃ ms : List Name, ms ≠ [] ∧ way = Text.joinWith ['/'] (ms.map Name.text) := by
  rcases hs.searchIn_cases h hway with rfl | hway
  · rcases hcomponent with rfl | ⟨n, rfl⟩
    · exact .inl rfl
    · exact .inr ⟨[n], List.cons_ne_nil _ _, rfl⟩
  · exact hway

theorem exists_of_searchAmong
    (h : fs.searchAmong onlyDirectories component directories = .ok found) {p : Text}
    (hp : p ∈ found) :
    ∃ d ∈ directories, ∃ ways, fs.searchIn onlyDirectories d component = .ok ways ∧
      ∃ way ∈ ways, p = Path.join d way := by
  -- Induction over the directories, each of which adds its own ways.
  induction directories generalizing found with
  | nil =>
    cases h
    cases hp
  | cons d directories ih =>
    rw [searchAmong] at h
    cases hhere : fs.searchIn onlyDirectories d component with
    | error err =>
      rw [hhere] at h
      cases h
    | ok here =>
      cases hothers : fs.searchAmong onlyDirectories component directories with
      | error err =>
        rw [hhere, hothers] at h
        cases h
      | ok others =>
        rw [hhere, hothers] at h
        cases h
        rcases List.mem_append.mp hp with hp | hp
        · obtain ⟨way, hway, rfl⟩ := List.mem_map.mp hp
          exact ⟨d, List.mem_cons_self, here, hhere, way, hway, rfl⟩
        · obtain ⟨d', hd', hfound⟩ := ih hothers hp
          exact ⟨d', List.mem_cons_of_mem _ hd', hfound⟩

omit [Place] in
theorem isPlain_of_star {pattern : Text} (h : '*' ∈ pattern) : Wildcard.isPlain pattern = false := by
  rw [Wildcard.isPlain, Bool.not_eq_false', List.any_eq_true]
  exact ⟨'*', h, by decide⟩

omit [Place] in
/-- A name at any depth is a pattern. -/
theorem isPlain_anyDepth (base : Text) (hcomponent : Path.isAbsolute component = false) :
    Wildcard.isPlain (Path.join (Path.join base anyDepth) component) = false :=
  isPlain_of_star (Path.mem_join_left hcomponent (Path.mem_join_right (by decide) base))

/-- A pattern without wildcards is the only path that it can match. -/
theorem eq_of_searchFrom_plain {pattern p : Text} (hplain : Wildcard.isPlain pattern = true)
    (h : fs.searchFrom fuel onlyDirectories pattern = .ok found) (hp : p ∈ found) : p = pattern := by
  cases fuel with
  | zero =>
    cases h
    cases hp
  | succ fuel =>
    rw [searchFrom, if_pos hplain] at h
    split at h <;> cases h <;> split at hp <;> simp_all

/-- A path that a pattern with wildcards matches: what the last component matches in a directory
    that the rest of the pattern matches. -/
theorem exists_of_searchFrom {pattern : Text} (hplain : Wildcard.isPlain pattern = false)
    (habove : (Path.parent pattern).isEmpty = false)
    (h : fs.searchFrom (fuel + 1) onlyDirectories pattern = .ok found) {p : Text} (hp : p ∈ found) :
    ∃ d ways, fs.searchIn onlyDirectories d (Path.name pattern) = .ok ways ∧
      (∃ way ∈ ways, p = Path.join d way) ∧
      (d = Path.parent pattern ∨
        ∃ above, fs.searchFrom fuel true (Path.parent pattern) = .ok above ∧ d ∈ above) := by
  -- The pattern has a name with wildcards and something above it, so that both are searched.
  rw [searchFrom, hplain, habove] at h
  simp only [Bool.false_eq_true, if_false] at h
  split at h
  case isTrue =>
    -- The part above has wildcards too, and gives the directories.
    cases hbelow : fs.searchFrom fuel true (Path.parent pattern) with
    | error err =>
      rw [hbelow] at h
      cases h
    | ok directories =>
      rw [hbelow] at h
      obtain ⟨d, hd, ways, hways, hp⟩ := exists_of_searchAmong h hp
      exact ⟨d, ways, hways, hp, .inr ⟨directories, rfl, hd⟩⟩
  -- It has none, and is the only directory.
  case isFalse =>
    obtain ⟨d, hd, ways, hways, hp⟩ := exists_of_searchAmong h hp
    exact ⟨d, ways, hways, hp, .inl (List.mem_singleton.mp hd)⟩

theorem exists_of_searchFrom_concat (hplain : Wildcard.isPlain (rooted (ns ++ [n])) = false)
    (h : fs.searchFrom (fuel + 1) onlyDirectories (rooted (ns ++ [n])) = .ok found) {p : Text}
    (hp : p ∈ found) :
    ∃ d ways, fs.searchIn onlyDirectories d n.text = .ok ways ∧
      (∃ way ∈ ways, p = Path.join d way) ∧
      (d = rooted ns ∨ ∃ above, fs.searchFrom fuel true (rooted ns) = .ok above ∧ d ∈ above) := by
  have habove : (Path.parent (rooted (ns ++ [n]))).isEmpty = false := by
    rw [Path.parent_rooted]
    rfl
  have hfound := exists_of_searchFrom hplain habove h hp
  rwa [Path.parent_rooted, Path.name_rooted] at hfound

/-- What a pattern from the root matches leads along names. -/
theorem Sound.searchFrom (hs : fs.Sound)
    (h : fs.searchFrom fuel onlyDirectories (rooted ns) = .ok found) {p : Text} (hp : p ∈ found) :
    ∃ ms, LeadsAlong ms p := by
  -- Induction over the fuel: what is found lies below a directory of the search above.
  induction fuel generalizing onlyDirectories ns found p with
  | zero =>
    cases h
    cases hp
  | succ fuel ih =>
    -- A pattern without wildcards is found as it stands; any other one has a last name.
    cases hplain : Wildcard.isPlain (rooted ns) with
    | true =>
      exact ⟨ns, .inl (eq_of_searchFrom_plain hplain h hp)⟩
    | false =>
      induction ns using List.reverseRecOn with
      | nil => exact absurd hplain (by decide)
      | append_singleton ns n _ =>
        obtain ⟨d, ways, hways, ⟨way, hway, rfl⟩, hd⟩ := exists_of_searchFrom_concat hplain h hp
        -- The directories come from the part above, or are that part.
        have hleads : ∃ ms, LeadsAlong ms d := by
          rcases hd with rfl | ⟨above, habove, hd⟩
          · exact ⟨ns, .inl rfl⟩
          · exact ih habove hd
        obtain ⟨ms, hms⟩ := hleads
        -- The last component adds nothing, or names of the tree.
        rcases hs.searchIn (.inr ⟨n, rfl⟩) hways hway with rfl | ⟨names, hnames, rfl⟩
        · exact ⟨ms, hms.join_nil⟩
        · exact ⟨ms ++ names, .inl (Path.join_stem hnames hms)⟩

/-- What a pattern with a plain last component matches ends in that component. -/
theorem Sound.searchFrom_concat (hs : fs.Sound)
    (hplain : Wildcard.isPlain (rooted (ns ++ [n])) = false) (hn : Wildcard.isPlain n.text = true)
    (h : fs.searchFrom (fuel + 1) onlyDirectories (rooted (ns ++ [n])) = .ok found) {p : Text}
    (hp : p ∈ found) : ∃ ms, p = rooted (ms ++ [n]) := by
  obtain ⟨d, ways, hways, ⟨way, hway, rfl⟩, hd⟩ := exists_of_searchFrom_concat hplain h hp
  have hleads : ∃ ms, LeadsAlong ms d := by
    rcases hd with rfl | ⟨above, habove, hd⟩
    · exact ⟨ns, .inl rfl⟩
    · exact hs.searchFrom habove hd
  obtain ⟨ms, hms⟩ := hleads
  -- A plain name matches itself and nothing else.
  have hself : way = n.text := by
    rw [FileTree.searchIn, if_pos hn, if_neg (by simpa using n.ne_nil)] at hways
    cases hways
    split at hway
    · exact List.mem_singleton.mp hway
    · cases hway
  rw [hself]
  exact ⟨ms, Path.join_stem (List.cons_ne_nil n []) hms⟩

/-! ## Where the paths found start -/

/-- What a last component matches is seen from the directory. -/
theorem Sound.isAbsolute_of_mem_searchIn (hs : fs.Sound) (hcomponent : '/' ∉ component)
    (h : fs.searchIn onlyDirectories directory component = .ok ways) (hway : way ∈ ways) :
    Path.isAbsolute way = false := by
  rcases hs.searchIn_cases h hway with rfl | rfl | ⟨ms, hms, rfl⟩
  · cases way with
    | nil => rfl
    | cons c way =>
      rw [List.mem_cons, not_or] at hcomponent
      simpa [Path.isAbsolute] using Ne.symm hcomponent.1
  · rfl
  · exact Path.isAbsolute_names ms

/-- What an absolute pattern matches begins with the slashes that the pattern begins with. -/
theorem Sound.front_of_searchFrom (hs : fs.Sound) {pattern : Text}
    (habsolute : Path.isAbsolute pattern = true)
    (h : fs.searchFrom fuel onlyDirectories pattern = .ok found) {p : Text} (hp : p ∈ found) :
    Path.front p = Path.front pattern := by
  -- The directory part of the pattern begins as the pattern does, and so do the paths below it.
  induction fuel generalizing onlyDirectories pattern found p with
  | zero =>
    cases h
    cases hp
  | succ fuel ih =>
    have hparent := Path.front_parent pattern
    have habove := (Path.isAbsolute_of_front hparent).trans habsolute
    have hnonempty : (Path.parent pattern).isEmpty = false := by
      cases hempty : Path.parent pattern with
      | nil =>
        rw [hempty] at habove
        cases habove
      | cons c rest => rfl
    -- A plain pattern is found as it stands; otherwise the ways are joined to a directory.
    cases hplain : Wildcard.isPlain pattern with
    | true =>
      rw [eq_of_searchFrom_plain hplain h hp]
    | false =>
      obtain ⟨d, ways, hways, ⟨way, hway, rfl⟩, hd⟩ := exists_of_searchFrom hplain hnonempty h hp
      have hfront : Path.front d = Path.front pattern := by
        rcases hd with rfl | ⟨above, hbelow, hd⟩
        · exact hparent
        · exact (ih habove hbelow hd).trans hparent
      -- What is joined is relative, for the tree has no names with a slash.
      have hrelative := hs.isAbsolute_of_mem_searchIn (Path.not_mem_name pattern) hways hway
      rw [Path.front_join hrelative, hfront]

/-! ## Below a directory -/

/-- What a pattern matches leads along names from a directory if all that the directory part of the
    pattern matches does. -/
theorem Sound.below_of_searchFrom {base pattern p : Text} (hs : fs.Sound)
    (hplain : Wildcard.isPlain pattern = false) (hname : Path.name pattern = n.text)
    (hparent : Path.Below base (Path.parent pattern))
    (habove : ∀ fuel above, fs.searchFrom fuel true (Path.parent pattern) = .ok above →
      ∀ d ∈ above, Path.Below base d)
    (h : fs.searchFrom fuel onlyDirectories pattern = .ok found) (hp : p ∈ found) :
    Path.Below base p := by
  have hnonempty : (Path.parent pattern).isEmpty = false := by
    cases hempty : Path.parent pattern with
    | nil =>
      have habsolute := hparent.isAbsolute
      rw [hempty] at habsolute
      cases habsolute
    | cons c rest => rfl
  -- Without fuel nothing is found.
  cases fuel with
  | zero =>
    cases h
    cases hp
  | succ fuel =>
    obtain ⟨d, ways, hways, ⟨way, hway, rfl⟩, hd⟩ := exists_of_searchFrom hplain hnonempty h hp
    have hbelow : Path.Below base d := by
      rcases hd with rfl | ⟨above, hsearch, hd⟩
      · exact hparent
      · exact habove fuel above hsearch d hd
    rw [hname] at hways
    -- Joining names to what lies below leads further below.
    rcases hs.searchIn (.inr ⟨n, rfl⟩) hways hway with rfl | ⟨ms, -, rfl⟩
    · exact hbelow.join []
    · exact hbelow.join ms

/-- The component that stands for directories at any depth. -/
def anyDepthName : Name :=
  ⟨anyDepth, by decide, by decide, by decide, by decide⟩

/-- What is found by name at any depth below a directory leads along names from it, if the path of
    the directory is itself no pattern. -/
theorem Sound.below_of_anyDepth {base p : Text} (hs : fs.Sound)
    (hbase : Path.isAbsolute base = true) (hplain : Wildcard.isPlain base = true)
    (h : fs.searchFrom fuel onlyDirectories
      (Path.join (Path.join base anyDepth) n.text) = .ok found) (hp : p ∈ found) :
    Path.Below base p := by
  -- The search goes through any depth once, and then down by the name.
  have hdepth : Path.Below base (Path.join base anyDepth) :=
    (Path.below_self hbase).join [anyDepthName]
  have hlast : (Path.join base anyDepth).getLast? = some '*' := by
    obtain ⟨s, -, -, hjoin⟩ := Path.exists_join hbase
    rw [hjoin _ rfl, List.getLast?_append]
    rfl
  -- So its parent is the directory with any depth, which is no plain path.
  have hstar : '*' ∈ Path.join base anyDepth := List.mem_of_getLast? hlast
  have hne : Path.join base anyDepth ≠ [] := List.ne_nil_of_mem hstar
  have hparent := Path.parent_join hne (by simp [hlast]) n
  -- Above any depth there is only the directory itself.
  have hdirectory : Wildcard.isPlain (Path.parent (Path.join base anyDepth)) = true := by
    rw [Wildcard.isPlain, Bool.not_eq_true', List.any_eq_false] at hplain ⊢
    intro c hc
    rcases Path.mem_of_mem_parent_join hbase anyDepthName hc with hc | rfl
    · exact hplain c hc
    · decide
  have habove : ∀ fuel above, fs.searchFrom fuel true (Path.join base anyDepth) = .ok above →
      ∀ d ∈ above, Path.Below base d := by
    intro fuel above hsearch d hd
    refine hs.below_of_searchFrom (isPlain_of_star hstar) (Path.name_join hbase anyDepthName)
      (Path.below_parent_join hbase anyDepthName) (fun fuel' above' hsearch' d' hd' => ?_) hsearch hd
    rw [eq_of_searchFrom_plain hdirectory hsearch' hd']
    exact Path.below_parent_join hbase anyDepthName
  -- The last step is a search with the directories that any depth has found.
  refine hs.below_of_searchFrom (isPlain_anyDepth base (Path.isAbsolute_name n))
    (Path.name_join hdepth.isAbsolute n) ?_ (fun fuel' above' hsearch' d' hd' => ?_) h hp
  · rw [hparent]
    exact hdepth
  · rw [hparent] at hsearch'
    exact habove fuel' above' hsearch' d' hd'

end FileTree

end PlaybookAssist
