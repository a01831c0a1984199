import PlaybookAssist.Proofs.Files.Search

/-!
# Searching at any depth

A name that is looked for at any depth below a directory is tried once in the directory itself and
once in each directory that is reached from it along names that are not hidden. The path of the
directory has to stand for itself: it is part of the pattern.

## Main definitions

- `Path.IsLead` : what a path of normal form may have before its root
- `FileTree.waysFrom` : the ways below what a path leads to

## Main statements

- `FileTree.entry_lead_directory`, `FileTree.exists_entry_on_way` : the directories along a path
- `FileTree.search_anyDepth` : the paths found
-/

namespace PlaybookAssist

/-! ## Both roots -/

namespace Path

variable {s p q : Text} {ns ms : List Name} {n : Name}

/-- What a path of normal form may have before its root: nothing, or one more slash. -/
def IsLead (s : Text) : Prop :=
  s = [] ∨ s = ['/']

/-- The normal form of an absolute path. -/
theorem exists_lead_normalise (h : isAbsolute p = true) : ∃ s ns, IsLead s ∧
    root p = '/' :: s ∧ components p = ns.map Name.text ∧ normalise p = s ++ rooted ns := by
  obtain ⟨ns, hns, ⟨hroot, hp⟩ | ⟨hroot, hp⟩⟩ := normalise_of_isAbsolute h
  · exact ⟨[], ns, .inl rfl, hroot, hns, hp⟩
  · exact ⟨['/'], ns, .inr rfl, hroot, hns, hp⟩

theorem IsLead.isAbsolute (hs : IsLead s) (ns : List Name) :
    isAbsolute (s ++ rooted ns) = true := by
  rcases hs with rfl | rfl <;> rfl

theorem IsLead.normalise (hs : IsLead s) (ns : List Name) :
    normalise (s ++ rooted ns) = s ++ rooted ns := by
  rcases hs with rfl | rfl
  · exact normalise_rooted ns
  · rw [List.singleton_append, Path.normalise, root_slash_rooted,
      components_cons_slash (isAbsolute_rooted ns), components_rooted]
    rfl

theorem IsLead.absolute [Place] (hs : IsLead s) (ns : List Name) :
    absolute (s ++ rooted ns) = s ++ rooted ns := by
  rw [Path.absolute, hs.isAbsolute, if_pos rfl, hs.normalise]

theorem join_ne_nil (hp : p ≠ []) (q : Text) : join p q ≠ [] := by
  rw [join]
  split
  case isTrue h =>
    rintro rfl
    cases h
  case isFalse => split <;> simp [hp]

theorem join_append (hp : p ≠ []) (hq : isAbsolute q = false) (s : Text) :
    join (s ++ p) q = s ++ join p q := by
  obtain ⟨c, hc⟩ := Option.ne_none_iff_exists'.mp (mt List.getLast?_eq_none_iff.mp hp)
  have hempty : p.isEmpty = false := by simpa using hp
  have hempty' : (s ++ p).isEmpty = false := by simp [hp]
  simp only [join, hq, Bool.false_eq_true, if_false, List.getLast?_append, hc, Option.some_or,
    hempty, hempty', Bool.false_or]
  split <;> rw [List.append_assoc]

theorem join_lead (s : Text) (ns : List Name) (n : Name) :
    join (s ++ rooted ns) n.text = s ++ rooted (ns ++ [n]) := by
  have hne : rooted ns ≠ [] := List.cons_ne_nil _ _
  rw [join_append hne (isAbsolute_name n), join_rooted]

/-- A name below what lies along names below a directory. -/
theorem join_join_lead (s : Text) (ns ms : List Name) (n : Name) :
    join (join (s ++ rooted ns) (Text.joinWith ['/'] (ms.map Name.text))) n.text =
      s ++ rooted (ns ++ ms ++ [n]) := by
  have hleads : LeadsAlong (ns ++ ms) (join (rooted ns) (Text.joinWith ['/'] (ms.map Name.text))) := by
    by_cases hms : ms = []
    · rw [hms, List.append_nil]
      exact LeadsAlong.join_nil (.inl rfl)
    · exact .inl (join_stem hms (.inl rfl))
  have hne : rooted ns ≠ [] := List.cons_ne_nil _ _
  have hne' : join (rooted ns) (Text.joinWith ['/'] (ms.map Name.text)) ≠ [] := by
    rcases hleads with h | h <;> rw [h]
    · exact List.cons_ne_nil _ _
    · exact List.append_ne_nil_of_right_ne_nil _ (List.cons_ne_nil _ _)
  rw [join_append hne (isAbsolute_names ms), join_append hne' (isAbsolute_name n)]
  exact congrArg (s ++ ·) (join_stem (List.cons_ne_nil n []) hleads)

theorem IsLead.parent (hs : IsLead s) (ns : List Name) (n : Name) :
    parent (s ++ rooted (ns ++ [n])) = s ++ rooted ns := by
  by_cases hns : ns = []
  · subst hns
    rw [Path.parent, List.nil_append, rooted_eq_stem (List.cons_ne_nil n [])]
    have hsplit : s ++ stem [n] = s ++ '/' :: n.text :=
      congrArg (s ++ '/' :: ·) (List.append_nil n.text)
    rw [hsplit, splitLast_append s n.not_mem_slash]
    rcases hs with rfl | rfl <;> rfl
  · have hlast : (s ++ rooted ns).getLast? ≠ some '/' := by
      obtain ⟨c, rest, -, hstem⟩ := exists_cons_stem hns
      have hends := getLast?_stem ns
      rw [rooted_eq_stem hns, List.getLast?_append]
      rw [hstem] at hends ⊢
      simpa using hends
    rw [← join_lead, parent_join (by simp [rooted]) hlast]

end Path

open PlaybookAssist.Path (IsLead Name rooted)

namespace FileTree

variable [Place] {fs : FileTree} {onlyDirectories : Bool} {s d : Text} {ns ms ws : List Name}
  {n : Name} {es : List (Text × Entry)} {directories : List Text}

/-! ## Directories along a path -/

/-- A path that the file system takes, whatever it begins with. -/
structure AdmitsFrom (s : Text) (ns : List Name) : Prop where
  zero : '\x00' ∉ s ++ rooted ns
  length : (Utf8.encode (s ++ rooted ns)).length < pathLimit
  names : ∀ n ∈ ns, (Utf8.encode n.text).length ≤ nameLimit

omit [Place] in
theorem AdmitsFrom.of_append (h : AdmitsFrom s (ns ++ ms)) : AdmitsFrom s ns := by
  obtain ⟨rest, hrest⟩ : rooted ns <+: rooted (ns ++ ms) := by
    by_cases hms : ms = []
    · subst hms
      exact ⟨[], by simp only [List.append_nil]⟩
    · by_cases hns : ns = []
      · exact hns ▸ ⟨_, rfl⟩
      · rw [Path.rooted_append ns hms, Path.rooted_eq_stem hns]
        exact List.prefix_append _ _
  obtain ⟨zero, length, names⟩ := h
  rw [← hrest, ← List.append_assoc] at zero length
  rw [Utf8.encode_append, List.length_append] at length
  exact ⟨fun hzero => zero (List.mem_append_left _ hzero), by omega,
    fun n hn => names n (List.mem_append_left _ hn)⟩

omit [Place] in
theorem stepsOf_lead (hs : IsLead s) (ns : List Name) :
    stepsOf (s ++ rooted ns) = stepsOf (rooted ns) := by
  rcases hs with rfl | rfl
  · rfl
  · have hsplit : Text.splitOn '/' (['/'] ++ rooted ns) = [] :: Text.splitOn '/' (rooted ns) :=
      Text.splitOn_append_cons [] _
    have hlast : (['/'] ++ rooted ns).getLast? = (rooted ns).getLast? := by
      rw [List.singleton_append, rooted, List.getLast?_cons_cons]
    rw [stepsOf, stepsOf, hsplit, hlast]
    rfl

omit [Place] in
/-- The steps of a path lead to a directory that is there along its names. -/
theorem follow_rooted_directory :
    (∃ way, follow [] ([], fs.root) (stepsOf (rooted ns)) = .ok (way, .directory es)) ↔
      (∀ n ∈ ns, (Utf8.encode n.text).length ≤ nameLimit) ∧
        fs.root.at? (ns.map Name.text) = some (.directory es) := by
  by_cases hns : ns = []
  · -- The root ends in a slash, which asks for a directory.
    subst hns
    have hsteps : stepsOf (rooted []) = [['.']] := by decide
    rw [hsteps]
    cases fs.root <;> simp [follow, Entry.isDirectory, Entry.at?]
  · rw [stepsOf_rooted hns]
    constructor
    · rintro ⟨way, h⟩
      obtain ⟨-, hat, hnames⟩ := follow_names.mp h
      exact ⟨hnames, hat⟩
    · rintro ⟨hnames, hat⟩
      exact ⟨_, follow_names.mpr ⟨rfl, hat, hnames⟩⟩

/-- Where a directory is: along the names of the path. -/
theorem entry_lead_directory (hs : IsLead s) :
    fs.entry (s ++ rooted ns) = .ok (.directory es) ↔
      AdmitsFrom s ns ∧ fs.root.at? (ns.map Name.text) = some (.directory es) := by
  have hne : s ++ rooted ns ≠ [] := List.append_ne_nil_of_right_ne_nil _ (List.cons_ne_nil _ _)
  rw [entry_eq_ok, hs.isAbsolute, if_pos rfl, stepsOf_lead hs, follow_rooted_directory]
  constructor
  · rintro ⟨hzero, -, hlength, hnames, hat⟩
    exact ⟨⟨hzero, hlength, hnames⟩, hat⟩
  · rintro ⟨⟨hzero, hlength, hnames⟩, hat⟩
    exact ⟨hzero, hne, hlength, hnames, hat⟩

/-- On the way to a directory there are directories only. -/
theorem exists_entry_on_way (hs : IsLead s)
    (h : fs.entry (s ++ rooted (ns ++ ms)) = .ok (.directory es)) :
    ∃ es', fs.entry (s ++ rooted ns) = .ok (.directory es') ∧
      (Entry.directory es').at? (ms.map Name.text) = some (.directory es) := by
  -- what is on the way to a directory is one itself, at its end as well as before it
  obtain ⟨hadmits, hat⟩ := (entry_lead_directory hs).mp h
  rw [List.map_append, Entry.at?_append] at hat
  obtain ⟨e, hhere, hat⟩ := Option.bind_eq_some_iff.mp hat
  have hdirectory : e.isDirectory = true := by
    by_cases hms : ms = []
    · subst hms
      cases hat
      rfl
    · exact Entry.isDirectory_of_at? (by simpa using hms) hat
  cases e with
  | file content => cases hdirectory
  | directory es' => exact ⟨es', (entry_lead_directory hs).mpr ⟨hadmits.of_append, hhere⟩, hat⟩

/-! ## Searching -/

omit [Place] in
theorem follow_ne_zeroCharacter {above : List (List Text × Entry)} {here : List Text × Entry}
    -- one case for each kind of step: staying, going up, a name too long, and a name that is looked
    -- up
    {steps : List Text} : follow above here steps ≠ .error .zeroCharacter := by
  induction steps generalizing above here with
  | nil => simp [follow]
  | cons c steps ih =>
    unfold follow
    split
    · simp
    split
    · exact ih
    split
    · cases above <;> exact ih
    split
    · simp
    cases here.2.child? c with
    | none => simp
    | some e => exact ih

/-- Only a path that holds the zero character is refused for it. -/
theorem entry_ne_zeroCharacter (hzero : '\x00' ∉ d) : fs.entry d ≠ .error .zeroCharacter := by
  rw [entry, locate, List.elem_eq_mem, decide_eq_false hzero, if_neg Bool.false_ne_true]
  -- A path that is too long, or too deep, is refused for that reason.
  split
  · simp [Except.map]
  split
  · simp [Except.map]
  -- Past these two refusals, the steps are followed.
  dsimp only
  generalize hsteps : (if Path.isAbsolute d = true then stepsOf d
    else stepsOf Place.workingDirectory ++ stepsOf d) = steps
  intro h
  -- Following steps never meets a null character, for no step has one.
  cases hfollow : follow [] ([], fs.root) steps with
  | ok found =>
    rw [hfollow] at h
    cases h
  | error err =>
    rw [hfollow] at h
    cases h
    exact follow_ne_zeroCharacter hfollow

/-- The ways below what a path leads to. -/
def waysFrom (fs : FileTree) (onlyDirectories : Bool) (directory : Text) : List Text :=
  match fs.entry directory with
  | .ok e => e.waysBelow onlyDirectories
  | .error _ => []

theorem searchIn_anyDepth (hd : d ≠ []) (hzero : '\x00' ∉ d) :
    fs.searchIn onlyDirectories d anyDepth = .ok ([] :: fs.waysFrom onlyDirectories d) := by
  have hhere : orHere d = d := if_neg (by simpa using hd)
  have hstar : Wildcard.isPlain anyDepth = false := by decide
  rw [searchIn, hstar, waysFrom, hhere]
  cases hentry : fs.entry d with
  | ok e => rfl
  | error err =>
    cases err with
    | zeroCharacter => exact absurd hentry (entry_ne_zeroCharacter hzero)
    | _ => rfl

theorem searchAmong_plain (hn : Wildcard.isPlain n.text = true) (hd : ∀ d ∈ directories, d ≠ []) :
    fs.searchAmong onlyDirectories n.text directories =
      .ok ((directories.map fun d => Path.join d n.text).filter fs.pathExists) := by
  induction directories with
  | nil => rfl
  | cons d directories ih =>
    rw [List.forall_mem_cons] at hd
    have hempty : n.text.isEmpty = false := by simpa using n.ne_nil
    have hpath : pathIn d n.text = Path.join d n.text := by
      simp [pathIn, hd.1, n.ne_nil]
    rw [searchAmong, searchIn, if_pos hn, hempty, hpath, ih hd.2, List.map_cons, List.filter_cons]
    cases fs.pathExists (Path.join d n.text) <;> rfl

/-- A pattern with wildcards: what the last name matches in the directories that the rest of the
    pattern matches, which is the one directory itself if the rest has no wildcards. -/
theorem searchFrom_concat (hs : IsLead s) (fuel : Nat)
    (hplain : Wildcard.isPlain (s ++ rooted (ns ++ [n])) = false) :
    fs.searchFrom (fuel + 1) onlyDirectories (s ++ rooted (ns ++ [n])) =
      (if Wildcard.isPlain (s ++ rooted ns) then .ok [s ++ rooted ns]
        else fs.searchFrom fuel true (s ++ rooted ns)) >>= fs.searchAmong onlyDirectories n.text := by
  have hname : Path.name (s ++ rooted (ns ++ [n])) = n.text := by
    rw [← Path.join_lead, Path.name_join (hs.isAbsolute ns)]
  have hempty : (s ++ rooted ns).isEmpty = false := by simp [rooted]
  -- the pattern without its last name is another one, so the search goes on there
  have hother : s ++ rooted ns ≠ s ++ rooted (ns ++ [n]) := by
    intro h
    have hsame := Path.rooted_injective (List.append_cancel_left h)
    exact List.cons_ne_nil _ _ (List.append_right_eq_self.mp hsame.symm)
  rw [searchFrom]
  simp only [hs.parent, hname, hplain, hempty, hother, ne_eq, not_false_eq_true, true_and,
    Bool.false_eq_true, if_false, Bool.not_eq_eq_eq_not, Bool.not_true]
  cases Wildcard.isPlain (s ++ rooted ns) <;> rfl

omit [Place] in
theorem isPlain_anyDepthName (s : Text) (ws ms : List Name) :
    Wildcard.isPlain (s ++ rooted (ws ++ anyDepthName :: ms)) = false := by
  apply isPlain_of_star
  rw [Path.rooted_append ws (List.cons_ne_nil _ _)]
  exact List.mem_append_right _ (List.mem_append_right _
    (List.mem_append_left _ (List.mem_cons_of_mem _ List.mem_cons_self)))

/-- The directories at any depth below a directory whose path is no pattern. -/
theorem searchFrom_anyDepth (hs : IsLead s) (hplain : Wildcard.isPlain (s ++ rooted ws) = true)
    (hzero : '\x00' ∉ s ++ rooted ws) (fuel : Nat) :
    fs.searchFrom (fuel + 1) true (s ++ rooted (ws ++ [anyDepthName])) =
      .ok (([] :: fs.waysFrom true (s ++ rooted ws)).map fun way =>
        Path.join (s ++ rooted ws) way) := by
  have hne : s ++ rooted ws ≠ [] := List.append_ne_nil_of_right_ne_nil _ (List.cons_ne_nil _ _)
  have hin : fs.searchIn true (s ++ rooted ws) anyDepth =
      .ok ([] :: fs.waysFrom true (s ++ rooted ws)) := searchIn_anyDepth hne hzero
  rw [searchFrom_concat hs fuel (isPlain_anyDepthName s ws []), if_pos hplain]
  -- They are looked for in the one directory that the pattern names.
  change fs.searchAmong true anyDepth [s ++ rooted ws] = _
  rw [searchAmong, hin, searchAmong]
  exact congrArg Except.ok (List.append_nil _)

/-- What is found for a name at any depth below a directory whose path is no pattern. -/
theorem search_anyDepth (hs : IsLead s) (hplain : Wildcard.isPlain (s ++ rooted ws) = true)
    (hzero : '\x00' ∉ s ++ rooted ws) (hn : Wildcard.isPlain n.text = true) :
    fs.search (Path.join (Path.join (s ++ rooted ws) anyDepth) n.text) =
      .ok ((([] :: fs.waysFrom true (s ++ rooted ws)).map fun way =>
        Path.join (Path.join (s ++ rooted ws) way) n.text).filter fs.pathExists) := by
  -- The directory is not empty, so its ways can be joined to it.
  have hne : s ++ rooted ws ≠ [] := List.append_ne_nil_of_right_ne_nil _ (List.cons_ne_nil _ _)
  have hdepth : Path.join (s ++ rooted ws) anyDepth = s ++ rooted (ws ++ [anyDepthName]) :=
    Path.join_lead s ws anyDepthName
  have hpattern : Wildcard.isPlain (s ++ rooted (ws ++ [anyDepthName] ++ [n])) = false := by
    simpa using isPlain_anyDepthName s ws [n]
  -- The pattern is not empty, so there is fuel for its last name.
  obtain ⟨fuel, hfuel⟩ : ∃ fuel, (s ++ rooted (ws ++ [anyDepthName] ++ [n])).length = fuel + 1 :=
    Nat.exists_eq_succ_of_ne_zero (by simp [rooted])
  rw [search, hdepth, Path.join_lead, hfuel, searchFrom_concat hs _ hpattern,
    if_neg (by simp [isPlain_anyDepthName s ws []]), searchFrom_anyDepth hs hplain hzero]
  change fs.searchAmong false n.text _ = _
  -- Every way leads to the name below it, if that is there.
  rw [searchAmong_plain hn, List.map_map]
  · rfl
  · intro d hd
    obtain ⟨way, -, rfl⟩ := List.mem_map.mp hd
    exact Path.join_ne_nil hne way

end FileTree

end PlaybookAssist
