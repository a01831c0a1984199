import PlaybookAssist.Files.Load
import PlaybookAssist.Proofs.Path.Rooted
import PlaybookAssist.Proofs.Text.Utf8

/-!
# What paths lead to

In a tree whose entries have proper names, a path from the root leads along its names. What a reader
sees at a path is a file with its octets, a directory or nothing; what is below a directory is not
part of what is seen at the directory.

## Main definitions

- `Entry.Sound` : names are proper and none occurs twice in a directory
- `Entry.at?` : the entry at the end of a way of names
- `FileTree.Sight`, `FileTree.sight` : what is seen at a path

## Main statements

- `FileTree.entry_rooted` : a path leads along its names
- `FileTree.list_of_entry_concat` : what is seen in a directory is listed there
- `FileTree.loadMapping_congr` : a file that looks the same is read the same
- `FileTree.sight_alterAt` : writing a file changes what is seen at the file only
-/

namespace PlaybookAssist

/-! ## Trees with proper names -/

namespace Entry

/-- Can an entry have this name? Names are not empty, hold no slash and no unpaired surrogate, and
    differ from the names of the directory itself and of the one above. -/
def IsProper (name : Text) : Prop :=
  name ≠ [] ∧ '/' ∉ name ∧ name ≠ ['.'] ∧ name ≠ ['.', '.'] ∧ ∀ c ∈ name, Surrogate.code? c = none

instance (name : Text) : Decidable (IsProper name) :=
  haveI : Decidable (∀ c ∈ name, Surrogate.code? c = none) := List.decidableBAll _ name
  inferInstanceAs (Decidable (_ ∧ _))

/-- All names are proper and none occurs twice in a directory. -/
inductive Sound : Entry → Prop where
  | file (content : Octets) : Sound (.file content)
  | directory (es : List (Text × Entry)) (nodup : (es.map (·.1)).Nodup)
      (proper : ∀ p ∈ es, IsProper p.1) (below : ∀ p ∈ es, Sound p.2) : Sound (.directory es)

/-- The entry at the end of a way of names. -/
def at? : List Text → Entry → Option Entry
  | [], e => some e
  | n :: ns, e => (e.child? n).bind (at? ns)

variable {e e' : Entry} {es : List (Text × Entry)} {n : Text} {way way' : List Text}

theorem sound_directory_iff : (Entry.directory es).Sound ↔
    (es.map (·.1)).Nodup ∧ ∀ p ∈ es, IsProper p.1 ∧ p.2.Sound := by
  constructor
  · intro h
    cases h with
    | directory _ nodup proper below => exact ⟨nodup, fun p hp => ⟨proper p hp, below p hp⟩⟩
  · rintro ⟨nodup, h⟩
    exact .directory es nodup (fun p hp => (h p hp).1) fun p hp => (h p hp).2

theorem IsProper.exists_name (h : IsProper n) : ∃ name : Path.Name, name.text = n :=
  ⟨⟨n, h.1, h.2.1, h.2.2.1, h.2.2.2.1⟩, rfl⟩

theorem mem_of_lookup (h : es.lookup n = some e) : (n, e) ∈ es := by
  induction es with
  | nil => cases h
  | cons p es ih =>
    obtain ⟨m, e'⟩ := p
    rw [List.lookup_cons] at h
    cases hm : n == m with
    | true =>
      rw [hm] at h
      cases h
      rw [eq_of_beq hm]
      exact List.mem_cons_self
    | false =>
      rw [hm] at h
      exact List.mem_cons_of_mem _ (ih h)

theorem lookup_of_mem (hnodup : (es.map (·.1)).Nodup) (h : (n, e) ∈ es) :
    es.lookup n = some e := by
  induction es with
  | nil => cases h
  | cons p es ih =>
    obtain ⟨m, e'⟩ := p
    rw [List.map_cons, List.nodup_cons] at hnodup
    rcases List.mem_cons.mp h with h | h
    · cases h
      exact List.lookup_cons_self
    · have hne : n ≠ m := fun hsame => hnodup.1 (List.mem_map.mpr ⟨_, h, hsame⟩)
      rw [List.lookup_cons, beq_eq_false_iff_ne.mpr hne]
      exact ih hnodup.2 h

/-- What has an entry of some name is a directory. -/
theorem exists_of_child? (h : e.child? n = some e') : ∃ es, e = .directory es ∧ (n, e') ∈ es := by
  cases e with
  | file content => cases h
  | directory es => exact ⟨es, rfl, mem_of_lookup h⟩

theorem isDirectory_of_at? (hway : way ≠ []) (h : e.at? way = some e') : e.isDirectory = true := by
  obtain ⟨n, way, rfl⟩ := List.exists_cons_of_ne_nil hway
  obtain ⟨_, hchild, -⟩ := Option.bind_eq_some_iff.mp h
  obtain ⟨es, rfl, -⟩ := exists_of_child? hchild
  rfl

theorem Sound.child (hs : e.Sound) (h : e.child? n = some e') : IsProper n ∧ e'.Sound := by
  obtain ⟨es, rfl, hmem⟩ := exists_of_child? h
  cases hs with
  | directory _ nodup proper below => exact ⟨proper _ hmem, below _ hmem⟩

theorem Sound.at (hs : e.Sound) (h : e.at? way = some e') :
    e'.Sound ∧ ∀ n ∈ way, IsProper n := by
  induction way generalizing e with
  | nil =>
    cases h
    exact ⟨hs, fun n hn => by cases hn⟩
  | cons n way ih =>
    obtain ⟨e'', hchild, hat⟩ := Option.bind_eq_some_iff.mp h
    obtain ⟨hproper, hsound⟩ := hs.child hchild
    obtain ⟨hs', hway⟩ := ih hsound hat
    exact ⟨hs', List.forall_mem_cons.mpr ⟨hproper, hway⟩⟩

theorem at?_append (way way' : List Text) (e : Entry) :
    e.at? (way ++ way') = (e.at? way).bind (at? way') := by
  induction way generalizing e with
  | nil => rfl
  | cons n way ih =>
    rw [List.cons_append, at?, at?, Option.bind_assoc]
    exact congrArg _ (funext fun e' => ih e')

end Entry

namespace FileTree

variable [Place] {fs fs₀ fs₁ : FileTree} {e : Entry} {ns : List Path.Name} {n : Path.Name}
  {p : Text} {content : Octets}

/-- A file system all of whose names are proper. -/
def Sound (fs : FileTree) : Prop :=
  fs.root.Sound

/-! ## Following a path -/

omit [Place] in
/-- Along names it goes down only. -/
theorem follow_names {above : List (List Text × Entry)} {here : List Text × Entry}
    {way : List Text} :
    follow above here (ns.map Path.Name.text) = .ok (way, e) ↔
      way = here.1 ++ ns.map Path.Name.text ∧ here.2.at? (ns.map Path.Name.text) = some e ∧
        ∀ n ∈ ns, (Utf8.encode n.text).length ≤ nameLimit := by
  -- Induction over the names; at each one the walk steps into the child.
  induction ns generalizing above here with
  | nil => simp [follow, Entry.at?, Prod.ext_iff, eq_comm]
  | cons n ns ih =>
    obtain ⟨names, entry⟩ := here
    rw [List.map_cons]
    unfold follow
    rw [if_neg n.ne_here, if_neg n.ne_up]
    cases entry with
    -- A way ends at a file, and `at?` finds no entry in one.
    | file octets => simp [Entry.isDirectory, Entry.at?, Entry.child?, Entry.entries]
    | directory es =>
      -- A name that is too long is refused before anything is looked for.
      by_cases hlong : nameLimit < (Utf8.encode n.text).length
      · simp [Entry.isDirectory, if_pos hlong, Nat.not_le.mpr hlong]
      · cases hchild : (Entry.directory es).child? n.text with
        | none => simp [Entry.isDirectory, Entry.at?, if_neg hlong, hchild]
        | some e' =>
          simp only [Entry.isDirectory, Bool.not_true, Bool.false_eq_true, if_false, if_neg hlong,
            hchild, ih, Entry.at?, Option.bind_some, List.forall_mem_cons, List.append_assoc,
            List.singleton_append, Nat.not_lt.mp hlong, true_and]

/-- A path that the file system takes. -/
structure Admits (ns : List Path.Name) : Prop where
  zero : '\x00' ∉ Path.rooted ns
  length : (Utf8.encode (Path.rooted ns)).length < pathLimit
  names : ∀ n ∈ ns, (Utf8.encode n.text).length ≤ nameLimit

omit [Place] in
theorem Admits.of_append {ms : List Path.Name} (h : Admits (ns ++ ms)) (hns : ns ≠ []) :
    Admits ns := by
  by_cases hms : ms = []
  · rwa [hms, List.append_nil] at h
  · have hsplit : Path.rooted (ns ++ ms) = Path.rooted ns ++ Path.stem ms := by
      rw [Path.rooted_append ns hms, Path.rooted_eq_stem hns]
    have hlength := h.length
    rw [hsplit, Utf8.encode_append, List.length_append] at hlength
    refine ⟨fun hzero => h.zero ?_, by omega, fun n hn => h.names n (List.mem_append_left _ hn)⟩
    rw [hsplit]
    exact List.mem_append_left _ hzero

omit [Place] in
theorem stepsOf_rooted (h : ns ≠ []) : stepsOf (Path.rooted ns) = ns.map Path.Name.text := by
  have hlast : ((Path.rooted ns).getLast? == some '/') = false := by
    rw [Path.rooted_eq_stem h, beq_eq_false_iff_ne]
    exact Path.getLast?_stem ns
  have hkeep : (ns.map Path.Name.text).filter (fun c => !c.isEmpty) = ns.map Path.Name.text := by
    refine List.filter_eq_self.mpr fun t ht => ?_
    obtain ⟨n, -, rfl⟩ := List.mem_map.mp ht
    simpa using n.ne_nil
  rw [stepsOf, hlast, Path.rooted_eq_stem h, Path.splitOn_stem, List.filter_cons_of_neg (by simp),
    hkeep]
  rfl

/-- When a path leads somewhere. -/
theorem entry_eq_ok :
    fs.entry p = .ok e ↔ '\x00' ∉ p ∧ p ≠ [] ∧ (Utf8.encode p).length < pathLimit ∧
      ∃ way, follow [] ([], fs.root) (if Path.isAbsolute p then stepsOf p
        else stepsOf Place.workingDirectory ++ stepsOf p) = .ok (way, e) := by
  -- the three texts that no place can have are refused before any step is followed
  rw [entry, locate]
  by_cases hzero : '\x00' ∈ p
  · simp [hzero, Except.map]
  by_cases hempty : p = []
  · simp [hempty, Except.map]
  by_cases hlength : pathLimit ≤ (Utf8.encode p).length
  · simp [hzero, hempty, hlength, Nat.not_lt.mpr hlength, Except.map]
  simp only [List.elem_eq_mem, hzero, decide_false, List.isEmpty_iff, hempty, if_neg hlength,
    Bool.false_eq_true, if_false, Nat.not_le.mp hlength, not_false_eq_true, ne_eq, true_and]
  generalize follow [] ([], fs.root) _ = found
  cases found with
  | error err => simp [Except.map]
  | ok found => simp [Except.map, Prod.ext_iff]

/-- A path from the root leads along its names. -/
theorem entry_rooted (h : ns ≠ []) :
    fs.entry (Path.rooted ns) = .ok e ↔
      Admits ns ∧ fs.root.at? (ns.map Path.Name.text) = some e := by
  have hempty : Path.rooted ns ≠ [] := List.cons_ne_nil _ _
  rw [entry_eq_ok, Path.isAbsolute_rooted, if_pos rfl, stepsOf_rooted h]
  constructor
  · rintro ⟨hzero, -, hlength, way, hfollow⟩
    obtain ⟨-, hat, hnames⟩ := follow_names.mp hfollow
    exact ⟨⟨hzero, hlength, hnames⟩, hat⟩
  · rintro ⟨hadmits, hat⟩
    exact ⟨hadmits.zero, hempty, hadmits.length, _, follow_names.mpr ⟨rfl, hat, hadmits.names⟩⟩

omit [Place] in
theorem Sound.follow {steps : List Text} {above : List (List Text × Entry)}
    {here found : List Text × Entry} (hhere : here.2.Sound) (habove : ∀ p ∈ above, p.2.Sound)
    (h : follow above here steps = .ok found) : found.2.Sound := by
  -- The directories above are carried along: a step up leads back into one of them.
  induction steps generalizing above here with
  | nil =>
    cases h
    exact hhere
  | cons c rest ih =>
    unfold FileTree.follow at h
    split at h
    case isTrue => cases h
    -- Staying here and going up leave the tree as it is.
    split at h
    case isTrue => exact ih hhere habove h
    split at h
    case isTrue =>
      cases above with
      | nil => exact ih hhere habove h
      | cons up further =>
        rw [List.forall_mem_cons] at habove
        exact ih habove.1 habove.2 h
    split at h
    case isTrue => cases h
    -- A step down needs a child, and children of a sound entry are sound.
    cases hchild : here.2.child? c with
    | none =>
      rw [hchild] at h
      cases h
    | some e =>
      rw [hchild] at h
      exact ih (hhere.child hchild).2 (List.forall_mem_cons.mpr ⟨hhere, habove⟩) h

/-- What a path leads to is as sound as the tree. -/
theorem Sound.entry (hs : fs.Sound) (h : fs.entry p = .ok e) : e.Sound := by
  obtain ⟨-, -, -, way, hfollow⟩ := entry_eq_ok.mp h
  have hroot : (([], fs.root) : List Text × Entry).2.Sound := hs
  exact Sound.follow hroot (fun p hp => by cases hp) hfollow

/-! ## What is seen at a path -/

/-- What is seen at a path: not what lies below it. -/
inductive Sight where
  | nothing
  | directory
  | file (content : Octets)
  deriving DecidableEq, Repr

/-- What is seen of an entry. -/
def Sight.of : Option Entry → Sight
  | none => .nothing
  | some (.directory _) => .directory
  | some (.file content) => .file content

/-- What is seen at a path. -/
def sight (fs : FileTree) (path : Text) : Sight :=
  .of (fs.entry path).toOption

theorem sight_eq_directory : fs.sight p = .directory ↔ fs.isDirectory p = true := by
  rw [sight, isDirectory]
  cases fs.entry p with
  | error err => simp [Sight.of, Except.toOption]
  | ok e => cases e <;> simp [Sight.of, Except.toOption, Entry.isDirectory]

theorem sight_eq_file : fs.sight p = .file content ↔ fs.entry p = .ok (.file content) := by
  rw [sight]
  cases fs.entry p with
  | error err => simp [Sight.of, Except.toOption]
  | ok e => cases e <;> simp [Sight.of, Except.toOption]

theorem isFile_iff : fs.isFile p = true ↔ ∃ content, fs.sight p = .file content := by
  simp only [sight_eq_file, isFile]
  cases fs.entry p with
  | error err => simp
  | ok e => cases e <;> simp [Entry.isDirectory]

theorem isDirectory_iff : fs.isDirectory p = true ↔ ∃ es, fs.entry p = .ok (.directory es) := by
  rw [isDirectory]
  cases fs.entry p with
  | error err => simp
  | ok e => cases e <;> simp [Entry.isDirectory]

theorem isDirectory_congr (h : fs₀.sight p = fs₁.sight p) :
    fs₀.isDirectory p = fs₁.isDirectory p := by
  rw [Bool.eq_iff_iff, ← sight_eq_directory, ← sight_eq_directory, h]

/-! ## Lists -/

theorem list_eq_ok {names : List Text} : fs.list p = .ok names ↔
    ∃ es, fs.entry p = .ok (.directory es) ∧ names = es.map (·.1) := by
  rw [list]
  cases fs.entry p with
  | error err => exact ⟨fun h => (by cases h), fun ⟨es, h, _⟩ => (by cases h)⟩
  | ok e =>
    cases e with
    | file content => exact ⟨fun h => (by cases h), fun ⟨es, h, _⟩ => (by cases h)⟩
    | directory es =>
      constructor
      · intro h
        cases h
        exact ⟨es, rfl, rfl⟩
      · rintro ⟨es', h, rfl⟩
        cases h
        rfl

/-- What lies in a directory is listed there. -/
theorem list_of_entry_concat (hns : ns ≠ []) (h : fs.entry (Path.rooted (ns ++ [n])) = .ok e) :
    ∃ names, fs.list (Path.rooted ns) = .ok names ∧ n.text ∈ names := by
  obtain ⟨hadmits, hat⟩ := (entry_rooted (by simp)).mp h
  rw [List.map_append, Entry.at?_append] at hat
  obtain ⟨e', hat', hlast⟩ := Option.bind_eq_some_iff.mp hat
  obtain ⟨e'', hchild, -⟩ := Option.bind_eq_some_iff.mp hlast
  obtain ⟨es, rfl, hmem⟩ := Entry.exists_of_child? hchild
  have hentry : fs.entry (Path.rooted ns) = .ok (.directory es) :=
    (entry_rooted hns).mpr ⟨hadmits.of_append hns, hat'⟩
  exact ⟨_, list_eq_ok.mpr ⟨es, hentry, rfl⟩, List.mem_map.mpr ⟨_, hmem, rfl⟩⟩

theorem list_of_isFile_concat (hns : ns ≠ [])
    (h : fs.isFile (Path.rooted (ns ++ [n])) = true) :
    ∃ names, fs.list (Path.rooted ns) = .ok names ∧ n.text ∈ names := by
  obtain ⟨content, hcontent⟩ := isFile_iff.mp h
  exact list_of_entry_concat hns (sight_eq_file.mp hcontent)

theorem Sound.list {names : List Text} (hs : fs.Sound) (h : fs.list p = .ok names) :
    names.Nodup ∧ ∀ n ∈ names, Entry.IsProper n := by
  obtain ⟨es, hentry, rfl⟩ := list_eq_ok.mp h
  obtain ⟨hnodup, hall⟩ := Entry.sound_directory_iff.mp (hs.entry hentry)
  refine ⟨hnodup, fun n hn => ?_⟩
  obtain ⟨q, hq, rfl⟩ := List.mem_map.mp hn
  exact (hall q hq).1

/-! ## Reading -/

/-- A path that leads somewhere holds no unpaired surrogate. -/
theorem Sound.code?_of_mem (hs : fs.Sound) (hns : ns ≠ [])
    (h : fs.entry (Path.rooted ns) = .ok e) : ∀ c ∈ Path.rooted ns, Surrogate.code? c = none := by
  obtain ⟨-, hat⟩ := (entry_rooted hns).mp h
  have hproper := (hs.at hat).2
  intro c hc
  rw [Path.rooted_eq_stem hns, Path.stem, List.mem_flatMap] at hc
  obtain ⟨n, hn, hc⟩ := hc
  rcases List.mem_cons.mp hc with rfl | hc
  · rfl
  · exact (hproper n.text (List.mem_map_of_mem hn)).2.2.2.2 c hc

theorem Sound.readPath (hs : fs.Sound) (hns : ns ≠ [])
    (h : fs.entry (Path.rooted ns) = .ok (.file content)) :
    fs.readPath (Path.rooted ns) = .ok content := by
  have hfile : fs.readFile (Path.rooted ns) = .ok content := by
    rw [readFile, h]
    rfl
  rw [FileTree.readPath, Utf8.encodePath_eq (hs.code?_of_mem hns h)]
  simp only [Utf8.decode_encode, hfile]
  rfl

/-- A file that looks the same is read the same. -/
theorem loadMapping_congr (hs₀ : fs₀.Sound) (hs₁ : fs₁.Sound) (hns : ns ≠ [])
    (hfile : fs₀.isFile (Path.rooted ns) = true)
    (h : fs₀.sight (Path.rooted ns) = fs₁.sight (Path.rooted ns)) :
    fs₀.loadMapping (Path.rooted ns) = fs₁.loadMapping (Path.rooted ns) := by
  obtain ⟨content, hcontent⟩ := isFile_iff.mp hfile
  have hread₀ := hs₀.readPath hns (sight_eq_file.mp hcontent)
  have hread₁ := hs₁.readPath hns (sight_eq_file.mp (h ▸ hcontent))
  have hload : fs₀.load (Path.rooted ns) = fs₁.load (Path.rooted ns) := by
    rw [load, load, hread₀, hread₁]
  rw [loadMapping, loadMapping, load?, load?, hload]

end FileTree

/-! ## Writing a file -/

namespace Entry

variable {e : Option Entry} {f : Option Entry → Option Entry} {es : List (Text × Entry)}
  {n : Text} {way ps : List Text} {content : Octets}

/-- There are directories along the way, and a file or nothing at its end. -/
def TakesFile : List Text → Option Entry → Prop
  | [], e => ∀ es, e ≠ some (.directory es)
  | n :: ns, e => ∃ es, e = some (.directory es) ∧ TakesFile ns (es.lookup n)

theorem lookup_alterEntries (hf : ∀ e, (f e).isSome) (m : Text) :
    (alterEntries n f es).lookup m = if m = n then f (es.lookup n) else es.lookup m := by
  -- The list is gone through once; every name keeps its place.
  induction es with
  | nil =>
    obtain ⟨e, he⟩ := Option.isSome_iff_exists.mp (hf none)
    by_cases hm : m = n
    · subst hm
      simp [alterEntries, he]
    · simp [alterEntries, he, hm, List.lookup_cons, beq_eq_false_iff_ne.mpr hm]
  | cons p es ih =>
    obtain ⟨k, e⟩ := p
    obtain ⟨e', he'⟩ := Option.isSome_iff_exists.mp (hf (some e))
    -- At the name itself the new entry stands; elsewhere the search goes on.
    by_cases hk : k = n
    · subst hk
      by_cases hm : m = k
      · subst hm
        simp [alterEntries, he']
      · simp [alterEntries, he', hm, List.lookup_cons, beq_eq_false_iff_ne.mpr hm]
    · by_cases hm : m = k
      · subst hm
        simp [alterEntries, hk]
      · simp [alterEntries, hk, List.lookup_cons, beq_eq_false_iff_ne.mpr hm,
          beq_eq_false_iff_ne.mpr (Ne.symm hk), ih]

theorem isSome_alter (way : List Text) (e : Option Entry) :
    (alter (fun _ => some (.file content)) way e).isSome := by
  cases way <;> rfl

/-- Elsewhere than at the file that is written everything looks as before. -/
theorem sight_alter (hway : TakesFile way e) (hps : ps ≠ way) :
    FileTree.Sight.of ((alter (fun _ => some (.file content)) way e).bind (at? ps)) =
      FileTree.Sight.of (e.bind (at? ps)) := by
  -- Induction along the way to the file.
  induction way generalizing e ps with
  | nil =>
    -- Nothing lies below a file.
    obtain ⟨m, ps, rfl⟩ := List.exists_cons_of_ne_nil hps
    cases e with
    | none => rfl
    | some e =>
      cases e with
      | file octets => rfl
      | directory es => exact absurd rfl (hway es)
  | cons n way ih =>
    obtain ⟨es, rfl, hrest⟩ := hway
    cases ps with
    | nil => rfl
    | cons m ps =>
      have hlookup := @lookup_alterEntries (alter (fun _ => some (.file content)) way) es n
        (isSome_alter way) m
      simp only [alter, Option.map_some, Option.getD_some, entries, Option.bind_some, at?, child?,
        hlookup]
      -- Where the path turns off, what is there is not touched.
      by_cases hm : m = n
      · subst hm
        rw [if_pos rfl]
        exact ih hrest fun hsame => hps (by rw [hsame])
      · rw [if_neg hm]

end Entry

namespace FileTree

variable [Place] {fs fs₀ fs₁ : FileTree} {ns ps : List Path.Name} {content : Octets}

theorem sight_congr (hps : ps ≠ [])
    (h : Sight.of (fs₀.root.at? (ps.map Path.Name.text)) =
      Sight.of (fs₁.root.at? (ps.map Path.Name.text))) :
    fs₀.sight (Path.rooted ps) = fs₁.sight (Path.rooted ps) := by
  -- A path that is admitted is followed name by name.
  by_cases hadmits : Admits ps
  · have hentry (fs : FileTree) : (fs.entry (Path.rooted ps)).toOption =
        fs.root.at? (ps.map Path.Name.text) := by
      cases hfs : fs.entry (Path.rooted ps) with
      | ok e => exact ((entry_rooted hps).mp hfs).2.symm
      | error err =>
        cases hat : fs.root.at? (ps.map Path.Name.text) with
        | none => rfl
        | some e =>
          rw [(entry_rooted hps).mpr ⟨hadmits, hat⟩] at hfs
          cases hfs
    rw [sight, sight, hentry, hentry, h]
  · -- A path that is not taken leads nowhere in either.
    have hentry (fs : FileTree) : (fs.entry (Path.rooted ps)).toOption = none := by
      cases hfs : fs.entry (Path.rooted ps) with
      | ok e => exact absurd ((entry_rooted hps).mp hfs).1 hadmits
      | error err => rfl
    rw [sight, sight, hentry, hentry]

/-- Writing a file changes what is seen at the file only. -/
theorem sight_alterAt
    (hway : Entry.TakesFile (ns.map Path.Name.text) (some fs.root)) (hps : ps ≠ []) (h : ps ≠ ns) :
    (fs.alterAt (ns.map Path.Name.text) fun _ => some (.file content)).sight (Path.rooted ps) =
      fs.sight (Path.rooted ps) := by
  refine sight_congr hps ?_
  have htexts : ps.map Path.Name.text ≠ ns.map Path.Name.text := fun hsame =>
    h (List.map_injective_iff.mpr (fun n m hnm => Path.Name.ext hnm) hsame)
  have hsight := @Entry.sight_alter (some fs.root) (ns.map Path.Name.text) (ps.map Path.Name.text)
    content hway htexts
  obtain ⟨e, he⟩ := Option.isSome_iff_exists.mp
    (@Entry.isSome_alter content (ns.map Path.Name.text) (some fs.root))
  rw [he] at hsight
  rw [alterAt, he]
  exact hsight

end FileTree

end PlaybookAssist
