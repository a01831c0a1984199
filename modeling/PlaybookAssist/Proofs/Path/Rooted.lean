import Mathlib.Data.List.Induction
import PlaybookAssist.Path
import PlaybookAssist.Proofs.Text.Ends
import PlaybookAssist.Proofs.Text.Laws

/-!
# Paths from the root

A path of normal form that starts at the root is a list of names. The operations on paths are
operations on these lists: joining appends a name, going up drops one, and a path lies within
another if the names of the one begin with the names of the other.

## Main definitions

- `Path.Name` : a component that names an entry of a directory
- `Path.rooted` : the path with given names
- `Path.atRoot` : the root as the place that paths are seen from

## Main statements

- `Path.absolute_cases` : the normal form of any path, seen from the working directory
- `Path.isWithin_rooted`, `Path.relativeTo_of_names` : relations between paths, by their names
-/

namespace PlaybookAssist.Path

/-- A component of a path that names an entry of a directory. -/
@[ext]
structure Name where
  text : Text
  ne_nil : text ≠ []
  not_mem_slash : '/' ∉ text
  ne_here : text ≠ ['.']
  ne_up : text ≠ ['.', '.']
  deriving DecidableEq

/-- The path that leads from the root along the given names. -/
def rooted (ns : List Name) : Text :=
  '/' :: Text.joinWith ['/'] (ns.map Name.text)

/-- The names of a path, each after a slash. -/
def stem (ns : List Name) : Text :=
  ns.flatMap fun n => '/' :: n.text

variable {ns ms ds : List Name} {n : Name} {p : Text}

/-! ## Names of a path -/

theorem not_mem_slash_of_mem (t : Text) (h : t ∈ ns.map Name.text) : '/' ∉ t := by
  obtain ⟨n, -, rfl⟩ := List.mem_map.mp h
  exact n.not_mem_slash

theorem stem_append (ns ms : List Name) : stem (ns ++ ms) = stem ns ++ stem ms :=
  List.flatMap_append

/-- Between the root and the names of a path there is no difference, unless there are no names. -/
theorem rooted_eq_stem (h : ns ≠ []) : rooted ns = stem ns := by
  induction ns with
  | nil => exact absurd rfl h
  | cons n ns ih =>
    by_cases hns : ns = []
    · subst hns
      exact congrArg ('/' :: ·) (List.append_nil n.text).symm
    · have hjoin : Text.joinWith ['/'] (n.text :: ns.map Name.text) = n.text ++ rooted ns :=
        Text.joinWith_cons (by simpa using hns)
      rw [rooted, List.map_cons, hjoin, ih hns]
      rfl

theorem rooted_append (ns : List Name) (h : ms ≠ []) : rooted (ns ++ ms) = stem ns ++ stem ms := by
  rw [rooted_eq_stem (by simp [h]), stem_append]

theorem rooted_concat (ns : List Name) (n : Name) :
    rooted (ns ++ [n]) = stem ns ++ '/' :: n.text := by
  rw [rooted_append ns (List.cons_ne_nil _ _)]
  exact congrArg (stem ns ++ '/' :: ·) (List.append_nil n.text)

theorem splitOn_stem (ns : List Name) : Text.splitOn '/' (stem ns) = [] :: ns.map Name.text := by
  by_cases h : ns = []
  · subst h
    rfl
  · have hsplit : Text.splitOn '/' (rooted ns) =
        [] :: Text.splitOn '/' (Text.joinWith ['/'] (ns.map Name.text)) :=
      Text.splitOn_append_cons [] _
    rw [← rooted_eq_stem h, hsplit, Text.splitOn_joinWith (by simpa using h) not_mem_slash_of_mem]

/-- A name does not begin with a slash. -/
theorem exists_cons_stem (h : ns ≠ []) : ∃ c rest, c ≠ '/' ∧ stem ns = '/' :: c :: rest := by
  obtain ⟨n, ns, rfl⟩ := List.exists_cons_of_ne_nil h
  obtain ⟨c, rest, htext⟩ := List.exists_cons_of_ne_nil n.ne_nil
  refine ⟨c, rest ++ stem ns, ?_, ?_⟩
  · rintro rfl
    exact n.not_mem_slash (htext ▸ List.mem_cons_self)
  · rw [stem, List.flatMap_cons, htext]
    rfl

/-- More names make a longer path. -/
theorem length_rooted_lt (ns : List Name) (h : ms ≠ []) :
    (rooted ns).length < (rooted (ns ++ ms)).length := by
  obtain ⟨c, rest, -, hstem⟩ := exists_cons_stem h
  rw [rooted_append ns h, hstem]
  by_cases hns : ns = []
  · subst hns
    simp [rooted, stem, Text.joinWith]
  · rw [rooted_eq_stem hns, List.length_append, List.length_cons]
    omega

theorem getLast?_stem (ns : List Name) : (stem ns).getLast? ≠ some '/' := by
  induction ns using List.reverseRecOn with
  | nil => simp [stem]
  | append_singleton ns n _ =>
    obtain ⟨c, hc⟩ := Option.ne_none_iff_exists'.mp (mt List.getLast?_eq_none_iff.mp n.ne_nil)
    rw [← rooted_eq_stem (by simp), rooted_concat, List.getLast?_append, List.getLast?_cons, hc]
    intro h
    exact n.not_mem_slash (List.mem_of_getLast? (hc.trans h))

theorem isAbsolute_rooted (ns : List Name) : isAbsolute (rooted ns) = true :=
  rfl

/-! ## Normal form -/

theorem step_name (isRooted : Bool) (taken : List Text) (n : Name) :
    step isRooted taken n.text = n.text :: taken := by
  unfold step
  rw [if_neg (by simp [n.ne_nil, n.ne_here]), if_neg n.ne_up]

theorem foldl_step_names (isRooted : Bool) (taken : List Text) (ns : List Name) :
    (ns.map Name.text).foldl (step isRooted) taken = (ns.map Name.text).reverse ++ taken := by
  induction ns generalizing taken with
  | nil => rfl
  | cons n ns ih =>
    rw [List.map_cons, List.foldl_cons, step_name, ih, List.reverse_cons, List.append_assoc,
      List.singleton_append]

theorem components_rooted (ns : List Name) : components (rooted ns) = ns.map Name.text := by
  have hempty : ∀ taken, step true taken [] = taken := fun taken => if_pos (.inl rfl)
  rw [components, isAbsolute_rooted]
  by_cases hns : ns = []
  · subst hns
    rfl
  · rw [rooted_eq_stem hns, splitOn_stem, List.foldl_cons, hempty, foldl_step_names,
      List.append_nil, List.reverse_reverse]

/-- One more slash at the front adds no component. -/
theorem components_cons_slash (h : isAbsolute p = true) : components ('/' :: p) = components p := by
  have hsplit : Text.splitOn '/' ('/' :: p) = [] :: Text.splitOn '/' p :=
    Text.splitOn_append_cons [] p
  have habsolute : isAbsolute ('/' :: p) = true := rfl
  rw [components, components, habsolute, h, hsplit, List.foldl_cons]
  rfl

theorem rooted_injective : Function.Injective rooted := by
  intro ns ms h
  have htexts : ns.map Name.text = ms.map Name.text := by
    rw [← components_rooted, h, components_rooted]
  exact List.map_injective_iff.mpr (fun n m hnm => Name.ext hnm) htexts

/-- The components of an absolute path are names: a step up from the root stays there. -/
theorem exists_names_of_isAbsolute (h : isAbsolute p = true) :
    ∃ ns : List Name, components p = ns.map Name.text := by
  -- What has been taken so far are names, the latest first.
  have hfold : ∀ (parts : List Text) (taken : List Name), (∀ part ∈ parts, '/' ∉ part) →
      ∃ ms : List Name, parts.foldl (step true) (taken.map Name.text) = ms.map Name.text := by
    intro parts
    induction parts with
    | nil => exact fun taken _ => ⟨taken, rfl⟩
    | cons part parts ih =>
      intro taken hparts
      rw [List.forall_mem_cons] at hparts
      have hstep : ∃ ms : List Name, step true (taken.map Name.text) part = ms.map Name.text := by
        -- An empty part and a stay take nothing; a step up takes the latest name away.
        unfold step
        split
        case isTrue hskip => exact ⟨taken, rfl⟩
        case isFalse hskip =>
          rw [not_or] at hskip
          split
          case isTrue hup =>
            cases taken with
            | nil => exact ⟨[], rfl⟩
            | cons latest earlier => exact ⟨earlier, if_neg latest.ne_up⟩
          case isFalse hup =>
            -- Everything else is a name.
            exact ⟨⟨part, hskip.1, hparts.1, hskip.2, hup⟩ :: taken, rfl⟩
      obtain ⟨ms, hms⟩ := hstep
      rw [List.foldl_cons, hms]
      exact ih ms hparts.2
  obtain ⟨ms, hms⟩ := hfold (Text.splitOn '/' p) [] fun part => Text.not_mem_of_mem_splitOn
  refine ⟨ms.reverse, ?_⟩
  rw [components, h, List.map_reverse]
  exact congrArg List.reverse hms

theorem root_rooted (ns : List Name) : root (rooted ns) = ['/'] := by
  by_cases hns : ns = []
  · subst hns
    rfl
  · obtain ⟨c, rest, hc, hstem⟩ := exists_cons_stem hns
    rw [rooted_eq_stem hns, hstem]
    simp [root, hc]

theorem normalise_rooted (ns : List Name) : normalise (rooted ns) = rooted ns := by
  rw [normalise, root_rooted, components_rooted]
  rfl

/-- The normal form of an absolute path. -/
theorem normalise_of_isAbsolute (h : isAbsolute p = true) :
    ∃ ns : List Name, components p = ns.map Name.text ∧
      (root p = ['/'] ∧ normalise p = rooted ns ∨
        root p = ['/', '/'] ∧ normalise p = '/' :: rooted ns) := by
  obtain ⟨ns, hns⟩ := exists_names_of_isAbsolute h
  refine ⟨ns, hns, ?_⟩
  -- An absolute path starts with one slash or with two; three count as one.
  have hroot : root p = ['/'] ∨ root p = ['/', '/'] := by
    cases p with
    | nil => cases h
    | cons c rest =>
      have hc : c = '/' := by simpa [isAbsolute] using h
      subst hc
      unfold root
      split <;> simp_all
  rcases hroot with hroot | hroot
  · refine .inl ⟨hroot, ?_⟩
    rw [normalise, hroot, hns]
    rfl
  · refine .inr ⟨hroot, ?_⟩
    rw [normalise, hroot, hns]
    rfl

/-! ## Composition -/

/-- A way with parts is relative, as its first part is not empty. -/
theorem isAbsolute_joinWith {parts : List Text} (hslash : ∀ part ∈ parts, '/' ∉ part)
    (hparts : ∀ part ∈ parts, part ≠ []) : isAbsolute (Text.joinWith ['/'] parts) = false := by
  cases parts with
  | nil => rfl
  | cons part parts =>
    rw [List.forall_mem_cons] at hslash hparts
    obtain ⟨c, rest, rfl⟩ := List.exists_cons_of_ne_nil hparts.1
    have hc : c ≠ '/' := by
      rintro rfl
      exact hslash.1 List.mem_cons_self
    cases parts with
    | nil => simp [Text.joinWith, isAbsolute, hc]
    | cons next parts => simp [Text.joinWith, isAbsolute, hc]

theorem isAbsolute_names (ms : List Name) :
    isAbsolute (Text.joinWith ['/'] (ms.map Name.text)) = false := by
  apply isAbsolute_joinWith not_mem_slash_of_mem
  intro part hpart
  obtain ⟨n, -, rfl⟩ := List.mem_map.mp hpart
  exact n.ne_nil

/-- What is joined to a directory follows after a slash; one at the end of the directory makes no
    difference. -/
theorem join_of_relative {t : Text} (h : isAbsolute t = false)
    (hp : p = rooted ns ∨ p = stem ns ++ ['/']) : join p t = stem ns ++ '/' :: t := by
  have hslash : join (stem ns ++ ['/']) t = stem ns ++ '/' :: t := by
    simp [join, h]
  by_cases hns : ns = []
  · -- The root is its own slash at the end.
    subst hns
    have hroot : p = stem [] ++ ['/'] := hp.elim id id
    rw [hroot, hslash]
  · rcases hp with rfl | rfl
    · have hne : stem ns ≠ [] := by
        obtain ⟨c, rest, -, hstem⟩ := exists_cons_stem hns
        rw [hstem]
        exact List.cons_ne_nil _ _
      rw [rooted_eq_stem hns]
      simp [join, h, hne, getLast?_stem ns]
    · exact hslash

/-- Joining appends names. -/
theorem join_stem (h : ms ≠ []) (hp : p = rooted ns ∨ p = stem ns ++ ['/']) :
    join p (Text.joinWith ['/'] (ms.map Name.text)) = rooted (ns ++ ms) := by
  rw [join_of_relative (isAbsolute_names ms) hp, rooted_append ns h, ← rooted_eq_stem h]
  rfl

theorem join_rooted (ns : List Name) (n : Name) : join (rooted ns) n.text = rooted (ns ++ [n]) :=
  join_stem (List.cons_ne_nil n []) (.inl rfl)

theorem splitLast_append {t : Text} (s : Text) (h : '/' ∉ t) :
    splitLast (s ++ '/' :: t) = (s ++ ['/'], t) := by
  -- read from the end, the slash stops the last part, which has none
  have htail : ((s ++ '/' :: t).reverse.takeWhile (· ≠ '/')).reverse = t := by
    have hall : ∀ c ∈ t.reverse, decide (c ≠ '/') = true := by
      intro c hc
      rw [decide_eq_true_eq]
      rintro rfl
      exact h (List.mem_reverse.mp hc)
    rw [List.reverse_append, List.reverse_cons, List.append_assoc,
      List.takeWhile_append_of_pos hall]
    simp
  have hlength : (s ++ '/' :: t).length - t.length = (s ++ ['/']).length := by
    simp only [List.length_append, List.length_cons, List.length_nil]
    omega
  have happend : s ++ '/' :: t = (s ++ ['/']) ++ t := by simp
  rw [splitLast, htail, hlength, happend, List.take_left]

/-- Where no slash stands at the end, none is taken away. -/
theorem trimEnd_of_getLast? {t : Text} (h : t.getLast? ≠ some '/') :
    Text.trimEnd (· = '/') t = t := by
  apply Text.trimEnd_eq_self_iff.mpr
  rintro c hc
  apply decide_eq_false
  rintro rfl
  exact h hc

theorem trimEnd_stem (ns : List Name) : Text.trimEnd (· = '/') (stem ns) = stem ns :=
  trimEnd_of_getLast? (getLast?_stem ns)

theorem trimEnd_slash (t : Text) :
    Text.trimEnd (· = '/') (t ++ ['/']) = Text.trimEnd (· = '/') t :=
  Text.trimEnd_append_of_all (by simp)

theorem trimEnd_rooted (ns : List Name) : Text.trimEnd (· = '/') (rooted ns) = stem ns := by
  by_cases hns : ns = []
  · subst hns
    rfl
  · rw [rooted_eq_stem hns, trimEnd_stem]

theorem name_rooted (ns : List Name) (n : Name) : name (rooted (ns ++ [n])) = n.text := by
  rw [name, rooted_concat, splitLast_append _ n.not_mem_slash]

theorem parent_rooted (ns : List Name) (n : Name) : parent (rooted (ns ++ [n])) = rooted ns := by
  have hhead : (splitLast (rooted (ns ++ [n]))).1 = stem ns ++ ['/'] := by
    rw [rooted_concat, splitLast_append _ n.not_mem_slash]
  rw [parent, hhead, trimEnd_slash, trimEnd_stem]
  by_cases hns : ns = []
  · subst hns
    rfl
  · obtain ⟨c, rest, -, hstem⟩ := exists_cons_stem hns
    rw [rooted_eq_stem hns, hstem]
    rfl

/-! ## Below the working directory -/

variable [Place]

theorem absolute_rooted (ns : List Name) : absolute (rooted ns) = rooted ns := by
  rw [absolute, isAbsolute_rooted, if_pos rfl, normalise_rooted]

/-- The normal form of any path, seen from the working directory, is a path from the root; it may
    begin with two slashes. -/
theorem absolute_cases (p : Text) :
    ∃ ns : List Name, absolute p = rooted ns ∨ absolute p = '/' :: rooted ns := by
  -- Where the path is relative, it is taken below the working directory.
  have hplace : isAbsolute (if isAbsolute p then p else join Place.workingDirectory p) = true := by
    split
    case isTrue h => exact h
    case isFalse h =>
      -- What is appended to the working directory does not change where it starts.
      have hwd := Place.workingDirectory_isAbsolute
      cases hw : Place.workingDirectory with
      | nil => rw [hw] at hwd; cases hwd
      | cons c rest =>
        rw [hw] at hwd
        unfold join
        rw [if_neg h]
        split <;> exact hwd
  obtain ⟨ns, -, h | h⟩ := normalise_of_isAbsolute hplace
  · exact ⟨ns, .inl h.2⟩
  · exact ⟨ns, .inr h.2⟩

/-- The place from which paths are seen as from the root. -/
@[reducible] def atRoot : Place :=
  ⟨rooted [], rooted [], isAbsolute_rooted [], normalise_rooted []⟩

end PlaybookAssist.Path
