import Mathlib.Data.List.TakeWhile
import PlaybookAssist.Proofs.Text.Laws
import PlaybookAssist.Text.Margin

/-!
# What a text is moved by

The margin of some lines is the longest run of spaces and tabs that the lines with content begin with.
A text that is moved to a column loses its margin and keeps its lines: each line with content is what
followed the margin, behind as many spaces as the column says, and the others are empty. So a text does
not depend on where it stood before, and to move it to the first column once is enough.

## Main definitions

- `Text.IsRun`, `Text.HasContent` : spaces and tabs, and lines that hold more than these
- `Text.IsMargin` : the margin by what it is
- `Text.arranged` : lines, of which all but the first are moved to a column

## Main statements

- `Text.isMargin_margin`, `Text.IsMargin.unique` : the margin that is found, and no other
- `Text.dedent_map_append`, `Text.dedent_dedent` : lines that are moved, or without a margin
- `Text.splitOn_reindent` : the lines of a text that is moved
- `Text.reindent_by_margin` : what becomes of a text
-/

namespace PlaybookAssist.Text

variable {r s t w m m' line d : Text} {lines : List Text} {column : Int}

/-! ## Common beginnings -/

/-- The texts that both texts begin with are those that their common start begins with. -/
theorem prefix_commonStart_iff : r <+: commonStart s t ↔ r <+: s ∧ r <+: t := by
  -- Induction over the first text; the common start goes on while the characters agree.
  induction s generalizing r t with
  | nil => simp +contextual [commonStart]
  | cons a s ih =>
    cases t with
    | nil => simp +contextual [commonStart]
    | cons b t =>
      cases r with
      | nil => simp
      | cons c r =>
        unfold commonStart
        split
        case isTrue hab =>
          subst hab
          simp only [List.cons_prefix_cons, ih]
          tauto
        -- Where they differ, nothing longer is common.
        case isFalse hab =>
          simp only [List.cons_prefix_cons, List.prefix_nil, reduceCtorEq, false_iff]
          rintro ⟨⟨rfl, -⟩, hb, -⟩
          exact hab hb

/-! ## Runs and lines with content -/

/-- A text of spaces and tabs. -/
def IsRun (r : Text) : Prop :=
  ∀ c ∈ r, isIndent c = true

/-- A line that holds more than spaces and tabs. -/
def HasContent (line : Text) : Prop :=
  ∃ c ∈ line, isIndent c = false

theorem isRun_iff : r.all isIndent = true ↔ IsRun r := by
  simp [IsRun]

theorem not_isRun_iff : ¬ IsRun line ↔ HasContent line := by
  simp [IsRun, HasContent]

theorem not_hasContent_nil : ¬ HasContent [] := by
  simp [HasContent]

theorem IsRun.append (hr : IsRun r) (hs : IsRun s) : IsRun (r ++ s) :=
  List.forall_mem_append.mpr ⟨hr, hs⟩

/-- Spaces and tabs in front of a line are no content. -/
theorem hasContent_append_iff (hw : IsRun w) : HasContent (w ++ line) ↔ HasContent line := by
  rw [← not_isRun_iff, ← not_isRun_iff, not_iff_not]
  constructor
  · intro h c hc
    exact h c (List.mem_append_right w hc)
  · exact hw.append

/-- A line begins with a run if its own run does. -/
theorem IsRun.prefix_takeWhile_iff (hr : IsRun r) :
    r <+: line.takeWhile isIndent ↔ r <+: line := by
  constructor
  · intro h
    exact h.trans (List.takeWhile_prefix _)
  · rintro ⟨rest, rfl⟩
    rw [List.takeWhile_append_of_pos hr]
    exact List.prefix_append _ _

/-! ## Margins -/

/-- The longest run of spaces and tabs that all lines with content begin with. -/
structure IsMargin (m : Text) (lines : List Text) : Prop where
  run : IsRun m
  common : ∀ line ∈ lines, HasContent line → m <+: line
  longest : ∀ r, IsRun r → (∃ line ∈ lines, HasContent line) →
    (∀ line ∈ lines, HasContent line → r <+: line) → r <+: m

/-- Lines with content have one margin. -/
theorem IsMargin.unique (h : IsMargin m lines) (h' : IsMargin m' lines)
    (hcontent : ∃ line ∈ lines, HasContent line) : m = m' := by
  have hle : m <+: m' := h'.longest m h.run hcontent h.common
  have hge : m' <+: m := h.longest m' h'.run hcontent h'.common
  exact hle.eq_of_length (Nat.le_antisymm hle.length_le hge.length_le)

/-- There is no margin to be found where no line has content. -/
theorem margin?_eq_none_iff : margin? lines = none ↔ ∀ line ∈ lines, ¬ HasContent line := by
  induction lines with
  | nil => simp [margin?]
  | cons line lines ih =>
    unfold margin?
    split
    case isTrue hrun =>
      have hnone : ¬ HasContent line := by simpa [← not_isRun_iff] using isRun_iff.mp hrun
      simp [ih, hnone]
    case isFalse hrun =>
      have hsome : HasContent line := not_isRun_iff.mp fun h => hrun (isRun_iff.mpr h)
      cases margin? lines <;> simp [hsome]

/-- The runs that the margin begins with are those that all lines with content begin with. -/
theorem prefix_margin?_iff (hr : IsRun r) (h : margin? lines = some m) :
    r <+: m ↔ ∀ line ∈ lines, HasContent line → r <+: line := by
  -- Induction over the lines; a blank one is passed over.
  induction lines generalizing m with
  | nil => cases h
  | cons line lines ih =>
    rw [List.forall_mem_cons]
    unfold margin? at h
    split at h
    case isTrue hrun =>
      have hnone : ¬ HasContent line := by simpa [← not_isRun_iff] using isRun_iff.mp hrun
      simp [ih h, hnone]
    case isFalse hrun =>
      have hsome : HasContent line := not_isRun_iff.mp fun h => hrun (isRun_iff.mpr h)
      have hown : r <+: line.takeWhile isIndent ↔ r <+: line := hr.prefix_takeWhile_iff
      cases hothers : margin? lines with
      | none =>
        -- No other line has content.
        have hnone := margin?_eq_none_iff.mp hothers
        simp only [hothers, Option.some.injEq] at h
        subst h
        rw [hown]
        constructor
        · intro hline
          exact ⟨fun _ => hline, fun other hmem hcontent => absurd hcontent (hnone other hmem)⟩
        · intro hall
          exact hall.1 hsome
      -- The margin of the others is cut down to what this line shares with it.
      | some others =>
        simp only [hothers, Option.some.injEq] at h
        subst h
        rw [prefix_commonStart_iff, hown, ih hothers]
        simp [hsome]

/-- A margin is a run, as it is part of a line's own run. -/
theorem isRun_of_margin? (h : margin? lines = some m) : IsRun m := by
  -- A margin is part of the run of some line, and so it is a run itself.
  induction lines with
  | nil => cases h
  | cons line lines ih =>
    have hown : IsRun (line.takeWhile isIndent) := by
      intro c hc
      exact List.mem_takeWhile_imp hc
    unfold margin? at h
    split at h
    case isTrue => exact ih h
    case isFalse =>
      have hpart : m <+: line.takeWhile isIndent := by
        cases hothers : margin? lines with
        | none =>
          simp only [hothers, Option.some.injEq] at h
          exact h ▸ List.prefix_refl _
        | some others =>
          simp only [hothers, Option.some.injEq] at h
          subst h
          exact (prefix_commonStart_iff.mp (List.prefix_refl _)).1
      intro c hc
      exact hown c (hpart.subset hc)

/-- The margin that is found is the margin. -/
theorem isMargin_margin (lines : List Text) : IsMargin (margin lines) lines := by
  unfold margin
  cases h : margin? lines with
  -- Without content anything is common to all lines, and the empty run is the longest.
  | none =>
    have hnone := margin?_eq_none_iff.mp h
    constructor
    · simp [IsRun]
    · intro line hmem hcontent
      exact absurd hcontent (hnone line hmem)
    · intro r _ hcontent
      obtain ⟨line, hmem, hline⟩ := hcontent
      exact absurd hline (hnone line hmem)
  -- With content the margin is what every such line begins with.
  | some m =>
    have hrun := isRun_of_margin? h
    constructor
    · exact hrun
    · exact (prefix_margin?_iff hrun h).mp (List.prefix_refl m)
    · intro r hr _ hcommon
      exact (prefix_margin?_iff hr h).mpr hcommon

/-! ## Lines without their margin -/

/-- A line whose margin is `m`, without it. -/
def withoutMargin (m line : Text) : Text :=
  if line.all isIndent then [] else line.drop m.length

theorem dedent_eq (lines : List Text) :
    dedent lines = lines.map (withoutMargin (margin lines)) :=
  rfl

theorem withoutMargin_of_not_hasContent (h : ¬ HasContent line) : withoutMargin m line = [] := by
  have hrun : IsRun line := by simpa [← not_isRun_iff] using h
  simp [withoutMargin, isRun_iff.mpr hrun]

/-- A line with content is the margin and what is left. -/
theorem withoutMargin_append (h : HasContent (m ++ d)) : withoutMargin m (m ++ d) = d := by
  have hrun : (m ++ d).all isIndent = false := by
    rw [← Bool.not_eq_true, isRun_iff, not_isRun_iff]
    exact h
  simp only [withoutMargin, hrun, Bool.false_eq_true, if_false, List.drop_left]

/-- What is left of a line has content if the line has. -/
theorem hasContent_withoutMargin_iff (h : IsMargin m lines) (hmem : line ∈ lines) :
    HasContent (withoutMargin m line) ↔ HasContent line := by
  by_cases hcontent : HasContent line
  · obtain ⟨d, rfl⟩ := h.common line hmem hcontent
    rw [withoutMargin_append hcontent, hasContent_append_iff h.run]
  · rw [withoutMargin_of_not_hasContent hcontent]
    exact iff_of_false not_hasContent_nil hcontent

/-- Lines without their margin have none. -/
theorem IsMargin.map_withoutMargin (h : IsMargin m lines) :
    IsMargin [] (lines.map (withoutMargin m)) := by
  constructor
  · simp [IsRun]
  · simp
  · intro r hr hcontent hcommon
    obtain ⟨left, hleft, hcontent⟩ := hcontent
    obtain ⟨line, hmem, rfl⟩ := List.mem_map.mp hleft
    rw [hasContent_withoutMargin_iff h hmem] at hcontent
    -- The margin and such a run behind it would be a longer margin.
    have hlonger : m ++ r <+: m := by
      apply h.longest
      · exact h.run.append hr
      · exact ⟨line, hmem, hcontent⟩
      · intro other hother hothercontent
        have hrest := hcommon _ (List.mem_map_of_mem hother)
          ((hasContent_withoutMargin_iff h hother).mpr hothercontent)
        obtain ⟨d, rfl⟩ := h.common other hother hothercontent
        rw [withoutMargin_append hothercontent] at hrest
        exact (List.prefix_append_right_inj m).mpr hrest
    -- No run is longer than the margin, so that nothing is left.
    have hlength := hlonger.length_le
    rw [List.length_append] at hlength
    have hnil : r = [] := List.length_eq_zero_iff.mp (by omega)
    simp [hnil]

/-- Lines behind a run have the margin of the lines behind it. -/
theorem IsMargin.map_append (h : IsMargin m lines) (hw : IsRun w) :
    IsMargin (w ++ m) (lines.map (w ++ ·)) := by
  constructor
  · exact hw.append h.run
  · intro moved hmoved hcontent
    obtain ⟨line, hmem, rfl⟩ := List.mem_map.mp hmoved
    rw [hasContent_append_iff hw] at hcontent
    exact (List.prefix_append_right_inj w).mpr (h.common line hmem hcontent)
  · intro r hr hcontent hcommon
    obtain ⟨moved, hmoved, hcontent⟩ := hcontent
    obtain ⟨line, hmem, rfl⟩ := List.mem_map.mp hmoved
    -- The run is a part of `w`, or it is `w` and a run that the lines begin with.
    rcases List.prefix_or_prefix_of_prefix (hcommon _ hmoved hcontent) (List.prefix_append w line)
      with hpart | hwhole
    · exact hpart.trans (List.prefix_append w m)
    · obtain ⟨rest, rfl⟩ := hwhole
      rw [List.prefix_append_right_inj]
      apply h.longest
      · intro c hc
        exact hr c (List.mem_append_right w hc)
      · exact ⟨line, hmem, (hasContent_append_iff hw).mp hcontent⟩
      · intro other hother hothercontent
        have hrest := hcommon _ (List.mem_map_of_mem hother)
          ((hasContent_append_iff hw).mpr hothercontent)
        exact (List.prefix_append_right_inj w).mp hrest

/-- The lines without their margin are the same whatever run they stand behind. -/
theorem dedent_map_append (hw : IsRun w) (lines : List Text) :
    dedent (lines.map (w ++ ·)) = dedent lines := by
  rw [dedent_eq, dedent_eq, List.map_map]
  apply List.map_congr_left
  intro line hmem
  rw [Function.comp_apply]
  -- A line with content keeps it behind the run, and loses both with the margin.
  by_cases hcontent : HasContent line
  · have hmoved : HasContent (w ++ line) := (hasContent_append_iff hw).mpr hcontent
    have hmargin : margin (lines.map (w ++ ·)) = w ++ margin lines :=
      (isMargin_margin _).unique ((isMargin_margin lines).map_append hw)
        ⟨w ++ line, List.mem_map_of_mem hmem, hmoved⟩
    obtain ⟨d, hd⟩ := (isMargin_margin lines).common line hmem hcontent
    rw [hmargin, ← hd, withoutMargin_append (hd ▸ hcontent), ← List.append_assoc,
      withoutMargin_append]
    rw [List.append_assoc, hd]
    exact hmoved
  -- A line without content becomes empty in either case.
  · have hmoved : ¬ HasContent (w ++ line) := by rwa [hasContent_append_iff hw]
    rw [withoutMargin_of_not_hasContent hcontent, withoutMargin_of_not_hasContent hmoved]

/-- There is no margin to take away a second time. -/
theorem dedent_dedent (lines : List Text) : dedent (dedent lines) = dedent lines := by
  have hmargin := isMargin_margin lines
  rw [dedent_eq (dedent lines), dedent_eq lines]
  conv_rhs => rw [← List.map_id (lines.map _)]
  apply List.map_congr_left
  intro left hleft
  -- a line with content forces the second margin to be empty, one without is blank already
  by_cases hcontent : HasContent left
  · have hnone : margin (lines.map (withoutMargin (margin lines))) = [] :=
      (isMargin_margin _).unique hmargin.map_withoutMargin ⟨left, hleft, hcontent⟩
    rw [hnone]
    exact withoutMargin_append hcontent
  · rw [withoutMargin_of_not_hasContent hcontent]
    obtain ⟨line, hmem, rfl⟩ := List.mem_map.mp hleft
    rw [hasContent_withoutMargin_iff hmargin hmem] at hcontent
    rw [withoutMargin_of_not_hasContent hcontent]
    rfl

/-! ## Lines at a column -/

/-- The lines, of which all but the first are moved to a column. -/
def arranged (column : Int) : List Text → List Text
  | [] => []
  | first :: others => first :: others.map (indentLine column)

theorem length_arranged (column : Int) (lines : List Text) :
    (arranged column lines).length = lines.length := by
  cases lines <;> simp [arranged]

theorem getElem?_arranged (column : Int) (lines : List Text) (i : Nat) :
    (arranged column lines)[i]? =
      lines[i]?.map fun line => if i = 0 then line else indentLine column line := by
  cases lines with
  | nil => rfl
  | cons first others =>
    cases i with
    | zero => rfl
    | succ i => simp [arranged]

/-- Nothing is moved to the first column. -/
theorem arranged_zero (lines : List Text) : arranged 0 lines = lines := by
  have hline : indentLine 0 = id := by
    funext line
    unfold indentLine
    split <;> rfl
  cases lines with
  | nil => rfl
  | cons first others => simp [arranged, hline]

theorem reindent_eq (t : Text) (column : Int) :
    reindent t column = joinWith ['\n'] (arranged column (dedent (splitOn '\n' t))) := by
  unfold reindent
  cases dedent (splitOn '\n' t) <;> rfl

/-- A line of a text holds no line end after it is moved. -/
theorem not_mem_arranged (hline : line ∈ arranged column (dedent (splitOn '\n' t))) : '\n' ∉ line := by
  -- A line of the text has no newline, and arranging only adds spaces to it.
  have hdedent : ∀ left ∈ dedent (splitOn '\n' t), '\n' ∉ left := by
    intro left hleft hnewline
    rw [dedent_eq] at hleft
    obtain ⟨before, hbefore, rfl⟩ := List.mem_map.mp hleft
    apply not_mem_of_mem_splitOn hbefore
    unfold withoutMargin at hnewline
    split at hnewline
    case isTrue => simp at hnewline
    case isFalse => exact List.mem_of_mem_drop hnewline
  generalize dedent (splitOn '\n' t) = lines at hline hdedent
  cases lines with
  | nil => simp [arranged] at hline
  | cons first others =>
    rw [List.forall_mem_cons] at hdedent
    rcases List.mem_cons.mp hline with rfl | hline
    · exact hdedent.1
    · obtain ⟨left, hleft, rfl⟩ := List.mem_map.mp hline
      unfold indentLine
      split
      case isTrue => exact hdedent.2 left hleft
      case isFalse => simp [hdedent.2 left hleft]

/-- The lines of a text that is moved are its lines without their margin, moved. -/
theorem splitOn_reindent (t : Text) (column : Int) :
    splitOn '\n' (reindent t column) = arranged column (dedent (splitOn '\n' t)) := by
  rw [reindent_eq]
  apply splitOn_joinWith
  · rw [← List.length_pos_iff, length_arranged, dedent_eq, List.length_map, List.length_pos_iff]
    exact splitOn_ne_nil _ _
  · intro line hline
    exact not_mem_arranged hline

/-- What becomes of a text that is moved to a column. It keeps its lines. The margin is the longest run
    of spaces and tabs that all lines with content begin with; what follows it is the first line as it
    is, and any later line behind as many spaces as the column says, unless it is blank. All other
    lines become empty. A run in front of all lines makes no difference, and a text that was moved to
    the first column is not changed by moving it there again. -/
theorem reindent_by_margin (t : Text) (column : Int) :
    let lines := splitOn '\n' t
    let moved := splitOn '\n' (reindent t column)
    moved.length = lines.length ∧
      (∃ m, IsMargin m lines ∧ ∀ (i : Nat) (line : Text), lines[i]? = some line →
        (HasContent line → ∃ d, line = m ++ d ∧ moved[i]? = some
          (if i = 0 ∨ isBlankLine d then d else List.replicate column.toNat ' ' ++ d)) ∧
        (¬ HasContent line → moved[i]? = some [])) ∧
      (∀ w, IsRun w → reindent (joinWith "\n" (lines.map (w ++ ·))) column = reindent t column) ∧
      reindent (reindent t 0) 0 = reindent t 0 := by
  intro lines moved
  have hmoved : moved = arranged column (dedent lines) := splitOn_reindent t column
  have hmargin := isMargin_margin lines
  -- What is said of a line is said of its place, for the lines keep their number.
  refine ⟨?_, ⟨margin lines, hmargin, ?_⟩, ?_, ?_⟩
  · rw [hmoved, length_arranged, dedent_eq, List.length_map]
  -- The line at a place is the one without the margin, moved to the column.
  · intro i line hline
    have hget : moved[i]? = some (if i = 0 then withoutMargin (margin lines) line
        else indentLine column (withoutMargin (margin lines) line)) := by
      rw [hmoved, getElem?_arranged, dedent_eq, List.getElem?_map, hline]
      rfl
    constructor
    · intro hcontent
      obtain ⟨d, hd⟩ := hmargin.common line (List.mem_of_getElem? hline) hcontent
      refine ⟨d, hd.symm, ?_⟩
      rw [hget, ← hd, withoutMargin_append (hd ▸ hcontent)]
      unfold indentLine
      by_cases hfirst : i = 0 <;> simp [hfirst]
    · intro hcontent
      rw [hget, withoutMargin_of_not_hasContent hcontent]
      split <;> rfl
  · intro w hw
    -- The lines of the other text are those of this one behind the run.
    have hnewline : '\n' ∉ w := fun h => absurd (hw _ h) (by decide)
    have hlines : splitOn '\n' (joinWith ['\n'] (lines.map (w ++ ·))) = lines.map (w ++ ·) := by
      apply splitOn_joinWith
      · simpa using splitOn_ne_nil '\n' t
      · intro line hline
        obtain ⟨behind, hbehind, rfl⟩ := List.mem_map.mp hline
        simp [hnewline, not_mem_of_mem_splitOn hbehind]
    have hsep : ("\n" : Text) = ['\n'] := rfl
    rw [reindent_eq, reindent_eq, hsep, hlines, dedent_map_append hw]
  -- Moving to the first column twice is moving there once.
  · rw [reindent_eq (reindent t 0), splitOn_reindent, arranged_zero, arranged_zero, dedent_dedent,
      reindent_eq, arranged_zero]

/-- Lines behind two spaces and a tab, with a line of a tab and one of a space and a carriage return
    among them. -/
def mixedLines : Text :=
  "  \ta:\n\t\n  \t  b: 1\n  \t \r"

/-- The two spaces and the tab are the margin; the line of a tab becomes empty, and the blank one is
    not moved to the column. -/
theorem reindent_mixedLines :
    reindent mixedLines 4 = "a:\n\n      b: 1\n \r".toList ∧
      HasContent "  \t  b: 1" ∧ ¬ HasContent "\t" ∧ IsRun "\t " ∧
      (splitOn '\n' (reindent mixedLines 4))[1]? = some [] ∧
      reindent (joinWith "\n" ((splitOn '\n' mixedLines).map (("\t " : Text) ++ ·))) 4 =
        reindent mixedLines 4 := by
  obtain ⟨-, ⟨m, -, hlines⟩, hbehind, -⟩ := reindent_by_margin mixedLines 4
  have hcontent : HasContent "  \t  b: 1" := ⟨'b', by simp, by decide⟩
  have hempty : ¬ HasContent "\t" := by simp [HasContent, isIndent]
  have hrun : IsRun "\t " := by simp [IsRun, isIndent]
  exact ⟨by decide, hcontent, hempty, hrun, (hlines 1 "\t" (by decide)).2 hempty,
    hbehind "\t " hrun⟩

end PlaybookAssist.Text
