import PlaybookAssist.Proofs.Document.Above
import PlaybookAssist.Text.Margin

/-!
# The column of the cursor

What counts for the column at which a suggestion may be asked for are the spaces in front of the
cursor, and for the column to which the lines of a prediction are moved it is the place of the cursor
itself. The two are the same where nothing but spaces stands in front of the cursor. Where a blank of
another kind does, the cursor stands further to the right than the name of the task, and so do the
lines of the prediction.

## Main definitions

- `Document.Holds` : the position is one of the document
- `Document.beforeCursor` : the line of the cursor, up to the cursor

## Main statements

- `Document.leadingSpaces_beforeCursor` : the spaces that count are as many as above
- `Document.character_eq_iff_spaces` : when the cursor stands at the column of the task
- `Document.misplaced_after_tab` : a suggestion may be asked for at another column
-/

namespace PlaybookAssist

/-! ## Spaces at the front -/

theorem leadingSpaces_le_length (t : Text) : leadingSpaces t ≤ t.length :=
  (List.takeWhile_sublist _).length_le

/-- A text has its own length in spaces at its front if it holds nothing else. -/
theorem leadingSpaces_eq_length_iff {t : Text} :
    leadingSpaces t = t.length ↔ ∀ c ∈ t, c = ' ' := by
  unfold leadingSpaces
  constructor
  · intro hlength
    have hall : t.takeWhile (· = ' ') = t := (List.takeWhile_prefix _).eq_of_length hlength
    simpa using List.takeWhile_eq_self_iff.mp hall
  · intro hall
    apply congrArg List.length
    apply List.takeWhile_eq_self_iff.mpr
    simpa using hall

/-- The second line of a text of two lines without a margin is moved to the column. -/
theorem Text.reindent_two_lines (column : Int) :
    reindent "a\na" column = ['a', '\n'] ++ List.replicate column.toNat ' ' ++ ['a'] := by
  have hlines : dedent (splitOn '\n' "a\na") = [['a'], ['a']] := rfl
  have hindent : indentLine column ['a'] = List.replicate column.toNat ' ' ++ ['a'] := rfl
  rw [reindent, hlines]
  simp [hindent, joinWith]

namespace Document

variable {d : Document} {p : Position}

/-- The position is one of the document: it lies in a line of it, or at the end of one. -/
structure Holds (d : Document) (p : Position) : Prop where
  line_nonneg : 0 ≤ p.line
  line_lt : p.line < d.lines.length
  character_nonneg : 0 ≤ p.character
  character_le : p.character ≤ (d.lineAt p.line).length

/-- The line of the cursor, up to the cursor. -/
def beforeCursor (d : Document) (p : Position) : Text :=
  Text.takeSigned p.character (d.lineAt p.line)

/-- In a document that holds the position, the column is the number of characters in front of it. -/
theorem Holds.length_beforeCursor (h : d.Holds p) : ((d.beforeCursor p).length : Int) = p.character := by
  obtain ⟨k, hk⟩ := Int.eq_ofNat_of_zero_le h.character_nonneg
  have hle : k ≤ (d.lineAt p.line).length := by
    have hcharacter := h.character_le
    omega
  have hbefore : d.beforeCursor p = (d.lineAt p.line).take k := by
    unfold beforeCursor
    rw [hk]
    rfl
  rw [hbefore, List.length_take, Nat.min_eq_left hle, hk]

/-- Where a suggestion may be asked for, as many spaces stand in front of the cursor as in front of
    the name of the task. -/
theorem leadingSpaces_beforeCursor (h : (d.checkTrigger p).isOk = true) :
    leadingSpaces (d.beforeCursor p) = leadingSpaces (d.lineAt (p.line - 1)) := by
  obtain ⟨before, named, after, hstands⟩ := exists_standsBelow h
  have hline : 0 < p.line := by
    have hline := hstands.line
    omega
  simp only [TriggerCheck.isOk, checkTrigger, if_pos hline, Bool.and_eq_true, beq_iff_eq] at h
  exact h.2.symm

/-- Where a suggestion may be asked for, the cursor stands at the column of the name of the task or
    further to the right. It stands at this column exactly if there are only spaces in front of it,
    and exactly then all predictions are moved to this column. -/
theorem character_eq_iff_spaces (h : (d.checkTrigger p).isOk = true) (hholds : d.Holds p) :
    let column := leadingSpaces (d.lineAt (p.line - 1))
    column ≤ p.character ∧
      (p.character = column ↔ ∀ c ∈ d.beforeCursor p, c = ' ') ∧
      ((∀ t, Text.reindent t p.character = Text.reindent t column) ↔
        ∀ c ∈ d.beforeCursor p, c = ' ') := by
  intro column
  have hspaces : leadingSpaces (d.beforeCursor p) = column := leadingSpaces_beforeCursor h
  have hlength := hholds.length_beforeCursor
  have hle : column ≤ (d.beforeCursor p).length := hspaces ▸ leadingSpaces_le_length _
  -- The column counts leading spaces, so it is reached only through spaces.
  have hcolumn : p.character = column ↔ ∀ c ∈ d.beforeCursor p, c = ' ' := by
    rw [← leadingSpaces_eq_length_iff, hspaces]
    omega
  refine ⟨by omega, hcolumn, ?_⟩
  rw [← hcolumn]
  constructor
  · -- A prediction of two lines shows the column.
    intro hmoved
    have htwo := congrArg List.length (hmoved "a\na")
    simp only [Text.reindent_two_lines, List.length_append, List.length_replicate] at htwo
    omega
  -- The same column reindents every text in the same way.
  · intro heq t
    rw [heq]

/-! ### A tab in front of the cursor -/

namespace Sample

/-- The name of a task, and blanks below it that a document may hold. -/
def tasks (blanks : Text) : Document :=
  ⟨"/tasks.yml", ("- block:\n  - name: x\n" : Text) ++ blanks, "ansible"⟩

end Sample

/-- Below the name, at its column. -/
theorem character_eq_below_name :
    ((Sample.tasks "   ").checkTrigger ⟨2, 2⟩).isOk = true ∧ (Sample.tasks "   ").Holds ⟨2, 2⟩ ∧
      leadingSpaces ((Sample.tasks "   ").lineAt 1) = 2 ∧
      ∀ t, Text.reindent t 2 =
        Text.reindent t (leadingSpaces ((Sample.tasks "   ").lineAt 1)) := by
  have hok : ((Sample.tasks "   ").checkTrigger ⟨2, 2⟩).isOk = true := by decide
  have hholds : (Sample.tasks "   ").Holds ⟨2, 2⟩ := by constructor <;> decide
  have hbefore : (Sample.tasks "   ").beforeCursor ⟨2, 2⟩ = [' ', ' '] := by decide
  have hspaces : ∀ c ∈ (Sample.tasks "   ").beforeCursor ⟨2, 2⟩, c = ' ' := by
    rw [hbefore]
    simp
  obtain ⟨-, -, hmoved⟩ := character_eq_iff_spaces hok hholds
  exact ⟨hok, hholds, by decide, hmoved.mpr hspaces⟩

/-- Behind a tab a suggestion may be asked for at a column that is not the one of the task. -/
theorem misplaced_after_tab :
    ¬ ∀ (d : Document) (p : Position), (d.checkTrigger p).isOk = true → d.Holds p →
      p.character = leadingSpaces (d.lineAt (p.line - 1)) := by
  intro hclaim
  have hok : ((Sample.tasks "  \t").checkTrigger ⟨2, 3⟩).isOk = true := by decide
  have hholds : (Sample.tasks "  \t").Holds ⟨2, 3⟩ := by constructor <;> decide
  have hcolumn : leadingSpaces ((Sample.tasks "  \t").lineAt 1) = 2 := by decide
  have hthree : (3 : Int) = leadingSpaces ((Sample.tasks "  \t").lineAt 1) :=
    hclaim _ _ hok hholds
  rw [hcolumn] at hthree
  omega

end Document

end PlaybookAssist
