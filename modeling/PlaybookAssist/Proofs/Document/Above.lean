import PlaybookAssist.Document
import PlaybookAssist.Proofs.Text.Ends
import PlaybookAssist.Proofs.Text.Laws

/-!
# The text above the cursor

Where a suggestion may be asked for, the line above the cursor names a task and the line of the cursor
is blank. So the prompt is the text of the lines above, whatever stands in the line of the cursor or
behind it and wherever in its line the cursor stands.

## Main definitions

- `Document.StandsBelow` : the line above the cursor names a task, and the line of the cursor is blank

## Main statements

- `Document.exists_standsBelow` : so it is where a suggestion may be asked for
- `Document.StandsBelow.prompt` : the prompt at any column of the line
- `Document.prompt_of_lines_above` : what the prompt is, and what it depends on
-/

namespace PlaybookAssist

/-! ## Lines that name a task -/

/-- A line that names a task holds the dash before the name. -/
theorem dash_mem_of_isTaskNameLine {line : Text} (h : isTaskNameLine line = true) : '-' ∈ line := by
  unfold isTaskNameLine at h
  split at h
  next rest hdrop =>
    have hdash : '-' ∈ line.dropWhile isBlank := by simp [hdrop]
    exact (List.dropWhile_suffix isBlank).subset hdash
  next => simp at h

theorem Text.isBlankLine_iff {t : Text} : isBlankLine t = true ↔ ∀ c ∈ t, isBlank c = true := by
  simp [isBlankLine]

/-- Carriage returns are blank. -/
theorem isBlank_of_return {c : Char} (h : decide (c = '\r') = true) : isBlank c = true := by
  rw [of_decide_eq_true h]
  rfl

namespace Document

variable {d d' : Document} {p p' : Position} {before after : List Text} {named : Text}

/-- The cursor stands below the line `named`, which names a task and has the lines `before` above it;
    the lines `after` follow, and the first of them, in which the cursor stands, is blank. -/
structure StandsBelow (d : Document) (p : Position) (before : List Text) (named : Text)
    (after : List Text) : Prop where
  lines : d.lines = before ++ named :: after
  line : p.line = (before.length + 1 : Nat)
  namesTask : isTaskNameLine (Text.trimEnd (· = '\r') named) = true
  blank : ∀ current ∈ after.head?, Text.isBlankLine current = true

theorem lineAt_ofNat (d : Document) (n : Nat) :
    d.lineAt n = Text.trimEnd (· = '\r') (d.lines[n]?.getD []) := by
  rw [← List.getD_eq_getElem?_getD]
  rfl

theorem exists_standsBelow (h : (d.checkTrigger p).isOk = true) :
    ∃ before named after, d.StandsBelow p before named after := by
  simp only [TriggerCheck.isOk, checkTrigger, Bool.and_eq_true] at h
  obtain ⟨⟨hnames, hblank⟩, -⟩ := h
  -- There is no line above the first one that could name a task.
  have hline : 0 < p.line := by
    by_contra hnot
    simp [hnot, isTaskNameLine] at hnames
  obtain ⟨k, hk⟩ : ∃ k : Nat, p.line = (k + 1 : Nat) := ⟨p.line.toNat - 1, by omega⟩
  have habove : p.line - 1 = (k : Nat) := by omega
  rw [if_pos hline, habove, lineAt_ofNat] at hnames
  rw [hk, lineAt_ofNat] at hblank
  -- And no line behind the last one.
  cases hnamed : d.lines[k]? with
  | none => simp [hnamed, Text.trimEnd, isTaskNameLine] at hnames
  | some named =>
    rw [hnamed, Option.getD_some] at hnames
    obtain ⟨hlt, hget⟩ := List.getElem?_eq_some_iff.mp hnamed
    -- These lines are what stands above, the line itself, and what stands below it.
    refine ⟨d.lines.take k, named, d.lines.drop (k + 1), ?_, ?_, hnames, ?_⟩
    · rw [← hget, List.getElem_cons_drop, List.take_append_drop]
    · rw [hk, List.length_take, Nat.min_eq_left (by omega)]
    · intro current hcurrent
      rw [Option.mem_def, List.head?_drop] at hcurrent
      rw [hcurrent, Option.getD_some, Text.isBlankLine_iff] at hblank
      -- Carriage returns at its end do not make a blank line another.
      obtain ⟨returns, hreturns, hsplit⟩ := Text.exists_eq_trimEnd (· = '\r') current
      rw [hsplit, Text.isBlankLine_iff, List.forall_mem_append]
      exact ⟨hblank, fun c hc => isBlank_of_return (hreturns c hc)⟩

namespace StandsBelow

theorem lineAt_above (h : d.StandsBelow p before named after) :
    d.lineAt (p.line - 1) = Text.trimEnd (· = '\r') named := by
  have habove : p.line - 1 = (before.length : Nat) := by
    have hline := h.line
    omega
  rw [habove, lineAt_ofNat, h.lines]
  simp

theorem take_lines (h : d.StandsBelow p before named after) :
    d.lines.take p.line.toNat = before ++ [named] := by
  rw [h.lines, h.line, Int.toNat_natCast, List.append_cons]
  apply List.take_left'
  simp

/-- Up to the cursor the text is that of the lines above it, and blanks. -/
theorem textTo (h : d.StandsBelow p before named after) (column : Int) :
    ∃ rest : Text, (∀ c ∈ rest, isBlank c = true) ∧
      d.textTo ⟨p.line, column⟩ = .ok (Text.joinWith ['\n'] (before ++ [named]) ++ rest) := by
  have hhead : Text.takeSigned p.line d.lines = before ++ [named] := by
    rw [← h.take_lines, h.line]
    rfl
  have hsep : ("\n" : Text) = ['\n'] := rfl
  -- The line of the cursor may be the one behind the last.
  simp only [Document.textTo, hhead, hsep]
  cases after with
  | nil =>
    -- The cursor stands behind the last line.
    have hlength : ¬ p.line < d.lines.length := by
      rw [h.line, h.lines]
      simp
    exact ⟨[], by simp [hlength]⟩
  | cons current rest =>
    have hlength : p.line < d.lines.length := by
      rw [h.line, h.lines]
      simp only [List.length_append, List.length_cons]
      omega
    -- That line is blank, so that what is before the cursor is blank, too.
    have hcurrent : Text.getSigned? p.line d.lines = some current := by
      rw [h.line, h.lines]
      change (before ++ named :: current :: rest)[before.length + 1]? = some current
      simp
    have hblank := Text.isBlankLine_iff.mp (h.blank current rfl)
    have hshort : ∀ c ∈ Text.takeSigned column current, isBlank c = true := by
      intro c hc
      apply hblank
      cases column with
      | ofNat k => exact List.mem_of_mem_take hc
      | negSucc k => exact List.mem_of_mem_take hc
    refine ⟨'\n' :: Text.takeSigned column current, ?_, ?_⟩
    · rw [List.forall_mem_cons]
      exact ⟨rfl, hshort⟩
    · have hjoin : Text.joinWith ['\n'] (before ++ [named] ++ [Text.takeSigned column current]) =
          Text.joinWith ['\n'] (before ++ [named]) ++ '\n' :: Text.takeSigned column current :=
        Text.joinWith_append (List.concat_ne_nil named before) (List.cons_ne_nil _ [])
      rw [if_pos hlength, hcurrent]
      exact congrArg Except.ok hjoin

/-- At any column of the line the prompt is the text of the lines above without blanks at its end. -/
theorem prompt (h : d.StandsBelow p before named after) (column : Int) :
    d.prompt ⟨p.line, column⟩ =
      .ok (Text.stripEnd (Text.joinWith ['\n'] (before ++ [named]))) := by
  obtain ⟨rest, hrest, htext⟩ := h.textTo column
  rw [Document.prompt, htext]
  apply congrArg Except.ok
  exact Text.trimEnd_append_of_all hrest

/-- The blanks at the end of the prompt are those at the end of the line that names the task. -/
theorem stripEnd_joinWith (h : d.StandsBelow p before named after) :
    Text.stripEnd (Text.joinWith ['\n'] (before ++ [named])) =
      Text.joinWith ['\n'] (before ++ [Text.stripEnd named]) := by
  -- the line that names the task has its dash, so what is cut at the end is cut from that line
  have hdash : ∃ c ∈ named, isBlank c = false := by
    refine ⟨'-', ?_, rfl⟩
    apply (Text.trimEnd_prefix _ _).subset
    exact dash_mem_of_isTaskNameLine h.namesTask
  by_cases hbefore : before = []
  · subst hbefore
    rfl
  · rw [Text.joinWith_append hbefore (by simp), Text.joinWith_append hbefore (by simp),
      List.append_cons, List.append_cons _ _ (Text.joinWith _ [_])]
    exact Text.trimEnd_append_of_exists hdash

/-- The lines of the prompt are the lines above, the last of them without blanks at its end. -/
theorem splitOn_prompt (h : d.StandsBelow p before named after) :
    Text.splitOn '\n' (Text.stripEnd (Text.joinWith ['\n'] (before ++ [named]))) =
      before ++ [Text.stripEnd named] := by
  -- a line of the document has no line break in it, and cutting its end does not bring one
  have hline : ∀ line ∈ before ++ [named], '\n' ∉ line := by
    intro line hmem
    apply Text.not_mem_of_mem_splitOn (t := d.text)
    change line ∈ d.lines
    rw [h.lines, List.append_cons]
    exact List.mem_append_left _ hmem
  rw [h.stripEnd_joinWith]
  apply Text.splitOn_joinWith (by simp)
  intro line hmem
  rw [List.mem_append, List.mem_singleton] at hmem
  rcases hmem with hmem | rfl
  · exact hline line (by simp [hmem])
  · intro hnewline
    exact hline named (by simp) ((Text.trimEnd_prefix _ _).subset hnewline)

end StandsBelow

/-- Where a suggestion may be asked for, the prompt is the text of the lines above the cursor without
    blanks at its end. It is a beginning of the document, and its last line is the line that names the
    task, without blanks at its end. It is the same at every column, and in every document that has
    the same lines above the cursor and in which a suggestion may be asked for there. -/
theorem prompt_of_lines_above (h : (d.checkTrigger p).isOk = true) :
    0 < p.line ∧ p.line ≤ d.lines.length ∧ ∃ prompt, d.prompt p = .ok prompt ∧
      prompt = Text.stripEnd (Text.joinWith "\n" (d.lines.take p.line.toNat)) ∧
      prompt <+: d.text ∧
      isTaskNameLine (d.lineAt (p.line - 1)) = true ∧
      (Text.splitOn '\n' prompt).getLast? = some (Text.stripEnd (d.lineAt (p.line - 1))) ∧
      (∀ column, d.prompt ⟨p.line, column⟩ = .ok prompt) ∧
      ∀ (d' : Document) (p' : Position), (d'.checkTrigger p').isOk = true → p'.line = p.line →
        d'.lines.take p.line.toNat = d.lines.take p.line.toNat → d'.prompt p' = .ok prompt := by
  -- The lines around the cursor are named once and used in every part.
  obtain ⟨before, named, after, hstands⟩ := exists_standsBelow h
  have hline := hstands.line
  have hlines := hstands.lines
  have hsep : ("\n" : Text) = ['\n'] := rfl
  have hlength : d.lines.length = before.length + (after.length + 1) := by simp [hlines]
  refine ⟨by omega, by omega, _, hstands.prompt p.character, ?_, ?_, ?_, ?_,
    hstands.prompt, ?_⟩
  -- The prompt is the text above the cursor without its blank end.
  · rw [hstands.take_lines, hsep]
  · -- The text of some first lines is a beginning of the text, and what is left of it is one, too.
    have habove : Text.joinWith ['\n'] (before ++ [named]) <+: d.text := by
      rw [← Text.joinWith_splitOn '\n' d.text]
      change _ <+: Text.joinWith ['\n'] d.lines
      rw [hlines, List.append_cons before named after]
      exact Text.joinWith_prefix _ _
    exact (Text.trimEnd_prefix _ _).trans habove
  · rw [hstands.lineAt_above]
    exact hstands.namesTask
  · rw [hstands.splitOn_prompt, hstands.lineAt_above, List.getLast?_concat]
    apply congrArg some
    exact (Text.trimEnd_trimEnd (fun c => isBlank_of_return) named).symm
  -- Another document with the same lines above gives the same prompt.
  · intro d' p' h' hsame habove
    obtain ⟨before', named', after', hstands'⟩ := exists_standsBelow h'
    have hlines' : before' ++ [named'] = before ++ [named] := by
      rw [← hstands'.take_lines, ← hstands.take_lines, hsame, habove]
    rw [hstands'.prompt p'.character, hlines']

/-! ### A play -/

namespace Sample

/-- A play up to the name of a task, at whose end stand blanks and a carriage return. -/
def upToName : Text :=
  "- hosts: all\n  tasks:\n    - name: x \t\r\n"

/-- The play, with blanks of two kinds below the name and another play behind them. -/
def play : Document :=
  ⟨"/site.yml", upToName ++ ("    \t \n- hosts: web\n" : Text), "ansible"⟩

/-- The play alone. -/
def unfinished : Document :=
  ⟨"/new.yml", upToName ++ ("    " : Text), "ansible"⟩

end Sample

/-- In both documents the prompt is the play up to the name, at a column that is counted from the end
    of the line in the one and from its beginning in the other. -/
theorem prompt_of_play :
    (Sample.play.checkTrigger ⟨3, -2⟩).isOk = true ∧
      (Sample.unfinished.checkTrigger ⟨3, 4⟩).isOk = true ∧
      Sample.play.prompt ⟨3, -2⟩ = .ok "- hosts: all\n  tasks:\n    - name: x".toList ∧
      Sample.unfinished.prompt ⟨3, 4⟩ = Sample.play.prompt ⟨3, -2⟩ := by
  have hplay : (Sample.play.checkTrigger ⟨3, -2⟩).isOk = true := by decide
  have hunfinished : (Sample.unfinished.checkTrigger ⟨3, 4⟩).isOk = true := by decide
  obtain ⟨-, -, prompt, hprompt, habove, -, -, -, -, hother⟩ := prompt_of_lines_above hplay
  have hsame := hother Sample.unfinished ⟨3, 4⟩ hunfinished rfl (by decide)
  refine ⟨hplay, hunfinished, ?_, hsame.trans hprompt.symm⟩
  rw [hprompt, habove]
  decide

end Document

end PlaybookAssist
