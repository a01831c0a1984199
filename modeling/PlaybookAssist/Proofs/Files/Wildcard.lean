import PlaybookAssist.Files.Wildcard

/-!
# What patterns match

A star matches whatever stands before the rest of a match, and characters without a meaning of their
own match themselves. So a pattern of stars with texts between them matches where these texts occur
one after the other, the last of them at the end.

## Main definitions

- `Wildcard.starred` : the parts of a pattern with a star before each of some texts
- `Wildcard.InOrder` : the texts occur one after the other, the last at the end

## Main statements

- `Wildcard.matchParts_anyText`, `Wildcard.matchParts_exactly` : what the parts of a pattern match
- `Wildcard.matchParts_starred` : what a pattern of stars and texts matches
-/

namespace PlaybookAssist.Wildcard

variable {p : Text → Bool} {ps : List Part} {s t : Text} {ss : List Text}

theorem someSuffix_iff : someSuffix p t = true ↔ ∃ before after, t = before ++ after ∧ p after := by
  induction t with
  -- Nothing is left, so the pattern has to fit the end.
  | nil =>
    constructor
    · exact fun h => ⟨[], [], rfl, h⟩
    · rintro ⟨before, after, heq, h⟩
      obtain ⟨rfl, rfl⟩ := List.append_eq_nil_iff.mp heq.symm
      exact h
  | cons c t ih =>
    rw [someSuffix, Bool.or_eq_true, ih]
    constructor
    -- The pattern fits here, or further on.
    · rintro (h | ⟨before, after, rfl, h⟩)
      · exact ⟨[], c :: t, rfl, h⟩
      · exact ⟨c :: before, after, rfl, h⟩
    -- The split says which of the two it is.
    · rintro ⟨before, after, heq, h⟩
      cases before with
      | nil => exact .inl (heq ▸ h)
      | cons d before =>
        obtain ⟨-, rfl⟩ := List.cons.inj heq
        exact .inr ⟨before, after, rfl, h⟩

/-- A star matches whatever stands before the rest. -/
theorem matchParts_anyText : matchParts (.anyText :: ps) t = true ↔
    ∃ before after, t = before ++ after ∧ matchParts ps after = true := by
  rw [matchParts, someSuffix_iff]

/-- Characters match themselves. -/
theorem matchParts_exactly : matchParts (s.map .exactly ++ ps) t = true ↔
    ∃ after, t = s ++ after ∧ matchParts ps after = true := by
  induction s generalizing t with
  | nil => simp
  | cons c s ih =>
    rw [List.map_cons, List.cons_append]
    cases t with
    | nil => simp [matchParts]
    | cons d t =>
      have hpart : matchParts (.exactly c :: (s.map .exactly ++ ps)) (d :: t) =
          (d == c && matchParts (s.map .exactly ++ ps) t) := rfl
      rw [hpart, Bool.and_eq_true, beq_iff_eq, ih]
      simp [and_assoc, exists_and_left]

/-- The parts of a pattern with a star before each of the texts. -/
def starred (ss : List Text) : List Part :=
  ss.flatMap fun s => .anyText :: s.map .exactly

/-- The texts occur one after the other, the last of them at the end. -/
def InOrder : List Text → Text → Prop
  | [], t => t = []
  | s :: ss, t => ∃ before after, t = before ++ (s ++ after) ∧ InOrder ss after

/-- A pattern of stars and texts matches where the texts occur one after the other. -/
theorem matchParts_starred : matchParts (starred ss) t = true ↔ InOrder ss t := by
  induction ss generalizing t with
  | nil => simp [starred, matchParts, InOrder]
  | cons s ss ih =>
    have hsplit : starred (s :: ss) = .anyText :: (s.map .exactly ++ starred ss) := rfl
    rw [hsplit, matchParts_anyText, InOrder]
    simp only [matchParts_exactly, ih]
    constructor
    · rintro ⟨before, -, rfl, after, rfl, h⟩
      exact ⟨before, after, rfl, h⟩
    · rintro ⟨before, after, rfl, h⟩
      exact ⟨before, s ++ after, rfl, after, rfl, h⟩

/-- Only the end counts for a single text. -/
theorem inOrder_singleton : InOrder [s] t ↔ s <:+ t := by
  constructor
  · rintro ⟨before, after, rfl, rfl⟩
    exact ⟨before, by rw [List.append_nil]⟩
  · rintro ⟨before, rfl⟩
    exact ⟨before, [], by rw [List.append_nil], rfl⟩

end PlaybookAssist.Wildcard
