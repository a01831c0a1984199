import Mathlib.Data.List.DropRight
import PlaybookAssist.Text

/-!
# Texts without their ends

What is left of a text when the characters of a class are taken from its end: a beginning of the text,
with nothing but characters of the class behind it and none of them at its own end.

## Main definitions

- `Text.IsTrimmed` : no character of the class stands at either end

## Main statements

- `Text.exists_eq_trimEnd`, `Text.trimEnd_prefix`, `Text.getLast?_trimEnd` : what is left
- `Text.trimEnd_eq_nil_iff`, `Text.trimEnd_eq_self_iff` : when nothing is left, and when all is
- `Text.trimEnd_append_of_all`, `Text.trimEnd_append_of_exists` : where the end is put together
- `Text.trimEnd_trimEnd` : a class and a wider one
- `Text.isTrimmed_trim`, `Text.trim_eq_self_iff` : both ends
-/

namespace PlaybookAssist.Text

variable {p q : Char → Bool} {s t : Text}

theorem trimEnd_eq_rdropWhile (p : Char → Bool) (t : Text) : trimEnd p t = t.rdropWhile p :=
  rfl

theorem trimEnd_prefix (p : Char → Bool) (t : Text) : trimEnd p t <+: t :=
  List.rdropWhile_prefix p t

theorem exists_eq_trimEnd (p : Char → Bool) (t : Text) :
    ∃ rest : Text, (∀ c ∈ rest, p c = true) ∧ t = trimEnd p t ++ rest :=
  ⟨t.rtakeWhile p, fun _ => List.mem_rtakeWhile_imp, List.rdropWhile_append_rtakeWhile.symm⟩

theorem trimEnd_eq_nil_iff : trimEnd p t = [] ↔ ∀ c ∈ t, p c = true :=
  List.rdropWhile_eq_nil_iff

theorem trimEnd_eq_self_iff : trimEnd p t = t ↔ ∀ c ∈ t.getLast?, p c = false := by
  rw [trimEnd_eq_rdropWhile, List.rdropWhile_eq_self_iff]
  constructor
  · intro h c hc
    obtain ⟨hne, rfl⟩ := List.mem_getLast?_eq_getLast hc
    simpa using h hne
  · intro h hne
    simpa using h _ (List.getLast?_eq_some_getLast hne)

/-- Characters of the class at the end make no difference. -/
theorem trimEnd_append_of_all (h : ∀ c ∈ s, p c = true) : trimEnd p (t ++ s) = trimEnd p t := by
  rw [trimEnd, List.reverse_append,
    List.dropWhile_append_of_pos fun c hc => h c (List.mem_reverse.mp hc), trimEnd]

/-- Where the last part holds more than the class, nothing is taken from what stands before it. -/
theorem trimEnd_append_of_exists (h : ∃ c ∈ s, p c = false) :
    trimEnd p (t ++ s) = t ++ trimEnd p s := by
  obtain ⟨c, hc, hpc⟩ := h
  have hne : (s.reverse.dropWhile p).isEmpty = false := by
    rw [List.isEmpty_eq_false_iff, ne_eq, List.dropWhile_eq_nil_iff]
    intro hall
    rw [hall c (List.mem_reverse.mpr hc)] at hpc
    cases hpc
  rw [trimEnd, List.reverse_append, List.dropWhile_append, hne, if_neg Bool.false_ne_true,
    List.reverse_append, List.reverse_reverse, trimEnd]

/-- A wider class takes away what a narrower one does. -/
theorem trimEnd_trimEnd (h : ∀ c, p c = true → q c = true) (t : Text) :
    trimEnd q (trimEnd p t) = trimEnd q t := by
  obtain ⟨rest, hrest, ht⟩ := exists_eq_trimEnd p t
  conv_rhs => rw [ht]
  exact (trimEnd_append_of_all fun c hc => h c (hrest c hc)).symm

/-- The last character that is left is none of the class. -/
theorem getLast?_trimEnd {c : Char} (h : (trimEnd p t).getLast? = some c) : p c = false :=
  trimEnd_eq_self_iff.mp (trimEnd_trimEnd (fun _ hc => hc) t) c h

/-! ## Both ends -/

/-- No character of the class stands at either end of the text. -/
structure IsTrimmed (p : Char → Bool) (t : Text) : Prop where
  head : ∀ c ∈ t.head?, p c = false
  last : ∀ c ∈ t.getLast?, p c = false

theorem isTrimmed_nil (p : Char → Bool) : IsTrimmed p [] :=
  ⟨fun _ h => (Option.not_mem_none _ h).elim, fun _ h => (Option.not_mem_none _ h).elim⟩

theorem isTrimmed_trim (p : Char → Bool) (t : Text) : IsTrimmed p (trim p t) where
  head := by
    intro c hc
    obtain ⟨rest, hrest⟩ := trimEnd_prefix p (t.dropWhile p)
    -- What is left begins as the text does without the characters at its start.
    have hdrop : (t.dropWhile p).head? = some c := by
      rw [← hrest, List.head?_append, ← trim, hc, Option.some_or]
    have hnot := List.head?_dropWhile_not p t
    rw [hdrop] at hnot
    exact hnot
  last _ hc := getLast?_trimEnd hc

theorem trim_eq_self_iff : trim p t = t ↔ IsTrimmed p t := by
  constructor
  · intro h
    rw [← h]
    exact isTrimmed_trim p t
  · intro h
    have hdrop : t.dropWhile p = t := by
      cases t with
      | nil => rfl
      | cons c rest => exact List.dropWhile_cons_of_neg (by simpa using h.head c rfl)
    rw [trim, hdrop]
    exact trimEnd_eq_self_iff.mpr h.last

end PlaybookAssist.Text
