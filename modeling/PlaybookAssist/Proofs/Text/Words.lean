import Mathlib.Data.List.Forall2
import PlaybookAssist.Proofs.Text.Laws
import PlaybookAssist.Text.Words

/-!
# Words that are read back

A word can be written in more than one way: plain characters stand for themselves, and between single
quotes every character does, blanks and backslashes included. Words that are written with blanks
between them are read back, however each of them is written.

## Main definitions

- `Text.isPlain` : which characters stand for themselves outside quotes
- `Text.StandsFor` : what a text inside a word adds to it
- `Text.Spells` : a text is a way to write a word

## Main statements

- `Text.Spells.append_singleQuoted` : a word with a part in single quotes
- `Text.words?_joinWith` : written words are read back
-/

namespace PlaybookAssist.Text

variable {c : Char} {s t u v word : Text}

/-- Does the character mean nothing but itself where no quotes stand around it? -/
def isPlain (c : Char) : Bool :=
  !isWordGap c && c != backslash && c != singleQuote && c != doubleQuote

theorem isPlain_iff : isPlain c = true ↔
    isWordGap c = false ∧ c ≠ backslash ∧ c ≠ singleQuote ∧ c ≠ doubleQuote := by
  simp [isPlain, and_assoc]

/-! ## Parts of words -/

/-- Wherever the text stands inside a word, it adds these characters to the word. -/
def StandsFor (s t : Text) : Prop :=
  ∀ start rest : Text,
    wordsFrom? (.inWord start) (s ++ rest) = wordsFrom? (.inWord (t.reverse ++ start)) rest

theorem StandsFor.append (hst : StandsFor s t) (huv : StandsFor u v) :
    StandsFor (s ++ u) (t ++ v) := by
  intro start rest
  rw [List.append_assoc, hst, huv, List.reverse_append, List.append_assoc]

/-- Plain characters stand for themselves. -/
theorem standsFor_of_plain (h : ∀ c ∈ s, isPlain c = true) : StandsFor s s := by
  intro start rest
  induction s generalizing start with
  | nil => rfl
  | cons c s ih =>
    obtain ⟨hc, hs⟩ := List.forall_mem_cons.mp h
    obtain ⟨hgap, hbackslash, hsingle, hdouble⟩ := isPlain_iff.mp hc
    rw [List.cons_append, wordsFrom?, if_neg (by simp [hgap]), if_neg hbackslash,
      if_neg (by simp [hsingle, hdouble]), ih hs, List.reverse_cons, List.append_assoc,
      List.singleton_append]

/-- Up to the closing quote, what stands in single quotes is part of the word. -/
theorem wordsFrom?_inQuotes (h : singleQuote ∉ s) (start rest : Text) :
    wordsFrom? (.inQuotes singleQuote start) (s ++ singleQuote :: rest) =
      wordsFrom? (.inWord (s.reverse ++ start)) rest := by
  induction s generalizing start with
  | nil => rw [List.nil_append, wordsFrom?, if_pos rfl, List.reverse_nil, List.nil_append]
  | cons c s ih =>
    rw [List.mem_cons, not_or] at h
    -- In single quotes a backslash is a character like any other.
    have hescape : ¬ (c = backslash ∧ singleQuote = doubleQuote) := fun hc => absurd hc.2 (by decide)
    rw [List.cons_append, wordsFrom?, if_neg (Ne.symm h.1), if_neg hescape, ih h.2,
      List.reverse_cons, List.append_assoc, List.singleton_append]

/-- A text in single quotes stands for the text, if it holds no single quote itself. -/
theorem standsFor_singleQuoted (h : singleQuote ∉ s) :
    StandsFor (singleQuote :: s ++ [singleQuote]) s := by
  intro start rest
  rw [List.cons_append, List.cons_append, List.append_assoc, List.singleton_append, wordsFrom?,
    if_neg (by decide), if_neg (by decide), if_pos (.inl rfl), wordsFrom?_inQuotes h]

/-! ## Words -/

/-- The text is a way to write the word. -/
structure Spells (s word : Text) : Prop where
  begins : ∃ c rest, s = c :: rest ∧ isWordGap c = false
  standsFor : StandsFor s word

theorem spells_of_plain (hne : s ≠ []) (h : ∀ c ∈ s, isPlain c = true) : Spells s s where
  begins := by
    obtain ⟨c, rest, rfl⟩ := List.exists_cons_of_ne_nil hne
    exact ⟨c, rest, rfl, (isPlain_iff.mp (h c List.mem_cons_self)).1⟩
  standsFor := standsFor_of_plain h

/-- A part in single quotes can follow what is already there of a word. -/
theorem Spells.append_singleQuoted (h : Spells s word) (ht : singleQuote ∉ t) :
    Spells (s ++ (singleQuote :: t ++ [singleQuote])) (word ++ t) where
  begins := by
    obtain ⟨c, rest, rfl, hc⟩ := h.begins
    exact ⟨c, _, List.cons_append, hc⟩
  standsFor := h.standsFor.append (standsFor_singleQuoted ht)

/-- A word begins where no gap is. -/
theorem wordsFrom?_between (hc : isWordGap c = false) (rest : Text) :
    wordsFrom? .between (c :: rest) = wordsFrom? (.inWord []) (c :: rest) := by
  have hgap : ¬ isWordGap c = true := by simp [hc]
  rw [wordsFrom?, wordsFrom?, if_neg hgap, if_neg hgap]

theorem Spells.wordsFrom?_eq (h : Spells s word) (rest : Text) :
    wordsFrom? .between (s ++ rest) = wordsFrom? (.inWord word.reverse) rest := by
  obtain ⟨c, s, rfl, hc⟩ := h.begins
  rw [List.cons_append, wordsFrom?_between hc, ← List.cons_append, h.standsFor, List.append_nil]

/-- Words that are written one after the other, with a blank between each two, are read back. -/
theorem words?_joinWith {spellings words : List Text} (h : List.Forall₂ Spells spellings words) :
    words? (joinWith [' '] spellings) = some words := by
  induction h with
  | nil => rfl
  | @cons s word spellings words hs hrest ih =>
    cases hrest with
    | nil =>
      have hlast := hs.wordsFrom?_eq []
      rw [List.append_nil] at hlast
      rw [joinWith, words?, hlast, wordsFrom?, List.reverse_reverse]
    | cons hnext hrest =>
      rw [joinWith_cons (List.cons_ne_nil _ _), words?, hs.wordsFrom?_eq, wordsFrom?,
        if_pos (by decide), List.reverse_reverse]
      -- the blank ends the first word, and what is left begins afresh
      rw [words?] at ih
      rw [ih]
      rfl

/-- A blank, a backslash and a double quote in single quotes are part of the word. -/
example : words? "a=1 file='my \\\"vars\".yml' b" =
    some ["a=1".toList, "file=my \\\"vars\".yml".toList, "b".toList] := by decide

end PlaybookAssist.Text
