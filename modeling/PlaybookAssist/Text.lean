/-!
# Text

Text is a list of Unicode code points, so that every index, column and slice of the library counts
code points, and a law about text is an induction on a list.

## Main definitions

- `Text.splitOn`, `Text.joinWith` : taking text apart at a separator and putting it together again;
  `Text.joinWith_splitOn` says that nothing is lost on the way
- `Text.takeSigned` : the first code points, counted from the end when the count is negative
- `Text.trimEnd`, `Text.trim` : text without the characters of a class at its ends
- `Text.contains` : occurrences of one text in another
-/

namespace PlaybookAssist

/-- A sequence of Unicode code points. -/
abbrev Text := List Char

/-- A string literal stands for the code points it shows. -/
instance : Coe String Text := ⟨String.toList⟩

namespace Text

/-! ## Taking apart and putting together -/

/-- The parts of a text between the occurrences of `sep`; there is always at least one part. -/
def splitOn (sep : Char) : Text → List Text
  | [] => [[]]
  | c :: rest =>
    if c = sep then [] :: splitOn sep rest
    else match splitOn sep rest with
      | [] => [[c]]
      | part :: parts => (c :: part) :: parts

/-- The texts in order with `sep` between each two neighbours. -/
def joinWith (sep : Text) : List Text → Text
  | [] => []
  | [t] => t
  | t :: ts => t ++ sep ++ joinWith sep ts

theorem splitOn_ne_nil (sep : Char) (t : Text) : splitOn sep t ≠ [] := by
  cases t with
  | nil => simp [splitOn]
  | cons c rest =>
    by_cases h : c = sep
    · simp [splitOn, h]
    · simp only [splitOn, if_neg h]
      split <;> simp

/-- Joining the parts gives the text back. -/
theorem joinWith_splitOn (sep : Char) (t : Text) : joinWith [sep] (splitOn sep t) = t := by
  induction t with
  | nil => rfl
  | cons c rest ih =>
    by_cases h : c = sep
    -- a separator opens an empty part, any other character goes on with the first part
    · simp only [splitOn, if_pos h]
      cases hs : splitOn sep rest with
      | nil => exact absurd hs (splitOn_ne_nil sep rest)
      | cons p ps => rw [hs] at ih; simp [joinWith, ih, h]
    · simp only [splitOn, if_neg h]
      cases hs : splitOn sep rest with
      | nil => exact absurd hs (splitOn_ne_nil sep rest)
      | cons p ps =>
        rw [hs] at ih
        cases ps with
        | nil => simpa [joinWith] using ih
        | cons q qs => simpa [joinWith] using ih

/-- No part holds the separator. -/
theorem not_mem_of_mem_splitOn {sep : Char} {t part : Text} (h : part ∈ splitOn sep t) :
    sep ∉ part := by
  -- Induction over the text; a separator ends the part before it.
  induction t generalizing part with
  | nil => simp [splitOn] at h; simp [h]
  | cons c rest ih =>
    by_cases hc : c = sep
    · simp only [splitOn, if_pos hc, List.mem_cons] at h
      rcases h with rfl | h
      · simp
      · exact ih h
    · simp only [splitOn, if_neg hc] at h
      -- Another character is put before the first part.
      cases hs : splitOn sep rest with
      | nil => exact absurd hs (splitOn_ne_nil sep rest)
      | cons p ps =>
        rw [hs] at h ih
        simp only [List.mem_cons] at h
        rcases h with rfl | h
        · have : sep ∉ p := ih (by simp)
          simp [this, Ne.symm hc]
        · exact ih (by simp [h])

/-! ## Slices -/

/-- The first `n` code points, or all but the last `-n` when `n` is negative. -/
def takeSigned {α : Type} (n : Int) (xs : List α) : List α :=
  match n with
  | .ofNat k => xs.take k
  | .negSucc k => xs.take (xs.length - (k + 1))

/-- The entry at position `n`, counted from the end when `n` is negative. -/
def getSigned? {α : Type} (n : Int) (xs : List α) : Option α :=
  match n with
  | .ofNat k => xs[k]?
  | .negSucc k => if k < xs.length then xs[xs.length - (k + 1)]? else none

/-! ## Ends -/

/-- The text without the characters of a class at its end. -/
def trimEnd (p : Char → Bool) (t : Text) : Text :=
  (t.reverse.dropWhile p).reverse

/-- The text without the characters of a class at both ends. -/
def trim (p : Char → Bool) (t : Text) : Text :=
  trimEnd p (t.dropWhile p)

/-- Does `t` begin with `start`? -/
def startsWith (start t : Text) : Bool :=
  start.isPrefixOf t

/-- Does `t` end with `ending`? -/
def endsWith (ending t : Text) : Bool :=
  ending.isSuffixOf t

/-- What follows `start` in a text that begins with it. -/
def dropStart? (start t : Text) : Option Text :=
  if startsWith start t then some (t.drop start.length) else none

/-! ## Occurrences -/

/-- Does `part` occur somewhere in the text? -/
def contains (part : Text) : Text → Bool
  | [] => part.isEmpty
  | c :: rest => startsWith part (c :: rest) || contains part rest

/-- The text before and after the first occurrence of `c`; the second part is `none` when there is
    no occurrence. -/
def cut (c : Char) : Text → Text × Option Text
  | [] => ([], none)
  | d :: rest =>
    if d = c then ([], some rest)
    else let r := cut c rest; (d :: r.1, r.2)

/-- The text before and after the last occurrence of `c`, if there is one. -/
def cutLast? (c : Char) (t : Text) : Option (Text × Text) :=
  match cut c t.reverse with
  | (after, some before) => some (before.reverse, after.reverse)
  | (_, none) => none

/-! ## Order -/

/-- Texts are ordered by their first differing code point, a text before its extensions. -/
def le : Text → Text → Bool
  | [], _ => true
  | _ :: _, [] => false
  | a :: s, b :: t => a.val < b.val || (a == b && le s t)

/-- The texts in ascending order; equal ones keep their places. -/
def sort (ts : List Text) : List Text :=
  ts.mergeSort le

/-! ## Digits -/

/-- The decimal digits of a natural number. -/
def ofNat (n : Nat) : Text :=
  Nat.toDigits 10 n

/-- The decimal digits of an integer, after a minus sign when it is negative. -/
def ofInt : Int → Text
  | .ofNat n => ofNat n
  | .negSucc n => '-' :: ofNat (n + 1)

/-- The text with zeros in front of it up to the given width. -/
def padZeros (width : Nat) (t : Text) : Text :=
  List.replicate (width - t.length) '0' ++ t

/-- The lower-case hexadecimal digit of a number below sixteen. -/
def hexDigit (n : Nat) : Char :=
  Nat.digitChar n

/-- A number in lower-case hexadecimal with at least `width` digits. -/
def hex (width n : Nat) : Text :=
  padZeros width (Nat.toDigits 16 n)

/-- The value of a hexadecimal digit of either case. -/
def hexValue? (c : Char) : Option Nat :=
  if '0' ≤ c ∧ c ≤ '9' then some (c.toNat - '0'.toNat)
  else if 'a' ≤ c ∧ c ≤ 'f' then some (c.toNat - 'a'.toNat + 10)
  else if 'A' ≤ c ∧ c ≤ 'F' then some (c.toNat - 'A'.toNat + 10)
  else none

/-- The value of a text of hexadecimal digits. -/
def ofHex? (t : Text) : Option Nat :=
  t.foldl (fun acc c => do pure (16 * (← acc) + (← hexValue? c))) (some 0)

/-- The text with its ASCII capitals made small. -/
def lowerAscii (t : Text) : Text :=
  t.map Char.toLower

end Text

end PlaybookAssist
