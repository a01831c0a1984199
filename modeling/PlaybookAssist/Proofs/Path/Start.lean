import Mathlib.Data.List.TakeWhile
import PlaybookAssist.Path
import PlaybookAssist.Proofs.Text.Ends
import PlaybookAssist.Proofs.Text.Laws

/-!
# Where paths start

A path starts at the root, at the root of its own that two slashes are, or where the program runs;
the slashes at its front decide. Going up and joining something relative leave these slashes as they
are.

## Main definitions

- `Path.front` : the slashes at the front of a path

## Main statements

- `Path.front_join`, `Path.front_parent` : operations that keep where a path starts
- `Path.root_of_front` : paths with the same slashes in front have the same root
-/

namespace PlaybookAssist.Path

variable {p q t : Text}

/-- The slashes at the front of a path. -/
def front (p : Text) : Text :=
  p.takeWhile (· = '/')

theorem front_of_head (h : t.head? ≠ some '/') : front t = [] := by
  cases t with
  | nil => rfl
  | cons c t => exact List.takeWhile_cons_of_neg (by simpa using h)

/-- Nothing is in front of a text that does not begin with a slash. -/
theorem front_of_ne_cons (h : ∀ rest, t = '/' :: rest → False) : front t = [] := by
  apply front_of_head
  intro hhead
  cases t with
  | nil => cases hhead
  | cons c rest =>
    cases hhead
    exact h rest rfl

theorem front_cons_slash (p : Text) : front ('/' :: p) = '/' :: front p :=
  List.takeWhile_cons_of_pos (by simp)

theorem isAbsolute_of_front (h : front p = front q) : isAbsolute p = isAbsolute q := by
  -- A path is absolute if there is a slash at its front at all.
  have hfront : ∀ p : Text, isAbsolute p = !(front p).isEmpty := by
    intro p
    cases p with
    | nil => rfl
    | cons c p => by_cases hc : c = '/' <;> simp [isAbsolute, front, hc]
  rw [hfront, hfront, h]

theorem root_of_front (h : front p = front q) : root p = root q := by
  have hfront : ∀ p : Text, root p = root (front p) := by
    intro p
    -- The root looks at the first three characters, and so only at the slashes in front.
    unfold root
    split
    case h_1 rest => simp [front_cons_slash]
    case h_2 rest hthird => simp [front_cons_slash, front_of_ne_cons hthird]
    case h_3 rest hthird hsecond => simp [front_cons_slash, front_of_ne_cons hsecond]
    case h_4 hnot => rw [front_of_ne_cons hnot]
  rw [hfront p, hfront q, h]

/-! ## Appending -/

theorem front_append (h : t.head? ≠ some '/') (p : Text) : front (p ++ t) = front p := by
  induction p with
  | nil => exact front_of_head h
  | cons c p ih =>
    by_cases hc : c = '/'
    · rw [hc, List.cons_append, front_cons_slash, front_cons_slash, ih]
    · simp [front, hc]

/-- Behind a path that does not end in a slash anything can follow. -/
theorem front_append_of_getLast? (hp : p ≠ []) (h : p.getLast? ≠ some '/') (t : Text) :
    front (p ++ t) = front p := by
  induction p with
  | nil => exact absurd rfl hp
  | cons c p ih =>
    by_cases hc : c = '/'
    · cases p with
      | nil => exact absurd (by simp [hc]) h
      | cons c' p =>
        rw [hc, List.cons_append, front_cons_slash, front_cons_slash]
        rw [List.getLast?_cons_cons] at h
        rw [ih (List.cons_ne_nil _ _) h]
    · simp [front, hc]

theorem mem_join_left {c : Char} (h : isAbsolute q = false) (hc : c ∈ p) : c ∈ join p q := by
  rw [join, h, if_neg Bool.false_ne_true]
  split <;> exact List.mem_append_left _ hc

theorem mem_join_right {c : Char} (hc : c ∈ q) (p : Text) : c ∈ join p q := by
  rw [join]
  split
  · exact hc
  · split <;> simp [hc]

theorem front_join (h : isAbsolute q = false) (p : Text) : front (join p q) = front p := by
  have hhead : q.head? ≠ some '/' := by
    intro hslash
    rw [isAbsolute, hslash] at h
    cases h
  rw [join, h]
  simp only [Bool.false_eq_true, if_false]
  split
  -- a slash stands between the two unless the first one is empty or ends with one
  case isTrue => exact front_append hhead p
  case isFalse hends =>
    rw [Bool.or_eq_true, not_or] at hends
    apply front_append_of_getLast?
    · intro hp
      exact hends.1 (by rw [hp]; rfl)
    · intro hlast
      exact hends.2 (by rw [hlast]; rfl)

/-! ## Going up -/

theorem splitLast_spec (p : Text) :
    (splitLast p).1 ++ (splitLast p).2 = p ∧ '/' ∉ (splitLast p).2 := by
  -- the two halves that the split takes from the reversed text
  have hsplit : (p.reverse.dropWhile (· ≠ '/')).reverse ++ (p.reverse.takeWhile (· ≠ '/')).reverse =
      p := by
    rw [← List.reverse_append, List.takeWhile_append_dropWhile, List.reverse_reverse]
  constructor
  · have hlength := congrArg List.length hsplit
    rw [List.length_append] at hlength
    have htake := @List.take_left' _ (p.reverse.dropWhile (· ≠ '/')).reverse
      (p.reverse.takeWhile (· ≠ '/')).reverse
      (p.length - (p.reverse.takeWhile (· ≠ '/')).reverse.length) (by omega)
    rw [hsplit] at htake
    rw [splitLast, htake, hsplit]
  · intro hmem
    rw [splitLast, List.mem_reverse] at hmem
    simpa using List.mem_takeWhile_imp hmem

theorem front_parent (p : Text) : front (parent p) = front p := by
  obtain ⟨hsplit, hslash⟩ := splitLast_spec p
  -- the last part has no slash, so the slashes in front are those of the rest
  have hhead : front (splitLast p).1 = front p := by
    conv_rhs => rw [← hsplit]
    refine (front_append ?_ _).symm
    intro hfirst
    exact hslash (List.mem_of_head? hfirst)
  obtain ⟨rest, hrest⟩ := Text.trimEnd_prefix (· = '/') (splitLast p).1
  -- what is cut at the end has no slash at its end, so the ones in front stay
  have hlast : (Text.trimEnd (· = '/') (splitLast p).1).getLast? ≠ some '/' := by
    intro hslash
    simpa using Text.getLast?_trimEnd hslash
  simp only [parent]
  split
  case isTrue => exact hhead
  case isFalse hne =>
    rw [List.isEmpty_iff] at hne
    rw [← hhead, ← front_append_of_getLast? hne hlast rest, hrest]

theorem not_mem_name (p : Text) : '/' ∉ name p :=
  (splitLast_spec p).2

end PlaybookAssist.Path
