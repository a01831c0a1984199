import PlaybookAssist.Text
import Mathlib.Data.List.Sort

/-!
# Laws of text

What the parts of a text are, and that sorting forgets the order of what is sorted: two lists of the
same texts are the same list once they are sorted.

## Main statements

- `Text.splitOn_append_cons`, `Text.splitOn_joinWith` : splitting a text that was put together
- `Text.sort_eq_of_perm` : sorting forgets the order
-/

namespace PlaybookAssist.Text

variable {sep : Char} {s t u : Text} {parts before after ts us : List Text}

/-! ## Parts -/

theorem splitOn_of_not_mem (h : sep ∉ t) : splitOn sep t = [t] := by
  induction t with
  | nil => rfl
  | cons c t ih =>
    rw [List.mem_cons, not_or] at h
    rw [splitOn, if_neg (Ne.symm h.1), ih h.2]

/-- Where the separator does not occur, nothing is cut off. -/
theorem cut_of_not_mem (h : sep ∉ t) : cut sep t = (t, none) := by
  induction t with
  | nil => rfl
  | cons c t ih =>
    rw [List.mem_cons, not_or] at h
    rw [cut, if_neg (Ne.symm h.1), ih h.2]

theorem cut_append_cons (h : sep ∉ s) (t : Text) : cut sep (s ++ sep :: t) = (s, some t) := by
  induction s with
  | nil => rw [List.nil_append, cut, if_pos rfl]
  | cons c s ih =>
    rw [List.mem_cons, not_or] at h
    rw [List.cons_append, cut, if_neg (Ne.symm h.1), ih h.2]

theorem isPrefix_cut (sep : Char) (t : Text) : (cut sep t).1 <+: t := by
  induction t with
  | nil => exact List.prefix_refl _
  | cons c t ih =>
    rw [cut]
    split
    case isTrue => exact List.nil_prefix
    case isFalse => exact List.cons_prefix_cons.mpr ⟨rfl, ih⟩

/-- What is cut off begins behind the separator. -/
theorem eq_of_cut {after : Text} (h : (cut sep t).2 = some after) :
    t = (cut sep t).1 ++ sep :: after := by
  induction t with
  | nil => cases h
  | cons c t ih =>
    rw [cut] at h ⊢
    split at h
    case isTrue hc =>
      cases h
      rw [if_pos hc, hc, List.nil_append]
    case isFalse hc =>
      rw [if_neg hc]
      exact congrArg (c :: ·) (ih h)

/-- Where the separator occurs, something is cut off. -/
theorem cut_eq_self_iff : (cut sep t).1 = t ↔ sep ∉ t := by
  refine ⟨fun h => ?_, fun h => by rw [cut_of_not_mem h]⟩
  rw [← h]
  clear h
  induction t with
  | nil => exact List.not_mem_nil
  | cons c t ih =>
    rw [cut]
    split
    case isTrue => exact List.not_mem_nil
    case isFalse hc => exact List.not_mem_cons_of_ne_of_not_mem (Ne.symm hc) ih

/-- A separator ends a part. -/
theorem splitOn_append_cons (s t : Text) :
    splitOn sep (s ++ sep :: t) = splitOn sep s ++ splitOn sep t := by
  induction s with
  | nil => simp [splitOn]
  | cons c s ih =>
    by_cases hc : c = sep
    · rw [List.cons_append, splitOn, if_pos hc, ih, splitOn, if_pos hc, List.cons_append]
    · rw [List.cons_append, splitOn, if_neg hc, ih, splitOn, if_neg hc]
      -- The first part of `s` is the first part of the whole.
      cases hs : splitOn sep s with
      | nil => exact absurd hs (splitOn_ne_nil sep s)
      | cons part parts => rfl

theorem joinWith_cons (hne : parts ≠ []) :
    joinWith [sep] (t :: parts) = t ++ sep :: joinWith [sep] parts := by
  cases parts with
  | nil => exact absurd rfl hne
  | cons next parts => simp [joinWith]

theorem joinWith_append (hbefore : before ≠ []) (hafter : after ≠ []) :
    joinWith [sep] (before ++ after) = joinWith [sep] before ++ sep :: joinWith [sep] after := by
  induction before with
  | nil => exact absurd rfl hbefore
  | cons t before ih =>
    by_cases hne : before = []
    · subst hne
      rw [List.singleton_append, joinWith_cons hafter]
      rfl
    · rw [List.cons_append, joinWith_cons (by simp [hne]), joinWith_cons hne, ih hne,
        List.append_assoc, List.cons_append]

/-- The text of some first parts is a beginning of the text of all. -/
theorem joinWith_prefix (before after : List Text) :
    joinWith [sep] before <+: joinWith [sep] (before ++ after) := by
  by_cases hbefore : before = []
  · subst hbefore
    exact List.nil_prefix
  by_cases hafter : after = []
  · simp only [hafter, List.append_nil, List.prefix_refl]
  · rw [joinWith_append hbefore hafter]
    exact List.prefix_append _ _

/-- Splitting gives the parts back that a text was put together from. -/
theorem splitOn_joinWith (hne : parts ≠ []) (h : ∀ part ∈ parts, sep ∉ part) :
    splitOn sep (joinWith [sep] parts) = parts := by
  induction parts with
  | nil => exact absurd rfl hne
  | cons part parts ih =>
    rw [List.forall_mem_cons] at h
    cases parts with
    | nil => exact splitOn_of_not_mem h.1
    | cons next parts =>
      rw [joinWith_cons (List.cons_ne_nil _ _), splitOn_append_cons, splitOn_of_not_mem h.1,
        ih (List.cons_ne_nil _ _) h.2, List.singleton_append]

/-! ## Order -/

theorem le_total (s t : Text) : (le s t || le t s) = true := by
  induction s generalizing t with
  | nil => simp [le]
  | cons a s ih =>
    cases t with
    | nil => simp [le]
    | cons b t =>
      -- The first character that differs decides.
      by_cases hab : a = b
      · subst hab
        simpa [le] using ih t
      · have hne : a.val ≠ b.val := fun h => hab (Char.ext h)
        have hlt : a.val < b.val ∨ b.val < a.val := by
          simp only [UInt32.lt_iff_toNat_lt, ne_eq, ← UInt32.toNat_inj] at hne ⊢
          omega
        rcases hlt with hlt | hlt <;> simp [le, hlt]

theorem le_trans (h₁ : le s t = true) (h₂ : le t u = true) : le s u = true := by
  induction s generalizing t u with
  | nil => rfl
  | cons a s ih =>
    cases t with
    | nil => simp [le] at h₁
    | cons b t =>
      cases u with
      | nil => simp [le] at h₂
      | cons c u =>
        simp only [le, Bool.or_eq_true, decide_eq_true_eq, Bool.and_eq_true, beq_iff_eq] at h₁ h₂ ⊢
        -- The first characters decide, unless they are the same.
        rcases h₁ with h₁ | ⟨rfl, h₁⟩
        · rcases h₂ with h₂ | ⟨rfl, -⟩
          · exact .inl (UInt32.lt_trans h₁ h₂)
          · exact .inl h₁
        · rcases h₂ with h₂ | ⟨rfl, h₂⟩
          · exact .inl h₂
          · exact .inr ⟨rfl, ih h₁ h₂⟩

theorem le_antisymm (h₁ : le s t = true) (h₂ : le t s = true) : s = t := by
  induction s generalizing t with
  | nil =>
    cases t with
    | nil => rfl
    | cons b t => simp [le] at h₂
  | cons a s ih =>
    cases t with
    | nil => simp [le] at h₁
    | cons b t =>
      simp only [le, Bool.or_eq_true, decide_eq_true_eq, Bool.and_eq_true, beq_iff_eq] at h₁ h₂
      -- Both cannot come before each other, so that the first characters are the same.
      rcases h₁ with h₁ | ⟨rfl, h₁⟩
      · rcases h₂ with h₂ | ⟨rfl, -⟩
        · exact absurd h₂ (UInt32.lt_asymm h₁)
        · exact absurd h₁ (UInt32.lt_irrefl _)
      · rcases h₂ with h₂ | ⟨-, h₂⟩
        · exact absurd h₂ (UInt32.lt_irrefl _)
        · rw [ih h₁ h₂]

theorem perm_sort (ts : List Text) : (sort ts).Perm ts :=
  List.mergeSort_perm ts le

theorem mem_sort : t ∈ sort ts ↔ t ∈ ts :=
  (perm_sort ts).mem_iff

theorem pairwise_sort (ts : List Text) : (sort ts).Pairwise fun s t => le s t = true :=
  @List.pairwise_mergeSort Text le (fun _ _ _ => le_trans) le_total ts

/-- Sorting forgets the order of what is sorted. -/
theorem sort_eq_of_perm (h : ts.Perm us) : sort ts = sort us := by
  have hperm : (sort ts).Perm (sort us) := (perm_sort ts).trans (h.trans (perm_sort us).symm)
  exact hperm.eq_of_pairwise (fun s t _ _ => le_antisymm) (pairwise_sort ts) (pairwise_sort us)

/-- Texts without repetitions are sorted into the same list if they are the same texts. -/
theorem sort_eq_of_mem_iff (hts : ts.Nodup) (hus : us.Nodup) (h : ∀ t, t ∈ ts ↔ t ∈ us) :
    sort ts = sort us :=
  sort_eq_of_perm ((List.perm_ext_iff_of_nodup hts hus).mpr h)

/-- Texts in order are not moved. -/
theorem sort_eq_self (h : ts.Pairwise fun s t => le s t = true) : sort ts = ts :=
  List.mergeSort_of_pairwise h

end PlaybookAssist.Text
