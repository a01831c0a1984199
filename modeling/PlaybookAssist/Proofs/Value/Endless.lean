import Mathlib.Data.List.Basic
import PlaybookAssist.Proofs.Value.Content

/-!
# Values that do not hold themselves

What a value consists of does not hold itself if the value does not.

## Main statements

- `Value.hasScalarIn_mono` : a value inside fewer knots
- `Value.hasScalarIn_content`, `Value.hasScalarIn_of_asList?` : what a value consists of
- `Value.isEndless_of_asList?`, `Value.isEndless_of_find?` : the parts of a value
-/

namespace PlaybookAssist.Value

variable {test : Value → Bool} {v w : Value} {xs : List Value} {ps : List (Value × Value)}
  {key : Text}

theorem anyHasScalarIn_eq (test : Value → Bool) (isKnot : Bool) (around : List Nat)
    (xs : List Value) :
    anyHasScalarIn test isKnot around xs = xs.any (hasScalarIn test isKnot around) := by
  induction xs with
  | nil => rfl
  | cons x xs ih => rw [anyHasScalarIn, List.any_cons, ih]

theorem anyPairHasScalarIn_eq (test : Value → Bool) (isKnot : Bool) (around : List Nat)
    (ps : List (Value × Value)) : anyPairHasScalarIn test isKnot around ps =
      ps.any fun p => hasScalarIn test isKnot around p.1 || hasScalarIn test isKnot around p.2 := by
  induction ps with
  | nil => rfl
  | cons p ps ih => rw [anyPairHasScalarIn, List.any_cons, ih]

mutual

/-- Inside fewer knots fewer values hold themselves. -/
theorem hasScalarIn_mono {around within : List Nat} (hsub : ∀ n ∈ around, n ∈ within)
    (v : Value) (h : v.hasScalarIn test true within = false) :
    v.hasScalarIn test true around = false := by
  -- The parts of a value are the parts it has; only a mark looks at what is around it.
  match v with
  | .list xs | .tuple xs | .set xs =>
    rw [hasScalarIn] at h ⊢
    exact anyHasScalarIn_mono hsub xs h
  | .map ps =>
    rw [hasScalarIn] at h ⊢
    exact anyPairHasScalarIn_mono hsub ps h
  -- A mark that is met would be met with more marks around it as well.
  | .knot n v =>
    rw [hasScalarIn] at h ⊢
    split at h
    case isTrue => cases h
    case isFalse hknot =>
      rw [List.elem_iff] at hknot
      have hfew : ¬ around.elem n = true := by
        rw [List.elem_iff]
        exact fun hmem => hknot (hsub n hmem)
      rw [if_neg hfew]
      have hmore : ∀ m ∈ n :: around, m ∈ n :: within := by
        intro m hm
        obtain rfl | hmem := List.mem_cons.mp hm
        · exact List.mem_cons_self
        · exact List.mem_cons_of_mem _ (hsub m hmem)
      exact hasScalarIn_mono hmore v h
  | .null | .bool _ | .int _ | .float _ | .nan _ | .str _ | .date _ | .dateTime _ | .bytes _ =>
    simpa only [hasScalarIn] using h

theorem anyHasScalarIn_mono {around within : List Nat} (hsub : ∀ n ∈ around, n ∈ within)
    (xs : List Value) (h : anyHasScalarIn test true within xs = false) :
    anyHasScalarIn test true around xs = false := by
  match xs with
  | [] => rfl
  | x :: xs =>
    rw [anyHasScalarIn, Bool.or_eq_false_iff] at h ⊢
    exact ⟨hasScalarIn_mono hsub x h.1, anyHasScalarIn_mono hsub xs h.2⟩

theorem anyPairHasScalarIn_mono {around within : List Nat} (hsub : ∀ n ∈ around, n ∈ within)
    (ps : List (Value × Value)) (h : anyPairHasScalarIn test true within ps = false) :
    anyPairHasScalarIn test true around ps = false := by
  match ps with
  | [] => rfl
  | (k, v) :: ps =>
    rw [anyPairHasScalarIn, Bool.or_eq_false_iff, Bool.or_eq_false_iff] at h ⊢
    exact ⟨⟨hasScalarIn_mono hsub k h.1.1, hasScalarIn_mono hsub v h.1.2⟩,
      anyPairHasScalarIn_mono hsub ps h.2⟩

end

theorem hasScalarIn_content {around : List Nat} (v : Value)
    (h : v.hasScalarIn test true around = false) :
    v.content.hasScalarIn test true around = false := by
  match v with
  | .knot n v =>
    rw [hasScalarIn] at h
    split at h
    case isTrue => cases h
    case isFalse =>
      exact hasScalarIn_content v (hasScalarIn_mono (fun _ => List.mem_cons_of_mem n) v h)
  | .null | .bool _ | .int _ | .float _ | .nan _ | .str _ | .date _ | .dateTime _ | .bytes _
  | .list _ | .tuple _ | .set _ | .map _ => exact h

theorem hasScalarIn_of_asList? {around : List Nat} (h : v.hasScalarIn test true around = false)
    (hlist : v.asList? = some xs) : ∀ x ∈ xs, x.hasScalarIn test true around = false := by
  have hcontent := hasScalarIn_content v h
  rw [asList?_eq_some_iff.mp hlist, hasScalarIn, anyHasScalarIn_eq, List.any_eq_false] at hcontent
  exact fun x hx => Bool.eq_false_iff.mpr (hcontent x hx)

theorem isEndless_of_asList? (h : v.isEndless = false) (hlist : v.asList? = some xs) :
    ∀ x ∈ xs, x.isEndless = false :=
  hasScalarIn_of_asList? h hlist

theorem isEndless_of_find? (h : v.isEndless = false) (hmap : v.asMap? = some ps)
    (hfind : Mapping.find? key ps = some w) : w.isEndless = false := by
  have hcontent := hasScalarIn_content v h
  rw [asMap?_eq_some_iff.mp hmap, hasScalarIn] at hcontent
  clear hmap
  -- The value stands in one of the pairs.
  induction ps with
  | nil => cases hfind
  | cons p ps ih =>
    obtain ⟨k, u⟩ := p
    rw [anyPairHasScalarIn, Bool.or_eq_false_iff, Bool.or_eq_false_iff] at hcontent
    rw [Mapping.find?, Mapping.get?] at hfind
    split at hfind
    · cases hfind
      exact hcontent.1.2
    · exact ih hfind hcontent.2

end PlaybookAssist.Value
