import Mathlib.Data.Option.Basic
import PlaybookAssist.Proofs.Value.Endless
import PlaybookAssist.Proofs.Value.Mapping

/-!
# Values with lists in another order

Two values may differ only in the order of the lists inside them, at any depth. Then the same things
are in their lists and under their keys, up to the order of lists again.

## Main definitions

- `Value.Rearranged` : two values that differ at most in the order of lists

## Main statements

- `Value.Rearranged.rel_asList?`, `Value.Rearranged.rel_asMap?` : their elements and what is under
  their keys
- `Value.Rearranged.isEndless_eq` : whether they hold themselves
-/

namespace PlaybookAssist.Value

variable {isKnot : Bool} {v w x y : Value}

/-! ## Related options -/

section Rel

variable {α : Type} {r : α → α → Prop} {a b c : Option α}

theorem rel_refl (hr : ∀ x, r x x) (a : Option α) : Option.Rel r a a := by
  cases a with
  | none => exact .none
  | some x => exact .some (hr x)

theorem rel_trans (hr : ∀ x y z, r x y → r y z → r x z) (h : Option.Rel r a b)
    (h' : Option.Rel r b c) : Option.Rel r a c := by
  cases h with
  | none => exact h'
  | some hxy =>
    cases h' with
    | some hyz => exact .some (hr _ _ _ hxy hyz)

theorem exists_of_rel {x : α} (h : Option.Rel r a b) (ha : a = some x) :
    ∃ y, b = some y ∧ r x y := by
  subst ha
  cases h with
  | some hxy => exact ⟨_, rfl, hxy⟩

/-- What does not tell related things apart comes to the same on both sides. -/
theorem elim_eq_of_rel {β : Type} {d : β} {f : α → β} (h : Option.Rel r a b)
    (hf : ∀ x y, r x y → f x = f y) : a.elim d f = b.elim d f := by
  cases h with
  | none => rfl
  | some hxy => exact hf _ _ hxy

theorem bind_eq_of_rel {β : Type} {f : α → Option β} (h : Option.Rel r a b)
    (hf : ∀ x y, r x y → f x = f y) : a.bind f = b.bind f := by
  cases h with
  | none => rfl
  | some hxy => exact hf _ _ hxy

end Rel

/-- Mappings that differ in what is under one key are related under every key, if the two values are
    related wherever their key is looked up. -/
theorem rel_find?_of_sameKey {r : Value → Value → Prop} (hr : ∀ v, r v v) {key : Text} {k : Value}
    (before after : List (Value × Value)) (h : sameKey k (.str key) = true → r x y) :
    Option.Rel r (Mapping.find? key (before ++ (k, x) :: after))
      (Mapping.find? key (before ++ (k, y) :: after)) := by
  induction before with
  | nil =>
    rw [List.nil_append, List.nil_append, Mapping.find?, Mapping.find?, Mapping.get?, Mapping.get?]
    split
    case isTrue hkey => exact .some (h hkey)
    case isFalse => exact rel_refl hr _
  | cons p before ih =>
    obtain ⟨k', u⟩ := p
    rw [List.cons_append, List.cons_append, Mapping.find?, Mapping.find?, Mapping.get?,
      Mapping.get?]
    split
    -- a pair in front that has the key is the same in both
    · exact rel_refl hr _
    · exact ih

/-! ## Lists in another order -/

/-- The values differ at most in the order of lists, which may be the values themselves or lie
    anywhere inside them. -/
inductive Rearranged : Value → Value → Prop where
  | refl (v : Value) : Rearranged v v
  | trans {u v w : Value} : Rearranged u v → Rearranged v w → Rearranged u w
  | list {xs ys : List Value} : xs.Perm ys → Rearranged (.list xs) (.list ys)
  | element {x y : Value} (before after : List Value) :
    Rearranged x y → Rearranged (.list (before ++ x :: after)) (.list (before ++ y :: after))
  | under {x y : Value} (before after : List (Value × Value)) (key : Value) :
    Rearranged x y →
      Rearranged (.map (before ++ (key, x) :: after)) (.map (before ++ (key, y) :: after))
  | knot {x y : Value} (n : Nat) : Rearranged x y → Rearranged (.knot n x) (.knot n y)

namespace Rearranged

theorem symm (h : Rearranged v w) : Rearranged w v := by
  induction h with
  | refl v => exact .refl v
  | trans _ _ ih ih' => exact .trans ih' ih
  | list hperm => exact .list hperm.symm
  | element before after _ ih => exact .element before after ih
  | under before after key _ ih => exact .under before after key ih
  | knot n _ ih => exact .knot n ih

theorem hasScalarIn_eq (h : Rearranged v w) (around : List Nat) :
    v.hasScalarIn (fun _ => false) isKnot around = w.hasScalarIn (fun _ => false) isKnot around := by
  induction h generalizing around with
  | refl v => rfl
  | trans _ _ ih ih' => exact (ih around).trans (ih' around)
  | list hperm =>
    rw [hasScalarIn, hasScalarIn, anyHasScalarIn_eq, anyHasScalarIn_eq]
    exact hperm.any_eq
  | element before after _ ih =>
    simp only [hasScalarIn, anyHasScalarIn_eq, List.any_append, List.any_cons, ih]
  | under before after key _ ih =>
    simp only [hasScalarIn, anyPairHasScalarIn_eq, List.any_append, List.any_cons, ih]
  | knot n _ ih => simp only [hasScalarIn, ih]

theorem isEndless_eq (h : Rearranged v w) : v.isEndless = w.isEndless :=
  h.hasScalarIn_eq []

/-- A value that holds no others stays as it is. -/
theorem eq_of_ne (h : Rearranged v w) (hlist : ∀ xs, v ≠ .list xs) (hmap : ∀ ps, v ≠ .map ps)
    (hknot : ∀ n u, v ≠ .knot n u) : w = v := by
  induction h with
  | refl v => rfl
  | trans _ _ ih ih' =>
    obtain rfl := ih hlist hmap hknot
    exact ih' hlist hmap hknot
  | list | element => exact absurd rfl (hlist _)
  | under => exact absurd rfl (hmap _)
  | knot n => exact absurd rfl (hknot n _)

/-- What is in a list of the one value is, up to the order of lists, in the list of the other. -/
theorem rel_asList? (h : Rearranged v w) :
    Option.Rel (fun xs ys => ∀ x ∈ xs, ∃ y ∈ ys, Rearranged x y) v.asList? w.asList? := by
  -- Induction over the rearrangement; what stands in the one list has its like in the other.
  induction h with
  | refl v => exact rel_refl (fun xs x hx => ⟨x, hx, .refl x⟩) _
  | trans _ _ ih ih' =>
    refine rel_trans (fun xs ys zs hxs hys x hx => ?_) ih ih'
    obtain ⟨y, hy, hxy⟩ := hxs x hx
    obtain ⟨z, hz, hyz⟩ := hys y hy
    exact ⟨z, hz, hxy.trans hyz⟩
  | list hperm => exact .some fun x hx => ⟨x, hperm.mem_iff.mp hx, .refl x⟩
  -- Only the one element is exchanged.
  | @element x y before after hxy _ =>
    refine .some fun z hz => ?_
    obtain hz | rfl | hz := by simpa using hz
    · exact ⟨z, by simp [hz], .refl z⟩
    · exact ⟨y, by simp, hxy⟩
    · exact ⟨z, by simp [hz], .refl z⟩
  | under => exact .none
  | knot n _ ih => exact ih

theorem rel_find? (h : Rearranged x y) (key : Text) (before after : List (Value × Value))
    (k : Value) : Option.Rel Rearranged (Mapping.find? key (before ++ (k, x) :: after))
      (Mapping.find? key (before ++ (k, y) :: after)) :=
  rel_find?_of_sameKey .refl before after fun _ => h

/-- What is under a key of the one value is, up to the order of lists, under the key of the
    other. -/
theorem rel_asMap? (h : Rearranged v w) :
    Option.Rel (fun ps qs => ∀ key, Option.Rel Rearranged (Mapping.find? key ps)
      (Mapping.find? key qs)) v.asMap? w.asMap? := by
  induction h with
  | refl v => exact rel_refl (fun ps key => rel_refl .refl _) _
  | trans _ _ ih ih' =>
    have hcomp (u v w : Value) (huv : Rearranged u v) (hvw : Rearranged v w) : Rearranged u w :=
      huv.trans hvw
    exact rel_trans (fun _ _ _ hps hqs key => rel_trans hcomp (hps key) (hqs key)) ih ih'
  | list | element => exact .none
  | under before after k h _ => exact .some fun key => rel_find? h key before after k
  | knot n _ ih => exact ih

end Rearranged

end PlaybookAssist.Value
