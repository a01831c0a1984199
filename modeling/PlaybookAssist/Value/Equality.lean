import PlaybookAssist.Value

/-!
# Equality of values

Two values are equal when they agree in every part, doubles bit by bit. This is finer than being the
same key: as keys `1` and `true` are the same.

## Main definitions

- `Value.isSame` : the comparison
- `Value.isSame_iff` : it decides equality
-/

namespace PlaybookAssist.Value

mutual

/-- Do two values agree in every part? -/
def isSame : Value → Value → Bool
  | .null, .null => true
  | .bool a, .bool b => a == b
  | .int i, .int j => i == j
  | .float x, .float y => decide (x = y)
  | .nan m, .nan n => m == n
  | .str s, .str t => s == t
  | .date d, .date e => decide (d = e)
  | .dateTime s, .dateTime t => decide (s = t)
  | .bytes as, .bytes bs => as == bs
  | .list xs, .list ys => areSame xs ys
  | .tuple xs, .tuple ys => areSame xs ys
  | .set xs, .set ys => areSame xs ys
  | .map ps, .map qs => areSamePairs ps qs
  | .knot m v, .knot n w => m == n && isSame v w
  | _, _ => false

/-- Do two sequences agree element by element? -/
def areSame : List Value → List Value → Bool
  | [], [] => true
  | x :: xs, y :: ys => isSame x y && areSame xs ys
  | _, _ => false

/-- Do two mappings agree pair by pair? -/
def areSamePairs : List (Value × Value) → List (Value × Value) → Bool
  | [], [] => true
  | (k, v) :: ps, (l, w) :: qs => isSame k l && isSame v w && areSamePairs ps qs
  | _, _ => false

end

mutual

theorem isSame_iff (a b : Value) : isSame a b = true ↔ a = b := by
  -- values of different kinds are told apart by their constructors
  cases a <;> cases b <;> simp only [isSame, reduceCtorEq, Bool.false_eq_true, beq_iff_eq,
    decide_eq_true_eq, bool.injEq, int.injEq, float.injEq, str.injEq, date.injEq, dateTime.injEq,
    bytes.injEq, list.injEq, tuple.injEq, set.injEq, map.injEq, nan.injEq, knot.injEq,
    Bool.and_eq_true, areSame_iff, areSamePairs_iff, isSame_iff]

theorem areSame_iff (xs ys : List Value) : areSame xs ys = true ↔ xs = ys := by
  match xs, ys with
  | [], [] => simp [areSame]
  | [], _ :: _ => simp [areSame]
  | _ :: _, [] => simp [areSame]
  | x :: xs, y :: ys => simp [areSame, isSame_iff x y, areSame_iff xs ys]

theorem areSamePairs_iff (ps qs : List (Value × Value)) :
    areSamePairs ps qs = true ↔ ps = qs := by
  match ps, qs with
  | [], [] => simp [areSamePairs]
  | [], _ :: _ => simp [areSamePairs]
  | _ :: _, [] => simp [areSamePairs]
  | (k, v) :: ps, (l, w) :: qs =>
    simp [areSamePairs, isSame_iff k l, isSame_iff v w, areSamePairs_iff ps qs]

end

instance : DecidableEq Value :=
  fun a b => decidable_of_iff _ (isSame_iff a b)

end PlaybookAssist.Value
