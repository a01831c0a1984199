import PlaybookAssist.Value

/-!
# Values without their names

A list or a mapping may have a name, under which it occurs inside itself. What is said of its content
is said of it under any name.

## Main statements

- `Value.asList?_eq_some_iff`, `Value.asMap?_eq_some_iff` : what is a list, what is a mapping
- `Value.isTruthy_content` : a name makes no difference to whether a value is something
-/

namespace PlaybookAssist.Value

variable {v : Value} {xs : List Value} {ps : Mapping}

@[simp] theorem content_map (ps : Mapping) : (map ps).content = map ps :=
  rfl

theorem asList?_eq_some_iff : v.asList? = some xs ↔ v.content = .list xs := by
  rw [asList?]
  split
  case h_1 ys hys => rw [hys, Option.some.injEq, list.injEq]
  case h_2 hnone => exact iff_of_false nofun (hnone xs)

theorem asMap?_eq_some_iff : v.asMap? = some ps ↔ v.content = .map ps := by
  rw [asMap?]
  split
  case h_1 qs hqs => rw [hqs, Option.some.injEq, map.injEq]
  case h_2 hnone => exact iff_of_false nofun (hnone ps)

theorem isTruthy_content (v : Value) : v.content.isTruthy = v.isTruthy := by
  match v with
  | .knot _ v => exact isTruthy_content v
  | .null | .bool _ | .int _ | .float _ | .nan _ | .str _ | .date _ | .dateTime _ | .bytes _
  | .list _ | .tuple _ | .set _ | .map _ => rfl

end PlaybookAssist.Value
