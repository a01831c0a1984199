import PlaybookAssist.Proofs.Value.Mapping
import PlaybookAssist.Schema.Check

/-!
# Fields that are read

What the checks of fields make of a mapping that is written down under texts.

## Main statements

- `Schema.withDefault_cases` : where the value of a field comes from
- `Schema.required_ofTexts`, `Schema.withDefault_ofTexts` : a field that is there
- `Schema.withDefault_optional_ofTexts` : a field that is there or not
-/

namespace PlaybookAssist.Schema

open Mapping (ofTexts)

variable {α : Type} {name : Text} {names : List Text} {check : Value → Checked α} {default a : α}
  {a? : Option α} {v : Value} {ps : Mapping} {fields : Table Value}

/-- A field that is read is the default, or what the check makes of some value. -/
theorem withDefault_cases (h : withDefault default check names ps = .ok a) :
    a = default ∨ ∃ v, check v = .ok a := by
  rw [withDefault] at h
  split at h
  case h_2 =>
    cases h
    exact .inl rfl
  case h_1 name v _ =>
    right
    cases hv : check v with
    | error is =>
      rw [hv] at h
      cases h
    | ok b =>
      rw [hv] at h
      cases h
      exact ⟨v, hv⟩

/-- A field is looked for under its first name, and then under the others. -/
theorem findField?_ofTexts (name : Text) (names : List Text) (fields : Table Value) :
    findField? (name :: names) (ofTexts fields) =
      ((Table.find? name fields).map fun v => (name, v)).or (findField? names (ofTexts fields)) := by
  rw [findField?, List.findSome?_cons, Mapping.find?_ofTexts]
  cases Table.find? name fields <;> rfl

theorem findField?_ofTexts_eq_none (h : ∀ name ∈ names, Table.find? name fields = none) :
    findField? names (ofTexts fields) = none := by
  rw [findField?, List.findSome?_eq_none_iff]
  intro name hname
  rw [Mapping.find?_ofTexts, h name hname, Option.map_none]

/-- A field that is there under its first name is read from its value. -/
theorem required_ofTexts (hfind : Table.find? name fields = some v) (hcheck : check v = .ok a) :
    required check (name :: names) (ofTexts fields) = .ok a := by
  rw [required, findField?_ofTexts, hfind, Option.map_some, Option.some_or]
  dsimp only
  rw [hcheck, Checked.within]

theorem withDefault_ofTexts (hfind : Table.find? name fields = some v) (hcheck : check v = .ok a) :
    withDefault default check (name :: names) (ofTexts fields) = .ok a := by
  rw [withDefault, findField?_ofTexts, hfind, Option.map_some, Option.some_or]
  dsimp only
  rw [hcheck, Checked.within]

/-- A field that may be missing is read as it was given, if it is under its first name or under none
    at all. -/
theorem withDefault_optional_ofTexts (form : α → Value)
    (hcheck : ∀ a ∈ a?, optional check (form a) = .ok (some a))
    (hfind : Table.find? name fields = a?.map form)
    (hother : ∀ other ∈ names, Table.find? other fields = none) :
    withDefault none (optional check) (name :: names) (ofTexts fields) = .ok a? := by
  cases a? with
  | some a => exact withDefault_ofTexts hfind (hcheck a rfl)
  | none =>
    rw [withDefault, findField?_ofTexts, hfind, findField?_ofTexts_eq_none hother]
    rfl

end PlaybookAssist.Schema
