import PlaybookAssist.Text

/-!
# Issues

What can be wrong with data that should have a certain shape, and where.

## Main definitions

- `Issue` : a place in the data and what is wrong there
-/

namespace PlaybookAssist.Schema

/-- One step from a value to a part of it. -/
inductive Step where
  | field (name : Text)
  | index (n : Int)
  deriving DecidableEq, Repr

/-- What is wrong with a value. -/
inductive IssueKind where
  | missing
  | notAModel
  | notABool
  | unknownBool
  | notAnInt
  | unreadableInt
  | fractionalInt
  | notFinite
  | intTooLarge
  | notAString
  | undecodableString
  | notAFloat
  | unreadableFloat
  | notAMapping
  | notAList
  | notAMember
  /-- The value has no text. -/
  | untellable
  deriving DecidableEq, Repr

/-- The name of a kind of issue. -/
def IssueKind.name : IssueKind → Text
  | .missing => "missing"
  | .notAModel => "model_type"
  | .notABool => "bool_type"
  | .unknownBool => "bool_parsing"
  | .notAnInt => "int_type"
  | .unreadableInt => "int_parsing"
  | .fractionalInt => "int_from_float"
  | .notFinite => "finite_number"
  | .intTooLarge => "int_parsing_size"
  | .notAString => "string_type"
  | .undecodableString => "string_unicode"
  | .notAFloat => "float_type"
  | .unreadableFloat => "float_parsing"
  | .notAMapping => "dict_type"
  | .notAList => "list_type"
  | .notAMember => "enum"
  | .untellable => "value_error"

/-- Something wrong at a place in the data. -/
structure Issue where
  location : List Step
  kind : IssueKind
  deriving DecidableEq, Repr

/-- The issue seen from a value around it. -/
def Issue.within (step : Step) (i : Issue) : Issue :=
  { i with location := step :: i.location }

end PlaybookAssist.Schema
