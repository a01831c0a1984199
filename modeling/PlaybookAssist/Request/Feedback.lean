import PlaybookAssist.Request.Completion

/-!
# Feedback

What the service is told about a suggestion that was shown: what the user did with it, and how long
it took.

## Main definitions

- `UserAction` : what the user did
- `Feedback` : the report
- `Feedback.ofValue`, `Feedback.toPayload` : its forms as data
-/

namespace PlaybookAssist

/-- What the user did with a suggestion. -/
inductive UserAction where
  | accept
  | ignore
  deriving DecidableEq, Repr

namespace UserAction

/-- The number of an action. -/
def number : UserAction → Int
  | .accept => 0
  | .ignore => 1

/-- The action of a number. -/
def ofNumber? (n : Int) : Option UserAction :=
  if n = 0 then some .accept else if n = 1 then some .ignore else none

theorem ofNumber?_number (a : UserAction) : ofNumber? a.number = some a := by
  cases a <;> rfl

/-- The action that a value is the number of. -/
def ofValue (v : Value) : Schema.Checked UserAction :=
  match Schema.integer v with
  | .ok n =>
    match ofNumber? n with
    | some a => .ok a
    | none => Schema.fail .notAMember
  | .error _ => Schema.fail .notAMember

end UserAction

/-- The report on a suggestion that was shown. Times are in milliseconds. -/
structure Feedback where
  suggestionId : Text
  action : UserAction
  /-- The time from the request to the answer. -/
  latency : Option Float
  /-- The time from the answer to the action. -/
  actionTime : Option Float
  /-- The document that the suggestion was for. -/
  documentUri : Option Text
  activityId : Option Text
  /-- The wording of what went wrong. -/
  error : Option Text
  deriving DecidableEq, Repr

namespace Feedback

/-! ## Reading -/

/-- The report on one suggestion that a value describes, or everything wrong with it in the order of
    the fields. -/
def ofSuggestion (v : Value) : Schema.Checked Feedback :=
  match v.content with
  | .map ps =>
    let maybe {α : Type} (check : Value → Schema.Checked α) (names : List Text) :
        Schema.Checked (Option α) :=
      Schema.withDefault none (Schema.optional check) names ps
    let suggestionId := Schema.required Schema.text ["suggestionId", "suggestion_id"] ps
    let action := Schema.required UserAction.ofValue ["action"] ps
    let latency := maybe Schema.real ["latency"]
    let actionTime := maybe Schema.real ["userActionTime", "user_action_time"]
    let documentUri := maybe Schema.text ["documentUri", "document_uri"]
    let activityId := maybe Schema.text ["activityId", "activity_id"]
    let error := maybe Schema.text ["error"]
    match suggestionId, action, latency, actionTime, documentUri, activityId, error with
    | .ok suggestionId, .ok action, .ok latency, .ok actionTime, .ok documentUri, .ok activityId,
        .ok error =>
      .ok { suggestionId, action, latency, actionTime, documentUri, activityId, error }
    | _, _, _, _, _, _, _ =>
      .error (suggestionId.issues ++ action.issues ++ latency.issues ++ actionTime.issues
        ++ documentUri.issues ++ activityId.issues ++ error.issues)
  | _ => Schema.fail .notAModel

/-- The report that a value describes, or everything wrong with it. -/
def ofValue (v : Value) : Schema.Checked Feedback :=
  match v.content with
  | .map ps => Schema.required ofSuggestion ["inlineSuggestion", "inline_suggestion"] ps
  | _ => Schema.fail .notAModel

/-! ## Writing -/

/-- The plain data of the report on one suggestion. -/
def toSuggestion (f : Feedback) : Mapping :=
  Mapping.ofTexts
    (("suggestionId", .str f.suggestionId) :: ("action", .int f.action.number)
      :: (payloadField "latency" .float f.latency
        ++ payloadField "userActionTime" .float f.actionTime
        ++ payloadField "documentUri" .str f.documentUri
        ++ payloadField "activityId" .str f.activityId
        ++ payloadField "error" .str f.error))

/-- The plain data of a report. -/
def toPayload (f : Feedback) : Mapping :=
  Mapping.ofTexts [("inlineSuggestion", .map f.toSuggestion)]

end Feedback

end PlaybookAssist
