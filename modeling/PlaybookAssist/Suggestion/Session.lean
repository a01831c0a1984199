import PlaybookAssist.Document
import PlaybookAssist.Request.Feedback
import PlaybookAssist.Request.Inquiry

/-!
# Suggestion sessions

A session is the life of one suggestion: asked for, then shown, then over. What was shown stays known
when the session is over, until the next one begins.

## Main definitions

- `Stage`, `Ending` : where a suggestion stands, and how one that was shown came to its end
- `Suggestion` : a session
- `Suggestion.blank`, `Suggestion.requested`, `Suggestion.ended`, `Suggestion.displaying` : how it
  begins and goes on
- `Trigger` : the wish for a suggestion at a place in a document
-/

namespace PlaybookAssist

/-- Where a suggestion stands. -/
inductive Stage where
  | idle
  | requesting
  | displayed
  deriving DecidableEq, Repr

/-- The name of a stage. -/
def Stage.name : Stage → Text
  | .idle => "idle"
  | .requesting => "requesting"
  | .displayed => "displayed"

/-- How a suggestion that was shown came to its end. -/
inductive Ending where
  | accepted
  | ignored
  | superseded
  deriving DecidableEq, Repr

/-- The name of an ending. -/
def Ending.name : Ending → Text
  | .accepted => "accepted"
  | .ignored => "ignored"
  | .superseded => "superseded"

/-- What a session was begun for. -/
structure Origin where
  /-- The number of the session among those begun by a trigger. -/
  number : Nat
  suggestionId : Text
  activityId : Text
  documentUri : Text
  deriving DecidableEq, Repr

/-- What was shown. -/
structure Shown where
  /-- The milliseconds from the request to the answer. -/
  latency : Float
  position : Position
  /-- When the answer came, in seconds. -/
  time : Float
  /-- The first of the texts. -/
  first : Text
  deriving DecidableEq, Repr

/-- The session of one suggestion. A session that no trigger has begun has no origin. -/
structure Suggestion where
  origin : Option Origin
  stage : Stage
  /-- The texts that the user can choose from. -/
  items : List Text
  shown : Option Shown
  /-- The wording of what went wrong. -/
  error : Option Text
  deriving DecidableEq, Repr

namespace Suggestion

/-- A session that no trigger has begun. -/
def blank : Suggestion :=
  ⟨none, .idle, [], none, none⟩

/-- The session that a trigger begins. -/
def requested (origin : Origin) : Suggestion :=
  ⟨some origin, .requesting, [], none, none⟩

/-- The session when nothing is shown any more and no answer is waited for. -/
def ended (s : Suggestion) : Suggestion :=
  { s with stage := .idle, items := [] }

/-- The session when texts are shown, the first one of at least one being `shown.first`. -/
def displaying (shown : Shown) (items : List Text) (s : Suggestion) : Suggestion :=
  { s with stage := .displayed, items, shown := some shown }

/-- Is something shown? -/
def isDisplayed (s : Suggestion) : Bool :=
  s.stage = .displayed

/-- The id of the suggestion, empty when no trigger has begun it. -/
def id (s : Suggestion) : Text :=
  s.origin.elim [] Origin.suggestionId

/-- Is this the session with the given number? -/
def isNumber (n : Nat) (s : Suggestion) : Bool :=
  s.origin.any fun o => o.number == n

/-- The report on what the user did with the suggestion at a time. -/
def report (s : Suggestion) (action : UserAction) (now : Float) : Feedback :=
  { suggestionId := s.id
    action
    latency := s.shown.map Shown.latency
    actionTime := s.shown.map fun shown => (now - shown.time) * 1000
    documentUri := s.origin.map Origin.documentUri
    activityId := s.origin.map Origin.activityId
    error := s.error }

@[simp] theorem stage_ended (s : Suggestion) : s.ended.stage = .idle :=
  rfl

@[simp] theorem items_ended (s : Suggestion) : s.ended.items = [] :=
  rfl

@[simp] theorem origin_ended (s : Suggestion) : s.ended.origin = s.origin :=
  rfl

end Suggestion

/-! ## Triggers -/

/-- How a suggestion is asked for. -/
inductive TriggerKind where
  /-- By the user. -/
  | invoke
  /-- By the editor, as the user types. -/
  | automatic
  deriving DecidableEq, Repr

/-- The wish for a suggestion at a place in a document. -/
structure Trigger where
  document : Document
  position : Position
  kind : TriggerKind
  /-- The name of the token by which the wish can be taken back. -/
  token : Option Text
  deriving DecidableEq, Repr

end PlaybookAssist
