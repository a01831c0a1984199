import PlaybookAssist.Prompt
import PlaybookAssist.Suggestion.Activity
import PlaybookAssist.Suggestion.Session
import PlaybookAssist.Text.Margin

/-!
# The suggester

The suggester holds one session at a time. A call to it runs until it has to wait for someone else:
for the report on a suggestion to be taken, for the user's entitlement, for the request to be built,
for the completion. What other calls do in the meantime is found when the call goes on, so each wait
carries what the call remembers and nothing of the session.

While a suggestion is shown, a trigger at the same place shows it again: editors ask once more when
their own suggestion bar appears. A trigger at any other place means that the user ignored the
suggestion.

## Main definitions

- `Surroundings` : what a call finds around it
- `Suggester` : the session and what outlives it
- `Effect`, `Wait`, `Progress` : what a call does, what it waits for, how far it gets
- `Suggester.trigger`, `Suggester.ask` : the call for a suggestion, with and without its guards
- `Suggester.accept`, `Suggester.hide`, `Suggester.invoke` : the commands of the user
- `Suggester.resume` : a call that goes on with the answer it waited for
-/

namespace PlaybookAssist

/-- What a call finds around it. -/
structure Surroundings where
  settings : Settings
  /-- The document that the editor shows. -/
  active : Option Document
  /-- The time in seconds. -/
  now : Float
  /-- The tokens by which triggers have been taken back. -/
  cancelled : List Text
  /-- Is there anyone who knows the user's entitlement? -/
  asksEntitlement : Bool
  ids : IdSource

namespace Surroundings

/-- Is the document one that gets suggestions? -/
def serves (s : Surroundings) (d : Document) : Bool :=
  d.languageId = s.settings.languageId

/-- Does the editor show a document that gets suggestions? -/
def servesActive (s : Surroundings) : Bool :=
  s.active.any s.serves

/-- Has the trigger been taken back? -/
def isCancelled (s : Surroundings) (t : Trigger) : Bool :=
  t.token.any s.cancelled.elem

end Surroundings

/-- The session and what outlives it. -/
structure Suggester where
  session : Suggestion
  /-- How the last suggestion that was shown came to its end. -/
  ending : Option Ending
  /-- The id and the first text of the suggestion that was shown last. -/
  details : Option (Text × Text)
  activities : ActivityLog
  /-- The number of sessions begun by a trigger. -/
  begun : Nat
  deriving DecidableEq, Repr

/-! ## Effects and waits -/

/-- The commands that the editor is told to run. -/
inductive EditorCommand where
  | trigger
  | commit
  | hide
  | fetchTrainingMatches
  deriving DecidableEq, Repr

/-- The name of a command. -/
def EditorCommand.name : EditorCommand → Text
  | .trigger => "editor.action.inlineSuggest.trigger"
  | .commit => "editor.action.inlineSuggest.commit"
  | .hide => "editor.action.inlineSuggest.hide"
  | .fetchTrainingMatches => "ansible.lightspeed.fetchTrainingMatches"

/-- What a call does to the editor. -/
inductive Effect where
  | showError (message : Text)
  | showInformation (message : Text)
  | run (command : EditorCommand)
  deriving DecidableEq, Repr

/-- What a call remembers of its trigger. -/
structure Pending where
  trigger : Trigger
  /-- The number of the session that the trigger began. -/
  number : Nat
  prompt : Text
  /-- The entries that the prompt is the text of. -/
  entries : List Value
  activityId : Text
  deriving DecidableEq, Repr

/-- What a call waits for, and what it remembers. -/
inductive Wait where
  /-- That a report is taken; then the call goes on with a trigger, if there is one. -/
  | feedback (report : Feedback) (next : Option Trigger)
  /-- To learn whether the user is entitled to suggestions with context. -/
  | entitlement (call : Pending)
  /-- That the request is built; it is wanted since the given time. -/
  | request (call : Pending) (inquiry : Inquiry) (since : Float)
  /-- The predictions for a request. -/
  | completion (call : Pending) (request : CompletionRequest) (since : Float)
  deriving DecidableEq, Repr

/-- What a wait ends with. -/
inductive Answer where
  | feedback (result : Except Failure Unit)
  | entitlement (result : Except Failure Bool)
  | request (result : Except Failure CompletionRequest)
  | completion (result : Except Failure (List Text))

/-- How far a call gets. -/
inductive Progress where
  /-- It returns texts to show. -/
  | finished (items : List Text)
  | failed (failure : Failure)
  | waiting (wait : Wait)
  deriving DecidableEq, Repr

/-- A stretch of a call gives the suggester after it, the effects in order, and how far it gets. -/
abbrev Stretch := Suggester × List Effect × Progress

namespace Suggester

/-- The suggester that has seen nothing. -/
def fresh : Suggester :=
  ⟨.blank, none, none, [], 0⟩

/-- The suggester whose session is over. -/
def reset (p : Suggester) : Suggester :=
  { p with session := p.session.ended }

/-! ## The call for a suggestion -/

/-- The call ends without a text, and so does whatever session there is. -/
def giveUp (p : Suggester) (effects : List Effect) : Stretch :=
  (p.reset, effects, .finished [])

/-- The call goes on with the user's entitlement. -/
def afterEntitlement (s : Surroundings) (call : Pending) (entitled : Bool) (p : Suggester) :
    Stretch :=
  if s.isCancelled call.trigger then p.giveUp []
  else
    let inquiry : Inquiry :=
      { prompt := call.prompt
        document := .list call.entries
        uri := call.trigger.document.uri
        activityId := call.activityId
        entitled
        suggestionId := p.session.id }
    (p, [], .waiting (.request call inquiry s.now))

/-- The session that a trigger begins, with a fresh id and the activity of its document. -/
def start (s : Surroundings) (t : Trigger) (p : Suggester) : Suggester × Origin :=
  let (activities, activityId) := p.activities.idOf s.ids t.document.uri t.document.text
  let origin : Origin :=
    ⟨p.begun, s.ids.suggestion p.begun, activityId, t.document.uri⟩
  ({ p with session := .requested origin, activities, begun := p.begun + 1 }, origin)

/-- The call for a suggestion at a place, whatever is shown. -/
def ask (s : Surroundings) (t : Trigger) (p : Suggester) : Stretch :=
  let check := t.document.checkTrigger t.position
  if !check.isOk then
    p.giveUp (match t.kind, check.hint with
      | .invoke, some hint => [.showInformation hint]
      | _, _ => [])
  else
    let (p, origin) := p.start s t
    match t.document.prompt t.position with
    | .error e => (p, [], .failed e)
    | .ok prompt =>
      match Prompt.parse prompt with
      | .error (.prompt fault) => p.giveUp [.showError fault.message]
      | .error e => (p, [], .failed e)
      | .ok none => p.giveUp []
      | .ok (some entries) =>
        match Prompt.awaitsBody entries with
        | .error e => (p, [], .failed e)
        | .ok false => p.giveUp []
        | .ok true =>
          let call : Pending := ⟨t, origin.number, prompt, entries, origin.activityId⟩
          if s.asksEntitlement then (p, [], .waiting (.entitlement call))
          else p.afterEntitlement s call false

/-- What the user is told when there is no address of a service. -/
def missingUrl : Text := "Ansible Lightspeed URL is empty. Please provide a URL."

/-- The suggester whose suggestion came to an end, and the report on it. -/
def dismiss (s : Surroundings) (action : UserAction) (ending : Ending) (p : Suggester) :
    Suggester × Feedback :=
  ({ p with session := .blank, ending := some ending }, p.session.report action s.now)

/-- The call for a suggestion as the editor makes it. -/
def trigger (s : Surroundings) (t : Trigger) (p : Suggester) : Stretch :=
  if !s.servesActive || !s.serves t.document || s.isCancelled t
      || !s.settings.suggestionsEnabled then p.giveUp []
  else if s.settings.url.isEmpty then p.giveUp [.showError missingUrl]
  else if p.session.isDisplayed then
    if p.session.shown.any fun shown => shown.position = t.position then
      (p, [], .finished p.session.items)
    else
      let (p, report) := p.dismiss s .ignore .superseded
      (p, [.run .hide], .waiting (.feedback report (some t)))
  else p.ask s t

/-! ## The end of a call for a suggestion -/

/-- What the user is told when a suggestion cannot be had. -/
def failureNotice (e : Failure) : Text :=
  "Error in inline suggestions: ".toList ++ e.message

/-- The call fails: the user is told, the session that the call began remembers why, and whatever
    session there is ends. -/
def fail (call : Pending) (e : Failure) (p : Suggester) : Stretch :=
  let session :=
    if p.session.isNumber call.number then { p.session with error := some e.message }
    else p.session
  { p with session }.giveUp [.showError (failureNotice e)]

/-- The call goes on with the request. -/
def afterRequest (call : Pending) (since : Float) (result : Except Failure CompletionRequest)
    (p : Suggester) : Stretch :=
  match result with
  | .error e => p.fail call e
  | .ok request => (p, [], .waiting (.completion call request since))

/-- The suggester that shows the texts, of which `first` is the first one. -/
def display (origin : Origin) (shown : Shown) (items : List Text) (p : Suggester) : Suggester :=
  { p with
    session := p.session.displaying shown items
    details := some (origin.suggestionId, shown.first) }

/-- The call goes on with the predictions. They are shown only if the session is still the one that
    the call began, and if the trigger has not been taken back. -/
def afterCompletion (s : Surroundings) (call : Pending) (since : Float)
    (result : Except Failure (List Text)) (p : Suggester) : Stretch :=
  match result with
  | .error e => p.fail call e
  | .ok predictions =>
    match p.session.origin with
    | none => (p, [], .finished [])
    | some origin =>
      if origin.number ≠ call.number then (p, [], .finished [])
      else if s.isCancelled call.trigger then p.giveUp []
      else
        let column := call.trigger.position.character
        match predictions.map fun t => Text.reindent t column with
        | [] => p.giveUp []
        | first :: others =>
          let shown : Shown :=
            { latency := (s.now - since) * 1000
              position := call.trigger.position
              time := s.now
              first }
          (p.display origin shown (first :: others), [], .finished (first :: others))

/-! ## The commands of the user -/

/-- The end of a suggestion by the user: the editor is told, and a report is made if something is
    shown. -/
def act (s : Surroundings) (action : UserAction) (ending : Ending) (commands : List EditorCommand)
    (p : Suggester) : Stretch :=
  if !s.servesActive then (p, [], .finished [])
  else
    let effects := commands.map Effect.run
    if p.session.isDisplayed then
      let (p, report) := p.dismiss s action ending
      (p, effects, .waiting (.feedback report none))
    else (p, effects, .finished [])

/-- The user accepts the suggestion. -/
def accept (s : Surroundings) (p : Suggester) : Stretch :=
  p.act s .accept .accepted [.commit, .fetchTrainingMatches]

/-- The user sends the suggestion away. -/
def hide (s : Surroundings) (p : Suggester) : Stretch :=
  p.act s .ignore .ignored [.hide]

/-- The user wants a suggestion: the editor is told to trigger one. -/
def invoke (s : Surroundings) (p : Suggester) : Stretch :=
  (p, if s.servesActive then [.run .trigger] else [], .finished [])

/-! ## Going on -/

/-- The call goes on after a report. That the service does not take it is no reason to stop. -/
def afterFeedback (s : Surroundings) (next : Option Trigger) (result : Except Failure Unit)
    (p : Suggester) : Stretch :=
  let goOn := match next with
    | some t => p.ask s t
    | none => (p, [], .finished [])
  match result with
  | .ok () => goOn
  | .error (.service _) => goOn
  | .error e => (p, [], .failed e)

/-- The call goes on with the answer that it waited for. It goes on waiting when the answer is one
    to something else. -/
def resume (s : Surroundings) (wait : Wait) (answer : Answer) (p : Suggester) : Stretch :=
  match wait, answer with
  | .feedback _ next, .feedback result => p.afterFeedback s next result
  | .entitlement _, .entitlement (.error e) => (p, [], .failed e)
  | .entitlement call, .entitlement (.ok entitled) => p.afterEntitlement s call entitled
  | .request call _ since, .request result => p.afterRequest call since result
  | .completion call _ since, .completion result => p.afterCompletion s call since result
  | wait, _ => (p, [], .waiting wait)

end Suggester

end PlaybookAssist
