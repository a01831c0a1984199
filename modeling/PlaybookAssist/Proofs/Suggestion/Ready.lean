import Mathlib.Control.Monad.Basic
import PlaybookAssist.Proofs.Suggestion.History

/-!
# Calls that nothing stands in the way of

A trigger is ready when every guard lets it pass and the text above the cursor ends in a task that
has a name and nothing else. A ready trigger always begins a session, and its call comes to wait for
the user's entitlement, or for its request where nobody is asked.

## Main definitions

- `Trigger.Ready` : nothing stands in the way of the trigger
- `Pending.inquiry` : what a call asks its request to be made of
- `Sample.trigger` : the trigger below the name of a task
- `Sample.inquired`, `Sample.sent`, `Sample.shown`, `Sample.overtaken` : how far its call gets

## Main statements

- `Lifecycle.step_trigger_of_ready`
-/

namespace PlaybookAssist

/-- Nothing stands in the way of the trigger; `prompt` is the text above the cursor, and `entries`
    are what it is the text of. -/
structure Trigger.Ready (s : Surroundings) (t : Trigger) (prompt : Text) (entries : List Value) :
    Prop where
  active : s.servesActive = true
  serves : s.serves t.document = true
  standing : s.isCancelled t = false
  enabled : s.settings.suggestionsEnabled = true
  url : s.settings.url.isEmpty = false
  placed : (t.document.checkTrigger t.position).isOk = true
  above : t.document.prompt t.position = .ok prompt
  parse : Prompt.parse prompt = .ok (some entries)
  awaitsBody : Prompt.awaitsBody entries = .ok true

/-- What a call remembers of a trigger and the session begun for it. -/
def Trigger.pending (t : Trigger) (prompt : Text) (entries : List Value) (o : Origin) : Pending :=
  ⟨t, o.number, prompt, entries, o.activityId⟩

/-- What a call asks its request to be made of. -/
def Pending.inquiry (call : Pending) (entitled : Bool) (id : Text) : Inquiry where
  prompt := call.prompt
  document := .list call.entries
  uri := call.trigger.document.uri
  activityId := call.activityId
  entitled := entitled
  suggestionId := id

namespace Suggester

variable {s : Surroundings} {t : Trigger} {prompt : Text} {entries : List Value} {p : Suggester}

/-- A trigger that is ready begins a session, and its call waits for the user's entitlement. -/
theorem ask_of_ready (h : t.Ready s prompt entries) (hasks : s.asksEntitlement = true) :
    p.ask s t = ((p.start s t).1, [],
      .waiting (.entitlement (t.pending prompt entries (p.start s t).2))) := by
  simp [ask, h.placed, h.above, h.parse, h.awaitsBody, hasks, Trigger.pending]

/-- The guards let a trigger pass that is ready, while nothing is shown. -/
theorem trigger_of_ready (h : t.Ready s prompt entries)
    (hidle : p.session.isDisplayed = false) : p.trigger s t = p.ask s t := by
  simp [trigger, h.active, h.serves, h.standing, h.enabled, h.url, hidle]

end Suggester

/-- A trigger that is ready, while nothing is shown, begins a session and a call that waits. -/
theorem Lifecycle.step_trigger_of_ready {l : Lifecycle} {t : Trigger} {prompt : Text}
    {entries : List Value} (h : t.Ready l.surroundings prompt entries)
    (hasks : l.surroundings.asksEntitlement = true)
    (hidle : l.suggester.session.isDisplayed = false) :
    l.step (.trigger t) =
      let (p, o) := l.suggester.start l.surroundings t
      let wait := .entitlement (t.pending prompt entries o)
      ({ l with suggester := p, calls := l.calls ++ [some wait] },
        ⟨[], some (l.calls.length, .waiting wait)⟩) := by
  simp only [step, beginCall, Suggester.trigger_of_ready h hidle, Suggester.ask_of_ready h hasks]
  rfl

/-! ## A sample -/

namespace Sample

open Yaml

/-- A document with the name of a task, and a blank line under it. -/
def document : Document :=
  ⟨"/site.yml", ['-', ' ', 'n', 'a', 'm', 'e', ':', ' ', 'x', '\n'], "ansible"⟩

/-- The editor shows the document, and someone knows the user's entitlement. -/
def surroundings : Surroundings where
  settings :=
    { enabled := true, url := "service", modelId := none, suggestions := true
      languageId := "ansible", timeout := 30 }
  active := some document
  now := 0
  cancelled := []
  asksEntitlement := true
  ids := .counting

/-- The wish for a suggestion under the name. -/
def trigger : Trigger :=
  ⟨document, ⟨1, 0⟩, .automatic, none⟩

def prompt : Text :=
  ['-', ' ', 'n', 'a', 'm', 'e', ':', ' ', 'x']

def entries : List Value :=
  [.map [(.str ['n', 'a', 'm', 'e'], .str ['x'])]]

theorem load_prompt : Yaml.load prompt = .ok (.list entries) := by
  decide +kernel

theorem ready : trigger.Ready surroundings prompt entries where
  active := by decide
  serves := by decide
  standing := rfl
  enabled := rfl
  url := by decide
  placed := by decide
  above := by rfl
  parse := by
    rw [Prompt.parse, load_prompt]
    rfl
  awaitsBody := rfl

/-- What the call remembers that a trigger begins. -/
def call (p : Suggester) : Pending :=
  trigger.pending prompt entries (p.start surroundings trigger).2

/-- The request of a call under an id. -/
def request (c : Pending) (id : Text) : CompletionRequest :=
  (c.inquiry false id).requestWith [] .other none none

/-- The request is what is made of the inquiry of a call. -/
theorem builds {l : Lifecycle} {n : Nat} {draw : Nat → Text} {p : Suggester} {id : Text}
    {since : Float} (hwait : l.Waits n (.request (call p) ((call p).inquiry false id) since))
    (hid : id ≠ []) :
    Lifecycle.Builds draw l (.resume n (.request (.ok (request (call p) id)))) := by
  intro m _ _ _ _ hwait' he
  cases he
  cases hwait.unique hwait'
  let place : Place := ⟨['/'], ['/'], by decide, by decide⟩
  have hpath : Uri.toPath ((call p).inquiry false id).uri = .ok "/site.yml" := by
    have hdocument : Uri.toPath document.uri = .ok "/site.yml" := by decide
    exact hdocument
  have htype : ∀ fs, FileType.detect fs "/site.yml" ((call p).inquiry false id).document =
      .ok .other := by
    have hentries : FileType.ofDocument "/site.yml" (.list entries) = .other := by decide
    exact fun _ => congrArg Except.ok hentries
  refine ⟨place, default, default, none, default, ?_⟩
  simp only [Inquiry.request, hpath, Except.mapError, htype]
  simp [request, Inquiry.requestWith, hid, Pending.inquiry]

/-! ### A call that nothing disturbs -/

/-- The lifecycle after one more trigger. -/
def triggered (l : Lifecycle) : Lifecycle :=
  { l with
    suggester := (l.suggester.start surroundings trigger).1
    calls := l.calls ++ [some (.entitlement (call l.suggester))] }

/-- The id of the session that the first trigger begins. -/
def id : Text :=
  IdSource.counting.suggestion 0

/-- The user is entitled to nothing more, and the call asks for its request. -/
def inquired : Lifecycle :=
  { triggered (.fresh surroundings) with
    calls := [some (.request (call .fresh) ((call .fresh).inquiry false id) 0)] }

/-- The request is sent. -/
def sent : Lifecycle :=
  { triggered (.fresh surroundings) with
    calls := [some (.completion (call .fresh) (request (call .fresh) id) 0)] }

theorem step_trigger {l : Lifecycle} (hs : l.surroundings = surroundings)
    (hidle : l.suggester.session.isDisplayed = false) :
    (l.step (.trigger trigger)).1 = triggered l := by
  rw [Lifecycle.step_trigger_of_ready (hs ▸ ready) (hs ▸ rfl) hidle]
  simp only [triggered, call, hs]

theorem begins_trigger {l : Lifecycle} (hs : l.surroundings = surroundings)
    (hidle : l.suggester.session.isDisplayed = false) :
    Lifecycle.Begins l.calls.length (l.suggester.start surroundings trigger).2 l
      (.trigger trigger) := by
  rw [Lifecycle.Begins, Lifecycle.step_trigger_of_ready (hs ▸ ready) (hs ▸ rfl) hidle, hs]
  exact ⟨⟨_, rfl⟩, rfl, rfl⟩

theorem step_trigger_fresh : ((Lifecycle.fresh surroundings).step (.trigger trigger)).1 =
    triggered (.fresh surroundings) := by
  have hs : (Lifecycle.fresh surroundings).surroundings = surroundings := rfl
  have hidle : (Lifecycle.fresh surroundings).suggester.session.isDisplayed = false := rfl
  exact step_trigger hs hidle

theorem begins_fresh : Lifecycle.Begins 0 (Suggester.fresh.start surroundings trigger).2
    (.fresh surroundings) (.trigger trigger) := by
  have hs : (Lifecycle.fresh surroundings).surroundings = surroundings := rfl
  have hidle : (Lifecycle.fresh surroundings).suggester.session.isDisplayed = false := rfl
  exact begins_trigger hs hidle

theorem after_inquired :
    (Lifecycle.fresh surroundings).after
      [.trigger trigger, .resume 0 (.entitlement (.ok false))] = inquired := by
  rw [Lifecycle.after_cons, step_trigger_fresh]
  rfl

theorem after_sent :
    (Lifecycle.fresh surroundings).after [.trigger trigger, .resume 0 (.entitlement (.ok false)),
      .resume 0 (.request (.ok (request (call .fresh) id)))] = sent := by
  rw [Lifecycle.after_cons, step_trigger_fresh]
  rfl

/-- The predictions are displayed. -/
def shown : Lifecycle :=
  (sent.step (.resume 0 (.completion (.ok [['y']])))).1

theorem after_shown :
    (Lifecycle.fresh surroundings).after ([.trigger trigger, .resume 0 (.entitlement (.ok false)),
      .resume 0 (.request (.ok (request (call .fresh) id)))] ++
        [.resume 0 (.completion (.ok [['y']]))]) = shown := by
  rw [Lifecycle.after_concat, after_sent, shown]

/-! ### A call that is overtaken -/

/-- While the first call asks for the user's entitlement, a second one begins. -/
def overtakenAsking : Lifecycle :=
  triggered (triggered (.fresh surroundings))

theorem step_trigger_asking :
    ((triggered (.fresh surroundings)).step (.trigger trigger)).1 = overtakenAsking := by
  have hs : (triggered (.fresh surroundings)).surroundings = surroundings := rfl
  have hidle : (triggered (.fresh surroundings)).suggester.session.isDisplayed = false := rfl
  exact step_trigger hs hidle

/-- While the first call waits for its predictions, a second one begins. -/
def overtaken : Lifecycle :=
  triggered sent

theorem after_overtaken :
    (Lifecycle.fresh surroundings).after ([.trigger trigger, .resume 0 (.entitlement (.ok false)),
      .resume 0 (.request (.ok (request (call .fresh) id)))] ++ [.trigger trigger]) =
      overtaken := by
  have hs : sent.surroundings = surroundings := rfl
  have hidle : sent.suggester.session.isDisplayed = false := rfl
  rw [Lifecycle.after_concat, after_sent]
  exact step_trigger hs hidle

end Sample

end PlaybookAssist
