import PlaybookAssist.Suggestion.Suggester

/-!
# What a stretch of a call can do

A stretch leads from one wait of a call to the next. For each kind of stretch a relation lists all
its results, together with what has to hold for them, and one lemma says that the list is complete.
Everything about runs is derived from these lists; nothing further on opens the definitions of the
suggester.

## Main definitions

- `Pending.Serves` : the call remembers a trigger and the session begun for it
- `Wait.rank`, `Answer.rank` : the order in which a call waits and gets its answers
- `Suggester.AskResult`, `Suggester.TriggerResult`, `Suggester.CompletionResult`,
  `Suggester.ResumeResult` : the results of the stretches with more than two of them

## Main statements

- `Suggester.ask_result`, `Suggester.trigger_result`, `Suggester.afterCompletion_result`,
  `Suggester.resume_result`
-/

namespace PlaybookAssist

/-! ## Sessions after an operation -/

namespace Suggester

variable (s : Surroundings) (t : Trigger) (p : Suggester)

@[simp] theorem session_reset : p.reset.session = p.session.ended :=
  rfl

@[simp] theorem details_reset : p.reset.details = p.details :=
  rfl

@[simp] theorem begun_reset : p.reset.begun = p.begun :=
  rfl

@[simp] theorem session_start : (p.start s t).1.session = .requested (p.start s t).2 :=
  rfl

@[simp] theorem details_start : (p.start s t).1.details = p.details :=
  rfl

@[simp] theorem begun_start : (p.start s t).1.begun = p.begun + 1 :=
  rfl

@[simp] theorem number_start : (p.start s t).2.number = p.begun :=
  rfl

@[simp] theorem suggestionId_start : (p.start s t).2.suggestionId = s.ids.suggestion p.begun :=
  rfl

@[simp] theorem documentUri_start : (p.start s t).2.documentUri = t.document.uri :=
  rfl

section Endings

variable (action : UserAction) (ending : Ending) (o : Origin) (shown : Shown) (items : List Text)
  (call : Pending) (e : Failure)

@[simp] theorem session_dismiss : (p.dismiss s action ending).1.session = .blank :=
  rfl

@[simp] theorem details_dismiss : (p.dismiss s action ending).1.details = p.details :=
  rfl

@[simp] theorem begun_dismiss : (p.dismiss s action ending).1.begun = p.begun :=
  rfl

@[simp] theorem session_display :
    (p.display o shown items).session = p.session.displaying shown items :=
  rfl

@[simp] theorem begun_display : (p.display o shown items).begun = p.begun :=
  rfl

@[simp] theorem details_fail : (p.fail call e).1.details = p.details :=
  rfl

@[simp] theorem begun_fail : (p.fail call e).1.begun = p.begun :=
  rfl

@[simp] theorem isDisplayed_fail : (p.fail call e).1.session.isDisplayed = false :=
  rfl

@[simp] theorem origin_fail : (p.fail call e).1.session.origin = p.session.origin := by
  simp only [fail, giveUp, session_reset]
  split <;> rfl

end Endings

end Suggester

namespace Suggestion

@[simp] theorem origin_requested (o : Origin) : (requested o).origin = some o :=
  rfl

@[simp] theorem stage_requested (o : Origin) : (requested o).stage = .requesting :=
  rfl

@[simp] theorem isDisplayed_requested (o : Origin) : (requested o).isDisplayed = false :=
  rfl

@[simp] theorem id_requested (o : Origin) : (requested o).id = o.suggestionId :=
  rfl

@[simp] theorem origin_blank : blank.origin = none :=
  rfl

@[simp] theorem isDisplayed_blank : blank.isDisplayed = false :=
  rfl

@[simp] theorem isDisplayed_ended (s : Suggestion) : s.ended.isDisplayed = false :=
  rfl

@[simp] theorem origin_displaying (shown : Shown) (items : List Text) (s : Suggestion) :
    (s.displaying shown items).origin = s.origin :=
  rfl

@[simp] theorem isDisplayed_displaying (shown : Shown) (items : List Text) (s : Suggestion) :
    (s.displaying shown items).isDisplayed = true :=
  rfl

theorem id_eq {s : Suggestion} {o : Origin} (horigin : s.origin = some o) :
    s.id = o.suggestionId := by
  simp [id, horigin]

end Suggestion

/-! ## Asking for a suggestion -/

/-- The call remembers the trigger and the session that was begun for it. -/
structure Pending.Serves (call : Pending) (t : Trigger) (o : Origin) : Prop where
  trigger : call.trigger = t
  number : call.number = o.number
  activityId : call.activityId = o.activityId

namespace Suggester

/-- What a call for a suggestion comes to. Either the place is wrong and no session begins, or one
    begins; then the call is over at once, or it waits. -/
inductive AskResult (s : Surroundings) (t : Trigger) (p : Suggester) : Stretch → Prop where
  | misplaced (effects : List Effect)
      (hplace : (t.document.checkTrigger t.position).isOk = false) :
      AskResult s t p (p.reset, effects, .finished [])
  | failed (e : Failure) :
      AskResult s t p ((p.start s t).1, [], .failed e)
  | dropped (effects : List Effect) :
      AskResult s t p ((p.start s t).1.reset, effects, .finished [])
  | entitlement (call : Pending) (hcall : call.Serves t (p.start s t).2)
      (hasks : s.asksEntitlement = true) :
      AskResult s t p ((p.start s t).1, [], .waiting (.entitlement call))
  | request (call : Pending) (inquiry : Inquiry) (hcall : call.Serves t (p.start s t).2)
      (hid : inquiry.suggestionId = (p.start s t).2.suggestionId)
      (hasks : s.asksEntitlement = false) (hcancelled : s.isCancelled t = false) :
      AskResult s t p ((p.start s t).1, [], .waiting (.request call inquiry s.now))

/-- With the answer on the entitlement the call is given up or asks for its request, about the document
    of its trigger and under the id that the session has by then. -/
theorem afterEntitlement_result (s : Surroundings) (call : Pending) (entitled : Bool)
    (p : Suggester) :
    (s.isCancelled call.trigger = true ∧
        p.afterEntitlement s call entitled = (p.reset, [], .finished [])) ∨
      (s.isCancelled call.trigger = false ∧ ∃ inquiry : Inquiry,
        inquiry.suggestionId = p.session.id ∧ inquiry.uri = call.trigger.document.uri ∧
        p.afterEntitlement s call entitled = (p, [], .waiting (.request call inquiry s.now))) := by
  unfold afterEntitlement
  cases hcancelled : s.isCancelled call.trigger with
  | true => exact Or.inl ⟨rfl, by simp [giveUp]⟩
  | false => exact Or.inr ⟨rfl, _, rfl, rfl, by simp; rfl⟩

theorem ask_result (s : Surroundings) (t : Trigger) (p : Suggester) :
    AskResult s t p (p.ask s t) := by
  simp only [ask]
  -- The branches of `ask` in their order: the place, the prompt, the entries, the entitlement.
  split
  · next hplace =>
    exact .misplaced _ (by simpa using hplace)
  split
  · exact .failed _
  split
  · exact .dropped _
  · exact .failed _
  · exact .dropped _
  split
  · exact .failed _
  · exact .dropped _
  split
  · next hasks =>
    exact .entitlement _ ⟨rfl, rfl, rfl⟩ hasks
  next hasks =>
  -- Nobody is asked: the answer on the entitlement is known at once.
  rcases afterEntitlement_result s _ false (p.start s t).1 with
    ⟨_, hover⟩ | ⟨hcancelled, inquiry, hid, -, hon⟩
  · rw [hover]
    exact .dropped _
  · rw [hon]
    exact .request _ inquiry ⟨rfl, rfl, rfl⟩ hid (by simpa using hasks) hcancelled

/-- What a trigger comes to. -/
inductive TriggerResult (s : Surroundings) (t : Trigger) (p : Suggester) : Stretch → Prop where
  /-- One of the guards refuses it. -/
  | refused (effects : List Effect) :
      TriggerResult s t p (p.reset, effects, .finished [])
  | replayed (shown : Shown) (hshown : p.session.shown = some shown)
      (hdisplayed : p.session.isDisplayed = true) (hposition : shown.position = t.position) :
      TriggerResult s t p (p, [], .finished p.session.items)
  | superseding (hdisplayed : p.session.isDisplayed = true)
      (hposition : ∀ shown, p.session.shown = some shown → shown.position ≠ t.position) :
      TriggerResult s t p ((p.dismiss s .ignore .superseded).1, [.run .hide],
        .waiting (.feedback (p.session.report .ignore s.now) (some t)))
  | asked (st : Stretch) (hidle : p.session.isDisplayed = false) (hask : AskResult s t p st) :
      TriggerResult s t p st

theorem trigger_result (s : Surroundings) (t : Trigger) (p : Suggester) :
    TriggerResult s t p (p.trigger s t) := by
  simp only [trigger]
  -- A trigger that is not for this editor, or while suggestions are off, is refused.
  split
  · exact .refused _
  split
  · exact .refused _
  -- With something displayed the position decides between a replay and a fresh asking.
  split
  · next hdisplayed =>
    split
    · next hshown =>
      obtain ⟨shown, hshown, hposition⟩ := (Option.any_eq_true _ _).mp hshown
      exact .replayed shown hshown hdisplayed (by simpa using hposition)
    · next hshown =>
      refine .superseding hdisplayed fun shown heq hposition => hshown ?_
      simp [heq, hposition]
  · next hidle =>
    exact .asked _ (by simpa using hidle) (ask_result s t p)

/-! ## After a wait -/

/-- After a report a call goes on with its trigger, or it is over. -/
theorem afterFeedback_asked (s : Surroundings) (next : Option Trigger)
    (result : Except Failure Unit) (p : Suggester) :
    (∃ t, next = some t ∧ p.afterFeedback s next result = p.ask s t) ∨
      ∃ progress : Progress, (progress = .finished [] ∨ ∃ f, progress = .failed f) ∧
        p.afterFeedback s next result = (p, [], progress) := by
  -- Only a failure of the service is passed over.
  cases next with
  | none =>
    refine Or.inr ?_
    cases result with
    | ok => exact ⟨_, Or.inl rfl, rfl⟩
    | error e =>
      cases e with
      | service => exact ⟨_, Or.inl rfl, rfl⟩
      | _ => exact ⟨_, Or.inr ⟨_, rfl⟩, rfl⟩
  | some t =>
    cases result with
    | ok => exact Or.inl ⟨t, rfl, rfl⟩
    | error e =>
      cases e with
      | service => exact Or.inl ⟨t, rfl, rfl⟩
      | _ => exact Or.inr ⟨_, Or.inr ⟨_, rfl⟩, rfl⟩

/-- What the answer to a request comes to. Only the predictions for the session of the call itself
    are shown, and only if the trigger has not been taken back. -/
inductive CompletionResult (s : Surroundings) (call : Pending) (since : Float) (p : Suggester) :
    Except Failure (List Text) → Stretch → Prop where
  | failed (e : Failure) :
      CompletionResult s call since p (.error e) (p.fail call e)
  | stale (predictions : List Text)
      (hstale : ∀ o, p.session.origin = some o → o.number ≠ call.number) :
      CompletionResult s call since p (.ok predictions) (p, [], .finished [])
  | dropped (predictions : List Text) (o : Origin) (horigin : p.session.origin = some o)
      (hnumber : o.number = call.number)
      (hwhy : s.isCancelled call.trigger = true ∨ predictions = []) :
      CompletionResult s call since p (.ok predictions) (p.reset, [], .finished [])
  | displayed (predictions : List Text) (o : Origin) (shown : Shown) (first : Text)
      (others : List Text) (horigin : p.session.origin = some o)
      (hnumber : o.number = call.number) (hcancelled : s.isCancelled call.trigger = false)
      (hitems : (predictions.map fun t => Text.reindent t call.trigger.position.character)
        = first :: others)
      (hshown : shown = ⟨(s.now - since) * 1000, call.trigger.position, s.now, first⟩) :
      CompletionResult s call since p (.ok predictions)
        (p.display o shown (first :: others), [], .finished (first :: others))

theorem afterCompletion_result (s : Surroundings) (call : Pending) (since : Float)
    (result : Except Failure (List Text)) (p : Suggester) :
    CompletionResult s call since p result (p.afterCompletion s call since result) := by
  -- A failure is one for whatever session; predictions are looked at with the session.
  cases result with
  | error e => exact .failed e
  | ok predictions =>
    simp only [afterCompletion]
    -- Without a session, or with that of another call, the answer is stale.
    split
    · next hnone =>
      exact .stale _ (by simp [hnone])
    next o horigin =>
    split
    · next hnumber =>
      exact .stale _ (by simpa [horigin] using hnumber)
    next hnumber =>
    have hnumber : o.number = call.number := Decidable.not_not.mp hnumber
    -- A dead token and an empty answer both drop it.
    split
    · next hcancelled =>
      exact .dropped _ o horigin hnumber (Or.inl hcancelled)
    next hcancelled =>
    split
    · next hnil =>
      exact .dropped _ o horigin hnumber (Or.inr (List.map_eq_nil_iff.mp hnil))
    next first others hitems =>
    exact .displayed _ o _ first others horigin hnumber (by simpa using hcancelled) hitems rfl

end Suggester

/-- The place of a wait in the order in which a call waits. -/
def Wait.rank : Wait → Nat
  | .feedback _ _ => 0
  | .entitlement _ => 1
  | .request _ _ _ => 2
  | .completion _ _ _ => 3

/-- The place of an answer in the order in which a call gets its answers. -/
def Answer.rank : Answer → Nat
  | .feedback _ => 0
  | .entitlement _ => 1
  | .request _ => 2
  | .completion _ => 3

namespace Suggester

/-- What a call comes to that goes on with an answer. One kind of answer fits each wait; to any other
    one the call is deaf. -/
inductive ResumeResult (s : Surroundings) (p : Suggester) : Wait → Answer → Stretch → Prop where
  | deaf (wait : Wait) (answer : Answer) (hunfit : wait.rank ≠ answer.rank) :
      ResumeResult s p wait answer (p, [], .waiting wait)
  /-- The report was all that the call was about, or it fails. -/
  | reported (report : Feedback) (next : Option Trigger) (result : Except Failure Unit)
      (progress : Progress) (hover : progress = .finished [] ∨ ∃ f, progress = .failed f) :
      ResumeResult s p (.feedback report next) (.feedback result) (p, [], progress)
  | asked (report : Feedback) (t : Trigger) (result : Except Failure Unit) :
      ResumeResult s p (.feedback report (some t)) (.feedback result) (p.ask s t)
  | unanswered (call : Pending) (f : Failure) :
      ResumeResult s p (.entitlement call) (.entitlement (.error f)) (p, [], .failed f)
  | withdrawn (call : Pending) (entitled : Bool) (hcancelled : s.isCancelled call.trigger = true) :
      ResumeResult s p (.entitlement call) (.entitlement (.ok entitled))
        (p.reset, [], .finished [])
  | inquired (call : Pending) (entitled : Bool) (inquiry : Inquiry)
      (hstanding : s.isCancelled call.trigger = false)
      (hid : inquiry.suggestionId = p.session.id)
      (huri : inquiry.uri = call.trigger.document.uri) :
      ResumeResult s p (.entitlement call) (.entitlement (.ok entitled))
        (p, [], .waiting (.request call inquiry s.now))
  | unbuilt (call : Pending) (inquiry : Inquiry) (since : Float) (f : Failure) :
      ResumeResult s p (.request call inquiry since) (.request (.error f)) (p.fail call f)
  | sent (call : Pending) (inquiry : Inquiry) (since : Float) (r : CompletionRequest) :
      ResumeResult s p (.request call inquiry since) (.request (.ok r))
        (p, [], .waiting (.completion call r since))
  | completed (call : Pending) (r : CompletionRequest) (since : Float)
      (result : Except Failure (List Text)) (st : Stretch)
      (hresult : CompletionResult s call since p result st) :
      ResumeResult s p (.completion call r since) (.completion result) st

theorem resume_result (s : Surroundings) (wait : Wait) (answer : Answer) (p : Suggester) :
    ResumeResult s p wait answer (p.resume s wait answer) := by
  -- For each kind of wait, the answer of that kind is taken and every other one is not heard.
  cases wait with
  | feedback report next =>
    cases answer with
    | feedback result =>
      rcases afterFeedback_asked s next result p with ⟨t, rfl, hask⟩ | ⟨progress, hover, hkept⟩
      · rw [resume, hask]
        exact .asked report t result
      · rw [resume, hkept]
        exact .reported report next result progress hover
    | _ => exact .deaf _ _ (by simp [Wait.rank, Answer.rank])
  | entitlement call =>
    cases answer with
    | entitlement result =>
      cases result with
      | error f => exact .unanswered call f
      | ok entitled =>
        rcases afterEntitlement_result s call entitled p with
          ⟨hcancelled, hover⟩ | ⟨hstanding, inquiry, hid, huri, hon⟩
        · rw [resume, hover]
          exact .withdrawn call entitled hcancelled
        · rw [resume, hon]
          exact .inquired call entitled inquiry hstanding hid huri
    | _ => exact .deaf _ _ (by simp [Wait.rank, Answer.rank])
  | request call inquiry since =>
    cases answer with
    | request result =>
      cases result with
      | error f => exact .unbuilt call inquiry since f
      | ok r => exact .sent call inquiry since r
    | _ => exact .deaf _ _ (by simp [Wait.rank, Answer.rank])
  | completion call r since =>
    cases answer with
    | completion result =>
      exact .completed call r since result _ (afterCompletion_result s call since result p)
    | _ => exact .deaf _ _ (by simp [Wait.rank, Answer.rank])

/-! ## The commands of the user -/

/-- A command of the user ends what is shown, and otherwise changes nothing. -/
theorem act_result (s : Surroundings) (action : UserAction) (ending : Ending)
    (commands : List EditorCommand) (p : Suggester) :
    (∃ effects, p.act s action ending commands = (p, effects, .finished [])) ∨
      (p.session.isDisplayed = true ∧ ∃ effects, p.act s action ending commands =
        ((p.dismiss s action ending).1, effects,
          .waiting (.feedback (p.session.report action s.now) none))) := by
  simp only [act]
  split
  · exact Or.inl ⟨_, rfl⟩
  split
  · next hdisplayed => exact Or.inr ⟨hdisplayed, _, rfl⟩
  · exact Or.inl ⟨_, rfl⟩

end Suggester

end PlaybookAssist
