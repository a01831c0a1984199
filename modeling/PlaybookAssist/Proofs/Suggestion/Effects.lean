import PlaybookAssist.Proofs.Suggestion.History

/-!
# What a call tells, and whom it asks

A call that looks for a suggestion tells the user something at most; only a trigger that finds a
suggestion on display, and the commands of the user, tell the editor to run anything. Whatever call
waits for its request has asked for one about the document of its own trigger.

## Main definitions

- `Effect.IsMessage` : an effect that only tells the user something
- `Wait.IsApt` : a request is asked for about the document of the trigger
- `Event.OnlyCall` : no other call does anything at an event

## Main statements

- `Suggester.ask_asked`, `Suggester.resume_messages` : what a stretch tells
- `Lifecycle.isApt_of_waits` : every inquiry of a run is about the document of its trigger
-/

namespace PlaybookAssist

/-- The effect tells the user something, and the editor nothing. -/
def Effect.IsMessage : Effect → Prop
  | .showError _ | .showInformation _ => True
  | .run _ => False

/-- Whoever waits for a request has asked for one about the document of its trigger. -/
def Wait.IsApt : Wait → Prop
  | .request call inquiry _ => inquiry.uri = call.trigger.document.uri
  | _ => True

namespace Suggester

variable {s : Surroundings} {t : Trigger} {p : Suggester}

/-! ## Stretches -/

@[simp] theorem ending_reset : p.reset.ending = p.ending :=
  rfl

@[simp] theorem ending_start : (p.start s t).1.ending = p.ending :=
  rfl

@[simp] theorem ending_fail (call : Pending) (e : Failure) : (p.fail call e).1.ending = p.ending :=
  rfl

@[simp] theorem ending_display (o : Origin) (shown : Shown) (items : List Text) :
    (p.display o shown items).ending = p.ending :=
  rfl

/-- A stretch tells the user something at most, and a call that waits after it has not inquired
    about anything but the document of its trigger. -/
structure Asked (st : Stretch) : Prop where
  messages : ∀ x ∈ st.2.1, x.IsMessage
  waiting : ∀ wait, st.2.2.wait? = some wait → wait.IsApt

theorem afterEntitlement_isApt {call : Pending} {entitled : Bool} {wait : Wait}
    (h : (p.afterEntitlement s call entitled).2.2.wait? = some wait) : wait.IsApt := by
  unfold afterEntitlement at h
  split at h
  · cases h
  · cases h
    rfl

theorem afterEntitlement_silent (call : Pending) (entitled : Bool) :
    (p.afterEntitlement s call entitled).2.1 = [] := by
  unfold afterEntitlement
  split <;> rfl

theorem ask_asked (s : Surroundings) (t : Trigger) (p : Suggester) : Asked (p.ask s t) := by
  simp only [ask]
  split
  · -- At a wrong place the user may get a hint.
    refine ⟨?_, by simp [giveUp, Progress.wait?]⟩
    simp only [giveUp]
    split <;> simp [Effect.IsMessage]
  split
  -- The prompt is read, and it is loaded; a fault in it is shown as a message.
  · exact ⟨by simp, by simp [Progress.wait?]⟩
  split
  · exact ⟨by simp [giveUp, Effect.IsMessage], by simp [giveUp, Progress.wait?]⟩
  · exact ⟨by simp, by simp [Progress.wait?]⟩
  · exact ⟨by simp [giveUp], by simp [giveUp, Progress.wait?]⟩
  -- The entries are judged; where nothing awaits a body the call is given up.
  split
  · exact ⟨by simp, by simp [Progress.wait?]⟩
  · exact ⟨by simp [giveUp], by simp [giveUp, Progress.wait?]⟩
  -- The entitlement is asked for, or known at once.
  split
  · refine ⟨by simp, ?_⟩
    intro wait hwait
    cases hwait
    trivial
  · refine ⟨by simp [afterEntitlement_silent], fun wait hwait => ?_⟩
    exact afterEntitlement_isApt hwait

theorem trigger_isApt {wait : Wait} (h : (p.trigger s t).2.2.wait? = some wait) : wait.IsApt := by
  simp only [trigger] at h
  split at h
  · cases h
  split at h
  · cases h
  split at h
  · split at h
    · cases h
    · cases h
      trivial
  · exact (ask_asked s t p).waiting wait h

theorem act_isApt {action : UserAction} {ending : Ending} {commands : List EditorCommand}
    {wait : Wait} (h : (p.act s action ending commands).2.2.wait? = some wait) : wait.IsApt := by
  rcases act_result s action ending commands p with ⟨effects, hact⟩ | ⟨-, effects, hact⟩
  · rw [hact] at h
    cases h
  · rw [hact] at h
    cases h
    trivial

theorem afterFeedback_eq (s : Surroundings) (t : Trigger) (p : Suggester)
    {result : Except Failure Unit} (h : result = .ok () ∨ ∃ f, result = .error (.service f)) :
    p.afterFeedback s (some t) result = p.ask s t := by
  rcases h with rfl | ⟨f, rfl⟩ <;> rfl

/-- A call that goes on tells the user something at most, and asks about its own document. -/
structure Resumed (wait : Wait) (st : Stretch) : Prop where
  messages : ∀ x ∈ st.2.1, x.IsMessage
  waiting : ∀ wait', st.2.2.wait? = some wait' → wait.IsApt → wait'.IsApt

theorem Resumed.fail (wait : Wait) (call : Pending) (e : Failure) (p : Suggester) :
    Resumed wait (p.fail call e) where
  messages := by simp [Suggester.fail, giveUp, Effect.IsMessage]
  waiting wait' h := by cases h

theorem resume_resumed (s : Surroundings) (wait : Wait) (answer : Answer) (p : Suggester) :
    Resumed wait (p.resume s wait answer) := by
  have hresult := resume_result s wait answer p
  generalize p.resume s wait answer = st at hresult ⊢
  cases hresult with
  -- Only waits have to be looked at where the answer is not for the call.
  | deaf =>
    refine ⟨by simp, fun wait' h hapt => ?_⟩
    -- An apt wait is passed on as it is, for the session of the call does not change.
    obtain rfl := Option.some.inj h
    exact hapt
  | reported _ _ _ progress hover =>
    rcases hover with rfl | ⟨f, rfl⟩ <;> exact ⟨by simp, by simp [Progress.wait?]⟩
  | asked _ t =>
    have hasked := ask_asked s t p
    exact ⟨hasked.messages, fun wait' h _ => hasked.waiting wait' h⟩
  | unanswered | withdrawn => exact ⟨by simp, by simp [Progress.wait?]⟩
  | inquired _ _ _ _ _ huri =>
    refine ⟨by simp, fun wait' h _ => ?_⟩
    cases h
    exact huri
  | unbuilt call _ _ e => exact Resumed.fail _ call e p
  | sent =>
    refine ⟨by simp, fun wait' h _ => ?_⟩
    cases h
    trivial
  | completed call _ _ _ _ hcompletion =>
    cases hcompletion with
    | failed e => exact Resumed.fail _ call e p
    | stale | dropped | displayed => exact ⟨by simp, by simp [Progress.wait?]⟩

end Suggester

/-! ## Events -/

/-- No call but the given one does anything at the event; what is around the calls may change. -/
def Event.OnlyCall (n : Nat) : Event → Prop
  | .resume m _ => m = n
  | .advance _ | .cancel _ | .activate _ | .configure _ => True
  | .trigger _ | .ask _ | .accept | .hide | .invoke | .reset => False

namespace Lifecycle

variable {s : Surroundings} {l : Lifecycle} {e : Event} {es : List Event} {n m : Nat} {wait : Wait}

/-- At an event of one call, that call goes on with an answer, or nothing happens at all. -/
theorem step_onlyCall (h : e.OnlyCall n) :
    (∃ wait answer, e = .resume n answer ∧ l.Waits n wait) ∨
      ((l.step e).1.suggester = l.suggester ∧ (l.step e).1.calls = l.calls ∧
        (l.step e).2 = ⟨[], none⟩) := by
  cases e with
  | resume m answer =>
    obtain rfl : m = n := h
    cases hcalls : l.calls[m]? with
    | none => exact Or.inr (by simp [step, hcalls])
    | some w =>
      cases w with
      | none => exact Or.inr (by simp [step, hcalls])
      | some wait => exact Or.inl ⟨wait, answer, rfl, hcalls⟩
  | advance | cancel | activate | configure => exact Or.inr ⟨rfl, rfl, rfl⟩
  | trigger | ask | accept | hide | invoke | reset => cases h

theorem waits_beginCall {stretch : Surroundings → Suggester → Stretch}
    (h : (l.beginCall stretch).1.Waits n wait) :
    l.Waits n wait ∨ (n = l.calls.length ∧
      (stretch l.surroundings l.suggester).2.2.wait? = some wait) := by
  rcases (l.movesOn_begin _ _).waits_iff.mp h with ⟨hn, hwait⟩ | ⟨-, hwait⟩
  · exact Or.inr ⟨hn, hwait⟩
  · exact Or.inl hwait

theorem waits_resume {answer : Answer} (h : (l.step (.resume m answer)).1.Waits n wait) :
    l.Waits n wait ∨ (n = m ∧ ∃ wait', l.Waits m wait' ∧
      (l.suggester.resume l.surroundings wait' answer).2.2.wait? = some wait) := by
  have honly : (Event.resume m answer).OnlyCall m := rfl
  rcases step_onlyCall (l := l) honly with ⟨wait', _, heq, hwaits⟩ | ⟨-, hcalls, -⟩
  · cases heq
    rw [step_resume hwaits] at h
    rcases (movesOn_resume hwaits _ _).waits_iff.mp h with ⟨hn, hwait⟩ | ⟨-, hwait⟩
    · exact Or.inr ⟨hn, wait', hwaits, hwait⟩
    · exact Or.inl hwait
  · rw [Waits, hcalls] at h
    exact Or.inl h

theorem isApt_step (hall : ∀ n wait, l.Waits n wait → wait.IsApt)
    (h : (l.step e).1.Waits n wait) : wait.IsApt := by
  -- A wait is apt from its beginning: it is old, or the event has made it.
  cases e with
  | trigger t =>
    rcases waits_beginCall h with hold | ⟨-, hnew⟩
    · exact hall n wait hold
    · exact Suggester.trigger_isApt hnew
  | ask t =>
    rcases waits_beginCall h with hold | ⟨-, hnew⟩
    · exact hall n wait hold
    · exact (Suggester.ask_asked _ t _).waiting wait hnew
  | accept | hide =>
    rcases waits_beginCall h with hold | ⟨-, hnew⟩
    · exact hall n wait hold
    · exact Suggester.act_isApt hnew
  | invoke =>
    rcases waits_beginCall h with hold | ⟨-, hnew⟩
    · exact hall n wait hold
    · cases hnew
  | resume m answer =>
    rcases waits_resume h with hold | ⟨-, wait', hwaits, hnew⟩
    · exact hall n wait hold
    · exact (Suggester.resume_resumed _ wait' answer _).waiting wait hnew (hall m wait' hwaits)
  | reset | advance | cancel | activate | configure => exact hall n wait h

/-- Every inquiry of a run is about the document of its trigger. -/
theorem isApt_of_waits (h : ((fresh s).after es).Waits n wait) : wait.IsApt := by
  induction es using List.reverseRecOn generalizing n wait with
  | nil => simp [Waits, fresh] at h
  | append_singleton es e ih =>
    rw [after_concat] at h
    exact isApt_step (fun n wait hwait => ih hwait) h

end Lifecycle

end PlaybookAssist
