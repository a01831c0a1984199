import PlaybookAssist.Proofs.Suggestion.Custody
import PlaybookAssist.Proofs.Suggestion.Effects
import PlaybookAssist.Proofs.Suggestion.Ready

/-!
# Triggers that are taken back

A call looks whether its trigger has been taken back before it asks for its request, and again when
the predictions arrive. So a trigger that is taken back while its call waits for anything before the
request keeps the request from being sent. While the request is being built the call does not look
any more: what is built is sent.

## Main statements

- `Lifecycle.standing_of_asks` : a call asks for its request only if its trigger stands
- `Lifecycle.request_awaited_of_sends` : whose request is sent after its trigger has been taken back
- `Lifecycle.sends_iff_built` : what a call sends that waits for its request
-/

namespace PlaybookAssist

/-! ## Stretches -/

/-- The trigger of the call stands, if the call waits for its request. -/
def Wait.Standing (s : Surroundings) : Wait → Prop
  | .request call _ _ => s.isCancelled call.trigger = false
  | _ => True

namespace Suggester

variable {s : Surroundings} {t : Trigger} {p : Suggester} {wait wait' : Wait}

theorem AskResult.standing {st : Stretch} (h : AskResult s t p st)
    (hwait : st.2.2.wait? = some wait) : wait.Standing s := by
  cases h with
  | misplaced | failed | dropped => cases hwait
  | entitlement =>
    cases hwait
    trivial
  | request call inquiry hcall hid hasks hcancelled =>
    cases hwait
    rw [Wait.Standing, hcall.trigger]
    exact hcancelled

theorem trigger_standing (h : (p.trigger s t).2.2.wait? = some wait) : wait.Standing s := by
  have hresult := trigger_result s t p
  generalize p.trigger s t = st at h hresult
  cases hresult with
  | refused | replayed => cases h
  | superseding =>
    cases h
    trivial
  | asked _ _ hask => exact hask.standing h

theorem act_standing {action : UserAction} {ending : Ending} {commands : List EditorCommand}
    (h : (p.act s action ending commands).2.2.wait? = some wait) : wait.Standing s := by
  rcases act_result s action ending commands p with ⟨effects, hact⟩ | ⟨-, effects, hact⟩ <;>
    rw [hact] at h <;> cases h
  trivial

/-- A call that goes on waits for its request as before, or its trigger stands. -/
theorem resume_standing {answer : Answer} (h : (p.resume s wait answer).2.2.wait? = some wait') :
    wait' = wait ∨ wait'.Standing s := by
  have hresult := resume_result s wait answer p
  generalize p.resume s wait answer = st at hresult h
  cases hresult with
  -- an answer of another kind leaves the call where it is
  | deaf => exact Or.inl (Option.some.inj h).symm
  | reported _ _ _ progress hover => rcases hover with rfl | ⟨f, rfl⟩ <;> cases h
  | asked _ t => exact Or.inr ((ask_result s t p).standing h)
  | inquired _ _ _ hstanding =>
    cases h
    exact Or.inr hstanding
  | sent =>
    cases h
    exact Or.inr trivial
  | unanswered | withdrawn | unbuilt => cases h
  | completed _ _ _ _ _ hcompletion => cases hcompletion <;> cases h

end Suggester

/-! ## Runs -/

namespace Lifecycle

variable {s : Surroundings} {l : Lifecycle} {e : Event} {es past rest : List Event} {n : Nat}
  {t : Trigger} {wait : Wait} {r : CompletionRequest}

/-- A trigger that has been taken back stays so. -/
theorem isCancelled_step (e : Event) (h : l.surroundings.isCancelled t = true) :
    (l.step e).1.surroundings.isCancelled t = true := by
  cases e with
  | cancel token =>
    obtain ⟨name, hname, hmem⟩ := (Option.any_eq_true _ _).mp h
    exact (Option.any_eq_true _ _).mpr ⟨name, hname, by
      simpa [step, around] using Or.inr (by simpa using hmem)⟩
  | resume m answer =>
    simp only [step]
    split <;> exact h
  | _ => exact h

theorem isCancelled_after (h : l.surroundings.isCancelled t = true) (es : List Event) :
    (l.after es).surroundings.isCancelled t = true := by
  induction es generalizing l with
  | nil => exact h
  | cons e es ih => exact ih (isCancelled_step e h)

/-- A call asks for its request only if its trigger has not been taken back. -/
theorem standing_of_asks (h : Asks n wait l e) : wait.Standing l.surroundings := by
  obtain ⟨hwait, hnew⟩ := h
  cases e with
  | trigger t =>
    exact Suggester.trigger_standing ((waits_beginCall hwait).resolve_left hnew).2
  | ask t =>
    exact (Suggester.ask_result _ t _).standing ((waits_beginCall hwait).resolve_left hnew).2
  | accept | hide => exact Suggester.act_standing ((waits_beginCall hwait).resolve_left hnew).2
  | invoke => cases ((waits_beginCall hwait).resolve_left hnew).2
  | resume m answer =>
    obtain ⟨rfl, wait', hold, hresume⟩ := (waits_resume hwait).resolve_left hnew
    rcases Suggester.resume_standing hresume with rfl | hstanding
    · exact absurd hold hnew
    · exact hstanding
  | reset | advance | cancel | activate | configure => exact absurd hwait hnew

/-! ## Requests after a trigger has been taken back -/

/-- A call whose trigger has been taken back asks for no request any more; so if it waits for one, it
    has waited for it when the trigger was taken back. -/
theorem awaited_before {call : Pending} {q : Inquiry} {since : Float}
    (hopens : (fresh s).Once past (Opens n t))
    (hcancelled : ((fresh s).after past).surroundings.isCancelled t = true)
    (hwait : ((fresh s).after (past ++ es)).Waits n (.request call q since)) :
    ((fresh s).after past).Waits n (.request call q since) := by
  -- Induction over the events since then: a wait that is new is one that the call asked for, and
  -- nobody asks with a cancelled token.
  induction es using List.reverseRecOn with
  | nil => rwa [List.append_nil] at hwait
  | append_singleton es e ih =>
    rw [← List.append_assoc] at hwait
    obtain ⟨hopens', -⟩ := (custody s _).serves n _ call hwait rfl
    obtain rfl := hopens'.opens_unique ((hopens.append es).append [e])
    rw [after_concat] at hwait
    by_cases hold : ((fresh s).after (past ++ es)).Waits n (.request call q since)
    · exact ih hold
    · have hstanding := standing_of_asks ⟨hwait, hold⟩
      have hgone := isCancelled_after hcancelled es
      rw [← after_append, hstanding] at hgone
      cases hgone

/-- Whoever sends a request after the trigger has been taken back was waiting for it at that time. -/
theorem request_awaited_of_sends (hopens : (fresh s).Once past (Opens n t))
    (hcancelled : ((fresh s).after past).surroundings.isCancelled t = true)
    (hsends : ((fresh s).after past).Once rest (SendsRequest n r)) :
    ∃ call q since, ((fresh s).after past).Waits n (.request call q since) := by
  obtain ⟨es, e, _, -, call, since, hasks⟩ := hsends
  cases hasks.newWait with
  | opening t _ _ _ hopening => cases hopening
  | completion _ q _ _ _ hwait =>
    rw [← after_append] at hwait
    exact ⟨call, q, since, awaited_before hopens hcancelled hwait⟩

/-- A call that waits for its request sends what is built, whether its trigger stands or not. -/
theorem sends_iff_built {call : Pending} {q : Inquiry} {since : Float}
    (hwait : l.Waits n (.request call q since)) :
    SendsRequest n r l e ↔ e = .resume n (.request (.ok r)) := by
  constructor
  · rintro ⟨_, _, hasks⟩
    cases hasks.newWait with
    | opening t _ _ _ hopening => cases hopening
    | completion _ _ _ _ he => exact he
  · rintro rfl
    refine ⟨call, since, ?_, fun hold => ?_⟩
    · rw [step_resume hwait]
      exact (movesOn_resume hwait _ _).here
    · cases hwait.unique hold

/-- The trigger is taken back while the request is being built. The request is sent all the same. -/
theorem sends_though_cancelled (r : CompletionRequest) :
    let t : Trigger := { Sample.trigger with token := some ['k'] }
    let before := (fresh Sample.surroundings).after
      [.trigger t, .resume 0 (.entitlement (.ok false)), .cancel ['k']]
    before.surroundings.isCancelled t = true ∧
      SendsRequest 0 r before (.resume 0 (.request (.ok r))) := by
  intro t before
  -- The token does not matter for the prompt, so the sample trigger stays ready with it.
  have hready : t.Ready Sample.surroundings Sample.prompt Sample.entries :=
    { Sample.ready with standing := rfl }
  let p := Suggester.fresh.start Sample.surroundings t
  let call := t.pending Sample.prompt Sample.entries p.2
  let asking : Lifecycle := ⟨p.1, Sample.surroundings, [some (.entitlement call)]⟩
  have hasking : ((fresh Sample.surroundings).step (.trigger t)).1 = asking := by
    rw [step_trigger_of_ready hready rfl rfl]
    rfl
  have hbefore : before =
      ((asking.step (.resume 0 (.entitlement (.ok false)))).1.step (.cancel ['k'])).1 := by
    simp only [before, after_cons, hasking]
    rfl
  have hwait : before.Waits 0 (.request call (call.inquiry false p.2.suggestionId) 0) := by
    rw [hbefore]
    rfl
  -- The request is sent by what the answer holds, whatever has been cancelled since.
  refine ⟨?_, (sends_iff_built hwait).mpr rfl⟩
  rw [hbefore]
  rfl

end Lifecycle

end PlaybookAssist
