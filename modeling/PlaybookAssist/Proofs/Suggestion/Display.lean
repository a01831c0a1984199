import PlaybookAssist.Proofs.Suggestion.Custody
import PlaybookAssist.Proofs.Suggestion.Ready

/-!
# What is displayed

However calls, commands, resets and cancellations interleave: a suggestion is displayed only by the
call that began its session, with the response to the request of that call, while the session is
still the current one and the trigger has not been taken back. The response for a replaced session
changes nothing at all.

## Main definitions

- `Lifecycle.InTime` : a response comes while the session of its call is still the current one

## Main statements

- `Lifecycle.displayed_only_in_time`
-/

namespace PlaybookAssist.Lifecycle

variable {s : Surroundings} {past : List Event} {e : Event} {n : Nat} {predictions : List Text}

/-- At the event `e` after `past`, call `n` gets the predictions it waits for; the session that it
    began is still the current one, and the trigger it was opened for has not been taken back. -/
structure InTime (s : Surroundings) (past : List Event) (e : Event) (n : Nat)
    (predictions : List Text) : Prop where
  event : e = .resume n (.completion (.ok predictions))
  waits : ∃ call r since, ((fresh s).after past).Waits n (.completion call r since)
  own : ∃ o, (fresh s).Once past (Begins n o) ∧
    ((fresh s).after past).suggester.session.origin = some o
  standing : ∃ t, (fresh s).Once past (Opens n t) ∧
    ((fresh s).after past).surroundings.isCancelled t = false

/-! ## Only in time -/

/-- A call that succeeds does so in time: the session with its number is the one that it began. -/
theorem Succeeds.inTime {o : Origin}
    (h : Succeeds n o predictions ((fresh s).after past) e) :
    InTime s past e n predictions ∧ predictions ≠ [] := by
  obtain ⟨hevent, ⟨call, r, since, hwait, hnumber, hcancelled⟩, horigin, hsome⟩ := h
  obtain ⟨hopens, -⟩ := (custody s past).serves n _ call hwait rfl
  refine ⟨⟨hevent, ⟨call, r, since, hwait⟩, ⟨o, ?_, horigin⟩, ⟨call.trigger, hopens, hcancelled⟩⟩,
    hsome⟩
  exact begins_of_number_eq hwait rfl horigin hnumber

/-- What puts a new suggestion on display. -/
theorem inTime_of_displayed
    (hdisplayed : (((fresh s).after past).step e).1.suggester.session.isDisplayed = true)
    (hnew : (((fresh s).after past).step e).1.suggester.session ≠
      ((fresh s).after past).suggester.session) :
    ∃ n predictions, InTime s past e n predictions ∧ predictions ≠ [] := by
  rcases step_displayed hdisplayed with hkept | ⟨n, o, shown, predictions, -, hsucceeds⟩
  · exact absurd hkept hnew
  · exact ⟨n, predictions, hsucceeds.inTime⟩

/-- What hands a new suggestion on. -/
theorem inTime_of_details
    (hnew : (((fresh s).after past).step e).1.suggester.details ≠
      ((fresh s).after past).suggester.details) :
    ∃ n predictions, InTime s past e n predictions ∧ predictions ≠ [] := by
  rcases step_details ((fresh s).after past) e with hkept | ⟨n, o, predictions, hsucceeds⟩
  · exact absurd hkept hnew
  · exact ⟨n, predictions, hsucceeds.inTime⟩

/-- What a call returns that has sent its request. -/
theorem inTime_of_finished {r : CompletionRequest} {items : List Text}
    (hsent : (fresh s).Once past (SendsRequest n r))
    (hcall : (((fresh s).after past).step e).2.call = some (n, .finished items))
    (hitems : items ≠ []) :
    ∃ predictions, InTime s past e n predictions ∧ predictions ≠ [] := by
  have hknown : n < ((fresh s).after past).calls.length :=
    hsent.lt_length fun _ _ ⟨_, _, hasks⟩ => hasks.lt_length
  obtain ⟨o, predictions, hsucceeds⟩ := step_finished hknown hcall hitems
  exact ⟨predictions, hsucceeds.inTime⟩

/-! ## Always in time -/

/-- A response with predictions that comes in time is displayed, handed on and returned. -/
theorem InTime.displayed (h : InTime s past e n predictions) (hsome : predictions ≠ []) :
    ∃ o first others, (fresh s).Once past (Begins n o) ∧
      (((fresh s).after past).step e).1.suggester.session.origin = some o ∧
      (((fresh s).after past).step e).1.suggester.session.isDisplayed = true ∧
      (((fresh s).after past).step e).1.suggester.session.items = first :: others ∧
      (((fresh s).after past).step e).1.suggester.details = some (o.suggestionId, first) ∧
      (((fresh s).after past).step e).2.call = some (n, .finished (first :: others)) := by
  obtain ⟨rfl, ⟨call, r, since, hwait⟩, ⟨o, hbegins, horigin⟩, t, hopens, hstanding⟩ := h
  -- What the call remembers is the trigger and the session that the run knows of it.
  obtain ⟨hopens', -⟩ := (custody s past).serves n _ call hwait rfl
  obtain rfl : t = call.trigger := hopens.opens_unique hopens'
  have hcall := number_eq_of_begins hwait rfl hbegins
  obtain ⟨st, hresult, hp, hhappening⟩ := step_completion hwait (.ok predictions)
  cases hresult with
  -- The session is that of the call, so that the answer is not stale.
  | stale _ hstale => exact absurd hcall.symm (hstale o horigin)
  -- It would be dropped for the token or for want of predictions, and neither is so.
  | dropped _ o' horigin' hnumber hwhy =>
    rcases hwhy with hcancelled | hnil
    · rw [hcancelled] at hstanding
      cases hstanding
    · exact absurd hnil hsome
  | displayed _ o' shown first others horigin' hnumber hcancelled hitems hshown =>
    obtain rfl : o = o' := by simpa [horigin] using horigin'
    refine ⟨o, first, others, hbegins, ?_⟩
    rw [hp, hhappening, hshown]
    exact ⟨horigin, rfl, rfl, rfl, rfl⟩

/-! ## Too late -/

/-- The response for a session that has been replaced changes nothing and returns nothing. -/
theorem step_of_replaced {call : Pending} {r : CompletionRequest} {since : Float} {o : Origin}
    (hwait : ((fresh s).after past).Waits n (.completion call r since))
    (hbegins : (fresh s).Once past (Begins n o))
    (hreplaced : ((fresh s).after past).suggester.session.origin ≠ some o) :
    (((fresh s).after past).step (.resume n (.completion (.ok predictions)))).1.suggester =
        ((fresh s).after past).suggester ∧
      (((fresh s).after past).step (.resume n (.completion (.ok predictions)))).2 =
        ⟨[], some (n, .finished [])⟩ := by
  obtain ⟨st, hresult, hp, hhappening⟩ := step_completion hwait (.ok predictions)
  -- A session with the number of the call is the one that the call began, so it is not current.
  have hother : ∀ o', ((fresh s).after past).suggester.session.origin = some o' →
      o'.number ≠ call.number := by
    intro o' horigin hnumber
    have hbegins' := begins_of_number_eq hwait rfl horigin hnumber
    obtain rfl := (custody s past).eq_of_call n o o' hbegins hbegins'
    exact hreplaced horigin
  cases hresult with
  -- So neither of the branches applies that look at the session.
  | stale _ _ => exact ⟨hp, hhappening⟩
  | dropped _ o' horigin hnumber _ => exact absurd hnumber (hother o' horigin)
  | displayed _ o' _ _ _ horigin hnumber _ _ _ => exact absurd hnumber (hother o' horigin)

/-! ## Exactly in time -/

/-- After any run, whatever the next event is: only a response in time, with predictions, puts
    anything new on display, only that hands something on, and only that gives texts to a call that
    has sent its request. Every such response does all three. The response for a session that has
    been replaced, or that is over and gone, gives no text and leaves the suggester as it is. -/
theorem displayed_only_in_time (s : Surroundings) (past : List Event) (e : Event) :
    let before := (fresh s).after past
    let after := (before.step e).1
    let happening := (before.step e).2
    (after.suggester.session.isDisplayed = true →
        after.suggester.session ≠ before.suggester.session →
        ∃ n predictions, InTime s past e n predictions ∧ predictions ≠ []) ∧
      (after.suggester.details ≠ before.suggester.details →
        ∃ n predictions, InTime s past e n predictions ∧ predictions ≠ []) ∧
      (∀ n r items, (fresh s).Once past (SendsRequest n r) →
        happening.call = some (n, .finished items) → items ≠ [] →
        ∃ predictions, InTime s past e n predictions ∧ predictions ≠ []) ∧
      (∀ n predictions, InTime s past e n predictions → predictions ≠ [] →
        ∃ o first others, (fresh s).Once past (Begins n o) ∧
          after.suggester.session.origin = some o ∧
          after.suggester.session.isDisplayed = true ∧
          after.suggester.session.items = first :: others ∧
          after.suggester.details = some (o.suggestionId, first) ∧
          happening.call = some (n, .finished (first :: others))) ∧
      (∀ n call r since o predictions, before.Waits n (.completion call r since) →
        (fresh s).Once past (Begins n o) → before.suggester.session.origin ≠ some o →
        e = .resume n (.completion (.ok predictions)) →
        after.suggester = before.suggester ∧ happening = ⟨[], some (n, .finished [])⟩) := by
  refine ⟨inTime_of_displayed, inTime_of_details, ?_, ?_, ?_⟩
  · intro n r items hsent hcall hitems
    exact inTime_of_finished hsent hcall hitems
  · intro n predictions hintime hsome
    exact hintime.displayed hsome
  · rintro n call r since o predictions hwait hbegins hreplaced rfl
    exact step_of_replaced hwait hbegins hreplaced

/-- The predictions for a call that nothing disturbs are displayed in time. -/
theorem displayed_in_time_undisturbed :
    ∃ n predictions, InTime Sample.surroundings
      [.trigger Sample.trigger, .resume 0 (.entitlement (.ok false)),
        .resume 0 (.request (.ok (Sample.request (Sample.call .fresh) Sample.id)))]
      (.resume 0 (.completion (.ok [['y']]))) n predictions ∧ predictions ≠ [] := by
  obtain ⟨hdisplayed, -⟩ := displayed_only_in_time Sample.surroundings
    [.trigger Sample.trigger, .resume 0 (.entitlement (.ok false)),
      .resume 0 (.request (.ok (Sample.request (Sample.call .fresh) Sample.id)))]
    (.resume 0 (.completion (.ok [['y']])))
  rw [Sample.after_sent] at hdisplayed
  refine hdisplayed rfl fun hsame => ?_
  cases congrArg Suggestion.stage hsame

end PlaybookAssist.Lifecycle
