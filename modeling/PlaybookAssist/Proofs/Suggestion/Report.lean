import PlaybookAssist.Proofs.Suggestion.RequestId

/-!
# Reports

Three operations end what is shown: the user accepts it, sends it away, or asks at another place.
Each makes a report, and while the report is on its way other calls go on. Still every report is one
on a session that was displayed with predictions for a request under its own id; it tells what ended
that session; and no two reports are on the same session.

## Main statements

- `Lifecycle.shows_of_displayed` : how a session came to be displayed
- `Lifecycle.Once.own_inquiry` : the call of the current session has inquired under it
- `Lifecycle.report_accounts` : what a report tells, and that it is the only one
-/

namespace PlaybookAssist.Lifecycle

variable {s : Surroundings} {draw : Nat → Text} {past es : List Event} {e : Event} {n m : Nat}
  {o : Origin} {f : Feedback}

/-! ## Displayed sessions -/

/-- A displayed session was begun by a call that has sent a request, and has shown predictions. -/
theorem shows_of_displayed
    (hdisplayed : ((fresh s).after es).suggester.session.isDisplayed = true) :
    ∃ n o shown predictions r, ((fresh s).after es).suggester.session.origin = some o ∧
      ((fresh s).after es).suggester.session.shown = some shown ∧ predictions ≠ [] ∧
      (fresh s).Once es (Begins n o) ∧ (fresh s).Once es (SendsRequest n r) ∧
      (fresh s).Once es (Shows n o shown predictions) := by
  -- Induction over the events: the session is displayed still, or it is displayed now.
  induction es using List.reverseRecOn with
  | nil => cases hdisplayed
  | append_singleton es e ih =>
    rw [after_concat] at hdisplayed ⊢
    rcases step_displayed hdisplayed with hkept | ⟨n, o, shown, predictions, hshows, hsucceeds⟩
    · rw [hkept] at hdisplayed ⊢
      obtain ⟨n, o, shown, predictions, r, horigin, hshown, hsome, hbegins, hsent, hshows⟩ :=
        ih hdisplayed
      exact ⟨n, o, shown, predictions, r, horigin, hshown, hsome, hbegins.append _,
        hsent.append _, hshows.append _⟩
    -- A success belongs to the call that began the session, and that call has sent its request.
    · obtain ⟨-, ⟨call, r, since, hwait, hnumber, -⟩, horigin, hsome⟩ := hsucceeds
      have hbegins := begins_of_number_eq hwait rfl horigin hnumber
      have hsent : (fresh s).Once es (SendsRequest n r) :=
        (once_asks_of_waits hwait).mono fun _ _ hasks => ⟨call, since, hasks⟩
      exact ⟨n, o, shown, predictions, r, hshows.2.1, hshows.2.2.1, hsome, hbegins.append _,
        hsent.append _, once_concat.mpr (Or.inr hshows)⟩

/-! ## Sessions that are gone -/

/-- A session that has been begun and is not the current one never is again. -/
theorem Once.gone_step (h : (fresh s).Once es (Begins n o))
    (hgone : ((fresh s).after es).suggester.session.origin ≠ some o) :
    ((fresh s).after (es ++ [e])).suggester.session.origin ≠ some o := by
  rw [after_concat]
  intro horigin
  rcases step_session ((fresh s).after es) e with ⟨m, o', hnow⟩ | ⟨-, hkept | hnone⟩
  · -- A session that is begun now has a number of its own.
    obtain rfl : o' = o := Option.some.inj (hnow.2.2.symm.trans horigin)
    have hlt := (custody s es).number_lt n o' h
    have heq := ((custody s es).begins_now hnow).1
    omega
  · exact hgone (hkept ▸ horigin)
  · rw [hnone] at horigin
    cases horigin

/-- A call that inquires has begun a session. -/
theorem Once.begins_of_asked {o : Option Origin} (h : (fresh s).Once es (Inquires n o)) :
    ∃ o, (fresh s).Once es (Begins n o) := by
  obtain ⟨past, e, rest, rfl, ⟨call, q, since, hasks⟩, -⟩ := h
  have hwait : ((fresh s).after (past ++ [e])).Waits n (.request call q since) := by
    rw [after_concat]
    exact hasks.1
  obtain ⟨-, o, hbegins, -⟩ := (custody s _).serves n _ call hwait rfl
  refine ⟨o, ?_⟩
  simpa using hbegins.append rest

/-- While the session of a call is the current one, the call can only have inquired under it. -/
theorem Once.own_inquiry {o' : Option Origin} (h : (fresh s).Once es (Begins n o))
    (horigin : ((fresh s).after es).suggester.session.origin = some o)
    (hinquires : (fresh s).Once es (Inquires n o')) : o' = some o := by
  induction es using List.reverseRecOn with
  | nil => exact absurd h not_once_nil
  | append_singleton es e ih =>
    rcases once_concat.mp hinquires with hasked | hnow
    · obtain ⟨o'', hbegun⟩ := hasked.begins_of_asked
      rcases once_concat.mp h with hbegins | hbegins
      · refine ih hbegins (Decidable.byContradiction fun hgone => ?_) hasked
        exact hbegins.gone_step hgone horigin
      · exact absurd hbegun ((custody s es).not_once_begins_of_begins hbegins)
    · rw [after_concat] at horigin
      exact hnow.2.symm.trans horigin

/-! ## What is reported -/

/-- What a report is made of: of what is displayed, by what ends it. -/
theorem SendsReport.ends {l : Lifecycle} (h : SendsReport n f l e) :
    ∃ action next, l.Ends e action next ∧
      f = l.suggester.session.report action l.surroundings.now ∧
      l.suggester.session.isDisplayed = true ∧ (l.step e).1.suggester.session = .blank := by
  obtain ⟨next, hasks⟩ := h
  have hnew := hasks.newWait
  cases hnew with
  | feedback action _ hends hn hdisplayed hgone =>
    exact ⟨action, next, hends, rfl, hdisplayed, hgone⟩
  | opening t _ hcomes hbegins hopening => cases hopening

/-- Whenever the user accepts what is displayed, a report is sent. -/
theorem sendsReport_accept {l : Lifecycle} (hactive : l.surroundings.servesActive = true)
    (hdisplayed : l.suggester.session.isDisplayed = true) :
    SendsReport l.calls.length (l.suggester.session.report .accept l.surroundings.now) l
      .accept := by
  refine ⟨none, ?_, fun hwait => Nat.lt_irrefl _ hwait.lt_length⟩
  simp [Waits, step, beginCall, Suggester.accept, Suggester.act, hactive, hdisplayed,
    Suggester.dismiss, Progress.wait?]

/-- A session that has been reported on is gone. -/
theorem Once.reported_gone (h : (fresh s).Once es (SendsReport m f)) :
    ∃ n o, (fresh s).Once es (Begins n o) ∧ f.suggestionId = o.suggestionId ∧
      ((fresh s).after es).suggester.session.origin ≠ some o := by
  induction es using List.reverseRecOn with
  | nil => exact absurd h not_once_nil
  | append_singleton es e ih =>
    rcases once_concat.mp h with hpast | hnow
    · obtain ⟨n, o, hbegins, hid, hgone⟩ := ih hpast
      -- a report sent before: its session was gone then and stays so
      exact ⟨n, o, hbegins.append _, hid, hbegins.gone_step hgone⟩
    · obtain ⟨action, next, -, rfl, hdisplayed, hblank⟩ := hnow.ends
      obtain ⟨n, o, -, -, -, horigin, -, -, hbegins, -⟩ := shows_of_displayed hdisplayed
      refine ⟨n, o, hbegins.append _, Suggestion.id_eq horigin, ?_⟩
      rw [after_concat, hblank]
      simp

/-- What ends a displayed session decides what its report says that the user did. -/
theorem Ends.action_iff {l : Lifecycle} {action : UserAction} {next : Option Trigger}
    {shown : Shown} (h : l.Ends e action next) (hshown : l.suggester.session.shown = some shown) :
    (action = .accept ↔ e = .accept) ∧
      (action = .ignore ↔ e = .hide ∨ ∃ t, e = .trigger t ∧ t.position ≠ shown.position) := by
  cases h with
  | accept => simp
  | hide => simp
  | trigger t hposition => simpa using Ne.symm (hposition shown hshown)

/-- Every report that is sent is one on a session that was displayed with predictions and is gone
    now. The request of that session carried its id, and the report carries the same id with the
    latency, document and activity of that session. It says accepted exactly if the user accepted,
    and ignored exactly if the user sent the suggestion away or asked at another place. No earlier
    report carries the id. -/
theorem report_accounts (hids : FreshIds s.ids draw)
    (hbuilds : (fresh s).Always past (Builds draw))
    (hreport : SendsReport m f ((fresh s).after past) e) :
    ∃ n t o shown predictions r,
      (fresh s).Once past (Opens n t) ∧ (fresh s).Once past (Begins n o) ∧
      (fresh s).Once past (SendsRequest n r) ∧ r.suggestionId = o.suggestionId ∧
      (fresh s).Once past (Shows n o shown predictions) ∧ predictions ≠ [] ∧
      ((fresh s).after past).suggester.session.origin = some o ∧
      (((fresh s).after past).step e).1.suggester.session = .blank ∧
      f.suggestionId = o.suggestionId ∧ f.latency = some shown.latency ∧
      f.documentUri = some t.document.uri ∧ f.activityId = some o.activityId ∧
      (f.action = .accept ↔ e = .accept) ∧
      (f.action = .ignore ↔ e = .hide ∨ ∃ t', e = .trigger t' ∧ t'.position ≠ shown.position) ∧
      ∀ m' f', (fresh s).Once past (SendsReport m' f') → f'.suggestionId ≠ f.suggestionId := by
  -- Whatever reports has ended a displayed session, which then is blank.
  obtain ⟨action, next, hends, rfl, hdisplayed, hblank⟩ := hreport.ends
  obtain ⟨n, o, shown, predictions, r, horigin, hshown, hsome, hbegins, hsent, hshows⟩ :=
    shows_of_displayed hdisplayed
  have hid : (((fresh s).after past).suggester.session.report action
      ((fresh s).after past).surroundings.now).suggestionId = o.suggestionId :=
    Suggestion.id_eq horigin
  obtain ⟨t, hopens, huri⟩ := (custody s past).opened n o hbegins
  -- The session of the call is still there, so the call has inquired under no other one.
  have hrequest : r.suggestionId = o.suggestionId := by
    obtain ⟨-, o', hinquires, hid'⟩ := hsent.requestId_of_sends hids hbuilds
    obtain rfl := hbegins.own_inquiry horigin hinquires
    exact hid'
  obtain ⟨haccept, hignore⟩ := hends.action_iff hshown
  refine ⟨n, t, o, shown, predictions, r, hopens, hbegins, hsent, hrequest, hshows, hsome, horigin,
    -- The fields are those of the session at the time of the report.
    hblank, hid, ?_, ?_, ?_, haccept, hignore, ?_⟩
  · simp [Suggestion.report, hshown]
  · simp [Suggestion.report, horigin, huri]
  · simp [Suggestion.report, horigin]
  · -- An earlier report is on a session that is gone, and this one is not.
    intro m' f' hearlier heq
    obtain ⟨n', o', hbegins', hid', hgone⟩ := hearlier.reported_gone
    obtain rfl := eq_of_suggestionId_eq hids hbegins' hbegins (hid'.symm.trans (heq.trans hid))
    exact hgone horigin

/-- The user accepts what a call has displayed that nothing disturbed. -/
theorem report_accounts_accepted :
    let past : List Event := [.trigger Sample.trigger, .resume 0 (.entitlement (.ok false)),
      .resume 0 (.request (.ok (Sample.request (Sample.call .fresh) Sample.id)))] ++
        [.resume 0 (.completion (.ok [['y']]))]
    (fresh Sample.surroundings).Always past (Builds IdSource.counting.request) ∧
      ∃ f, SendsReport 1 f ((fresh Sample.surroundings).after past) .accept ∧
        f.action = .accept ∧
        ∃ n t o shown predictions, (fresh Sample.surroundings).Once past (Opens n t) ∧
          (fresh Sample.surroundings).Once past (Begins n o) ∧
          (fresh Sample.surroundings).Once past (Shows n o shown predictions) ∧
          f.suggestionId = o.suggestionId ∧ f.latency = some shown.latency ∧
          f.documentUri = some t.document.uri := by
  intro past
  have hbuilds : (fresh Sample.surroundings).Always past (Builds IdSource.counting.request) := by
    refine always_cons.mpr ⟨builds_of_ne (by simp), always_cons.mpr ⟨builds_of_ne (by simp), ?_⟩⟩
    rw [Sample.step_trigger_fresh]
    exact always_cons.mpr ⟨Sample.builds rfl (IdSource.counting_fresh.ne_nil 0),
      always_cons.mpr ⟨builds_of_ne (by simp), always_nil⟩⟩
  -- Accepting what is shown sends the report.
  have hreport : SendsReport 1 (Sample.shown.suggester.session.report .accept 0)
      ((fresh Sample.surroundings).after past) .accept := by
    rw [Sample.after_shown]
    exact sendsReport_accept Sample.ready.active rfl
  obtain ⟨n, t, o, shown, predictions, r, hopens, hbegins, -, -, hshows, -, -, -, hid, hlatency,
    huri, -, haccept, -⟩ := report_accounts IdSource.counting_fresh hbuilds hreport
  exact ⟨hbuilds, _, hreport, haccept.mpr rfl, n, t, o, shown, predictions, hopens, hbegins, hshows,
    hid, hlatency, huri⟩

end PlaybookAssist.Lifecycle
