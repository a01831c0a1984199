import PlaybookAssist.Proofs.Suggestion.Effects
import PlaybookAssist.Proofs.Suggestion.Report

/-!
# A trigger while a suggestion is displayed

Editors ask again when their own suggestion bar appears, so a trigger at the place of the displayed
suggestion gets the same texts once more and does nothing else. At any other place it sends the
suggestion away: the editor hides it, one report says that it was ignored, and then the trigger is
answered as if nothing had been displayed.

## Main definitions

- `Trigger.Passes` : the guards let a trigger through

## Main statements

- `Suggester.trigger_replaying`, `Suggester.trigger_superseding` : the two ways
- `Lifecycle.retrigger_replays_or_supersedes` : what the whole call does, up to its end
-/

namespace PlaybookAssist

/-- The guards let the trigger through. -/
structure Trigger.Passes (s : Surroundings) (t : Trigger) : Prop where
  active : s.servesActive = true
  serves : s.serves t.document = true
  standing : s.isCancelled t = false
  enabled : s.settings.suggestionsEnabled = true
  url : s.settings.url.isEmpty = false

namespace Suggester

variable {s : Surroundings} {t : Trigger} {p : Suggester} {shown : Shown}

/-! ## Triggers that pass -/

/-- The guards let a trigger ask for a suggestion, while nothing is shown. -/
theorem trigger_of_passes (h : t.Passes s) (hidle : p.session.isDisplayed = false) :
    p.trigger s t = p.ask s t := by
  simp [trigger, h.active, h.serves, h.standing, h.enabled, h.url, hidle]

theorem trigger_replaying (hpasses : t.Passes s) (hdisplayed : p.session.isDisplayed = true)
    (hshown : p.session.shown = some shown) (hposition : shown.position = t.position) :
    p.trigger s t = (p, [], .finished p.session.items) := by
  simp [trigger, hpasses.active, hpasses.serves, hpasses.standing, hpasses.enabled, hpasses.url,
    hdisplayed, hshown, hposition]

theorem trigger_superseding (hpasses : t.Passes s) (hdisplayed : p.session.isDisplayed = true)
    (hshown : p.session.shown = some shown) (hposition : shown.position ≠ t.position) :
    p.trigger s t = ((p.dismiss s .ignore .superseded).1, [.run .hide],
      .waiting (.feedback (p.session.report .ignore s.now) (some t))) := by
  simp [trigger, hpasses.active, hpasses.serves, hpasses.standing, hpasses.enabled, hpasses.url,
    hdisplayed, hshown, hposition, dismiss]

end Suggester

namespace Lifecycle

variable {s : Surroundings} {l : Lifecycle} {e : Event} {es past : List Event} {n m : Nat}
  {wait : Wait}

/-! ## A call alone -/

/-- A call that goes on does not say how a suggestion came to its end. -/
theorem ending_step (h : e.OnlyCall n) : (l.step e).1.suggester.ending = l.suggester.ending := by
  have hchange := l.step_change e
  generalize (l.step e).1 = l' at *
  generalize (l.step e).2 = happening at *
  cases hchange with
  | dismiss _ action ending next _ effects hends hmoves hp hdisplayed =>
    -- What ends a suggestion begins a call of its own.
    cases hends <;> cases h
  | begin _ n t _ effects progress hcomes hmoves hp hwait hitems =>
    rcases hp with hp | hp <;> simp [hp]
  | reset => cases h
  | around | deaf => rfl
  | quiet | replay | giveUp | fail | inquire | send | shows => simp [*]

theorem messages_step (h : e.OnlyCall n) : ∀ x ∈ (l.step e).2.effects, x.IsMessage := by
  rcases step_onlyCall (l := l) h with ⟨wait, answer, rfl, hwait⟩ | ⟨-, -, hnothing⟩
  · rw [step_resume hwait]
    exact (Suggester.resume_resumed _ wait answer _).messages
  · simp [hnothing]

theorem not_sendsReport (h : e.OnlyCall n) (f : Feedback) : ¬ SendsReport m f l e := by
  intro hreport
  obtain ⟨action, next, hends, -⟩ := hreport.ends
  cases hends <;> cases h

theorem eq_of_sendsRequest (h : e.OnlyCall n) {r : CompletionRequest}
    (hsends : SendsRequest m r l e) : m = n := by
  obtain ⟨call, since, hasks⟩ := hsends
  have hnew := hasks.newWait
  cases hnew with
  | opening t _ hcomes hbegins hopening => cases hopening
  | completion _ q _ _ he hwait hp =>
    subst he
    exact h

theorem ending_after (h : ∀ e ∈ es, e.OnlyCall n) :
    (l.after es).suggester.ending = l.suggester.ending := by
  induction es generalizing l with
  | nil => rfl
  | cons e es ih =>
    have hrest : ∀ e ∈ es, e.OnlyCall n := fun e' he' => h e' (List.mem_cons_of_mem e he')
    rw [after_cons, ih hrest]
    exact ending_step (h e List.mem_cons_self)

theorem messages_run (h : ∀ e ∈ es, e.OnlyCall n) :
    ∀ happening ∈ (l.run es).2, ∀ x ∈ happening.effects, x.IsMessage := by
  induction es generalizing l with
  | nil => simp [run]
  | cons e es ih =>
    intro happening hmem
    rcases List.mem_cons.mp hmem with rfl | hmem
    · exact messages_step (h e List.mem_cons_self)
    · exact ih (fun e' he' => h e' (List.mem_cons_of_mem e he')) happening hmem

theorem not_once_sendsReport (h : ∀ e ∈ es, e.OnlyCall n) (f : Feedback) :
    ¬ l.Once es (SendsReport m f) := by
  rintro ⟨past, e, rest, rfl, hreport⟩
  exact not_sendsReport (h e (by simp)) f hreport

/-! ## Requests -/

/-- No call sends two requests. -/
theorem Once.not_sendsRequest_again {r r' : CompletionRequest}
    (h : (fresh s).Once past (SendsRequest n r)) :
    ¬ SendsRequest n r' ((fresh s).after past) e := by
  rintro ⟨call', since', hasks'⟩
  obtain ⟨past', e', rest, hsplit, call, since, hasks⟩ := h
  have hearlier : (fresh s).Once past (Asks n (.completion call r since)) :=
    ⟨past', e', rest, hsplit, hasks⟩
  exact absurd (hearlier.rank_lt hasks') (Nat.lt_irrefl _)

theorem atMostOnce_sendsRequest (h : ∀ e ∈ es, e.OnlyCall n) :
    ((fresh s).after past).AtMostOnce es fun l e => ∃ m r, SendsRequest m r l e := by
  intro before e rest hsplit ⟨m, r, hsends⟩ hbefore
  obtain ⟨before', e', rest', rfl, m', r', hsends'⟩ := hbefore
  subst hsplit
  -- Both requests are those of the one call that goes on.
  obtain rfl : m = n := eq_of_sendsRequest (h e (by simp)) hsends
  obtain rfl : m' = m := eq_of_sendsRequest (h e' (by simp)) hsends'
  rw [← after_append] at hsends
  have hearlier : (fresh s).Once (past ++ (before' ++ e' :: rest')) (SendsRequest m' r') :=
    once_append.mpr (Or.inr ⟨before', e', rest', rfl, hsends'⟩)
  exact hearlier.not_sendsRequest_again hsends

/-! ## The call that supersedes -/

/-- What a call asks for that begins with a stretch. -/
theorem asks_trigger {t : Trigger} {st : Stretch}
    (hst : l.suggester.trigger l.surroundings t = st) :
    Asks m wait l (.trigger t) ↔ m = l.calls.length ∧ st.2.2.wait? = some wait := by
  have hnew : ¬ l.Waits l.calls.length wait := fun hwait => Nat.lt_irrefl _ hwait.lt_length
  have hstep : (l.step (.trigger t)).1 =
      { l with suggester := st.1, calls := l.calls ++ [st.2.2.wait?] } := by
    rw [← hst]
    rfl
  rw [Asks, hstep, (l.movesOn_begin st.1 st.2.2.wait?).waits_iff]
  constructor
  -- a call waits at the new place, or an older one waits, which it did before
  · rintro ⟨⟨hm, hwait⟩ | ⟨-, hold⟩, hno⟩
    · exact ⟨hm, hwait⟩
    · exact absurd hold hno
  · rintro ⟨rfl, hwait⟩
    exact ⟨Or.inl ⟨rfl, hwait⟩, hnew⟩

/-- A trigger that the guards let through while a suggestion is displayed. At the place of the
    suggestion it returns the same texts, tells nobody anything, asks nobody for anything, and the
    suggester stays as it is. At any other place the editor first hides the suggestion, then one
    report on it says that it was ignored, and it counts as superseded from then on. Whether the
    service takes the report or not, the call goes on as one for a fresh suggestion. As long as no
    other call does anything, it runs no further command, sends no further report and at most one
    request, which is its own. -/
theorem retrigger_replays_or_supersedes (s : Surroundings) (past : List Event) (t : Trigger)
    (hdisplayed : ((fresh s).after past).suggester.session.isDisplayed = true)
    (hpasses : t.Passes ((fresh s).after past).surroundings) :
    let before := (fresh s).after past
    let n := before.calls.length
    let after := (before.step (.trigger t)).1
    let happening := (before.step (.trigger t)).2
    ∃ shown, before.suggester.session.shown = some shown ∧
      (shown.position = t.position →
        happening = ⟨[], some (n, .finished before.suggester.session.items)⟩ ∧
        after.suggester = before.suggester ∧ after.surroundings = before.surroundings ∧
        ∀ m wait, ¬ Asks m wait before (.trigger t)) ∧
      (shown.position ≠ t.position →
        ∃ report : Feedback, report.suggestionId = before.suggester.session.id ∧
          report.action = .ignore ∧
          happening = ⟨[.run .hide], some (n, .waiting (.feedback report (some t)))⟩ ∧
          (∀ m wait, Asks m wait before (.trigger t) ↔
            m = n ∧ wait = .feedback report (some t)) ∧
          after.suggester.ending = some .superseded ∧ after.suggester.session = .blank ∧
          (∀ result, result = .ok () ∨ (∃ f, result = .error (.service f)) →
            let ask := after.suggester.ask after.surroundings t
            (after.step (.resume n (.feedback result))).1.suggester = ask.1 ∧
            (after.step (.resume n (.feedback result))).2 = ⟨ask.2.1, some (n, ask.2.2)⟩) ∧
          ∀ es, (∀ e ∈ es, e.OnlyCall n) →
            (after.after es).suggester.ending = some .superseded ∧
            (∀ happening ∈ (after.run es).2, ∀ x ∈ happening.effects, x.IsMessage) ∧
            (∀ m f, ¬ after.Once es (SendsReport m f)) ∧
            (∀ m r, after.Once es (SendsRequest m r) → m = n) ∧
            after.AtMostOnce es fun l e => ∃ m r, SendsRequest m r l e) := by
  intro before n after happening
  obtain ⟨-, -, shown, -, -, -, hshown, -⟩ := shows_of_displayed hdisplayed
  refine ⟨shown, hshown, fun hposition => ?_, fun hposition => ?_⟩
  -- The trigger is where the suggestion is shown: the same items are returned, and the call waits
  -- for nothing.
  · have htrigger := Suggester.trigger_replaying hpasses hdisplayed hshown hposition
    have hstep : before.step (.trigger t) = ({ before with calls := before.calls ++ [none] },
        ⟨[], some (n, .finished before.suggester.session.items)⟩) := by
      simp only [step, beginCall]
      rw [htrigger]
      rfl
    refine ⟨by simp [happening, hstep], by simp [after, hstep], by simp [after, hstep], ?_⟩
    intro m wait hasks
    obtain ⟨-, hwait⟩ := (asks_trigger htrigger).mp hasks
    cases hwait
  -- The trigger is somewhere else: the suggestion is ignored, and the call waits for its report.
  · have htrigger := Suggester.trigger_superseding hpasses hdisplayed hshown hposition
    let report := before.suggester.session.report .ignore before.surroundings.now
    have hstep : before.step (.trigger t) =
        ({ before with
            suggester := (before.suggester.dismiss before.surroundings .ignore .superseded).1
            calls := before.calls ++ [some (.feedback report (some t))] },
          ⟨[.run .hide], some (n, .waiting (.feedback report (some t)))⟩) := by
      simp only [step, beginCall]
      rw [htrigger]
      rfl
    have hending : after.suggester.ending = some .superseded := by
      simp [after, hstep, Suggester.dismiss]
    have hwaits : after.Waits n (.feedback report (some t)) := by simp [after, hstep, Waits, n]
    -- The report itself, what the call waits for, and the session are read off the step.
    refine ⟨report, rfl, rfl, by simp [happening, hstep], ?_, hending, by simp [after, hstep],
      ?_, ?_⟩
    · intro m wait
      rw [asks_trigger htrigger]
      simp [Progress.wait?, report, n, before, eq_comm]
    -- Whether the report is taken or refused, the call then asks like a fresh trigger.
    · intro result hresult
      have hask := Suggester.afterFeedback_eq after.surroundings t after.suggester hresult
      rw [step_resume hwaits]
      simp only [Suggester.resume, hask, and_self]
    -- From here on only this call may act, so that no other report or request can be sent.
    · intro es honly
      have hafter : after = (fresh s).after (past ++ [.trigger t]) := after_concat.symm
      refine ⟨(ending_after honly).trans hending, messages_run honly,
        fun m f => not_once_sendsReport honly f, ?_, ?_⟩
      · rintro m r ⟨past', e, rest, rfl, hsends⟩
        exact eq_of_sendsRequest (honly e (by simp)) hsends
      -- For its own requests the bound is the one over the whole run, hence the run from the start.
      · rw [hafter]
        exact atMostOnce_sendsRequest honly

/-- A suggestion is shown again at its place. At another place, where no task has been named, it is
    hidden and reported on, and that the service does not take the report changes nothing. -/
theorem retrigger_at_both_places :
    let past : List Event := [.trigger Sample.trigger, .resume 0 (.entitlement (.ok false)),
      .resume 0 (.request (.ok (Sample.request (Sample.call .fresh) Sample.id)))] ++
        [.resume 0 (.completion (.ok [['y']]))]
    let elsewhere : Trigger := { Sample.trigger with position := ⟨0, 0⟩ }
    let refused : Event := .resume 1 (.feedback (.error (.service (.notJson []))))
    ((fresh Sample.surroundings).after past).suggester.session.isDisplayed = true ∧
      Sample.trigger.Passes ((fresh Sample.surroundings).after past).surroundings ∧
      elsewhere.Passes ((fresh Sample.surroundings).after past).surroundings ∧
      (((fresh Sample.surroundings).after past).step (.trigger Sample.trigger)).2 =
        ⟨[], some (1, .finished [['y']])⟩ ∧
      ∃ report : Feedback, report.suggestionId = Sample.id ∧ report.action = .ignore ∧
        (((fresh Sample.surroundings).after past).step (.trigger elsewhere)).2 =
          ⟨[.run .hide], some (1, .waiting (.feedback report (some elsewhere)))⟩ ∧
        ((((fresh Sample.surroundings).after past).step (.trigger elsewhere)).1.after
          [refused]).suggester.ending = some .superseded := by
  intro past elsewhere refused
  have hafter : (fresh Sample.surroundings).after past = Sample.shown := Sample.after_shown
  have hdisplayed :
      ((fresh Sample.surroundings).after past).suggester.session.isDisplayed = true := by
    rw [hafter]
    rfl
  have hhere : Sample.trigger.Passes ((fresh Sample.surroundings).after past).surroundings := by
    rw [hafter]
    exact ⟨Sample.ready.active, Sample.ready.serves, Sample.ready.standing, Sample.ready.enabled,
      Sample.ready.url⟩
  have hthere : elsewhere.Passes ((fresh Sample.surroundings).after past).surroundings := by
    rw [hafter]
    exact ⟨Sample.ready.active, Sample.ready.serves, Sample.ready.standing, Sample.ready.enabled,
      Sample.ready.url⟩
  obtain ⟨shown, hshown, hreplay, -⟩ :=
    retrigger_replays_or_supersedes Sample.surroundings past Sample.trigger hdisplayed hhere
  obtain ⟨shown', hshown', -, hsupersede⟩ :=
    retrigger_replays_or_supersedes Sample.surroundings past elsewhere hdisplayed hthere
  -- what is shown stands at the place of the first trigger
  have hplace : Sample.trigger.position = shown.position := by
    rw [hafter] at hshown
    cases hshown
    rfl
  have hother : shown'.position ≠ elsewhere.position := by
    rw [hafter] at hshown'
    cases hshown'
    exact (by decide : Sample.trigger.position ≠ ⟨0, 0⟩)
  obtain ⟨hhappening, -⟩ := hreplay hplace.symm
  obtain ⟨report, hid, haction, hhidden, -, -, -, -, hon⟩ := hsupersede hother
  refine ⟨hdisplayed, hhere, hthere, ?_, report, ?_, haction, ?_, ?_⟩
  · refine hhappening.trans ?_
    rw [hafter]
    rfl
  · rw [hid, hafter]
    rfl
  · refine hhidden.trans ?_
    rw [hafter]
    rfl
  -- how the session ended does not depend on what becomes of the report
  · refine (hon [refused] fun e he => ?_).1
    obtain rfl := List.mem_singleton.mp he
    rw [hafter]
    rfl

end Lifecycle

end PlaybookAssist
