import PlaybookAssist.Proofs.Suggestion.Display
import PlaybookAssist.Proofs.Suggestion.Effects

/-!
# Sessions that are ended while their answer is on its way

Whatever ends a session keeps it in its place until the next one is begun. So the call that waits
for the answer still finds its own session there, and displays the answer in it: the suggester goes
from idle to displayed. It does so exactly if the session has been ended while its call waited, and
never otherwise.

## Main definitions

- `Lifecycle.Discards` : a session stops waiting for its answer

## Main statements

- `Lifecycle.stage_of_waiting` : the stage of a session whose call still waits
- `Lifecycle.displayed_from_idle_iff` : when an answer is displayed in a session that was ended
-/

namespace PlaybookAssist

/-- A call for a suggestion that waits has left the session as it was begun. -/
theorem Suggester.AskResult.session_of_waiting {s : Surroundings} {t : Trigger} {p : Suggester}
    {st : Stretch} {wait : Wait} (h : Suggester.AskResult s t p st)
    (hwait : st.2.2.wait? = some wait) : st.1.session = .requested (p.start s t).2 := by
  cases h with
  | misplaced | failed | dropped => cases hwait
  | entitlement | request => rfl

namespace Lifecycle

variable {s : Surroundings} {l : Lifecycle} {e : Event} {es : List Event} {n : Nat} {o : Origin}
  {wait : Wait} {call : Pending}

/-- The session `o` stops waiting for its answer, and no other one takes its place. -/
def Discards (o : Origin) (l : Lifecycle) (e : Event) : Prop :=
  l.suggester.session.origin = some o ∧ l.suggester.session.stage = .requesting ∧
    (l.step e).1.suggester.session.origin = some o ∧ (l.step e).1.suggester.session.stage = .idle

/-! ## Stages -/

/-- A session that is begun by a call which waits then is as it was begun. -/
theorem Begins.session_of_waits (h : Begins n o l e) (hwait : (l.step e).1.Waits n wait) :
    (l.step e).1.suggester.session = .requested o := by
  obtain ⟨t, hcomes, rfl, -⟩ := begins_inv h
  have hbegun := h.2.1
  -- A session is begun by a trigger, by going on at once, or after a report; in each case the call
  -- waits only for what the asking made it wait for.
  cases hcomes with
  | trigger t =>
    rcases waits_beginCall hwait with hold | ⟨-, hnew⟩
    -- A call that is about to begin does not wait yet.
    · exact absurd hold.lt_length (Nat.lt_irrefl _)
    have hresult := Suggester.trigger_result l.surroundings t l.suggester
    change (l.suggester.trigger l.surroundings t).1.session = _
    change (l.suggester.trigger l.surroundings t).1.begun = _ at hbegun
    generalize l.suggester.trigger l.surroundings t = st at *
    cases hresult with
    -- Of the other outcomes of a trigger none waits, or none begins a session.
    | refused | replayed => cases hnew
    | superseding => simp at hbegun
    | asked _ hidle hask => exact hask.session_of_waiting hnew
  | ask t =>
    rcases waits_beginCall hwait with hold | ⟨-, hnew⟩
    · exact absurd hold.lt_length (Nat.lt_irrefl _)
    · exact (Suggester.ask_result l.surroundings t l.suggester).session_of_waiting hnew
  -- After a report: the call waits by the asking, for its old wait is over.
  | resume n report t result hold =>
    rw [step_resume hold] at hbegun hwait ⊢
    rcases (movesOn_resume hold _ _).waits_iff.mp hwait with ⟨-, hnew⟩ | ⟨hne, -⟩
    · rcases Suggester.afterFeedback_asked l.surroundings (some t) result l.suggester with
        ⟨t', ht, hask⟩ | ⟨progress, hover, hkept⟩
      · cases ht
        have hresult := Suggester.ask_result l.surroundings t l.suggester
        rw [← hask] at hresult
        exact hresult.session_of_waiting hnew
      -- Where the trigger is spared no session is begun.
      · simp [Suggester.resume, hkept] at hbegun
    · exact absurd rfl hne

/-- An event keeps the stage of the session, or ends the session, or a new one is begun, or a call
    that succeeds displays its predictions and is over. -/
theorem stage_step (l : Lifecycle) (e : Event) :
    (l.step e).1.suggester.session.stage = l.suggester.session.stage ∨
      (l.step e).1.suggester.session.stage = .idle ∨ (∃ n o, Begins n o l e) ∨
      ∃ n o predictions, Succeeds n o predictions l e ∧ ∀ wait, ¬ (l.step e).1.Waits n wait := by
  have hchange := l.step_change e
  simp only [Begins]
  generalize (l.step e).1 = l' at *
  generalize (l.step e).2 = happening at *
  -- Only three kinds of change touch the stage: an ending, a beginning and a success.
  cases hchange with
  | around | deaf => exact Or.inl rfl
  | quiet | replay | inquire | send => exact Or.inl (by simp [*])
  | reset => exact Or.inr (Or.inl rfl)
  | giveUp | dismiss => exact Or.inr (Or.inl (by simp [*, Suggestion.blank]))
  -- A failure resets the session, like giving up.
  | fail _ _ _ call _ f _ _ _ _ hp =>
    refine Or.inr (Or.inl ?_)
    rw [hp]
    rfl
  | begin _ n t _ effects progress hcomes hmoves hp hwait hitems =>
    refine Or.inr (Or.inr (Or.inl ⟨n, (l.suggester.start l.surroundings t).2, ⟨progress, rfl⟩, ?_⟩))
    rcases hp with hp | hp <;> simp [hp]
  -- The last case is a success; the call that succeeds waits no more.
  | shows n call r since predictions o shown first others _ hwait hmoves hp horigin hnumber
      hcancelled hitems hshown =>
    refine Or.inr (Or.inr (Or.inr ⟨n, o, predictions,
      ⟨rfl, ⟨call, r, since, hwait, hnumber, hcancelled⟩, horigin, ?_⟩, ?_⟩))
    · rintro rfl
      cases hitems
    · intro wait hwaits
      rcases hmoves.waits_iff.mp hwaits with ⟨-, hnone⟩ | ⟨hne, -⟩
      · cases hnone
      · exact hne rfl

/-! ## Sessions of waiting calls -/

/-- A session is not begun twice. -/
theorem Custody.not_begins_again {m : Nat} (h : Custody s es)
    (hpast : (fresh s).Once es (Begins n o)) :
    ¬ Begins m o ((fresh s).after es) e := by
  intro hnow
  have hlt := h.number_lt n o hpast
  have heq := (h.begins_now hnow).1
  omega

/-- A call that has begun a session and waits after an event has waited before. -/
theorem waits_before (hpast : (fresh s).Once es (Begins n o))
    (hwait : ((fresh s).after (es ++ [e])).Waits n wait) (hcall : wait.call? = some call) :
    ∃ wait' call', ((fresh s).after es).Waits n wait' ∧ wait'.call? = some call' := by
  rw [after_concat] at hwait
  rcases waits_step hwait with hold | hnew
  · exact ⟨wait, call, hold, hcall⟩
  cases hnew with
  | feedback => cases hcall
  | opening t _ hcomes hbegins =>
    exact absurd hpast ((custody s es).not_once_begins_of_begins hbegins)
  | request call' _ _ _ hold => exact ⟨_, call', hold, rfl⟩
  | completion call' _ _ _ _ hold => exact ⟨_, call', hold, rfl⟩

/-- While a call waits, and the session that it has begun is the current one, nothing has displayed
    that session; it is idle if it has been ended since, and requesting if not. -/
theorem stage_of_waiting (hbegins : (fresh s).Once es (Begins n o))
    (hwait : ((fresh s).after es).Waits n wait) (hcall : wait.call? = some call)
    (horigin : ((fresh s).after es).suggester.session.origin = some o) :
    ((fresh s).Once es (Discards o) ∧ ((fresh s).after es).suggester.session.stage = .idle) ∨
      (¬ (fresh s).Once es (Discards o) ∧
        ((fresh s).after es).suggester.session.stage = .requesting) := by
  -- Induction over the events, the last one split off: the statement speaks of all that happened so
  -- far, and the calls that wait now have waited before unless they begin now.
  induction es using List.reverseRecOn generalizing wait call with
  | nil => exact absurd hbegins not_once_nil
  | append_singleton es e ih =>
    rcases once_concat.mp hbegins with hpast | hnow
    · obtain ⟨wait', call', hwait', hcall'⟩ := waits_before hpast hwait hcall
      rw [after_concat] at horigin hwait ⊢
      -- The session was the current one before the event, for it is not begun again.
      have hbefore : ((fresh s).after es).suggester.session.origin = some o := by
        rcases step_session ((fresh s).after es) e with ⟨m, o', hnow⟩ | ⟨-, hkept | hnone⟩
        · obtain rfl : o' = o := Option.some.inj (hnow.2.2.symm.trans horigin)
          exact absurd hnow ((custody s es).not_begins_again hpast)
        · exact hkept ▸ horigin
        · rw [hnone] at horigin
          cases horigin
      have hthen := ih hpast hwait' hcall' hbefore
      simp only [once_concat]
      rcases stage_step ((fresh s).after es) e with
        hkept | hidle | ⟨m, o', hnow⟩ | ⟨m, o', predictions, hsucceeds, hover⟩
      · -- The stage is kept, and a session that is ended does not keep it.
        rw [hkept]
        rcases hthen with ⟨honce, hidle⟩ | ⟨hnever, hrequesting⟩
        · exact Or.inl ⟨Or.inl honce, hidle⟩
        · refine Or.inr ⟨?_, hrequesting⟩
          rintro (honce | ⟨-, -, -, hidle⟩)
          · exact hnever honce
          · rw [hkept, hrequesting] at hidle
            cases hidle
      · -- The session is ended, now or again.
        refine Or.inl ⟨?_, hidle⟩
        rcases hthen with ⟨honce, -⟩ | ⟨-, hrequesting⟩
        · exact Or.inl honce
        · exact Or.inr ⟨hbefore, hrequesting, horigin, hidle⟩
      · obtain rfl : o' = o := Option.some.inj (hnow.2.2.symm.trans horigin)
        exact absurd hnow ((custody s es).not_begins_again hpast)
      · -- Only the call of the session succeeds, and then it does not wait any more.
        obtain ⟨-, ⟨call'', r, since, hwait'', hnumber, -⟩, horigin', -⟩ := hsucceeds
        obtain rfl : o' = o := Option.some.inj (horigin'.symm.trans hbefore)
        have hown := begins_of_number_eq hwait'' rfl horigin' hnumber
        obtain rfl := (custody s es).eq_of_number m n o' o' hown hpast rfl
        exact absurd hwait (hover wait)
    -- The session is begun by the last event: it is requesting, and nothing has ended it yet.
    · rw [after_concat] at hwait ⊢
      have hsession := hnow.session_of_waits hwait
      refine Or.inr ⟨?_, by rw [hsession]; rfl⟩
      rw [once_concat]
      rintro (⟨past, e', rest, rfl, hbefore, -⟩ | ⟨-, -, -, hidle⟩)
      · -- What has been ended was begun before, and is not begun again.
        obtain ⟨-, m, hpast⟩ := (custody s past).current o hbefore
        exact (custody s _).not_begins_again (hpast.append _) hnow
      · rw [hsession] at hidle
        cases hidle

/-! ## Displayed though ended -/

/-- After any run, whatever the next event is: it takes the suggester from idle straight to displayed
    exactly if it brings predictions in time for a session that has been ended while its call
    waited, and from requesting to displayed exactly if it brings them for one that has not. -/
theorem displayed_from_idle_iff (s : Surroundings) (past : List Event) (e : Event) :
    let before := ((fresh s).after past).suggester.session
    let after := (((fresh s).after past).step e).1.suggester.session
    (before.stage = .idle ∧ after.stage = .displayed ↔
        ∃ n o predictions, InTime s past e n predictions ∧ predictions ≠ [] ∧
          before.origin = some o ∧ (fresh s).Once past (Discards o)) ∧
      (before.stage = .requesting ∧ after.stage = .displayed ↔
        ∃ n o predictions, InTime s past e n predictions ∧ predictions ≠ [] ∧
          before.origin = some o ∧ ¬ (fresh s).Once past (Discards o)) := by
  intro before after
  -- A response in time meets a session whose stage tells whether it has been ended.
  have hstage : ∀ {n o predictions}, InTime s past e n predictions → before.origin = some o →
      ((fresh s).Once past (Discards o) ∧ before.stage = .idle) ∨
        (¬ (fresh s).Once past (Discards o) ∧ before.stage = .requesting) := by
    intro n o predictions hintime horigin
    obtain ⟨-, ⟨call, r, since, hwait⟩, ⟨o', hbegins, horigin'⟩, -⟩ := hintime
    obtain rfl : o' = o := Option.some.inj (horigin'.symm.trans horigin)
    exact stage_of_waiting hbegins hwait rfl horigin
  -- A response in time with predictions displays its session.
  have hshown : ∀ {n predictions}, InTime s past e n predictions → predictions ≠ [] →
      after.stage = .displayed := by
    intro n predictions hintime hsome
    obtain ⟨-, -, -, -, -, hdisplayed, -⟩ := hintime.displayed hsome
    simpa [Suggestion.isDisplayed] using hdisplayed
  -- And nothing else displays a session, unless one is displayed already.
  have hintime : after.stage = .displayed → before.stage ≠ .displayed →
      ∃ n o predictions, InTime s past e n predictions ∧ predictions ≠ [] ∧
        before.origin = some o := by
    intro hdisplayed hnot
    obtain ⟨n, predictions, hintime, hsome⟩ :=
      inTime_of_displayed (by simpa [Suggestion.isDisplayed] using hdisplayed)
        fun hsame => hnot ((congrArg Suggestion.stage hsame).symm.trans hdisplayed)
    obtain ⟨o, -, horigin⟩ := hintime.own
    exact ⟨n, o, predictions, hintime, hsome, horigin⟩
  -- Both parts differ only in which side of `hstage` they meet.
  constructor
  · constructor
    · rintro ⟨hidle, hdisplayed⟩
      obtain ⟨n, o, predictions, h, hsome, horigin⟩ := hintime hdisplayed (by simp [hidle])
      rcases hstage h horigin with ⟨honce, -⟩ | ⟨-, hrequesting⟩
      · exact ⟨n, o, predictions, h, hsome, horigin, honce⟩
      · rw [hidle] at hrequesting
        cases hrequesting
    · rintro ⟨n, o, predictions, h, hsome, horigin, honce⟩
      rcases hstage h horigin with ⟨-, hidle⟩ | ⟨hnever, -⟩
      · exact ⟨hidle, hshown h hsome⟩
      · exact absurd honce hnever
  · constructor
    · rintro ⟨hrequesting, hdisplayed⟩
      obtain ⟨n, o, predictions, h, hsome, horigin⟩ := hintime hdisplayed (by simp [hrequesting])
      rcases hstage h horigin with ⟨-, hidle⟩ | ⟨hnever, -⟩
      · rw [hrequesting] at hidle
        cases hidle
      · exact ⟨n, o, predictions, h, hsome, horigin, hnever⟩
    · rintro ⟨n, o, predictions, h, hsome, horigin, hnever⟩
      rcases hstage h horigin with ⟨honce, -⟩ | ⟨-, hrequesting⟩
      · exact absurd honce hnever
      · exact ⟨hrequesting, hshown h hsome⟩

/-- A session that is reset while its call waits displays the answer all the same. -/
theorem reset_then_displayed :
    let past : List Event := [.trigger Sample.trigger, .resume 0 (.entitlement (.ok false)),
      .resume 0 (.request (.ok (Sample.request (Sample.call .fresh) Sample.id)))]
    let requesting := (fresh Sample.surroundings).after past
    let before := (fresh Sample.surroundings).after (past ++ [.reset])
    let after := (before.step (.resume 0 (.completion (.ok [['y']])))).1
    requesting.suggester.session.stage = .requesting ∧
      before.suggester.session.stage = .idle ∧
      after.suggester.session.stage = .displayed ∧ after.suggester.session.items = [['y']] := by
  intro past requesting before after
  have hsent : requesting = Sample.sent := Sample.after_sent
  have hbefore : before = (Sample.sent.step .reset).1 := by
    -- the reset is the last event of the second run, and what comes before it is the first
    rw [← Sample.after_sent]
    exact after_concat
  simp only [after, hbefore, hsent]
  exact ⟨rfl, rfl, rfl, rfl⟩

end Lifecycle

end PlaybookAssist
