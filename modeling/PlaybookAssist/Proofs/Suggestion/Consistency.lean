import PlaybookAssist.Proofs.Suggestion.Discard

/-!
# What a displayed session has

What is displayed is spread over several fields: the texts, the first of them, where and when they
were shown, and the pair that is handed on. Sessions are replaced, ended and left behind by calls
that still hold them, and the fields agree after every run all the same: a displayed session lacks
nothing, and a session that is not displayed keeps no text.

## Main definitions

- `Suggester.Displays` : everything that goes with a displayed text is recorded
- `Suggester.Consistent` : what is displayed is complete, and what is not displayed is empty

## Main statements

- `Lifecycle.error_of_waits` : nothing has gone wrong with the session of a call that still waits
- `Lifecycle.consistent` : every run leaves the suggester consistent
- `Lifecycle.displayed_exactly_as_returned` : what is displayed, and what a call alone returns
-/

namespace PlaybookAssist

/-- The session `o` is displayed with `record.first` and the other texts; where and when they were
    shown is recorded, nothing has gone wrong, and the first text is handed on under the id of the
    session. -/
structure Suggester.Displays (p : Suggester) (o : Origin) (record : Shown) (others : List Text) :
    Prop where
  origin : p.session.origin = some o
  shown : p.session.shown = some record
  items : p.session.items = record.first :: others
  error : p.session.error = none
  details : p.details = some (o.suggestionId, record.first)

/-- What is displayed is complete, and what is not displayed keeps no text. -/
structure Suggester.Consistent (p : Suggester) : Prop where
  displays : p.session.isDisplayed = true → ∃ o shown others, p.Displays o shown others
  hides : p.session.isDisplayed = false → p.session.items = []

theorem Suggester.Consistent.of_hidden {p : Suggester} (hidle : p.session.isDisplayed = false)
    (hitems : p.session.items = []) : p.Consistent where
  displays hdisplayed := by
    rw [hidle] at hdisplayed
    cases hdisplayed
  hides _ := hitems

namespace Lifecycle

variable {s : Surroundings} {l : Lifecycle} {e : Event} {es past : List Event} {n : Nat}
  {o : Origin} {wait : Wait} {call : Pending} {t : Trigger}

/-! ## What has gone wrong -/

/-- After an event nothing is recorded to have gone wrong with the session, or what was recorded
    before, or the call of the session has failed and is over. -/
theorem step_error (l : Lifecycle) (e : Event) :
    (l.step e).1.suggester.session.error = none ∨
      ((l.step e).1.suggester.session.error = l.suggester.session.error ∧
        (l.step e).1.suggester.session.origin = l.suggester.session.origin) ∨
      ∃ n wait call o, l.Waits n wait ∧ wait.call? = some call ∧
        l.suggester.session.origin = some o ∧ o.number = call.number ∧
        (l.step e).1.suggester.session.origin = some o ∧
        ∀ wait', ¬ (l.step e).1.Waits n wait' := by
  have hchange := l.step_change e
  generalize (l.step e).1 = l' at *
  generalize (l.step e).2 = happening at *
  cases hchange with
  -- Most changes leave the error and the origin; a new beginning clears the error, and only a
  -- failure records one.
  | around | deaf => exact Or.inr (Or.inl ⟨rfl, rfl⟩)
  | reset => exact Or.inr (Or.inl ⟨rfl, rfl⟩)
  | quiet | replay | inquire | send => exact Or.inr (Or.inl (by simp [*]))
  | giveUp _ n _ effects hmoves hp =>
    refine Or.inr (Or.inl ?_)
    rw [hp]
    exact ⟨rfl, rfl⟩
  | shows n call r since predictions o shown first others _ hwait hmoves hp =>
    refine Or.inr (Or.inl ?_)
    rw [hp]
    exact ⟨rfl, rfl⟩
  -- An ending and a beginning both start from a session without an error.
  | dismiss _ action ending next _ effects hends hmoves hp =>
    refine Or.inl ?_
    rw [hp]
    rfl
  | begin _ n t _ effects progress hcomes hmoves hp hwait hitems =>
    refine Or.inl ?_
    rcases hp with hp | hp <;> rw [hp] <;> rfl
  | fail n _ wait call answer f effects hwait hcall hmoves hp =>
    have horigin : l'.suggester.session.origin = l.suggester.session.origin := by simp [hp]
    -- The reason is recorded only where the session is the one that the call remembers.
    cases hnumber : l.suggester.session.isNumber call.number with
    | false =>
      refine Or.inr (Or.inl ⟨?_, horigin⟩)
      rw [hp]
      simp [Suggester.fail, Suggester.giveUp, hnumber, Suggestion.ended]
    | true =>
      obtain ⟨o, ho, heq⟩ := (Option.any_eq_true _ _).mp hnumber
      refine Or.inr (Or.inr ⟨n, wait, call, o, hwait, hcall, ho, by simpa using heq,
        -- The call that failed waits no more.
        horigin.trans ho, ?_⟩)
      intro wait' hwait'
      rcases hmoves.waits_iff.mp hwait' with ⟨-, hnone⟩ | ⟨hne, -⟩
      · cases hnone
      · exact hne rfl

/-- While a call waits, nothing has gone wrong with the session that it remembers. -/
theorem error_of_waits (hwait : ((fresh s).after es).Waits n wait) (hcall : wait.call? = some call)
    (horigin : ((fresh s).after es).suggester.session.origin = some o)
    (hnumber : o.number = call.number) :
    ((fresh s).after es).suggester.session.error = none := by
  -- Induction over the events: a call that waits has waited before or begins to, and an error could
  -- only come from the call itself, which would have ended it.
  induction es using List.reverseRecOn generalizing wait call with
  | nil => simp [Waits, fresh] at hwait
  | append_singleton es e ih =>
    have hown := begins_of_number_eq hwait hcall horigin hnumber
    rw [after_concat] at hwait horigin ⊢
    rcases step_error ((fresh s).after es) e with
      hnone | ⟨herror, hkept⟩ | ⟨m, wait', call', o', hwait', hcall', ho', hnumber', hafter, hover⟩
    · exact hnone
    · -- The call has waited for the same session before, or it has begun the session just now.
      rw [hkept] at horigin
      rcases waits_step hwait with hold | hnew
      · exact herror.trans (ih hold hcall horigin hnumber)
      -- A call that goes on has waited before; one that begins has begun the session.
      · cases hnew with
        | feedback => cases hcall
        | opening t _ hcomes hbegins =>
          rw [hbegins.session_of_waits hwait]
          rfl
        | request call' _ inquiry _ hold =>
          cases hcall
          exact herror.trans (ih hold rfl horigin hnumber)
        | completion call' inquiry since r _ hold =>
          cases hcall
          exact herror.trans (ih hold rfl horigin hnumber)
    · -- The call that has failed is the one that began the session, and it waits no more.
      obtain rfl : o' = o := Option.some.inj (hafter.symm.trans horigin)
      have hfailed := (begins_of_number_eq hwait' hcall' ho' hnumber').append [e]
      obtain rfl := (custody s (es ++ [e])).eq_of_number n m o' o' hown hfailed rfl
      exact absurd hwait (hover wait)

/-! ## Every run is consistent -/

theorem consistent_step (h : ((fresh s).after es).suggester.Consistent) (e : Event) :
    (((fresh s).after es).step e).1.suggester.Consistent := by
  have hchange := ((fresh s).after es).step_change e
  generalize (((fresh s).after es).step e).1 = l' at *
  generalize (((fresh s).after es).step e).2 = happening at *
  cases hchange with
  | around | deaf => exact h
  | quiet _ _ _ _ _ _ hp | replay _ _ _ _ hp | inquire _ _ _ _ _ _ _ hp
  | send _ _ _ _ _ _ _ _ hp => exact hp ▸ h
  -- Whatever ends a session takes its texts away.
  | reset => exact .of_hidden rfl rfl
  | giveUp _ _ _ _ _ hp => exact hp ▸ .of_hidden rfl rfl
  | fail _ _ _ _ _ _ _ _ _ _ hp => exact hp ▸ .of_hidden rfl rfl
  | dismiss _ _ _ _ _ _ _ _ hp => exact hp ▸ .of_hidden rfl rfl
  | begin _ _ _ _ _ _ _ _ hp => rcases hp with hp | hp <;> exact hp ▸ .of_hidden rfl rfl
  -- What is displayed is read off the response, and the error is one that a waiting call lacks.
  | shows n call r since predictions o shown first others _ hwait hmoves hp horigin hnumber
      hcancelled hitems hshown =>
    rw [hp]
    refine ⟨fun _ => ⟨o, shown, others, ⟨horigin, rfl, ?_, ?_, ?_⟩⟩, fun hidle => ?_⟩
    · rw [hshown]
      rfl
    · exact error_of_waits hwait rfl horigin hnumber
    · rfl
    · cases hidle

/-- Every run leaves the suggester consistent. -/
theorem consistent (s : Surroundings) (es : List Event) :
    ((fresh s).after es).suggester.Consistent := by
  induction es using List.reverseRecOn with
  | nil => exact .of_hidden rfl rfl
  | append_singleton es e ih =>
    rw [after_concat]
    exact consistent_step ih e

/-! ## A call alone -/

/-- What a call returns is what is displayed once it has returned. -/
def ReturnsDisplayed (n : Nat) (l : Lifecycle) (e : Event) : Prop :=
  ∀ items, (l.step e).2.call = some (n, .finished items) →
    ((l.step e).1.suggester.session.isDisplayed = true ↔ items ≠ []) ∧
      (items ≠ [] → items = (l.step e).1.suggester.session.items)

/-- Nothing is displayed while the call waits. -/
def WaitsHidden (n : Nat) (l : Lifecycle) : Prop :=
  ∀ wait, l.Waits n wait → l.suggester.session.isDisplayed = false

theorem ReturnsDisplayed.of_hidden (hidle : (l.step e).1.suggester.session.isDisplayed = false)
    (hitems : ∀ items, (l.step e).2.call = some (n, .finished items) → items = []) :
    ReturnsDisplayed n l e := by
  intro items hcall
  obtain rfl := hitems items hcall
  simp [hidle]

/-- A call that begins finds texts on display and returns them, or displays nothing. -/
theorem opening_alone (hl : l.suggester.Consistent) (hopens : e = .trigger t ∨ e = .ask t) :
    ReturnsDisplayed l.calls.length l e ∧ WaitsHidden l.calls.length (l.step e).1 := by
  -- A call that asks displays nothing and returns nothing, whatever comes of the asking.
  have hask {st : Stretch} {l' : Lifecycle} {happening : Happening}
      (hst : Suggester.AskResult l.surroundings t l.suggester st) (hp : l'.suggester = st.1)
      (hhappening : happening.call = some (l.calls.length, st.2.2)) :
      l'.suggester.session.isDisplayed = false ∧
        ∀ items, happening.call = some (l.calls.length, .finished items) → items = [] := by
    rw [hp, hhappening]
    cases hst <;> simp
  rcases hopens with rfl | rfl
  · have hresult := Suggester.trigger_result l.surroundings t l.suggester
    have hp : (l.step (.trigger t)).1.suggester = (l.suggester.trigger l.surroundings t).1 := rfl
    have hhappening : (l.step (.trigger t)).2.call =
        some (l.calls.length, (l.suggester.trigger l.surroundings t).2.2) := rfl
    have hwaits (wait : Wait) (hwait : (l.step (.trigger t)).1.Waits l.calls.length wait) :
        (l.suggester.trigger l.surroundings t).2.2.wait? = some wait := by
      rcases waits_beginCall hwait with hold | ⟨-, hnew⟩
      · exact absurd hold.lt_length (Nat.lt_irrefl _)
      · exact hnew
    generalize l.suggester.trigger l.surroundings t = st at *
    -- Of a trigger only the replay returns anything, and that is what is displayed.
    cases hresult with
    | refused effects =>
      have hidle : (l.step (.trigger t)).1.suggester.session.isDisplayed = false := by simp [hp]
      exact ⟨.of_hidden hidle (by simp [hhappening]), fun _ _ => hidle⟩
    | replayed shown hshown hdisplayed hposition =>
      obtain ⟨o, shown, others, hdisplays⟩ := hl.displays hdisplayed
      refine ⟨fun items hcall => ?_, fun wait hwait => by cases hwaits wait hwait⟩
      obtain rfl : l.suggester.session.items = items := by simpa [hhappening] using hcall
      simp [hp, hdisplayed, hdisplays.items]
    | superseding hdisplayed hposition =>
      have hidle : (l.step (.trigger t)).1.suggester.session.isDisplayed = false := by simp [hp]
      exact ⟨.of_hidden hidle (by simp [hhappening]), fun _ _ => hidle⟩
    | asked _ hidle hst =>
      obtain ⟨hafter, hitems⟩ := hask hst hp hhappening
      exact ⟨.of_hidden hafter hitems, fun _ _ => hafter⟩
  · obtain ⟨hafter, hitems⟩ := @hask _ (l.step (.ask t)).1 (l.step (.ask t)).2
      (Suggester.ask_result l.surroundings t l.suggester) rfl rfl
    exact ⟨.of_hidden hafter hitems, fun _ _ => hafter⟩

/-- A call that goes on alone displays what it returns, or nothing is displayed. -/
theorem onlyCall_alone (honly : e.OnlyCall n) (hhidden : WaitsHidden n l) :
    ReturnsDisplayed n l e ∧ WaitsHidden n (l.step e).1 := by
  -- Either the event resumes the call, or nothing happens to the session and its calls.
  rcases step_onlyCall (l := l) honly with ⟨wait, answer, rfl, hwait⟩ | ⟨hp, hcalls, hnothing⟩
  case inr =>
    refine ⟨fun items hcall => ?_, fun wait hwait => ?_⟩
    · rw [hnothing] at hcall
      cases hcall
    · rw [Waits, hcalls] at hwait
      exact hp ▸ hhidden wait hwait
  have hidle := hhidden wait hwait
  have hchange := l.step_change (.resume n answer)
  unfold ReturnsDisplayed WaitsHidden
  generalize (l.step (.resume n answer)).1 = l' at *
  generalize (l.step (.resume n answer)).2 = happening at *
  -- A resumed call that ends with items has displayed them; every other outcome hides.
  cases hchange with
  | around => exact ⟨by simp, fun _ _ => hidle⟩
  | deaf => exact ⟨by simp, fun _ _ => hidle⟩
  | quiet _ m _ effects progress hmoves hp hprogress =>
    rcases hprogress with rfl | ⟨f, rfl⟩ <;> simp [hp, hidle]
  | inquire | send => simp_all
  | giveUp _ m _ effects hmoves hp => simp [hp]
  | fail m _ wait call answer f effects hwait hcall hmoves hp => simp [hp]
  | begin _ m t _ effects progress hcomes hmoves hp hwait hitems =>
    have hafter : l'.suggester.session.isDisplayed = false := by
      rcases hp with hp | hp <;> simp [hp]
    refine ⟨fun items hcall => ?_, fun _ _ => hafter⟩
    obtain rfl := hitems items (by simp_all)
    simp [hafter]
  -- Nobody but a user dismisses a session, and here only the call acts.
  | dismiss _ action ending next _ effects hends => cases hends
  | shows m call r since predictions o shown first others _ hwait hmoves hp =>
    refine ⟨fun items hcall => ?_, fun wait' hwait' => ?_⟩
    · obtain rfl : first :: others = items := by simpa using hcall
      simp [hp, Suggester.display, Suggestion.displaying, Suggestion.isDisplayed]
    -- The call that displays does not wait any more.
    · rcases hmoves.waits_iff.mp hwait' with ⟨-, hnone⟩ | ⟨hne, -⟩
      · cases hnone
      · exact absurd rfl hne

theorem returnsDisplayed_after (honly : ∀ e ∈ es, e.OnlyCall n) (hhidden : WaitsHidden n l) :
    l.Always es (ReturnsDisplayed n) := by
  induction es generalizing l with
  | nil => exact always_nil
  | cons e es ih =>
    rw [List.forall_mem_cons] at honly
    obtain ⟨hreturns, hwaits⟩ := onlyCall_alone honly.1 hhidden
    exact always_cons.mpr ⟨hreturns, ih honly.2 hwaits⟩

/-! ## What is displayed -/

/-- After every run: a displayed session has at least one text, of which the first is recorded with
    the place of the trigger, the time of the display and the latency; nothing has gone wrong with
    it; and what is handed on is exactly its id with that first text. A session that is not
    displayed has no text. And if a call for a suggestion begins after the run and goes on alone to
    its end, then a suggestion is displayed exactly if the call returns any text, and what it
    returns are the texts of the session. -/
theorem displayed_exactly_as_returned (s : Surroundings) (past : List Event) :
    let l := (fresh s).after past
    let p := l.suggester
    (p.session.isDisplayed = true → ∃ o shown others, p.Displays o shown others) ∧
      (p.session.isDisplayed = false → p.session.items = []) ∧
      ∀ t e es, e = .trigger t ∨ e = .ask t → (∀ e' ∈ es, e'.OnlyCall l.calls.length) →
        l.Always (e :: es) fun l' e' => ∀ items,
          (l'.step e').2.call = some (l.calls.length, .finished items) →
          ((l'.step e').1.suggester.session.isDisplayed = true ↔ items ≠ []) ∧
            (items ≠ [] → items = (l'.step e').1.suggester.session.items) := by
  intro l p
  have hconsistent := consistent s past
  refine ⟨hconsistent.displays, hconsistent.hides, ?_⟩
  intro t e es hopens honly
  obtain ⟨hreturns, hwaits⟩ := opening_alone hconsistent hopens
  exact always_cons.mpr ⟨hreturns, returnsDisplayed_after honly hwaits⟩

/-- The only prediction for a call that nothing disturbs is returned, displayed and handed on. -/
theorem displayed_undisturbed :
    let past : List Event := [.trigger Sample.trigger, .resume 0 (.entitlement (.ok false)),
      .resume 0 (.request (.ok (Sample.request (Sample.call .fresh) Sample.id)))]
    let e : Event := .resume 0 (.completion (.ok [['y']]))
    (((fresh Sample.surroundings).after past).step e).2.call = some (0, .finished [['y']]) ∧
      ((fresh Sample.surroundings).after (past ++ [e])).suggester.session.isDisplayed = true ∧
      ((fresh Sample.surroundings).after (past ++ [e])).suggester.session.items = [['y']] ∧
      ∃ o record, ((fresh Sample.surroundings).after (past ++ [e])).suggester.Displays o record
        [] := by
  intro past e
  have hcall : (Sample.sent.step e).2.call = some (0, .finished [['y']]) := rfl
  obtain ⟨-, -, halone⟩ := displayed_exactly_as_returned Sample.surroundings []
  have hreturns : ReturnsDisplayed 0 ((fresh Sample.surroundings).after past) e := by
    rw [after_nil] at halone
    have hgoesOn := halone Sample.trigger (.trigger Sample.trigger)
      [.resume 0 (.entitlement (.ok false)),
        .resume 0 (.request (.ok (Sample.request (Sample.call .fresh) Sample.id))), e]
      (Or.inl rfl)
    -- The three answers of the call are all resumptions of it.
    have hreturns := hgoesOn (by
      intro e' he'
      simp only [List.mem_cons, List.not_mem_nil, or_false] at he'
      rcases he' with rfl | rfl | rfl <;> rfl)
    exact hreturns past e [] rfl
  rw [Sample.after_sent] at hreturns ⊢
  obtain ⟨hdisplayed, hitems⟩ := hreturns _ hcall
  obtain ⟨hdisplays, -⟩ := displayed_exactly_as_returned Sample.surroundings (past ++ [e])
  have hafter : (fresh Sample.surroundings).after (past ++ [e]) = Sample.shown :=
    Sample.after_shown
  rw [hafter] at hdisplays ⊢
  have hshown : Sample.shown.suggester.session.isDisplayed = true := hdisplayed.mpr (by simp)
  have hreturned : [['y']] = Sample.shown.suggester.session.items := hitems (by simp)
  obtain ⟨o, record, others, hrecord⟩ := hdisplays hshown
  -- The texts of the session are the one that is returned, so no other follows the first.
  obtain rfl : others = [] := by
    have hall := hreturned.trans hrecord.items
    simp at hall
    exact hall.2
  exact ⟨hcall, hshown, hreturned.symm, o, record, hrecord⟩

end Lifecycle

end PlaybookAssist
