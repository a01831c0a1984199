import PlaybookAssist.Proofs.Suggestion.Stretch
import PlaybookAssist.Suggestion.Lifecycle

/-!
# What an event can do

An event either concerns no call, or one call goes on by a stretch. `Change` lists what becomes of
the session and of the wait of that call; `step_change` says that the list is complete. An invariant
of a lifecycle is shown by one case analysis of `Change`.

## Main definitions

- `Wait.call?` : what a call remembers while it waits
- `Lifecycle.Waits` : the wait of a call
- `Lifecycle.MovesOn` : one call goes on and no other one does
- `Lifecycle.Comes` : a call comes to ask for a suggestion
- `Lifecycle.Ends` : the user ends what is shown
- `Lifecycle.Change` : what an event can do

## Main statements

- `Lifecycle.step_change`
-/

namespace PlaybookAssist

/-- What a call remembers while it waits, once it has a session. -/
def Wait.call? : Wait → Option Pending
  | .feedback _ _ => none
  | .entitlement call | .request call _ _ | .completion call _ _ => some call

namespace Lifecycle

variable {l l' : Lifecycle} {e : Event} {n m : Nat} {w : Option Wait}

/-! ## Calls -/

/-- The call of the given number waits. -/
def Waits (l : Lifecycle) (n : Nat) (wait : Wait) : Prop :=
  l.calls[n]? = some (some wait)

/-- Call `n` goes on until it waits for `w`, or is over. No other call does anything, and nothing
    around the calls changes. -/
structure MovesOn (l l' : Lifecycle) (n : Nat) (w : Option Wait) : Prop where
  surroundings : l'.surroundings = l.surroundings
  known : n ≤ l.calls.length
  here : l'.calls[n]? = some w
  elsewhere : ∀ m, m ≠ n → l'.calls[m]? = l.calls[m]?

theorem Waits.lt_length {wait : Wait} (h : l.Waits n wait) : n < l.calls.length :=
  (List.getElem?_eq_some_iff.mp h).1

theorem Waits.unique {wait wait' : Wait} (h : l.Waits n wait) (h' : l.Waits n wait') :
    wait = wait' := by
  rw [Waits, h] at h'
  simpa using h'

theorem MovesOn.waits_iff (h : l.MovesOn l' n w) {wait : Wait} :
    l'.Waits m wait ↔ (m = n ∧ w = some wait) ∨ (m ≠ n ∧ l.Waits m wait) := by
  by_cases hm : m = n
  · subst hm
    simp [Waits, h.here]
  · simp [Waits, h.elsewhere m hm, hm]

theorem MovesOn.length_le (h : l.MovesOn l' n w) : l.calls.length ≤ l'.calls.length := by
  rcases Nat.lt_or_ge l'.calls.length l.calls.length with hlt | hle
  · -- The first call that is missing would be `n` itself, or one that did not go on.
    exfalso
    have hnone : l'.calls[l'.calls.length]? = none := List.getElem?_eq_none (Nat.le_refl _)
    by_cases hn : l'.calls.length = n
    · rw [hn, h.here] at hnone
      cases hnone
    · rw [h.elsewhere _ hn, List.getElem?_eq_none_iff] at hnone
      omega
  · exact hle

theorem MovesOn.lt_length (h : l.MovesOn l' n w) : n < l'.calls.length :=
  (List.getElem?_eq_some_iff.mp h.here).1

/-- A call begins with a stretch. -/
theorem movesOn_begin (l : Lifecycle) (p : Suggester) (w : Option Wait) :
    l.MovesOn { l with suggester := p, calls := l.calls ++ [w] } l.calls.length w where
  surroundings := rfl
  known := Nat.le_refl _
  here := by simp
  elsewhere m hm := by
    rcases Nat.lt_or_gt_of_ne hm with hlt | hgt
    · simp [List.getElem?_append_left hlt]
    · have hlen : (l.calls ++ [w]).length ≤ m := by
        simp only [List.length_append, List.length_singleton]
        omega
      simp only [List.getElem?_eq_none hlen, List.getElem?_eq_none (Nat.le_of_lt hgt)]

/-- A call goes on with a stretch. -/
theorem movesOn_resume {wait : Wait} (h : l.Waits n wait) (p : Suggester) (w : Option Wait) :
    l.MovesOn { l with suggester := p, calls := l.calls.set n w } n w where
  surroundings := rfl
  known := Nat.le_of_lt h.lt_length
  here := by simp [List.getElem?_set_self h.lt_length]
  elsewhere m hm := by simp [List.getElem?_set_ne (Ne.symm hm)]

theorem step_resume {wait : Wait} (h : l.Waits n wait) (answer : Answer) :
    l.step (.resume n answer) =
      ({ l with
          suggester := (l.suggester.resume l.surroundings wait answer).1
          calls := l.calls.set n (l.suggester.resume l.surroundings wait answer).2.2.wait? },
        ⟨(l.suggester.resume l.surroundings wait answer).2.1,
          some (n, (l.suggester.resume l.surroundings wait answer).2.2)⟩) := by
  have hcalls : l.calls[n]? = some (some wait) := h
  simp only [step, hcalls]

/-- The stretch that the answer to a request leads to. -/
theorem step_completion {call : Pending} {r : CompletionRequest} {since : Float}
    (h : l.Waits n (.completion call r since)) (result : Except Failure (List Text)) :
    ∃ st, Suggester.CompletionResult l.surroundings call since l.suggester result st ∧
      (l.step (.resume n (.completion result))).1.suggester = st.1 ∧
      (l.step (.resume n (.completion result))).2 = ⟨st.2.1, some (n, st.2.2)⟩ := by
  rw [step_resume h]
  exact ⟨_, Suggester.afterCompletion_result l.surroundings call since result l.suggester, rfl, rfl⟩

/-! ## Events -/

/-- The call comes to ask for a suggestion: it begins with that, or it goes on with its trigger after
    a report. -/
inductive Comes (l : Lifecycle) : Event → Nat → Trigger → Prop where
  | trigger (t : Trigger) : Comes l (.trigger t) l.calls.length t
  | ask (t : Trigger) : Comes l (.ask t) l.calls.length t
  | resume (n : Nat) (report : Feedback) (t : Trigger) (result : Except Failure Unit)
      (hwait : l.Waits n (.feedback report (some t))) : Comes l (.resume n (.feedback result)) n t

/-- The user ends what is shown, and what that says of the suggestion. Asking at another place is to
    ignore what is shown. -/
inductive Ends (l : Lifecycle) : Event → UserAction → Option Trigger → Prop where
  | accept : Ends l .accept .accept none
  | hide : Ends l .hide .ignore none
  | trigger (t : Trigger)
      (hposition : ∀ shown, l.suggester.session.shown = some shown → shown.position ≠ t.position) :
      Ends l (.trigger t) .ignore (some t)

/-- What a call waits for that has just begun the session `o` for `t`. -/
inductive Opening (t : Trigger) (o : Origin) : Wait → Prop where
  | entitlement (call : Pending) (hcall : call.Serves t o) : Opening t o (.entitlement call)
  | request (call : Pending) (inquiry : Inquiry) (since : Float) (hcall : call.Serves t o)
      (hid : inquiry.suggestionId = o.suggestionId) : Opening t o (.request call inquiry since)

theorem Opening.serves {t : Trigger} {o : Origin} {wait : Wait} {call : Pending}
    (h : Opening t o wait) (hcall : wait.call? = some call) : call.Serves t o := by
  cases h <;> cases hcall <;> assumption

theorem Opening.rank_pos {t : Trigger} {o : Origin} {wait : Wait} (h : Opening t o wait) :
    0 < wait.rank := by
  cases h <;> simp [Wait.rank]

/-- What an event does: to the lifecycle, and to the call that it is about. -/
inductive Change (l : Lifecycle) : Event → Lifecycle → Happening → Prop where
  /-- No call goes on, and the session stays as it is. -/
  | around (e : Event) (s : Surroundings) (hids : s.ids = l.surroundings.ids) :
      Change l e { l with surroundings := s } ⟨[], none⟩
  /-- The session ends, and no call goes on. -/
  | reset :
      Change l .reset { l with suggester := l.suggester.reset } ⟨[], none⟩
  /-- A call gets an answer to something else than it waits for. -/
  | deaf (n : Nat) (wait : Wait) (answer : Answer) (hwait : l.Waits n wait) :
      Change l (.resume n answer) l ⟨[], some (n, .waiting wait)⟩
  /-- A call is over without touching the session. -/
  | quiet (e : Event) (n : Nat) (l' : Lifecycle) (effects : List Effect) (progress : Progress)
      (hmoves : l.MovesOn l' n none) (hp : l'.suggester = l.suggester)
      (hprogress : progress = .finished [] ∨ ∃ f, progress = .failed f) :
      Change l e l' ⟨effects, some (n, progress)⟩
  /-- What is shown is shown again. -/
  | replay (t : Trigger) (l' : Lifecycle) (shown : Shown)
      (hmoves : l.MovesOn l' l.calls.length none) (hp : l'.suggester = l.suggester)
      (hdisplayed : l.suggester.session.isDisplayed = true)
      (hshown : l.suggester.session.shown = some shown) (hposition : shown.position = t.position) :
      Change l (.trigger t) l' ⟨[], some (l.calls.length, .finished l.suggester.session.items)⟩
  /-- A call is over, and so is whatever session there is. -/
  | giveUp (e : Event) (n : Nat) (l' : Lifecycle) (effects : List Effect)
      (hmoves : l.MovesOn l' n none) (hp : l'.suggester = l.suggester.reset) :
      Change l e l' ⟨effects, some (n, .finished [])⟩
  /-- A call fails, and whatever session there is ends. -/
  | fail (n : Nat) (l' : Lifecycle) (wait : Wait) (call : Pending) (answer : Answer) (f : Failure)
      (effects : List Effect) (hwait : l.Waits n wait) (hcall : wait.call? = some call)
      (hmoves : l.MovesOn l' n none) (hp : l'.suggester = (l.suggester.fail call f).1) :
      Change l (.resume n answer) l' ⟨effects, some (n, .finished [])⟩
  /-- A call begins a session for its trigger. -/
  | begin (e : Event) (n : Nat) (t : Trigger) (l' : Lifecycle) (effects : List Effect)
      (progress : Progress) (hcomes : l.Comes e n t) (hmoves : l.MovesOn l' n progress.wait?)
      (hp : l'.suggester = (l.suggester.start l.surroundings t).1 ∨
        l'.suggester = (l.suggester.start l.surroundings t).1.reset)
      (hwait : ∀ wait, progress.wait? = some wait →
        Opening t (l.suggester.start l.surroundings t).2 wait)
      (hitems : ∀ items, progress = .finished items → items = []) :
      Change l e l' ⟨effects, some (n, progress)⟩
  /-- The user ends what is shown, and a call waits for the report to be taken. -/
  | dismiss (e : Event) (action : UserAction) (ending : Ending) (next : Option Trigger)
      (l' : Lifecycle) (effects : List Effect) (hends : l.Ends e action next)
      (hmoves : l.MovesOn l' l.calls.length
        (some (.feedback (l.suggester.session.report action l.surroundings.now) next)))
      (hp : l'.suggester = (l.suggester.dismiss l.surroundings action ending).1)
      (hdisplayed : l.suggester.session.isDisplayed = true) :
      Change l e l' ⟨effects, some (l.calls.length,
        .waiting (.feedback (l.suggester.session.report action l.surroundings.now) next))⟩
  /-- A call asks for its request, under the id that the session has. -/
  | inquire (n : Nat) (call : Pending) (entitled : Bool) (inquiry : Inquiry) (l' : Lifecycle)
      (hwait : l.Waits n (.entitlement call))
      (hmoves : l.MovesOn l' n (some (.request call inquiry l.surroundings.now)))
      (hp : l'.suggester = l.suggester)
      (hid : inquiry.suggestionId = l.suggester.session.id) :
      Change l (.resume n (.entitlement (.ok entitled))) l'
        ⟨[], some (n, .waiting (.request call inquiry l.surroundings.now))⟩
  /-- A call sends its request. -/
  | send (n : Nat) (call : Pending) (inquiry : Inquiry) (since : Float) (r : CompletionRequest)
      (l' : Lifecycle) (hwait : l.Waits n (.request call inquiry since))
      (hmoves : l.MovesOn l' n (some (.completion call r since)))
      (hp : l'.suggester = l.suggester) :
      Change l (.resume n (.request (.ok r))) l'
        ⟨[], some (n, .waiting (.completion call r since))⟩
  /-- A call shows the predictions for its own session. -/
  | shows (n : Nat) (call : Pending) (r : CompletionRequest) (since : Float)
      (predictions : List Text) (o : Origin) (shown : Shown) (first : Text) (others : List Text)
      (l' : Lifecycle) (hwait : l.Waits n (.completion call r since))
      (hmoves : l.MovesOn l' n none)
      (hp : l'.suggester = l.suggester.display o shown (first :: others))
      (horigin : l.suggester.session.origin = some o) (hnumber : o.number = call.number)
      (hcancelled : l.surroundings.isCancelled call.trigger = false)
      (hitems : (predictions.map fun t => Text.reindent t call.trigger.position.character)
        = first :: others)
      (hshown : shown = ⟨(l.surroundings.now - since) * 1000, call.trigger.position,
        l.surroundings.now, first⟩) :
      Change l (.resume n (.completion (.ok predictions))) l'
        ⟨[], some (n, .finished (first :: others))⟩

/-! ## The list is complete -/

/-- A stretch that asks for a suggestion either begins no session, or begins one. -/
theorem change_of_askResult {t : Trigger} {st : Stretch}
    (hask : Suggester.AskResult l.surroundings t l.suggester st) (hcomes : l.Comes e n t)
    (hmoves : l.MovesOn l' n st.2.2.wait?) (hp : l'.suggester = st.1) :
    l.Change e l' ⟨st.2.1, some (n, st.2.2)⟩ := by
  -- One outcome of asking for each change: giving up, or beginning with the wait that it leads to.
  cases hask with
  | misplaced effects hplace =>
    exact .giveUp e n l' effects hmoves hp
  | failed f =>
    exact .begin e n t l' _ _ hcomes hmoves (Or.inl hp) (by simp [Progress.wait?]) (by simp)
  | dropped effects =>
    exact .begin e n t l' _ _ hcomes hmoves (Or.inr hp) (by simp [Progress.wait?]) (by simp)
  | entitlement call hcall hasks =>
    refine .begin e n t l' _ _ hcomes hmoves (Or.inl hp) ?_ (by simp)
    intro wait hwait
    cases hwait
    exact .entitlement call hcall
  | request call inquiry hcall hid hasks hcancelled =>
    refine .begin e n t l' _ _ hcomes hmoves (Or.inl hp) ?_ (by simp)
    intro wait hwait
    cases hwait
    exact .request call inquiry _ hcall hid

/-- A command of the user ends what is shown, or nothing happens to the session. -/
theorem change_of_act {action : UserAction} {ending : Ending} {commands : List EditorCommand}
    {st : Stretch} (hst : st = l.suggester.act l.surroundings action ending commands)
    (hends : l.Ends e action none) (hmoves : l.MovesOn l' l.calls.length st.2.2.wait?)
    (hp : l'.suggester = st.1) :
    l.Change e l' ⟨st.2.1, some (l.calls.length, st.2.2)⟩ := by
  rcases Suggester.act_result l.surroundings action ending commands l.suggester with
    ⟨effects, hact⟩ | ⟨hdisplayed, effects, hact⟩
  · rw [hact] at hst
    subst hst
    exact .quiet e _ l' effects _ hmoves hp (Or.inl rfl)
  · rw [hact] at hst
    subst hst
    exact .dismiss e action ending none l' effects hends hmoves hp hdisplayed

/-- A trigger is refused, shows again what is shown, ends it, or asks for a suggestion. -/
theorem change_of_trigger {t : Trigger} {st : Stretch}
    (hst : st = l.suggester.trigger l.surroundings t)
    (hmoves : l.MovesOn l' l.calls.length st.2.2.wait?) (hp : l'.suggester = st.1) :
    l.Change (.trigger t) l' ⟨st.2.1, some (l.calls.length, st.2.2)⟩ := by
  have hresult := Suggester.trigger_result l.surroundings t l.suggester
  rw [← hst] at hresult
  cases hresult with
  | refused effects => exact .giveUp _ _ _ _ hmoves hp
  | replayed shown hshown hdisplayed hposition =>
    exact .replay t _ shown hmoves hp hdisplayed hshown hposition
  | superseding hdisplayed hposition =>
    exact .dismiss _ _ _ _ _ _ (.trigger t hposition) hmoves hp hdisplayed
  | asked _ hidle hask => exact change_of_askResult hask (.trigger t) hmoves hp

/-- A call that gets an answer to something else than it waits for goes on waiting. -/
theorem change_of_deaf {wait : Wait} {answer : Answer} (hwait : l.Waits n wait)
    (hmoves : l.MovesOn l' n (some wait)) (hp : l'.suggester = l.suggester) :
    l.Change (.resume n answer) l' ⟨[], some (n, .waiting wait)⟩ := by
  -- The call waits for the same as before, and no other call goes on.
  have hcalls : l'.calls = l.calls := by
    apply List.ext_getElem?
    intro m
    by_cases hm : m = n
    · rw [hm]
      exact hmoves.here.trans hwait.symm
    · exact hmoves.elsewhere m hm
  obtain rfl : l' = l := by
    cases l'
    cases l
    simp only [mk.injEq]
    exact ⟨hp, hmoves.surroundings, hcalls⟩
  exact .deaf n wait answer hwait

/-- What becomes of a call that gets an answer. -/
theorem change_of_resume {wait : Wait} {answer : Answer} {st : Stretch}
    (hresult : Suggester.ResumeResult l.surroundings l.suggester wait answer st)
    (hwait : l.Waits n wait) (hmoves : l.MovesOn l' n st.2.2.wait?) (hp : l'.suggester = st.1) :
    l.Change (.resume n answer) l' ⟨st.2.1, some (n, st.2.2)⟩ := by
  -- The answers that end the call, and below the four that take it further.
  cases hresult with
  | deaf => exact change_of_deaf hwait hmoves hp
  | reported report next result progress hover =>
    -- A report is over either way, and the call with it.
    have hnone : progress.wait? = none := by rcases hover with rfl | ⟨f, rfl⟩ <;> rfl
    exact .quiet _ n l' _ progress (hnone ▸ hmoves) hp hover
  | asked report t result =>
    have hask := Suggester.ask_result l.surroundings t l.suggester
    exact change_of_askResult hask (.resume n report t result hwait) hmoves hp
  | unanswered call f => exact .quiet _ n l' _ _ hmoves hp (Or.inr ⟨f, rfl⟩)
  | withdrawn => exact .giveUp _ n l' _ hmoves hp
  | inquired call entitled inquiry _ hid _ =>
    exact .inquire n call entitled inquiry l' hwait hmoves hp hid
  | unbuilt call inquiry since f => exact .fail n l' _ call _ f _ hwait rfl hmoves hp
  | sent call inquiry since r => exact .send n call inquiry since r l' hwait hmoves hp
  -- A completion may fail, come too late, be dropped or be displayed.
  | completed call r since result _ hcompletion =>
    cases hcompletion with
    | failed f => exact .fail n l' _ call _ f _ hwait rfl hmoves hp
    | stale => exact .quiet _ n l' _ _ hmoves hp (Or.inl rfl)
    | dropped => exact .giveUp _ n l' _ hmoves hp
    | displayed predictions o shown first others horigin hnumber hcancelled hitems hshown =>
      exact .shows n call r since predictions o shown first others l' hwait hmoves hp horigin
        hnumber hcancelled hitems hshown

/-- Every event does one of the things that `Change` lists. -/
theorem step_change (l : Lifecycle) (e : Event) : l.Change e (l.step e).1 (l.step e).2 := by
  -- A trigger, an asking, an acceptance or a hiding begins a call; the rest happens around them.
  cases e with
  | trigger t => exact change_of_trigger rfl (l.movesOn_begin _ _) rfl
  | ask t =>
    exact change_of_askResult (Suggester.ask_result l.surroundings t l.suggester) (.ask t)
      (l.movesOn_begin _ _) rfl
  | accept => exact change_of_act rfl .accept (l.movesOn_begin _ _) rfl
  | hide => exact change_of_act rfl .hide (l.movesOn_begin _ _) rfl
  | invoke => exact .quiet _ _ _ _ _ (l.movesOn_begin _ _) rfl (Or.inl rfl)
  | reset => exact .reset
  | resume n answer =>
    simp only [step]
    -- A resumption of no call that waits changes nothing.
    split
    · next wait hwait =>
      have hresult := Suggester.resume_result l.surroundings wait answer l.suggester
      exact change_of_resume hresult hwait (movesOn_resume hwait _ _) rfl
    · exact .around _ l.surroundings rfl
  | advance seconds => exact .around _ _ rfl
  | cancel token => exact .around _ _ rfl
  | activate document => exact .around _ _ rfl
  | configure settings => exact .around _ _ rfl

end Lifecycle

end PlaybookAssist
