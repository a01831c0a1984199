import PlaybookAssist.Proofs.Prompt.Load
import PlaybookAssist.Proofs.Suggestion.Replay

/-!
# Sessions that are left behind

A call that begins a session ends with the session displayed or over, unless another call is in its
way, or it fails. There are two ways to fail for a call that has a session: the prompt fails, or
nobody can tell whether the user is entitled. Then the session stays requesting though no call waits
for its answer any more, and the user is told nothing. A prompt fails when it is well-formed and
cannot be loaded for another reason, and also when the way along its last keys goes round: such a call
never returns, so it waits for nothing more either.

While a call has a session, the session is requesting, and while the session is requesting, the call
waits: each stretch of the call keeps both, or it is one of the two ways to fail.

## Main definitions

- `Lifecycle.Parses` : a call has begun a session and comes to parse its prompt
- `Lifecycle.Strands` : a call leaves its session behind
- `Suggester.Attended` : a session is requesting exactly while its call waits

## Main statements

- `Suggester.ask_failed_iff` : when the call for a suggestion fails at once
- `Lifecycle.attended_or_stranded` : how a call stands that no other one disturbs
- `Lifecycle.requesting_iff_strands` : when a call leaves a session behind
-/

namespace PlaybookAssist

namespace Suggester

variable {s : Surroundings} {t : Trigger} {p : Suggester} {prompt : Text} {fault : Yaml.Fault}
  {f : Failure}

/-- Where no suggestion may be asked for the call is given up. -/
theorem ask_of_misplaced (h : (t.document.checkTrigger t.position).isOk = false) :
    ∃ effects, p.ask s t = p.giveUp effects := by
  simp [ask, h]

/-- The user is told of a malformed prompt. -/
theorem ask_of_malformed (hplaced : (t.document.checkTrigger t.position).isOk = true)
    (habove : t.document.prompt t.position = .ok prompt) (hload : Yaml.load prompt = .error fault)
    (hfault : Failure.ofYaml? fault = none) :
    p.ask s t = (p.start s t).1.giveUp [.showError PromptFault.malformed.message] := by
  simp only [ask, hplaced, habove, Prompt.parse, hload, hfault, Bool.not_true, Bool.false_eq_true,
    if_false]
  rfl

/-- On a prompt that fails the call fails in the same way. -/
theorem ask_of_failsWith (hplaced : (t.document.checkTrigger t.position).isOk = true)
    (habove : t.document.prompt t.position = .ok prompt) (hfails : Prompt.FailsWith prompt f) :
    p.ask s t = ((p.start s t).1, [], .failed f) := by
  simp only [ask, hplaced, habove, Bool.not_true, Bool.false_eq_true, if_false]
  rcases Prompt.failsWith_iff.mp hfails with ⟨hparse, hother⟩ | ⟨entries, hparse, hawaits⟩
  · rw [hparse]
    cases f with
    | prompt refusal => exact absurd rfl (hother refusal)
    | _ => rfl
  · rw [hparse]
    dsimp only
    rw [hawaits]

theorem ask_failed_iff : (p.ask s t).2.2 = .failed f ↔
    (t.document.checkTrigger t.position).isOk = true ∧ ∃ prompt,
      t.document.prompt t.position = .ok prompt ∧ Prompt.FailsWith prompt f := by
  constructor
  · intro h
    cases hplaced : (t.document.checkTrigger t.position).isOk with
    | false => simp [ask, hplaced, giveUp] at h
    | true =>
      obtain ⟨prompt, habove⟩ := Document.exists_prompt hplaced
      refine ⟨rfl, prompt, habove, Prompt.failsWith_iff.mpr ?_⟩
      -- Where the prompt is judged without failing, the call is given up or waits.
      -- So only two branches are left, of which one fails on loading and one on judging.
      simp only [ask, hplaced, habove, Bool.not_true, Bool.false_eq_true, if_false] at h
      split at h
      · simp [giveUp] at h
      · next e hother hparse =>
        obtain rfl := Progress.failed.inj h
        exact Or.inl ⟨hparse, fun refusal hrefusal => hother refusal hrefusal⟩
      · simp [giveUp] at h
      next entries hparse =>
      split at h
      · next e hawaits =>
        obtain rfl := Progress.failed.inj h
        exact Or.inr ⟨entries, hparse, hawaits⟩
      · simp [giveUp] at h
      split at h
      · cases h
      · simp only [afterEntitlement] at h
        split at h
        · simp [giveUp] at h
        · cases h
  · rintro ⟨hplaced, prompt, habove, hfails⟩
    rw [ask_of_failsWith hplaced habove hfails]

/-! ## Sessions that are attended to -/

/-- The call that waits for `w`, if it is not over, attends to the session: the session is requesting
    while the call has it, and only then. -/
structure Attended (p : Suggester) (w : Option Wait) : Prop where
  requesting : p.session.stage = .requesting → ∃ wait call, w = some wait ∧ wait.call? = some call
  waiting : ∀ wait call, w = some wait → wait.call? = some call →
    p.session.stage = .requesting ∧ ∃ o, p.session.origin = some o ∧ o.number = call.number

/-- A session that is not requesting needs no call. -/
theorem Attended.over {w : Option Wait} (hstage : p.session.stage ≠ .requesting)
    (hw : ∀ wait, w = some wait → wait.call? = none) : p.Attended w where
  requesting h := absurd h hstage
  waiting wait call hwait hcall := by
    rw [hw wait hwait] at hcall
    cases hcall

/-- The call that has begun the session attends to it. -/
theorem Attended.begun {wait : Wait} {call : Pending} {o : Origin}
    (hsession : p.session = .requested o) (hcall : wait.call? = some call)
    (hnumber : o.number = call.number) : p.Attended (some wait) where
  requesting _ := ⟨wait, call, rfl, hcall⟩
  waiting wait' call' hwait' hcall' := by
    obtain rfl := Option.some.inj hwait'
    obtain rfl := Option.some.inj (hcall.symm.trans hcall')
    rw [hsession]
    exact ⟨rfl, o, rfl, hnumber⟩

/-- A call that has no session finds none requesting. -/
theorem Attended.stage_ne {w : Option Wait} (h : p.Attended w)
    (hw : ∀ wait, w = some wait → wait.call? = none) : p.session.stage ≠ .requesting := by
  intro hstage
  obtain ⟨wait, call, hwait, hcall⟩ := h.requesting hstage
  rw [hw wait hwait] at hcall
  cases hcall

/-- No session is begun, and none is requesting that was not before. -/
structure Spared (p : Suggester) (st : Stretch) : Prop where
  begun : st.1.begun = p.begun
  stage : st.1.session.stage = .requesting → p.session.stage = .requesting
  waiting : ∀ wait, st.2.2.wait? = some wait → wait.call? = none

/-- A trigger that a guard refuses, or that finds something shown, begins no session. -/
theorem trigger_spared (h : ¬ (t.Passes s ∧ p.session.isDisplayed = false)) :
    p.Spared (p.trigger s t) := by
  simp only [trigger]
  split
  · exact ⟨rfl, by simp [giveUp], by simp [giveUp, Progress.wait?]⟩
  next hguards =>
  split
  · exact ⟨rfl, by simp [giveUp], by simp [giveUp, Progress.wait?]⟩
  next hurl =>
  split
  · split
    · exact ⟨rfl, id, by simp [Progress.wait?]⟩
    -- what is shown is dismissed, and the call waits for its report without having asked
    · exact ⟨rfl, by simp [Suggestion.blank], by simp [Progress.wait?, Wait.call?]⟩
  next hidle =>
  simp only [Bool.not_eq_true, Bool.or_eq_false_iff, Bool.not_eq_false'] at hguards hurl hidle
  obtain ⟨⟨⟨hactive, hserves⟩, hstanding⟩, henabled⟩ := hguards
  exact absurd ⟨⟨hactive, hserves, hstanding, henabled, hurl⟩, hidle⟩ h

/-- A trigger that does not come to ask for a suggestion begins no session. -/
theorem trigger_spared_or (s : Surroundings) (t : Trigger) (p : Suggester) :
    p.trigger s t = p.ask s t ∨ p.Spared (p.trigger s t) := by
  by_cases h : t.Passes s ∧ p.session.isDisplayed = false
  · exact Or.inl (trigger_of_passes h.1 h.2)
  · exact Or.inr (trigger_spared h)

/-- A call whose report fails in another way than the service does is over. -/
theorem afterFeedback_spared {result : Except Failure Unit}
    (h : ¬ (result = .ok () ∨ ∃ f, result = .error (.service f))) (next : Option Trigger) :
    p.Spared (p.afterFeedback s next result) := by
  cases result with
  | ok => exact absurd (Or.inl rfl) h
  | error e =>
    cases e with
    | service f => exact absurd (Or.inr ⟨f, rfl⟩) h
    | _ => exact ⟨rfl, id, by simp [afterFeedback, Progress.wait?]⟩

/-- A call that has waited for a report to be taken asks for a suggestion, or it begins no
    session. -/
theorem afterFeedback_spared_or (s : Surroundings) (next : Option Trigger)
    (result : Except Failure Unit) (p : Suggester) :
    (∃ t, next = some t ∧ p.afterFeedback s next result = p.ask s t) ∨
      p.Spared (p.afterFeedback s next result) := by
  rcases afterFeedback_asked s next result p with hask | ⟨progress, hover, hkept⟩
  · exact Or.inl hask
  · rw [hkept]
    exact Or.inr ⟨rfl, id, by rcases hover with rfl | ⟨f, rfl⟩ <;> simp [Progress.wait?]⟩

theorem Spared.attended {st : Stretch} (h : p.Spared st) (hstage : p.session.stage ≠ .requesting) :
    st.1.Attended st.2.2.wait? :=
  .over (fun hrequesting => hstage (h.stage hrequesting)) h.waiting

/-- A call for a suggestion attends to the session that it begins, unless it fails. -/
theorem ask_attended (s : Surroundings) (t : Trigger) (p : Suggester) :
    (p.ask s t).1.Attended (p.ask s t).2.2.wait? ∨ ∃ f, (p.ask s t).2.2 = .failed f := by
  have hresult := ask_result s t p
  generalize p.ask s t = st at hresult ⊢
  cases hresult with
  | misplaced | dropped => exact Or.inl (.over (by simp) (by simp [Progress.wait?]))
  | failed f => exact Or.inr ⟨f, rfl⟩
  | entitlement call hcall => exact Or.inl (.begun rfl rfl hcall.number.symm)
  | request call inquiry hcall => exact Or.inl (.begun rfl rfl hcall.number.symm)

/-- A call that goes on attends to its session, unless it fails because nobody can tell whether the
    user is entitled. -/
theorem resume_attended {wait : Wait} {call : Pending} (h : p.Attended (some wait))
    (hcall : wait.call? = some call) (answer : Answer) :
    (p.resume s wait answer).1.Attended (p.resume s wait answer).2.2.wait? ∨
      ∃ f, wait = .entitlement call ∧ answer = .entitlement (.error f) := by
  obtain ⟨hstage, o, horigin, hnumber⟩ := h.waiting wait call rfl hcall
  -- While the session is not touched, the call that waits with it attends to it.
  have hkept : ∀ wait' : Wait, wait'.call? = some call → p.Attended (some wait') := by
    intro wait' hcall'
    -- The session still waits for its call, and the other way round.
    refine ⟨fun _ => ⟨wait', call, rfl, hcall'⟩, ?_⟩
    intro wait'' call'' hwait'' hcall''
    obtain rfl := Option.some.inj hwait''
    obtain rfl := Option.some.inj (hcall'.symm.trans hcall'')
    exact ⟨hstage, o, horigin, hnumber⟩
  have hresult := resume_result s wait answer p
  generalize p.resume s wait answer = st at hresult ⊢
  cases hresult with
  -- The answer was not for this kind of wait, and nothing changed.
  | deaf => exact Or.inl h
  -- Neither of these waits has a call.
  | reported | asked => cases hcall
  | unanswered call' f =>
    obtain rfl := Option.some.inj hcall
    exact Or.inr ⟨f, rfl, rfl⟩
  -- The call goes on to its next wait, with the session untouched.
  | inquired | sent =>
    obtain rfl := Option.some.inj hcall
    exact Or.inl (hkept _ rfl)
  -- From here on the call is over and the session is not requesting.
  | withdrawn => exact Or.inl (.over (by simp) (by simp [Progress.wait?]))
  | unbuilt => exact Or.inl (.over (by simp [fail, giveUp]) (by simp [fail, giveUp, Progress.wait?]))
  | completed call' _ _ _ _ hcompletion =>
    obtain rfl := Option.some.inj hcall
    refine Or.inl ?_
    cases hcompletion with
    | failed => exact .over (by simp [fail, giveUp]) (by simp [fail, giveUp, Progress.wait?])
    -- The response is not for another session, since the call waits with this one.
    | stale predictions hstale => exact absurd hnumber (hstale o horigin)
    | dropped => exact .over (by simp) (by simp [Progress.wait?])
    | displayed => exact .over (by simp [Suggestion.displaying]) (by simp [Progress.wait?])

theorem AskResult.rank_pos {st : Stretch} {wait : Wait} (h : AskResult s t p st)
    (hwait : st.2.2.wait? = some wait) : 0 < wait.rank := by
  cases h <;> cases hwait <;> simp [Wait.rank]

/-- An answer that a call waits for leads it on; any other one leaves it waiting. -/
theorem rank_of_resume {wait wait' : Wait} {answer : Answer}
    (h : (p.resume s wait answer).2.2.wait? = some wait') :
    (wait' = wait ∧ wait.rank ≠ answer.rank) ∨ wait.rank < wait'.rank := by
  have hresult := resume_result s wait answer p
  -- the call waits on at an answer it does not fit, and every other case waits further on or not at
  -- all
  generalize p.resume s wait answer = st at hresult h
  cases hresult with
  | deaf _ _ hunfit => exact Or.inl ⟨(Option.some.inj h).symm, hunfit⟩
  | reported _ _ _ progress hover => rcases hover with rfl | ⟨f, rfl⟩ <;> cases h
  | asked _ t => exact Or.inr ((ask_result s t p).rank_pos h)
  | inquired | sent =>
    cases h
    exact Or.inr (by simp [Wait.rank])
  | unanswered | withdrawn | unbuilt => cases h
  | completed _ _ _ _ _ hcompletion => cases hcompletion <;> cases h

end Suggester

/-! ## Events of one call -/

namespace Lifecycle

variable {l : Lifecycle} {e : Event} {es : List Event} {n : Nat} {t : Trigger} {f : Failure}
  {prompt : Text} {fault : Yaml.Fault}

/-- Call `n` goes on by a stretch. -/
structure GoesBy (n : Nat) (st : Stretch) (l : Lifecycle) (e : Event) : Prop where
  suggester : (l.step e).1.suggester = st.1
  happening : (l.step e).2 = ⟨st.2.1, some (n, st.2.2)⟩
  here : (l.step e).1.calls[n]? = some st.2.2.wait?

theorem GoesBy.resume {wait : Wait} (h : l.Waits n wait) (answer : Answer) :
    GoesBy n (l.suggester.resume l.surroundings wait answer) l (.resume n answer) := by
  have hstep := step_resume h answer
  refine ⟨by rw [hstep], by rw [hstep], ?_⟩
  rw [hstep]
  exact (movesOn_resume h _ _).here

theorem GoesBy.trigger (t : Trigger) (l : Lifecycle) :
    GoesBy l.calls.length (l.suggester.trigger l.surroundings t) l (.trigger t) :=
  ⟨rfl, rfl, (l.movesOn_begin _ _).here⟩

/-- A call that comes to ask for a suggestion asks for it, or begins no session. -/
theorem Comes.goesBy (h : l.Comes e n t) :
    GoesBy n (l.suggester.ask l.surroundings t) l e ∨ ∃ st, GoesBy n st l e ∧
      l.suggester.Spared st := by
  cases h with
  | trigger t =>
    -- a trigger asks unless a guard or what is shown stops it
    rcases Suggester.trigger_spared_or l.surroundings t l.suggester with hask | hspared
    · exact Or.inl (hask ▸ .trigger t l)
    · exact Or.inr ⟨_, .trigger t l, hspared⟩
  | ask t => exact Or.inl ⟨rfl, rfl, (l.movesOn_begin _ _).here⟩
  | resume n report t result hwait =>
    have hgoes := GoesBy.resume hwait (.feedback result)
    rcases Suggester.afterFeedback_spared_or l.surroundings (some t) result l.suggester with
      ⟨t', ht, hask⟩ | hspared
    · obtain rfl := Option.some.inj ht
      exact Or.inl (hask ▸ hgoes)
    · exact Or.inr ⟨_, hgoes, hspared⟩

/-- Call `n` has begun a session, and comes to parse the text above as a prompt. -/
def Parses (n : Nat) (prompt : Text) (l : Lifecycle) (e : Event) : Prop :=
  ∃ t o, l.Comes e n t ∧ Begins n o l e ∧ t.document.prompt t.position = .ok prompt

/-- A call that asks for a suggestion begins a session exactly where it may be asked for. -/
theorem GoesBy.begins_iff (h : GoesBy n (l.suggester.ask l.surroundings t) l e) :
    (∃ o, Begins n o l e) ↔ (t.document.checkTrigger t.position).isOk = true := by
  simp only [Begins, h.happening, h.suggester]
  -- A session begins exactly where the text above gives a place for a suggestion.
  constructor
  · rintro ⟨o, -, hbegun, -⟩
    by_contra hplaced
    -- Misplaced: `ask` gives up before a session is begun, so that the count of sessions stays.
    obtain ⟨effects, hask⟩ := Suggester.ask_of_misplaced (Bool.not_eq_true _ ▸ hplaced)
    rw [hask] at hbegun
    exact Nat.succ_ne_self _ hbegun.symm
  · intro hplaced
    refine ⟨(l.suggester.start l.surroundings t).2, ⟨_, rfl⟩, ?_⟩
    have hresult := Suggester.ask_result l.surroundings t l.suggester
    generalize l.suggester.ask l.surroundings t = st at hresult ⊢
    cases hresult with
    -- Placed: whatever comes of the prompt, the session has begun by then.
    | misplaced effects hmisplaced =>
      rw [hplaced] at hmisplaced
      cases hmisplaced
    | failed | dropped | entitlement | request => exact ⟨rfl, rfl⟩

theorem Parses.goesBy (h : Parses n prompt l e) :
    ∃ t, GoesBy n (l.suggester.ask l.surroundings t) l e ∧
      (t.document.checkTrigger t.position).isOk = true ∧
      t.document.prompt t.position = .ok prompt := by
  obtain ⟨t, o, hcomes, hbegins, habove⟩ := h
  rcases hcomes.goesBy with hgoes | ⟨st, hgoes, hspared⟩
  · exact ⟨t, hgoes, hgoes.begins_iff.mp ⟨o, hbegins⟩, habove⟩
  · have hbegun := hbegins.2.1
    rw [hgoes.suggester, hspared.begun] at hbegun
    omega

/-- A call that comes to parse a malformed prompt tells the user so and is over, and so is its
    session. -/
theorem Parses.step_of_malformed (h : Parses n prompt l e) (hload : Yaml.load prompt = .error fault)
    (hfault : Failure.ofYaml? fault = none) :
    (l.step e).2 = ⟨[.showError PromptFault.malformed.message], some (n, .finished [])⟩ := by
  obtain ⟨t, hgoes, hplaced, habove⟩ := h.goesBy
  rw [Suggester.ask_of_malformed hplaced habove hload hfault] at hgoes
  exact hgoes.happening

/-- A call that comes to parse a prompt which fails is over without a word, and the session stays as
    it was begun. -/
theorem Parses.step_of_failsWith (h : Parses n prompt l e) (hfails : Prompt.FailsWith prompt f) :
    (l.step e).1.calls[n]? = some none ∧ (l.step e).2 = ⟨[], some (n, .failed f)⟩ ∧
      (l.step e).1.suggester.session.stage = .requesting := by
  obtain ⟨t, hgoes, hplaced, habove⟩ := h.goesBy
  rw [Suggester.ask_of_failsWith hplaced habove hfails] at hgoes
  rw [hgoes.here, hgoes.happening, hgoes.suggester]
  exact ⟨rfl, rfl, rfl⟩

/-- Call `n` fails with `f` and leaves its session behind: the prompt that it parses fails, or nobody
    can tell whether the user is entitled. -/
inductive Strands (n : Nat) (f : Failure) (l : Lifecycle) : Event → Prop where
  | prompt (e : Event) (prompt : Text) (hparses : Parses n prompt l e)
      (hfails : Prompt.FailsWith prompt f) : Strands n f l e
  | unanswered (call : Pending) (hwait : l.Waits n (.entitlement call)) :
      Strands n f l (.resume n (.entitlement (.error f)))

/-- Call `n` attends to the session. -/
def Attends (n : Nat) (l : Lifecycle) : Prop :=
  l.suggester.Attended l.calls[n]?.join

/-- Call `n` is over, and the session is requesting. -/
structure Stranded (n : Nat) (l : Lifecycle) : Prop where
  ended : l.calls[n]? = some none
  stage : l.suggester.session.stage = .requesting

theorem GoesBy.attends_iff {st : Stretch} (h : GoesBy n st l e) :
    Attends n (l.step e).1 ↔ st.1.Attended st.2.2.wait? := by
  rw [Attends, h.suggester, h.here]
  rfl

theorem Strands.stranded (h : Strands n f l e) (hattends : Attends n l) :
    Stranded n (l.step e).1 := by
  cases h with
  | prompt _ prompt hparses hfails =>
    obtain ⟨hover, -, hstage⟩ := hparses.step_of_failsWith hfails
    exact ⟨hover, hstage⟩
  | unanswered call hwait =>
    have hgoes := GoesBy.resume hwait (.entitlement (.error f))
    have hjoin : l.calls[n]?.join = some (.entitlement call) := by rw [hwait]; rfl
    refine ⟨hgoes.here, ?_⟩
    rw [hgoes.suggester]
    exact (hattends.waiting _ call hjoin rfl).1

/-- A call that comes to ask for a suggestion attends to the session then, or leaves it behind. -/
theorem Comes.attends_or_strands (h : l.Comes e n t) (hattends : Attends n l)
    (hnone : ∀ wait, l.Waits n wait → wait.call? = none) :
    Attends n (l.step e).1 ∨ ∃ f, Strands n f l e := by
  rcases h.goesBy with hgoes | ⟨st, hgoes, hspared⟩
  · rw [hgoes.attends_iff]
    refine (Suggester.ask_attended l.surroundings t l.suggester).imp_right ?_
    rintro ⟨f, hfailed⟩
    obtain ⟨hplaced, prompt, habove, hfails⟩ := Suggester.ask_failed_iff.mp hfailed
    obtain ⟨o, hbegins⟩ := hgoes.begins_iff.mpr hplaced
    exact ⟨f, .prompt e prompt ⟨t, o, h, hbegins, habove⟩ hfails⟩
  · rw [hgoes.attends_iff]
    refine Or.inl (hspared.attended (hattends.stage_ne fun wait hwait => hnone wait ?_))
    exact Option.join_eq_some_iff.mp hwait

/-- A call without a session that gets an answer attends to the session that it begins, if it begins
    one, or leaves it behind. -/
theorem Waits.attends_or_strands {wait : Wait} (hwait : l.Waits n wait) (hattends : Attends n l)
    (hcall : wait.call? = none) (answer : Answer) :
    Attends n (l.step (.resume n answer)).1 ∨ ∃ f, Strands n f l (.resume n answer) := by
  -- The call waits for a report or for nothing, so nobody attends to a session in its name.
  have hnone : ∀ wait', l.Waits n wait' → wait'.call? = none :=
    fun wait' hwait' => hwait.unique hwait' ▸ hcall
  have hstage : l.suggester.session.stage ≠ .requesting :=
    hattends.stage_ne fun wait' hwait' => hnone wait' (Option.join_eq_some_iff.mp hwait')
  have hgoes := GoesBy.resume hwait answer
  cases wait with
  | feedback report next =>
    cases answer with
    | feedback result =>
      -- With a trigger to go on with, the call asks now.
      cases next with
      | some t => exact (Comes.resume n report t result hwait).attends_or_strands hattends hnone
      -- Without one it is over when the report is answered.
      | none =>
        rcases Suggester.afterFeedback_spared_or l.surroundings none result l.suggester with
          ⟨t, ht, -⟩ | hspared
        · cases ht
        · exact Or.inl (hgoes.attends_iff.mpr (hspared.attended hstage))
    -- An answer to something else ends the call and leaves the session.
    | _ => exact Or.inl (hgoes.attends_iff.mpr (.over hstage fun _ h => Option.some.inj h ▸ rfl))
  -- Every other wait has a call.
  | _ => cases hcall

/-- At an event that is about no other call, the call goes on attending to the session, or leaves it
    behind. -/
theorem attends_or_strands (h : Attends n l) (honly : e.OnlyCall n) :
    Attends n (l.step e).1 ∨ ∃ f, Strands n f l e := by
  rcases step_onlyCall (l := l) honly with ⟨wait, answer, rfl, hwait⟩ | ⟨hp, hcalls, -⟩
  · cases hcall : wait.call? with
    | none => exact hwait.attends_or_strands h hcall answer
    | some call =>
      -- the one answer that leaves the session behind is that nobody can tell the entitlement
      rw [(GoesBy.resume hwait answer).attends_iff]
      have hattended : l.suggester.Attended (some wait) := by
        rw [Attends, hwait] at h
        exact h
      refine (Suggester.resume_attended hattended hcall answer).imp_right ?_
      rintro ⟨f, rfl, rfl⟩
      exact ⟨f, .unanswered call hwait⟩
  · refine Or.inl ?_
    rw [Attends, hp, hcalls]
    exact h

/-! ## Runs of one call -/

/-- Of a call that is over nothing more becomes. -/
theorem Stranded.step (h : Stranded n l) (honly : e.OnlyCall n) :
    Stranded n (l.step e).1 ∧ ∀ f, ¬ Strands n f l e := by
  have hnone : ∀ wait, ¬ l.Waits n wait := by
    intro wait hwait
    rw [Waits, h.ended] at hwait
    cases hwait
  constructor
  -- nothing resumes a call that is over, and other events of the call change neither
  · rcases step_onlyCall (l := l) honly with ⟨wait, _, -, hwait⟩ | ⟨hp, hcalls, -⟩
    · exact absurd hwait (hnone wait)
    · exact ⟨hcalls ▸ h.ended, hp ▸ h.stage⟩
  · rintro f (⟨_, prompt, ⟨t, o, hcomes, -⟩, -⟩ | ⟨call, hwait⟩)
    · cases hcomes with
      | trigger | ask => exact honly
      | resume n report t result hwait => exact hnone _ hwait
    · exact hnone _ hwait

theorem Stranded.after (h : Stranded n l) (honly : ∀ e ∈ es, e.OnlyCall n) :
    Stranded n (l.after es) := by
  induction es generalizing l with
  | nil => exact h
  | cons e es ih =>
    rw [List.forall_mem_cons] at honly
    exact ih (h.step honly.1).1 honly.2

/-- A call that no other one disturbs attends to the session, or it has left it behind. -/
theorem attended_or_stranded (h : Attends n l) (honly : ∀ e ∈ es, e.OnlyCall n) :
    Attends n (l.after es) ∨
      (∃ f, l.Once es (Strands n f)) ∧ Stranded n (l.after es) := by
  induction es generalizing l with
  | nil => exact Or.inl h
  | cons e es ih =>
    rw [List.forall_mem_cons] at honly
    simp only [once_cons, after_cons]
    rcases attends_or_strands h honly.1 with hattends | ⟨f, hstrands⟩
    · exact (ih hattends honly.2).imp_right fun ⟨⟨f, honce⟩, hstranded⟩ =>
        ⟨⟨f, Or.inr honce⟩, hstranded⟩
    · exact Or.inr ⟨⟨f, Or.inl hstrands⟩, (hstrands.stranded h).after honly.2⟩

theorem Once.stranded (honce : l.Once es (Strands n f)) (h : Attends n l)
    (honly : ∀ e ∈ es, e.OnlyCall n) : Stranded n (l.after es) := by
  obtain ⟨past, e, rest, rfl, hstrands⟩ := honce
  simp only [List.forall_mem_append, List.forall_mem_cons] at honly
  rw [after_append, after_cons]
  rcases attended_or_stranded h honly.1 with hattends | ⟨-, hstranded⟩
  · exact (hstrands.stranded hattends).after honly.2.2
  · exact absurd hstrands ((hstranded.step honly.2.1).2 f)

/-! ## The end of a call -/

/-- Call `n` is over, or what it waits for is no sooner than `k` in the order of waits. -/
def Beyond (k n : Nat) (l : Lifecycle) : Prop :=
  ∃ w, l.calls[n]? = some w ∧ ∀ wait, w = some wait → k ≤ wait.rank

theorem Beyond.over (h : Beyond 4 n l) : l.calls[n]? = some none := by
  obtain ⟨w, hw, hrank⟩ := h
  cases w with
  | none => exact hw
  | some wait =>
    have hle := hrank wait rfl
    cases wait <;> simp [Wait.rank] at hle

theorem Beyond.step {k : Nat} (h : Beyond k n l) (honly : e.OnlyCall n) :
    Beyond k n (l.step e).1 := by
  rcases step_onlyCall (l := l) honly with ⟨wait, answer, rfl, hwait⟩ | ⟨-, hcalls, -⟩
  · obtain ⟨w, hw, hrank⟩ := h
    obtain rfl := Option.some.inj (hwait.symm.trans hw)
    refine ⟨_, (GoesBy.resume hwait answer).here, fun wait' hwait' => ?_⟩
    rcases Suggester.rank_of_resume hwait' with ⟨rfl, -⟩ | hlt
    · exact hrank wait' rfl
    · exact Nat.le_of_lt (Nat.lt_of_le_of_lt (hrank wait rfl) hlt)
  · rw [Beyond, hcalls]
    exact h

/-- The answer that is next in the order leads the call on, if it is still waiting for it. -/
theorem Beyond.step_resume {answer : Answer} (h : Beyond answer.rank n l) :
    Beyond (answer.rank + 1) n (l.step (.resume n answer)).1 := by
  obtain ⟨w, hw, hrank⟩ := h
  cases w with
  | none =>
    refine ⟨none, ?_, by simp⟩
    simp [Lifecycle.step, hw]
  | some wait =>
    refine ⟨_, (GoesBy.resume hw answer).here, fun wait' hwait' => ?_⟩
    have hle := hrank wait rfl
    rcases Suggester.rank_of_resume hwait' with ⟨rfl, hne⟩ | hlt <;> omega

/-- Answers in the order in which a call waits for them lead it on, whatever is around it
    meanwhile. -/
theorem Beyond.after {answers : List Answer} {k : Nat} (h : Beyond k n l)
    (honly : ∀ e ∈ es, e.OnlyCall n) (hsub : (answers.map (Event.resume n)).Sublist es)
    (hranks : answers.map Answer.rank = List.range' k answers.length) :
    Beyond (k + answers.length) n (l.after es) := by
  induction es generalizing l answers k with
  | nil =>
    obtain rfl : answers = [] := by simpa using hsub
    exact h
  | cons e es ih =>
    rw [List.forall_mem_cons] at honly
    -- either the event is not the next answer, and passes by, or it is, and leads the call on
    rcases List.sublist_cons_iff.mp hsub with hlater | ⟨rest, hfirst, hrest⟩
    · exact ih (h.step honly.1) honly.2 hlater hranks
    · obtain ⟨answer, answers, rfl, rfl, rfl⟩ := List.map_eq_cons_iff.mp hfirst
      obtain ⟨rfl, hranks⟩ := List.cons.inj hranks
      rw [List.length_cons, Nat.add_comm answers.length, ← Nat.add_assoc]
      exact ih h.step_resume honly.2 hrest hranks

end Lifecycle

/-! ## A prompt that cannot be loaded -/

namespace Sample

open Yaml

/-- A document in which the name of a task looks like a date and is none. -/
def undated : Document :=
  ⟨"/site.yml", "- name: 2020-13-45\n", "ansible"⟩

/-- The editor shows the document. -/
def undatedSurroundings : Surroundings :=
  { surroundings with active := some undated }

/-- The wish for a suggestion under the name. -/
def undatedTrigger : Trigger :=
  ⟨undated, ⟨1, 0⟩, .automatic, none⟩

def undatedPrompt : Text :=
  "- name: 2020-13-45"

/-- What is wrong with the date. -/
def dateProblem : Text :=
  "month must be in 1..12"

theorem load_undatedPrompt : Yaml.load undatedPrompt = .error (.badScalar dateProblem) := by
  decide +kernel

theorem passes_undatedTrigger : undatedTrigger.Passes undatedSurroundings where
  active := by decide
  serves := by decide
  standing := rfl
  enabled := rfl
  url := by decide

/-- The call for a suggestion under the name parses the prompt. -/
theorem parses_undatedPrompt : Lifecycle.Parses 0 undatedPrompt (.fresh undatedSurroundings)
    (.trigger undatedTrigger) := by
  have hplaced : (undatedTrigger.document.checkTrigger undatedTrigger.position).isOk = true := by
    decide
  have habove : undatedTrigger.document.prompt undatedTrigger.position = .ok undatedPrompt := by
    decide
  have hpasses : undatedTrigger.Passes (Lifecycle.fresh undatedSurroundings).surroundings :=
    passes_undatedTrigger
  have hidle : (Lifecycle.fresh undatedSurroundings).suggester.session.isDisplayed = false := rfl
  have hgoes := Lifecycle.GoesBy.trigger undatedTrigger (.fresh undatedSurroundings)
  rw [Suggester.trigger_of_passes hpasses hidle] at hgoes
  obtain ⟨o, hbegins⟩ := hgoes.begins_iff.mpr hplaced
  exact ⟨undatedTrigger, o, .trigger _, hbegins, habove⟩

end Sample

namespace Lifecycle

variable {l : Lifecycle} {es : List Event} {t : Trigger}

/-! ## What a call leaves behind -/

/-- A trigger while nothing is requesting, and what becomes of its call whatever happens around it,
    as long as no other call does anything: with the answers that it may wait for the call waits for
    nothing more; when it waits for nothing more, the session is requesting exactly if the call has
    left it behind; the user is told of a malformed prompt, and the call returns nothing; and on a
    prompt that fails in another way the call fails as the prompt does, which is never to come back
    where the way along the last keys goes round, and nobody is told. -/
theorem requesting_iff_strands (hstage : l.suggester.session.stage ≠ .requesting)
    (honly : ∀ e ∈ es, e.OnlyCall l.calls.length) :
    let n := l.calls.length
    let run := .trigger t :: es
    (∀ taken entitled request predictions,
        [.resume n (.feedback taken), .resume n (.entitlement entitled),
          .resume n (.request request), .resume n (.completion predictions)].Sublist es →
        (l.after run).calls[n]? = some none) ∧
      ((l.after run).calls[n]? = some none →
        ((l.after run).suggester.session.stage = .requesting ↔
          ∃ f, l.Once run (Strands n f))) ∧
      l.Always run fun l e => ∀ prompt, Parses n prompt l e →
        (∀ fault, Yaml.load prompt = .error fault → Failure.ofYaml? fault = none → (l.step e).2 =
          ⟨[.showError PromptFault.malformed.message], some (n, .finished [])⟩) ∧
        ∀ f, Prompt.FailsWith prompt f → (l.step e).2 = ⟨[], some (n, .failed f)⟩ := by
  intro n run
  have hhere : (l.step (.trigger t)).1.calls[n]? =
      some (l.suggester.trigger l.surroundings t).2.2.wait? := (l.movesOn_begin _ _).here
  have hunknown : l.calls[n]? = none := List.getElem?_eq_none (Nat.le_refl _)
  have hattends : Attends n l := by
    rw [Attends, hunknown]
    exact .over hstage (by simp)
  have hnone : ∀ wait, l.Waits n wait → wait.call? = none := by
    intro wait hwait
    rw [Waits, hunknown] at hwait
    cases hwait
  have hcomes := (Comes.trigger t).attends_or_strands hattends hnone
  refine ⟨fun taken entitled request predictions hsub => ?_, fun hover => ⟨fun hrequesting => ?_, ?_⟩,
    ?_⟩
  -- Each answer takes the call past one more kind of wait, and there are four kinds.
  · have hbeyond : Beyond 0 n (l.step (.trigger t)).1 := ⟨_, hhere, fun _ _ => Nat.zero_le _⟩
    let answers : List Answer :=
      [.feedback taken, .entitlement entitled, .request request, .completion predictions]
    have hranks : answers.map Answer.rank = List.range' 0 answers.length := rfl
    have hanswers : (answers.map (Event.resume n)).Sublist es := hsub
    exact (hbeyond.after honly hanswers hranks).over
  · -- A session that the call attends to is not requesting when the call is over.
    simp only [run, once_cons]
    -- Either the trigger left the call attending to its session or it stranded it at once.
    rcases hcomes with hattends' | ⟨f, hstrands⟩
    · rcases attended_or_stranded hattends' honly with hattends'' | ⟨⟨f, honce⟩, -⟩
      · obtain ⟨wait, call, hwait, -⟩ := hattends''.requesting hrequesting
        rw [show ((l.step (.trigger t)).1.after es).calls[n]? = some none from hover] at hwait
        cases hwait
      · exact ⟨f, Or.inr honce⟩
    · exact ⟨f, Or.inl hstrands⟩
  · rintro ⟨f, honce⟩
    rcases hcomes with hattends' | ⟨f', hstrands⟩
    -- A session stranded at once stays stranded: of other calls nothing comes, and this one is
    -- over.
    · rcases once_cons.mp honce with hstrands | honce
      · exact ((hstrands.stranded hattends).after honly).stage
      · exact (honce.stranded hattends' honly).stage
    · exact ((hstrands.stranded hattends).after honly).stage
  · -- Of what a prompt is refused for the user is told; on any other failure nothing is said.
    intro past e rest hsplit prompt hparses
    exact ⟨fun fault hload hfault => hparses.step_of_malformed hload hfault,
      fun f hfails => (hparses.step_of_failsWith hfails).2.1⟩

/-- Nobody can tell whether the user is entitled: the session stays requesting, and there is nothing
    more that the call waits for. -/
theorem left_requesting_unanswered :
    let run := [.trigger Sample.trigger,
      .resume 0 (.entitlement (.error (.external "unavailable")))]
    let left := (fresh Sample.surroundings).after run
    left.calls[0]? = some none ∧ left.suggester.session.stage = .requesting ∧
      ∃ f, (fresh Sample.surroundings).Once run (Strands 0 f) := by
  intro run left
  let failure : Event := .resume 0 (.entitlement (.error (.external "unavailable")))
  -- The seat is asked for, and the inquiry fails for a reason from outside.
  have hleft : left = ((Sample.triggered (.fresh Sample.surroundings)).step failure).1 := by
    simp only [left, run, after_cons, Sample.step_trigger_fresh]
    rfl
  have hidle : (fresh Sample.surroundings).suggester.session.stage ≠ .requesting := by decide
  have honly : ∀ e ∈ [failure], e.OnlyCall (fresh Sample.surroundings).calls.length := by
    simp [failure, Event.OnlyCall, fresh]
  -- The general statement turns the stage that is seen here into a stranding.
  obtain ⟨-, hiff, -⟩ := @requesting_iff_strands _ _ Sample.trigger hidle honly
  rw [show (fresh Sample.surroundings).after (.trigger Sample.trigger :: [failure]) = left from rfl]
    at hiff
  have hover : left.calls[0]? = some none := hleft ▸ rfl
  have hstage : left.suggester.session.stage = .requesting := hleft ▸ rfl
  exact ⟨hover, hstage, (hiff hover).mp hstage⟩

/-- A name that looks like a date and is none makes the call fail. The user is told nothing, and the
    session stays requesting. -/
theorem left_requesting_unloadable :
    let l := fresh Sample.undatedSurroundings
    let e := .trigger Sample.undatedTrigger
    l.suggester.session.stage = .idle ∧
      Parses 0 Sample.undatedPrompt l e ∧
      Yaml.load Sample.undatedPrompt = .error (.badScalar Sample.dateProblem) ∧
      (l.step e).2 = ⟨[], some (0, .failed (.badValue Sample.dateProblem))⟩ ∧
      (l.step e).1.calls[0]? = some none ∧
      (l.step e).1.suggester.session.stage = .requesting := by
  have hfails : Prompt.FailsWith Sample.undatedPrompt (.badValue Sample.dateProblem) :=
    .unloadable _ _ Sample.load_undatedPrompt rfl
  obtain ⟨hover, hhappening, hstage⟩ := Sample.parses_undatedPrompt.step_of_failsWith hfails
  exact ⟨rfl, Sample.parses_undatedPrompt, Sample.load_undatedPrompt, hhappening, hover, hstage⟩

end Lifecycle

end PlaybookAssist
