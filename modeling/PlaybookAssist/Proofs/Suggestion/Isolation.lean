import PlaybookAssist.Proofs.Suggestion.Custody
import PlaybookAssist.Proofs.Suggestion.Ready

/-!
# Superseded calls

A call is superseded when the session that it began has been replaced by that of a newer call. When
it goes on it may find the newer session in its way. The predictions for its own session it keeps to
itself; but a call that has been taken back, or that fails, ends whatever session there is. These are
the only ways in which a superseded call touches the newer session.

## Main definitions

- `Wait.topples` : the ways to go on that end whatever session there is

## Main statements

- `Suggester.resume_of_other` : what a call does to the session of another one
- `Lifecycle.superseded_iff` : when a superseded call leaves the newer session alone
-/

namespace PlaybookAssist

/-- Does the call, with this answer to what it waits for, end whatever session there is? -/
def Wait.topples (s : Surroundings) : Wait → Answer → Bool
  | .entitlement call, .entitlement (.ok _) => s.isCancelled call.trigger
  | .request _ _ _, .request (.error _) => true
  | .completion _ _ _, .completion (.error _) => true
  | _, _ => false

namespace Suggester

variable {s : Surroundings} {p : Suggester} {b : Origin} {call : Pending}

/-- A call that fails ends the session of another one, and does not tell it why. -/
theorem fail_of_other (horigin : p.session.origin = some b) (hother : b.number ≠ call.number)
    (f : Failure) : (p.fail call f).1 = p.reset := by
  have hnumber : p.session.isNumber call.number = false := by
    simp [Suggestion.isNumber, horigin, hother]
  simp [fail, giveUp, hnumber]

/-- A call leaves the suggester alone that holds the session of another one, unless it ends that. -/
theorem resume_of_other {wait : Wait} (hcall : wait.call? = some call)
    (horigin : p.session.origin = some b) (hother : b.number ≠ call.number) (answer : Answer) :
    (p.resume s wait answer).1 = if wait.topples s answer then p.reset else p := by
  have hresult := resume_result s wait answer p
  generalize p.resume s wait answer = st at hresult ⊢
  cases hresult with
  | deaf =>
    -- An answer of the wrong kind topples nothing.
    have hstands : wait.topples s answer = false := by
      cases wait <;> cases answer <;> first | rfl | contradiction
    rw [hstands]
    rfl
  | reported | asked => cases hcall
  | unanswered | sent => rfl
  -- Taken back, the call gives up; otherwise it only asks.
  | withdrawn _ _ hcancelled => simp [Wait.topples, hcancelled]
  | inquired _ _ _ hstanding => simp [Wait.topples, hstanding]
  -- A failure resets the session whosever it is; only the reason is kept for the call's own.
  | unbuilt _ _ _ f =>
    cases hcall
    exact fail_of_other horigin hother f
  | completed _ _ _ _ _ hcompletion =>
    cases hcall
    cases hcompletion with
    | failed f => exact fail_of_other horigin hother f
    -- The rest is done only for the session with the number of the call, which is not this one.
    | stale => rfl
    | dropped _ o horigin' hnumber =>
      obtain rfl : b = o := by simpa [horigin] using horigin'
      exact absurd hnumber hother
    | displayed _ o _ _ _ horigin' hnumber =>
      obtain rfl : b = o := by simpa [horigin] using horigin'
      exact absurd hnumber hother

end Suggester

namespace Lifecycle

variable {s : Surroundings} {past : List Event} {n : Nat} {a b : Origin} {wait : Wait}

/-- A waiting call that has begun a session remembers it, and a current session that is another one
    is newer. -/
theorem number_lt_of_superseded (hbegins : (fresh s).Once past (Begins n a))
    (hwait : ((fresh s).after past).Waits n wait)
    (horigin : ((fresh s).after past).suggester.session.origin = some b) (hother : b ≠ a) :
    a.number < b.number ∧ ∃ call, wait.call? = some call ∧ b.number ≠ call.number := by
  have hcustody := custody s past
  obtain ⟨-, m, hbegins'⟩ := hcustody.current b horigin
  -- numbers are given once, so one number would make the two sessions one
  have hne : b.number ≠ a.number := by
    intro hnumber
    obtain rfl := hcustody.eq_of_number m n b a hbegins' hbegins hnumber
    exact hother (hcustody.eq_of_call m b a hbegins' hbegins)
  have hle := number_le_of_begins hbegins horigin
  refine ⟨by omega, ?_⟩
  cases wait with
  -- a call that waits for its report has begun no session
  | feedback report next => exact absurd hbegins (hcustody.unbegun n report next hwait a)
  | entitlement call | request call | completion call =>
    have hnumber := number_eq_of_begins hwait rfl hbegins
    exact ⟨call, rfl, by omega⟩

/-- A call whose session has been replaced, by that of a newer call which waits for its answer or
    shows it, leaves the stage and the texts of the newer session as they are exactly if it does not
    end whatever session there is. Then it leaves the whole suggester as it is. -/
theorem superseded_iff (hbegins : (fresh s).Once past (Begins n a))
    (hwait : ((fresh s).after past).Waits n wait)
    (horigin : ((fresh s).after past).suggester.session.origin = some b) (hother : b ≠ a)
    (hlive : ((fresh s).after past).suggester.session.stage = .requesting ∨
      ((fresh s).after past).suggester.session.stage = .displayed) (answer : Answer) :
    let before := (fresh s).after past
    let after := (before.step (.resume n answer)).1
    let topples := wait.topples before.surroundings answer
    a.number < b.number ∧
      (topples = false → after.suggester = before.suggester) ∧
      (topples = true → after.suggester = before.suggester.reset) ∧
      (after.suggester.session.stage = before.suggester.session.stage ∧
        after.suggester.session.items = before.suggester.session.items ↔ topples = false) := by
  intro before after topples
  -- The session is of a newer call, so that the step is an instance of the lemma above.
  obtain ⟨hnewer, call, hcall, hnumber⟩ :=
    number_lt_of_superseded hbegins hwait horigin hother
  have hafter : after.suggester = if topples then before.suggester.reset else before.suggester := by
    simp only [after, before, step_resume hwait]
    exact Suggester.resume_of_other hcall horigin hnumber answer
  refine ⟨hnewer, fun h => by simp [hafter, h], fun h => by simp [hafter, h], ?_⟩
  cases h : topples with
  | false => simp [hafter, h]
  | true =>
    -- The session is over, and it was not before.
    rcases hlive with hlive | hlive <;> simp [hafter, h, before, hlive]

/-- While a newer call waits, the answer to an older request changes nothing, and the failure of
    that request ends the session of the newer call. -/
theorem superseded_answer_or_failure :
    let past : List Event := [.trigger Sample.trigger, .resume 0 (.entitlement (.ok false)),
      .resume 0 (.request (.ok (Sample.request (Sample.call .fresh) Sample.id)))] ++
        [.trigger Sample.trigger]
    ∃ a b, (fresh Sample.surroundings).Once past (Begins 0 a) ∧
      ((fresh Sample.surroundings).after past).suggester.session.origin = some b ∧ b ≠ a ∧
      ((fresh Sample.surroundings).after past).suggester.session.stage = .requesting ∧
      (((fresh Sample.surroundings).after past).step
          (.resume 0 (.completion (.ok [])))).1.suggester =
        ((fresh Sample.surroundings).after past).suggester ∧
      (((fresh Sample.surroundings).after past).step
          (.resume 0 (.completion (.error (.service (.notJson [])))))).1.suggester =
        ((fresh Sample.surroundings).after past).suggester.reset := by
  intro past
  -- The second trigger has begun a session of its own; the first call still waits for its answer.
  have hafter : (fresh Sample.surroundings).after past = Sample.overtaken := Sample.after_overtaken
  have hbegins : (fresh Sample.surroundings).Once past
      (Begins 0 (Suggester.fresh.start Sample.surroundings Sample.trigger).2) :=
    once_cons.mpr (Or.inl Sample.begins_fresh)
  have hwait : ((fresh Sample.surroundings).after past).Waits 0
      (.completion (Sample.call .fresh) (Sample.request (Sample.call .fresh) Sample.id) 0) := by
    rw [hafter]
    rfl
  have horigin : ((fresh Sample.surroundings).after past).suggester.session.origin = some
      (Sample.sent.suggester.start Sample.surroundings Sample.trigger).2 := by
    rw [hafter]
    rfl
  have hstage : ((fresh Sample.surroundings).after past).suggester.session.stage =
      .requesting := by
    rw [hafter]
    rfl
  have hother : (Sample.sent.suggester.start Sample.surroundings Sample.trigger).2 ≠
      (Suggester.fresh.start Sample.surroundings Sample.trigger).2 := by
    intro heq
    cases congrArg Origin.number heq
  -- The same call, once with an empty answer and once with a failure.
  obtain ⟨-, hkept, -⟩ :=
    superseded_iff hbegins hwait horigin hother (Or.inl hstage) (.completion (.ok []))
  obtain ⟨-, -, hended, -⟩ := superseded_iff hbegins hwait horigin hother (Or.inl hstage)
    (.completion (.error (.service (.notJson []))))
  exact ⟨_, _, hbegins, horigin, hother, hstage, hkept rfl, hended rfl⟩

/-- The failure of an older request takes away what a newer call has displayed. -/
theorem superseded_failure_ends_newer :
    let past : List Event := [.trigger Sample.trigger, .resume 0 (.entitlement (.ok false)),
      .resume 0 (.request (.ok (Sample.request (Sample.call .fresh) Sample.id)))] ++
        [.trigger Sample.trigger] ++ [.resume 1 (.entitlement (.ok false)),
      .resume 1 (.request (.ok (Sample.request (Sample.call Sample.sent.suggester)
        (IdSource.counting.suggestion 1)))),
      .resume 1 (.completion (.ok [['y']]))]
    let before := (fresh Sample.surroundings).after past
    let after := (before.step (.resume 0 (.completion (.error (.service (.notJson [])))))).1
    (∃ a b, (fresh Sample.surroundings).Once past (Begins 0 a) ∧
        before.suggester.session.origin = some b ∧ a.number < b.number) ∧
      before.suggester.session.stage = .displayed ∧ before.suggester.session.items ≠ [] ∧
      after.suggester.session.stage = .idle ∧ after.suggester.session.items = [] := by
  intro past before after
  have hbegins : (fresh Sample.surroundings).Once past
      (Begins 0 (Suggester.fresh.start Sample.surroundings Sample.trigger).2) :=
    once_cons.mpr (Or.inl Sample.begins_fresh)
  have hbefore : before = Sample.overtaken.after [.resume 1 (.entitlement (.ok false)),
      .resume 1 (.request (.ok (Sample.request (Sample.call Sample.sent.suggester)
        (IdSource.counting.suggestion 1)))),
      .resume 1 (.completion (.ok [['y']]))] := by
    rw [← Sample.after_overtaken, ← after_append]
  simp only [after, hbefore]
  refine ⟨⟨_, _, hbegins, rfl, by decide⟩, rfl, ?_, rfl, rfl⟩
  -- The session that is lost has a text.
  intro hnil
  cases hnil

end Lifecycle

end PlaybookAssist
