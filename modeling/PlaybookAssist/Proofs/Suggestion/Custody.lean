import PlaybookAssist.Proofs.Suggestion.History

/-!
# Calls and their sessions

A call remembers its session by a number. In every run the numbers are in order: no two sessions
have the same one, no call begins two sessions, a waiting call remembers the session that it began
itself, and the current session is the latest one that was begun. So to compare numbers is to ask
for the very session.

## Main definitions

- `Lifecycle.Custody` : the numbers are in order after a run

## Main statements

- `Lifecycle.Once.together` : a call asks only once for each kind of thing
- `Lifecycle.custody` : they are after every run
-/

namespace PlaybookAssist.Lifecycle

variable {s : Surroundings} {es : List Event} {e : Event} {n m : Nat}

/-! ## The trigger of a call -/

/-- A deed of a call that the lifecycle knows afterwards is one of a call that it knows. -/
theorem Once.lt_length {P : Lifecycle → Event → Prop}
    (hknown : ∀ l e, P l e → n < (l.step e).1.calls.length) (h : (fresh s).Once es P) :
    n < ((fresh s).after es).calls.length := by
  induction es using List.reverseRecOn with
  | nil => exact absurd h not_once_nil
  | append_singleton es e ih =>
    rw [after_concat]
    rcases once_concat.mp h with hpast | hnow
    · exact Nat.lt_of_lt_of_le (ih hpast) (length_le_step _ _)
    · exact hknown _ _ hnow

/-- A call has only one trigger. -/
theorem Once.opens_unique {t t' : Trigger} (h : (fresh s).Once es (Opens n t))
    (h' : (fresh s).Once es (Opens n t')) : t = t' := by
  induction es using List.reverseRecOn with
  | nil => exact absurd h not_once_nil
  | append_singleton es e ih =>
    -- A call that is opened has the number that no earlier call has.
    rcases once_concat.mp h with hpast | hnow <;> rcases once_concat.mp h' with hpast' | hnow'
    · exact ih hpast hpast'
    · exact absurd hnow'.2 (Nat.ne_of_lt (hpast.lt_length fun _ _ => Opens.lt_length))
    · exact absurd hnow.2 (Nat.ne_of_lt (hpast'.lt_length fun _ _ => Opens.lt_length))
    · exact hnow.unique hnow'

/-! ## The order of waits -/

/-- What a call waits for later is further on in the order of waits. -/
theorem NewWait.rank_lt {l : Lifecycle} {wait : Wait} {k : Nat} (hnew : l.NewWait e n wait)
    (hknown : n < l.calls.length) (hle : ∀ wait', l.Waits n wait' → k ≤ wait'.rank) :
    k < wait.rank := by
  cases hnew with
  | feedback action next hends hn hdisplayed hgone => exact absurd hn (Nat.ne_of_lt hknown)
  | opening t _ hcomes hbegins hopening =>
    cases hcomes with
    | trigger | ask => exact absurd hknown (Nat.lt_irrefl _)
    | resume n report t result hwait =>
      exact Nat.lt_of_le_of_lt (hle _ hwait) hopening.rank_pos
  | request call entitled inquiry he hwait hp hid => exact Nat.lt_succ_of_le (hle _ hwait)
  | completion call inquiry since r he hwait hp => exact Nat.lt_succ_of_le (hle _ hwait)

theorem Once.rank_le {wait wait' : Wait} (h : (fresh s).Once es (Asks n wait))
    (hwait : ((fresh s).after es).Waits n wait') : wait.rank ≤ wait'.rank := by
  induction es using List.reverseRecOn generalizing wait' with
  | nil => exact absurd h not_once_nil
  | append_singleton es e ih =>
    rw [after_concat] at hwait
    rcases once_concat.mp h with hpast | hnow
    · rcases waits_step hwait with hold | hnew
      · exact ih hpast hold
      · exact Nat.le_of_lt
          (hnew.rank_lt (hpast.lt_length fun _ _ => Asks.lt_length) fun _ => ih hpast)
    · obtain rfl := hnow.1.unique hwait
      exact Nat.le_refl _

/-- A call never asks again for what it has asked for, nor for anything before that. -/
theorem Once.rank_lt {wait wait' : Wait} (h : (fresh s).Once es (Asks n wait))
    (hasks : Asks n wait' ((fresh s).after es) e) : wait.rank < wait'.rank :=
  hasks.newWait.rank_lt (h.lt_length fun _ _ => Asks.lt_length) fun _ => h.rank_le

/-- Two deeds by which one call asks for the same kind of thing are done at the same event. -/
theorem Once.together {P Q : Lifecycle → Event → Prop} {k : Nat} (h : (fresh s).Once es P)
    (h' : (fresh s).Once es Q) (hP : ∀ l e, P l e → ∃ wait, Asks n wait l e ∧ wait.rank = k)
    (hQ : ∀ l e, Q l e → ∃ wait, Asks n wait l e ∧ wait.rank = k) :
    (fresh s).Once es fun l e => P l e ∧ Q l e := by
  -- Induction over the events, for all pairs of properties that ask for a wait of one rank.
  induction es using List.reverseRecOn with
  | nil => exact absurd h not_once_nil
  | append_singleton es e ih =>
    -- At different events the ranks would be different.
    have hapart : ∀ {P Q : Lifecycle → Event → Prop},
        (∀ l e, P l e → ∃ wait, Asks n wait l e ∧ wait.rank = k) →
        (∀ l e, Q l e → ∃ wait, Asks n wait l e ∧ wait.rank = k) →
        (fresh s).Once es P → ¬ Q ((fresh s).after es) e := by
      rintro P Q hP hQ ⟨past, e', rest, hsplit, hp⟩ hq
      obtain ⟨wait, hasks, hrank⟩ := hP _ _ hp
      obtain ⟨wait', hasks', hrank'⟩ := hQ _ _ hq
      have hlt := Once.rank_lt ⟨past, e', rest, hsplit, hasks⟩ hasks'
      omega
    -- Both at the last event, both before it, or one before and one at it.
    rcases once_concat.mp h with hpast | hnow <;> rcases once_concat.mp h' with hpast' | hnow'
    · exact once_concat.mpr (Or.inl (ih hpast hpast'))
    · exact absurd hnow' (hapart hP hQ hpast)
    · exact absurd hnow (hapart hQ hP hpast')
    · exact once_concat.mpr (Or.inr ⟨hnow, hnow'⟩)

/-! ## The session of a call -/

/-- After the run, the numbers of calls and sessions are in order. -/
structure Custody (s : Surroundings) (es : List Event) : Prop where
  ids : ((fresh s).after es).surroundings.ids = s.ids
  number_lt : ∀ n o, (fresh s).Once es (Begins n o) →
    o.number < ((fresh s).after es).suggester.begun
  suggestionId : ∀ n o, (fresh s).Once es (Begins n o) →
    o.suggestionId = s.ids.suggestion o.number
  opened : ∀ n o, (fresh s).Once es (Begins n o) →
    ∃ t, (fresh s).Once es (Opens n t) ∧ o.documentUri = t.document.uri
  eq_of_call : ∀ n o o', (fresh s).Once es (Begins n o) → (fresh s).Once es (Begins n o') → o = o'
  eq_of_number : ∀ n m o o', (fresh s).Once es (Begins n o) → (fresh s).Once es (Begins m o') →
    o.number = o'.number → n = m
  /-- The current session is the latest one. -/
  current : ∀ o, ((fresh s).after es).suggester.session.origin = some o →
    o.number + 1 = ((fresh s).after es).suggester.begun ∧ ∃ n, (fresh s).Once es (Begins n o)
  /-- A call that waits for a report to be taken has no session yet. -/
  unbegun : ∀ n report next, ((fresh s).after es).Waits n (.feedback report next) →
    ∀ o, ¬ (fresh s).Once es (Begins n o)
  asking : ∀ n report t, ((fresh s).after es).Waits n (.feedback report (some t)) →
    (fresh s).Once es (Opens n t)
  /-- Any other waiting call remembers its own session. -/
  serves : ∀ n wait call, ((fresh s).after es).Waits n wait → wait.call? = some call →
    (fresh s).Once es (Opens n call.trigger) ∧
      ∃ o, (fresh s).Once es (Begins n o) ∧ call.Serves call.trigger o

namespace Custody

theorem nil : Custody s [] where
  ids := rfl
  number_lt _ _ h := absurd h not_once_nil
  suggestionId _ _ h := absurd h not_once_nil
  opened _ _ h := absurd h not_once_nil
  eq_of_call _ _ _ h := absurd h not_once_nil
  eq_of_number _ _ _ _ h := absurd h not_once_nil
  current _ h := by simp [fresh, Suggester.fresh] at h
  unbegun _ _ _ h := by simp [Waits, fresh] at h
  asking _ _ _ h := by simp [Waits, fresh] at h
  serves _ _ _ h := by simp [Waits, fresh] at h

/-- Whoever comes to ask for a suggestion has been opened with that trigger. -/
theorem once_opens_of_comes (h : Custody s es) {t : Trigger}
    (hcomes : ((fresh s).after es).Comes e n t) : (fresh s).Once (es ++ [e]) (Opens n t) := by
  cases hcomes with
  | trigger t => exact once_concat.mpr (Or.inr ⟨Or.inl rfl, rfl⟩)
  | ask t => exact once_concat.mpr (Or.inr ⟨Or.inr rfl, rfl⟩)
  | resume n report t result hwait => exact once_concat.mpr (Or.inl (h.asking n report t hwait))

/-- A call that begins a session has not begun one before. -/
theorem not_once_begins_of_begins (h : Custody s es) {o o' : Origin}
    (hnow : Begins n o ((fresh s).after es) e) : ¬ (fresh s).Once es (Begins n o') := by
  intro hpast
  obtain ⟨t, hcomes, -⟩ := begins_inv hnow
  cases hcomes with
  | trigger t => exact Nat.lt_irrefl _ (hpast.lt_length fun _ _ => Begins.lt_length)
  | ask t => exact Nat.lt_irrefl _ (hpast.lt_length fun _ _ => Begins.lt_length)
  | resume n report t result hwait => exact h.unbegun n report _ hwait o' hpast

/-- The session that a call begins now has the number after all others, and the ids are those of
    its number and its trigger. -/
theorem begins_now (h : Custody s es) {o : Origin} (hnow : Begins n o ((fresh s).after es) e) :
    o.number = ((fresh s).after es).suggester.begun ∧
      o.suggestionId = s.ids.suggestion o.number ∧
      ∃ t, (fresh s).Once (es ++ [e]) (Opens n t) ∧ o.documentUri = t.document.uri := by
  obtain ⟨t, hcomes, rfl, -⟩ := begins_inv hnow
  exact ⟨rfl, by simp [h.ids], t, h.once_opens_of_comes hcomes, rfl⟩

/-- What a call remembers when it begins to wait is its own session. -/
theorem serves_now (h : Custody s es) {wait : Wait} {call : Pending}
    (hnew : ((fresh s).after es).NewWait e n wait) (hcall : wait.call? = some call) :
    (fresh s).Once (es ++ [e]) (Opens n call.trigger) ∧
      ∃ o, (fresh s).Once (es ++ [e]) (Begins n o) ∧ call.Serves call.trigger o := by
  -- A first wait is that of the session begun at this event; a later one inherits it from the wait
  -- before.
  cases hnew with
  | feedback action next hends hn hdisplayed hgone => cases hcall
  | opening t _ hcomes hbegins hopening =>
    have hserves := hopening.serves hcall
    obtain rfl := hserves.trigger
    exact ⟨h.once_opens_of_comes hcomes, _, once_concat.mpr (Or.inr hbegins), hserves⟩
  | request _ entitled inquiry he hwait hp hid =>
    cases hcall
    obtain ⟨hopens, o, hbegins, hserves⟩ := h.serves n _ call hwait rfl
    exact ⟨once_concat.mpr (Or.inl hopens), o, once_concat.mpr (Or.inl hbegins), hserves⟩
  | completion _ inquiry since r he hwait hp =>
    cases hcall
    obtain ⟨hopens, o, hbegins, hserves⟩ := h.serves n _ call hwait rfl
    exact ⟨once_concat.mpr (Or.inl hopens), o, once_concat.mpr (Or.inl hbegins), hserves⟩

/-- A call that begins a session does not wait for a report to be taken. -/
theorem not_begins_of_waits {report : Feedback} {next : Option Trigger} {o : Origin}
    {l : Lifecycle} (hwait : (l.step e).1.Waits n (.feedback report next)) :
    ¬ Begins n o l e := by
  intro hnow
  obtain ⟨t, -, -, -, w, hmoves, hopening⟩ := begins_inv hnow
  rcases hmoves.waits_iff.mp hwait with ⟨-, hw⟩ | ⟨hn, -⟩
  · cases hopening _ hw
  · exact hn rfl

theorem step (h : Custody s es) (e : Event) : Custody s (es ++ [e]) where
  ids := by
    rw [after_concat, ids_step, h.ids]
  number_lt n o honce := by
    rw [after_concat]
    rcases once_concat.mp honce with hpast | hnow
    -- The count of sessions never falls, so that an old number stays below it.
    · have hlt := h.number_lt n o hpast
      rcases step_session ((fresh s).after es) e with ⟨_, _, -, hbegun, -⟩ | ⟨hbegun, -⟩ <;> omega
    · have hnumber := (h.begins_now hnow).1
      have hbegun := hnow.2.1
      omega
  suggestionId n o honce := by
    rcases once_concat.mp honce with hpast | hnow
    · exact h.suggestionId n o hpast
    · exact (h.begins_now hnow).2.1
  opened n o honce := by
    -- Each kind of fact about a past event is kept, and the present event is read off.
    rcases once_concat.mp honce with hpast | hnow
    · obtain ⟨t, hopens, huri⟩ := h.opened n o hpast
      exact ⟨t, once_concat.mpr (Or.inl hopens), huri⟩
    · exact (h.begins_now hnow).2.2
  eq_of_call n o o' honce honce' := by
    -- Of two sessions of one call, the later one would be begun by a call that has begun one.
    rcases once_concat.mp honce with hpast | hnow <;>
      rcases once_concat.mp honce' with hpast' | hnow'
    · exact h.eq_of_call n o o' hpast hpast'
    · exact absurd hpast (h.not_once_begins_of_begins hnow')
    · exact absurd hpast' (h.not_once_begins_of_begins hnow)
    · exact (hnow.unique hnow').2
  eq_of_number n m o o' honce honce' hnumber := by
    -- The number of a session that is begun now is above those of all earlier ones.
    rcases once_concat.mp honce with hpast | hnow <;>
      rcases once_concat.mp honce' with hpast' | hnow'
    · exact h.eq_of_number n m o o' hpast hpast' hnumber
    · have hlt := h.number_lt n o hpast
      have heq := (h.begins_now hnow').1
      omega
    · have hlt := h.number_lt m o' hpast'
      have heq := (h.begins_now hnow).1
      omega
    · exact (hnow.unique hnow').1
  current o horigin := by
    rw [after_concat] at horigin ⊢
    rcases step_session ((fresh s).after es) e with ⟨n, o', hnow⟩ | ⟨hbegun, hkept | hgone⟩
    · -- The session that is begun now is the current one.
      obtain rfl : o' = o := by
        have hnew := hnow.2.2
        rw [horigin] at hnew
        exact (Option.some.inj hnew).symm
      have hnumber := (h.begins_now hnow).1
      have hbegun := hnow.2.1
      exact ⟨by omega, n, once_concat.mpr (Or.inr hnow)⟩
    · rw [hkept] at horigin
      obtain ⟨hnumber, n, hpast⟩ := h.current o horigin
      exact ⟨by omega, n, once_concat.mpr (Or.inl hpast)⟩
    · rw [hgone] at horigin
      cases horigin
  unbegun n report next hwait o honce := by
    rw [after_concat] at hwait
    rcases once_concat.mp honce with hpast | hnow
    · rcases waits_step hwait with hold | hnew
      · exact h.unbegun n report next hold o hpast
      · -- A call that begins to wait for a report has only been opened now.
        cases hnew with
        | feedback action next hends hn =>
          exact Nat.ne_of_lt (hpast.lt_length fun _ _ => Begins.lt_length) hn
        | opening t _ hcomes hbegins => exact h.not_once_begins_of_begins hbegins hpast
    · exact not_begins_of_waits hwait hnow
  asking n report t hwait := by
    rw [after_concat] at hwait
    rcases waits_step hwait with hold | hnew
    · exact once_concat.mpr (Or.inl (h.asking n report t hold))
    · cases hnew with
      | feedback action _ hends hn =>
        cases hends
        exact once_concat.mpr (Or.inr ⟨Or.inl rfl, hn⟩)
      | opening _ _ hcomes hbegins => exact absurd hbegins (not_begins_of_waits hwait)
  serves n wait call hwait hcall := by
    -- A wait that is new takes its session over from `serves_now`.
    rw [after_concat] at hwait
    rcases waits_step hwait with hold | hnew
    · obtain ⟨hopens, o, hbegins, hserves⟩ := h.serves n wait call hold hcall
      exact ⟨once_concat.mpr (Or.inl hopens), o, once_concat.mpr (Or.inl hbegins), hserves⟩
    · exact h.serves_now hnew hcall

end Custody

/-- After every run the numbers of calls and sessions are in order. -/
theorem custody (s : Surroundings) (es : List Event) : Custody s es := by
  induction es using List.reverseRecOn with
  | nil => exact .nil
  | append_singleton es e ih => exact ih.step e

/-! ## Whose session it is -/

/-- The session with the number that a waiting call remembers is the one that it began. -/
theorem begins_of_number_eq {wait : Wait} {call : Pending} {o : Origin}
    (hwait : ((fresh s).after es).Waits n wait) (hcall : wait.call? = some call)
    (horigin : ((fresh s).after es).suggester.session.origin = some o)
    (hnumber : o.number = call.number) : (fresh s).Once es (Begins n o) := by
  obtain ⟨-, o', hbegins', hserves⟩ := (custody s es).serves n wait call hwait hcall
  obtain ⟨-, m, hbegins⟩ := (custody s es).current o horigin
  obtain rfl : m = n :=
    (custody s es).eq_of_number m n o o' hbegins hbegins' (hnumber.trans hserves.number)
  exact hbegins

/-- A waiting call remembers the number of the session that it began. -/
theorem number_eq_of_begins {wait : Wait} {call : Pending} {o : Origin}
    (hwait : ((fresh s).after es).Waits n wait) (hcall : wait.call? = some call)
    (hbegins : (fresh s).Once es (Begins n o)) : call.number = o.number := by
  obtain ⟨-, o', hbegins', hserves⟩ := (custody s es).serves n wait call hwait hcall
  obtain rfl := (custody s es).eq_of_call n o o' hbegins hbegins'
  exact hserves.number

/-- No session is newer than the current one. -/
theorem number_le_of_begins {o o' : Origin} (hbegins : (fresh s).Once es (Begins n o))
    (horigin : ((fresh s).after es).suggester.session.origin = some o') :
    o.number ≤ o'.number := by
  have hlt := (custody s es).number_lt n o hbegins
  have hcurrent := ((custody s es).current o' horigin).1
  omega

end PlaybookAssist.Lifecycle
