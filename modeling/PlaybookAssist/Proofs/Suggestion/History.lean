import Mathlib.Data.List.Induction
import PlaybookAssist.Proofs.Suggestion.Change
import PlaybookAssist.Request.Inquiry

/-!
# What has happened in a run

A run is a list of events. A deed is a property of an event together with the lifecycle that it
meets, such as that a call begins a session or sends a request. A deed has been done once if there
was an event in the run with that property. Statements about runs speak of deeds and their order,
and of nothing that the calls themselves keep.

## Main definitions

- `Lifecycle.after` : the lifecycle after a run
- `Lifecycle.Once`, `Lifecycle.Always`, `Lifecycle.AtMostOnce` : a deed has been done, every event
  has a property, no two events have it
- `Lifecycle.Opens`, `Lifecycle.Begins`, `Lifecycle.Asks`, `Lifecycle.Inquires`,
  `Lifecycle.SendsRequest`, `Lifecycle.SendsReport`, `Lifecycle.Shows`, `Lifecycle.Succeeds` : the
  deeds
- `Lifecycle.Builds` : requests are made of what has been asked

## Main statements

- `Lifecycle.begins_inv`, `Lifecycle.step_session`, `Lifecycle.waits_step` : which deeds change the
  session and the wait of a call
- `Lifecycle.step_displayed`, `Lifecycle.step_details`, `Lifecycle.step_offers`,
  `Lifecycle.step_finished` : what only a call that succeeds does
-/

namespace PlaybookAssist.Lifecycle

variable {l : Lifecycle} {e : Event} {es : List Event} {n m : Nat}
  {P Q : Lifecycle → Event → Prop}

/-! ## Runs -/

/-- The lifecycle after some events. -/
def after (l : Lifecycle) (es : List Event) : Lifecycle :=
  (l.run es).1

@[simp] theorem after_nil : l.after [] = l :=
  rfl

@[simp] theorem after_cons : l.after (e :: es) = (l.step e).1.after es :=
  rfl

theorem after_append (es es' : List Event) : l.after (es ++ es') = (l.after es).after es' := by
  induction es generalizing l with
  | nil => rfl
  | cons e es ih => simp only [List.cons_append, after_cons, ih]

theorem after_concat : l.after (es ++ [e]) = ((l.after es).step e).1 := by
  rw [after_append]
  rfl

/-- At some event of the run, the property held of it and the lifecycle that it met. -/
def Once (l : Lifecycle) (es : List Event) (P : Lifecycle → Event → Prop) : Prop :=
  ∃ past e rest, es = past ++ e :: rest ∧ P (l.after past) e

/-- At each event of the run, the property held of it and the lifecycle that it met. -/
def Always (l : Lifecycle) (es : List Event) (P : Lifecycle → Event → Prop) : Prop :=
  ∀ past e rest, es = past ++ e :: rest → P (l.after past) e

/-- No two events of the run have the property, each of the lifecycle that it met. -/
def AtMostOnce (l : Lifecycle) (es : List Event) (P : Lifecycle → Event → Prop) : Prop :=
  ∀ past e rest, es = past ++ e :: rest → P (l.after past) e → ¬ l.Once past P

theorem not_once_nil : ¬ l.Once [] P := by
  rintro ⟨past, e, rest, hsplit, -⟩
  simp at hsplit

theorem once_cons : l.Once (e :: es) P ↔ P l e ∨ (l.step e).1.Once es P := by
  constructor
  · rintro ⟨past, e', rest, hsplit, hp⟩
    rcases List.cons_eq_append_iff.mp hsplit with ⟨rfl, hrest⟩ | ⟨past', rfl, rfl⟩
    · obtain ⟨rfl, -⟩ := List.cons.inj hrest
      exact Or.inl hp
    · exact Or.inr ⟨past', e', rest, rfl, hp⟩
  · rintro (hp | ⟨past, e', rest, rfl, hp⟩)
    · exact ⟨[], e, es, rfl, hp⟩
    · exact ⟨e :: past, e', rest, rfl, hp⟩

theorem always_nil : l.Always [] P := by
  intro past e rest hsplit
  simp at hsplit

theorem always_cons : l.Always (e :: es) P ↔ P l e ∧ (l.step e).1.Always es P := by
  constructor
  · intro halways
    refine ⟨halways [] e es rfl, fun past e' rest hsplit => ?_⟩
    exact halways (e :: past) e' rest (by simp [hsplit])
  · rintro ⟨hp, halways⟩ past e' rest hsplit
    rcases List.cons_eq_append_iff.mp hsplit with ⟨rfl, hrest⟩ | ⟨past', rfl, hrest⟩
    · obtain ⟨rfl, -⟩ := List.cons.inj hrest
      exact hp
    · exact halways past' e' rest hrest

/-- The last event of a run, or an earlier one. -/
theorem eq_concat_split {past rest : List Event} {e' : Event}
    (hsplit : es ++ [e] = past ++ e' :: rest) :
    (past = es ∧ e' = e) ∨ ∃ rest', es = past ++ e' :: rest' := by
  -- What follows `e'` is nothing, or it ends with `e`.
  rcases List.eq_nil_or_concat rest with rfl | ⟨rest', e'', rfl⟩
  · obtain ⟨rfl, he⟩ := List.append_inj' hsplit rfl
    exact Or.inl ⟨rfl, by simpa using he.symm⟩
  · rw [List.concat_eq_append, ← List.cons_append, ← List.append_assoc] at hsplit
    exact Or.inr ⟨rest', (List.append_inj' hsplit rfl).1⟩

theorem once_concat : l.Once (es ++ [e]) P ↔ l.Once es P ∨ P (l.after es) e := by
  constructor
  · rintro ⟨past, e', rest, hsplit, hp⟩
    rcases eq_concat_split hsplit with ⟨rfl, rfl⟩ | ⟨rest', rfl⟩
    · exact Or.inr hp
    · exact Or.inl ⟨past, e', rest', rfl, hp⟩
  · rintro (⟨past, e', rest, rfl, hp⟩ | hp)
    · exact ⟨past, e', rest ++ [e], by simp, hp⟩
    · exact ⟨es, e, [], rfl, hp⟩

theorem once_append {es' : List Event} :
    l.Once (es ++ es') P ↔ l.Once es P ∨ (l.after es).Once es' P := by
  induction es generalizing l with
  | nil => simp [not_once_nil]
  | cons e es ih => simp only [List.cons_append, once_cons, after_cons, ih, or_assoc]

theorem always_concat : l.Always (es ++ [e]) P ↔ l.Always es P ∧ P (l.after es) e := by
  constructor
  · intro halways
    refine ⟨fun past e' rest hsplit => ?_, halways es e [] rfl⟩
    exact halways past e' (rest ++ [e]) (by simp [hsplit])
  · rintro ⟨halways, hp⟩ past e' rest hsplit
    rcases eq_concat_split hsplit with ⟨rfl, rfl⟩ | ⟨rest', hsplit'⟩
    · exact hp
    · exact halways past e' rest' hsplit'

theorem Once.mono (himp : ∀ l e, P l e → Q l e) (honce : l.Once es P) : l.Once es Q := by
  obtain ⟨past, e, rest, hsplit, hp⟩ := honce
  exact ⟨past, e, rest, hsplit, himp _ _ hp⟩

theorem Once.append (h : l.Once es P) (es' : List Event) : l.Once (es ++ es') P := by
  obtain ⟨past, e, rest, rfl, hp⟩ := h
  exact ⟨past, e, rest ++ es', by simp, hp⟩

theorem Always.of_append {es' : List Event} (h : l.Always (es ++ es') P) : l.Always es P := by
  intro past e rest hsplit
  exact h past e (rest ++ es') (by simp [hsplit])

/-! ## Deeds -/

/-- A call for a suggestion is opened. -/
def Opens (n : Nat) (t : Trigger) (l : Lifecycle) (e : Event) : Prop :=
  (e = .trigger t ∨ e = .ask t) ∧ n = l.calls.length

/-- Call `n` begins the session `o`. -/
def Begins (n : Nat) (o : Origin) (l : Lifecycle) (e : Event) : Prop :=
  (∃ progress, (l.step e).2.call = some (n, progress)) ∧
    (l.step e).1.suggester.begun = l.suggester.begun + 1 ∧
    (l.step e).1.suggester.session.origin = some o

/-- Call `n` asks someone for something, and waits from now on. -/
def Asks (n : Nat) (wait : Wait) (l : Lifecycle) (e : Event) : Prop :=
  (l.step e).1.Waits n wait ∧ ¬ l.Waits n wait

/-- Call `n` asks for its request to be built while `o` is the session, if there is one. -/
def Inquires (n : Nat) (o : Option Origin) (l : Lifecycle) (e : Event) : Prop :=
  (∃ call inquiry since, Asks n (.request call inquiry since) l e) ∧
    (l.step e).1.suggester.session.origin = o

/-- Call `n` sends a completion request to the service. -/
def SendsRequest (n : Nat) (r : CompletionRequest) (l : Lifecycle) (e : Event) : Prop :=
  ∃ call since, Asks n (.completion call r since) l e

/-- Call `n` sends a report to the service. -/
def SendsReport (n : Nat) (f : Feedback) (l : Lifecycle) (e : Event) : Prop :=
  ∃ next, Asks n (.feedback f next) l e

/-- Call `n` gets predictions and shows them for the session `o`. -/
def Shows (n : Nat) (o : Origin) (shown : Shown) (predictions : List Text) (l : Lifecycle)
    (e : Event) : Prop :=
  e = .resume n (.completion (.ok predictions)) ∧
    (l.step e).1.suggester.session.origin = some o ∧
    (l.step e).1.suggester.session.shown = some shown ∧
    (l.step e).1.suggester.session.isDisplayed = true ∧
    (l.step e).2.call = some (n, .finished (l.step e).1.suggester.session.items)

/-- Call `n` gets predictions while the session with its number is still the current one, and its
    trigger has not been taken back. -/
structure Succeeds (n : Nat) (o : Origin) (predictions : List Text) (l : Lifecycle) (e : Event) :
    Prop where
  event : e = .resume n (.completion (.ok predictions))
  waits : ∃ call r since, l.Waits n (.completion call r since) ∧ o.number = call.number ∧
    l.surroundings.isCancelled call.trigger = false
  origin : l.suggester.session.origin = some o
  ne_nil : predictions ≠ []

/-- Who answers to a question for a request makes it of the inquiry, of whatever is found around it;
    `draw n` is the fresh id for the request of call `n`, should it need one. -/
def Builds (draw : Nat → Text) (l : Lifecycle) (e : Event) : Prop :=
  ∀ n call inquiry since r, l.Waits n (.request call inquiry since) →
    e = .resume n (.request (.ok r)) →
    ∃ (_ : Place) (fs : FileTree) (workspace : Workspace) (modelId : Option Text)
      (cache : RoleCache), (inquiry.request fs workspace modelId (draw n) cache).2 = .ok r

/-- Only the answer to a question for a request can be made otherwise. -/
theorem builds_of_ne {draw : Nat → Text} (h : ∀ n r, e ≠ .resume n (.request (.ok r))) :
    Builds draw l e :=
  fun n _ _ _ r _ he => absurd he (h n r)

/-! ## Deeds and changes -/

/-- What it takes to begin a session, and what it brings. -/
theorem begins_inv {o : Origin} (h : Begins n o l e) :
    ∃ t, l.Comes e n t ∧ o = (l.suggester.start l.surroundings t).2 ∧
      ((l.step e).1.suggester = (l.suggester.start l.surroundings t).1 ∨
        (l.step e).1.suggester = (l.suggester.start l.surroundings t).1.reset) ∧
      ∃ w, l.MovesOn (l.step e).1 n w ∧ ∀ wait, w = some wait → Opening t o wait := by
  obtain ⟨⟨progress, hcall⟩, hbegun, horigin⟩ := h
  have hchange := l.step_change e
  generalize (l.step e).1 = l' at *
  generalize (l.step e).2 = happening at *
  cases hchange with
  | begin _ n' t _ effects progress' hcomes hmoves hp hwait hitems =>
    -- The call and its progress are those of the happening.
    obtain ⟨rfl, rfl⟩ : n' = n ∧ progress' = progress := by simpa using hcall
    have ho : o = (l.suggester.start l.surroundings t).2 := by
      rcases hp with hp | hp <;> simpa [hp] using horigin.symm
    exact ⟨t, hcomes, ho, hp, _, hmoves, ho ▸ hwait⟩
  -- Nothing else raises the number of sessions.
  | around | reset | deaf => simp at hbegun
  | quiet | replay | giveUp | fail | dismiss | inquire | send | shows => simp_all

/-- An event begins a session, or it keeps the one there is, or there is none any more. -/
theorem step_session (l : Lifecycle) (e : Event) :
    (∃ n o, Begins n o l e) ∨
      ((l.step e).1.suggester.begun = l.suggester.begun ∧
        ((l.step e).1.suggester.session.origin = l.suggester.session.origin ∨
          (l.step e).1.suggester.session.origin = none)) := by
  have hchange := l.step_change e
  simp only [Begins]
  generalize (l.step e).1 = l' at *
  generalize (l.step e).2 = happening at *
  cases hchange with
  | begin _ n t _ effects progress hcomes hmoves hp hwait hitems =>
    refine Or.inl ⟨n, (l.suggester.start l.surroundings t).2, ⟨progress, rfl⟩, ?_⟩
    rcases hp with hp | hp <;> simp [hp]
  | around | reset | deaf => exact Or.inr ⟨rfl, Or.inl rfl⟩
  | dismiss _ action ending next _ effects hends hmoves hp hdisplayed =>
    exact Or.inr (by simp [hp])
  | quiet | replay | giveUp | fail | inquire | send | shows => exact Or.inr (by simp [*])

/-- A wait that an event brings about. -/
inductive NewWait (l : Lifecycle) (e : Event) (n : Nat) : Wait → Prop where
  | feedback (action : UserAction) (next : Option Trigger) (hends : l.Ends e action next)
      (hn : n = l.calls.length) (hdisplayed : l.suggester.session.isDisplayed = true)
      (hgone : (l.step e).1.suggester.session = .blank) :
      NewWait l e n (.feedback (l.suggester.session.report action l.surroundings.now) next)
  | opening (t : Trigger) (wait : Wait) (hcomes : l.Comes e n t)
      (hbegins : Begins n (l.suggester.start l.surroundings t).2 l e)
      (hopening : Opening t (l.suggester.start l.surroundings t).2 wait) :
      NewWait l e n wait
  | request (call : Pending) (entitled : Bool) (inquiry : Inquiry)
      (he : e = .resume n (.entitlement (.ok entitled)))
      (hwait : l.Waits n (.entitlement call))
      (hp : (l.step e).1.suggester = l.suggester)
      (hid : inquiry.suggestionId = l.suggester.session.id) :
      NewWait l e n (.request call inquiry l.surroundings.now)
  | completion (call : Pending) (inquiry : Inquiry) (since : Float) (r : CompletionRequest)
      (he : e = .resume n (.request (.ok r))) (hwait : l.Waits n (.request call inquiry since))
      (hp : (l.step e).1.suggester = l.suggester) :
      NewWait l e n (.completion call r since)

/-- A call waits for what it waited for before, or the event has brought it about. -/
theorem waits_step {wait : Wait} (h : (l.step e).1.Waits m wait) :
    l.Waits m wait ∨ l.NewWait e m wait := by
  have hchange := l.step_change e
  generalize hl' : (l.step e).1 = l' at *
  generalize hhappening : (l.step e).2 = happening at *
  -- A wait is kept unless its call moves on; so for every change the call in question is compared
  -- with the one that moves.
  cases hchange with
  | around | reset | deaf => exact Or.inl h
  | quiet _ n _ _ _ hmoves | giveUp _ n _ _ hmoves | replay _ _ _ hmoves
  | fail _ _ _ _ _ _ _ _ _ hmoves | shows _ _ _ _ _ _ _ _ _ _ _ hmoves =>
    rcases hmoves.waits_iff.mp h with ⟨-, hnone⟩ | ⟨-, hold⟩
    · cases hnone
    · exact Or.inl hold
  | begin _ n t _ effects progress hcomes hmoves hp hwait hitems =>
    -- A call that begins waits as its beginning says.
    rcases hmoves.waits_iff.mp h with ⟨rfl, hnew⟩ | ⟨-, hold⟩
    · refine Or.inr (.opening t wait hcomes ⟨⟨progress, by rw [hhappening]⟩, ?_⟩ (hwait wait hnew))
      rcases hp with hp | hp <;> simp [hl', hp]
    · exact Or.inl hold
  | dismiss _ action ending next _ effects hends hmoves hp hdisplayed =>
    -- A dismissal makes its call wait for the report.
    rcases hmoves.waits_iff.mp h with ⟨hm, hnew⟩ | ⟨-, hold⟩
    · cases hnew
      exact Or.inr (.feedback action next hends hm hdisplayed (by simp [hl', hp]))
    · exact Or.inl hold
  | inquire n call entitled inquiry _ hwait hmoves hp hid =>
    -- An answer on the seat is followed by an inquiry, and a request that is built by its sending.
    rcases hmoves.waits_iff.mp h with ⟨rfl, hnew⟩ | ⟨-, hold⟩
    · cases hnew
      exact Or.inr (.request call entitled inquiry rfl hwait (hl' ▸ hp) hid)
    · exact Or.inl hold
  | send n call inquiry since r _ hwait hmoves hp =>
    rcases hmoves.waits_iff.mp h with ⟨rfl, hnew⟩ | ⟨-, hold⟩
    · cases hnew
      exact Or.inr (.completion call inquiry since r rfl hwait (hl' ▸ hp))
    · exact Or.inl hold

/-- What a call asks for, the event brings about. -/
theorem Asks.newWait {wait : Wait} (h : Asks n wait l e) : l.NewWait e n wait :=
  (waits_step h.1).resolve_left h.2

/-- Whoever waits has asked. -/
theorem once_asks_of_waits {s : Surroundings} {wait : Wait}
    (h : ((fresh s).after es).Waits n wait) : (fresh s).Once es (Asks n wait) := by
  induction es using List.reverseRecOn with
  | nil => simp [Waits, fresh] at h
  | append_singleton es e ih =>
    rw [after_concat] at h
    by_cases hold : ((fresh s).after es).Waits n wait
    · exact once_concat.mpr (Or.inl (ih hold))
    · exact once_concat.mpr (Or.inr ⟨h, hold⟩)

/-- What is displayed was displayed before, or a call that succeeds shows it now. -/
theorem step_displayed (hdisplayed : (l.step e).1.suggester.session.isDisplayed = true) :
    (l.step e).1.suggester.session = l.suggester.session ∨
      ∃ n o shown predictions, Shows n o shown predictions l e ∧ Succeeds n o predictions l e := by
  have hchange := l.step_change e
  simp only [Shows]
  generalize (l.step e).1 = l' at *
  generalize (l.step e).2 = happening at *
  cases hchange with
  -- Only a success displays anything that was not displayed before.
  | shows n call r since predictions o shown first others _ hwait hmoves hp horigin hnumber
      hcancelled hitems hshown =>
    refine Or.inr ⟨n, o, shown, predictions, ⟨rfl, ?_⟩,
      ⟨rfl, ⟨call, r, since, hwait, hnumber, hcancelled⟩, horigin, ?_⟩⟩
    · rw [hp]
      exact ⟨horigin, rfl, rfl, rfl⟩
    · rintro rfl
      cases hitems
  -- A session that begins is not displayed yet.
  | begin _ n t _ effects progress hcomes hmoves hp hwait hitems =>
    rcases hp with hp | hp <;> simp [hp] at hdisplayed
  | around | deaf => exact Or.inl rfl
  | quiet _ _ _ _ _ _ hp | replay _ _ _ _ hp | inquire _ _ _ _ _ _ _ hp
  | send _ _ _ _ _ _ _ _ hp => exact Or.inl (congrArg Suggester.session hp)
  -- Whatever ends a session leaves nothing displayed.
  | reset => simp at hdisplayed
  | giveUp | fail | dismiss => simp_all

/-- What is handed on was handed on before, or a call succeeds. -/
theorem step_details (l : Lifecycle) (e : Event) :
    (l.step e).1.suggester.details = l.suggester.details ∨
      ∃ n o predictions, Succeeds n o predictions l e := by
  have hchange := l.step_change e
  generalize (l.step e).1 = l' at *
  generalize (l.step e).2 = happening at *
  cases hchange with
  | shows n call r since predictions o shown first others _ hwait hmoves hp horigin hnumber
      hcancelled hitems hshown =>
    refine Or.inr ⟨n, o, predictions,
      ⟨rfl, ⟨call, r, since, hwait, hnumber, hcancelled⟩, horigin, ?_⟩⟩
    rintro rfl
    cases hitems
  | begin _ n t _ effects progress hcomes hmoves hp hwait hitems =>
    rcases hp with hp | hp <;> exact Or.inl (by simp [hp])
  | around | reset | deaf => exact Or.inl rfl
  | quiet | replay | giveUp | fail | dismiss | inquire | send => exact Or.inl (by simp [*])

/-- A call returns texts if it succeeds, or if its trigger finds them on display at its place. -/
theorem step_offers {items : List Text} (hcall : (l.step e).2.call = some (n, .finished items))
    (hitems : items ≠ []) :
    (∃ o predictions, Succeeds n o predictions l e) ∨
      ∃ t shown, e = .trigger t ∧ n = l.calls.length ∧ items = l.suggester.session.items ∧
        l.suggester.session.isDisplayed = true ∧ l.suggester.session.shown = some shown ∧
        shown.position = t.position := by
  have hchange := l.step_change e
  generalize (l.step e).1 = l' at *
  generalize (l.step e).2 = happening at *
  cases hchange with
  -- Items come from a success or from a replay.
  | shows n' call r since predictions o shown first others _ hwait hmoves hp horigin hnumber
      hcancelled hfirst hshown =>
    obtain ⟨rfl, rfl⟩ : n' = n ∧ first :: others = items := by simpa using hcall
    refine Or.inl ⟨o, predictions,
      ⟨rfl, ⟨call, r, since, hwait, hnumber, hcancelled⟩, horigin, ?_⟩⟩
    rintro rfl
    cases hfirst
  | replay t _ shown hmoves hp hdisplayed hshown hposition =>
    obtain ⟨rfl, rfl⟩ : l.calls.length = n ∧ l.suggester.session.items = items := by
      simpa using hcall
    exact Or.inr ⟨t, shown, rfl, rfl, rfl, hdisplayed, hshown, hposition⟩
  -- A call that begins with an end has no items, and a quiet one has none either.
  | begin _ n' t _ effects progress hcomes hmoves hp hwait hnil =>
    obtain ⟨-, rfl⟩ : n' = n ∧ progress = .finished items := by simpa using hcall
    exact absurd (hnil items rfl) hitems
  | quiet _ n' _ effects progress hmoves hp hprogress =>
    obtain ⟨-, rfl⟩ : n' = n ∧ progress = .finished items := by simpa using hcall
    rcases hprogress with hprogress | ⟨f, hprogress⟩ <;> simp_all
  | around | reset | deaf | giveUp | fail | dismiss | inquire | send => simp_all

/-- A call that has been opened before returns texts only if it succeeds. -/
theorem step_finished {items : List Text} (hknown : n < l.calls.length)
    (hcall : (l.step e).2.call = some (n, .finished items)) (hitems : items ≠ []) :
    ∃ o predictions, Succeeds n o predictions l e := by
  rcases step_offers hcall hitems with hsucceeds | ⟨t, shown, -, hn, -⟩
  · exact hsucceeds
  · exact absurd hn (Nat.ne_of_lt hknown)

/-! ## What events keep -/

theorem ids_step (l : Lifecycle) (e : Event) :
    (l.step e).1.surroundings.ids = l.surroundings.ids := by
  have hchange := l.step_change e
  generalize (l.step e).1 = l' at *
  generalize (l.step e).2 = happening at *
  cases hchange with
  | around _ _ hids => exact hids
  | reset | deaf => rfl
  | quiet _ _ _ _ _ hmoves | giveUp _ _ _ _ hmoves | replay _ _ _ hmoves
  | fail _ _ _ _ _ _ _ _ _ hmoves | shows _ _ _ _ _ _ _ _ _ _ _ hmoves
  | begin _ _ _ _ _ _ _ hmoves | dismiss _ _ _ _ _ _ _ hmoves | inquire _ _ _ _ _ _ hmoves
  | send _ _ _ _ _ _ _ hmoves => rw [hmoves.surroundings]

/-- No call is forgotten. -/
theorem length_le_step (l : Lifecycle) (e : Event) :
    l.calls.length ≤ (l.step e).1.calls.length := by
  have hchange := l.step_change e
  generalize (l.step e).1 = l' at *
  generalize (l.step e).2 = happening at *
  cases hchange with
  | around | reset | deaf => exact Nat.le_refl _
  | quiet _ _ _ _ _ hmoves | giveUp _ _ _ _ hmoves | replay _ _ _ hmoves
  | fail _ _ _ _ _ _ _ _ _ hmoves | shows _ _ _ _ _ _ _ _ _ _ _ hmoves
  | begin _ _ _ _ _ _ _ hmoves | dismiss _ _ _ _ _ _ _ hmoves | inquire _ _ _ _ _ _ hmoves
  | send _ _ _ _ _ _ _ hmoves => exact hmoves.length_le

theorem Opens.lt_length {t : Trigger} (h : Opens n t l e) : n < (l.step e).1.calls.length := by
  obtain ⟨rfl | rfl, rfl⟩ := h <;> simp [step, beginCall]

theorem Opens.unique {t t' : Trigger} (h : Opens n t l e) (h' : Opens n t' l e) : t = t' := by
  obtain ⟨rfl | rfl, -⟩ := h <;> simpa [Opens] using h'.1

theorem Asks.lt_length {wait : Wait} (h : Asks n wait l e) : n < (l.step e).1.calls.length :=
  h.1.lt_length

theorem Begins.lt_length {o : Origin} (h : Begins n o l e) : n < (l.step e).1.calls.length := by
  obtain ⟨t, -, -, -, w, hmoves, -⟩ := begins_inv h
  exact hmoves.lt_length

theorem Begins.unique {o o' : Origin} (h : Begins n o l e) (h' : Begins m o' l e) :
    n = m ∧ o = o' := by
  obtain ⟨⟨progress, hcall⟩, -, horigin⟩ := h
  obtain ⟨⟨progress', hcall'⟩, -, horigin'⟩ := h'
  simp_all

end PlaybookAssist.Lifecycle
