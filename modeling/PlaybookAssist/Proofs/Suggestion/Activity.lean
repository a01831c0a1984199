import PlaybookAssist.Proofs.Suggestion.Offer
import PlaybookAssist.Proofs.Suggestion.Stranded

/-!
# The activity of a document

A document gets its activity when a trigger on it passes the check of its position for the first time.
From then on the log keeps the id and the text of that moment under the URI of the document, whatever
other triggers come on it or on other documents. A session is begun under the id that the log has
then, and requests and reports take the id from the session or from the call that began it.

## Main definitions

- `Lifecycle.PassesCheck` : the position of a trigger passes the check
- `Lifecycle.Assigned` : the activity that a document got at first
- `ActivityLog.Numbered` : the activities have the ids of their places in the log

## Main statements

- `Lifecycle.passesCheck_iff` : a session is begun exactly where the position passes the check
- `Lifecycle.logged` : the log holds what was assigned at first
- `Lifecycle.one_activity_per_document` : the ids that are sent
-/

namespace PlaybookAssist

/-! ## The log -/

namespace ActivityLog

variable {ids : IdSource} {uri other content : Text} {log : ActivityLog} {a a' : Activity}

/-- There is one activity under each URI, and each has the id of its place in the log. -/
structure Numbered (ids : IdSource) (log : ActivityLog) : Prop where
  nodup : (Table.keys log).Nodup
  id : ∀ k p, log[k]? = some p → p.2.id = ids.activity k

theorem idOf_of_find? (h : Table.find? uri log = some a) :
    log.idOf ids uri content = (log, a.id) := by
  rw [idOf, h]

/-- A new activity comes last. -/
theorem idOf_of_none (h : Table.find? uri log = none) :
    log.idOf ids uri content =
      (log ++ [(uri, ⟨ids.activity log.length, content⟩)], ids.activity log.length) := by
  have hnew : uri ∉ Table.keys log := by
    rw [← Table.hasKey_iff, Table.hasKey, h]
    exact Bool.false_ne_true
  rw [idOf, h]
  dsimp only
  rw [Table.set_of_not_mem hnew]

/-- What is in the log stays there, and there is an activity for the document from then on. -/
theorem find?_idOf (ids : IdSource) (uri content other : Text) (log : ActivityLog) :
    Table.find? other (log.idOf ids uri content).1 = (Table.find? other log).or
      (if other = uri then some ⟨ids.activity log.length, content⟩ else none) := by
  cases huri : Table.find? uri log with
  | some a =>
    rw [idOf_of_find? huri]
    by_cases hother : other = uri
    · rw [hother, huri, Option.some_or]
    · rw [if_neg hother, Option.or_none]
  | none =>
    rw [idOf_of_none huri, Table.find?_append]
    simp only [Table.find?, eq_comm]

/-- The id is the one that the log has from then on. -/
theorem find?_idOf_self (ids : IdSource) (uri content : Text) (log : ActivityLog) :
    ∃ a, Table.find? uri (log.idOf ids uri content).1 = some a ∧
      a.id = (log.idOf ids uri content).2 := by
  rw [find?_idOf, if_pos rfl]
  cases h : Table.find? uri log with
  | some a =>
    rw [idOf_of_find? h]
    exact ⟨a, rfl, rfl⟩
  | none =>
    rw [idOf_of_none h]
    exact ⟨_, rfl, rfl⟩

theorem Numbered.idOf (h : log.Numbered ids) : (log.idOf ids uri content).1.Numbered ids := by
  cases huri : Table.find? uri log with
  -- A known URI leaves the log as it is; a new one adds an activity at the end.
  | some a =>
    rw [idOf_of_find? huri]
    exact h
  | none =>
    have hset : (log.idOf ids uri content).1 =
        Table.set uri ⟨ids.activity log.length, content⟩ log := by
      rw [ActivityLog.idOf, huri]
    refine ⟨hset ▸ Table.nodup_keys_set h.nodup, fun k p hp => ?_⟩
    rw [idOf_of_none huri] at hp
    -- What was there keeps its place, and the new activity has the one behind.
    rcases Nat.lt_trichotomy k log.length with hlt | rfl | hgt
    · rw [List.getElem?_append_left hlt] at hp
      exact h.id k p hp
    · rw [List.getElem?_concat_length] at hp
      cases hp
      rfl
    · rw [List.getElem?_eq_none (by rw [List.length_append, List.length_singleton]; omega)] at hp
      cases hp

/-- Activities of different documents have different ids, if fresh ids are distinct. -/
theorem Numbered.eq_of_id (h : log.Numbered ids)
    (hids : ∀ j k, ids.activity j = ids.activity k → j = k) (ha : Table.find? uri log = some a)
    (ha' : Table.find? other log = some a') (hid : a.id = a'.id) : uri = other := by
  obtain ⟨j, hj⟩ := List.mem_iff_getElem?.mp (Table.mem_of_find? ha)
  obtain ⟨k, hk⟩ := List.mem_iff_getElem?.mp (Table.mem_of_find? ha')
  have hsame : ids.activity j = ids.activity k := by
    rw [← h.id j _ hj, ← h.id k _ hk]
    exact hid
  obtain rfl := hids j k hsame
  rw [hj] at hk
  exact congrArg Prod.fst (Option.some.inj hk)

end ActivityLog

/-! ## What a call asks to be built -/

/-- The request made of an inquiry carries the activity of the inquiry. -/
theorem Inquiry.activityId_request [Place] {q : Inquiry} {fs : FileTree} {workspace : Workspace}
    {modelId : Option Text} {freshId : Text} {cache : RoleCache} {r : CompletionRequest}
    (h : (q.request fs workspace modelId freshId cache).2 = .ok r) :
    r.metadata.map CompletionMetadata.activityId = some q.activityId := by
  obtain ⟨type, modelId, context, rfl⟩ := eq_requestWith h
  rfl

namespace Suggester

variable {s : Surroundings} {t : Trigger} {p : Suggester} {call call' : Pending} {q : Inquiry}
  {since : Float} {entitled : Bool}

/-- A call asks for its request under its own activity. -/
theorem activityId_of_afterEntitlement
    (h : (p.afterEntitlement s call entitled).2.2.wait? = some (.request call' q since)) :
    q.activityId = call'.activityId := by
  unfold afterEntitlement at h
  split at h
  · cases h
  · cases h
    rfl

theorem activityId_of_ask (h : (p.ask s t).2.2.wait? = some (.request call q since)) :
    q.activityId = call.activityId := by
  simp only [ask] at h
  split at h
  · cases h
  split at h
  · cases h
  split at h
  · cases h
  · cases h
  · cases h
  split at h
  · cases h
  · cases h
  split at h
  · cases h
  -- every other way out of the call waits for nothing, or not for the request
  · exact activityId_of_afterEntitlement h

end Suggester

namespace Lifecycle

variable {s : Surroundings} {draw : Nat → Text} {l : Lifecycle} {e : Event} {es : List Event}
  {n m : Nat} {t t' : Trigger} {o : Origin} {uri : Text} {a : Activity} {f : Feedback}
  {r : CompletionRequest} {call : Pending} {q : Inquiry} {since : Float} {st : Stretch}

/-! ## The check of a position -/

/-- Call `n` comes to the check of the position of `t`. -/
inductive Checks (n : Nat) (t : Trigger) (l : Lifecycle) : Event → Prop where
  /-- The guards let the trigger through, and nothing is shown. -/
  | trigger (hpasses : t.Passes l.surroundings)
      (hidle : l.suggester.session.isDisplayed = false) (hn : n = l.calls.length) :
      Checks n t l (.trigger t)
  | ask (hn : n = l.calls.length) : Checks n t l (.ask t)
  /-- What was shown has been reported on, whether or not the service takes the report. -/
  | resume (report : Feedback) (result : Except Failure Unit)
      (hwait : l.Waits n (.feedback report (some t)))
      (hresult : result = .ok () ∨ ∃ f, result = .error (.service f)) :
      Checks n t l (.resume n (.feedback result))

/-- Call `n` comes to the check of the position of `t`, which passes. -/
structure PassesCheck (n : Nat) (t : Trigger) (l : Lifecycle) (e : Event) : Prop where
  checks : Checks n t l e
  placed : (t.document.checkTrigger t.position).isOk = true

theorem Checks.comes (h : Checks n t l e) : l.Comes e n t := by
  cases h with
  | trigger _ _ hn => exact hn ▸ .trigger t
  | ask hn => exact hn ▸ .ask t
  | resume report result hwait => exact .resume n report t result hwait

theorem Checks.goesBy (h : Checks n t l e) :
    GoesBy n (l.suggester.ask l.surroundings t) l e := by
  cases h with
  | trigger hpasses hidle hn =>
    rw [hn, ← Suggester.trigger_of_passes hpasses hidle]
    exact .trigger t l
  | ask hn =>
    rw [hn]
    exact ⟨rfl, rfl, (l.movesOn_begin _ _).here⟩
  | resume report result hwait hresult =>
    rw [← Suggester.afterFeedback_eq _ t _ hresult]
    exact .resume hwait (.feedback result)

/-- A stretch that spares the session begins none. -/
theorem GoesBy.not_begins (h : GoesBy n st l e) (hspared : l.suggester.Spared st) :
    ¬ Begins m o l e := by
  intro hbegins
  have hbegun := hbegins.2.1
  rw [h.suggester, hspared.begun] at hbegun
  exact Nat.succ_ne_self _ hbegun.symm

theorem Comes.checks_of_begins (h : l.Comes e n t) (hbegins : Begins n o l e) : Checks n t l e := by
  cases h with
  | trigger t =>
    by_cases hpasses : t.Passes l.surroundings ∧ l.suggester.session.isDisplayed = false
    · exact .trigger hpasses.1 hpasses.2 rfl
    · -- A trigger that is not let through, or that comes while something is shown, begins nothing.
      have hspared := Suggester.trigger_spared hpasses
      exact absurd hbegins ((GoesBy.trigger t l).not_begins hspared)
  | ask t => exact .ask rfl
  | resume n report t result hwait =>
    by_cases hresult : result = .ok () ∨ ∃ f, result = .error (.service f)
    · exact .resume report result hwait hresult
    · -- A report that fails in another way ends the call.
      have hspared := Suggester.afterFeedback_spared (s := l.surroundings) (p := l.suggester)
        hresult (some t)
      exact absurd hbegins ((GoesBy.resume hwait (.feedback result)).not_begins hspared)

/-- The position passes the check exactly where the call begins a session. -/
theorem passesCheck_iff : PassesCheck n t l e ↔ l.Comes e n t ∧ ∃ o, Begins n o l e := by
  constructor
  · intro h
    exact ⟨h.checks.comes, h.checks.goesBy.begins_iff.mpr h.placed⟩
  · rintro ⟨hcomes, o, hbegins⟩
    have hchecks := hcomes.checks_of_begins hbegins
    exact ⟨hchecks, hchecks.goesBy.begins_iff.mp ⟨o, hbegins⟩⟩

/-- At one event one trigger comes. -/
theorem Comes.unique (h : l.Comes e n t) (h' : l.Comes e m t') : t = t' := by
  cases h with
  | trigger | ask =>
    cases h'
    rfl
  | resume n report t result hwait =>
    cases h' with
    | resume _ report' _ _ hwait' =>
      cases hwait.unique hwait'
      rfl

/-! ## What an event enters into the log -/

/-- Only a call that begins a session enters anything into the log. -/
theorem activities_step (l : Lifecycle) (e : Event) :
    (∃ n o, Begins n o l e) ∨ (l.step e).1.suggester.activities = l.suggester.activities := by
  have hchange := l.step_change e
  simp only [Begins]
  -- Of all changes only the beginning of a session touches the log.
  generalize (l.step e).1 = l' at *
  generalize (l.step e).2 = happening at *
  cases hchange with
  | begin _ n t _ effects progress hcomes hmoves hp hwait hitems =>
    refine Or.inl ⟨n, (l.suggester.start l.surroundings t).2, ⟨progress, rfl⟩, ?_⟩
    rcases hp with hp | hp <;> simp [hp]
  | around | reset | deaf => exact Or.inr rfl
  | quiet _ _ _ _ _ _ hp | replay _ _ _ _ hp | inquire _ _ _ _ _ _ _ hp
  | send _ _ _ _ _ _ _ _ hp => exact Or.inr (congrArg Suggester.activities hp)
  | giveUp _ _ _ _ _ hp | fail _ _ _ _ _ _ _ _ _ _ hp | dismiss _ _ _ _ _ _ _ _ hp
  | shows _ _ _ _ _ _ _ _ _ _ _ _ hp => exact Or.inr (by rw [hp]; rfl)

/-- A session is begun under the id that the log has for the document of its trigger, and the log
    gets an activity for the document if there is none. -/
theorem Begins.activities (h : Begins n o l e) (hcomes : l.Comes e n t) :
    o.documentUri = t.document.uri ∧
      ((l.step e).1.suggester.activities, o.activityId) =
        l.suggester.activities.idOf l.surroundings.ids t.document.uri t.document.text := by
  obtain ⟨t', hcomes', rfl, hp, -⟩ := begins_inv h
  obtain rfl := hcomes.unique hcomes'
  refine ⟨rfl, ?_⟩
  rcases hp with hp | hp <;> rw [hp] <;> rfl

/-- An event at which no position passes the check leaves the log alone, and at any other one the log
    gets an activity for the document of the trigger, if there is none. -/
theorem activities_cases (l : Lifecycle) (e : Event) :
    ((∀ n t, ¬ PassesCheck n t l e) ∧
        (l.step e).1.suggester.activities = l.suggester.activities) ∨
      ∃ n t, PassesCheck n t l e ∧ (∀ n' t', PassesCheck n' t' l e → t' = t) ∧
        (l.step e).1.suggester.activities =
          (l.suggester.activities.idOf l.surroundings.ids t.document.uri t.document.text).1 := by
  by_cases hpasses : ∃ n t, PassesCheck n t l e
  · right
    obtain ⟨n, t, hpasses⟩ := hpasses
    obtain ⟨hcomes, o, hbegins⟩ := passesCheck_iff.mp hpasses
    refine ⟨n, t, hpasses, fun n' t' hpasses' => hpasses'.checks.comes.unique hcomes, ?_⟩
    exact congrArg Prod.fst (hbegins.activities hcomes).2
  -- Whoever begins a session has passed the check, so without that the log is kept.
  · left
    have hnone : ∀ n t, ¬ PassesCheck n t l e := fun n t h => hpasses ⟨n, t, h⟩
    refine ⟨hnone, (activities_step l e).resolve_left ?_⟩
    rintro ⟨n, o, hbegins⟩
    obtain ⟨t, hcomes, -⟩ := begins_inv hbegins
    exact hnone n t (passesCheck_iff.mpr ⟨hcomes, o, hbegins⟩)

/-- No activity is replaced. -/
theorem find?_step (h : Table.find? uri l.suggester.activities = some a) :
    Table.find? uri (l.step e).1.suggester.activities = some a := by
  rcases activities_cases l e with ⟨-, hsame⟩ | ⟨n, t, -, -, hnext⟩
  · rw [hsame]
    exact h
  · rw [hnext, ActivityLog.find?_idOf, h, Option.some_or]

/-! ## What was assigned at first -/

/-- The position of a trigger on a document with this URI passes the check. -/
def PassesOn (uri : Text) (l : Lifecycle) (e : Event) : Prop :=
  ∃ n t, PassesCheck n t l e ∧ t.document.uri = uri

/-- At the event a trigger on the URI passes the check, with the text of the activity, and the log has
    the activity from then on. -/
def Assigns (uri : Text) (a : Activity) (l : Lifecycle) (e : Event) : Prop :=
  (∃ n t, PassesCheck n t l e ∧ t.document.uri = uri ∧ t.document.text = a.content) ∧
    Table.find? uri (l.step e).1.suggester.activities = some a

/-- The activity was assigned to the URI at the first event of the run at which a trigger on it passed
    the check. -/
def Assigned (s : Surroundings) (es : List Event) (uri : Text) (a : Activity) : Prop :=
  ∃ past e rest, es = past ++ e :: rest ∧ ¬ (fresh s).Once past (PassesOn uri) ∧
    Assigns uri a ((fresh s).after past) e

theorem not_assigned_nil : ¬ Assigned s [] uri a := by
  rintro ⟨past, e, rest, hsplit, -⟩
  simp at hsplit

theorem assigned_concat : Assigned s (es ++ [e]) uri a ↔ Assigned s es uri a ∨
    (¬ (fresh s).Once es (PassesOn uri) ∧ Assigns uri a ((fresh s).after es) e) := by
  constructor
  · rintro ⟨past, e', rest, hsplit, hfirst⟩
    rcases eq_concat_split hsplit with ⟨rfl, rfl⟩ | ⟨rest', rfl⟩
    · exact Or.inr hfirst
    · exact Or.inl ⟨past, e', rest', rfl, hfirst⟩
  · rintro (⟨past, e', rest, rfl, hfirst⟩ | hfirst)
    · exact ⟨past, e', rest ++ [e], by simp, hfirst⟩
    · exact ⟨es, e, [], rfl, hfirst⟩

/-- After the run the log holds what was assigned at first, under every URI on which a trigger has
    passed the check. -/
structure Logged (s : Surroundings) (es : List Event) : Prop where
  numbered : ((fresh s).after es).suggester.activities.Numbered s.ids
  passed : ∀ uri, (fresh s).Once es (PassesOn uri) →
    ∃ a, Table.find? uri ((fresh s).after es).suggester.activities = some a
  assigned : ∀ uri a, Table.find? uri ((fresh s).after es).suggester.activities = some a ↔
    Assigned s es uri a

theorem Logged.nil : Logged s [] where
  numbered := ⟨List.nodup_nil, nofun⟩
  passed _ honce := absurd honce not_once_nil
  assigned _ _ := iff_of_false nofun not_assigned_nil

theorem Assigned.append (h : Assigned s es uri a) (es' : List Event) :
    Assigned s (es ++ es') uri a := by
  obtain ⟨past, e, rest, rfl, hfirst⟩ := h
  exact ⟨past, e, rest ++ es', by simp, hfirst⟩

theorem Assigned.once (h : Assigned s es uri a) : (fresh s).Once es (PassesOn uri) := by
  obtain ⟨past, e, rest, hsplit, -, ⟨n, t, hpasses, huri, -⟩, -⟩ := h
  exact ⟨past, e, rest, hsplit, n, t, hpasses, huri⟩

/-- Nothing is under a URI exactly as long as no trigger on it has passed the check. -/
theorem Logged.find?_eq_none (h : Logged s es) (uri : Text) :
    Table.find? uri ((fresh s).after es).suggester.activities = none ↔
      ¬ (fresh s).Once es (PassesOn uri) := by
  constructor
  · intro hnone honce
    obtain ⟨a, ha⟩ := h.passed uri honce
    rw [hnone] at ha
    cases ha
  · intro hnot
    cases ha : Table.find? uri ((fresh s).after es).suggester.activities with
    | none => rfl
    | some a => exact absurd ((h.assigned uri a).mp ha).once hnot

theorem Logged.step (h : Logged s es) (e : Event) : Logged s (es ++ [e]) := by
  rcases activities_cases ((fresh s).after es) e with
    ⟨hnone, hsame⟩ | ⟨n, t, hpasses, honly, hnext⟩
  · -- Nobody comes to the log.
    have hnot (uri : Text) : ¬ PassesOn uri ((fresh s).after es) e := by
      rintro ⟨n, t, hpasses, -⟩
      exact hnone n t hpasses
    constructor
    · rw [after_concat, hsame]
      exact h.numbered
    · intro uri honce
      rw [after_concat, hsame]
      exact h.passed uri ((once_concat.mp honce).resolve_right (hnot uri))
    · intro uri a
      rw [after_concat, hsame, h.assigned, assigned_concat]
      refine ⟨Or.inl, fun hassigned => hassigned.resolve_right ?_⟩
      rintro ⟨-, ⟨n, t, hpasses, -⟩, -⟩
      exact hnone n t hpasses
  · -- One trigger comes to the log; only the URI of its document can be new there.
    rw [(custody s es).ids] at hnext
    constructor
    · rw [after_concat, hnext]
      exact h.numbered.idOf
    -- What passed the check before is in the log still, and the trigger of the event is added.
    · intro uri honce
      rw [after_concat]
      rcases once_concat.mp honce with hpast | ⟨n', t', hpasses', rfl⟩
      · obtain ⟨a, ha⟩ := h.passed uri hpast
        exact ⟨a, find?_step ha⟩
      · obtain rfl := honly n' t' hpasses'
        rw [hnext]
        obtain ⟨a, ha, -⟩ := ActivityLog.find?_idOf_self s.ids t'.document.uri t'.document.text
          ((fresh s).after es).suggester.activities
        exact ⟨a, ha⟩
    · intro uri a
      -- Under the URI is what was there, or what the trigger of the event has brought in.
      have hfind : Table.find? uri (((fresh s).after es).step e).1.suggester.activities =
          (Table.find? uri ((fresh s).after es).suggester.activities).or
            (if uri = t.document.uri then
              some ⟨s.ids.activity ((fresh s).after es).suggester.activities.length, t.document.text⟩
            else none) := by
        rw [hnext]
        exact ActivityLog.find?_idOf _ _ _ _ _
      rw [after_concat, assigned_concat, ← h.assigned, ← h.find?_eq_none, Assigns, hfind,
        Option.or_eq_some_iff]
      refine or_congr_right (and_congr_right fun hnone => ?_)
      rw [hnone, ← Option.or_eq_some_iff, Option.none_or, iff_and_self]
      -- The new entry is the one of the trigger that passed the check.
      intro hnew
      split at hnew
      · next huri =>
        cases hnew
        exact ⟨n, t, hpasses, huri.symm, rfl⟩
      · cases hnew

/-- After every run the log holds what was assigned at first. -/
theorem logged (s : Surroundings) (es : List Event) : Logged s es := by
  induction es using List.reverseRecOn with
  | nil => exact .nil
  | append_singleton es e ih => exact ih.step e

/-! ## Sessions, requests and reports -/

/-- A session carries the id that was assigned to its document at first. -/
theorem Once.activity_of_begins (h : (fresh s).Once es (Begins n o)) :
    ∃ a, Assigned s es o.documentUri a ∧ o.activityId = a.id := by
  have hfind : ∃ a, Table.find? o.documentUri ((fresh s).after es).suggester.activities = some a ∧
      o.activityId = a.id := by
    -- Induction over the events: the entry is made where the session is begun, and entries stay.
    induction es using List.reverseRecOn with
    | nil => exact absurd h not_once_nil
    | append_singleton es e ih =>
      rw [after_concat]
      rcases once_concat.mp h with hpast | hnow
      · obtain ⟨a, ha, hid⟩ := ih hpast
        exact ⟨a, find?_step ha, hid⟩
      · obtain ⟨t, hcomes, -⟩ := begins_inv hnow
        obtain ⟨huri, hnext⟩ := hnow.activities hcomes
        obtain ⟨a, ha, hid⟩ := ActivityLog.find?_idOf_self
          ((fresh s).after es).surroundings.ids t.document.uri t.document.text
          ((fresh s).after es).suggester.activities
        rw [← hnext, ← huri] at ha
        rw [← hnext] at hid
        exact ⟨a, ha, hid.symm⟩
  obtain ⟨a, ha, hid⟩ := hfind
  exact ⟨a, ((logged s es).assigned _ _).mp ha, hid⟩

/-- Whoever waits for a request has asked for one under its own activity. -/
theorem activityId_of_waits (h : ((fresh s).after es).Waits n (.request call q since)) :
    q.activityId = call.activityId := by
  induction es using List.reverseRecOn with
  | nil => simp [Waits, fresh] at h
  | append_singleton es e ih =>
    rw [after_concat] at h
    -- The call waited for the request before already, or it asks for it by the event.
    rcases waits_step h with hold | hnew
    · exact ih hold
    · -- A call comes to wait for a request where it asks for one, at once or once it is entitled.
      cases hnew with
      | opening t _ hcomes hbegins hopening =>
        have hgoes := (hcomes.checks_of_begins hbegins).goesBy
        exact Suggester.activityId_of_ask (Option.some.inj (hgoes.here.symm.trans h))
      | request _ entitled _ he hwait =>
        subst he
        have hgoes := GoesBy.resume hwait (.entitlement (.ok entitled))
        exact Suggester.activityId_of_afterEntitlement
          (Option.some.inj (hgoes.here.symm.trans h))

/-- A request carries the id that was assigned to the document of its call at first. -/
theorem Once.activity_of_sends (hbuilds : (fresh s).Always es (Builds draw))
    (h : (fresh s).Once es (SendsRequest n r)) :
    ∃ t a, (fresh s).Once es (Opens n t) ∧ Assigned s es t.document.uri a ∧
      r.metadata.map CompletionMetadata.documentId = some (Uri.documentId t.document.uri) ∧
      r.metadata.map CompletionMetadata.activityId = some a.id := by
  obtain ⟨t, hopens, hdocument⟩ := h.document_of_sends hbuilds
  obtain ⟨past, e, rest, rfl, call, since, hasks⟩ := h
  have hnew := hasks.newWait
  cases hnew with
  -- The first wait of a call sends nothing.
  | opening _ _ _ _ hopening => cases hopening
  | completion _ q _ _ he hwait hp =>
    obtain ⟨_, fs, workspace, modelId, cache, hbuilt⟩ :=
      hbuilds past e rest rfl n call q since r hwait he
    -- The inquiry, the call and the session of the call have one activity.
    obtain ⟨-, o, hbegins, hserves⟩ := (custody s past).serves n _ call hwait rfl
    obtain ⟨t', hopens', huri⟩ := (custody s past).opened n o hbegins
    obtain rfl := (hopens'.append (e :: rest)).opens_unique hopens
    obtain ⟨a, hassigned, hid⟩ := hbegins.activity_of_begins
    rw [huri] at hassigned
    refine ⟨t', a, hopens, hassigned.append _, hdocument, ?_⟩
    rw [Inquiry.activityId_request hbuilt, activityId_of_waits hwait, hserves.activityId, hid]

/-- A report carries the id that was assigned to the document of its session at first. -/
theorem Once.activity_of_reports (h : (fresh s).Once es (SendsReport m f)) :
    ∃ uri a, Assigned s es uri a ∧ f.documentUri = some uri ∧ f.activityId = some a.id := by
  obtain ⟨past, e, rest, rfl, hreport⟩ := h
  obtain ⟨action, next, -, rfl, hdisplayed, -⟩ := hreport.ends
  obtain ⟨n, o, shown, predictions, r, horigin, -, -, hbegins, -⟩ :=
    shows_of_displayed hdisplayed
  obtain ⟨a, hassigned, hid⟩ := hbegins.activity_of_begins
  refine ⟨o.documentUri, a, hassigned.append _, ?_, ?_⟩
  · simp [Suggestion.report, horigin]
  · simp [Suggestion.report, horigin, hid]

/-- If fresh ids are distinct, then in every run each request and each report carries the id that its
    document got at the first trigger that passed the check of its position. Every document on which
    one has passed got an id, documents with different URIs got different ids, and what the log holds
    at the end is what they got at first, with the texts of that time. -/
theorem one_activity_per_document (hids : ∀ j k, s.ids.activity j = s.ids.activity k → j = k)
    (hbuilds : (fresh s).Always es (Builds draw)) :
    (∀ n r, (fresh s).Once es (SendsRequest n r) →
      ∃ t a, (fresh s).Once es (Opens n t) ∧ Assigned s es t.document.uri a ∧
        r.metadata.map CompletionMetadata.documentId = some (Uri.documentId t.document.uri) ∧
        r.metadata.map CompletionMetadata.activityId = some a.id) ∧
    (∀ m f, (fresh s).Once es (SendsReport m f) →
      ∃ uri a, Assigned s es uri a ∧ f.documentUri = some uri ∧ f.activityId = some a.id) ∧
    (∀ uri, (fresh s).Once es (PassesOn uri) → ∃ a, Assigned s es uri a) ∧
    (∀ uri uri' a a', Assigned s es uri a → Assigned s es uri' a' →
      (a.id = a'.id ↔ uri = uri')) ∧
    ∀ uri a, Table.find? uri ((fresh s).after es).suggester.activities = some a ↔
      Assigned s es uri a := by
  have hlog := logged s es
  refine ⟨fun n r h => h.activity_of_sends hbuilds, fun m f h => h.activity_of_reports, ?_, ?_,
    hlog.assigned⟩
  -- Every URI that passed the check has an entry, and entries are what has been assigned.
  · intro uri honce
    obtain ⟨a, ha⟩ := hlog.passed uri honce
    exact ⟨a, (hlog.assigned uri a).mp ha⟩
  -- Both directions from the log: its numbers are those of the places, and places have one URI.
  · intro uri uri' a a' hassigned hassigned'
    have ha := (hlog.assigned uri a).mpr hassigned
    have ha' := (hlog.assigned uri' a').mpr hassigned'
    constructor
    · exact hlog.numbered.eq_of_id hids ha ha'
    · rintro rfl
      rw [Option.some.inj (ha.symm.trans ha')]

/-- A call that nothing disturbs and the report on what it shows carry one id, kept with the text of
    the only trigger. -/
theorem request_and_report_of_one_activity :
    let r := Sample.request (Sample.call .fresh) Sample.id
    let f := Sample.shown.suggester.session.report .accept 0
    let past : List Event := [.trigger Sample.trigger, .resume 0 (.entitlement (.ok false)),
      .resume 0 (.request (.ok r))] ++ [.resume 0 (.completion (.ok [['y']]))]
    (∀ j k, IdSource.counting.activity j = IdSource.counting.activity k → j = k) ∧
      (fresh Sample.surroundings).Always (past ++ [.accept]) (Builds IdSource.counting.request) ∧
      (fresh Sample.surroundings).Once (past ++ [.accept]) (SendsRequest 0 r) ∧
      (fresh Sample.surroundings).Once (past ++ [.accept]) (SendsReport 1 f) ∧
      ∃ a, Assigned Sample.surroundings (past ++ [.accept]) Sample.document.uri a ∧
        r.metadata.map CompletionMetadata.activityId = some a.id ∧ f.activityId = some a.id ∧
        a.content = Sample.document.text := by
  intro r f past
  have hids (j k : Nat) (h : IdSource.counting.activity j = IdSource.counting.activity k) : j = k :=
    IdSource.numbered_inj h
  have hbuilds : (fresh Sample.surroundings).Always (past ++ [.accept])
      (Builds IdSource.counting.request) := by
    -- Only the last resumption but one builds a request, so the others are no matter.
    refine always_cons.mpr ⟨builds_of_ne (by simp), always_cons.mpr ⟨builds_of_ne (by simp), ?_⟩⟩
    rw [Sample.step_trigger_fresh]
    exact always_cons.mpr ⟨Sample.builds rfl (IdSource.counting_fresh.ne_nil 0),
      always_cons.mpr ⟨builds_of_ne (by simp), always_cons.mpr ⟨builds_of_ne (by simp), always_nil⟩⟩⟩
  have hsends : (fresh Sample.surroundings).Once (past ++ [.accept]) (SendsRequest 0 r) := by
    refine ⟨[.trigger Sample.trigger, .resume 0 (.entitlement (.ok false))], _, _, rfl, ?_⟩
    rw [Sample.after_inquired]
    exact ⟨Sample.call .fresh, 0, rfl, by simp [Waits, Sample.inquired]⟩
  have hreports : (fresh Sample.surroundings).Once (past ++ [.accept]) (SendsReport 1 f) := by
    refine once_concat.mpr (Or.inr ?_)
    rw [Sample.after_shown]
    exact sendsReport_accept Sample.ready.active rfl
  obtain ⟨hrequest, hreport, -, hsame, hlog⟩ := one_activity_per_document hids hbuilds
  -- The log has the activity of the document, and only that one is assigned to it.
  have hfind : Table.find? Sample.document.uri
      ((fresh Sample.surroundings).after (past ++ [.accept])).suggester.activities =
        some ⟨IdSource.counting.activity 0, Sample.document.text⟩ := by
    rw [after_concat, Sample.after_shown]
    rfl
  have hassigned := (hlog _ _).mp hfind
  refine ⟨hids, hbuilds, hsends, hreports, _, hassigned, ?_, ?_, rfl⟩
  -- The request and the report each name an activity of the document, which is this one.
  · obtain ⟨t, a, hopens, hown, -, hid⟩ := hrequest 0 r hsends
    obtain rfl : Sample.trigger = t :=
      Once.opens_unique (once_cons.mpr (Or.inl ⟨Or.inl rfl, rfl⟩)) hopens
    rw [hid, (hsame _ _ _ _ hown hassigned).mpr rfl]
  · obtain ⟨uri, a, hown, huri, hid⟩ := hreport 1 f hreports
    obtain rfl : Sample.document.uri = uri := Option.some.inj huri
    rw [hid, (hsame _ _ _ _ hown hassigned).mpr rfl]

end Lifecycle

end PlaybookAssist
