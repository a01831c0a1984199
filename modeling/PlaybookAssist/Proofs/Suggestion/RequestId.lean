import PlaybookAssist.Proofs.Suggestion.Custody
import PlaybookAssist.Proofs.Suggestion.Ready

/-!
# The id of a request

A request carries the id of the session that is current when its call inquires, and that is when the
call has learned of the user's entitlement. The call does not ask whose session it is. So the id is
that of its own session exactly if no other call, command or answer has put another session in its
place by then, and two requests share an id exactly if their calls inquired under one session.

## Main definitions

- `FreshIds` : fresh ids are distinct
- `Lifecycle.requestId` : the id for a request

## Main statements

- `IdSource.counting_fresh` : ids that tell their number are distinct
- `Lifecycle.requestId_of_sends` : the id that a request carries
- `Lifecycle.sends_own_id_iff` : when it is the right one
-/

namespace PlaybookAssist

/-- Fresh ids are distinct, and none is empty: those of sessions, and those that are drawn for
    requests when there is no session. -/
structure FreshIds (ids : IdSource) (draw : Nat → Text) : Prop where
  ne_nil : ∀ k, ids.suggestion k ≠ []
  suggestion_inj : ∀ j k, ids.suggestion j = ids.suggestion k → j = k
  draw_inj : ∀ j k, draw j = draw k → j = k
  draw_ne : ∀ j k, draw j ≠ ids.suggestion k

namespace IdSource

/-- A word with a number behind it tells the number. -/
theorem numbered_inj {word : Text} {j k : Nat} (h : numbered word j = numbered word k) :
    j = k := by
  have hdigits : Nat.toDigits 10 (j + 1) = Nat.toDigits 10 (k + 1) := by
    simpa [numbered, Text.ofNat] using h
  have heq := congrArg (Nat.ofDigitChars 10 · 0) hdigits
  simpa [Nat.ofDigitChars_ten_toDigits] using heq

/-- Ids that tell what they belong to, and its number, are distinct. -/
theorem counting_fresh : FreshIds counting counting.request where
  ne_nil k := by simp [counting, numbered]
  suggestion_inj _ _ h := numbered_inj h
  draw_inj _ _ h := numbered_inj h
  draw_ne j k h := by
    -- The words before the numbers begin differently.
    have hhead := congrArg List.head? h
    simp [counting, numbered] at hhead

end IdSource

/-- A request made of an inquiry is the one with some kind of file, model and context. -/
theorem Inquiry.eq_requestWith [Place] {q : Inquiry} {fs : FileTree} {workspace : Workspace}
    {modelId : Option Text} {freshId : Text} {cache : RoleCache} {r : CompletionRequest}
    (h : (q.request fs workspace modelId freshId cache).2 = .ok r) :
    ∃ type modelId context, r = q.requestWith freshId type modelId context := by
  simp only [request] at h
  split at h
  · cases h
  split at h
  · cases h
  split at h
  · split at h
    · cases h
    · cases h
      exact ⟨_, _, _, rfl⟩
  · cases h
    exact ⟨_, _, _, rfl⟩

/-- The request made of an inquiry carries its id, or the fresh one if it has none. -/
theorem Inquiry.suggestionId_request [Place] {q : Inquiry} {fs : FileTree} {workspace : Workspace}
    {modelId : Option Text} {freshId : Text} {cache : RoleCache} {r : CompletionRequest}
    (h : (q.request fs workspace modelId freshId cache).2 = .ok r) :
    r.suggestionId = if q.suggestionId.isEmpty then freshId else q.suggestionId := by
  obtain ⟨type, modelId, context, rfl⟩ := eq_requestWith h
  rfl

namespace Lifecycle

variable {s : Surroundings} {draw : Nat → Text} {past es : List Event} {e : Event} {n m : Nat}
  {r : CompletionRequest}

/-- The id for the request of call `n` that inquires while `o` is the session. -/
def requestId (draw : Nat → Text) (n : Nat) : Option Origin → Text
  | some o => o.suggestionId
  | none => draw n

/-! ## Inquiries -/

/-- A call that asks for its request inquires under the id of the session that there is. -/
theorem Asks.inquires {l : Lifecycle} {call : Pending} {q : Inquiry} {since : Float}
    (h : Asks n (.request call q since) l e) :
    ∃ o, Inquires n o l e ∧ q.suggestionId = o.elim [] Origin.suggestionId := by
  refine ⟨_, ⟨⟨call, q, since, h⟩, rfl⟩, ?_⟩
  have hnew := h.newWait
  cases hnew with
  | opening t _ hcomes hbegins hopening =>
    cases hopening with
    | request _ _ _ hcall hid => simp [hbegins.2.2, hid]
  | request _ entitled _ he hwait hp hid => rw [hid, hp, Suggestion.id]

/-- A call inquires only once. -/
theorem Once.inquires_unique {o o' : Option Origin} (h : (fresh s).Once es (Inquires n o))
    (h' : (fresh s).Once es (Inquires n o')) : o = o' := by
  have hasks : ∀ o l e, Inquires n o l e → ∃ wait, Asks n wait l e ∧ wait.rank = 2 :=
    fun _ _ _ ⟨⟨_, _, _, hasks⟩, _⟩ => ⟨_, hasks, rfl⟩
  obtain ⟨_, _, _, -, hnow, hnow'⟩ := h.together h' (hasks o) (hasks o')
  exact hnow.2.symm.trans hnow'.2

/-- A session that a call inquires under has been begun. -/
theorem Once.begins_of_inquires {o : Origin} (h : (fresh s).Once es (Inquires n (some o))) :
    ∃ m, (fresh s).Once es (Begins m o) := by
  obtain ⟨past, e, rest, rfl, -, horigin⟩ := h
  rw [← after_concat] at horigin
  obtain ⟨-, m, hbegins⟩ := (custody s (past ++ [e])).current o horigin
  refine ⟨m, ?_⟩
  simpa using hbegins.append rest

/-! ## Requests -/

/-- A call that sends its request has begun a session, and the request carries the id for it under
    the session that the call inquired under. -/
theorem requestId_of_sends (hids : FreshIds s.ids draw)
    (hbuilds : (fresh s).Always (past ++ [e]) (Builds draw))
    (hsends : SendsRequest n r ((fresh s).after past) e) :
    (∃ o, (fresh s).Once past (Begins n o)) ∧
      ∃ o, (fresh s).Once past (Inquires n o) ∧ r.suggestionId = requestId draw n o := by
  obtain ⟨call, since, hasks⟩ := hsends
  have hnew := hasks.newWait
  cases hnew with
  -- The first wait of a call sends nothing.
  | opening t _ hcomes hbegins hopening => cases hopening
  | completion _ q _ _ he hwait hp =>
    obtain ⟨-, o, hbegins, -⟩ := (custody s past).serves n _ call hwait rfl
    refine ⟨⟨o, hbegins⟩, ?_⟩
    -- The call has asked for the request that is now built, and its id is settled there.
    obtain ⟨past', e', rest, hsplit, hasked⟩ := once_asks_of_waits hwait
    obtain ⟨o', hinquires, hid⟩ := hasked.inquires
    have hinquires : (fresh s).Once past (Inquires n o') := ⟨past', e', rest, hsplit, hinquires⟩
    refine ⟨o', hinquires, ?_⟩
    obtain ⟨_, fs, workspace, modelId, cache, hbuilt⟩ :=
      (always_concat.mp hbuilds).2 n call q since r hwait he
    rw [Inquiry.suggestionId_request hbuilt, hid]
    cases o' with
    -- Where no session was current a fresh id is drawn.
    | none => rfl
    | some o' =>
      -- A session has an id, so no fresh one is drawn.
      obtain ⟨m, hbegins'⟩ := hinquires.begins_of_inquires
      have hne := hids.ne_nil o'.number
      rw [← (custody s past).suggestionId m o' hbegins'] at hne
      simp [requestId, hne]

/-- The same for a request that has been sent. -/
theorem Once.requestId_of_sends (hids : FreshIds s.ids draw)
    (hbuilds : (fresh s).Always es (Builds draw)) (h : (fresh s).Once es (SendsRequest n r)) :
    (∃ o, (fresh s).Once es (Begins n o)) ∧
      ∃ o, (fresh s).Once es (Inquires n o) ∧ r.suggestionId = requestId draw n o := by
  obtain ⟨past, e, rest, rfl, hsends⟩ := h
  have hbuilds' : (fresh s).Always (past ++ [e]) (Builds draw) := by
    rw [List.append_cons] at hbuilds
    exact hbuilds.of_append
  obtain ⟨⟨o, hbegins⟩, o', hinquires, hid⟩ :=
    Lifecycle.requestId_of_sends hids hbuilds' hsends
  exact ⟨⟨o, hbegins.append _⟩, o', hinquires.append _, hid⟩

/-- A session is known by its id. -/
theorem eq_of_suggestionId_eq (hids : FreshIds s.ids draw) {o o' : Origin}
    (hbegins : (fresh s).Once es (Begins n o)) (hbegins' : (fresh s).Once es (Begins m o'))
    (hid : o.suggestionId = o'.suggestionId) : o = o' := by
  have hcustody := custody s es
  rw [hcustody.suggestionId n o hbegins, hcustody.suggestionId m o' hbegins'] at hid
  obtain rfl := hcustody.eq_of_number n m o o' hbegins hbegins' (hids.suggestion_inj _ _ hid)
  exact hcustody.eq_of_call n o o' hbegins hbegins'

/-- The ids for two requests are the same only if the calls are, or the sessions are. -/
theorem eq_of_requestId_eq (hids : FreshIds s.ids draw) {o o' : Option Origin}
    (hinquires : (fresh s).Once es (Inquires n o)) (hinquires' : (fresh s).Once es (Inquires m o'))
    (hid : requestId draw n o = requestId draw m o') :
    (n = m ∧ o = none ∧ o' = none) ∨ ∃ o₀, o = some o₀ ∧ o' = some o₀ := by
  -- A drawn id is that of no session.
  have hdrawn : ∀ {m k : Nat} {o : Origin}, (fresh s).Once es (Inquires m (some o)) →
      draw k ≠ o.suggestionId := by
    intro m k o hinquires heq
    obtain ⟨m', hbegins⟩ := hinquires.begins_of_inquires
    rw [(custody s es).suggestionId m' o hbegins] at heq
    exact hids.draw_ne _ _ heq
  -- So both requests have drawn their ids, or both have the id of one session.
  cases o with
  | none =>
    cases o' with
    | none => exact Or.inl ⟨hids.draw_inj _ _ hid, rfl, rfl⟩
    | some o' => exact absurd hid (hdrawn hinquires')
  | some o =>
    cases o' with
    | none => exact absurd hid.symm (hdrawn hinquires)
    | some o' =>
      obtain ⟨k, hbegins⟩ := hinquires.begins_of_inquires
      obtain ⟨k', hbegins'⟩ := hinquires'.begins_of_inquires
      obtain rfl := eq_of_suggestionId_eq hids hbegins hbegins' hid
      exact Or.inr ⟨o, rfl, rfl⟩

/-! ## The right id -/

/-- A call that sends its request has begun a session. The request carries the id of that session
    exactly if it is the one under which the call inquired, and the id of an earlier request exactly
    if both calls inquired under one session. No call sends two requests. -/
theorem sends_own_id_iff (hids : FreshIds s.ids draw)
    (hbuilds : (fresh s).Always (past ++ [e]) (Builds draw))
    (hsends : SendsRequest n r ((fresh s).after past) e) :
    ∃ o, (fresh s).Once past (Begins n o) ∧
      (r.suggestionId = o.suggestionId ↔ (fresh s).Once past (Inquires n (some o))) ∧
      ∀ m r', (fresh s).Once past (SendsRequest m r') → m ≠ n ∧
        (r'.suggestionId = r.suggestionId ↔ ∃ o', (fresh s).Once past (Inquires m (some o')) ∧
          (fresh s).Once past (Inquires n (some o'))) := by
  obtain ⟨⟨o, hbegins⟩, o', hinquires, hid⟩ := requestId_of_sends hids hbuilds hsends
  refine ⟨o, hbegins, ⟨fun heq => ?_, fun hown => ?_⟩, fun m r' hsent => ?_⟩
  · -- The request carries the id of some session, and only that session has it.
    cases o' with
    | none =>
      rw [hid, requestId, (custody s past).suggestionId n o hbegins] at heq
      exact absurd heq (hids.draw_ne _ _)
    | some o' =>
      obtain ⟨m, hbegins'⟩ := hinquires.begins_of_inquires
      obtain rfl := eq_of_suggestionId_eq hids hbegins' hbegins (hid.symm.trans heq)
      exact hinquires
  -- The call inquires once, so that it was its own session.
  · obtain rfl := hinquires.inquires_unique hown
    exact hid
  -- Another request comes from another call, for no call sends two.
  · have hne : m ≠ n := by
      rintro rfl
      obtain ⟨past', e', rest, hsplit, call, since, hasks⟩ := hsent
      -- Both have the rank of a completion, and ranks grow.
      obtain ⟨call', since', hasks'⟩ := hsends
      have hearlier : (fresh s).Once past (Asks m (.completion call r' since)) :=
        ⟨past', e', rest, hsplit, hasks⟩
      exact absurd (hearlier.rank_lt hasks') (Nat.lt_irrefl _)
    obtain ⟨-, o'', hinquires', hid'⟩ := hsent.requestId_of_sends hids hbuilds.of_append
    -- Equal ids come from one session, under which both calls have inquired.
    refine ⟨hne, fun heq => ?_, fun ⟨o₀, hm, hn⟩ => ?_⟩
    · rcases eq_of_requestId_eq hids hinquires' hinquires (hid'.symm.trans (heq.trans hid)) with
        ⟨hmn, -⟩ | ⟨o₀, rfl, rfl⟩
      · exact absurd hmn hne
      · exact ⟨o₀, hinquires', hinquires⟩
    · obtain rfl := hinquires'.inquires_unique hm
      obtain rfl := hinquires.inquires_unique hn
      exact hid'.trans hid.symm

/-- A call that nothing disturbs sends its request under the id of its own session. -/
theorem sends_own_id_undisturbed :
    let past : List Event := [.trigger Sample.trigger, .resume 0 (.entitlement (.ok false))]
    let r := Sample.request (Sample.call .fresh) Sample.id
    let e : Event := .resume 0 (.request (.ok r))
    FreshIds Sample.surroundings.ids IdSource.counting.request ∧
      (fresh Sample.surroundings).Always (past ++ [e]) (Builds IdSource.counting.request) ∧
      SendsRequest 0 r ((fresh Sample.surroundings).after past) e ∧
      ∃ o, (fresh Sample.surroundings).Once past (Begins 0 o) ∧
        r.suggestionId = o.suggestionId := by
  intro past r e
  have hbuilds : (fresh Sample.surroundings).Always (past ++ [e])
      (Builds IdSource.counting.request) := by
    refine always_cons.mpr ⟨builds_of_ne (by simp), always_cons.mpr ⟨builds_of_ne (by simp), ?_⟩⟩
    rw [Sample.step_trigger_fresh]
    exact always_cons.mpr ⟨Sample.builds rfl (IdSource.counting_fresh.ne_nil 0), always_nil⟩
  -- After the seat is known the call waits for its request.
  have hsends : SendsRequest 0 r ((fresh Sample.surroundings).after past) e := by
    rw [Sample.after_inquired]
    exact ⟨Sample.call .fresh, 0, rfl, by simp [Waits, Sample.inquired]⟩
  refine ⟨IdSource.counting_fresh, hbuilds, hsends, ?_⟩
  obtain ⟨o, hbegins, hid, -⟩ := sends_own_id_iff IdSource.counting_fresh hbuilds hsends
  have hown : (fresh Sample.surroundings).Once past
      (Begins 0 (Suggester.fresh.start Sample.surroundings Sample.trigger).2) :=
    once_cons.mpr (Or.inl Sample.begins_fresh)
  -- The only session of the call is the one that the trigger began.
  obtain rfl := (custody Sample.surroundings past).eq_of_call 0 o _ hbegins hown
  -- The call inquires at the second event, under the session that the first one has begun.
  refine ⟨_, hbegins, hid.mpr (once_cons.mpr (Or.inr (once_cons.mpr (Or.inl ?_))))⟩
  rw [Sample.step_trigger_fresh]
  exact ⟨⟨_, _, _, rfl, by simp [Waits, Sample.triggered, fresh]⟩, rfl⟩

/-- A call whose session has been replaced when it inquires sends its request under the id of the
    newer session, and so does the newer call: two requests share an id. -/
theorem sends_id_of_newer :
    let id := IdSource.counting.suggestion 1
    let older := Sample.request (Sample.call .fresh) id
    let newer := Sample.request
      (Sample.call (Sample.triggered (fresh Sample.surroundings)).suggester) id
    let past : List Event := [.trigger Sample.trigger, .trigger Sample.trigger,
      .resume 0 (.entitlement (.ok false)), .resume 0 (.request (.ok older)),
      .resume 1 (.entitlement (.ok false))]
    let e : Event := .resume 1 (.request (.ok newer))
    FreshIds Sample.surroundings.ids IdSource.counting.request ∧
      (fresh Sample.surroundings).Always (past ++ [e]) (Builds IdSource.counting.request) ∧
      (fresh Sample.surroundings).Once past (SendsRequest 0 older) ∧
      SendsRequest 1 newer ((fresh Sample.surroundings).after past) e ∧
      (∃ o, (fresh Sample.surroundings).Once past (Begins 0 o) ∧
        older.suggestionId ≠ o.suggestionId) ∧
      older.suggestionId = newer.suggestionId := by
  intro id older newer past e
  have hne : id ≠ [] := IdSource.counting_fresh.ne_nil 1
  refine ⟨IdSource.counting_fresh, ?_, ?_, ?_, ?_, rfl⟩
  -- Both requests are built as the sample builds them, the other events build none.
  · refine always_cons.mpr ⟨builds_of_ne (by simp), ?_⟩
    rw [Sample.step_trigger_fresh]
    refine always_cons.mpr ⟨builds_of_ne (by simp), ?_⟩
    rw [Sample.step_trigger_asking]
    exact always_cons.mpr ⟨builds_of_ne (by simp), always_cons.mpr ⟨Sample.builds rfl hne,
      always_cons.mpr ⟨builds_of_ne (by simp), always_cons.mpr ⟨Sample.builds rfl hne,
        always_nil⟩⟩⟩⟩
  · refine ⟨[.trigger Sample.trigger, .trigger Sample.trigger, .resume 0 (.entitlement (.ok false))],
      _, _, rfl, ?_⟩
    rw [after_cons, Sample.step_trigger_fresh, after_cons, Sample.step_trigger_asking]
    refine ⟨_, _, rfl, ?_⟩
    intro hwait
    cases hwait
  · rw [after_cons, Sample.step_trigger_fresh, after_cons, Sample.step_trigger_asking]
    refine ⟨_, _, rfl, ?_⟩
    intro hwait
    cases hwait
  -- The first session has the first id, and both requests carry the second one.
  · refine ⟨_, once_cons.mpr (Or.inl Sample.begins_fresh), fun heq => ?_⟩
    exact absurd (IdSource.counting_fresh.suggestion_inj 1 0 heq) (by decide)

end Lifecycle

end PlaybookAssist
