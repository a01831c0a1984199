import PlaybookAssist.Proofs.Suggestion.Effects
import PlaybookAssist.Proofs.Suggestion.Report

/-!
# Which document a suggestion is for

Whatever texts a call returns are the predictions for some request, moved to the column of the
cursor. A call that has sent a request returns the predictions for that one. A trigger that finds
texts on display at its place returns those; only the place counts for that, and not the document.
So texts that were computed for one document are offered in another exactly if a suggestion for the
one is displayed and a trigger comes from the same place of the other.

## Main definitions

- `Lifecycle.Receives` : a call gets the predictions that it waits for
- `Lifecycle.Fulfils` : texts are those that a call has got for its request

## Main statements

- `Lifecycle.fulfils_of_displayed` : what is displayed
- `Lifecycle.offered_for_own_document_iff` : what is offered, and for which document
-/

namespace PlaybookAssist

/-- The request made of an inquiry names the document of the inquiry. -/
theorem Inquiry.documentId_request [Place] {q : Inquiry} {fs : FileTree} {workspace : Workspace}
    {modelId : Option Text} {freshId : Text} {cache : RoleCache} {r : CompletionRequest}
    (h : (q.request fs workspace modelId freshId cache).2 = .ok r) :
    r.metadata.map CompletionMetadata.documentId = some (Uri.documentId q.uri) := by
  obtain ⟨type, modelId, context, rfl⟩ := eq_requestWith h
  rfl

namespace Lifecycle

variable {s : Surroundings} {draw : Nat → Text} {l : Lifecycle} {past es : List Event} {e : Event}
  {n m : Nat} {t : Trigger} {o : Origin} {r : CompletionRequest} {items predictions : List Text}

/-- Call `n` gets the predictions that it waits for. -/
def Receives (n : Nat) (predictions : List Text) (l : Lifecycle) (e : Event) : Prop :=
  e = .resume n (.completion (.ok predictions)) ∧
    ∃ call r since, l.Waits n (.completion call r since)

/-- The texts are the predictions that call `n`, opened with the trigger `t`, has got for its request
    `r` on the document of the trigger, moved to the column of the trigger. -/
structure Fulfils (s : Surroundings) (es : List Event) (n : Nat) (t : Trigger)
    (r : CompletionRequest) (items : List Text) : Prop where
  opens : (fresh s).Once es (Opens n t)
  sends : (fresh s).Once es (SendsRequest n r)
  document : r.metadata.map CompletionMetadata.documentId = some (Uri.documentId t.document.uri)
  receives : ∃ predictions, (fresh s).Once es (Receives n predictions) ∧
    items = predictions.map fun text => Text.reindent text t.position.character

theorem Fulfils.append (h : Fulfils s es n t r items) (es' : List Event) :
    Fulfils s (es ++ es') n t r items := by
  obtain ⟨predictions, honce, hitems⟩ := h.receives
  exact ⟨h.opens.append es', h.sends.append es', h.document, predictions, honce.append es', hitems⟩

/-! ## Requests -/

/-- A request that is sent is one on the document of the trigger of its call. -/
theorem Once.document_of_sends (hbuilds : (fresh s).Always es (Builds draw))
    (h : (fresh s).Once es (SendsRequest n r)) :
    ∃ t, (fresh s).Once es (Opens n t) ∧
      r.metadata.map CompletionMetadata.documentId = some (Uri.documentId t.document.uri) := by
  obtain ⟨past, e, rest, rfl, call, since, hasks⟩ := h
  have hnew := hasks.newWait
  cases hnew with
  | opening t _ hcomes hbegins hopening => cases hopening
  | completion _ q _ _ he hwait hp =>
    obtain ⟨_, fs, workspace, modelId, cache, hbuilt⟩ :=
      hbuilds past e rest rfl n call q since r hwait he
    -- The inquiry that the request is made of is about the document of the trigger.
    have huri : q.uri = call.trigger.document.uri := isApt_of_waits hwait
    obtain ⟨hopens, -⟩ := (custody s past).serves n _ call hwait rfl
    exact ⟨call.trigger, hopens.append _, huri ▸ Inquiry.documentId_request hbuilt⟩

/-! ## What is displayed -/

/-- What a call that succeeds displays and returns. -/
theorem Succeeds.displays (h : Succeeds n o predictions l e) :
    ∃ call r since shown, l.Waits n (.completion call r since) ∧
      e = .resume n (.completion (.ok predictions)) ∧
      (l.step e).1.suggester.session.origin = some o ∧
      (l.step e).1.suggester.session.shown = some shown ∧
      shown.position = call.trigger.position ∧
      (l.step e).1.suggester.session.items =
        predictions.map (fun text => Text.reindent text call.trigger.position.character) ∧
      (l.step e).2.call = some (n, .finished (l.step e).1.suggester.session.items) := by
  obtain ⟨rfl, ⟨call, r, since, hwait, hnumber, hstanding⟩, horigin, hsome⟩ := h
  obtain ⟨st, hresult, hp, hhappening⟩ := step_completion hwait (.ok predictions)
  rw [hp, hhappening]
  -- With its own session current, a live token and some predictions, the answer is displayed.
  cases hresult with
  | stale _ hstale => exact absurd hnumber (hstale o horigin)
  | dropped _ o' horigin' hnumber' hwhy =>
    rcases hwhy with hcancelled | hnil
    · rw [hcancelled] at hstanding
      cases hstanding
    · exact absurd hnil hsome
  | displayed _ o' shown first others horigin' hnumber' hcancelled hitems hshown =>
    refine ⟨call, r, since, shown, hwait, rfl, horigin, rfl, ?_, hitems.symm, rfl⟩
    rw [hshown]

/-- A call that succeeds returns the predictions for its own request. -/
theorem Succeeds.fulfils (hbuilds : (fresh s).Always past (Builds draw))
    (h : Succeeds n o predictions ((fresh s).after past) e) :
    ∃ t r shown, (fresh s).Once past (Begins n o) ∧ o.documentUri = t.document.uri ∧
      ((fresh s).after (past ++ [e])).suggester.session.origin = some o ∧
      ((fresh s).after (past ++ [e])).suggester.session.shown = some shown ∧
      shown.position = t.position ∧
      Fulfils s (past ++ [e]) n t r ((fresh s).after (past ++ [e])).suggester.session.items := by
  have hnumber := h.waits
  have hbefore := h.origin
  obtain ⟨call, r, since, shown, hwait, he, horigin, hshown, hposition, hitems, -⟩ := h.displays
  obtain ⟨call', r', since', hwait', hnumber, -⟩ := hnumber
  -- The call waits for one thing only, so the request is the one that it sent.
  obtain ⟨rfl, -⟩ : call = call' ∧ _ := by simpa using hwait.unique hwait'
  have hbegins := begins_of_number_eq hwait rfl hbefore hnumber
  have hsent : (fresh s).Once past (SendsRequest n r) :=
    (once_asks_of_waits hwait).mono fun _ _ hasks => ⟨call, since, hasks⟩
  -- The trigger of the session, that of the request and that of the call are one.
  obtain ⟨hopens, -⟩ := (custody s past).serves n _ call hwait rfl
  obtain ⟨t, hopens', huri⟩ := (custody s past).opened n o hbegins
  obtain ⟨t', hopens'', hdocument⟩ := hsent.document_of_sends hbuilds
  obtain rfl := hopens.opens_unique hopens'
  obtain rfl := hopens.opens_unique hopens''
  rw [after_concat]
  refine ⟨call.trigger, r, shown, hbegins, huri, horigin, hshown, hposition, ?_⟩
  exact ⟨hopens.append _, hsent.append _, hdocument, predictions,
    once_concat.mpr (Or.inr ⟨he, call, r, since, hwait⟩), hitems⟩

/-- What is displayed are the predictions for a request on the document of the session. -/
theorem fulfils_of_displayed (hbuilds : (fresh s).Always es (Builds draw))
    (hdisplayed : ((fresh s).after es).suggester.session.isDisplayed = true) :
    ∃ n t r o shown, (fresh s).Once es (Begins n o) ∧ o.documentUri = t.document.uri ∧
      ((fresh s).after es).suggester.session.origin = some o ∧
      ((fresh s).after es).suggester.session.shown = some shown ∧ shown.position = t.position ∧
      Fulfils s es n t r ((fresh s).after es).suggester.session.items := by
  -- Induction over the events: what is displayed has been so before, or succeeds now.
  induction es using List.reverseRecOn with
  | nil => cases hdisplayed
  | append_singleton es e ih =>
    have hthen := (always_concat.mp hbuilds).1
    rw [after_concat] at hdisplayed
    rcases step_displayed hdisplayed with hkept | ⟨n, o, -, predictions, -, hsucceeds⟩
    · rw [after_concat, hkept]
      rw [hkept] at hdisplayed
      obtain ⟨n, t, r, o, shown, hbegins, huri, horigin, hshown, hposition, hfulfils⟩ :=
        ih hthen hdisplayed
      exact ⟨n, t, r, o, shown, hbegins.append _, huri, horigin, hshown, hposition,
        hfulfils.append _⟩
    · obtain ⟨t, r, shown, hbegins, huri, horigin, hshown, hposition, hfulfils⟩ :=
        hsucceeds.fulfils hthen
      exact ⟨n, t, r, o, shown, hbegins.append _, huri, horigin, hshown, hposition, hfulfils⟩

/-! ## What is offered -/

/-- Whatever texts a call returns are the predictions that some call has got for its request, on the
    document of its own trigger, at the same column. It is the very call unless its trigger finds
    the texts on display at its place. The request is one on the document that the texts are
    offered in, unless a trigger finds a suggestion for another document there. -/
theorem offered_for_own_document_iff (hbuilds : (fresh s).Always past (Builds draw))
    (hopens : (fresh s).Once (past ++ [e]) (Opens n t))
    (hcall : (((fresh s).after past).step e).2.call = some (n, .finished items))
    (hitems : items ≠ []) :
    ∃ m t' r, Fulfils s (past ++ [e]) m t' r items ∧
      t'.position.character = t.position.character ∧
      ((m = n ∧ t' = t) ∨ e = .trigger t ∧ t'.position = t.position ∧
        ((fresh s).after past).suggester.session.isDisplayed = true) ∧
      (t'.document.uri = t.document.uri ↔
        (e = .trigger t → ∀ o, ((fresh s).after past).suggester.session.origin = some o →
          o.documentUri = t.document.uri)) := by
  rcases step_offers hcall hitems with
    ⟨o, predictions, hsucceeds⟩ | ⟨t₁, shown, rfl, hn, rfl, hdisplayed, hshown, hposition⟩
  · -- The call returns the predictions that it has just got.
    obtain ⟨t', r, -, -, -, -, -, -, hfulfils⟩ := hsucceeds.fulfils hbuilds
    obtain ⟨-, -, -, -, -, he, -, -, -, -, hreturned⟩ := hsucceeds.displays
    rw [hcall] at hreturned
    obtain rfl : items = _ := by simpa using hreturned
    rw [after_concat] at hfulfils
    obtain rfl := hopens.opens_unique hfulfils.opens
    refine ⟨n, t, r, hfulfils, rfl, Or.inl ⟨rfl, rfl⟩, iff_of_true rfl fun htrigger => ?_⟩
    rw [he] at htrigger
    cases htrigger
  · -- The trigger that opens the call is the one that finds them.
    obtain rfl : t = t₁ :=
      hopens.opens_unique (once_concat.mpr (Or.inr ⟨Or.inl rfl, hn⟩))
    obtain ⟨m, t', r, o, shown', -, huri, horigin, hshown', hplace, hfulfils⟩ :=
      fulfils_of_displayed hbuilds hdisplayed
    obtain rfl : shown = shown' := Option.some.inj (hshown.symm.trans hshown')
    have hsame : t'.position = t.position := hplace.symm.trans hposition
    -- The offer is for the trigger of the session, wherever that one was.
    refine ⟨m, t', r, hfulfils.append _, by rw [hsame], Or.inr ⟨rfl, hsame, hdisplayed⟩, ?_⟩
    rw [← huri]
    constructor
    -- The session that is displayed has only one origin.
    · intro heq _ o' horigin'
      obtain rfl : o = o' := Option.some.inj (horigin.symm.trans horigin')
      exact heq
    · intro hown
      exact hown rfl o horigin

/-- The predictions for a call that nothing disturbs are offered in its own document. -/
theorem offered_undisturbed :
    let past : List Event := [.trigger Sample.trigger, .resume 0 (.entitlement (.ok false)),
      .resume 0 (.request (.ok (Sample.request (Sample.call .fresh) Sample.id)))]
    let e : Event := .resume 0 (.completion (.ok [['y']]))
    (fresh Sample.surroundings).Always past (Builds IdSource.counting.request) ∧
      (fresh Sample.surroundings).Once (past ++ [e]) (Opens 0 Sample.trigger) ∧
      (((fresh Sample.surroundings).after past).step e).2.call = some (0, .finished [['y']]) ∧
      ∃ m t r, Fulfils Sample.surroundings (past ++ [e]) m t r [['y']] ∧
        t.document.uri = Sample.document.uri := by
  intro past e
  have hbuilds : (fresh Sample.surroundings).Always past (Builds IdSource.counting.request) := by
    -- Only the third event builds a request.
    refine always_cons.mpr ⟨builds_of_ne (by simp), always_cons.mpr ⟨builds_of_ne (by simp), ?_⟩⟩
    rw [Sample.step_trigger_fresh]
    exact always_cons.mpr ⟨Sample.builds rfl (IdSource.counting_fresh.ne_nil 0), always_nil⟩
  have hopens : (fresh Sample.surroundings).Once (past ++ [e]) (Opens 0 Sample.trigger) :=
    once_cons.mpr (Or.inl ⟨Or.inl rfl, rfl⟩)
  have hcall : (((fresh Sample.surroundings).after past).step e).2.call =
      some (0, .finished [['y']]) := by
    rw [Sample.after_sent]
    rfl
  obtain ⟨m, t, r, hfulfils, -, -, hown⟩ :=
    offered_for_own_document_iff hbuilds hopens hcall (by simp)
  refine ⟨hbuilds, hopens, hcall, m, t, r, hfulfils, hown.mpr fun he => ?_⟩
  simp [e] at he

/-- A suggestion that is displayed for one document is offered at the same place of another, for
    which no request has been sent. -/
theorem offered_in_other_document :
    let past : List Event := [.trigger Sample.trigger, .resume 0 (.entitlement (.ok false)),
      .resume 0 (.request (.ok (Sample.request (Sample.call .fresh) Sample.id)))] ++
        [.resume 0 (.completion (.ok [['y']]))]
    let other : Document := { Sample.document with uri := "/other.yml" }
    let e : Event := .trigger { Sample.trigger with document := other }
    (fresh Sample.surroundings).Always (past ++ [e]) (Builds IdSource.counting.request) ∧
      (((fresh Sample.surroundings).after past).step e).2.call = some (1, .finished [['y']]) ∧
      ∀ m r, (fresh Sample.surroundings).Once (past ++ [e]) (SendsRequest m r) →
        r.metadata.map CompletionMetadata.documentId ≠ some (Uri.documentId other.uri) := by
  intro past other e
  have hbuilds : (fresh Sample.surroundings).Always past (Builds IdSource.counting.request) := by
    refine always_cons.mpr ⟨builds_of_ne (by simp), always_cons.mpr ⟨builds_of_ne (by simp), ?_⟩⟩
    rw [Sample.step_trigger_fresh]
    exact always_cons.mpr ⟨Sample.builds rfl (IdSource.counting_fresh.ne_nil 0),
      always_cons.mpr ⟨builds_of_ne (by simp), always_nil⟩⟩
  -- The replay sends nothing, so that the requests are those of the past.
  refine ⟨always_concat.mpr ⟨hbuilds, builds_of_ne (by simp [e])⟩, ?_, ?_⟩
  · rw [Sample.after_shown]
    rfl
  intro m r hsends
  rcases once_concat.mp hsends with hsent | ⟨call, since, hasks⟩
  · obtain ⟨t, hopens, hdocument⟩ := hsent.document_of_sends hbuilds
    -- Only the first event of the past opens a call.
    have ht : t = Sample.trigger := by
      obtain ⟨ht, -⟩ : Sample.trigger = t ∧ _ := by
        simpa [past, once_cons, not_once_nil, Opens] using hopens
      exact ht.symm
    rw [hdocument, ht]
    decide +kernel
  · have hnew := hasks.newWait
    -- And by the last event nothing is sent: it opens a call, and opening sends no request.
    cases hnew with
    | opening t _ hcomes hbegins hopening => cases hopening
    | completion _ q _ _ he hwait hp => simp [e] at he

end Lifecycle

end PlaybookAssist
