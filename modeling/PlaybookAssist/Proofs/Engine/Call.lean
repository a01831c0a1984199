import PlaybookAssist.Engine
import PlaybookAssist.Proofs.Suggestion.Replay

/-!
# A call that the engine serves

What a call for a suggestion waits for up to its request the engine knows: whether the user is
entitled, and the request itself. A call that is served like this and that no other call disturbs
sends the request made of the place of its trigger, if a suggestion is wanted there and the request
can be made, and sends nothing otherwise.

## Main definitions

- `Document.Awaits` : a suggestion is wanted at a place in a document
- `Engine.serve` : the engine answers what a call waits for
- `Engine.suggest` : a trigger and the answers up to the request
- `Engine.sent?` : the request that a call has sent

## Main statements

- `Engine.sent?_suggest_of_awaits`, `Engine.sent?_suggest_of_not_awaits` : what a call sends
-/

namespace PlaybookAssist

/-! ## Places where a suggestion is wanted -/

/-- A suggestion is wanted at a place: above it stands a task that has a name and nothing else.
    `prompt` is the text above, and `entries` are what it is the text of. -/
structure Document.Awaits (d : Document) (p : Position) (prompt : Text) (entries : List Value) :
    Prop where
  placed : (d.checkTrigger p).isOk = true
  above : d.prompt p = .ok prompt
  parse : Prompt.parse prompt = .ok (some entries)
  awaitsBody : Prompt.awaitsBody entries = .ok true

variable {s : Surroundings} {t : Trigger} {prompt : Text} {entries : List Value}

theorem Trigger.Passes.ready (h : t.Passes s)
    (hawaits : t.document.Awaits t.position prompt entries) : t.Ready s prompt entries :=
  ⟨h.active, h.serves, h.standing, h.enabled, h.url, hawaits.placed, hawaits.above, hawaits.parse,
    hawaits.awaitsBody⟩

namespace Suggester

variable {p : Suggester}

/-- Where no suggestion is wanted the call is over at once. -/
theorem wait?_ask_of_not_awaits
    (h : ∀ prompt entries, ¬ t.document.Awaits t.position prompt entries) :
    (p.ask s t).2.2.wait? = none := by
  rw [ask]
  -- The branches in their order; only the last one leaves the call waiting.
  cases hplaced : (t.document.checkTrigger t.position).isOk with
  | false => rfl
  | true =>
    simp only [Bool.not_true, Bool.false_eq_true, if_false]
    cases habove : t.document.prompt t.position with
    | error e => rfl
    | ok prompt =>
      dsimp only
      cases hparse : Prompt.parse prompt with
      | error e => cases e <;> rfl
      | ok parsed =>
        cases parsed with
        | none => rfl
        | some entries =>
          dsimp only
          cases hawaits : Prompt.awaitsBody entries with
          | error e => rfl
          | ok awaits =>
            -- And there a task awaits a body, which the hypothesis denies.
            cases awaits with
            | false => rfl
            | true => exact absurd ⟨hplaced, habove, hparse, hawaits⟩ (h prompt entries)

/-- A user who asks for a suggestion at a wrong place is told so, and the call is over. -/
theorem ask_of_hint {hint : Text} (hhint : (t.document.checkTrigger t.position).hint = some hint)
    (hkind : t.kind = .invoke) : p.ask s t = p.giveUp [.showInformation hint] := by
  have hplaced : (t.document.checkTrigger t.position).isOk = false := by
    by_contra hok
    rw [TriggerCheck.hint, if_pos (by simpa using hok)] at hhint
    cases hhint
  simp [ask, hplaced, hhint, hkind]

/-- Where nobody is asked for the user's entitlement, the call for a suggestion waits for its request
    at once. -/
theorem ask_of_ready_unasked (h : t.Ready s prompt entries) (hasks : s.asksEntitlement = false) :
    let call := t.pending prompt entries (p.start s t).2
    p.ask s t = ((p.start s t).1, [],
      .waiting (.request call (call.inquiry false (p.start s t).2.suggestionId) s.now)) := by
  have hstanding : s.isCancelled (t.pending prompt entries (p.start s t).2).trigger = false :=
    h.standing
  have hask : p.ask s t = (p.start s t).1.afterEntitlement s
      (t.pending prompt entries (p.start s t).2) false := by
    simp [ask, h.placed, h.above, h.parse, h.awaitsBody, hasks, Trigger.pending]
  rw [hask, afterEntitlement, hstanding]
  rfl

end Suggester

/-! ## Served calls -/

namespace Engine

/-- Something happens to the suggester. -/
def meet (event : Event) (e : Engine) : Engine × Happening :=
  let (lifecycle, happening) := e.lifecycle.step event
  ({ e with lifecycle }, happening)

/-- The request for which a call waits to get predictions. -/
def sent? (n : Nat) (e : Engine) : Option CompletionRequest :=
  match e.lifecycle.calls[n]? with
  | some (some (.completion _ r _)) => some r
  | _ => none

variable [Place]

/-- The engine answers what a call waits for, if that is the user's entitlement or the request. -/
def serve (refuses : Text → Bool) (fs : FileTree) (seat : Bool) (n : Nat) (e : Engine) : Engine :=
  match e.lifecycle.calls[n]? with
  | some (some (.entitlement _)) => (e.meet (.resume n (.entitlement (.ok seat)))).1
  | some (some (.request _ inquiry _)) =>
    let (e, _, result) := e.request refuses fs inquiry
    (e.meet (.resume n (.request result))).1
  | _ => e

/-- The engine after a trigger, and after the two answers that lead its call to the request. -/
def suggest (refuses : Text → Bool) (fs : FileTree) (seat : Bool) (t : Trigger) (e : Engine) :
    Engine :=
  let n := e.lifecycle.calls.length
  ((e.meet (.trigger t)).1.serve refuses fs seat n).serve refuses fs seat n

variable {refuses : Text → Bool} {fs : FileTree} {seat : Bool} {n : Nat} {e : Engine}
  {call : Pending} {q : Inquiry} {since : Float}

omit [Place] in
/-- Taking in directories does not touch the suggester. -/
theorem lifecycle_takeIn (refuses : Text → Bool) (found : List RolesWatch) (e : Engine) :
    (e.takeIn refuses found).1.lifecycle = e.lifecycle := by
  rw [takeIn]
  cases e.watcher <;> rfl

/-- Making a request does not touch the suggester. -/
theorem lifecycle_request (refuses : Text → Bool) (fs : FileTree) (q : Inquiry) (e : Engine) :
    (e.request refuses fs q).1.lifecycle = e.lifecycle :=
  lifecycle_takeIn refuses _ _

/-- The request is made over the cache of the engine, its folders and its settings. -/
theorem result_request (refuses : Text → Bool) (fs : FileTree) (q : Inquiry) (e : Engine) :
    (e.request refuses fs q).2.2 =
      (q.request fs e.workspace e.lifecycle.surroundings.settings.modelId
        (e.lifecycle.surroundings.ids.request e.freshRequests) e.cache).2 :=
  rfl

/-- A call that is told of the user's entitlement goes on with it. -/
theorem serve_entitlement (h : e.lifecycle.Waits n (.entitlement call)) :
    e.serve refuses fs seat n = (e.meet (.resume n (.entitlement (.ok seat)))).1 := by
  have hcalls : e.lifecycle.calls[n]? = some (some (.entitlement call)) := h
  rw [serve, hcalls]

/-- A call that waits for its request has sent it after that, if it can be made, and there is nothing
    more to answer. -/
theorem sent?_serve_request (h : e.lifecycle.Waits n (.request call q since)) :
    let s := e.lifecycle.surroundings
    let served := e.serve refuses fs seat n
    served.sent? n = (q.request fs e.workspace s.settings.modelId (s.ids.request e.freshRequests)
        e.cache).2.toOption ∧
      served.serve refuses fs seat n = served := by
  intro s served
  obtain ⟨result, hresult⟩ : ∃ result, (q.request fs e.workspace s.settings.modelId
    (s.ids.request e.freshRequests) e.cache).2 = result := ⟨_, rfl⟩
  have hcalls : e.lifecycle.calls[n]? = some (some (.request call q since)) := h
  -- After the request is built, the call waits for its completion, or is over.
  have hserved : served.lifecycle.calls[n]? =
      some (result.toOption.map fun r => .completion call r since) := by
    have hwaits : (e.request refuses fs q).1.lifecycle.Waits n (.request call q since) := by
      rw [lifecycle_request]
      exact h
    have hmade : (e.request refuses fs q).2.2 = result :=
      (result_request refuses fs q e).trans hresult
    simp only [served]
    rw [serve, hcalls]
    dsimp only [meet]
    rw [Lifecycle.step_resume hwaits, List.getElem?_set_self hwaits.lt_length, hmade]
    cases result <;> rfl
  -- Neither of these waits is served, so that serving again changes nothing.
  rw [sent?, serve, hserved, hresult]
  cases result <;> exact ⟨rfl, rfl⟩

/-! ## What is sent -/

/-- The engine after a trigger whose call waits. -/
def triggered (t : Trigger) (wait : Wait) (e : Engine) : Engine :=
  { e with
    lifecycle := { e.lifecycle with
      suggester := (e.lifecycle.suggester.start e.lifecycle.surroundings t).1
      calls := e.lifecycle.calls ++ [some wait] } }

section

variable {t : Trigger} (hpasses : t.Passes e.lifecycle.surroundings)

omit [Place] in
theorem waits_triggered (t : Trigger) (wait : Wait) (e : Engine) :
    (e.triggered t wait).lifecycle.Waits e.lifecycle.calls.length wait :=
  List.getElem?_concat_length

include hpasses in
/-- A call that is told of the user's entitlement waits for its request, under the id of the session
    that its trigger has begun. -/
theorem serve_triggered (prompt : Text) (entries : List Value) :
    let s := e.lifecycle.surroundings
    let origin := (e.lifecycle.suggester.start s t).2
    let call := t.pending prompt entries origin
    (e.triggered t (.entitlement call)).serve refuses fs seat e.lifecycle.calls.length =
      e.triggered t (.request call (call.inquiry seat origin.suggestionId) s.now) := by
  intro s origin call
  let wait : Wait := .request call (call.inquiry seat origin.suggestionId) s.now
  let l := (e.triggered t (.entitlement call)).lifecycle
  -- The call waits for the entitlement and is told of it.
  have hwaits : l.Waits e.lifecycle.calls.length (.entitlement call) := waits_triggered t _ e
  have hresume : l.suggester.resume l.surroundings (.entitlement call)
      (.entitlement (.ok seat)) = (l.suggester, [], .waiting wait) := by
    have hstanding : l.surroundings.isCancelled call.trigger = false := hpasses.standing
    simp only [Suggester.resume, Suggester.afterEntitlement, hstanding, Bool.false_eq_true, if_false]
    rfl
  -- The one wait takes the place of the other.
  have hcalls : l.calls.set e.lifecycle.calls.length (some wait) =
      e.lifecycle.calls ++ [some wait] := by
    simp [l, triggered]
  rw [serve_entitlement hwaits, meet, Lifecycle.step_resume hwaits, hresume]
  simp only [Progress.wait?, hcalls]
  rfl

variable (hidle : e.lifecycle.suggester.session.isDisplayed = false)

include hpasses hidle

/-- Where no suggestion is wanted nothing is sent. -/
theorem sent?_suggest_of_not_awaits
    (h : ∀ prompt entries, ¬ t.document.Awaits t.position prompt entries) :
    (e.suggest refuses fs seat t).sent? e.lifecycle.calls.length = none := by
  have hcalls : (e.meet (.trigger t)).1.lifecycle.calls[e.lifecycle.calls.length]? = some none := by
    simp only [meet, Lifecycle.step, Lifecycle.beginCall, Suggester.trigger_of_passes hpasses hidle,
      Suggester.wait?_ask_of_not_awaits h]
    exact List.getElem?_concat_length
  have hserve : (e.meet (.trigger t)).1.serve refuses fs seat e.lifecycle.calls.length =
      (e.meet (.trigger t)).1 := by
    rw [serve, hcalls]
  rw [suggest, hserve, hserve, sent?, hcalls]

omit [Place] in
/-- A user who asks for a suggestion at a wrong place is told so. -/
theorem happening_of_hint {hint : Text}
    (hhint : (t.document.checkTrigger t.position).hint = some hint) (hkind : t.kind = .invoke) :
    (e.meet (.trigger t)).2 =
      ⟨[.showInformation hint], some (e.lifecycle.calls.length, .finished [])⟩ := by
  simp only [meet, Lifecycle.step, Lifecycle.beginCall, Suggester.trigger_of_passes hpasses hidle,
    Suggester.ask_of_hint hhint hkind, Suggester.giveUp]

/-- Where a suggestion is wanted the call sends the request that is made of the place over the cache
    of the engine, with the user's entitlement, if someone is asked for it. -/
theorem sent?_suggest_of_awaits (h : t.document.Awaits t.position prompt entries) :
    let s := e.lifecycle.surroundings
    let origin := (e.lifecycle.suggester.start s t).2
    let q := (t.pending prompt entries origin).inquiry (s.asksEntitlement && seat)
      origin.suggestionId
    (e.suggest refuses fs seat t).sent? e.lifecycle.calls.length =
      (q.request fs e.workspace s.settings.modelId (s.ids.request e.freshRequests)
        e.cache).2.toOption := by
  intro s origin q
  have hready := hpasses.ready h
  let call := t.pending prompt entries origin
  cases hasks : s.asksEntitlement with
  | false =>
    -- The call waits for its request at once, and after that there is nothing to answer.
    have hfirst : (e.meet (.trigger t)).1 =
        e.triggered t (.request call (call.inquiry false origin.suggestionId) s.now) := by
      simp only [meet, Lifecycle.step, Lifecycle.beginCall,
        Suggester.trigger_of_passes hpasses hidle, Suggester.ask_of_ready_unasked hready hasks]
      rfl
    obtain ⟨hsent, hserved⟩ := @sent?_serve_request _ refuses fs seat _ _ _ _ _
      (waits_triggered t (.request call (call.inquiry false origin.suggestionId) s.now) e)
    rw [suggest, hfirst, hserved, hsent]
    simp only [q, hasks, Bool.false_and]
    rfl
  | true =>
    -- The call is told of the user's entitlement first.
    have hfirst : (e.meet (.trigger t)).1 = e.triggered t (.entitlement call) := by
      rw [meet, Lifecycle.step_trigger_of_ready hready hasks hidle]
      rfl
    obtain ⟨hsent, -⟩ := @sent?_serve_request _ refuses fs seat _ _ _ _ _
      (waits_triggered t (.request call (call.inquiry seat origin.suggestionId) s.now) e)
    rw [suggest, hfirst, serve_triggered hpasses, hsent]
    simp only [q, hasks, Bool.true_and]
    rfl

end

end Engine

end PlaybookAssist
