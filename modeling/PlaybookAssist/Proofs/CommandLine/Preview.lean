import PlaybookAssist.CommandLine.Program
import PlaybookAssist.Proofs.Engine.Call
import PlaybookAssist.Proofs.Prompt.Load
import PlaybookAssist.Proofs.Request.Payload
import PlaybookAssist.Proofs.Role.Coherence
import PlaybookAssist.Proofs.Uri.Quoted

/-!
# What the program shows and what the engine sends

The program and the engine come to a request on two ways of their own. The program shows a request
for a place in a file exactly where the engine sends one that has a payload that can be written down,
and apart from the ids the two payloads are the same. A request without a payload the engine sends all
the same; the program fails on it. Where the cursor stands at a wrong place, the program says what the
engine tells the user who asks for a suggestion.

## Main definitions

- `Program.Reads` : the settings, the text and the place that an inspection comes to
- `Program.Previews` : the program is called for the place at which the engine is asked

## Main statements

- `Program.run_iff_sent` : what is shown is what is sent
- `Program.sent_without_report` : a request that is sent and not shown
-/

namespace PlaybookAssist

namespace Program

section

variable [Place]

/-! ## The two ways to a request -/

/-- The program is called for the place in a document at which an idle engine gets a trigger, with
    the workspace, the settings and the entitlement that the engine has. The engine has looked at no
    roles yet, and its settings are such that the document gets suggestions. -/
structure Previews (fs : FileTree) (argv : List Text) (arguments : Arguments) (e : Engine)
    (t : Trigger) (seat : Bool) : Prop where
  parse : Arguments.parse Place.workingDirectory argv = .done arguments
  uri : t.document.uri = Uri.ofPath (resolve arguments.file)
  text : fs.readText (resolve arguments.file) = .ok t.document.text
  languageId : t.document.languageId = "ansible"
  line : arguments.line = some (t.position.line + 1)
  column : arguments.column = some t.position.character
  workspace : ∃ w, arguments.workspace = some w ∧ e.workspace = .ofFolders [w]
  settings : settingsOf fs arguments.config = .ok e.lifecycle.surroundings.settings
  entitled : arguments.entitled = (e.lifecycle.surroundings.asksEntitlement && seat)
  cache : e.cache = .empty Role.standardDirectories
  enabled : e.lifecycle.surroundings.settings.suggestionsEnabled = true
  url : e.lifecycle.surroundings.settings.url ≠ []
  served : e.lifecycle.surroundings.settings.languageId = "ansible"
  active : e.lifecycle.surroundings.servesActive = true
  standing : e.lifecycle.surroundings.isCancelled t = false
  idle : e.lifecycle.suggester.session.isDisplayed = false

variable {fs : FileTree} {argv : List Text} {arguments : Arguments} {e : Engine} {t : Trigger}
  {seat : Bool} {ids : IdSource} {d : Document} {p : Position} {prompt : Text}
  {entries : List Value}

theorem Previews.passes (h : Previews fs argv arguments e t seat) :
    t.Passes e.lifecycle.surroundings where
  active := h.active
  serves := by
    rw [Surroundings.serves, h.languageId, h.served]
    rfl
  standing := h.standing
  enabled := h.enabled
  url := List.isEmpty_eq_false_iff.mpr h.url

/-! ## Places -/

omit [Place] in
/-- At a wrong place there is a hint, and at no other. -/
theorem hint_eq_none_iff (c : TriggerCheck) : c.hint = none ↔ c.isOk = true := by
  rw [TriggerCheck.hint]
  cases c.isOk with
  | true => exact iff_of_true rfl rfl
  | false =>
    simp only [Bool.false_eq_true, if_false, iff_false]
    split <;> exact Option.some_ne_none _

omit [Place] in
theorem promptAt_of_hint {hint : Text} (h : (d.checkTrigger p).hint = some hint) :
    promptAt d p = .ok (.error hint) := by
  rw [promptAt, h]
  rfl

omit [Place] in
/-- Looking for a prompt at an accepted place comes to parsing it, and then to judging its entries. -/
theorem promptAt_of_placed {above : Text} (hhint : (d.checkTrigger p).hint = none)
    (habove : d.prompt p = .ok above) :
    promptAt d p = match Prompt.parse above with
      | .error (.prompt fault) => .ok (.error fault.message)
      | .error e => .error e
      | .ok entries => (Prompt.awaitsBody (entries.getD [])).map fun awaits =>
          if awaits then .ok (above, entries.getD [])
          else .error "No inline suggestion would be requested at this position." := by
  rw [promptAt, hhint]
  simp only [habove, bind, Except.bind]
  cases Prompt.parse above with
  | error e => cases e <;> rfl
  | ok entries =>
    dsimp only
    cases Prompt.awaitsBody (entries.getD []) with
    | error e => rfl
    | ok awaits => cases awaits <;> rfl

omit [Place] in
/-- The program goes on exactly where a suggestion is wanted. -/
theorem promptAt_eq_ok_iff :
    promptAt d p = .ok (.ok (prompt, entries)) ↔ d.Awaits p prompt entries := by
  constructor
  -- Forwards: every branch that ends with a reason or a failure is ruled out by the hypothesis.
  · intro h
    cases hhint : (d.checkTrigger p).hint with
    | some hint =>
      rw [promptAt_of_hint hhint] at h
      cases h
    | none =>
      have hplaced := (hint_eq_none_iff _).mp hhint
      obtain ⟨above, habove⟩ := Document.exists_prompt hplaced
      rw [promptAt_of_placed hhint habove] at h
      -- The prompt may be refused or fail; what is left is a list of entries, or nothing.
      split at h
      · cases h
      · cases h
      next parsed hparse =>
      obtain ⟨awaits, hawaits, hgoes⟩ := map_eq_ok.mp h
      split at hgoes
      case isFalse => cases hgoes
      case isTrue htrue =>
        cases hgoes
        subst htrue
        cases parsed with
        | none => cases hawaits
        | some entries => exact ⟨hplaced, habove, hparse, hawaits⟩
  -- Backwards: each step is known to succeed.
  · intro h
    rw [promptAt_of_placed ((hint_eq_none_iff _).mpr h.placed) h.above, h.parse]
    simp only [Option.getD_some, h.awaitsBody, Except.map, if_true]

/-! ## Reports -/

/-- The inquiry that the program makes. -/
def inquiryOf (ids : IdSource) (arguments : Arguments) (path text prompt : Text)
    (entries : List Value) : Inquiry where
  prompt := prompt
  document := .list entries
  uri := Uri.ofPath path
  activityId := (ActivityLog.idOf ids (Uri.ofPath path) text []).2
  entitled := arguments.entitled
  suggestionId := []

/-- What the program shows of a payload. -/
def shown (type : FileType) (payload : Mapping) : Value :=
  .map (Mapping.ofTexts [("ansibleFileType", .str type.name), ("request", .map payload)])

/-- The report is the payload of the request, if it has one that can be written down. -/
theorem report_eq {settings : Settings} {w path text : Text}
    (hworkspace : arguments.workspace = some w) :
    report fs ids settings arguments path text prompt entries =
      ((inquiryOf ids arguments path text prompt entries).request fs (.ofFolders [w])
          settings.modelId (ids.request 0) (.empty Role.standardDirectories)).2 >>= fun r =>
        r.toPayload >>= fun payload =>
          if Value.hasLongInteger (.map payload) then .error (.badValue (Integer.limitText none))
          else .ok (shown (FileType.ofDocument path (.list entries)) payload) := by
  rw [report, hworkspace]
  rfl

/-- A report is what is printed with the status of success. -/
theorem run_eq_ok_iff {out : Text}
    (hparse : Arguments.parse Place.workingDirectory argv = .done arguments) :
    run fs ids argv = .ok ⟨0, out, []⟩ ↔
      ∃ v, inspect fs ids arguments = .ok (.report v) ∧ out = Yaml.write v := by
  rw [run, hparse]
  dsimp only
  rw [map_eq_ok]
  constructor
  · rintro ⟨finding, hinspect, hout⟩
    cases finding with
    | report v =>
      cases hout
      exact ⟨v, hinspect, rfl⟩
    | nothing reason => cases hout
  · rintro ⟨v, hinspect, rfl⟩
    exact ⟨.report v, hinspect, rfl⟩

/-- A place in a text is looked at when its line and its column are known. -/
theorem inspectText_eq {settings : Settings} {path text : Text} {line column : Int}
    (hline : arguments.line = some line) (hcolumn : arguments.column = some column) :
    inspectText fs ids settings arguments path text =
      promptAt ⟨Uri.ofPath path, text, Settings.standard.languageId⟩ ⟨line - 1, column⟩ >>= fun
        | .error reason => .ok (.nothing reason)
        | .ok (prompt, entries) =>
          report fs ids settings arguments path text prompt entries >>= fun v =>
            .ok (.report v) := by
  rw [inspectText, hline, hcolumn]
  rfl

/-! ## What an inspection comes to -/

/-- The document that the program looks at. -/
def documentOf (arguments : Arguments) (text : Text) : Document :=
  ⟨Uri.ofPath (resolve arguments.file), text, Settings.standard.languageId⟩

/-- An inspection comes to look at a place in a text. -/
structure Reads (fs : FileTree) (arguments : Arguments) (settings : Settings) (text : Text)
    (p : Position) : Prop where
  settings : settingsOf fs arguments.config = .ok settings
  text : fs.readText (resolve arguments.file) = .ok text
  line : arguments.line = some (p.line + 1)
  column : arguments.column = some p.character

/-- The program looks at the place that it comes to. -/
theorem inspect_of_reads {settings : Settings} {text : Text}
    (h : Reads fs arguments settings text p) (ids : IdSource) :
    inspect fs ids arguments = promptAt (documentOf arguments text) p >>= fun
      | .error reason => .ok (.nothing reason)
      | .ok (prompt, entries) =>
        report fs ids settings arguments (resolve arguments.file) text prompt entries >>= fun v =>
          .ok (.report v) := by
  have hline : p.line + 1 - 1 = p.line := by omega
  rw [inspect, h.settings]
  dsimp only
  rw [h.text]
  dsimp only
  rw [inspectText_eq h.line h.column, hline]
  rfl

namespace Previews

/-- The document that the program reads is the one of the trigger. -/
theorem documentOf_eq (h : Previews fs argv arguments e t seat) :
    documentOf arguments t.document.text = t.document := by
  have hlanguage : Settings.standard.languageId = t.document.languageId := h.languageId.symm
  rw [documentOf, ← h.uri, hlanguage]

/-- The program comes to look at the place of the trigger. -/
theorem reads (h : Previews fs argv arguments e t seat) :
    Reads fs arguments e.lifecycle.surroundings.settings t.document.text t.position :=
  ⟨h.settings, h.text, h.line, h.column⟩

/-- The program looks at the place of the trigger. -/
theorem inspect_eq (h : Previews fs argv arguments e t seat) (ids : IdSource) :
    inspect fs ids arguments = promptAt t.document t.position >>= fun
      | .error reason => .ok (.nothing reason)
      | .ok (prompt, entries) =>
        report fs ids e.lifecycle.surroundings.settings arguments (resolve arguments.file)
          t.document.text prompt entries >>= fun v => .ok (.report v) := by
  rw [inspect_of_reads h.reads, h.documentOf_eq]

/-- Where a suggestion is wanted the program shows the payload of what is found out. -/
theorem inspect_of_awaits (h : Previews fs argv arguments e t seat) (ids : IdSource)
    (hawaits : t.document.Awaits t.position prompt entries) :
    let q := inquiryOf ids arguments (resolve arguments.file) t.document.text prompt entries
    inspect fs ids arguments =
      (q.findings fs e.workspace e.lifecycle.surroundings.settings.modelId e.cache).2 >>=
        fun found => found.plainContext >>= fun context =>
          if context.any fun m => Value.hasLongInteger (.map m) then
            .error (.badValue (Integer.limitText none))
          else .ok (.report (shown
            (FileType.ofDocument (resolve arguments.file) (.list entries))
            (q.payloadWith (ids.request 0) found context))) := by
  intro q
  -- Reading the arguments, the settings and the text leaves the report to be made.
  obtain ⟨w, hworkspace, hfolders⟩ := h.workspace
  have hinspect : inspect fs ids arguments = report fs ids e.lifecycle.surroundings.settings
      arguments (resolve arguments.file) t.document.text prompt entries >>= fun v =>
        .ok (Finding.report v) := by
    rw [h.inspect_eq, promptAt_eq_ok_iff.mpr hawaits]
    rfl
  rw [hinspect, report_eq hworkspace, ← hfolders, ← h.cache, Inquiry.request_eq]
  dsimp only [Prod.map]
  -- From here on the two sides are worked off step by step.
  cases (q.findings fs e.workspace e.lifecycle.surroundings.settings.modelId e.cache).2 with
  | error f => rfl
  | ok found =>
    -- What a payload holds beside the context never has too long a number in it.
    simp only [Except.map, bind, Except.bind, Inquiry.toPayload_requestOf]
    cases found.plainContext with
    | error f => rfl
    | ok context =>
      simp only [Inquiry.hasLongInteger_payloadWith]
      cases context.any fun m => Value.hasLongInteger (.map m) <;> rfl

/-- Where a suggestion is wanted the engine sends the request for what is found out. -/
theorem sent_of_awaits (h : Previews fs argv arguments e t seat) (ids : IdSource)
    (refuses : Text → Bool) (hawaits : t.document.Awaits t.position prompt entries) :
    let q := inquiryOf ids arguments (resolve arguments.file) t.document.text prompt entries
    ∃ (q' : Inquiry) (freshId : Text), q'.prompt = q.prompt ∧ q'.uri = q.uri ∧
      (e.suggest refuses fs seat t).sent? e.lifecycle.calls.length =
        (q.findings fs e.workspace e.lifecycle.surroundings.settings.modelId
          e.cache).2.toOption.map (q'.requestOf freshId) := by
  intro q
  let s := e.lifecycle.surroundings
  let origin := (e.lifecycle.suggester.start s t).2
  let q' := (t.pending prompt entries origin).inquiry (s.asksEntitlement && seat)
    origin.suggestionId
  -- The two inquiries differ in their ids and in nothing that is found out.
  refine ⟨q', s.ids.request e.freshRequests, rfl, h.uri, ?_⟩
  have hfindings : q'.findings fs e.workspace s.settings.modelId e.cache =
      q.findings fs e.workspace s.settings.modelId e.cache :=
    Inquiry.findings_congr h.uri rfl h.entitled.symm
  rw [Engine.sent?_suggest_of_awaits h.passes h.idle hawaits, Inquiry.request_eq, hfindings]
  dsimp only [Prod.map]
  cases (q.findings fs e.workspace s.settings.modelId e.cache).2 <;> rfl

/-! ## What comes of both -/

/-- What comes of the two ways together: the request that the engine sends, and what the program
    finds. -/
inductive Outcome : Option CompletionRequest → Except Failure Finding → Prop where
  /-- No request is sent or shown. -/
  | unsent (found : Except Failure Finding) (hfound : ∀ v, found ≠ .ok (.report v)) :
      Outcome none found
  /-- A request is sent that has no payload. -/
  | unformed (r : CompletionRequest) (f : Failure) (hpayload : r.toPayload = .error f) :
      Outcome (some r) (.error f)
  /-- A request is sent whose payload cannot be written down. -/
  | unwritten (r : CompletionRequest) (payload : Mapping) (hpayload : r.toPayload = .ok payload)
      (hlong : Value.hasLongInteger (.map payload) = true) :
      Outcome (some r) (.error (.badValue (Integer.limitText none)))
  /-- A request is sent, and the same is shown under other ids. -/
  | shown (r : CompletionRequest) (payload payload' : Mapping) (type : FileType)
      (hpayload : r.toPayload = .ok payload)
      (hlong : Value.hasLongInteger (.map payload) = false)
      (hsame : CompletionRequest.redact ["suggestionId"] ["activityId"] payload' =
        CompletionRequest.redact ["suggestionId"] ["activityId"] payload) :
      Outcome (some r) (.ok (.report (shown type payload')))

namespace Outcome

omit [Place]

variable {sent : Option CompletionRequest} {found : Except Failure Finding}
  {r : CompletionRequest} {payload : Mapping} {v : Value} {f : Failure}

/-- There is a report exactly where a request is sent whose payload can be written down. -/
theorem report_iff (h : Outcome sent found) :
    (∃ v, found = .ok (.report v)) ↔
      ∃ r payload, sent = some r ∧ r.toPayload = .ok payload ∧
        Value.hasLongInteger (.map payload) = false := by
  constructor
  · rintro ⟨v, rfl⟩
    cases h with
    | unsent _ hfound => exact absurd rfl (hfound v)
    | shown r payload _ _ hpayload hlong _ => exact ⟨r, payload, rfl, hpayload, hlong⟩
  · rintro ⟨r, payload, rfl, hpayload, hlong⟩
    cases h with
    | unformed _ _ hnone => cases hnone.symm.trans hpayload
    | unwritten _ _ hpayload' hlong' =>
      cases hpayload'.symm.trans hpayload
      cases hlong'.symm.trans hlong
    | shown => exact ⟨_, rfl⟩

/-- A report shows the payload of the request that is sent, under other ids. -/
theorem eq_shown (h : Outcome (some r) (.ok (.report v))) (hpayload : r.toPayload = .ok payload) :
    ∃ type payload', v = Program.shown type payload' ∧
      CompletionRequest.redact ["suggestionId"] ["activityId"] payload' =
        CompletionRequest.redact ["suggestionId"] ["activityId"] payload := by
  cases h with
  | shown _ _ payload' type hpayload' _ hsame =>
    cases hpayload'.symm.trans hpayload
    exact ⟨type, payload', rfl, hsame⟩

/-- What is wrong with the payload of a request that is sent, the program fails with. -/
theorem eq_error (h : Outcome (some r) found) (hnone : r.toPayload = .error f) :
    found = .error f := by
  cases h with
  | unformed _ _ hnone' => exact congrArg Except.error (Except.error.inj (hnone'.symm.trans hnone))
  | unwritten _ _ hpayload _ | shown _ _ _ _ hpayload _ _ => cases hpayload.symm.trans hnone

end Outcome

/-- The two ways come to the same. -/
theorem outcome (h : Previews fs argv arguments e t seat) (ids : IdSource)
    (refuses : Text → Bool) :
    Outcome ((e.suggest refuses fs seat t).sent? e.lifecycle.calls.length)
      (inspect fs ids arguments) := by
  -- Either something awaits a body, and both sides ask for it, or neither side asks.
  by_cases hwanted : ∃ prompt entries, t.document.Awaits t.position prompt entries
  · obtain ⟨prompt, entries, hawaits⟩ := hwanted
    obtain ⟨q', freshId, hprompt, huri, hsent⟩ := h.sent_of_awaits ids refuses hawaits
    have hinspect := h.inspect_of_awaits ids hawaits
    dsimp only at hsent hinspect hprompt huri
    -- What is found out is common to both; each puts it together with an inquiry of its own.
    generalize inquiryOf ids arguments (resolve arguments.file) t.document.text prompt entries = q
      at hsent hinspect hprompt huri
    rw [hsent, hinspect]
    cases (q.findings fs e.workspace e.lifecycle.surroundings.settings.modelId e.cache).2 with
    -- Nothing is found out: nothing is sent, and nothing reported.
    | error f => exact .unsent _ fun v hv => nomatch hv
    | ok found =>
      -- Both sides now form the payload of the same findings.
      have hpayload := Inquiry.toPayload_requestOf q' freshId found
      cases hplain : found.plainContext with
      | error f =>
        rw [hplain] at hpayload
        simp only [bind, Except.bind, hplain]
        -- The payload cannot be formed, so that it is not reported either.
        exact .unformed _ f hpayload
      | ok context =>
        rw [hplain] at hpayload
        have hlong := Inquiry.hasLongInteger_payloadWith q' freshId found context
        simp only [bind, Except.bind, hplain]
        cases hcontext : context.any fun m => Value.hasLongInteger (.map m) with
        -- It is formed, and cannot be written down.
        | true => exact .unwritten _ _ hpayload (hlong.trans hcontext)
        | false =>
          have hsame := Inquiry.redact_payloadWith_ids hprompt.symm huri.symm (ids.request 0)
            freshId found context
          exact .shown _ _ _ _ hpayload (hlong.trans hcontext) hsame
  -- Without an awaiting task the program gives a reason, and the engine asks nobody.
  · have hnowhere : ∀ prompt entries, ¬ t.document.Awaits t.position prompt entries :=
      fun prompt entries hawaits => hwanted ⟨prompt, entries, hawaits⟩
    rw [Engine.sent?_suggest_of_not_awaits h.passes h.idle hnowhere]
    refine .unsent _ fun v hreport => ?_
    rw [h.inspect_eq] at hreport
    obtain ⟨finding, hfinding, hrest⟩ := bind_eq_ok.mp hreport
    cases finding with
    | error reason => cases hrest
    | ok found => exact hnowhere _ _ (promptAt_eq_ok_iff.mp hfinding)

end Previews

/-- The program prints a report exactly where the engine sends a request that has a payload which can
    be written down; the payload in the report is then the one that is sent, but for the ids. On a
    request without a payload the program fails. At a wrong place it says what the engine says to a
    user who asks for a suggestion there. -/
theorem run_iff_sent (h : Previews fs argv arguments e t seat) (ids : IdSource)
    (refuses : Text → Bool) :
    let n := e.lifecycle.calls.length
    let sent := (e.suggest refuses fs seat t).sent? n
    ((∃ out, run fs ids argv = .ok ⟨0, out, []⟩) ↔
      ∃ r payload, sent = some r ∧ r.toPayload = .ok payload ∧
        Value.hasLongInteger (.map payload) = false) ∧
    (∀ out r payload, run fs ids argv = .ok ⟨0, out, []⟩ → sent = some r →
      r.toPayload = .ok payload →
        ∃ type payload', out = Yaml.write (shown type payload') ∧
          CompletionRequest.redact ["suggestionId"] ["activityId"] payload' =
            CompletionRequest.redact ["suggestionId"] ["activityId"] payload) ∧
    (∀ r f, sent = some r → r.toPayload = .error f → run fs ids argv = .error f) ∧
    ∀ hint, (t.document.checkTrigger t.position).hint = some hint →
      run fs ids argv = .ok ⟨1, [], hint ++ ['\n']⟩ ∧
        (e.meet (.trigger { t with kind := .invoke })).2 =
          ⟨[.showInformation hint], some (n, .finished [])⟩ := by
  intro n sent
  have houtcome : Previews.Outcome sent (inspect fs ids arguments) := h.outcome ids refuses
  have hrun (out : Text) := @run_eq_ok_iff _ fs argv arguments ids out h.parse
  refine ⟨?_, fun out r payload hout hsent hpayload => ?_, fun r f hsent hnone => ?_,
    fun hint hhint => ⟨?_, ?_⟩⟩
  -- A report exactly when there is a request whose payload can be formed and written.
  · rw [← houtcome.report_iff]
    constructor
    · rintro ⟨out, hout⟩
      obtain ⟨v, hreport, -⟩ := (hrun out).mp hout
      exact ⟨v, hreport⟩
    · rintro ⟨v, hreport⟩
      exact ⟨_, (hrun _).mpr ⟨v, hreport, rfl⟩⟩
  -- What is reported is the payload of that request, apart from ids that are drawn afresh.
  · obtain ⟨v, hreport, rfl⟩ := (hrun out).mp hout
    rw [hsent, hreport] at houtcome
    obtain ⟨type, payload', rfl, hsame⟩ := houtcome.eq_shown hpayload
    exact ⟨type, payload', rfl, hsame⟩
  -- A payload that cannot be formed fails for both with the same failure.
  · rw [hsent] at houtcome
    rw [run, h.parse]
    dsimp only
    rw [houtcome.eq_error hnone]
    rfl
  -- Out of place the program prints the hint, and so does the engine.
  · rw [run, h.parse]
    dsimp only
    rw [h.inspect_eq, promptAt_of_hint hhint]
    rfl
  -- The kind of the trigger does not matter for whether it passes.
  · have hpasses : ({ t with kind := .invoke } : Trigger).Passes e.lifecycle.surroundings :=
      ⟨h.passes.active, h.passes.serves, h.passes.standing, h.passes.enabled, h.passes.url⟩
    exact Engine.happening_of_hint hpasses h.idle hhint rfl

end

/-! ## Samples -/

namespace Sample

open Yaml

attribute [local instance] RoleCache.Sample.place

/-- Two tasks: one that includes a variable file, and the name of the next. -/
def text : Text :=
  "- include_vars: v.yml\n- name: x\n"

/-- The settings, with an address of the service. -/
def settingsText : Text :=
  "lightspeed: {url: u}\n"

/-- A variable file; the octet in it is no text. -/
def variablesText : Text :=
  "a: !!binary /w==\n"

/-- The files. -/
def tree : FileTree :=
  ⟨.directory [("c.yml".toList, .file (Utf8.encode settingsText)),
    ("w".toList, .directory [("tasks".toList, .directory
      [("main.yml".toList, .file (Utf8.encode text)),
       ("v.yml".toList, .file (Utf8.encode variablesText))])])]⟩

/-- What the program is called with, for a user who is entitled or one who is not. -/
def argv (seat : Bool) : List Text :=
  (["/w/tasks/main.yml", "--line", "3", "--workspace", "/w", "--config", "/c.yml"] : List Text) ++
    if seat then ([] : List Text) else ["--no-entitlement"]

def arguments (seat : Bool) : Arguments :=
  { file := "/w/tasks/main.yml", line := some 3, column := some 0, workspace := some "/w"
    config := some "/c.yml", entitled := seat, verbose := false }

/-- The wish for a suggestion below the name. -/
def trigger : Trigger :=
  ⟨⟨Uri.ofPath "/w/tasks/main.yml", text, "ansible"⟩, ⟨2, 0⟩, .automatic, none⟩

/-- An engine that nothing has happened to. -/
def engine : Engine where
  lifecycle := .fresh
    { settings := { Settings.standard with url := "u" }
      active := some trigger.document
      now := 0
      cancelled := []
      asksEntitlement := true
      ids := .counting }
  cache := .empty Role.standardDirectories
  watcher := none
  workspace := .ofFolders ["/w"]
  freshRequests := 0

/-! ### The documents -/

def prompt : Text :=
  "- include_vars: v.yml\n- name: x"

def entries : List Value :=
  [.map [(.str "include_vars", .str "v.yml")], .map [(.str "name", .str "x")]]

theorem load_prompt : Yaml.load prompt = .ok (.list entries) := by
  decide +kernel

theorem load_settings : tree.load "/c.yml" =
    .ok (.map [(.str "lightspeed", .map [(.str "url", .str "u")])]) := by
  decide +kernel

theorem load_variables :
    tree.loadMapping "/w/tasks/v.yml" = .ok (some [(.str "a", .bytes [0xff])]) := by
  decide +kernel

theorem ofDocument_settings :
    Settings.ofDocument (.map [(.str "lightspeed", .map [(.str "url", .str "u")])]) =
      .ok { Settings.standard with url := "u" } := by
  decide

theorem settingsOf_tree :
    settingsOf tree (some "/c.yml".toList) = .ok { Settings.standard with url := "u" } := by
  rw [settingsOf, if_neg (by decide), Settings.ofFile, load_settings]
  exact ofDocument_settings

theorem readText_tree : tree.readText (resolve "/w/tasks/main.yml") = .ok text := by
  decide

theorem previews (seat : Bool) :
    Previews tree (argv seat) (arguments seat) engine trigger seat where
  parse := by cases seat <;> decide
  uri := by
    have hresolve : resolve "/w/tasks/main.yml" = "/w/tasks/main.yml".toList := by decide
    exact congrArg Uri.ofPath hresolve.symm
  text := readText_tree
  languageId := rfl
  line := rfl
  column := rfl
  workspace := ⟨"/w", rfl, rfl⟩
  settings := settingsOf_tree
  entitled := by cases seat <;> rfl
  cache := rfl
  enabled := rfl
  url := List.cons_ne_nil _ _
  served := rfl
  active := rfl
  standing := rfl
  idle := rfl

theorem awaits : trigger.document.Awaits trigger.position prompt entries where
  placed := by decide
  above := by decide
  parse := by
    rw [Prompt.parse, load_prompt]
    rfl
  awaitsBody := rfl

/-- The variable file that the first task includes. -/
def files : VariableFiles :=
  [("v.yml", [(.str "a", .bytes [0xff])])]

theorem included_entries :
    Variables.included tree (.list entries) "/w/tasks" .tasks none = .ok files := by
  -- The target is found next to the file, and it is the only one.
  have htargets : Variables.targets (.list entries) .tasks = .ok ["v.yml".toList] := by
    decide
  have hvisits : ∃ visits, Variables.visits (.list entries) .tasks = .ok visits ∧
      visits.all Variables.Visit.isTask = true := ⟨_, rfl, by decide⟩
  have hfull : Path.normalise (Path.join "/w/tasks" "v.yml") = "/w/tasks/v.yml".toList := by
    decide
  have hload : Variables.loadFrom tree "v.yml" ["/w/tasks".toList] =
      .ok (some [(.str "a", .bytes [0xff])]) := by
    rw [Variables.loadFrom, if_neg (by decide), hfull, load_variables]
    rfl
  have hadd : Variables.add tree ["/w/tasks".toList] [] (.str "v.yml") = .ok (files, true) := by
    simp only [Variables.add, hload]
    rfl
  obtain ⟨visits, hwalk, htasks⟩ := hvisits
  have hdirectories : Variables.searchDirectories "/w/tasks" .tasks none = ["/w/tasks".toList] :=
    rfl
  simp only [Variables.included, htargets, hdirectories, bind, Except.bind, Variables.addAll, hadd,
    hwalk, htasks, if_true]
  rfl

/-- What is found out. -/
def found (seat : Bool) : Inquiry.Findings :=
  ⟨.tasks, none, if seat then some ⟨.tasks, some (.tasks (.map files.toMapping))⟩ else none⟩

theorem resolve_file (seat : Bool) :
    resolve (arguments seat).file = "/w/tasks/main.yml".toList := by
  have hresolve : resolve "/w/tasks/main.yml" = "/w/tasks/main.yml".toList := by
    decide
  exact hresolve

theorem findings_sample (seat : Bool) :
    ((inquiryOf .counting (arguments seat) (resolve (arguments seat).file) trigger.document.text
      prompt entries).findings tree engine.workspace engine.lifecycle.surroundings.settings.modelId
        engine.cache).2 = .ok (found seat) := by
  -- The path, the type and the directory are settled first, then the context.
  have hpath : Uri.toPath (Uri.ofPath "/w/tasks/main.yml") = .ok "/w/tasks/main.yml".toList :=
    Uri.toPath_ofPath (by decide)
  have htype : FileType.detect tree "/w/tasks/main.yml" (.list entries) = .ok .tasks := by
    have hkind : FileType.ofDocument "/w/tasks/main.yml" (.list entries) = .tasks := by
      decide
    exact congrArg Except.ok hkind
  have hdirectory : Path.parent "/w/tasks/main.yml" = "/w/tasks".toList := by
    decide
  have hassemble : (AdditionalContext.assemble tree engine.workspace (.list entries) "/w/tasks"
      "/w/tasks/main.yml" .tasks engine.cache).2 =
        .ok ⟨.tasks, some (.tasks (.map files.toMapping))⟩ := by
    simp only [AdditionalContext.assemble, included_entries]
    rfl
  have hentitled : (arguments seat).entitled = seat := rfl
  rw [Inquiry.findings, resolve_file]
  simp only [inquiryOf, hpath, Except.mapError, htype, hdirectory, hentitled]
  generalize AdditionalContext.assemble tree engine.workspace (.list entries) "/w/tasks"
    "/w/tasks/main.yml" .tasks engine.cache = assembled at hassemble ⊢
  -- Without a seat the context is not asked for.
  cases seat with
  | false => rfl
  | true =>
    simp only [if_true, Prod.map_snd, hassemble]
    rfl

/-- A request is sent for what is found out. -/
theorem sent_sample (refuses : Text → Bool) (seat : Bool) :
    ∃ (q : Inquiry) (freshId : Text),
    (engine.suggest refuses tree seat trigger).sent? 0 =
      some (q.requestOf freshId (found seat)) := by
  obtain ⟨q, freshId, -, -, hsent⟩ := (previews seat).sent_of_awaits .counting refuses awaits
  rw [findings_sample] at hsent
  exact ⟨q, freshId, hsent⟩

end Sample

attribute [local instance] RoleCache.Sample.place

/-- Without entitlement the program prints a report on the sample, and the engine sends the request
    in it. -/
theorem run_sample :
    Previews Sample.tree (Sample.argv false) (Sample.arguments false) Sample.engine Sample.trigger
        false ∧
      ∃ r payload out,
        (Sample.engine.suggest (fun _ => false) Sample.tree false Sample.trigger).sent? 0 = some r ∧
        r.toPayload = .ok payload ∧
        run Sample.tree .counting (Sample.argv false) = .ok ⟨0, out, []⟩ := by
  obtain ⟨q, freshId, hsent⟩ := Sample.sent_sample (fun _ => false) false
  have hpayload : (q.requestOf freshId (Sample.found false)).toPayload =
      .ok (q.payloadWith freshId (Sample.found false) none) := by
    rw [Inquiry.toPayload_requestOf]
    rfl
  have hlong := Inquiry.hasLongInteger_payloadWith q freshId (Sample.found false) none
  obtain ⟨out, hout⟩ := (run_iff_sent (Sample.previews false) .counting fun _ => false).1.mpr
    ⟨_, _, hsent, hpayload, hlong⟩
  exact ⟨Sample.previews false, _, _, out, hsent, hpayload, hout⟩

/-- With entitlement the engine sends a request that has no payload, and the program fails on it. -/
theorem sent_without_report :
    Previews Sample.tree (Sample.argv true) (Sample.arguments true) Sample.engine Sample.trigger
        true ∧
      (∃ r, (Sample.engine.suggest (fun _ => false) Sample.tree true Sample.trigger).sent? 0 =
        some r) ∧
      run Sample.tree .counting (Sample.argv true) =
        .error (.undecodable ⟨0, [0xff], .invalid⟩) := by
  -- The request is sent, and its context has a value that is no text.
  obtain ⟨q, freshId, hsent⟩ := Sample.sent_sample (fun _ => false) true
  have hplain : (Sample.found true).plainContext =
      .error (.undecodable ⟨0, [0xff], .invalid⟩) := by
    decide +kernel
  have hinspect : inspect Sample.tree .counting (Sample.arguments true) =
      .error (.undecodable ⟨0, [0xff], .invalid⟩) := by
    rw [(Sample.previews true).inspect_of_awaits .counting Sample.awaits, Sample.findings_sample]
    simp only [bind, Except.bind, hplain]
  refine ⟨Sample.previews true, ⟨_, hsent⟩, ?_⟩
  rw [run, (Sample.previews true).parse]
  dsimp only
  rw [hinspect]
  rfl

end Program

end PlaybookAssist
