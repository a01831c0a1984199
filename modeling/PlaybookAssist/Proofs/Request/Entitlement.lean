import PlaybookAssist.Proofs.Files.Layout
import PlaybookAssist.Proofs.Request.Payload
import PlaybookAssist.Proofs.Role.Coherence

/-!
# What entitlement adds to a request

For a user who is not entitled a request tells nothing but what the document itself tells: the files
around it, what the cache holds, the folders that are open and the model of the settings have no
influence on it, and the cache is left as it is. For an entitled user the same request tells the
model and the context on top of that, and is otherwise the same.

## Main statements

- `Inquiry.request_of_unentitled` : the request of a user who is not entitled
- `Inquiry.redact_of_request` : any request beside it
- `Inquiry.unentitled_noninterference` : both together
-/

namespace PlaybookAssist

namespace Inquiry

section

variable [Place] {q : Inquiry} {fs : FileTree} {workspace : Workspace} {modelId : Option Text}
  {freshId : Text} {cache : RoleCache}

/-- The kind of file that a given document tells at its place. -/
def plainFindings (q : Inquiry) : Except Failure Findings :=
  ((Uri.toPath q.uri).mapError Failure.ofUri).map fun path =>
    ⟨FileType.ofDocument path q.document, none, none⟩

/-- Without entitlement only the kind of file is found out, and the cache is not asked. -/
theorem findings_of_unentitled (hentitled : q.entitled = false) (hdocument : q.document ≠ .null)
    (fs : FileTree) (workspace : Workspace) (modelId : Option Text) (cache : RoleCache) :
    q.findings fs workspace modelId cache = (cache, q.plainFindings) := by
  rw [findings, plainFindings]
  cases (Uri.toPath q.uri).mapError Failure.ofUri with
  | error e => rfl
  | ok path =>
    simp only [FileType.detect_of_ne_null hdocument, hentitled]
    rfl

/-- What is found out with entitlement has the kind of file in common with what is found out
    without. -/
theorem plainFindings_of_findings (hdocument : q.document ≠ .null) {found : Findings}
    (h : (q.findings fs workspace modelId cache).2 = .ok found) :
    q.plainFindings = .ok ⟨found.type, none, none⟩ := by
  -- Without entitlement the findings are plain already; with it only the context is dropped.
  cases hentitled : q.entitled with
  | false =>
    rw [findings_of_unentitled hentitled hdocument] at h
    obtain ⟨path, hpath, rfl⟩ := map_eq_ok.mp h
    exact h
  | true =>
    rw [findings] at h
    rw [plainFindings]
    cases hpath : (Uri.toPath q.uri).mapError Failure.ofUri with
    | error e =>
      rw [hpath] at h
      cases h
    | ok path =>
      simp only [hpath, FileType.detect_of_ne_null hdocument, hentitled, if_true] at h
      obtain ⟨context, -, rfl⟩ := map_eq_ok.mp h
      rfl

omit [Place] in
/-- An inquiry that has an id takes no fresh one. -/
theorem requestOf_of_id (hid : q.suggestionId ≠ []) (freshId : Text) :
    q.requestOf freshId = q.requestOf [] := by
  have hempty : q.suggestionId.isEmpty = false := List.isEmpty_eq_false_iff.mpr hid
  funext found
  simp only [requestOf, requestWith, hempty, Bool.false_eq_true, if_false]

/-- The request of a user who is not entitled does not depend on anything around the document, and
    the cache is left as it is. -/
theorem request_of_unentitled (hentitled : q.entitled = false) (hdocument : q.document ≠ .null)
    (hid : q.suggestionId ≠ []) (fs : FileTree) (workspace : Workspace) (modelId : Option Text)
    (freshId : Text) (cache : RoleCache) :
    q.request fs workspace modelId freshId cache =
      (cache, q.plainFindings.map (q.requestOf [])) := by
  rw [request_eq, findings_of_unentitled hentitled hdocument, requestOf_of_id hid]
  rfl

/-- A request tells, but for the model and the context, what the request does that is made of the
    kind of file alone. -/
theorem redact_of_request (hdocument : q.document ≠ .null) (hid : q.suggestionId ≠ [])
    {r : CompletionRequest} (h : (q.request fs workspace modelId freshId cache).2 = .ok r) :
    ∃ plain payload, q.plainFindings.map (q.requestOf []) = .ok plain ∧
      plain.toPayload = .ok payload ∧
      ∀ full, r.toPayload = .ok full →
        CompletionRequest.redact ["modelId"] ["additionalContext"] full = payload := by
  rw [request_eq, requestOf_of_id hid] at h
  obtain ⟨found, hfound, rfl⟩ := map_eq_ok.mp h
  let bare : Findings := ⟨found.type, none, none⟩
  refine ⟨q.requestOf [] bare, q.payloadWith [] bare none, ?_, ?_, ?_⟩
  -- The findings of the plain request are the type, and nothing else of what was found.
  · rw [plainFindings_of_findings hdocument hfound]
    rfl
  · -- Without a context nothing can stand in the way of a payload.
    rw [toPayload_requestOf]
    rfl
  -- Redaction takes away exactly what the plain request does not have.
  · intro full hfull
    rw [toPayload_requestOf] at hfull
    obtain ⟨context, -, rfl⟩ := map_eq_ok.mp hfull
    exact redact_payloadWith_findings q [] found context

/-- Without entitlement the same inquiry gives the same request or the same failure, whatever the
    files, the folders, the model and the cache are, and the cache is not touched. Where the inquiry
    can be made with entitlement, it can be made without, and the payload is the one with
    entitlement less the model and the context. -/
theorem unentitled_noninterference (q : Inquiry) (hdocument : q.document ≠ .null)
    (hid : q.suggestionId ≠ []) :
    let unentitled : Inquiry := { q with entitled := false }
    let entitled : Inquiry := { q with entitled := true }
    (∀ (fs fs' : FileTree) (workspace workspace' : Workspace) (modelId modelId' : Option Text)
        (freshId freshId' : Text) (cache cache' : RoleCache),
      (unentitled.request fs workspace modelId freshId cache).1 = cache ∧
        (unentitled.request fs workspace modelId freshId cache).2 =
          (unentitled.request fs' workspace' modelId' freshId' cache').2) ∧
    ∀ (fs : FileTree) (workspace : Workspace) (modelId : Option Text) (freshId : Text)
        (cache : RoleCache) (r : CompletionRequest),
      (entitled.request fs workspace modelId freshId cache).2 = .ok r →
        ∃ plain payload, (unentitled.request fs workspace modelId freshId cache).2 = .ok plain ∧
          plain.toPayload = .ok payload ∧
          ∀ full, r.toPayload = .ok full →
            CompletionRequest.redact ["modelId"] ["additionalContext"] full = payload := by
  intro unentitled entitled
  have hrequest := @request_of_unentitled _ unentitled rfl hdocument hid
  constructor
  -- Without entitlement nothing that has changed is looked at.
  · intro fs fs' workspace workspace' modelId modelId' freshId freshId' cache cache'
    rw [hrequest, hrequest]
    exact ⟨rfl, rfl⟩
  -- The other part compares the entitled request with the plain one.
  · intro fs workspace modelId freshId cache r hr
    rw [hrequest]
    exact @redact_of_request _ entitled _ _ _ _ _ hdocument hid r hr

end

/-! ## A sample -/

namespace Sample

/-- The inquiry for the body of a task. -/
def inquiry : Inquiry where
  prompt := "- name: x"
  document := .list [.map [(.str "name", .str "x")]]
  uri := "file:///w/tasks/main.yml"
  activityId := "activity"
  entitled := true
  suggestionId := "suggestion"

attribute [local instance] RoleCache.Sample.place

/-- What is found out about it with entitlement, over an empty file system. -/
def found : Findings :=
  ⟨.tasks, some "model", some ⟨.tasks, some (.tasks (.map []))⟩⟩

/-- The plain form of the context. -/
def context : Mapping :=
  Mapping.ofTexts [("playbookContext", .map []), ("roleContext", .map []),
    ("standaloneTaskContext", .map (Mapping.ofTexts [("includeVars", .map [])]))]

theorem plainContext_found : found.plainContext = .ok (some context) := by
  rfl

theorem findings_inquiry : inquiry.findings default ⟨["/w"]⟩ (some "model") (.empty []) =
    (.empty [], .ok found) := by
  decide +kernel

end Sample

attribute [local instance] RoleCache.Sample.place

/-- An entitled user's request tells a model that nobody else's does. -/
theorem unentitled_sample :
    let q := Sample.inquiry
    let r := q.requestOf [] Sample.found
    q.document ≠ .null ∧ q.suggestionId ≠ [] ∧
      (q.request default ⟨["/w"]⟩ (some "model") [] (.empty [])).2 = .ok r ∧
      ∃ plain payload full,
        ({ q with entitled := false }.request default ⟨[]⟩ none [] (.empty [])).2 = .ok plain ∧
        plain.toPayload = .ok payload ∧ r.toPayload = .ok full ∧
        CompletionRequest.redact ["modelId"] ["additionalContext"] full = payload ∧
        Mapping.find? "modelId" full = some (.str "model") := by
  intro q r
  have hdocument : q.document ≠ .null := by
    intro h
    cases h
  have hid : q.suggestionId ≠ [] := by decide
  have hr : (q.request default ⟨["/w"]⟩ (some "model") [] (.empty [])).2 = .ok r := by
    rw [request_eq, Sample.findings_inquiry]
    rfl
  obtain ⟨hsame, hless⟩ := unentitled_noninterference q hdocument hid
  obtain ⟨plain, payload, hplain, hpayload, hfull⟩ :=
    hless default ⟨["/w"]⟩ (some "model") [] (.empty []) r hr
  have hother := (hsame default default ⟨[]⟩ ⟨["/w"]⟩ none (some "model") [] [] (.empty [])
    (.empty [])).2
  -- The payload of the entitled request holds a context and the name of a model.
  have hpayload' : r.toPayload = .ok (q.payloadWith [] Sample.found (some Sample.context)) := by
    rw [toPayload_requestOf, Sample.plainContext_found]
    rfl
  exact ⟨hdocument, hid, hr, plain, payload, _, hother.trans hplain, hpayload, hpayload',
    hfull _ hpayload', rfl⟩

end Inquiry

end PlaybookAssist
