import PlaybookAssist.Proofs.Files.Load
import PlaybookAssist.Proofs.Value.Mapping
import PlaybookAssist.Request.Inquiry

/-!
# What a payload is made of

What is found out for an inquiry, the kind of file and for entitled users the model and the context,
depends neither on the prompt nor on any id. The payload of a request puts both together, each part
under a key of its own; only of the context there may be no plain form.

## Main definitions

- `Inquiry.Findings`, `Inquiry.findings` : what is found out for an inquiry
- `Inquiry.payloadWith` : the payload for some findings
- `CompletionRequest.redact` : a payload without some of its fields

## Main statements

- `Inquiry.request_eq` : a request is what is found out, put together with the inquiry
- `Inquiry.toPayload_requestWith` : when a request has a payload, and which
- `Inquiry.redact_payloadWith_ids`, `Inquiry.redact_payloadWith_findings` : what two payloads share
-/

namespace PlaybookAssist

/-! ## Payloads without some fields -/

namespace Mapping

/-- The mapping without the given texts as keys. -/
def without (fields : List Text) (m : Mapping) : Mapping :=
  m.filter fun p => !fields.any fun field => Value.sameKey p.1 (.str field)

theorem without_ofTexts (fields : List Text) (ps : List (Text × Value)) :
    (ofTexts ps).without fields = ofTexts (ps.filter fun p => !fields.any (p.1 == ·)) := by
  simp only [without, ofTexts, List.filter_map, Function.comp_def, Value.sameKey_str]

end Mapping

namespace CompletionRequest

/-- The metadata without some of their fields. -/
def redactMetadata (fields : List Text) : Value → Value
  | .map m => .map (Mapping.without fields m)
  | v => v

/-- The payload of a request without some of its fields and some fields of the metadata. -/
def redact (fields metadataFields : List Text) (payload : Mapping) : Mapping :=
  (Mapping.without fields payload).map fun p =>
    (p.1, if Value.sameKey p.1 (.str "metadata") then redactMetadata metadataFields p.2 else p.2)

/-- A payload under texts is redacted field by field. -/
theorem redact_ofTexts (fields metadataFields : List Text) (ps : List (Text × Value)) :
    redact fields metadataFields (Mapping.ofTexts ps) =
      Mapping.ofTexts ((ps.filter fun p => !fields.any (p.1 == ·)).map fun p =>
        (p.1, if p.1 == "metadata".toList then redactMetadata metadataFields p.2 else p.2)) := by
  rw [redact, Mapping.without_ofTexts]
  simp only [Mapping.ofTexts, List.map_map, Function.comp_def, Value.sameKey_str]

end CompletionRequest

namespace Inquiry

section

variable [Place]

/-! ## What is found out -/

/-- What is found out for an inquiry. -/
structure Findings where
  type : FileType
  modelId : Option Text
  context : Option AdditionalContext
  deriving DecidableEq, Repr

/-- What is found out for an inquiry, and the role cache after looking at it. -/
def findings (q : Inquiry) (fs : FileTree) (workspace : Workspace) (modelId : Option Text)
    (cache : RoleCache) : RoleCache.Result Findings :=
  match (Uri.toPath q.uri).mapError Failure.ofUri with
  | .error e => (cache, .error e)
  | .ok path =>
    match FileType.detect fs path q.document with
    | .error e => (cache, .error e)
    | .ok type =>
      if q.entitled then
        (AdditionalContext.assemble fs workspace q.document (Path.parent path) path type cache).map
          id fun result => result.map fun context => ⟨type, modelId, some context⟩
      else (cache, .ok ⟨type, none, none⟩)

/-- The request for what has been found out. -/
def requestOf (q : Inquiry) (freshId : Text) (found : Findings) : CompletionRequest :=
  q.requestWith freshId found.type found.modelId found.context

variable {q q' : Inquiry} {fs : FileTree} {workspace : Workspace} {modelId : Option Text}
  {freshId : Text} {cache : RoleCache}

/-- A request is what is found out, put together with the inquiry. -/
theorem request_eq (q : Inquiry) (fs : FileTree) (workspace : Workspace) (modelId : Option Text)
    (freshId : Text) (cache : RoleCache) :
    q.request fs workspace modelId freshId cache =
      (q.findings fs workspace modelId cache).map id fun result => result.map (q.requestOf freshId) := by
  -- Both sides find out the same things in the same order, and fail at the same places.
  rw [request, findings]
  cases (Uri.toPath q.uri).mapError Failure.ofUri with
  | error e => rfl
  | ok path =>
    dsimp only
    cases FileType.detect fs path q.document with
    | error e => rfl
    | ok type =>
      dsimp only
      cases q.entitled with
      | false => rfl
      | true =>
        simp only [if_true]
        obtain ⟨next, e | context⟩ := AdditionalContext.assemble fs workspace q.document
          (Path.parent path) path type cache <;> rfl

/-- What is found out depends on the document, its place and the entitlement alone. -/
theorem findings_congr (huri : q.uri = q'.uri) (hdocument : q.document = q'.document)
    (hentitled : q.entitled = q'.entitled) :
    q.findings fs workspace modelId cache = q'.findings fs workspace modelId cache := by
  rw [findings, findings, huri, hdocument, hentitled]

end

/-! ## Payloads -/

/-- The payload for some findings, the context in its plain form. -/
def payloadWith (q : Inquiry) (freshId : Text) (found : Findings) (context : Option Mapping) :
    Mapping :=
  let metadata := Mapping.ofTexts
    (("documentUri", .str (Uri.documentId q.uri)) :: ("ansibleFileType", .str found.type.name)
      :: ("activityId", .str q.activityId) :: payloadField "additionalContext" .map context)
  Mapping.ofTexts
    (("prompt", .str q.prompt)
      :: ("suggestionId", .str (if q.suggestionId.isEmpty then freshId else q.suggestionId))
      :: (payloadField "modelId" .str found.modelId ++ payloadField "metadata" .map (some metadata)))

/-- The plain form of the context of some findings. -/
def Findings.plainContext (found : Findings) : Except Failure (Option Mapping) :=
  (found.context.map AdditionalContext.toTable).mapM PlaybookAssist.plainContext

/-- A request has a payload if its context has a plain form. -/
theorem toPayload_requestOf (q : Inquiry) (freshId : Text) (found : Findings) :
    (q.requestOf freshId found).toPayload =
      found.plainContext.map (q.payloadWith freshId found) := by
  obtain ⟨type, modelId, context⟩ := found
  cases context with
  | none => rfl
  | some context =>
    simp only [CompletionRequest.toPayload, CompletionMetadata.toPayload, requestOf, requestWith,
      Findings.plainContext, Option.map_some, Option.mapM_some]
    cases PlaybookAssist.plainContext context.toTable <;> rfl

/-- The payloads for the same findings differ in ids only. -/
theorem redact_payloadWith_ids {q q' : Inquiry} (hprompt : q.prompt = q'.prompt)
    (huri : q.uri = q'.uri) (freshId freshId' : Text) (found : Findings) (context : Option Mapping) :
    CompletionRequest.redact ["suggestionId"] ["activityId"] (q.payloadWith freshId found context) =
      CompletionRequest.redact ["suggestionId"] ["activityId"]
        (q'.payloadWith freshId' found context) := by
  rw [payloadWith, payloadWith, hprompt, huri, CompletionRequest.redact_ofTexts,
    CompletionRequest.redact_ofTexts]
  cases found.modelId <;> cases context <;> rfl

/-- The payload without the model and the context. -/
theorem redact_payloadWith_findings (q : Inquiry) (freshId : Text) (found : Findings)
    (context : Option Mapping) :
    CompletionRequest.redact ["modelId"] ["additionalContext"] (q.payloadWith freshId found context) =
      q.payloadWith freshId ⟨found.type, none, none⟩ none := by
  rw [payloadWith, CompletionRequest.redact_ofTexts]
  cases found.modelId <;> cases context <;> rfl

/-- Only the context may hold integers that are too long to be written. -/
theorem hasLongInteger_payloadWith (q : Inquiry) (freshId : Text) (found : Findings)
    (context : Option Mapping) :
    Value.hasLongInteger (.map (q.payloadWith freshId found context)) =
      context.any fun m => Value.hasLongInteger (.map m) := by
  rw [payloadWith]
  cases found.modelId <;> cases context <;>
    simp [Value.hasLongInteger, Value.hasScalarIn, Value.anyPairHasScalarIn, Mapping.ofTexts,
      payloadField]

end Inquiry

end PlaybookAssist
