import PlaybookAssist.Request.Plain
import PlaybookAssist.Schema.Check
import PlaybookAssist.Table
import PlaybookAssist.Value.Equality

/-!
# Completion requests

What the service is asked: to complete a prompt, with what is known about the document around it.

## Main definitions

- `CompletionRequest`, `CompletionMetadata` : a request
- `CompletionRequest.ofValue` : the request that a value describes, or everything wrong with it
- `CompletionRequest.toPayload` : the plain data that is sent; what is not known is left out
- `CompletionResponse.ofValue` : the predictions in an answer
-/

namespace PlaybookAssist

/-- What is known about the document of a request. -/
structure CompletionMetadata where
  /-- The id of the document, which does not tell its name. -/
  documentId : Text
  /-- The name of the kind of file. -/
  fileType : Text
  activityId : Text
  /-- The context, by branch. -/
  context : Option (Table Value)
  deriving DecidableEq, Repr

/-- A request to complete a prompt. -/
structure CompletionRequest where
  prompt : Text
  suggestionId : Text
  modelId : Option Text
  metadata : Option CompletionMetadata
  deriving DecidableEq, Repr

/-! ## Reading -/

namespace CompletionMetadata

/-- The metadata that a value describes, or everything wrong with it in the order of the fields. -/
def ofValue (v : Value) : Schema.Checked CompletionMetadata :=
  match v.content with
  | .map ps =>
    let documentId := Schema.required Schema.text ["documentUri", "document_uri"] ps
    let fileType := Schema.required Schema.text ["ansibleFileType", "ansible_file_type"] ps
    let activityId := Schema.required Schema.text ["activityId", "activity_id"] ps
    let context := Schema.withDefault none (Schema.optional Schema.textMapping)
      ["additionalContext", "additional_context"] ps
    match documentId, fileType, activityId, context with
    | .ok documentId, .ok fileType, .ok activityId, .ok context =>
      .ok { documentId, fileType, activityId, context }
    | _, _, _, _ =>
      .error (documentId.issues ++ fileType.issues ++ activityId.issues ++ context.issues)
  | _ => Schema.fail .notAModel

end CompletionMetadata

namespace CompletionRequest

/-- The request that a value describes, or everything wrong with it in the order of the fields. -/
def ofValue (v : Value) : Schema.Checked CompletionRequest :=
  match v.content with
  | .map ps =>
    let prompt := Schema.required Schema.text ["prompt"] ps
    let suggestionId := Schema.required Schema.text ["suggestionId", "suggestion_id"] ps
    let modelId := Schema.withDefault none (Schema.optional Schema.text)
      ["modelId", "model_id"] ps
    let metadata := Schema.withDefault none (Schema.optional CompletionMetadata.ofValue)
      ["metadata"] ps
    match prompt, suggestionId, modelId, metadata with
    | .ok prompt, .ok suggestionId, .ok modelId, .ok metadata =>
      .ok { prompt, suggestionId, modelId, metadata }
    | _, _, _, _ =>
      .error (prompt.issues ++ suggestionId.issues ++ modelId.issues ++ metadata.issues)
  | _ => Schema.fail .notAModel

end CompletionRequest

/-! ## Writing -/

/-- The pair of a field that is known, and none for one that is not. -/
def payloadField {α : Type} (name : Text) (form : α → Value) : Option α → List (Text × Value)
  | some a => [(name, form a)]
  | none => []

/-- The context as plain data. -/
def plainContext (context : Table Value) : Except Failure Mapping :=
  Value.plainMapping context

namespace CompletionMetadata

/-- The plain data of the metadata. -/
def toPayload (m : CompletionMetadata) : Except Failure Mapping := do
  let context ← m.context.mapM plainContext
  pure (Mapping.ofTexts
    (("documentUri", .str m.documentId) :: ("ansibleFileType", .str m.fileType)
      :: ("activityId", .str m.activityId)
      :: payloadField "additionalContext" .map context))

end CompletionMetadata

namespace CompletionRequest

/-- The plain data of a request. -/
def toPayload (r : CompletionRequest) : Except Failure Mapping := do
  let metadata ← r.metadata.mapM CompletionMetadata.toPayload
  pure (Mapping.ofTexts
    (("prompt", .str r.prompt) :: ("suggestionId", .str r.suggestionId)
      :: (payloadField "modelId" .str r.modelId ++ payloadField "metadata" .map metadata)))

end CompletionRequest

/-! ## Answers -/

namespace CompletionResponse

/-- The predictions in an answer, or everything wrong with it. -/
def ofValue (v : Value) : Schema.Checked (List Text) :=
  match v.content with
  | .map ps => Schema.withDefault [] Schema.textList ["predictions"] ps
  | _ => Schema.fail .notAModel

end CompletionResponse

end PlaybookAssist
