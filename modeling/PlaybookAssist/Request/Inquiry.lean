import PlaybookAssist.Context
import PlaybookAssist.Request.Completion
import PlaybookAssist.Settings

/-!
# From a prompt to a request

An inquiry is a prompt with what is known of its document when a suggestion is wanted. The request
made of it tells the service the kind of file, and for entitled users the model to ask and the
context of the document.

## Main definitions

- `Inquiry` : a prompt and its circumstances
- `Inquiry.request` : the request, and the role cache after looking at it
-/

namespace PlaybookAssist

/-- A prompt and its circumstances. -/
structure Inquiry where
  prompt : Text
  /-- The entries that the prompt is the text of. -/
  document : Value
  uri : Text
  activityId : Text
  /-- May the user have suggestions that make use of the context? -/
  entitled : Bool
  /-- The id for the request, or nothing when it gets a fresh one. -/
  suggestionId : Text
  deriving DecidableEq, Repr

namespace Inquiry

variable [Place]

/-- The request with the given model and context; `freshId` is its id when the inquiry has none. -/
def requestWith (q : Inquiry) (freshId : Text) (type : FileType) (modelId : Option Text)
    (context : Option AdditionalContext) : CompletionRequest :=
  { prompt := q.prompt
    suggestionId := if q.suggestionId.isEmpty then freshId else q.suggestionId
    modelId
    metadata := some
      { documentId := Uri.documentId q.uri
        fileType := type.name
        activityId := q.activityId
        context := context.map AdditionalContext.toTable } }

/-- The request made of an inquiry. The files and the cache are consulted for entitled users only,
    and where the prompt does not tell the kind of file. -/
def request (q : Inquiry) (fs : FileTree) (workspace : Workspace) (modelId : Option Text)
    (freshId : Text) (cache : RoleCache) : RoleCache.Result CompletionRequest :=
  match (Uri.toPath q.uri).mapError Failure.ofUri with
  | .error e => (cache, .error e)
  | .ok path =>
    match FileType.detect fs path q.document with
    | .error e => (cache, .error e)
    | .ok type =>
      if q.entitled then
        match AdditionalContext.assemble fs workspace q.document (Path.parent path) path type
            cache with
        | (cache, .error e) => (cache, .error e)
        | (cache, .ok context) => (cache, .ok (q.requestWith freshId type modelId (some context)))
      else (cache, .ok (q.requestWith freshId type none none))

end Inquiry

end PlaybookAssist
