import PlaybookAssist.JsonText.Reader
import PlaybookAssist.JsonText.Writer
import PlaybookAssist.Request.Feedback
import PlaybookAssist.Settings

/-!
# The suggestion service

Requests and reports are sent over HTTP as JSON. An exchange has two halves, what is sent and what
its outcome means, so that nothing here talks to the network.

## Main definitions

- `HttpRequest`, `HttpOutcome` : the two sides of an exchange
- `Service.post` : what is sent for some data
- `Service.valueOf` : the value that an outcome brings, or how it failed
- `Service.completionCall`, `Service.predictionsOf` : asking for a completion
- `Service.feedbackCall` : reporting on a suggestion
- `Service.exchange`, `Service.complete` : both halves together
-/

namespace PlaybookAssist

/-- What is sent. -/
structure HttpRequest where
  url : Text
  method : Text
  headers : Table Text
  /-- The JSON text, if there is data to send. -/
  data : Option Text
  /-- The seconds to wait for an answer. -/
  timeout : Int
  deriving DecidableEq, Repr

/-- What becomes of a request. -/
inductive HttpOutcome where
  /-- The service answers. -/
  | answered (body : Octets)
  /-- The service answers with an error status; the body is missing when it cannot be read. -/
  | refused (status : Int) (reason : Text) (body : Option Octets)
  /-- No connection is made. -/
  | unconnected (reason : Text)
  /-- The connection fails. -/
  | interrupted (reason : Text)
  deriving DecidableEq, Repr

/-- The way to the service: the settings, and the token that the user is known by. -/
structure Service where
  settings : Settings
  token : Option Text
  deriving DecidableEq, Repr

namespace Service

/-! ## Sending -/

/-- The path under which completions are asked for. -/
def completionPath : Text := "v0/ai/completions/"

/-- The path under which feedback is given. -/
def feedbackPath : Text := "v0/ai/feedback/"

/-- The address of a path. A full address stands for itself. -/
def urlOf (s : Service) (path : Text) : Text :=
  if Text.startsWith "http://" path || Text.startsWith "https://" path then path
  else
    Text.trimEnd (· = '/') s.settings.url ++ "/api/".toList ++ path.dropWhile (· = '/')

/-- The headers of a request; the token is named when there is one. -/
def headers (s : Service) : Table Text :=
  ("Content-Type", "application/json") ::
    match s.token with
    | some t => if t.isEmpty then [] else [("Authorization", "Bearer ".toList ++ t)]
    | none => []

/-- What is sent to a path with some data, where null is no data. -/
def send (s : Service) (method path : Text) (data : Value) : Except Failure HttpRequest :=
  let url := s.urlOf path
  let request (data : Option Text) : HttpRequest :=
    { url, method, headers := s.headers, data, timeout := s.settings.timeout }
  match data with
  | .null => .ok (request none)
  | data =>
    match JsonText.write data with
    | .ok t => .ok (request (some t))
    | .error reason => .error (.service (.unencodable url reason))

/-- What is posted to a path with some data. -/
def post (s : Service) (path : Text) (data : Value) : Except Failure HttpRequest :=
  s.send "POST" path data

/-! ## The outcome -/

/-- The value that the outcome of a request to an address brings, or how it failed. An empty answer
    brings null. -/
def valueOf (url : Text) : HttpOutcome → Except Failure Value
  | .answered [] => .ok .null
  | .answered body =>
    match JsonText.readOctets body with
    | .ok (some v) => .ok v
    | .ok none => .error (.service (.notJson url))
    | .error e => .error e
  | .refused status reason body =>
    .error (.service (.refused url status reason (Utf8.decodeDropping (body.getD []))))
  | .unconnected reason =>
    .error (.service (.unreachable url ("<urlopen error ".toList ++ reason ++ ['>'])))
  | .interrupted reason => .error (.service (.unreachable url reason))

/-! ## The two calls -/

/-- What is sent to ask for a completion. -/
def completionCall (s : Service) (r : CompletionRequest) : Except Failure HttpRequest := do
  s.post completionPath (.map (← r.toPayload))

/-- The predictions in the value of an answer. A value that is nothing has none. -/
def predictionsOf (v : Value) : Except Failure (List Text) :=
  match CompletionResponse.ofValue (if v.isTruthy then v else .map []) with
  | .ok predictions => .ok predictions
  | .error is => .error (.service (.unexpected is))

/-- What is sent to report on a suggestion. -/
def feedbackCall (s : Service) (f : Feedback) : Except Failure HttpRequest :=
  s.post feedbackPath (.map f.toPayload)

/-! ## Whole exchanges -/

/-- What comes of sending some data, given what becomes of the request. -/
def exchange (s : Service) (method path : Text) (data : Value) (outcome : HttpOutcome) :
    Except Failure Value := do
  valueOf (← s.send method path data).url outcome

end Service

end PlaybookAssist
