import PlaybookAssist.Files.Tree
import PlaybookAssist.Schema.Issue
import PlaybookAssist.Uri
import PlaybookAssist.Yaml.Token

/-!
# Failures

The causes for which an operation gives no answer, and their wording.

## Main definitions

- `Failure` : the causes
- `Failure.message` : the wording shown to the user
-/

namespace PlaybookAssist

/-- Why settings are refused. -/
inductive ConfigurationFault where
  /-- The settings file cannot be opened. -/
  | unreadable (path : Text) (error : FileError)
  /-- The settings file is no document. -/
  | malformed (path : Text)
  /-- The settings file holds something other than a mapping. -/
  | notAMapping (path : Text)
  /-- The settings do not have the shape of settings. -/
  | invalid (issues : List Schema.Issue)
  deriving DecidableEq, Repr

/-- Why the text above the cursor is no prompt. -/
inductive PromptFault where
  | malformed
  /-- The text is a mapping, not a list of plays or tasks. -/
  | mapping
  deriving DecidableEq, Repr

/-- Why the service gives no answer. -/
inductive ServiceFault where
  /-- The request has no written form. -/
  | unencodable (url reason : Text)
  /-- The service answers with an error status. -/
  | refused (url : Text) (status : Int) (reason details : Text)
  /-- The service cannot be reached. -/
  | unreachable (url reason : Text)
  /-- The answer is no JSON. -/
  | notJson (url : Text)
  /-- The answer has not the shape of an answer. -/
  | unexpected (issues : List Schema.Issue)
  /-- A failure reported with wording of its own. -/
  | reported (message : Text) (status : Option Int)
  deriving DecidableEq, Repr

/-- Why an operation gives no answer. -/
inductive Failure where
  /-- A file or answer is not UTF-8. -/
  | undecodable (fault : Utf8.Fault)
  /-- Text in an encoding other than UTF-8 cannot be decoded. -/
  | undecodableAs (encoding : Text)
  /-- A text with unpaired surrogates has no UTF-8 form. -/
  | unencodable (run : Surrogate.Run)
  /-- A value is outside of what it stands for. -/
  | badValue (reason : Text)
  /-- There is nothing under a key. -/
  | missingKey (key : Text)
  /-- A value lacks what all values of another kind have. -/
  | missingAttribute (reason : Text)
  /-- There is nothing at a position. -/
  | outOfRange (reason : Text)
  /-- A value is of a kind that an operation does not take. -/
  | wrongKind (reason : Text)
  /-- A number is beyond what its kind can hold. -/
  | tooLarge (reason : Text)
  /-- A value that holds itself is followed without end: the depth runs out, or the way goes round for
      ever. -/
  | endless
  /-- A collaborator fails in a way of its own. -/
  | external (reason : Text)
  /-- The file system refuses a path. -/
  | file (error : FileError) (path : Text)
  /-- Data does not have the shape that it should have. -/
  | invalid (issues : List Schema.Issue)
  | configuration (fault : ConfigurationFault)
  | prompt (fault : PromptFault)
  | service (fault : ServiceFault)
  deriving DecidableEq, Repr

/-! ## Wording -/

/-- What stands for the details of a malformed document. -/
def malformedDetails : Text := "<yaml>"

/-- What stands for the details of data of the wrong shape. -/
def issueDetails : Text := "<pydantic>"

/-- The wording of a fault of the settings. -/
def ConfigurationFault.message : ConfigurationFault → Text
  | .unreadable path e =>
    "Error reading or parsing settings file '".toList ++ path ++ "': ".toList ++ e.message path
  | .malformed path =>
    "Error reading or parsing settings file '".toList ++ path ++ "': ".toList ++ malformedDetails
  | .notAMapping path => "Settings file '".toList ++ path ++ "' must contain a mapping.".toList
  | .invalid _ => "Invalid Lightspeed settings: ".toList ++ issueDetails

/-- The wording of a fault of the prompt. -/
def PromptFault.message : PromptFault → Text
  | .malformed =>
    "Ansible Lightspeed expects valid YAML syntax to provide inline suggestions. Error: ".toList
      ++ malformedDetails
  | .mapping =>
    "Ansible Lightspeed expects valid Ansible syntax. For playbook files it ".toList
      ++ "should be a list of plays and for tasks files it should be list of tasks.".toList

/-- The wording of a fault of the service. -/
def ServiceFault.message : ServiceFault → Text
  | .unencodable url reason =>
    "Could not encode request to ".toList ++ url ++ ": ".toList ++ reason
  | .refused url status reason details =>
    "Request to ".toList ++ url ++ " failed. Status: ".toList ++ Text.ofInt status
      ++ ". Message: ".toList ++ reason ++ ". ".toList ++ details
  | .unreachable url reason => "Request to ".toList ++ url ++ " failed: ".toList ++ reason
  | .notJson url =>
    "Lightspeed returned a response from ".toList ++ url ++ " that was not valid JSON.".toList
  | .unexpected _ => "Unexpected completion response: ".toList ++ issueDetails
  | .reported message _ => message

/-- The status that the service answered with, if it did. -/
def ServiceFault.status? : ServiceFault → Option Int
  | .refused _ status _ _ => some status
  | .reported _ status => status
  | _ => none

/-- The wording of a failure. -/
def Failure.message : Failure → Text
  | .undecodable fault => fault.message
  | .undecodableAs encoding => '\x27' :: encoding ++ "' codec can't decode".toList
  | .unencodable run => run.message
  | .badValue reason => reason
  | .missingKey key => key
  | .missingAttribute reason => reason
  | .outOfRange reason => reason
  | .wrongKind reason => reason
  | .tooLarge reason => reason
  | .endless => "maximum recursion depth exceeded"
  | .external reason => reason
  | .file e path => e.message path
  | .invalid _ => issueDetails
  | .configuration fault => fault.message
  | .prompt fault => fault.message
  | .service fault => fault.message

/-! ## Failures from other faults -/

/-- The failure that a fault of a text is, unless the text is simply malformed. -/
def Failure.ofYaml? : Yaml.Fault → Option Failure
  | .malformed | .unexpectedEnd => none
  | .undecodable fault => some (.undecodable fault)
  | .badScalar reason => some (.badValue reason)
  | .unknownTruthValue word => some (.missingKey word.quoted)
  | .notATimestamp => some (.missingAttribute "'NoneType' object has no attribute 'groupdict'")
  | .emptyNumber => some (.outOfRange "string index out of range")
  | .timestampFromMapping => some (.wrongKind "expected string or bytes-like object, got 'list'")
  | .numberTooLarge reason => some (.tooLarge reason)
  | .endless => some .endless

/-- The failure that a refused path is. -/
def Failure.ofFileError (path : Text) : FileError → Failure
  | .zeroCharacter => .badValue "embedded null byte"
  | e => .file e path

/-- The failure that a refused URI is. -/
def Failure.ofUri : Uri.Fault → Failure
  | .unbalancedBrackets => .badValue "Invalid IPv6 URL"
  | .invalidBracketedHost => .badValue "invalid host in brackets"
  | .deceptiveHost => .badValue "netloc contains invalid characters under NFKC normalization"

end PlaybookAssist
