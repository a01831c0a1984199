import PlaybookAssist.Files.Load
import PlaybookAssist.Schema.Check

/-!
# Settings

The settings of the suggestion service are a section of a settings file. What the section does not
say has a default; what it says in a wrong way is refused as a whole.

## Main definitions

- `Settings` : the settings
- `Settings.ofSection` : the settings of a section, or everything that is wrong with it
- `Settings.ofDocument`, `Settings.ofFile` : the settings of a document or file
- `Settings.toSection` : the section that says what the settings are
-/

namespace PlaybookAssist

/-- The settings of the suggestion service. -/
structure Settings where
  enabled : Bool
  /-- The address of the service, without blanks at its ends. -/
  url : Text
  /-- The model to ask for; never blank. -/
  modelId : Option Text
  /-- Are inline suggestions wanted? -/
  suggestions : Bool
  /-- The language whose documents get suggestions. -/
  languageId : Text
  /-- The seconds to wait for the service. -/
  timeout : Int
  deriving DecidableEq, Repr, Inhabited

namespace Settings

variable [Place]

/-- The settings of an empty section. -/
def standard : Settings :=
  { enabled := true, url := [], modelId := none, suggestions := true, languageId := "ansible"
    timeout := 30 }

/-- Are suggestions switched on, both as a whole and inline? -/
def suggestionsEnabled (s : Settings) : Bool :=
  s.enabled && s.suggestions

/-- The text that a value of any kind stands for, without blanks at its ends. -/
def textOf (v : Value) : Schema.Checked Text :=
  if v.hasLongInteger then Schema.fail .untellable else .ok (Text.strip v.display)

/-- The address that a value of any kind stands for. -/
def urlOf (v : Value) : Schema.Checked Text :=
  match v with
  | .null => .ok []
  | v => textOf v

/-- The model that a value of any kind stands for; a blank one is none. -/
def modelOf (v : Value) : Schema.Checked (Option Text) :=
  match v with
  | .null => .ok none
  | v => (textOf v).map fun t => if t.isEmpty then none else some t

/-- The section on inline suggestions. -/
def inlineSection (v : Value) : Schema.Checked Bool :=
  match v.content with
  | .map ps => Schema.withDefault true Schema.truth ["enabled"] ps
  | _ => Schema.fail .notAModel

/-- The settings of a section, or everything that is wrong with it in the order of the fields. -/
def ofSection (v : Value) : Schema.Checked Settings :=
  match v.content with
  | .map ps =>
    let enabled := Schema.withDefault true Schema.truth ["enabled"] ps
    let url := Schema.withDefault [] urlOf ["url"] ps
    let modelId := Schema.withDefault none modelOf ["model_id"] ps
    let suggestions := Schema.withDefault true inlineSection ["suggestions"] ps
    let languageId := Schema.withDefault standard.languageId Schema.text ["language_id"] ps
    let timeout := Schema.withDefault standard.timeout Schema.integer ["timeout"] ps
    match enabled, url, modelId, suggestions, languageId, timeout with
    | .ok enabled, .ok url, .ok modelId, .ok suggestions, .ok languageId, .ok timeout =>
      .ok { enabled, url, modelId, suggestions, languageId, timeout }
    | _, _, _, _, _, _ =>
      .error (enabled.issues ++ url.issues ++ modelId.issues ++ suggestions.issues
        ++ languageId.issues ++ timeout.issues)
  | _ => Schema.fail .notAModel

/-- The name of the section. -/
def sectionName : Text := "lightspeed"

/-- The value of the section of a document, an empty mapping when there is nothing in it. -/
def sectionOf (document : Value) : Except Failure Value :=
  if !document.isTruthy then .ok (.map [])
  else match document.content with
    | .map ps =>
      let v := (Mapping.find? sectionName ps).getD .null
      .ok (if v.isTruthy then v else .map [])
    | v =>
      .error (.missingAttribute
        ('\x27' :: v.kindName ++ "' object has no attribute 'get'".toList))

/-- The settings of a document. -/
def ofDocument (document : Value) : Except Failure Settings := do
  match ofSection (← sectionOf document) with
  | .ok s => pure s
  | .error is => throw (.configuration (.invalid is))

/-- The settings of a file, which holds a mapping or nothing. -/
def ofFile (fs : FileTree) (path : Text) : Except Failure Settings :=
  match fs.load path with
  | .error (.file e) => .error (.configuration (.unreadable path e))
  | .error .malformed => .error (.configuration (.malformed path))
  | .error (.failure f) => .error f
  | .ok v =>
    match v.content with
    | .null | .map _ => ofDocument v
    | _ => .error (.configuration (.notAMapping path))

/-- The section that says what the settings are. -/
def toSection (s : Settings) : Mapping :=
  Mapping.ofTexts
    [("enabled", .bool s.enabled), ("url", .str s.url),
     ("model_id", match s.modelId with
       | some m => .str m
       | none => .null),
     ("suggestions", .map (Mapping.ofTexts [("enabled", .bool s.suggestions)])),
     ("language_id", .str s.languageId), ("timeout", .int s.timeout)]

end Settings

end PlaybookAssist
