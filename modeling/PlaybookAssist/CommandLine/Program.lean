import PlaybookAssist.CommandLine.Arguments
import PlaybookAssist.Document
import PlaybookAssist.Prompt
import PlaybookAssist.Request.Inquiry
import PlaybookAssist.Suggestion.Activity
import PlaybookAssist.Yaml.Writer

/-!
# The program

The program shows the completion request for a place in a file, without sending it.

## Main definitions

- `Program.inspect` : the report on a place in a file, or why there is none
- `Program.sources` : the places whose files are looked at
- `Program.run` : what the program does with its arguments
-/

namespace PlaybookAssist.Program

/-- What the user gets to see. -/
structure Output where
  /-- The status that the program ends with: 0 for a report, 1 when there is none to give, 2 when
      the arguments cannot be followed. -/
  status : Nat
  /-- The report. -/
  out : Text
  /-- The wording of what is wrong. -/
  err : Text
  deriving DecidableEq, Repr

/-- The name of the program. -/
def name : Text := "playbook-assist"

/-- How the program is called. -/
def usage : Text :=
  "usage: ".toList ++ name ++ (" [-h] --line LINE [--column COLUMN] [--workspace WORKSPACE]".toList
    ++ " [--config CONFIG] [--no-entitlement] [--verbose] file\n".toList)

/-- The wording of why arguments cannot be followed. -/
def usageMessage (f : UsageFault) : Text :=
  match f with
  | .ambiguous word => "ambiguous option: ".toList ++ word
  | .missingValue _ => "expected one argument"
  | .unexpectedValue _ => "ignored explicit argument"
  | .notANumber word => "invalid int value: ".toList ++ word.quoted
  | .unrecognised => "unrecognized arguments"
  | .incomplete => "the following arguments are required: file, --line"

/-- The outcome of an inspection: a report, or what the user is told instead. -/
inductive Finding where
  | report (v : Value)
  | nothing (reason : Text)

section

variable [Place]

/-- The absolute path of a file, which begins with one slash. -/
def resolve (path : Text) : Text :=
  match Path.absolute path with
  | '/' :: '/' :: rest => '/' :: rest
  | p => p

/-- The places whose files an inspection may look at: the workspace, the directory above that of the
    file, the settings, and the places where roles are installed for everyone. -/
def sources (arguments : Arguments) : List Text :=
  [Path.parent (Path.parent (resolve arguments.file))] ++ arguments.workspace.toList
    ++ arguments.config.toList ++ Role.standardDirectories.map Path.expandHome

/-- The settings that an inspection goes by: those of a file if one is named, or else the usual
    ones. -/
def settingsOf (fs : FileTree) (config : Option Text) : Except Failure Settings :=
  match config with
  | none => .ok Settings.standard
  | some path => if path.isEmpty then .ok Settings.standard else Settings.ofFile fs path

/-- The prompt above a place in a document and its entries, or what the user is told when no
    suggestion is asked for there. -/
def promptAt (d : Document) (p : Position) : Except Failure (Except Text (Text × List Value)) := do
  match (d.checkTrigger p).hint with
  | some hint => pure (.error hint)
  | none =>
    let prompt ← d.prompt p
    match Prompt.parse prompt with
    | .error (.prompt fault) => pure (.error fault.message)
    | .error e => throw e
    | .ok entries =>
      let entries := entries.getD []
      if ← Prompt.awaitsBody entries then pure (.ok (prompt, entries))
      else pure (.error "No inline suggestion would be requested at this position.")

/-- The report on a prompt of a file: its kind, and the request that would be sent. -/
def report (fs : FileTree) (ids : IdSource) (settings : Settings) (arguments : Arguments)
    (path text prompt : Text) (entries : List Value) : Except Failure Value := do
  let workspace ← match arguments.workspace with
    | some w => pure w
    | none => throw (.wrongKind "nothing is no path")
  let uri := Uri.ofPath path
  let inquiry : Inquiry :=
    { prompt
      document := .list entries
      uri
      activityId := (ActivityLog.idOf ids uri text []).2
      entitled := arguments.entitled
      suggestionId := [] }
  let request ← (inquiry.request fs (Workspace.ofFolders [workspace]) settings.modelId
    (ids.request 0) (RoleCache.empty Role.standardDirectories)).2
  let type ← FileType.detect fs path (.list entries)
  let payload ← request.toPayload
  if Value.hasLongInteger (.map payload) then throw (.badValue (Integer.limitText none))
  pure (.map (Mapping.ofTexts
    [("ansibleFileType", .str type.name), ("request", .map payload)]))

/-- The report on a place in the text of a file, or what the user is told instead. -/
def inspectText (fs : FileTree) (ids : IdSource) (settings : Settings) (arguments : Arguments)
    (path text : Text) : Except Failure Finding := do
  let line ← match arguments.line with
    | some n => pure n
    | none => throw (.wrongKind "nothing is no number")
  let column ← match arguments.column with
    | some n => pure n
    | none => throw (.wrongKind "nothing is no number")
  let document : Document := ⟨Uri.ofPath path, text, Settings.standard.languageId⟩
  match ← promptAt document ⟨line - 1, column⟩ with
  | .error reason => pure (.nothing reason)
  | .ok (prompt, entries) =>
    return .report (← report fs ids settings arguments path text prompt entries)

/-- The report on a place in a file, or what the user is told instead. -/
def inspect (fs : FileTree) (ids : IdSource) (arguments : Arguments) : Except Failure Finding :=
  match settingsOf fs arguments.config with
  | .error (.configuration fault) => .ok (.nothing fault.message)
  | .error e => .error e
  | .ok settings =>
    let path := resolve arguments.file
    match fs.readText path with
    | .error (.file e) =>
      .ok (.nothing ("Error reading '".toList ++ path ++ "': ".toList ++ e.message path))
    | .error .malformed => .ok (.nothing malformedDetails)
    | .error (.failure e) => .error e
    | .ok text => inspectText fs ids settings arguments path text

/-- What the program does with its arguments. -/
def run (fs : FileTree) (ids : IdSource) (arguments : List Text) : Except Failure Output :=
  match Arguments.parse Place.workingDirectory arguments with
  | .help => .ok ⟨0, usage, []⟩
  | .fault f => .ok ⟨2, [], usage ++ name ++ ": error: ".toList ++ usageMessage f ++ ['\n']⟩
  | .done arguments =>
    (inspect fs ids arguments).map fun
      | .report v => ⟨0, Yaml.write v, []⟩
      | .nothing reason => ⟨1, [], reason ++ ['\n']⟩

end

end PlaybookAssist.Program
