import PlaybookAssist.Failure
import PlaybookAssist.Text.Blank

/-!
# Documents and positions

A document is the text of an open file. A position counts lines and columns from zero; a negative
number counts from the end, as far as a document has one.

## Main definitions

- `Document`, `Position` : what the editor shows and where its cursor stands
- `Document.lineAt`, `Document.textTo` : one line; the text up to a position
- `TriggerCheck`, `Document.checkTrigger` : does the cursor stand where a task body starts?
- `Document.prompt` : the text above the cursor that is sent for completion
-/

namespace PlaybookAssist

/-- A place in a document. -/
structure Position where
  line : Int
  character : Int
  deriving DecidableEq, Repr

/-- An open document. -/
structure Document where
  uri : Text
  text : Text
  languageId : Text
  deriving DecidableEq, Repr

namespace Document

/-- The lines between line feeds. -/
def lines (d : Document) : List Text :=
  Text.splitOn '\n' d.text

/-- A line without carriage returns at its end; empty outside of the document. -/
def lineAt (d : Document) (n : Int) : Text :=
  match n with
  | .ofNat k => Text.trimEnd (· = '\r') (d.lines.getD k [])
  | .negSucc _ => []

/-- The text up to a position. A line before the first one is out of range. -/
def textTo (d : Document) (p : Position) : Except Failure Text :=
  let ls := d.lines
  let head := Text.takeSigned p.line ls
  if p.line < ls.length then
    match Text.getSigned? p.line ls with
    | some line => .ok (Text.joinWith "\n" (head ++ [Text.takeSigned p.character line]))
    | none => .error (.outOfRange "list index out of range")
  else .ok (Text.joinWith "\n" head)

end Document

/-! ## The cursor -/

/-- What counts for a trigger at a position. -/
structure TriggerCheck where
  /-- Does the line above name a task? -/
  namesTask : Bool
  /-- Is the line of the cursor blank? -/
  onBlankLine : Bool
  /-- The column at which the line above begins. -/
  taskColumn : Nat
  /-- The number of spaces before the cursor. -/
  cursorColumn : Nat
  deriving DecidableEq, Repr

namespace TriggerCheck

/-- Does the cursor stand on a blank line at the column of the task name above it? -/
def isOk (c : TriggerCheck) : Bool :=
  c.namesTask && c.onBlankLine && c.taskColumn == c.cursorColumn

/-- What the user is told who asks for a suggestion at a wrong place. -/
def hint (c : TriggerCheck) : Option Text :=
  if c.isOk then none
  else if !c.namesTask || !c.onBlankLine then
    some ("Cursor should be positioned on the line after the task name with the same ".toList
      ++ "indent as that of the task name line to trigger an inline suggestion.".toList)
  else
    some ("Cursor must be in column ".toList ++ Text.ofNat c.taskColumn
      ++ " to trigger an inline suggestion.".toList)

end TriggerCheck

/-- Is the line a dash, the key `name`, a colon and something more, with blanks between them? -/
def isTaskNameLine (line : Text) : Bool :=
  match line.dropWhile isBlank with
  | '-' :: ' ' :: rest =>
    match Text.dropStart? "name" (rest.dropWhile isBlank) with
    | none => false
    | some rest =>
      match rest.dropWhile isBlank with
      | ':' :: description => !Text.isBlankLine description
      | _ => false
  | _ => false

/-- The number of spaces that a text begins with. -/
def leadingSpaces (t : Text) : Nat :=
  (t.takeWhile (· = ' ')).length

/-- What counts for a trigger at a position of the document. -/
def Document.checkTrigger (d : Document) (p : Position) : TriggerCheck :=
  let above := if 0 < p.line then d.lineAt (p.line - 1) else []
  let current := d.lineAt p.line
  { namesTask := isTaskNameLine above
    onBlankLine := Text.isBlankLine current
    taskColumn := leadingSpaces above
    cursorColumn := leadingSpaces (Text.takeSigned p.character current) }

/-- The text up to a position without blanks at its end. -/
def Document.prompt (d : Document) (p : Position) : Except Failure Text :=
  (d.textTo p).map Text.stripEnd

end PlaybookAssist
