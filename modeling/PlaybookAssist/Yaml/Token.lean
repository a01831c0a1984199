import PlaybookAssist.Text.Digit
import PlaybookAssist.Text.Utf8

/-!
# Tokens of a YAML stream

The words of YAML 1.1: indicators, scalars, and the starts and ends of block collections that the
indentation of a text implies.

## Main definitions

- `Yaml.Fault` : why a text cannot be loaded
- `Yaml.Token` : the tokens; a fault is the last token of a text that stops being one
- `Yaml.Cursor` : a place in a text with its line and column
-/

namespace PlaybookAssist.Yaml

/-! ## Faults -/

/-- Why a text cannot be loaded. The first kinds concern the text itself; the others come from
    scalars whose tag promises what the text does not keep. -/
inductive Fault where
  /-- The text is no document, or it holds a collection, alias or tag out of place. -/
  | malformed
  /-- The text ends inside a quoted scalar. -/
  | unexpectedEnd
  /-- The octets of the text spell no text. -/
  | undecodable (fault : Utf8.Fault)
  /-- The text of a number, date or time does not give one, or a character escape names no code
      point. -/
  | badScalar (reason : Text)
  /-- The text of a truth value is none of its words. -/
  | unknownTruthValue (word : Text)
  /-- The text of a point in time has not the form of one. -/
  | notATimestamp
  /-- The text of a number has no characters. -/
  | emptyNumber
  /-- A point in time is given by a mapping. -/
  | timestampFromMapping
  /-- A number is beyond what its kind can hold. -/
  | numberTooLarge (reason : Text)
  /-- A mapping read as a scalar stands for itself. -/
  | endless
  deriving DecidableEq, Repr

/-! ## Tokens -/

/-- A line that begins with a percent sign. -/
inductive Directive where
  /-- The version of the language. -/
  | version (major minor : Nat)
  /-- A short form of tags and the text that it stands for. -/
  | tagHandle (handle start : Text)
  /-- Any other directive is ignored. -/
  | other
  deriving DecidableEq, Repr

/-- A word of the language. -/
inductive Token where
  | streamEnd
  | directive (d : Directive)
  | documentStart
  | documentEnd
  | blockSequenceStart
  | blockMappingStart
  | blockEnd
  | flowSequenceStart
  | flowSequenceEnd
  | flowMappingStart
  | flowMappingEnd
  | blockEntry
  | flowEntry
  | key
  | value
  | alias (name : Text)
  | anchor (name : Text)
  | tag (handle : Option Text) (suffix : Text)
  | scalar (text : Text) (plain : Bool)
  | fault (f : Fault)
  deriving DecidableEq, Repr, Inhabited

/-! ## Characters -/

/-- The character that stands for the end of the text. -/
def endMark : Char := Char.ofNat 0

/-- Does the character end a line? -/
def isBreak (c : Char) : Bool :=
  c = '\n' || c = '\r' || c.toNat = 0x85 || c.toNat = 0x2028 || c.toNat = 0x2029

/-- Does the character end a line or the text? -/
def isLineEnd (c : Char) : Bool :=
  c = endMark || isBreak c

/-- Does the character end a line or the text, or is it a space? -/
def isSpaceOrEnd (c : Char) : Bool :=
  c = ' ' || isLineEnd c

/-- Does the character end a word: a space, a tab, a line end or the end of the text? -/
def isWordEnd (c : Char) : Bool :=
  c = '\t' || isSpaceOrEnd c

/-- May the character stand in the name of an anchor, directive or tag handle? -/
def isNameChar (c : Char) : Bool :=
  c.isAlphanum || c = '-' || c = '_'

/-- May the character stand in a document? -/
def isAllowed (c : Char) : Bool :=
  let n := c.toNat
  n = 0x09 || n = 0x0a || n = 0x0d || (0x20 ≤ n && n ≤ 0x7e) || n = 0x85
    || (0xa0 ≤ n && n ≤ 0xd7ff) || (0xe000 ≤ n && n ≤ 0xfffd) || 0x10000 ≤ n

/-! ## Places -/

/-- A place in a text: what follows it, and how many characters, lines and columns precede it. -/
structure Cursor where
  rest : Text
  index : Nat
  line : Nat
  column : Nat
  deriving DecidableEq, Repr

namespace Cursor

/-- The place before a text. -/
def start (t : Text) : Cursor :=
  ⟨t, 0, 0, 0⟩

/-- The character `n` places ahead. -/
def peek (c : Cursor) (n : Nat) : Char :=
  c.rest.getD n endMark

/-- The character at this place. -/
def here (c : Cursor) : Char :=
  c.rest.headD endMark

/-- The place after one character. A byte order mark takes no column, and a carriage return before
    a line feed does not end the line. -/
def next (c : Cursor) : Cursor :=
  match c.rest with
  | [] => c
  | ch :: rest =>
    if isBreak ch && !(ch = '\r' && rest.head? == some '\n') then
      ⟨rest, c.index + 1, c.line + 1, 0⟩
    else if ch.toNat = 0xfeff then ⟨rest, c.index + 1, c.line, c.column⟩
    else ⟨rest, c.index + 1, c.line, c.column + 1⟩

/-- The place after `n` characters. -/
def advance : Nat → Cursor → Cursor
  | 0, c => c
  | n + 1, c => advance n c.next

/-- The characters of a class at this place, and the place after them. -/
def span (p : Char → Bool) (c : Cursor) : Text × Cursor :=
  let t := c.rest.takeWhile p
  (t, advance t.length c)

/-- The place after the characters of a class. -/
def skip (p : Char → Bool) (c : Cursor) : Cursor :=
  (c.span p).2

/-- The line break at this place, as the text that it stands for, and the place after it: the two
    Unicode separators stand for themselves, all other breaks for a line feed. -/
def lineBreak? (c : Cursor) : Option (Char × Cursor) :=
  let ch := c.here
  if ch = '\r' && c.peek 1 = '\n' then some ('\n', advance 2 c)
  else if ch = '\n' || ch = '\r' || ch.toNat = 0x85 then some ('\n', c.next)
  else if isBreak ch then some (ch, c.next)
  else none

/-- The place after the line break that may stand here. -/
def skipBreak (c : Cursor) : Cursor :=
  match c.lineBreak? with
  | some (_, c') => c'
  | none => c

/-- Do three equal marks and the end of a word stand at this place? -/
def hasMarks (mark : Char) (c : Cursor) : Bool :=
  c.peek 0 = mark && c.peek 1 = mark && c.peek 2 = mark && isWordEnd (c.peek 3)

/-- Does the start or end of a document stand at this place? -/
def atDocumentMark (c : Cursor) : Bool :=
  c.hasMarks '-' || c.hasMarks '.'

end Cursor

end PlaybookAssist.Yaml
