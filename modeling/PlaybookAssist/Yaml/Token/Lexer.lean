import PlaybookAssist.Number.Integer
import PlaybookAssist.Yaml.Source
import PlaybookAssist.Yaml.Token.Scalar

/-!
# From text to tokens

The tokens are found from left to right. Indentation opens and closes block collections, and a
scalar that turns out to stand before a colon is marked as a key afterwards.

## Main definitions

- `Lexer` : the state between two tokens
- `Lexer.fetch` : the next token and what goes with it
- `Token.ofSource` : all tokens of a text, up to the end of the stream or the first fault
-/

namespace PlaybookAssist.Yaml

/-- A place where a key may have begun: it is one if a colon follows on the same line. -/
structure PossibleKey where
  /-- How many tokens precede it. -/
  position : Nat
  /-- Must it be a key, because it begins at the indentation of a block mapping? -/
  required : Bool
  index : Nat
  line : Nat
  column : Nat
  deriving Repr

/-- The state between two tokens. -/
structure Lexer where
  cursor : Cursor
  /-- The tokens so far, the latest first. -/
  tokens : List Token
  /-- How many flow collections are open. -/
  flowLevel : Nat
  /-- The indentation of the innermost block collection; below zero outside of any. -/
  indent : Int
  /-- The indentations around it, the innermost first. -/
  outer : List Int
  /-- May a key begin here? -/
  mayStartKey : Bool
  /-- The possible keys, at most one for each flow level. -/
  keys : List (Nat × PossibleKey)
  deriving Repr

namespace Lexer

/-- The state before a text. -/
def start (t : Text) : Lexer :=
  ⟨Cursor.start t, [], 0, -1, [], true, []⟩

/-- The state with one more token. -/
def emit (lx : Lexer) (t : Token) : Lexer :=
  { lx with tokens := t :: lx.tokens }

/-- The state with a token inserted after the first `position` tokens. -/
def insert (lx : Lexer) (position : Nat) (t : Token) : Lexer :=
  let later := lx.tokens.length - position
  { lx with tokens := lx.tokens.take later ++ t :: lx.tokens.drop later }

/-! ## Possible keys -/

/-- The longest key, in characters. -/
def keyLimit : Nat := 1024

/-- Can the possible key no longer become one? -/
def isStale (lx : Lexer) (k : PossibleKey) : Bool :=
  k.line != lx.cursor.line || keyLimit < lx.cursor.index - k.index

/-- The state without the keys that can no longer become one. -/
def dropStaleKeys (lx : Lexer) : Except Fault Lexer :=
  if lx.keys.any fun k => lx.isStale k.2 && k.2.required then .error .malformed
  else .ok { lx with keys := lx.keys.filter fun k => !lx.isStale k.2 }

/-- The state without the possible key of this flow level. -/
def dropKey (lx : Lexer) : Except Fault Lexer :=
  if lx.keys.any fun k => k.1 == lx.flowLevel && k.2.required then .error .malformed
  else .ok { lx with keys := lx.keys.filter fun k => k.1 != lx.flowLevel }

/-- The state in which a key may have begun here. -/
def saveKey (lx : Lexer) : Except Fault Lexer :=
  if lx.mayStartKey then do
    let lx ← lx.dropKey
    let c := lx.cursor
    let key : PossibleKey :=
      { position := lx.tokens.length
        required := lx.flowLevel == 0 && lx.indent == (c.column : Int)
        index := c.index
        line := c.line
        column := c.column }
    pure { lx with keys := (lx.flowLevel, key) :: lx.keys }
  else .ok lx

/-! ## Indentation -/

/-- The state after the block collections that are indented further than `column`. -/
def unwind (column : Int) (lx : Lexer) : Lexer :=
  if lx.flowLevel ≠ 0 then lx
  else
    let rec close (indent : Int) (tokens : List Token) : List Int → Int × List Int × List Token
      | [] => (indent, [], tokens)
      | o :: os =>
        if column < indent then close o (.blockEnd :: tokens) os else (indent, o :: os, tokens)
    let (indent, outer, tokens) := close lx.indent lx.tokens lx.outer
    { lx with indent := indent, outer := outer, tokens := tokens }

/-- The state inside a new block collection, if the column is further in than the current one. -/
def indentTo? (lx : Lexer) (column : Int) : Option Lexer :=
  if lx.indent < column then some { lx with indent := column, outer := lx.indent :: lx.outer }
  else none

/-! ## Between tokens -/

/-- The place of the next token: spaces, comments and line breaks are passed over. A line break
    outside flow collections lets a key begin. -/
def toNextToken : Nat → Lexer → Lexer
  | 0, lx => lx
  | fuel + 1, lx =>
    let c := lx.cursor.skip (· = ' ')
    let c := if c.here = '#' then c.skip fun ch => !isLineEnd ch else c
    match c.lineBreak? with
    | some (_, c') =>
      toNextToken fuel { lx with cursor := c', mayStartKey := lx.mayStartKey || lx.flowLevel == 0 }
    | none => { lx with cursor := c }

/-- The state without the byte order mark that may begin the text. -/
def skipOrderMark (lx : Lexer) : Lexer :=
  if lx.cursor.index = 0 && lx.cursor.here.toNat = 0xfeff then { lx with cursor := lx.cursor.next }
  else lx

/-! ## Directives, anchors and tags -/

/-- The number of a version at this place. -/
def versionNumber (c : Cursor) : Except Fault (Nat × Cursor) :=
  let (ds, c') := c.span isDigit
  if ds.isEmpty then .error .malformed
  else if Integer.digitLimit < ds.length then
    .error (.badScalar (Integer.limitText (some ds.length)))
  else .ok (ds.foldl (fun n d => 10 * n + digitValue d) 0, c')

/-- The handle of a tag: an exclamation mark, or a name between two. -/
def tagHandle (c : Cursor) : Except Fault (Text × Cursor) := do
  if c.here ≠ '!' then throw .malformed
  let c' := c.next
  if c'.here = ' ' then pure (['!'], c')
  else
    let (name, after) := c'.span isNameChar
    if name.isEmpty && after.here ≠ '!' then throw .malformed
    else if after.here ≠ '!' then throw .malformed
    else pure ('!' :: name ++ ['!'], after.next)

/-- May the character stand in a tag? -/
def isTagChar (c : Char) : Bool :=
  c.isAlphanum
    || ['-', ';', '/', '?', ':', '@', '&', '=', '+', '$', ',', '_', '.', '!', '~', '*', '\x27', '(',
        ')', '[', ']', '%'].elem c

/-- The octets of the percent escapes at this place. -/
def tagEscapes : Nat → Octets → Cursor → Except Fault (Octets × Cursor)
  | 0, acc, c => .ok (acc.reverse, c)
  | fuel + 1, acc, c =>
    if c.here = '%' then
      match Text.hexValue? (c.peek 1), Text.hexValue? (c.peek 2) with
      | some x, some y => tagEscapes fuel (UInt8.ofNat (16 * x + y) :: acc) (Cursor.advance 3 c)
      | _, _ => .error .malformed
    else .ok (acc.reverse, c)

/-- The text of a tag at this place, percent escapes resolved, after `acc` (the latest character
    first). -/
def tagText : Nat → Text → Cursor → Except Fault (Text × Cursor)
  | 0, acc, c => .ok (acc.reverse, c)
  | fuel + 1, acc, c =>
    if c.here = '%' then do
      let (bs, c') ← tagEscapes (c.rest.length + 1) [] c
      match Utf8.decode bs with
      | .ok t => tagText fuel (t.reverse ++ acc) c'
      | .error _ => throw .malformed
    else if isTagChar c.here then tagText fuel (c.here :: acc) c.next
    else .ok (acc.reverse, c)

/-- The text of a tag at this place; it may not be empty. -/
def tagSuffix (c : Cursor) : Except Fault (Text × Cursor) := do
  if !isTagChar c.here then throw .malformed
  tagText (c.rest.length + 1) [] c

/-- The value of a directive of the given name and the place after it. -/
def directiveValue (name : Text) (c : Cursor) : Except Fault (Directive × Cursor) :=
  if name = "YAML".toList then do
    let (major, c) ← versionNumber (c.skip (· = ' '))
    if c.here ≠ '.' then throw .malformed
    let (minor, c) ← versionNumber c.next
    if !isSpaceOrEnd c.here then throw .malformed
    pure (.version major minor, c)
  else if name = "TAG".toList then do
    let (handle, c) ← tagHandle (c.skip (· = ' '))
    if c.here ≠ ' ' then throw .malformed
    let (start, c) ← tagSuffix (c.skip (· = ' '))
    if !isSpaceOrEnd c.here then throw .malformed
    pure (.tagHandle handle start, c)
  else pure (.other, c.skip fun ch => !isLineEnd ch)

/-- The directive at this place and the place after its line. -/
def directive (c : Cursor) : Except Fault (Directive × Cursor) := do
  let (name, c) := c.next.span isNameChar
  if name.isEmpty || !isSpaceOrEnd c.here then throw .malformed
  let (d, c) ← directiveValue name c
  pure (d, ← c.restOfLine)

/-- The name after the sign of an anchor or alias. -/
def anchorName (c : Cursor) : Except Fault (Text × Cursor) :=
  let (name, c') := c.next.span isNameChar
  if name.isEmpty then .error .malformed
  else if isWordEnd c'.here || ['?', ':', ',', ']', '\x7d', '%', '@', '\x60'].elem c'.here then
    .ok (name, c')
  else .error .malformed

/-- Does an exclamation mark follow before the next space or line end? -/
def hasSecondMark (t : Text) : Bool :=
  (t.takeWhile fun c => !isSpaceOrEnd c).elem '!'

/-- The tag at this place: its handle, if it has one, and its suffix. -/
def tag (c : Cursor) : Except Fault (Option Text × Text × Cursor) := do
  let second := c.peek 1
  let (handle, suffix, c) ←
    if second = '<' then do
      let (t, c) ← tagSuffix (Cursor.advance 2 c)
      if c.here ≠ '>' then throw .malformed
      pure (none, t, c.next)
    else if isWordEnd second then pure (none, ['!'], c.next)
    else if hasSecondMark c.next.rest then do
      let (handle, c) ← tagHandle c
      let (t, c) ← tagSuffix c
      pure (some handle, t, c)
    else do
      let (t, c) ← tagSuffix c.next
      pure (some ['!'], t, c)
  if isSpaceOrEnd c.here then pure (handle, suffix, c) else throw .malformed

/-! ## Tokens -/

/-- The end of the stream; all block collections end with it. -/
def fetchStreamEnd (lx : Lexer) : Except Fault Lexer := do
  let lx ← (lx.unwind (-1)).dropKey
  pure ({ lx with mayStartKey := false, keys := [] }.emit .streamEnd)

/-- A directive, at which all block collections end. -/
def fetchDirective (lx : Lexer) : Except Fault Lexer := do
  let lx ← (lx.unwind (-1)).dropKey
  let (d, c) ← directive lx.cursor
  pure ({ lx with mayStartKey := false, cursor := c }.emit (.directive d))

/-- The start or end of a document, at which all block collections end. -/
def fetchDocumentMark (t : Token) (lx : Lexer) : Except Fault Lexer := do
  let lx ← (lx.unwind (-1)).dropKey
  pure ({ lx with mayStartKey := false, cursor := Cursor.advance 3 lx.cursor }.emit t)

/-- The start of a flow collection, which may be a key. -/
def fetchFlowStart (t : Token) (lx : Lexer) : Except Fault Lexer := do
  let lx ← lx.saveKey
  pure ({ lx with
    flowLevel := lx.flowLevel + 1, mayStartKey := true, cursor := lx.cursor.next }.emit t)

/-- The end of a flow collection. -/
def fetchFlowEnd (t : Token) (lx : Lexer) : Except Fault Lexer := do
  let lx ← lx.dropKey
  pure ({ lx with
    flowLevel := lx.flowLevel - 1, mayStartKey := false, cursor := lx.cursor.next }.emit t)

/-- The comma of a flow collection. -/
def fetchFlowEntry (lx : Lexer) : Except Fault Lexer := do
  let lx ← lx.dropKey
  pure ({ lx with mayStartKey := true, cursor := lx.cursor.next }.emit .flowEntry)

/-- The dash of a block sequence, which may begin the sequence. -/
def fetchBlockEntry (lx : Lexer) : Except Fault Lexer := do
  let lx ←
    if lx.flowLevel ≠ 0 then pure lx
    else if !lx.mayStartKey then throw .malformed
    else match lx.indentTo? lx.cursor.column with
      | some lx' => pure (lx'.emit .blockSequenceStart)
      | none => pure lx
  let lx ← lx.dropKey
  pure ({ lx with mayStartKey := true, cursor := lx.cursor.next }.emit .blockEntry)

/-- The question mark of an explicit key, which may begin a block mapping. -/
def fetchKey (lx : Lexer) : Except Fault Lexer := do
  let lx ←
    if lx.flowLevel ≠ 0 then pure lx
    else if !lx.mayStartKey then throw .malformed
    else match lx.indentTo? lx.cursor.column with
      | some lx' => pure (lx'.emit .blockMappingStart)
      | none => pure lx
  let lx ← lx.dropKey
  pure ({ lx with mayStartKey := lx.flowLevel == 0, cursor := lx.cursor.next }.emit .key)

/-- The colon before a value. It makes the possible key of this flow level a key, which may begin a
    block mapping. -/
def fetchValue (lx : Lexer) : Except Fault Lexer := do
  let lx ←
    match lx.keys.lookup lx.flowLevel with
    | some k =>
      let lx := { lx with keys := lx.keys.filter fun k => k.1 != lx.flowLevel }
      let lx := lx.insert k.position .key
      let lx := if lx.flowLevel ≠ 0 then lx
        else match lx.indentTo? k.column with
          | some lx' => lx'.insert k.position .blockMappingStart
          | none => lx
      pure { lx with mayStartKey := false }
    | none =>
      let lx ←
        if lx.flowLevel ≠ 0 then pure lx
        else if !lx.mayStartKey then throw .malformed
        else match lx.indentTo? lx.cursor.column with
          | some lx' => pure (lx'.emit .blockMappingStart)
          | none => pure lx
      let lx ← lx.dropKey
      pure { lx with mayStartKey := lx.flowLevel == 0 }
  pure ({ lx with cursor := lx.cursor.next }.emit .value)

/-- An anchor or alias, which may be a key. -/
def fetchAnchor (make : Text → Token) (lx : Lexer) : Except Fault Lexer := do
  let lx ← lx.saveKey
  let (name, c) ← anchorName lx.cursor
  pure ({ lx with mayStartKey := false, cursor := c }.emit (make name))

/-- A tag, which may begin a key. -/
def fetchTag (lx : Lexer) : Except Fault Lexer := do
  let lx ← lx.saveKey
  let (handle, suffix, c) ← tag lx.cursor
  pure ({ lx with mayStartKey := false, cursor := c }.emit (.tag handle suffix))

/-- A block scalar. -/
def fetchBlockScalar (isFolded : Bool) (lx : Lexer) : Except Fault Lexer := do
  let lx ← lx.dropKey
  let (t, c) ← lx.cursor.block isFolded lx.indent
  pure ({ lx with mayStartKey := true, cursor := c }.emit (.scalar t false))

/-- A quoted scalar, which may be a key. -/
def fetchQuoted (isDouble : Bool) (lx : Lexer) : Except Fault Lexer := do
  let lx ← lx.saveKey
  let (t, c) ← lx.cursor.quoted isDouble
  pure ({ lx with mayStartKey := false, cursor := c }.emit (.scalar t false))

/-- A plain scalar, which may be a key. -/
def fetchPlain (lx : Lexer) : Except Fault Lexer := do
  let lx ← lx.saveKey
  let (t, c, crossed) := lx.cursor.plain (lx.flowLevel ≠ 0) (lx.indent + 1)
  pure ({ lx with mayStartKey := crossed, cursor := c }.emit (.scalar t true))

/-- Can a plain scalar begin at this place? -/
def startsPlain (inFlow : Bool) (c : Cursor) : Bool :=
  let ch := c.here
  let special := isWordEnd ch
    || ['-', '?', ':', ',', '[', ']', '\x7b', '\x7d', '#', '&', '*', '!', '|', '>', '\x27', '\x22',
        '%', '@', '\x60'].elem ch
  !special || (!isWordEnd (c.peek 1) && (ch = '-' || (!inFlow && (ch = '?' || ch = ':'))))

/-- The state after the next token, which begins at the cursor. -/
def fetchHere (lx : Lexer) : Except Fault Lexer :=
  let c := lx.cursor
  let ch := c.here
  let inFlow : Bool := lx.flowLevel ≠ 0
  if ch = endMark then lx.fetchStreamEnd
  else if ch = '%' && c.column = 0 then lx.fetchDirective
  else if c.column = 0 && c.hasMarks '-' then lx.fetchDocumentMark .documentStart
  else if c.column = 0 && c.hasMarks '.' then lx.fetchDocumentMark .documentEnd
  else if ch = '[' then lx.fetchFlowStart .flowSequenceStart
  else if ch = '\x7b' then lx.fetchFlowStart .flowMappingStart
  else if ch = ']' then lx.fetchFlowEnd .flowSequenceEnd
  else if ch = '\x7d' then lx.fetchFlowEnd .flowMappingEnd
  else if ch = ',' then lx.fetchFlowEntry
  else if ch = '-' && isWordEnd (c.peek 1) then lx.fetchBlockEntry
  else if ch = '?' && (inFlow || isWordEnd (c.peek 1)) then lx.fetchKey
  else if ch = ':' && (inFlow || isWordEnd (c.peek 1)) then lx.fetchValue
  else if ch = '*' then lx.fetchAnchor .alias
  else if ch = '&' then lx.fetchAnchor .anchor
  else if ch = '!' then lx.fetchTag
  else if ch = '|' && !inFlow then lx.fetchBlockScalar false
  else if ch = '>' && !inFlow then lx.fetchBlockScalar true
  else if ch = '\x27' then lx.fetchQuoted false
  else if ch = '\x22' then lx.fetchQuoted true
  else if startsPlain inFlow c then lx.fetchPlain
  else .error .malformed

/-- Whoever comes to the end of what can be read meets the fault that is there. -/
def expectMore (ending : Option Fault) (lx : Lexer) : Except Fault Unit :=
  match ending with
  | some f => if lx.cursor.rest.isEmpty then .error f else .ok ()
  | none => .ok ()

/-- The state after the next token and the block collections that end before it, where `ending` is
    met at the end of what can be read. -/
def fetch (ending : Option Fault) (lx : Lexer) : Except Fault Lexer := do
  let lx ← lx.dropStaleKeys
  let lx := toNextToken (lx.cursor.rest.length + 1) lx.skipOrderMark
  lx.expectMore ending
  let lx ← lx.dropStaleKeys
  match (lx.unwind lx.cursor.column).fetchHere with
  | .ok lx =>
    lx.expectMore ending
    pure lx
  | .error .unexpectedEnd => throw (ending.getD .unexpectedEnd)
  | .error f => throw f

/-- The number of tokens that are final: no key can be inserted before any of them. -/
def settled (lx : Lexer) : Nat :=
  (lx.keys.filter fun k => !lx.isStale k.2).foldl (fun n k => min n k.2.position) lx.tokens.length

/-- The tokens that are final, and then a fault. -/
def stop (lx : Lexer) (f : Fault) : List Token :=
  lx.tokens.reverse.take lx.settled ++ [.fault f]

/-- The tokens up to the end of the stream or the first fault, found in at most `fuel` steps. A fault
    stands in the place of the first token that was not final yet: whoever asks for that token has
    the text read until it is. -/
def run (ending : Option Fault) : Nat → Lexer → List Token
  | 0, lx => lx.stop .malformed
  | fuel + 1, lx =>
    match lx.fetch ending with
    | .error f => lx.stop f
    | .ok lx' =>
      if lx'.tokens.head? == some .streamEnd then lx'.tokens.reverse else run ending fuel lx'

end Lexer

/-- The tokens of a source. The last one is the end of the stream, or a fault. -/
def Token.ofSource (s : Source) : List Token :=
  (Lexer.start s.text).run s.ending (s.text.length + 2)

end PlaybookAssist.Yaml
