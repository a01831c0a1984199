import PlaybookAssist.Text.Quoted
import PlaybookAssist.Yaml.Token

/-!
# The scalars of a YAML stream

Plain scalars, quoted scalars and block scalars: where each ends and which text it stands for.

## Main definitions

- `Cursor.plain` : a scalar without quotes
- `Cursor.quoted` : a scalar in single or double quotes
- `Cursor.block` : a scalar that keeps or folds its lines
-/

namespace PlaybookAssist.Yaml.Cursor

/-! ## Folding -/

/-- The text of a line break between two pieces of a folded scalar, given the breaks of the empty
    lines after it: alone it stands for a space. -/
def folded (first : Char) (others : Text) : Text :=
  if first ≠ '\n' then first :: others
  else if others.isEmpty then [' ']
  else others

/-! ## Plain scalars -/

/-- The number of characters up to the end of a word of a plain scalar. -/
def plainLength (inFlow : Bool) : Text → Nat
  | [] => 0
  | c :: rest =>
    let next := rest.headD endMark
    let endsAtColon :=
      c = ':' && (isWordEnd next || (inFlow && [',', '[', ']', '\x7b', '\x7d'].elem next))
    let endsInFlow := inFlow && [',', '?', '[', ']', '\x7b', '\x7d'].elem c
    if isWordEnd c || endsAtColon || endsInFlow then 0 else plainLength inFlow rest + 1

/-- The breaks of the empty lines at this place and the place after the spaces of the last line;
    nothing where a document ends. -/
def emptyLines : Nat → Text → Cursor → Option Text × Cursor
  | 0, acc, c => (some acc.reverse, c)
  | fuel + 1, acc, c =>
    if c.here = ' ' then emptyLines fuel acc c.next
    else match c.lineBreak? with
      | none => (some acc.reverse, c)
      | some (b, c') =>
        if c'.atDocumentMark then (none, c') else emptyLines fuel (b :: acc) c'

/-- What separates two words of a plain scalar. -/
structure Gap where
  /-- The text that the gap stands for; empty when the scalar ends here. -/
  text : Text
  after : Cursor
  /-- Did a line end in the gap? -/
  crossedLine : Bool

/-- The gap at this place. -/
def gap (c : Cursor) : Gap :=
  let (spaces, c) := c.span (· = ' ')
  match c.lineBreak? with
  | none => ⟨spaces, c, false⟩
  | some (b, c) =>
    if c.atDocumentMark then ⟨[], c, true⟩
    else match emptyLines (c.rest.length + 1) [] c with
      | (none, c) => ⟨[], c, true⟩
      | (some others, c) => ⟨folded b others, c, true⟩

/-- The rest of a plain scalar after `acc` and the gap `between`, both with the latest character
    first; the last component says whether a line ended after the last word. -/
def plainFrom (inFlow : Bool) (indent : Int) :
    Nat → Text → Text → Bool → Cursor → Text × Cursor × Bool
  | 0, acc, _, crossed, c => (acc.reverse, c, crossed)
  | fuel + 1, acc, between, crossed, c =>
    if c.here = '#' then (acc.reverse, c, crossed)
    else match plainLength inFlow c.rest with
      | 0 => (acc.reverse, c, crossed)
      | n + 1 =>
        let acc := (c.rest.take (n + 1)).reverse ++ (between ++ acc)
        let g := (advance (n + 1) c).gap
        if g.text.isEmpty || g.after.here = '#' || (!inFlow && (g.after.column : Int) < indent) then
          (acc.reverse, g.after, g.crossedLine)
        else plainFrom inFlow indent fuel acc g.text.reverse g.crossedLine g.after

/-- The plain scalar at this place, the place after it, and whether a line ended after its last
    word. -/
def plain (inFlow : Bool) (indent : Int) (c : Cursor) : Text × Cursor × Bool :=
  plainFrom inFlow indent (c.rest.length + 1) [] [] false c

/-! ## Quoted scalars -/

/-- The character that a backslash and this character stand for. -/
def escape? (c : Char) : Option Char :=
  if c = '0' then some (Char.ofNat 0)
  else if c = 'a' then some (Char.ofNat 0x07)
  else if c = 'b' then some (Char.ofNat 0x08)
  else if c = 't' || c = '\t' then some '\t'
  else if c = 'n' then some '\n'
  else if c = 'v' then some (Char.ofNat 0x0b)
  else if c = 'f' then some (Char.ofNat 0x0c)
  else if c = 'r' then some '\r'
  else if c = 'e' then some (Char.ofNat 0x1b)
  else if c = ' ' || c = doubleQuote || c = backslash || c = '/' then some c
  else if c = 'N' then some (Char.ofNat 0x85)
  else if c = '_' then some (Char.ofNat 0xa0)
  else if c = 'L' then some (Char.ofNat 0x2028)
  else if c = 'P' then some (Char.ofNat 0x2029)
  else none

/-- The number of hexadecimal digits that follow a backslash and this character. -/
def escapeDigits? (c : Char) : Option Nat :=
  if c = 'x' then some 2 else if c = 'u' then some 4 else if c = 'U' then some 8 else none

/-- The character with the given code. -/
def codePoint (n : Nat) : Except Fault Char :=
  if 0x7fffffff < n then .error (.numberTooLarge "Python int too large to convert to C int")
  else if 0x10ffff < n then .error (.badScalar "chr() arg not in range(0x110000)")
  else .ok (Surrogate.charOf n)

/-- The breaks of the empty lines inside a quoted scalar; no document may end here. -/
def quotedBreaks : Nat → Text → Cursor → Except Fault (Text × Cursor)
  | 0, acc, c => .ok (acc.reverse, c)
  | fuel + 1, acc, c =>
    if c.atDocumentMark then .error .malformed
    else
      let c := c.skip fun ch => ch = ' ' || ch = '\t'
      match c.lineBreak? with
      | some (b, c') => quotedBreaks fuel (b :: acc) c'
      | none => .ok (acc.reverse, c)

/-- What follows a backslash in double quotes: a text and the place after it. -/
def escapeSequence (c : Cursor) : Except Fault (Text × Cursor) :=
  match escape? c.here with
  | some ch => .ok ([ch], c.next)
  | none =>
    match escapeDigits? c.here with
    | some n => do
      let c := c.next
      match Text.ofHex? (c.rest.take n) with
      | some code =>
        if c.rest.length < n then throw .malformed
        pure ([← codePoint code], advance n c)
      | none => throw .malformed
    | none =>
      match c.lineBreak? with
      | some (_, c') => quotedBreaks (c'.rest.length + 1) [] c'
      | none => .error .malformed

/-- The blanks at this place inside a quoted scalar: as they are within a line, folded across
    lines. -/
def quotedGap (c : Cursor) : Except Fault (Text × Cursor) := do
  let (blanks, c) := c.span fun ch => ch = ' ' || ch = '\t'
  if c.here = endMark then throw .unexpectedEnd
  match c.lineBreak? with
  | some (b, c') =>
    let (others, c'') ← quotedBreaks (c'.rest.length + 1) [] c'
    pure (folded b others, c'')
  | none => pure (blanks, c)

/-- The rest of a quoted scalar after `acc`, the latest character first. -/
def quotedFrom (isDouble : Bool) : Nat → Text → Cursor → Except Fault (Text × Cursor)
  | 0, _, _ => .error .malformed
  | fuel + 1, acc, c =>
    let ch := c.here
    let quote := if isDouble then doubleQuote else singleQuote
    if ch = endMark then .error .unexpectedEnd
    else if !isDouble && ch = singleQuote && c.peek 1 = singleQuote then
      quotedFrom isDouble fuel (singleQuote :: acc) (advance 2 c)
    else if ch = quote then .ok (acc.reverse, c.next)
    else if isDouble && ch = backslash then do
      let (t, c') ← escapeSequence c.next
      quotedFrom isDouble fuel (t.reverse ++ acc) c'
    else if isWordEnd ch then do
      let (t, c') ← quotedGap c
      quotedFrom isDouble fuel (t.reverse ++ acc) c'
    else quotedFrom isDouble fuel (ch :: acc) c.next

/-- The text of the quoted scalar that begins with the quote at this place. -/
def quoted (isDouble : Bool) (c : Cursor) : Except Fault (Text × Cursor) :=
  quotedFrom isDouble (c.rest.length + 1) [] c.next

/-! ## Block scalars -/

/-- What becomes of the line breaks at the end of a block scalar. -/
inductive Chomping where
  | strip
  | clip
  | keep
  deriving DecidableEq, Repr

/-- The mark of a chomping. -/
def chomping? (c : Char) : Option Chomping :=
  if c = '+' then some .keep else if c = '-' then some .strip else none

/-- The indentation step that a digit gives; zero is none. -/
def indentStep? (c : Char) : Except Fault (Option Nat) :=
  if !isDigit c then .ok none
  else if c = '0' then .error .malformed
  else .ok (some (digitValue c))

/-- The marks after the sign of a block scalar: chomping and indentation step in either order. -/
def blockMarks (c : Cursor) : Except Fault (Chomping × Option Nat × Cursor) := do
  let (chomping, step, c) ←
    match chomping? c.here with
    | some chomping =>
      let c := c.next
      match ← indentStep? c.here with
      | some n => pure (chomping, some n, c.next)
      | none => pure (chomping, none, c)
    | none =>
      match ← indentStep? c.here with
      | some n =>
        let c := c.next
        match chomping? c.here with
        | some chomping => pure (chomping, some n, c.next)
        | none => pure (.clip, some n, c)
      | none => pure (.clip, none, c)
  if isSpaceOrEnd c.here then pure (chomping, step, c) else throw .malformed

/-- The place after the rest of a line that may hold only a comment. -/
def restOfLine (c : Cursor) : Except Fault Cursor :=
  let c := c.skip (· = ' ')
  let c := if c.here = '#' then c.skip fun ch => !isLineEnd ch else c
  if isLineEnd c.here then .ok c.skipBreak else .error .malformed

/-- The breaks of the empty lines at the start of a block scalar and the widest column reached. -/
def leadingLines : Nat → Text → Nat → Cursor → Text × Nat × Cursor
  | 0, acc, widest, c => (acc.reverse, widest, c)
  | fuel + 1, acc, widest, c =>
    if c.here = ' ' then
      let c := c.next
      leadingLines fuel acc (max widest c.column) c
    else match c.lineBreak? with
      | some (b, c') => leadingLines fuel (b :: acc) widest c'
      | none => (acc.reverse, widest, c)

/-- The place after at most as many spaces as lead to the given column. -/
def indentTo (column : Nat) : Nat → Cursor → Cursor
  | 0, c => c
  | fuel + 1, c => if c.column < column && c.here = ' ' then indentTo column fuel c.next else c

/-- The breaks of the empty lines at this place; spaces up to the column are skipped. -/
def blockBreaks (column : Nat) : Nat → Text → Cursor → Text × Cursor
  | 0, acc, c => (acc.reverse, c)
  | fuel + 1, acc, c =>
    let c := indentTo column column c
    match c.lineBreak? with
    | some (b, c') => blockBreaks column fuel (b :: acc) c'
    | none => (acc.reverse, c)

/-- The lines of a block scalar after `acc`, the latest character first: its text without the last
    breaks, the break that ends the last line, the breaks of the empty lines after it, and the place
    there. -/
def blockLines (isFolded : Bool) (column : Nat) :
    Nat → Text → Text → Text → Cursor → Text × Text × Text × Cursor
  | 0, acc, last, breaks, c => (acc.reverse, last, breaks, c)
  | fuel + 1, acc, last, breaks, c =>
    if c.column = column && c.here ≠ endMark then
      let startsWithText := !(c.here = ' ' || c.here = '\t')
      let (line, c) := c.span fun ch => !isLineEnd ch
      let acc := line.reverse ++ (breaks.reverse ++ acc)
      let (last, c) : Text × Cursor := match c.lineBreak? with
        | some (b, c') => ([b], c')
        | none => ([], c)
      let (breaks, c) := blockBreaks column (c.rest.length + 1) [] c
      if c.column = column && c.here ≠ endMark then
        let nextIsText := !(c.here = ' ' || c.here = '\t')
        let between : Text :=
          if isFolded && last = ['\n'] && startsWithText && nextIsText then
            (if breaks.isEmpty then [' '] else [])
          else last
        blockLines isFolded column fuel (between.reverse ++ acc) last breaks c
      else (acc.reverse, last, breaks, c)
    else (acc.reverse, last, breaks, c)

/-- The block scalar whose sign stands at this place, inside a collection of the given
    indentation. -/
def block (isFolded : Bool) (indent : Int) (c : Cursor) : Except Fault (Text × Cursor) := do
  let (chomping, step, c) ← blockMarks c.next
  let c ← c.restOfLine
  let least := (max (indent + 1) 1).toNat
  let (column, breaks, c) :=
    match step with
    | some n =>
      let column := least + n - 1
      let (breaks, c) := blockBreaks column (c.rest.length + 1) [] c
      (column, breaks, c)
    | none =>
      let (breaks, widest, c) := leadingLines (c.rest.length + 1) [] 0 c
      (max least widest, breaks, c)
  let (body, last, breaks, c) := blockLines isFolded column (c.rest.length + 1) [] [] breaks c
  let ending := match chomping with
    | .strip => []
    | .clip => last
    | .keep => last ++ breaks
  pure (body ++ ending, c)

end PlaybookAssist.Yaml.Cursor
