import PlaybookAssist.Text.Blank

/-!
# Margins

The margin of a text is the longest run of spaces and tabs that all its lines begin with, lines of
nothing but spaces and tabs left aside.

## Main definitions

- `Text.margin` : the margin of some lines
- `Text.dedent` : the lines without their margin
- `Text.reindent` : a text for insertion at a column: its first line goes where the cursor stands,
  the others are moved to the column
-/

namespace PlaybookAssist.Text

/-- Is this a space or a tab? -/
def isIndent (c : Char) : Bool :=
  c = ' ' || c = '\t'

/-- The longest text that both texts begin with. -/
def commonStart : Text → Text → Text
  | a :: s, b :: t => if a = b then a :: commonStart s t else []
  | _, _ => []

/-- The margin of the lines that hold more than spaces and tabs, if there are any. -/
def margin? : List Text → Option Text
  | [] => none
  | line :: lines =>
    if line.all isIndent then margin? lines
    else
      let own := line.takeWhile isIndent
      match margin? lines with
      | none => some own
      | some m => some (commonStart own m)

/-- The margin of some lines; none at all when no line has any content. -/
def margin (lines : List Text) : Text :=
  (margin? lines).getD []

/-- The lines without their margin; a line of spaces and tabs becomes empty. -/
def dedent (lines : List Text) : List Text :=
  let m := margin lines
  lines.map fun line => if line.all isIndent then [] else line.drop m.length

/-- A line after the first one, moved to the column unless it is blank. -/
def indentLine (column : Int) (line : Text) : Text :=
  if isBlankLine line then line else List.replicate column.toNat ' ' ++ line

/-- The text for insertion at a column. -/
def reindent (t : Text) (column : Int) : Text :=
  match dedent (splitOn '\n' t) with
  | [] => []
  | first :: others => joinWith "\n" (first :: others.map (indentLine column))

end PlaybookAssist.Text
