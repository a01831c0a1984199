import PlaybookAssist.Text

/-!
# Blank characters

The Unicode white space characters, together with the four ASCII separators `0x1c` to `0x1f`.

## Main definitions

- `isBlank` : the class itself
- `Text.strip`, `Text.stripEnd` : text without blanks at both ends, or at its end only
- `Text.isBlankLine` : text of blanks only
-/

namespace PlaybookAssist

/-- Is this a white space character or an ASCII separator? -/
def isBlank (c : Char) : Bool :=
  let n := c.toNat
  (0x09 ≤ n && n ≤ 0x0d) || (0x1c ≤ n && n ≤ 0x20) || n == 0x85 || n == 0xa0 || n == 0x1680
    || (0x2000 ≤ n && n ≤ 0x200a) || n == 0x2028 || n == 0x2029 || n == 0x202f || n == 0x205f
    || n == 0x3000

namespace Text

/-- The text without blanks at both ends. -/
def strip (t : Text) : Text :=
  trim isBlank t

/-- The text without blanks at its end. -/
def stripEnd (t : Text) : Text :=
  trimEnd isBlank t

/-- Does the text hold nothing but blanks? -/
def isBlankLine (t : Text) : Bool :=
  t.all isBlank

end Text

end PlaybookAssist
