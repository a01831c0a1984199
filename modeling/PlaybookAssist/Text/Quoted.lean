import PlaybookAssist.Text.Printable
import PlaybookAssist.Text.Surrogate

/-!
# Quoted text

The literal form in which text and octets are shown inside messages and inside the text of a
collection: single quotes, or double quotes when the text holds single quotes only; what does not
print is escaped by its code point.

## Main definitions

- `Text.quoted` : the literal of a text
- `Octets.quoted` : the literal of a sequence of octets
-/

namespace PlaybookAssist

/-- The single quote. -/
def singleQuote : Char := Char.ofNat 0x27

/-- The double quote. -/
def doubleQuote : Char := Char.ofNat 0x22

/-- The backslash. -/
def backslash : Char := Char.ofNat 0x5c

/-- The quote that a literal stands in. -/
def quoteFor (hasSingle hasDouble : Bool) : Char :=
  if hasSingle && !hasDouble then doubleQuote else singleQuote

/-- The escapes that the quote, the backslash and the three common controls have of their own. -/
def shortEscape? (quote c : Char) : Option Text :=
  if c = quote ∨ c = backslash then some [backslash, c]
  else if c = '\n' then some [backslash, 'n']
  else if c = '\r' then some [backslash, 'r']
  else if c = '\t' then some [backslash, 't']
  else none

/-- The form of one character between quotes. -/
def Text.quotedChar (quote c : Char) : Text :=
  match shortEscape? quote c with
  | some escape => escape
  | none =>
    if isPrintable c then [c]
    else
      let n := Surrogate.codeOf c
      if n < 0x100 then backslash :: 'x' :: Text.hex 2 n
      else if n < 0x10000 then backslash :: 'u' :: Text.hex 4 n
      else backslash :: 'U' :: Text.hex 8 n

/-- The literal of a text. -/
def Text.quoted (t : Text) : Text :=
  let quote := quoteFor (t.elem singleQuote) (t.elem doubleQuote)
  quote :: t.flatMap (Text.quotedChar quote) ++ [quote]

/-- The literal of a sequence of octets; only printable ASCII stands for itself. -/
def Octets.quoted (bs : Octets) : Text :=
  let cs := bs.map fun b => Char.ofNat b.toNat
  let quote := quoteFor (cs.elem singleQuote) (cs.elem doubleQuote)
  let show_ (c : Char) : Text :=
    match shortEscape? quote c with
    | some escape => escape
    | none =>
      if 0x20 ≤ c.toNat ∧ c.toNat < 0x7f then [c] else backslash :: 'x' :: Text.hex 2 c.toNat
  'b' :: quote :: cs.flatMap show_ ++ [quote]

end PlaybookAssist
