import PlaybookAssist.Value

/-!
# Writing JSON

JSON text on one line: a blank after commas and colons, everything beyond ASCII escaped by UTF-16
units, the pairs of an object in the order of the mapping. Infinities and no number have names of
their own.

## Main definitions

- `JsonText.write` : the text of a value, or why it has none
-/

namespace PlaybookAssist.JsonText

/-- The escape of one UTF-16 unit. -/
def unitEscape (n : Nat) : Text :=
  backslash :: 'u' :: Text.hex 4 n

/-- The form of a character in a string. -/
def writeChar (c : Char) : Text :=
  let n := Surrogate.codeOf c
  if c = doubleQuote ∨ c = backslash then [backslash, c]
  else if n = 0x08 then [backslash, 'b']
  else if n = 0x0c then [backslash, 'f']
  else if c = '\n' then [backslash, 'n']
  else if c = '\r' then [backslash, 'r']
  else if c = '\t' then [backslash, 't']
  else if 0x20 ≤ n ∧ n < 0x7f then [c]
  else if n < 0x10000 then unitEscape n
  else
    unitEscape (0xd800 + (n - 0x10000) / 0x400) ++ unitEscape (0xdc00 + (n - 0x10000) % 0x400)

/-- The form of a text. -/
def writeText (t : Text) : Text :=
  doubleQuote :: t.flatMap writeChar ++ [doubleQuote]

/-- The form of a double. -/
def writeReal (x : Float) : Text :=
  if x.isNaN then "NaN"
  else if x.isInf then (if x < 0 then "-Infinity" else "Infinity")
  else Real64.text x

/-- The form of an integer; one with too many digits has none. -/
def writeInt (i : Int) : Except Text Text :=
  if Integer.isTooLong i then .error (Integer.limitText none) else .ok (Text.ofInt i)

/-- The reason why a value has no form. -/
def notWritable {α : Type} (v : Value) : Except Text α :=
  .error ("Object of type ".toList ++ v.className ++ " is not JSON serializable".toList)

/-- The name of a key. -/
def writeKey (key : Value) : Except Text Text :=
  match key with
  | .str t => .ok t
  | .null => .ok "null"
  | .bool b => .ok (if b then "true" else "false")
  | .int i => writeInt i
  | .float x => .ok (writeReal x)
  | .nan _ => .ok (writeReal (0.0 / 0.0))
  | k =>
    .error ("keys must be str, int, float, bool or None, not ".toList ++ k.className)

mutual

/-- The JSON text of a value, or why it has none. -/
def write : Value → Except Text Text
  | .null => .ok "null"
  | .bool b => .ok (if b then "true" else "false")
  | .int i => writeInt i
  | .float x => .ok (writeReal x)
  | .nan _ => .ok (writeReal (0.0 / 0.0))
  | .str t => .ok (writeText t)
  | .list xs | .tuple xs => do
    let ts ← writeAll xs
    pure ('[' :: Text.joinWith ", " ts ++ [']'])
  | .map ps => do
    let ts ← writePairs ps
    pure ('\x7b' :: Text.joinWith ", " ts ++ ['\x7d'])
  | .knot _ v => write v
  | v => notWritable v

/-- The texts of some values. -/
def writeAll : List Value → Except Text (List Text)
  | [] => .ok []
  | x :: xs => do
    let t ← write x
    pure (t :: (← writeAll xs))

/-- The texts of some pairs. -/
def writePairs : List (Value × Value) → Except Text (List Text)
  | [] => .ok []
  | (k, v) :: ps => do
    let name ← writeKey k
    let t ← write v
    pure ((writeText name ++ ':' :: ' ' :: t) :: (← writePairs ps))

end

end PlaybookAssist.JsonText
