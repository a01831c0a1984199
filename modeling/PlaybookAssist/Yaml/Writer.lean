import PlaybookAssist.Yaml.Tag

/-!
# Writing documents

Plain data is written in block form: one line for each pair and each item, what belongs to it moved
to the right below it. A text stands as it is when nothing else could be read from it, and between
double quotes otherwise.

## Main definitions

- `Yaml.scalarLine` : the form of a scalar
- `Yaml.lines` : the lines of a value
- `Yaml.write` : the text of a value
-/

namespace PlaybookAssist.Yaml

/-! ## Scalars -/

/-- Can the character stand in a bare word? -/
def isBareChar (c : Char) : Bool :=
  c.isAlphanum || c = '_' || c = '-' || c = '.' || c = '/'

/-- Is the text a word that is read as the very same text? -/
def isBareWord (t : Text) : Bool :=
  match t with
  | c :: _ => (c.isAlpha || c = '_' || c = '/') && t.all isBareChar && Tag.ofPlain t = .str
  | [] => false

/-- The form of a text. -/
def textLine (t : Text) : Text :=
  if isBareWord t then t
  else doubleQuote :: t.flatMap (Text.quotedChar doubleQuote) ++ [doubleQuote]

/-- The form of a double. One with an exponent has a point before it. -/
def realLine (x : Float) : Text :=
  if x.isNaN then ".nan"
  else if x.isInf then (if x < 0 then "-.inf" else ".inf")
  else
    match Text.cut 'e' (Real64.text x) with
    | (digits, some exponent) =>
      digits ++ (if digits.elem '.' then [] else ['.', '0']) ++ 'e' :: exponent
    | (digits, none) => digits

/-- The form of a scalar. What is not plain stands as the text that shows it. -/
def scalarLine : Value → Text
  | .null => "null"
  | .bool b => if b then "true" else "false"
  | .int i => Text.ofInt i
  | .float x => realLine x
  | .nan _ => ".nan"
  | .str t => textLine t
  | .list _ => "[]"
  | .map _ => ['\x7b', '\x7d']
  | v => textLine v.display

/-! ## Blocks -/

/-- The lines moved to the right. -/
def indented (ls : List Text) : List Text :=
  ls.map fun l => ' ' :: ' ' :: l

/-- The lines behind a mark of one character, which the first one stands next to. -/
def behind (mark : Char) : List Text → List Text
  | [] => [[mark]]
  | first :: others => (mark :: ' ' :: first) :: indented others

/-- The longest key that stands on the line of its value. -/
def keyLimit : Nat := 120

/-- The lines of a pair, whose value has the given lines, `inline` when it has one line only. -/
def pairLines (key : Text) (inline : Bool) (value : List Text) : List Text :=
  if keyLimit < key.length then behind '?' [key] ++ behind ':' value
  else if inline then value.map fun l => key ++ ':' :: ' ' :: l
  else (key ++ [':']) :: indented value

/-- Has the value items or pairs of its own? -/
def isBlock : Value → Bool
  | .list xs => !xs.isEmpty
  | .map ps => !ps.isEmpty
  | .knot _ v => isBlock v
  | _ => false

mutual

/-- The lines of a value. -/
def lines : Value → List Text
  | .list (x :: xs) => linesOfItems (x :: xs)
  | .map (p :: ps) => linesOfPairs (p :: ps)
  | .knot _ v => lines v
  | v => [scalarLine v]

/-- The lines of the items of a list. -/
def linesOfItems : List Value → List Text
  | [] => []
  | x :: xs => behind '-' (lines x) ++ linesOfItems xs

/-- The lines of the pairs of a mapping. -/
def linesOfPairs : List (Value × Value) → List Text
  | [] => []
  | (k, v) :: ps => pairLines (scalarLine k) (!isBlock v) (lines v) ++ linesOfPairs ps

end

/-- The text of a value, every line with its end. -/
def write (v : Value) : Text :=
  (lines v).flatMap fun l => l ++ ['\n']

end PlaybookAssist.Yaml
