import PlaybookAssist.Number.Real

/-!
# Numbers in settings and requests

Where data should hold a number, a text may spell it. Whole numbers may come with zeros in front and
a point with zeros behind; single underscores may stand between digits. Only ASCII digits count.

## Main definitions

- `Lenient.withoutUnderscores?` : a numeral without its underscores, if they stand well
- `Lenient.integer` : the whole number that a text spells, or why it spells none
- `Lenient.real?` : the double that a text spells
-/

namespace PlaybookAssist.Lenient

/-- Is this one of the white space characters of Unicode? -/
def isSpace (c : Char) : Bool :=
  isBlank c && !(0x1c ≤ c.toNat && c.toNat ≤ 0x1f)

/-- Do two underscores follow each other? -/
def hasDoubleUnderscore (t : Text) : Bool :=
  Text.contains "__" t

/-- The text without its underscores, of which there is at least one; none may stand at an end or
    beside another. -/
def withoutUnderscores? (t : Text) : Option Text :=
  if t.head? == some '_' || t.getLast? == some '_' || hasDoubleUnderscore t || !t.elem '_' then none
  else some (t.filter (· ≠ '_'))

/-! ## Whole numbers -/

/-- What is left of a numeral behind leading zeros, and behind underscores among them, where
    `last` is the character before. A zero stays where no other digit follows. A minus sign behind
    the zeros is taken for the sign of the number. -/
def afterZeros? (last : Char) : Text → Option Text
  | [] => some [last]
  | c :: rest =>
    if c = '0' || c = '_' then afterZeros? c rest
    else if isDigit c || c = '-' then some (c :: rest)
    else if c = '.' then some (last :: c :: rest)
    else none

/-- The numeral without leading zeros; it has to begin with a digit or a minus sign. -/
def dropLeadingZeros? (t : Text) : Option Text :=
  match t with
  | [] => none
  | c :: rest =>
    if c = '0' then afterZeros? c rest
    else if isDigit c || c = '-' then some t
    else none

/-- The numeral without a point that is followed by zeros only, by at least one of them. -/
def dropZeroFraction (t : Text) : Text :=
  match Text.cut '.' t with
  | (whole, some zeros) => if !zeros.isEmpty && zeros.all (· = '0') then whole else t
  | (_, none) => t

/-- The sign in front of a numeral, and the rest; there is no minus sign behind a plus sign. -/
def sign? : Text → Option (Bool × Text)
  | '+' :: '-' :: _ => none
  | t => some (Numeral.sign t)

/-- The number of plain digits, the first of them no zero unless it is alone. -/
def plainDigits (t : Text) : Except Integer.Fault Nat :=
  let run := (t.takeWhile isDigit).length
  if Integer.digitLimit < run then .error (.tooManyDigits run)
  else if t.isEmpty || run < t.length || (t.head? == some '0' && 1 < run) then .error .notALiteral
  else match Numeral.digits? 10 t with
    | some n => .ok n
    | none => .error .notALiteral

/-- The whole number that a text spells. -/
def integer (t : Text) : Except Integer.Fault Int := do
  let some (negative, unsigned) := sign? (Text.trim isSpace t) | throw .notALiteral
  let some kept := dropLeadingZeros? unsigned | throw .notALiteral
  let whole := dropZeroFraction kept
  let spelled := (withoutUnderscores? whole).getD whole
  match spelled with
  | '-' :: digits =>
    if negative then throw .notALiteral
    let n ← plainDigits digits
    pure (-(n : Int))
  | digits =>
    let n ← plainDigits digits
    pure (if negative then -(n : Int) else n)

/-! ## Doubles -/

/-- The double that a text spells. Underscores are looked for only where the text as it stands is no
    numeral, and then no white space is left aside. -/
def real? (t : Text) : Option Float :=
  (Real64.plain? (Text.trim isSpace t)).or ((withoutUnderscores? t).bind Real64.plain?)

end PlaybookAssist.Lenient
