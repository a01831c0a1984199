import PlaybookAssist.Text.Blank
import PlaybookAssist.Text.Digit

/-!
# Integers in text

An integer literal is a sign, an optional mark of its base and digits, with single underscores
between digits and white space around the whole. Digits of any script count.

## Main definitions

- `Numeral.asciiForm` : a numeral with foreign digits and blanks replaced by their ASCII fellows
- `Numeral.digits?` : the value of digits with single underscores between them
- `Integer.read` : the value of an integer literal, or why the text is none
- `Integer.digitLimit` : decimal literals with more digits are refused
-/

namespace PlaybookAssist

namespace Numeral

/-- A numeral with each digit of another script replaced by the ASCII digit of its value and each
    foreign blank by a space; a foreign character of another kind becomes a question mark. -/
def asciiForm (t : Text) : Text :=
  t.map fun c =>
    if c.toNat < 127 then c
    else if isBlank c then ' '
    else match decimalValue? c with
      | some d => Char.ofNat ('0'.toNat + d)
      | none => '?'

/-- The ASCII blanks that may surround a numeral. -/
def isPadding (c : Char) : Bool :=
  c = ' ' || ('\t' ≤ c && c ≤ '\r')

/-- The value of a character as a digit of a base up to sixteen. -/
def digitOf? (base : Nat) (c : Char) : Option Nat :=
  (Text.hexValue? c).filter (· < base)

/-- The value of digits after `acc`, single underscores between digits allowed; `afterDigit` says
    whether the character before was a digit. -/
def digitsFrom? (base acc : Nat) (afterDigit : Bool) : Text → Option Nat
  | [] => if afterDigit then some acc else none
  | c :: rest =>
    if c = '_' then
      if afterDigit then digitsFrom? base acc false rest else none
    else match digitOf? base c with
      | some d => digitsFrom? base (base * acc + d) true rest
      | none => none

/-- The value of a non-empty sequence of digits with single underscores between them. -/
def digits? (base : Nat) (t : Text) : Option Nat :=
  digitsFrom? base 0 false t

/-- The sign in front of a numeral and the rest of it. -/
def sign : Text → Bool × Text
  | '-' :: rest => (true, rest)
  | '+' :: rest => (false, rest)
  | t => (false, t)

end Numeral

namespace Integer

/-- A decimal literal with more digits than this is refused. -/
def digitLimit : Nat := 4300

/-- Is the integer one whose decimal digits are too many to be written? -/
def isTooLong (i : Int) : Bool :=
  Nat.pow 10 digitLimit ≤ i.natAbs

/-- Why a text is no integer literal. -/
inductive Fault where
  | notALiteral
  /-- The decimal digits are too many to be converted. -/
  | tooManyDigits (count : Nat)
  deriving DecidableEq, Repr

/-- The wording of the limit on decimal digits, with their number where it is known. -/
def limitText (count : Option Nat) : Text :=
  let told : Text := match count with
    | some n => ": value has ".toList ++ Text.ofNat n ++ " digits".toList
    | none => []
  "Exceeds the limit (4300 digits) for integer string conversion".toList ++ told
    ++ "; use sys.set_int_max_str_digits() to increase the limit".toList

/-- How much of a text that is no literal is shown. -/
def shownLength : Nat := 200

/-- The wording of a fault of a text, given the form in which the text is shown. -/
def Fault.message (base : Nat) (shown : Text) : Fault → Text
  | .notALiteral =>
    "invalid literal for int() with base ".toList ++ Text.ofNat base ++ ": ".toList
      ++ shown.take shownLength
  | .tooManyDigits count => limitText (some count)

/-- The literal without the mark of its base (`0b`, `0o`, `0x`) and one underscore after the mark. -/
def dropMark (base : Nat) (t : Text) : Text :=
  match t with
  | '0' :: m :: rest =>
    if (base = 2 ∧ (m = 'b' ∨ m = 'B')) ∨ (base = 8 ∧ (m = 'o' ∨ m = 'O'))
        ∨ (base = 16 ∧ (m = 'x' ∨ m = 'X')) then
      match rest with
      | '_' :: rest' => rest'
      | _ => rest
    else t
  | _ => t

/-- The value of an integer literal of the given base. The limit on decimal digits concerns the
    digits at the front, whatever follows them. -/
def read (base : Nat) (t : Text) : Except Fault Int :=
  let body := (Numeral.asciiForm t).dropWhile Numeral.isPadding
  let (negative, unsigned) := Numeral.sign body
  let marked := dropMark base unsigned
  let run := marked.takeWhile fun c => c = '_' || (Numeral.digitOf? base c).isSome
  match Numeral.digits? base run with
  | none => .error .notALiteral
  | some n =>
    let count := (run.filter (· ≠ '_')).length
    if base = 10 ∧ digitLimit < count then .error (.tooManyDigits count)
    else if (marked.drop run.length).all Numeral.isPadding then
      .ok (if negative then -(n : Int) else n)
    else .error .notALiteral

/-- The value of an integer literal, if the text is one. -/
def read? (base : Nat) (t : Text) : Option Int :=
  (read base t).toOption

end Integer

end PlaybookAssist
