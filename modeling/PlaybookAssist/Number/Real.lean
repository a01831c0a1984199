import PlaybookAssist.Number.Integer

/-!
# Floating-point numbers in text

A double is written with the fewest digits that read back as the same double, and of those with the
digits nearest to it.

## Main definitions

- `Real64.parts` : a finite double as a sign, a whole number and a power of two
- `Real64.shortest` : the fewest digits that determine a double
- `Real64.text` : the written form; positional while the decimal exponent is from -4 to 15
- `Real64.plain?`, `Real64.read?` : the double of a written form
- `Real64.eqInt` : is a double equal to an integer?
-/

namespace PlaybookAssist.Real64

/-! ## Taking a double apart -/

/-- A finite double is `± mantissa · 2 ^ exponent`. -/
structure Parts where
  negative : Bool
  mantissa : Nat
  exponent : Int
  deriving DecidableEq, Repr

/-- The parts of a finite double. -/
def parts (x : Float) : Parts :=
  let b : Nat := x.toBits.toNat
  let biased : Nat := b / Nat.pow 2 52 % Nat.pow 2 11
  let fraction : Nat := b % Nat.pow 2 52
  { negative := Nat.pow 2 63 ≤ b
    mantissa := if biased = 0 then fraction else fraction + Nat.pow 2 52
    exponent := if biased = 0 then -1074 else Int.ofNat biased - 1075 }

/-- Is the number equal to an integer, whatever the size of the integer? -/
def eqInt (x : Float) (i : Int) : Bool :=
  if x.isNaN || x.isInf then false
  else
    let p := parts x
    let signed : Int := if p.negative then -(p.mantissa : Int) else p.mantissa
    match p.exponent with
    | .ofNat k => signed * Int.pow 2 k == i
    | .negSucc k => signed == i * Int.pow 2 (k + 1)

/-- The integer that a double equals, if it is finite and has no fraction. -/
def toInt? (x : Float) : Option Int :=
  if x.isNaN || x.isInf then none
  else
    let p := parts x
    let signed : Int := if p.negative then -(p.mantissa : Int) else p.mantissa
    match p.exponent with
    | .ofNat k => some (signed * Int.pow 2 k)
    | .negSucc k =>
      if p.mantissa % Nat.pow 2 (k + 1) = 0 then some (signed / Int.pow 2 (k + 1)) else none

/-! ## The fewest digits -/

/-- The decimal exponent of the leading digit of `num / den`, found from below in `fuel` steps for
    a quotient smaller than one. -/
def leadingExponent (num den : Nat) : Int :=
  if den ≤ num then ((Nat.toDigits 10 (num / den)).length : Int) - 1
  else
    -- the first power of ten that lifts the quotient to one
    let rec lift (fuel k scaled : Nat) : Int :=
      match fuel with
      | 0 => -(k : Int)
      | fuel + 1 => if den ≤ scaled then -(k : Int) else lift fuel (k + 1) (10 * scaled)
    lift 400 0 num

/-- A positive double as an interval: every real strictly between `low` and `high` (over `den`)
    reads back as it, and the ends do so when `closed` holds. -/
structure Interval where
  low : Nat
  value : Nat
  high : Nat
  den : Nat
  closed : Bool

/-- The interval of a positive double. -/
def Interval.of (p : Parts) : Interval :=
  -- the gap below a power of two is half the gap above it
  let below := if p.mantissa = Nat.pow 2 52 ∧ p.exponent ≠ -1074 then 1 else 2
  let scale : Nat := match p.exponent with
    | .ofNat k => Nat.pow 2 k
    | .negSucc _ => 1
  let den : Nat := match p.exponent with
    | .ofNat _ => 4
    | .negSucc k => 4 * Nat.pow 2 (k + 1)
  { low := (4 * p.mantissa - below) * scale
    value := 4 * p.mantissa * scale
    high := (4 * p.mantissa + 2) * scale
    den := den
    closed := p.mantissa % 2 = 0 }

/-- Does `digits · 10 ^ k` lie in the interval? -/
def Interval.holds (i : Interval) (digits : Nat) (k : Int) : Bool :=
  let (point, unit) : Nat × Nat := match k with
    | .ofNat e => (digits * Nat.pow 10 e * i.den, 1)
    | .negSucc e => (digits * i.den, Nat.pow 10 (e + 1))
  if i.closed then decide (i.low * unit ≤ point ∧ point ≤ i.high * unit)
  else decide (i.low * unit < point ∧ point < i.high * unit)

/-- The digits on the grid `10 ^ k` that read back, the nearest ones first. -/
def Interval.onGrid? (i : Interval) (k : Int) : Option Nat :=
  let (num, unit) : Nat × Nat := match k with
    | .ofNat e => (i.value, i.den * Nat.pow 10 e)
    | .negSucc e => (i.value * Nat.pow 10 (e + 1), i.den)
  let below := num / unit
  let rest := num % unit
  let above := below + 1
  let nearFirst :=
    if 2 * rest < unit ∨ (2 * rest = unit ∧ below % 2 = 0) then [below, above]
    else [above, below]
  nearFirst.find? fun d => i.holds d k

/-- The first grid with a hit, from one digit on. -/
def Interval.search (i : Interval) (leading : Int) : Nat → Nat → Nat × Int
  | 0, n => (i.value / i.den, leading - n + 1)
  | fuel + 1, n =>
    let k := leading - n + 1
    match i.onGrid? k with
    | some d => (d, k)
    | none => i.search leading fuel (n + 1)

/-- The fewest digits that determine a positive double, and the power of ten of the last one. -/
def shortest (p : Parts) : Nat × Int :=
  let i := Interval.of p
  i.search (leadingExponent i.value i.den) 17 1

/-! ## Written form -/

/-- Digits without trailing zeros, and how many were cut off. -/
def dropZeros (ds : Text) : Text × Nat :=
  let kept := Text.trimEnd (· = '0') ds
  (kept, ds.length - kept.length)

/-- The text of `digits` (with no trailing zero) whose decimal point stands after `point` digits. -/
def layout (ds : Text) (point : Int) : Text :=
  if -4 < point ∧ point ≤ 16 then
    match point with
    | .ofNat k =>
      if k = 0 then "0.".toList ++ ds
      else if ds.length ≤ k then ds ++ List.replicate (k - ds.length) '0' ++ ".0".toList
      else ds.take k ++ '.' :: ds.drop k
    | .negSucc k => "0.".toList ++ List.replicate (k + 1) '0' ++ ds
  else
    let fraction := match ds.drop 1 with
      | [] => []
      | more => '.' :: more
    let power := point - 1
    let sign := if power < 0 then '-' else '+'
    ds.take 1 ++ fraction ++ 'e' :: sign :: Text.padZeros 2 (Text.ofNat power.natAbs)

/-- The shortest text that reads back as the double. -/
def text (x : Float) : Text :=
  if x.isNaN then "nan"
  else if x.isInf then (if x < 0 then "-inf" else "inf")
  else
    let p := parts x
    let body : Text :=
      if p.mantissa = 0 then "0.0"
      else
        let (d, k) := shortest p
        let (ds, cut) := dropZeros (Text.ofNat d)
        layout ds (ds.length + k + cut)
    if p.negative then '-' :: body else body

/-! ## Reading -/

/-- The double nearest to `mantissa · 10 ^ exponent`. -/
def ofDecimal (mantissa : Nat) (exponent : Int) : Float :=
  if mantissa = 0 then 0.0
  else
    let size := ((Nat.toDigits 10 mantissa).length : Int) + exponent
    if 400 < size then 1.0 / 0.0
    else if size < -400 then 0.0
    else match exponent with
      | .ofNat e => Float.ofScientific mantissa false e
      | .negSucc e => Float.ofScientific mantissa true (e + 1)

/-- The text without underscores, when each of them stands between two digits. -/
def dropUnderscores? (afterDigit : Bool) : Text → Option Text
  | [] => some []
  | '_' :: c :: rest =>
    if afterDigit ∧ isDigit c then (dropUnderscores? true rest).map (c :: ·) else none
  | ['_'] => none
  | c :: rest => (dropUnderscores? (isDigit c) rest).map (c :: ·)

/-- The value of an exponent part: nothing, or `e`, an optional sign and digits. -/
def exponent? : Text → Option Int
  | [] => some 0
  | e :: rest =>
    if e = 'e' ∨ e = 'E' then
      let (negative, ds) := Numeral.sign rest
      if ds.isEmpty ∨ !ds.all isDigit then none
      else (Numeral.digits? 10 ds).map fun n => if negative then -(n : Int) else n
    else none

/-- The value of an unsigned decimal numeral. -/
def unsigned? (t : Text) : Option Float :=
  let whole := t.takeWhile isDigit
  let rest := t.dropWhile isDigit
  let (fraction, rest) := match rest with
    | '.' :: more => (more.takeWhile isDigit, more.dropWhile isDigit)
    | _ => ([], rest)
  let ds := whole ++ fraction
  if ds.isEmpty then none
  else do
    let e ← exponent? rest
    let m ← Numeral.digits? 10 ds
    pure (ofDecimal m (e - fraction.length))

/-- The double of a plain numeral: a decimal with optional fraction and exponent, or a name of
    infinity or of no number, with an optional sign. -/
def plain? (t : Text) : Option Float := do
  let (negative, rest) := Numeral.sign t
  let name := Text.lowerAscii rest
  let x ←
    if name = "inf".toList ∨ name = "infinity".toList then some (1.0 / 0.0)
    else if name = "nan".toList then some (0.0 / 0.0)
    else unsigned? rest
  pure (if negative then -x else x)

/-- The double of a numeral, with single underscores between digits and white space around the
    whole; digits of any script count. -/
def read? (t : Text) : Option Float :=
  (dropUnderscores? false (Text.trim Numeral.isPadding (Numeral.asciiForm t))).bind plain?

/-- The double nearest to an integer, or `none` when the integer is beyond the doubles. -/
def ofInt? (i : Int) : Option Float :=
  let x := ofDecimal i.natAbs 0
  if x.isInf then none else some (if i < 0 then -x else x)

end PlaybookAssist.Real64
