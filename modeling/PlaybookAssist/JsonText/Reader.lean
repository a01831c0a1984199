import PlaybookAssist.Failure
import PlaybookAssist.Value

/-!
# Reading JSON

The octets of an answer are UTF-8, UTF-16 or UTF-32, recognised by a byte order mark or by the zeros
among the first octets. A number with a fraction or exponent is a double, any other an integer; of
equal names in an object the last value counts.

## Main definitions

- `JsonText.Encoding.detect` : the encoding of some octets
- `JsonText.read?` : the value of a text, if it is JSON
- `JsonText.readOctets` : the value of some octets
-/

namespace PlaybookAssist.JsonText

/-! ## Encodings -/

/-- How octets spell text. -/
inductive Encoding where
  | utf8
  /-- UTF-8 after a byte order mark. -/
  | markedUtf8
  | utf16 (highFirst : Bool)
  /-- UTF-16 after a byte order mark. -/
  | markedUtf16 (highFirst : Bool)
  | utf32 (highFirst : Bool)
  /-- UTF-32 after a byte order mark. -/
  | markedUtf32 (highFirst : Bool)
  deriving DecidableEq, Repr

namespace Encoding

/-- The encoding of some octets. -/
def detect (bs : Octets) : Encoding :=
  match bs with
  | 0x00 :: 0x00 :: 0xfe :: 0xff :: _ => .markedUtf32 true
  | 0xff :: 0xfe :: 0x00 :: 0x00 :: _ => .markedUtf32 false
  | 0xfe :: 0xff :: _ => .markedUtf16 true
  | 0xff :: 0xfe :: _ => .markedUtf16 false
  | 0xef :: 0xbb :: 0xbf :: _ => .markedUtf8
  | a :: b :: c :: d :: _ =>
    if a = 0 then (if b ≠ 0 then .utf16 true else .utf32 true)
    else if b = 0 then (if c ≠ 0 ∨ d ≠ 0 then .utf16 false else .utf32 false)
    else .utf8
  | [a, b] => if a = 0 then .utf16 true else if b = 0 then .utf16 false else .utf8
  | _ => .utf8

/-- The number of two octets. -/
def unit16 (highFirst : Bool) (a b : UInt8) : Nat :=
  if highFirst then 256 * a.toNat + b.toNat else 256 * b.toNat + a.toNat

/-- The units of UTF-16, if the octets are even in number. -/
def units? (highFirst : Bool) : Octets → Option (List Nat)
  | [] => some []
  | [_] => none
  | a :: b :: rest => (units? highFirst rest).map (unit16 highFirst a b :: ·)

/-- The characters of UTF-16 units. -/
def ofUnits : List Nat → Text
  | [] => []
  | [u] => [Surrogate.charOf u]
  | u :: v :: rest =>
    if 0xd800 ≤ u ∧ u < 0xdc00 ∧ 0xdc00 ≤ v ∧ v < 0xe000 then
      Char.ofNat (0x10000 + (u - 0xd800) * 0x400 + (v - 0xdc00)) :: ofUnits rest
    else Surrogate.charOf u :: ofUnits (v :: rest)

/-- The characters of UTF-32, if the octets come in groups of four that name code points. -/
def ofQuads? (highFirst : Bool) : Octets → Option Text
  | [] => some []
  | a :: b :: c :: d :: rest =>
    let n :=
      if highFirst then 65536 * unit16 true a b + unit16 true c d
      else 65536 * unit16 false c d + unit16 false a b
    if 0x10ffff < n then none else (ofQuads? highFirst rest).map (Surrogate.charOf n :: ·)
  | _ => none

/-- The text of UTF-8 octets, which may spell unpaired surrogates. -/
def ofUtf8 (bs : Octets) : Except Failure Text :=
  (Utf8.decodePassing bs).mapError .undecodable

/-- The text that octets spell in an encoding. -/
def decode (e : Encoding) (bs : Octets) : Except Failure Text :=
  let ofOption (name : Text) : Option Text → Except Failure Text
    | some t => .ok t
    | none => .error (.undecodableAs name)
  match e with
  | .utf8 => ofUtf8 bs
  | .markedUtf8 => ofUtf8 (bs.drop 3)
  | .utf16 h => ofOption "utf-16" ((units? h bs).map ofUnits)
  | .markedUtf16 h => ofOption "utf-16" ((units? h (bs.drop 2)).map ofUnits)
  | .utf32 h => ofOption "utf-32" (ofQuads? h bs)
  | .markedUtf32 h => ofOption "utf-32" (ofQuads? h (bs.drop 4))

end Encoding

/-! ## Values -/

/-- Why a text has no value. -/
inductive ReadFault where
  | notJson
  /-- An integer has more digits than may be converted. -/
  | tooManyDigits (count : Nat)
  deriving DecidableEq, Repr

/-- The text without the white space that JSON knows at its front. -/
def skipSpace (t : Text) : Text :=
  t.dropWhile fun c => c = ' ' || c = '\t' || c = '\n' || c = '\r'

/-- The unit that four hexadecimal digits give, and what follows them. -/
def unit? (t : Text) : Option (Nat × Text) :=
  if t.length < 4 then none else (Text.ofHex? (t.take 4)).map fun n => (n, t.drop 4)

/-- The character that a backslash and this character stand for. -/
def shortEscapeOf? (c : Char) : Option Char :=
  if c = doubleQuote ∨ c = backslash ∨ c = '/' then some c
  else if c = 'b' then some (Char.ofNat 0x08)
  else if c = 'f' then some (Char.ofNat 0x0c)
  else if c = 'n' then some '\n'
  else if c = 'r' then some '\r'
  else if c = 't' then some '\t'
  else none

/-- The rest of a string after `acc` (the latest character first), and what follows the string. -/
def readString : Nat → Text → Text → Option (Text × Text)
  | 0, _, _ => none
  | _, _, [] => none
  | fuel + 1, acc, c :: rest =>
    if c = doubleQuote then some (acc.reverse, rest)
    else if c.toNat < 0x20 then none
    else if c = backslash then
      match rest with
      | [] => none
      | e :: rest =>
        if e = 'u' then
          match unit? rest with
          | none => none
          | some (u, rest) =>
            let second := if 0xd800 ≤ u ∧ u < 0xdc00 then
                match rest with
                | b :: 'u' :: more => if b = backslash then unit? more else none
                | _ => none
              else none
            match second with
            | some (v, after) =>
              if 0xdc00 ≤ v ∧ v < 0xe000 then
                readString fuel
                  (Char.ofNat (0x10000 + (u - 0xd800) * 0x400 + (v - 0xdc00)) :: acc) after
              else readString fuel (Surrogate.charOf u :: acc) rest
            | none => readString fuel (Surrogate.charOf u :: acc) rest
        else match shortEscapeOf? e with
          | some ch => readString fuel (ch :: acc) rest
          | none => none
    else readString fuel (c :: acc) rest

/-- The number at the front of a text, and what follows it. -/
def readNumber (t : Text) : Except ReadFault (Value × Text) :=
  let (negative, unsigned) := match t with
    | '-' :: rest => (true, rest)
    | _ => (false, t)
  let whole := match unsigned with
    | '0' :: _ => ['0']
    | _ => unsigned.takeWhile isDigit
  if whole.isEmpty then .error .notJson
  else
    let rest := unsigned.drop whole.length
    let fraction := match rest with
      | '.' :: more => more.takeWhile isDigit
      | _ => []
    let rest := if fraction.isEmpty then rest else rest.drop (fraction.length + 1)
    let (exponent, rest) := match rest with
      | e :: more =>
        if e = 'e' ∨ e = 'E' then
          let (minus, ds) := Numeral.sign more
          let digits := ds.takeWhile isDigit
          if digits.isEmpty then (none, rest)
          else (some (minus, digits), ds.drop digits.length)
        else (none, rest)
      | [] => (none, rest)
    let number (ds : Text) : Nat := ds.foldl (fun n d => 10 * n + digitValue d) 0
    match fraction, exponent with
    | [], none =>
      if Integer.digitLimit < whole.length then .error (.tooManyDigits whole.length)
      else
        let n : Int := number whole
        .ok (.int (if negative then -n else n), rest)
    | _, _ =>
      let power : Int := match exponent with
        | some (true, ds) => -(number ds : Int)
        | some (false, ds) => number ds
        | none => 0
      let x := Real64.ofDecimal (number (whole ++ fraction)) (power - fraction.length)
      .ok (.float (if negative then -x else x), rest)

/-- The names of values, each with its value. -/
def namedValues : List (Text × Value) :=
  [("null", .null), ("true", .bool true), ("false", .bool false), ("NaN", .nan 0),
   ("Infinity", .float (1.0 / 0.0)), ("-Infinity", .float (-(1.0 / 0.0)))]

/-- The named value at the front of a text, and what follows it. -/
def readName? (t : Text) : Option (Value × Text) :=
  namedValues.findSome? fun n => (Text.dropStart? n.1 t).map fun rest => (n.2, rest)

mutual

/-- The value at the front of a text, and what follows it. -/
def readValue : Nat → Text → Except ReadFault (Value × Text)
  | 0, _ => .error .notJson
  | fuel + 1, t =>
    match t with
    | [] => .error .notJson
    | c :: rest =>
      if c = doubleQuote then
        match readString (rest.length + 1) [] rest with
        | some (s, rest) => .ok (.str s, rest)
        | none => .error .notJson
      else if c = '[' then readElements fuel true [] rest
      else if c = '\x7b' then readPairs fuel true [] rest
      else match readName? t with
        | some r => .ok r
        | none => readNumber t

/-- The rest of an array after `acc` (the latest element first), and what follows the array. -/
def readElements : Nat → Bool → List Value → Text → Except ReadFault (Value × Text)
  | 0, _, _, _ => .error .notJson
  | fuel + 1, isFirst, acc, t =>
    let t := skipSpace t
    match t with
    | [] => .error .notJson
    | c :: rest =>
      if c = ']' ∧ isFirst then .ok (.list [], rest)
      else do
        let (v, t) ← readValue fuel t
        match skipSpace t with
        | ',' :: rest => readElements fuel false (v :: acc) rest
        | ']' :: rest => .ok (.list (v :: acc).reverse, rest)
        | _ => throw .notJson

/-- The rest of an object after the pairs so far, and what follows the object. -/
def readPairs : Nat → Bool → Mapping → Text → Except ReadFault (Value × Text)
  | 0, _, _, _ => .error .notJson
  | fuel + 1, isFirst, acc, t =>
    match skipSpace t with
    | [] => .error .notJson
    | c :: rest =>
      if c = '\x7d' ∧ isFirst then .ok (.map [], rest)
      else if c = doubleQuote then
        match readString (rest.length + 1) [] rest with
        | none => .error .notJson
        | some (name, rest) =>
          match skipSpace rest with
          | ':' :: rest => do
            let (v, t) ← readValue fuel (skipSpace rest)
            let acc := Mapping.set (.str name) v acc
            match skipSpace t with
            | ',' :: rest => readPairs fuel false acc rest
            | '\x7d' :: rest => .ok (.map acc, rest)
            | _ => throw .notJson
          | _ => .error .notJson
      else .error .notJson

end

/-- The value of a text, which holds nothing else but white space. -/
def readText (t : Text) : Except ReadFault Value := do
  let (v, rest) ← readValue (2 * t.length + 2) (skipSpace t)
  if (skipSpace rest).isEmpty then pure v else throw .notJson

/-- The value of some octets, or nothing when their text is no JSON. -/
def readOctets (bs : Octets) : Except Failure (Option Value) := do
  let t ← (Encoding.detect bs).decode bs
  match readText t with
  | .ok v => pure (some v)
  | .error .notJson => pure none
  | .error (.tooManyDigits count) => throw (.badValue (Integer.limitText (some count)))

end PlaybookAssist.JsonText
