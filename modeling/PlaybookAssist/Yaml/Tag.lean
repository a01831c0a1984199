import PlaybookAssist.Text.Case
import PlaybookAssist.Value
import PlaybookAssist.Yaml.Token

/-!
# Kinds of scalars

Every node of a document has a tag that says what it is. A plain scalar without one is a truth
value, number, point in time or nothing when it looks like one, and text otherwise.

## Main definitions

- `Tag` : the tags that have a meaning here
- `Tag.ofPlain` : the tag of a plain scalar, from its looks
- `Tag.scalarValue` : the value of a scalar of a given tag
-/

namespace PlaybookAssist.Yaml

/-- The kinds of nodes. -/
inductive Tag where
  | null
  | bool
  | int
  | float
  | binary
  | timestamp
  | str
  | seq
  | map
  | set
  | omap
  | pairs
  /-- The key `<<`, under which mappings to be merged stand. -/
  | merge
  /-- The key `=`, under which the value of a mapping read as a scalar stands. -/
  | value
  /-- A tag without a meaning. -/
  | other (name : Text)
  deriving DecidableEq, Repr, Inhabited

namespace Tag

/-- The start of the tags of the language itself. -/
def languageStart : Text := "tag:yaml.org,2002:"

/-- The tags of the language itself by their last part. -/
def named : List (Text × Tag) :=
  [("null", .null), ("bool", .bool), ("int", .int), ("float", .float), ("binary", .binary),
   ("timestamp", .timestamp), ("str", .str), ("seq", .seq), ("map", .map), ("set", .set),
   ("omap", .omap), ("pairs", .pairs), ("merge", .merge), ("value", .value)]

/-- The tag of the given full name. -/
def ofName (name : Text) : Tag :=
  match Text.dropStart? languageStart name with
  | some last => (named.lookup last).getD (.other name)
  | none => .other name

/-! ## Looks of a plain scalar -/

/-- The words for a truth value, each with its meaning. -/
def truthWords : List (Text × Bool) :=
  [("yes", true), ("no", false), ("true", true), ("false", false), ("on", true), ("off", false)]

/-- A word in small letters, with a capital and in capitals. -/
def spellings (word : Text) : List Text :=
  let capital := word.map Char.toUpper
  [word, capital.take 1 ++ word.drop 1, capital]

/-- Does the text look like a truth value? -/
def looksBool (t : Text) : Bool :=
  truthWords.any fun w => (spellings w.1).elem t

/-- Does the text look like nothing? -/
def looksNull (t : Text) : Bool :=
  t.isEmpty || t = ['~'] || (spellings "null").elem t

/-- Is the text a digit and then digits and underscores? -/
def isDigitRun (t : Text) : Bool :=
  match t with
  | [] => false
  | c :: rest => isDigit c && rest.all fun d => isDigit d || d = '_'

/-- Is the text a digit, or two of which the first is below six? -/
def isSixtieth (t : Text) : Bool :=
  match t with
  | [b] => isDigit b
  | [a, b] => '0' ≤ a && a ≤ '5' && isDigit b
  | _ => false

/-- Is the text empty or an exponent with a sign? -/
def isSignedExponent (t : Text) : Bool :=
  match t with
  | [] => true
  | e :: s :: ds => (e = 'e' || e = 'E') && (s = '-' || s = '+') && !ds.isEmpty && ds.all isDigit
  | _ => false

/-- Does the text look like a whole number in base 2, 8, 10, 16 or 60? -/
def looksInt (t : Text) : Bool :=
  let body := (Numeral.sign t).2
  match body with
  | ['0'] => true
  | '0' :: 'b' :: ds => !ds.isEmpty && ds.all fun d => d = '0' || d = '1' || d = '_'
  | '0' :: 'x' :: ds => !ds.isEmpty && ds.all fun d => (Text.hexValue? d).isSome || d = '_'
  | '0' :: ds => ds.all fun d => ('0' ≤ d && d ≤ '7') || d = '_'
  | _ =>
    match Text.splitOn ':' body with
    | [] => false
    | whole :: sixtieths => isDigitRun whole && sixtieths.all isSixtieth

/-- Does the text look like a number with a fraction, an infinity or no number? -/
def looksFloat (t : Text) : Bool :=
  let body := (Numeral.sign t).2
  let unsigned := body = t
  match Text.cut '.' body with
  | (_, none) => false
  | ([], some name) =>
    (spellings "inf").elem name
      || (unsigned && ["nan".toList, "NaN".toList, "NAN".toList].elem name)
      || (unsigned && (name.head?.map isDigit).getD false
        && isSignedExponent (name.dropWhile fun d => isDigit d || d = '_'))
  | (whole, some fraction) =>
    match Text.splitOn ':' whole with
    | [w] => isDigitRun w && isSignedExponent (fraction.dropWhile fun d => isDigit d || d = '_')
    | [] => false
    | w :: sixtieths =>
      isDigitRun w && sixtieths.all isSixtieth && fraction.all fun d => isDigit d || d = '_'

/-! ## Points in time -/

/-- The parts of a written date or time. -/
structure Timestamp where
  year : Text
  month : Text
  day : Text
  /-- Hour, minute, second and fraction of a second. -/
  time : Option (Text × Text × Text × Text)
  /-- Sign, hours and minutes of the offset; universal time has none of them. -/
  zone : Option (Option (Char × Text × Text))
  deriving DecidableEq, Repr

/-- One or two digits and what follows them. -/
def oneOrTwoDigits? (t : Text) : Option (Text × Text) :=
  let ds := (t.take 2).takeWhile isDigit
  if ds.isEmpty then none else some (ds, t.drop ds.length)

/-- Exactly `n` digits and what follows them. -/
def digits? (n : Nat) (t : Text) : Option (Text × Text) :=
  let ds := (t.take n).takeWhile isDigit
  if ds.length = n then some (ds, t.drop n) else none

/-- What follows the given character. -/
def after? (c : Char) : Text → Option Text
  | [] => none
  | d :: rest => if d = c then some rest else none

/-- The offset that the text is, if it is one: `Z`, or a sign, hours and perhaps minutes. -/
def zone? (t : Text) : Option (Option (Char × Text × Text)) :=
  match t with
  | ['Z'] => some none
  | s :: rest =>
    if s = '-' ∨ s = '+' then do
      let (hours, rest) ← oneOrTwoDigits? rest
      match rest with
      | [] => pure (some (s, hours, []))
      | _ => do
        let (minutes, rest) ← digits? 2 (← after? ':' rest)
        if rest.isEmpty then pure (some (s, hours, minutes)) else none
    else none
  | [] => none

/-- The time of day after a date, from the text between them on. -/
def timeOfDay? (t : Text) :
    Option ((Text × Text × Text × Text) × Option (Option (Char × Text × Text))) := do
  let isGap (c : Char) : Bool := c = ' ' || c = '\t'
  let start ← match t with
    | 'T' :: rest => some rest
    | 't' :: rest => some rest
    | c :: rest => if isGap c then some (rest.dropWhile isGap) else none
    | [] => none
  let (hour, rest) ← oneOrTwoDigits? start
  let (minute, rest) ← digits? 2 (← after? ':' rest)
  let (second, rest) ← digits? 2 (← after? ':' rest)
  let (fraction, rest) := match rest with
    | '.' :: more => (more.takeWhile isDigit, more.dropWhile isDigit)
    | _ => ([], rest)
  match rest with
  | [] => pure ((hour, minute, second, fraction), none)
  | _ => do
    let zone ← zone? (rest.dropWhile isGap)
    pure ((hour, minute, second, fraction), some zone)

/-- The parts of a written date or time, if the text is one. -/
def timestamp? (t : Text) : Option Timestamp := do
  let (year, rest) ← digits? 4 t
  let (month, rest) ← oneOrTwoDigits? (← after? '-' rest)
  let (day, rest) ← oneOrTwoDigits? (← after? '-' rest)
  match rest with
  | [] => pure ⟨year, month, day, none, none⟩
  | _ => do
    let (time, zone) ← timeOfDay? rest
    pure ⟨year, month, day, some time, zone⟩

/-- Does the text look like a date or time? A date alone has two digits for month and day. -/
def looksTimestamp (t : Text) : Bool :=
  match timestamp? t with
  | some s => s.time.isSome || (s.month.length = 2 && s.day.length = 2)
  | none => false

/-- The text without one line feed at its end. -/
def dropFinalBreak (t : Text) : Text :=
  if t.getLast? == some '\n' then t.dropLast else t

/-- The tag of a plain scalar. A line feed at the very end does not count. -/
def ofPlain (t : Text) : Tag :=
  let body := dropFinalBreak t
  if body.isEmpty && !t.isEmpty then .str
  else if looksBool body then .bool
  else if looksFloat body then .float
  else if looksInt body then .int
  else if body = "<<".toList then .merge
  else if looksNull body then .null
  else if looksTimestamp body then .timestamp
  else if body = ['='] then .value
  else if body = ['!'] ∨ body = ['&'] ∨ body = ['*'] then .other "tag:yaml.org,2002:yaml"
  else .str

/-! ## Values of scalars -/

/-- The integer that a literal of the base stands for. -/
def integer (base : Nat) (t : Text) : Except Fault Int :=
  (Integer.read base t).mapError fun f => .badScalar (f.message base t.quoted)

/-- The number whose parts, the last one first, count sixtieths of the next. -/
def sexagesimal (parts : List Int) : Int :=
  parts.foldr (fun d acc => d + 60 * acc) 0

/-- A numeral without its underscores, its sign, and the rest. -/
def signed (t : Text) : Except Fault (Bool × Text) :=
  match t.filter (· ≠ '_') with
  | [] => .error .emptyNumber
  | t => .ok (Numeral.sign t)

/-- The value of an integer. -/
def intValue (t : Text) : Except Fault Value := do
  let (negative, body) ← signed t
  let size ←
    match body with
    | [] => throw .emptyNumber
    | ['0'] => pure 0
    | '0' :: 'b' :: ds => integer 2 ds
    | '0' :: 'x' :: ds => integer 16 ds
    | '0' :: _ => integer 8 body
    | _ =>
      if body.elem ':' then do
        let parts ← (Text.splitOn ':' body).mapM (integer 10)
        pure (sexagesimal parts.reverse)
      else integer 10 body
  pure (.int (if negative then -size else size))

/-- The double that a numeral stands for. -/
def real (t : Text) : Except Fault Float :=
  match Real64.read? t with
  | some x => .ok x
  | none => .error (.badScalar ("could not convert string to float: ".toList ++ t.quoted))

/-- The sum of the parts, the last one first, each counting sixtieths of the next; `unit` is what
    the next part counts. -/
def sexagesimalReal (unit : Nat) (sum : Float) : List Float → Except Fault Float
  | [] => .ok sum
  | d :: ds =>
    match Real64.ofInt? unit with
    | some u => sexagesimalReal (60 * unit) (sum + d * u) ds
    | none => .error (.numberTooLarge "int too large to convert to float")

/-- The mark that all scalars written `.nan` share. -/
def commonMark : Nat := 0

/-- The value of a number with a fraction; a numeral that gives no number has the given mark. -/
def floatValue (mark : Nat) (t : Text) : Except Fault Value := do
  let (negative, body) ← signed (Text.lower t)
  if body = ".nan".toList then pure (.nan commonMark)
  else
    let size ←
      if body = ".inf".toList then pure (1.0 / 0.0)
      else if body.elem ':' then do
        let parts ← (Text.splitOn ':' body).mapM real
        sexagesimalReal 1 0.0 parts.reverse
      else real body
    pure (if size.isNaN then .nan mark else .float (if negative then -size else size))

/-- The number that digits stand for. -/
def number (t : Text) : Nat :=
  t.foldl (fun n d => 10 * n + digitValue d) 0

/-- The offset from universal time in minutes, which must be less than a day. -/
def offset (zone : Option (Char × Text × Text)) : Except Fault Int :=
  match zone with
  | none => .ok 0
  | some (sign, hours, minutes) =>
    let size : Int := number hours * 60 + number minutes
    let signed := if sign = '-' then -size else size
    if 24 * 60 ≤ size then
      .error (.badScalar ("offset must be a timedelta strictly between ".toList
        ++ "-timedelta(hours=24) and timedelta(hours=24), not ".toList
        ++ Value.durationLiteral signed ++ ['.']))
    else .ok signed

/-- The date or time that a text stands for. -/
def timestampValue (t : Text) : Except Fault Value := do
  match timestamp? (dropFinalBreak t) with
  | none => throw .notATimestamp
  | some s =>
    let date : Date := ⟨number s.year, number s.month, number s.day⟩
    match s.time with
    | none =>
      match date.check with
      | some problem => throw (.badScalar problem)
      | none => pure (.date date)
    | some (hour, minute, second, fraction) =>
      let micro := (fraction ++ List.replicate 6 '0').take 6
      let zone ← match s.zone with
        | none => pure none
        | some z => some <$> offset z
      let time : DateTime :=
        ⟨date, number hour, number minute, number second, number micro, zone⟩
      match time.check with
      | some problem => throw (.badScalar problem)
      | none => pure (.dateTime time)

/-- The value of a truth value. -/
def boolValue (t : Text) : Except Fault Value :=
  let word := Text.lower t
  match truthWords.lookup word with
  | some b => .ok (.bool b)
  | none => .error (.unknownTruthValue word)

/-- The value of a digit of base 64. -/
def base64Value? (c : Char) : Option Nat :=
  if 'A' ≤ c ∧ c ≤ 'Z' then some (c.toNat - 'A'.toNat)
  else if 'a' ≤ c ∧ c ≤ 'z' then some (c.toNat - 'a'.toNat + 26)
  else if '0' ≤ c ∧ c ≤ '9' then some (c.toNat - '0'.toNat + 52)
  else if c = '+' then some 62
  else if c = '/' then some 63
  else none

/-- The octets of base 64 digits in groups of four; `place` counts the digits of the open group,
    `left` holds their unused bits and `pads` counts the padding since the last digit. Other
    characters are passed over. -/
def base64From (place left pads : Nat) : Text → Option Octets
  | [] => if place = 0 then some [] else none
  | c :: rest =>
    if c = '=' then
      if 2 ≤ place then
        if 4 ≤ place + (pads + 1) then some [] else base64From place left (pads + 1) rest
      else base64From place left pads rest
    else match base64Value? c with
      | none => base64From place left pads rest
      | some v =>
        if place = 0 then base64From 1 v 0 rest
        else if place = 1 then
          (base64From 2 (v % 16) 0 rest).map (UInt8.ofNat (left * 4 + v / 16) :: ·)
        else if place = 2 then
          (base64From 3 (v % 4) 0 rest).map (UInt8.ofNat (left * 16 + v / 4) :: ·)
        else (base64From 0 0 0 rest).map (UInt8.ofNat (left * 64 + v) :: ·)

/-- The value of binary data. -/
def binaryValue (t : Text) : Except Fault Value :=
  if t.any fun c => 0x80 ≤ c.toNat then .error .malformed
  else match base64From 0 0 0 t with
    | some bs => .ok (.bytes bs)
    | none => .error .malformed

/-- The value of a scalar of a given tag. A tag of a collection, a key with a meaning of its own or
    a tag without meaning has none. -/
def scalarValue (tag : Tag) (mark : Nat) (t : Text) : Except Fault Value :=
  match tag with
  | .null => .ok .null
  | .bool => boolValue t
  | .int => intValue t
  | .float => floatValue mark t
  | .binary => binaryValue t
  | .timestamp => timestampValue t
  | .str => .ok (.str t)
  | _ => .error .malformed

end Tag

end PlaybookAssist.Yaml
