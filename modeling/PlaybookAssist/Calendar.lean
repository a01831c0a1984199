import PlaybookAssist.Text

/-!
# Dates and times

Days of the proleptic Gregorian calendar from year 1 to year 9999, and points in time on such a
day with an optional offset from universal time.

## Main definitions

- `Date`, `DateTime` : a day; a day with a time of day and perhaps an offset
- `Date.check`, `DateTime.check` : what is wrong with the numbers of a date or time, if anything
- `DateTime.sameInstant` : two points in time with an offset are the same when they name one instant
- `Date.isoText`, `DateTime.isoText` : the written forms
-/

namespace PlaybookAssist

/-- A day of the calendar. -/
structure Date where
  year : Nat
  month : Nat
  day : Nat
  deriving DecidableEq, Repr

/-- A time on a day; `offset` is the distance from universal time in minutes, if one is known. -/
structure DateTime where
  date : Date
  hour : Nat
  minute : Nat
  second : Nat
  microsecond : Nat
  offset : Option Int
  deriving DecidableEq, Repr

namespace Date

/-- Is the year one with 366 days? -/
def isLeapYear (year : Nat) : Bool :=
  year % 4 = 0 ∧ (year % 100 ≠ 0 ∨ year % 400 = 0)

/-- The number of days of a month. -/
def daysInMonth (year month : Nat) : Nat :=
  if month = 2 then (if isLeapYear year then 29 else 28)
  else if month = 4 ∨ month = 6 ∨ month = 9 ∨ month = 11 then 30
  else 31

/-- What is wrong with the numbers of a date, if anything. -/
def check (d : Date) : Option Text :=
  if d.year < 1 ∨ 9999 < d.year then
    some ("year ".toList ++ Text.ofNat d.year ++ " is out of range".toList)
  else if d.month < 1 ∨ 12 < d.month then some "month must be in 1..12"
  else if d.day < 1 ∨ daysInMonth d.year d.month < d.day then
    some "day is out of range for month"
  else none

/-- The number of days from the first day of year 1, which has number 1. -/
def ordinal (d : Date) : Nat :=
  let y := d.year - 1
  let whole := 365 * y + y / 4 - y / 100 + y / 400
  let before := (List.range (d.month - 1)).foldl (fun days m => days + daysInMonth d.year (m + 1)) 0
  whole + before + d.day

/-- The written form `YYYY-MM-DD`. -/
def isoText (d : Date) : Text :=
  Text.padZeros 4 (Text.ofNat d.year) ++ '-' :: Text.padZeros 2 (Text.ofNat d.month)
    ++ '-' :: Text.padZeros 2 (Text.ofNat d.day)

end Date

namespace DateTime

/-- What is wrong with the numbers of a date and time, if anything. -/
def check (t : DateTime) : Option Text :=
  match t.date.check with
  | some problem => some problem
  | none =>
    if 23 < t.hour then some "hour must be in 0..23"
    else if 59 < t.minute then some "minute must be in 0..59"
    else if 59 < t.second then some "second must be in 0..59"
    else none

/-- The microseconds from the start of year 1 to a time of day, its offset left aside. -/
def localMicroseconds (t : DateTime) : Int :=
  (((t.date.ordinal * 24 + t.hour) * 60 + t.minute) * 60 + t.second : Int) * 1000000
    + t.microsecond

/-- Do two points in time name the same instant? One with an offset and one without never do. -/
def sameInstant (s t : DateTime) : Bool :=
  match s.offset, t.offset with
  | none, none => s.localMicroseconds == t.localMicroseconds
  | some a, some b =>
    s.localMicroseconds - a * 60000000 == t.localMicroseconds - b * 60000000
  | _, _ => false

/-- The written form of an offset, `+HH:MM` or `-HH:MM`. -/
def offsetText (minutes : Int) : Text :=
  let size := minutes.natAbs
  (if minutes < 0 then '-' else '+') :: Text.padZeros 2 (Text.ofNat (size / 60))
    ++ ':' :: Text.padZeros 2 (Text.ofNat (size % 60))

/-- The day and time of day with the given text between them, microseconds only when there are
    any. -/
def localText (between : Char) (t : DateTime) : Text :=
  t.date.isoText ++ between :: Text.padZeros 2 (Text.ofNat t.hour)
    ++ ':' :: Text.padZeros 2 (Text.ofNat t.minute)
    ++ ':' :: Text.padZeros 2 (Text.ofNat t.second)
    ++ (if t.microsecond = 0 then []
        else '.' :: Text.padZeros 6 (Text.ofNat t.microsecond))

/-- The written form with `T` between day and time and the offset at the end. -/
def isoText (t : DateTime) : Text :=
  t.localText 'T' ++ (match t.offset with
    | none => []
    | some minutes => offsetText minutes)

/-- The written form with a blank between day and time and the offset at the end. -/
def plainText (t : DateTime) : Text :=
  t.localText ' ' ++ (match t.offset with
    | none => []
    | some minutes => offsetText minutes)

/-- The written form in which universal time is `Z`. -/
def zuluText (t : DateTime) : Text :=
  t.localText 'T' ++ (match t.offset with
    | none => []
    | some 0 => ['Z']
    | some minutes => offsetText minutes)

end DateTime

end PlaybookAssist
