import PlaybookAssist.Number.Lenient
import PlaybookAssist.Schema.Issue
import PlaybookAssist.Table
import PlaybookAssist.Text.Surrogate
import PlaybookAssist.Value

/-!
# Checking data

Data from settings and requests is taken generously: numbers and truth values may be written as
text, truth values count as numbers, and octets count as the text that they spell.

## Main definitions

- `Checked` : a result, or everything that is wrong with the data
- `Schema.text`, `Schema.truth`, `Schema.integer`, `Schema.real` : the checks of scalars
- `Schema.textMapping`, `Schema.textList`, `Schema.optional` : the checks of other values
- `Schema.required`, `Schema.withDefault` : the checks of fields, which may have several names
-/

namespace PlaybookAssist.Schema

/-- A result, or all issues in order. -/
abbrev Checked (α : Type) := Except (List Issue) α

/-- The issues of a result. -/
def Checked.issues {α : Type} : Checked α → List Issue
  | .ok _ => []
  | .error is => is

/-- A result with an issue about the value itself. -/
def fail {α : Type} (kind : IssueKind) : Checked α :=
  .error [⟨[], kind⟩]

/-- The issues of a part, seen from the whole. -/
def Checked.within {α : Type} (step : Step) : Checked α → Checked α
  | .ok a => .ok a
  | .error is => .error (is.map (Issue.within step))

/-! ## Scalars -/

/-- A text, also one that octets spell. -/
def text (v : Value) : Checked Text :=
  match v with
  | .str t => .ok t
  | .bytes bs =>
    match Utf8.decode bs with
    | .ok t => .ok t
    | .error _ => fail .undecodableString
  | _ => fail .notAString

/-- The text that a scalar is or spells in octets, which has to have a UTF-8 form: `unreadable` is
    the issue with octets that are none, `other` the one with a value of another kind. -/
def spelling (unreadable other : IssueKind) (v : Value) : Checked Text :=
  match v with
  | .str t => if (Surrogate.runs t).isEmpty then .ok t else fail .undecodableString
  | .bytes bs =>
    match Utf8.decode bs with
    | .ok t => .ok t
    | .error _ => fail unreadable
  | _ => fail other

/-- The words for a truth value. -/
def truthWords : List (Text × Bool) :=
  [("0", false), ("off", false), ("f", false), ("false", false), ("n", false), ("no", false),
   ("1", true), ("on", true), ("t", true), ("true", true), ("y", true), ("yes", true)]

/-- The truth value that an integer is. -/
def truthOfInt (i : Int) : Checked Bool :=
  if i = 0 then .ok false else if i = 1 then .ok true else fail .unknownBool

/-- Does the integer fit into 64 bits with a sign? -/
def fits64 (i : Int) : Bool :=
  -Int.pow 2 63 ≤ i && i < Int.pow 2 63

/-- The 64-bit integer that a double is, given that it is one at all. The least integer does not
    count: it is also what smaller doubles are cut to. -/
def within64? (i : Int) : Option Int :=
  if fits64 i && i ≠ -Int.pow 2 63 then some i else none

/-- The truth value that a text spells. -/
def truthOfText (t : Text) : Checked Bool :=
  match truthWords.lookup (Text.lowerAscii t) with
  | some b => .ok b
  | none => fail .unknownBool

/-- A truth value. -/
def truth (v : Value) : Checked Bool :=
  match v with
  | .bool b => .ok b
  | .int i => if fits64 i then truthOfInt i else fail .notABool
  | .float x =>
    match (Real64.toInt? x).bind within64? with
    | some i => truthOfInt i
    | none => fail .notABool
  | _ => spelling .unknownBool .notABool v >>= truthOfText

/-- The integer that a text spells. -/
def integerOfText (t : Text) : Checked Int :=
  match Lenient.integer t with
  | .ok i => .ok i
  | .error .notALiteral => fail .unreadableInt
  | .error (.tooManyDigits _) => fail .intTooLarge

/-- The integer that a double is. -/
def integerOfReal (x : Float) : Checked Int :=
  if x.isNaN || x.isInf then fail .notFinite
  else match Real64.toInt? x with
    | none => fail .fractionalInt
    | some i =>
      match within64? i with
      | some i => .ok i
      | none => fail .intTooLarge

/-- An integer. -/
def integer (v : Value) : Checked Int :=
  match v with
  | .int i => .ok i
  | .bool b => .ok (Value.ofBool b)
  | .float x => integerOfReal x
  | .nan _ => fail .notFinite
  | _ => spelling .unreadableInt .notAnInt v >>= integerOfText

/-- The number that a text spells. -/
def realOfText (t : Text) : Checked Float :=
  match Lenient.real? t with
  | some x => .ok x
  | none => fail .unreadableFloat

/-- A number. -/
def real (v : Value) : Checked Float :=
  match v with
  | .float x => .ok x
  | .nan _ => .ok (0.0 / 0.0)
  | .int i =>
    match Real64.ofInt? i with
    | some x => .ok x
    | none => fail .notAFloat
  | .bool b => .ok (if b then 1.0 else 0.0)
  | _ => spelling .unreadableFloat .notAFloat v >>= realOfText

/-- Null, or a value that passes the check. -/
def optional {α : Type} (check : Value → Checked α) (v : Value) : Checked (Option α) :=
  match v with
  | .null => .ok none
  | _ => (check v).map some

/-! ## Collections -/

/-- The step to what stands under a key. -/
def stepTo (key : Value) : Step :=
  match key with
  | .str t => .field t
  | .int i => if fits64 i then .index i else .field (Text.ofInt i)
  | .bool b => .index (Value.ofBool b)
  | k => .field k.literal

/-- The pairs with their keys as text, entered one after the other; every other key is an issue. -/
def textKeys : Table Value → Mapping → Checked (Table Value)
  | acc, [] => .ok acc
  | acc, (k, v) :: rest =>
    let key := ((text k).within (.field "[key]")).within (stepTo k)
    match key with
    | .ok t => textKeys (acc.set t v) rest
    | .error is => .error (is ++ (textKeys acc rest).issues)

/-- A mapping from texts. -/
def textMapping (v : Value) : Checked (Table Value) :=
  match v.content with
  | .map ps => textKeys [] ps
  | _ => fail .notAMapping

/-- The elements from position `n` on as texts. -/
def textsFrom (n : Nat) : List Value → Checked (List Text)
  | [] => .ok []
  | v :: vs =>
    let here := (text v).within (.index n)
    let others := textsFrom (n + 1) vs
    match here, others with
    | .ok t, .ok ts => .ok (t :: ts)
    | _, _ => .error (here.issues ++ others.issues)

/-- A list of texts. -/
def textList (v : Value) : Checked (List Text) :=
  match v.content with
  | .list xs | .tuple xs | .set xs => textsFrom 0 xs
  | _ => fail .notAList

/-! ## Fields -/

/-- The first of some names under which a mapping has a value, with that value. -/
def findField? (names : List Text) (m : Mapping) : Option (Text × Value) :=
  names.findSome? fun name => (Mapping.find? name m).map fun v => (name, v)

/-- A field that has to be there, under the first of its names if it is missing. -/
def required {α : Type} (check : Value → Checked α) (names : List Text) (m : Mapping) :
    Checked α :=
  match findField? names m with
  | some (name, v) => (check v).within (.field name)
  | none => .error [⟨[.field (names.headD [])], .missing⟩]

/-- A field that may be missing. -/
def withDefault {α : Type} (default : α) (check : Value → Checked α) (names : List Text)
    (m : Mapping) : Checked α :=
  match findField? names m with
  | some (name, v) => (check v).within (.field name)
  | none => .ok default

end PlaybookAssist.Schema
