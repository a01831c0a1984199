import PlaybookAssist.Calendar
import PlaybookAssist.Number.Real
import PlaybookAssist.Text.Quoted

/-!
# Values

The data that documents, variable files, settings and requests are made of. A mapping is a list of
pairs in the order in which its keys were first given.

A collection of a document may hold itself. Such a collection is a `knot`: its content with a name,
in which it occurs again and again as a knot of the same name, as deep as anyone looks.

## Main definitions

- `Value` : scalars, sequences, sets and mappings
- `Value.content` : a value without the name that it may have
- `Value.isEndless` : whether a value holds itself
- `Value.sameKey` : when two values are one key; numbers are compared by value, whatever their kind
- `Mapping.get?`, `Mapping.set`, `Mapping.ofPairs` : look-up and insertion by key
- `Value.isTruthy` : whether a value counts as something
- `Value.display` : the text of a value, collections with their elements in literal form
-/

namespace PlaybookAssist

/-- A datum. -/
inductive Value where
  | null
  | bool (b : Bool)
  | int (i : Int)
  | float (x : Float)
  /-- No number. As a key it is the same only as the one with the same mark. -/
  | nan (mark : Nat)
  | str (t : Text)
  | date (d : Date)
  | dateTime (t : DateTime)
  | bytes (bs : Octets)
  | list (xs : List Value)
  | tuple (xs : List Value)
  | set (xs : List Value)
  | map (pairs : List (Value × Value))
  /-- A collection that may hold itself. -/
  | knot (name : Nat) (content : Value)
  deriving Repr, Inhabited

/-- The pairs of a mapping, in the order in which the keys were first given. -/
abbrev Mapping := List (Value × Value)

namespace Value

/-! ## Kinds -/

/-- The value without the name that it may have. -/
def content : Value → Value
  | .knot _ v => v.content
  | v => v

/-- The elements of a list. -/
def asList? (v : Value) : Option (List Value) :=
  match v.content with
  | .list xs => some xs
  | _ => none

/-- The pairs of a mapping. -/
def asMap? (v : Value) : Option Mapping :=
  match v.content with
  | .map ps => some ps
  | _ => none

/-- The text of a string. -/
def asText? : Value → Option Text
  | .str t => some t
  | _ => none

/-- Is the value something rather than nothing: not null, false, zero or empty? -/
def isTruthy : Value → Bool
  | .null => false
  | .bool b => b
  | .int i => i != 0
  | .float x => !(x == 0.0)
  | .nan _ => true
  | .str t => !t.isEmpty
  | .date _ | .dateTime _ => true
  | .bytes bs => !bs.isEmpty
  | .list xs | .tuple xs | .set xs => !xs.isEmpty
  | .map ps => !ps.isEmpty
  | .knot _ v => v.isTruthy

/-- The name of the kind of a value. -/
def className : Value → Text
  | .null => "NoneType"
  | .bool _ => "bool"
  | .int _ => "int"
  | .float _ | .nan _ => "float"
  | .str _ => "str"
  | .date _ => "date"
  | .dateTime _ => "datetime"
  | .bytes _ => "bytes"
  | .list _ => "list"
  | .tuple _ => "tuple"
  | .set _ => "set"
  | .map _ => "dict"
  | .knot _ v => v.className

/-- The full name of the kind of a value. -/
def kindName (v : Value) : Text :=
  match v with
  | .date _ | .dateTime _ => "datetime.".toList ++ v.className
  | _ => v.className

/-! ## Keys -/

/-- The integer that a truth value counts as. -/
def ofBool (b : Bool) : Int :=
  if b then 1 else 0

mutual

/-- Are two values the same key? Truth values and numbers are compared by value, and points in time by
    instant. -/
def sameKey : Value → Value → Bool
  | .null, .null => true
  | .bool a, .bool b => a == b
  | .bool a, .int j => ofBool a == j
  | .int i, .bool b => i == ofBool b
  | .bool a, .float y => Real64.eqInt y (ofBool a)
  | .float x, .bool b => Real64.eqInt x (ofBool b)
  | .int i, .int j => i == j
  | .int i, .float y => Real64.eqInt y i
  | .float x, .int j => Real64.eqInt x j
  | .float x, .float y => x == y
  | .nan m, .nan n => m == n
  | .str a, .str b => a == b
  | .date a, .date b => a == b
  | .dateTime a, .dateTime b => a.sameInstant b
  | .bytes a, .bytes b => a == b
  | .tuple xs, .tuple ys => sameKeys xs ys
  | _, _ => false

/-- Are two sequences the same key, element by element? -/
def sameKeys : List Value → List Value → Bool
  | [], [] => true
  | x :: xs, y :: ys => sameKey x y && sameKeys xs ys
  | _, _ => false

end

end Value

namespace Mapping

/-- The value stored under a key. -/
def get? (key : Value) : Mapping → Option Value
  | [] => none
  | (k, v) :: rest => if Value.sameKey k key then some v else get? key rest

/-- The value stored under a text. -/
def find? (key : Text) (m : Mapping) : Option Value :=
  get? (.str key) m

/-- Is there a pair with this text as its key? -/
def hasKey (key : Text) (m : Mapping) : Bool :=
  (find? key m).isSome

/-- The pairs in which the key has the value; a key that is there keeps its place and its own
    form. -/
def set {α : Type} (key : Value) (value : α) : List (Value × α) → List (Value × α)
  | [] => [(key, value)]
  | (k, v) :: rest =>
    if Value.sameKey k key then (k, value) :: rest else (k, v) :: set key value rest

/-- The pairs with different keys that a sequence of pairs makes, entered one after the other. -/
def ofPairs {α : Type} (ps : List (Value × α)) : List (Value × α) :=
  ps.foldl (fun m p => set p.1 p.2 m) []

/-- The mapping from texts given by pairs with different keys. -/
def ofTexts (ps : List (Text × Value)) : Mapping :=
  ps.map fun p => (.str p.1, p.2)

end Mapping

namespace Value

/-- The elements in order, each only the first time. -/
def distinct (xs : List Value) : List Value :=
  xs.foldl (fun seen x => if seen.any (sameKey · x) then seen else seen ++ [x]) []

/-! ## The text of a value -/

/-- The constructor form in which a date is shown inside a collection. -/
def dateLiteral (d : Date) : Text :=
  "datetime.date(".toList ++ Text.joinWith ", " ([d.year, d.month, d.day].map Text.ofNat)
    ++ ")".toList

/-- An offset as the literal of a duration: days below zero and the seconds above them. -/
def durationLiteral (minutes : Int) : Text :=
  let seconds := 60 * minutes
  let days := seconds / 86400
  let rest := seconds % 86400
  let daysPart : List Text :=
    if days = 0 then [] else ["days=".toList ++ Text.ofInt days]
  let restPart : List Text :=
    if rest = 0 then [] else ["seconds=".toList ++ Text.ofInt rest]
  let inner := match daysPart ++ restPart with
    | [] => "0".toList
    | parts => Text.joinWith ", " parts
  "datetime.timedelta(".toList ++ inner ++ ")".toList

/-- The constructor form in which a point in time is shown inside a collection. -/
def dateTimeLiteral (t : DateTime) : Text :=
  let fields := [t.date.year, t.date.month, t.date.day, t.hour, t.minute]
    ++ (if t.second = 0 ∧ t.microsecond = 0 then [] else [t.second])
    ++ (if t.microsecond = 0 then [] else [t.microsecond])
  let zone : List Text := match t.offset with
    | none => []
    | some 0 => ["tzinfo=datetime.timezone.utc"]
    | some minutes =>
      ["tzinfo=datetime.timezone(".toList ++ durationLiteral minutes ++ ")".toList]
  "datetime.datetime(".toList ++ Text.joinWith ", " (fields.map Text.ofNat ++ zone) ++ ")".toList

/-- Texts with a comma between them, inside brackets. -/
def bracketed (opening closing : Char) (parts : List Text) : Text :=
  opening :: Text.joinWith ", " parts ++ [closing]

/-- What stands for a collection inside itself. -/
def ellipsis : Value → Text
  | .list _ => "[...]"
  | .map _ => "\x7b...\x7d"
  | .knot _ v => v.ellipsis
  | _ => "..."

mutual

/-- The literal form of a value inside the knots of the given names. -/
def literalIn (around : List Nat) : Value → Text
  | .null => "None"
  | .bool true => "True"
  | .bool false => "False"
  | .int i => Text.ofInt i
  | .float x => Real64.text x
  | .nan _ => "nan"
  | .str t => t.quoted
  | .date d => dateLiteral d
  | .dateTime t => dateTimeLiteral t
  | .bytes bs => Octets.quoted bs
  | .list xs => bracketed '[' ']' (literalsIn around xs)
  | .tuple [x] => '(' :: literalIn around x ++ [',', ')']
  | .tuple xs => bracketed '(' ')' (literalsIn around xs)
  | .set [] => "set()"
  | .set xs => bracketed '\x7b' '\x7d' (literalsIn around xs)
  | .map ps => bracketed '\x7b' '\x7d' (pairLiteralsIn around ps)
  | .knot n v => if around.elem n then v.ellipsis else literalIn (n :: around) v

/-- The literal forms of the elements. -/
def literalsIn (around : List Nat) : List Value → List Text
  | [] => []
  | x :: xs => literalIn around x :: literalsIn around xs

/-- The literal forms of the pairs. -/
def pairLiteralsIn (around : List Nat) : List (Value × Value) → List Text
  | [] => []
  | (k, v) :: ps =>
    (literalIn around k ++ ':' :: ' ' :: literalIn around v) :: pairLiteralsIn around ps

end

/-- The literal form of a value, as it stands inside a collection. -/
def literal (v : Value) : Text :=
  literalIn [] v

/-- The text of a value: a string stands for itself, a date or time is written out, everything else
    has its literal form. -/
def display : Value → Text
  | .str t => t
  | .date d => d.isoText
  | .dateTime t => t.plainText
  | v => literal v

/-! ## What a value holds -/

mutual

/-- Does a scalar of the value pass the test? A knot inside itself is not looked into again, but
    counts as `isKnot`. -/
def hasScalarIn (test : Value → Bool) (isKnot : Bool) (around : List Nat) : Value → Bool
  | .list xs | .tuple xs | .set xs => anyHasScalarIn test isKnot around xs
  | .map ps => anyPairHasScalarIn test isKnot around ps
  | .knot n v =>
    if around.elem n then isKnot else hasScalarIn test isKnot (n :: around) v
  | v => test v

/-- Does a scalar of one of the values pass the test? -/
def anyHasScalarIn (test : Value → Bool) (isKnot : Bool) (around : List Nat) : List Value → Bool
  | [] => false
  | x :: xs => hasScalarIn test isKnot around x || anyHasScalarIn test isKnot around xs

/-- Does a scalar of one of the pairs pass the test? -/
def anyPairHasScalarIn (test : Value → Bool) (isKnot : Bool) (around : List Nat) :
    List (Value × Value) → Bool
  | [] => false
  | (k, v) :: ps =>
    hasScalarIn test isKnot around k || hasScalarIn test isKnot around v
      || anyPairHasScalarIn test isKnot around ps

end

/-- Does the value hold itself somewhere? -/
def isEndless (v : Value) : Bool :=
  hasScalarIn (fun _ => false) true [] v

/-- Does the value hold an integer with too many digits to be written? -/
def hasLongInteger (v : Value) : Bool :=
  hasScalarIn (fun x => match x with
    | .int i => Integer.isTooLong i
    | _ => false) false [] v

end Value

end PlaybookAssist
