import PlaybookAssist.Failure
import PlaybookAssist.Table
import PlaybookAssist.Value

/-!
# Plain data

A request carries plain data only: null, truth values, finite numbers, text, lists, and mappings
whose keys are texts. Every other value has a plain form.

## Main definitions

- `Value.plainKey` : the text that a key becomes
- `Value.plainIn` : the plain form of a value
- `Value.plainMapping` : the plain form of values under texts, nested no deeper than
  `Value.depthLimit`
-/

namespace PlaybookAssist.Value

/-- The text that octets spell. A fault is told by its first octet alone. -/
def spelling (bs : Octets) : Except Failure Text :=
  (Utf8.decode bs).mapError fun f => .undecodable ⟨f.position, f.octets.take 1, .invalid⟩

/-- A text that becomes a key of a mapping; it has to have a UTF-8 form. -/
def encodable (t : Text) : Except Failure Text :=
  match Surrogate.runs t with
  | [] => .ok t
  | run :: _ => .error (.unencodable run)

/-- The digits of an integer that becomes a key. -/
def digits (i : Int) : Except Failure Text :=
  if Integer.isTooLong i then .error (.badValue (Integer.limitText none)) else .ok (Text.ofInt i)

/-- Is the double infinite or no number? -/
def isBeyondNumbers (x : Float) : Bool :=
  x.isNaN || x.isInf

mutual

/-- The text that a key becomes. A key that is a sequence becomes the texts of its elements with
    commas between them. -/
def plainKey : Value → Except Failure Text
  | .null => .ok "None"
  | .bool b => .ok (if b then "true" else "false")
  | .int i => digits i
  | .float x => .ok (if isBeyondNumbers x then "None" else Real64.text x)
  | .nan _ => .ok "None"
  | .str t => encodable t
  | .date d => .ok d.isoText
  | .dateTime t => .ok t.zuluText
  | .bytes bs => spelling bs
  | .tuple xs => (plainKeys xs).map (Text.joinWith ",")
  | .list _ => .error (.wrongKind "a list is no key")
  | .set _ => .error (.wrongKind "a set is no key")
  | .map _ | .knot _ _ => .error (.wrongKind "a mapping is no key")

/-- The texts that some keys become. -/
def plainKeys : List Value → Except Failure (List Text)
  | [] => .ok []
  | x :: xs => do
    let t ← plainKey x
    pure (t :: (← plainKeys xs))

end

/-- How deep plain data may be nested. -/
def depthLimit : Nat := 255

mutual

/-- The plain form of a value inside the knots of the given names, with `room` for that many levels
    below it: dates and octets become text, all sequences lists, and what is no finite number
    null. -/
def plainIn (room : Nat) (around : List Nat) : Value → Except Failure Value
  | .null => .ok .null
  | .bool b => .ok (.bool b)
  | .int i => .ok (.int i)
  | .float x => .ok (if isBeyondNumbers x then .null else .float x)
  | .nan _ => .ok .null
  | .str t => .ok (.str t)
  | .date d => .ok (.str d.isoText)
  | .dateTime t => .ok (.str t.zuluText)
  | .bytes bs => (spelling bs).map .str
  | .list xs | .tuple xs | .set xs => (plainAll room around xs).map .list
  | .map ps => (plainPairs room around [] ps).map .map
  | .knot n v =>
    if around.elem n then .error (.badValue "Circular reference detected (id repeated)")
    else plainIn room (n :: around) v

/-- The plain forms of some values, one level down. -/
def plainAll (room : Nat) (around : List Nat) : List Value → Except Failure (List Value)
  | [] => .ok []
  | x :: xs =>
    match room with
    | 0 => .error (.badValue "Maximum serialization depth exceeded")
    | below + 1 => do
      let v ← plainIn below around x
      pure (v :: (← plainAll room around xs))

/-- The pairs with plain keys and values, one level down, entered one after the other among the given
    ones. Of two keys that become the same text the first one gives the place and the last one the
    value. -/
def plainPairs (room : Nat) (around : List Nat) (entered : Mapping) :
    List (Value × Value) → Except Failure Mapping
  | [] => .ok entered
  | (k, v) :: ps => do
    let key ← plainKey k
    match room with
    | 0 => throw (.badValue "Maximum serialization depth exceeded")
    | below + 1 =>
      let value ← plainIn below around v
      plainPairs room around (Mapping.set (.str key) value entered) ps

end

/-- Values under texts as plain data. These texts are known to be keys, and each of them becomes one:
    an unpaired surrogate is replaced, where in a mapping further down it is refused. -/
def plainMapping (t : Table Value) : Except Failure Mapping :=
  plainPairs depthLimit [] [] (Mapping.ofTexts (t.map fun p => (Surrogate.replaced p.1, p.2)))

end PlaybookAssist.Value
