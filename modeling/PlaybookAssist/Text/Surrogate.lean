import PlaybookAssist.Text.Utf8

/-!
# Unpaired surrogates

The code points from U+D800 to U+DFFF are no characters, but escapes in documents and answers can
spell them. A text holds such a code point as the private character that lies 0x100000 above it. These
stand-ins, U+10D800 to U+10DFFF, are characters like any other, so a text in which one of them means
itself cannot be told from a text with an unpaired surrogate. The block is left to private use and no
text is expected to hold it.

## Main definitions

- `Surrogate.standIn`, `Surrogate.code?` : from the code point to the character that holds it and back
- `Surrogate.runs` : where a text holds unpaired surrogates
- `Surrogate.replaced` : the text with replacement characters for them
- `Utf8.encodePath` : the octets of a path, in which the code points from U+DC80 to U+DCFF stand for
  octets that are no UTF-8
- `Utf8.decodePassing` : the text of octets that may spell unpaired surrogates
-/

namespace PlaybookAssist

namespace Surrogate

/-- Is the code point a surrogate? -/
def isCode (n : Nat) : Bool :=
  0xd800 ≤ n && n ≤ 0xdfff

/-- From a surrogate to the character that holds it. -/
def shift : Nat := 0x100000

/-- The character that holds a surrogate, one of the private characters U+10D800 to U+10DFFF. -/
def standIn (n : Nat) : Char :=
  Char.ofNat (n + shift)

/-- The surrogate that a character holds. A character from U+10D800 to U+10DFFF is always taken for a
    stand-in. -/
def code? (c : Char) : Option Nat :=
  if 0xd800 + shift ≤ c.toNat ∧ c.toNat ≤ 0xdfff + shift then some (c.toNat - shift) else none

/-- The code point of a character. -/
def codeOf (c : Char) : Nat :=
  (code? c).getD c.toNat

/-- The character of a code point. -/
def charOf (n : Nat) : Char :=
  if isCode n then standIn n else Char.ofNat n

/-- Neighbouring unpaired surrogates of a text. -/
structure Run where
  /-- How many code points precede them. -/
  position : Nat
  codes : List Nat
  deriving DecidableEq, Repr

/-- The runs of unpaired surrogates in a text after `position` code points, the first of which may
    continue the given codes (the latest first). -/
def runsFrom (position : Nat) (codes : List Nat) : Text → List Run
  | [] => if codes.isEmpty then [] else [⟨position - codes.length, codes.reverse⟩]
  | c :: rest =>
    match code? c with
    | some n => runsFrom (position + 1) (n :: codes) rest
    | none =>
      let others := runsFrom (position + 1) [] rest
      if codes.isEmpty then others else ⟨position - codes.length, codes.reverse⟩ :: others

/-- The runs of unpaired surrogates in a text. -/
def runs (t : Text) : List Run :=
  runsFrom 0 [] t

/-- The text with U+FFFD three times in the place of every unpaired surrogate: once for each of the
    octets that would spell it, none of which begins a character. -/
def replaced (t : Text) : Text :=
  t.flatMap fun c => if (code? c).isSome then List.replicate 3 '\ufffd' else [c]

/-- The wording of the refusal to encode unpaired surrogates. -/
def Run.message (r : Run) : Text :=
  let place : Text :=
    match r.codes with
    | [n] => "character '\\u".toList ++ Text.hex 4 n ++ "' in position ".toList
        ++ Text.ofNat r.position
    | ns => "characters in position ".toList ++ Text.ofNat r.position ++ "-".toList
        ++ Text.ofNat (r.position + ns.length - 1)
  "'utf-8' codec can't encode ".toList ++ place ++ ": surrogates not allowed".toList

end Surrogate

namespace Utf8

/-! ## Octets that spell surrogates -/

/-- The surrogate that three octets would spell if surrogates were characters. -/
def surrogateOf? (a b c : UInt8) : Option Nat :=
  if a = 0xed ∧ 0xa0 ≤ b ∧ b ≤ 0xbf ∧ 0x80 ≤ c ∧ c ≤ 0xbf then
    some (0xd000 + 64 * (b.toNat - 0x80) + (c.toNat - 0x80))
  else none

/-- The text of the pieces, of which three bad ones may make up a surrogate; `position` octets
    precede them. -/
def textPassing (position : Nat) : List Piece → Except Fault Text
  | [] => .ok []
  | .char c :: rest =>
    (textPassing (position + (String.utf8EncodeChar c).length) rest).map (c :: ·)
  | .bad [a] reason :: .bad [b] _ :: .bad [c] _ :: rest =>
    match surrogateOf? a b c with
    | some n => (textPassing (position + 3) rest).map (Surrogate.charOf n :: ·)
    | none => .error ⟨position, [a], reason⟩
  | .bad bs reason :: _ => .error ⟨position, bs, reason⟩

/-- The text that the octets spell, unpaired surrogates among its characters, or the first run that
    spells nothing. -/
def decodePassing (bs : Octets) : Except Fault Text :=
  textPassing 0 (pieces bs)

/-! ## Paths -/

/-- The octet that a code point stands for in a path, if it stands for one. -/
def escapedOctet? (n : Nat) : Option UInt8 :=
  if 0xdc80 ≤ n ∧ n ≤ 0xdcff then some (UInt8.ofNat (n - 0xdc00)) else none

/-- The part of a run that stands for no octets. -/
def unescapable? (r : Surrogate.Run) : Option Surrogate.Run :=
  let escaped := r.codes.takeWhile fun n => (escapedOctet? n).isSome
  match r.codes.drop escaped.length with
  | [] => none
  | codes => some ⟨r.position + escaped.length, codes⟩

/-- The octets of a path, or the first surrogates that stand for none. -/
def encodePath (path : Text) : Except Surrogate.Run Octets :=
  match (Surrogate.runs path).findSome? unescapable? with
  | some r => .error r
  | none =>
    .ok (path.flatMap fun c =>
      match (Surrogate.code? c).bind escapedOctet? with
      | some b => [b]
      | none => String.utf8EncodeChar c)

end Utf8

end PlaybookAssist
