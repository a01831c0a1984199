import PlaybookAssist.Text

/-!
# UTF-8

Octet sequences and the text they spell. A sequence is first cut into pieces, each a character or a
longest run of octets that begins a character and cannot end one; the three ways to decode differ
only in what they make of the bad pieces.

## Main definitions

- `Utf8.encode` : the octets of a text
- `Utf8.pieces` : characters and bad runs, in order
- `Utf8.decode` : the text, or the first bad run
- `Utf8.decodeReplacing`, `Utf8.decodeDropping` : the text with a replacement character for each bad
  run, or without them
-/

namespace PlaybookAssist

/-- A sequence of octets. -/
abbrev Octets := List UInt8

namespace Utf8

/-- The octets of a text. -/
def encode (t : Text) : Octets :=
  t.flatMap String.utf8EncodeChar

/-! ## Pieces -/

/-- Why a run of octets spells no character. -/
inductive Reason where
  /-- No character begins with this octet. -/
  | badStart
  /-- An octet that should continue a character does not. -/
  | badContinuation
  /-- The octets end inside a character. -/
  | unexpectedEnd
  /-- Any of these. -/
  | invalid
  deriving DecidableEq, Repr

/-- The wording of a reason. -/
def Reason.message : Reason → Text
  | .badStart => "invalid start byte"
  | .badContinuation => "invalid continuation byte"
  | .unexpectedEnd => "unexpected end of data"
  | .invalid => "invalid utf-8"

/-- A character, or a run of octets that spells none. -/
inductive Piece where
  | char (c : Char)
  | bad (octets : Octets) (reason : Reason)
  deriving DecidableEq, Repr

/-- A character of which some octets have been read. -/
structure Unfinished where
  /-- The octets read, the latest first. -/
  seen : Octets
  /-- How many octets are still to come after the next one. -/
  later : Nat
  /-- The least octet that may come next. -/
  low : UInt8
  /-- The greatest octet that may come next. -/
  high : UInt8
  /-- The bits read so far. -/
  bits : Nat
  deriving Repr

/-- What a first octet begins. -/
inductive Start where
  | whole (c : Char)
  | first (u : Unfinished)
  | invalid
  deriving Repr

/-- What the octet `b` begins; the ranges keep out overlong forms, surrogates and what lies beyond
    the last code point. -/
def start (b : UInt8) : Start :=
  let n := b.toNat
  if n < 0x80 then .whole (Char.ofNat n)
  else if n < 0xc2 then .invalid
  else if n < 0xe0 then .first ⟨[b], 0, 0x80, 0xbf, n - 0xc0⟩
  else if n = 0xe0 then .first ⟨[b], 1, 0xa0, 0xbf, n - 0xe0⟩
  else if n = 0xed then .first ⟨[b], 1, 0x80, 0x9f, n - 0xe0⟩
  else if n < 0xf0 then .first ⟨[b], 1, 0x80, 0xbf, n - 0xe0⟩
  else if n = 0xf0 then .first ⟨[b], 2, 0x90, 0xbf, n - 0xf0⟩
  else if n < 0xf4 then .first ⟨[b], 2, 0x80, 0xbf, n - 0xf0⟩
  else if n = 0xf4 then .first ⟨[b], 2, 0x80, 0x8f, n - 0xf0⟩
  else .invalid

/-- The pieces of the octets that follow an unfinished character, or of the octets alone. -/
def piecesFrom : Option Unfinished → Octets → List Piece
  | none, [] => []
  | some u, [] => [.bad u.seen.reverse .unexpectedEnd]
  | none, b :: rest =>
    match start b with
    | .whole c => .char c :: piecesFrom none rest
    | .first u => piecesFrom (some u) rest
    | .invalid => .bad [b] .badStart :: piecesFrom none rest
  | some u, b :: rest =>
    if u.low ≤ b ∧ b ≤ u.high then
      let bits := 64 * u.bits + (b.toNat - 0x80)
      match u.later with
      | 0 => .char (Char.ofNat bits) :: piecesFrom none rest
      | k + 1 => piecesFrom (some ⟨b :: u.seen, k, 0x80, 0xbf, bits⟩) rest
    else
      .bad u.seen.reverse .badContinuation ::
        match start b with
        | .whole c => .char c :: piecesFrom none rest
        | .first v => piecesFrom (some v) rest
        | .invalid => .bad [b] .badStart :: piecesFrom none rest

/-- The characters and bad runs of a sequence of octets, in order. -/
def pieces (bs : Octets) : List Piece :=
  piecesFrom none bs

/-! ## Decoding -/

/-- The first run of octets that spells no character. -/
structure Fault where
  /-- The number of octets before the run. -/
  position : Nat
  octets : Octets
  reason : Reason
  deriving DecidableEq, Repr

/-- The wording of a fault: which octets, where, and why. -/
def Fault.message (f : Fault) : Text :=
  let place : Text :=
    match f.octets with
    | [b] => "byte 0x".toList ++ Text.hex 2 b.toNat ++ " in position ".toList
        ++ Text.ofNat f.position
    | bs => "bytes in position ".toList ++ Text.ofNat f.position ++ "-".toList
        ++ Text.ofNat (f.position + bs.length - 1)
  "'utf-8' codec can't decode ".toList ++ place ++ ": ".toList ++ f.reason.message

/-- The text of the pieces, when all of them are characters; `position` octets precede them. -/
def textOfPieces (position : Nat) : List Piece → Except Fault Text
  | [] => .ok []
  | .char c :: rest =>
    (textOfPieces (position + (String.utf8EncodeChar c).length) rest).map (c :: ·)
  | .bad bs reason :: _ => .error ⟨position, bs, reason⟩

/-- The text that the octets spell, or the first run that spells no character. -/
def decode (bs : Octets) : Except Fault Text :=
  textOfPieces 0 (pieces bs)

/-- The text that the octets spell, with U+FFFD for each bad run. -/
def decodeReplacing (bs : Octets) : Text :=
  (pieces bs).map fun
    | .char c => c
    | .bad _ _ => Char.ofNat 0xfffd

/-- The text that the octets spell, bad runs left out. -/
def decodeDropping (bs : Octets) : Text :=
  (pieces bs).filterMap fun
    | .char c => some c
    | .bad _ _ => none

end Utf8

end PlaybookAssist
