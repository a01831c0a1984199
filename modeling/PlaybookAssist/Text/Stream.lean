import PlaybookAssist.Text.Utf8

/-!
# Text that is read in blocks

The octets of a file are decoded chunk by chunk, as many chunks as the next block of text takes. What
is wrong with an octet comes out with the block that needs its chunk, and its position counts from the
first octet that had not been decoded then.

## Main definitions

- `Text.normaliseBreaks` : a text with a line feed for every line end
- `TextStream` : octets of which some have been decoded
- `TextStream.readBlock` : the next block of text
-/

namespace PlaybookAssist

/-- The text with a line feed for every line end. -/
def Text.normaliseBreaks : Text → Text
  | '\r' :: '\n' :: rest => '\n' :: normaliseBreaks rest
  | '\r' :: rest => '\n' :: normaliseBreaks rest
  | c :: rest => c :: normaliseBreaks rest
  | [] => []

/-- The octets of a text, partly decoded. -/
structure TextStream where
  /-- The octets that have not been taken yet. -/
  rest : Octets
  /-- The octets taken that begin a character without ending it. -/
  unfinished : Octets
  /-- Was a carriage return taken that a line feed may follow? -/
  afterReturn : Bool
  /-- The characters decoded, with a line feed for every line end, that have not been read. -/
  ready : Text
  /-- How many octets the last chunk had. -/
  chunkOctets : Nat
  /-- How many characters the last chunk gave. -/
  chunkChars : Nat
  deriving Repr

namespace TextStream

/-- How many characters a block has; only the last one has fewer. -/
def blockLength : Nat := 4096

/-- How many octets a chunk has at least, except for the last one. -/
def chunkLength : Nat := 8192

/-- The stream of some octets. -/
def ofOctets (bs : Octets) : TextStream :=
  ⟨bs, [], false, [], 0, 0⟩

/-- The number of octets to take for some more characters, judged by the chunk before. -/
def chunkFor (s : TextStream) (chars : Nat) : Nat :=
  if s.chunkChars = 0 then chunkLength
  else max chunkLength (s.chunkOctets * chars / s.chunkChars)

/-- The text that some octets begin with and the octets that begin its next character; with `isLast`
    no character may be left unfinished. -/
def decodeChunk (isLast : Bool) (bs : Octets) : Except Utf8.Fault (Text × Octets) :=
  match Utf8.decode bs with
  | .ok t => .ok (t, [])
  | .error fault =>
    if fault.reason = .unexpectedEnd ∧ !isLast then
      (Utf8.decode (bs.take fault.position)).map fun t => (t, fault.octets)
    else .error fault

/-- The stream after one chunk of at most the given number of octets; the empty chunk is the last
    one. -/
def takeChunk (s : TextStream) (n : Nat) : Except Utf8.Fault TextStream := do
  let chunk := s.rest.take n
  let isLast := chunk.isEmpty
  let (t, unfinished) ← decodeChunk isLast (s.unfinished ++ chunk)
  let t := if s.afterReturn then '\r' :: t else t
  let afterReturn := !isLast && t.getLast? == some '\r'
  let t := Text.normaliseBreaks (if afterReturn then t.dropLast else t)
  pure { rest := s.rest.drop n, unfinished, afterReturn, ready := s.ready ++ t,
         chunkOctets := chunk.length, chunkChars := t.length }

/-- The stream with a block of text ready, or with all that is left of the text, after at most `fuel`
    chunks. -/
def fillBlock : Nat → TextStream → Except Utf8.Fault TextStream
  | 0, s => .ok s
  | fuel + 1, s =>
    let ready := s.ready.length
    if blockLength ≤ ready then .ok s
    else do
      let s' ← s.takeChunk (s.chunkFor (blockLength - ready))
      if s.rest.isEmpty && s'.ready.length = ready then pure s' else fillBlock fuel s'

/-- The next block of text, empty at the end of the text, and the stream after it. -/
def readBlock (s : TextStream) : Except Utf8.Fault (Text × TextStream) := do
  let s ← fillBlock (s.rest.length + 2) s
  pure (s.ready.take blockLength, { s with ready := s.ready.drop blockLength })

end TextStream

end PlaybookAssist
