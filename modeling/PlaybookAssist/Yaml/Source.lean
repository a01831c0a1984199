import PlaybookAssist.Text.Stream
import PlaybookAssist.Yaml.Token

/-!
# The text of a document

A file is read in blocks, each when the words before it have been found. So what is wrong with a later
block counts only if nothing is wrong with the document before it.

## Main definitions

- `Yaml.Source` : a text as far as it can be read, and what is found wrong after it
- `Source.ofText`, `Source.ofOctets` : the source that a text is, and that the octets of a file are
-/

namespace PlaybookAssist.Yaml

/-- A text as far as it can be read. -/
structure Source where
  text : Text
  /-- What is found wrong by reading on, unless the text just ends. -/
  ending : Option Fault
  deriving DecidableEq, Repr

namespace Source

/-- A source of which nothing can be read. -/
def unreadable (f : Fault) : Source :=
  ⟨[], some f⟩

/-- A text that is at hand as a whole. -/
def ofText (t : Text) : Source :=
  if t.all isAllowed then ⟨t, none⟩ else unreadable .malformed

/-- The source of the blocks of a stream after the text that was read before, in at most `fuel`
    blocks. -/
def afterBlocks : Nat → Text → TextStream → Source
  | 0, before, _ => ⟨before, none⟩
  | fuel + 1, before, s =>
    match s.readBlock with
    | .error fault => ⟨before, some (.undecodable fault)⟩
    | .ok (block, s) =>
      if block.isEmpty then ⟨before, none⟩
      else if block.all isAllowed then afterBlocks fuel (before ++ block) s
      else ⟨before, some .malformed⟩

/-- The source that the octets of a file are. Its first two blocks are read before anything else. -/
def ofOctets (bs : Octets) : Source :=
  let start := do
    let (first, s) ← (TextStream.ofOctets bs).readBlock
    let (second, s) ← s.readBlock
    pure (first ++ second, s)
  match start with
  | .error fault => unreadable (.undecodable fault)
  | .ok (t, s) =>
    if t.all isAllowed then afterBlocks (bs.length + 1) t s else unreadable .malformed

end Source

end PlaybookAssist.Yaml
