import PlaybookAssist.Text

/-!
# Wildcard patterns

A pattern matches a whole text: `*` stands for any text, `?` for any character, `[...]` for one
character of a set or, after `!`, outside it. A bracket that is never closed stands for itself.

## Main definitions

- `Wildcard.parse` : the parts of a pattern
- `Wildcard.fits` : does a pattern match a text?
- `Wildcard.isPlain` : does a text stand for itself only?
-/

namespace PlaybookAssist.Wildcard

/-- A part of a pattern. -/
inductive Part where
  /-- Any text, also the empty one. -/
  | anyText
  /-- Any one character. -/
  | anyChar
  /-- One character inside the given closed ranges, or outside all of them. -/
  | oneOf (negated : Bool) (ranges : List (Char × Char))
  /-- The character itself. -/
  | exactly (c : Char)
  deriving DecidableEq, Repr

/-! ## Sets -/

/-- What stands between brackets, cut at the hyphens that join two ends of a range; `run` holds the
    characters since the last cut, the latest first, and a hyphen cuts only when `wait` characters
    have passed. -/
def chunksFrom (wait : Nat) (run : Text) : Text → List Text
  | [] => [run.reverse]
  | c :: rest =>
    match wait with
    | 0 => if c = '-' then run.reverse :: chunksFrom 2 [] rest else chunksFrom 0 (c :: run) rest
    | w + 1 => chunksFrom w (c :: run) rest

/-- The chunks with an empty last one turned into a hyphen at the end of the one before it. -/
def closeChunks : List Text → List Text
  | [] => []
  | [c] => [c]
  | [c, []] => [c ++ ['-']]
  | c :: cs => c :: closeChunks cs

/-- Neighbouring chunks whose range would be empty are joined without their ends. -/
def dropEmptyRanges : List Text → List Text
  | [] => []
  | c :: cs =>
    match dropEmptyRanges cs with
    | [] => [c]
    | d :: ds =>
      match c.getLast?, d.head? with
      | some hi, some lo => if lo < hi then (c.dropLast ++ d.drop 1) :: ds else c :: d :: ds
      | _, _ => c :: d :: ds

/-- The ranges of chunks: from the end of each to the start of the next, and single characters. -/
def rangesOf : List Text → List (Char × Char)
  | [] => []
  | [c] => c.map fun x => (x, x)
  | c :: d :: rest =>
    let bridge := match c.getLast?, d.head? with
      | some a, some b => [(a, b)]
      | _, _ => []
    c.map (fun x => (x, x)) ++ bridge ++ rangesOf (d :: rest)

/-- The part that stands for what is written between brackets. -/
def ofSet (body : Text) : Part :=
  let isNegated := body.head? == some '!'
  let wait := if isNegated then 2 else 1
  let chunks :=
    if body.elem '-' then dropEmptyRanges (closeChunks (chunksFrom wait [] body)) else [body]
  match chunks with
  | ('!' :: first) :: more =>
    match first, more with
    | [], [] => .anyChar
    | _, _ => .oneOf true (rangesOf (first :: more))
  | _ => .oneOf false (rangesOf chunks)

/-- The body of a set that a bracket opens and the pattern after it, if the bracket is closed. A
    closing bracket in first place belongs to the body. -/
def setBody? (t : Text) : Option (Text × Text) :=
  let (mark, afterMark) := match t with
    | '!' :: rest => (['!'], rest)
    | _ => ([], t)
  let (first, rest) := match afterMark with
    | ']' :: rest => ([']'], rest)
    | _ => ([], afterMark)
  match Text.cut ']' rest with
  | (more, some after) => some (mark ++ first ++ more, after)
  | (_, none) => none

/-! ## Patterns -/

/-- The parts of a pattern, read in at most `fuel` steps. -/
def parseFrom : Nat → Text → List Part
  | 0, _ => []
  | _, [] => []
  | fuel + 1, c :: rest =>
    if c = '*' then .anyText :: parseFrom fuel rest
    else if c = '?' then .anyChar :: parseFrom fuel rest
    else if c = '[' then
      match setBody? rest with
      | some (body, after) => ofSet body :: parseFrom fuel after
      | none => .exactly c :: parseFrom fuel rest
    else .exactly c :: parseFrom fuel rest

/-- The parts of a pattern. -/
def parse (pattern : Text) : List Part :=
  parseFrom pattern.length pattern

/-- Does a part match one character? -/
def Part.accepts : Part → Char → Bool
  | .anyText, _ => true
  | .anyChar, _ => true
  | .oneOf negated ranges, c => (ranges.any fun r => r.1 ≤ c && c ≤ r.2) != negated
  | .exactly d, c => c == d

/-- Does the text after some skipped characters match? The test `p` is tried at every place. -/
def someSuffix (p : Text → Bool) : Text → Bool
  | [] => p []
  | c :: rest => p (c :: rest) || someSuffix p rest

/-- Do the parts match the whole text? -/
def matchParts : List Part → Text → Bool
  | [], t => t.isEmpty
  | .anyText :: ps, t => someSuffix (matchParts ps) t
  | _ :: _, [] => false
  | p :: ps, c :: rest => p.accepts c && matchParts ps rest

/-- Does the pattern match the whole text? -/
def fits (pattern text : Text) : Bool :=
  matchParts (parse pattern) text

/-- Does the pattern hold none of the characters with a meaning of their own? -/
def isPlain (pattern : Text) : Bool :=
  !(pattern.any fun c => c = '*' || c = '?' || c = '[')

end PlaybookAssist.Wildcard
