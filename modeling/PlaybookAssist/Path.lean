import PlaybookAssist.Text

/-!
# Paths

Paths are text with `/` between their components. A path of a normal form has no empty component, no
`.`, and `..` only at the front of a relative path; exactly two slashes at the front are a root of
their own.

## Main definitions

- `Path.join`, `Path.parent`, `Path.name` : putting paths together and taking them apart
- `Place` : the directories that paths are seen from
- `Path.normalise`, `Path.absolute` : the normal form, of the path itself or below the working
  directory
- `Path.relativeTo` : the way from one directory to a path
- `Path.isWithin` : is a path a directory itself or something below it?
-/

namespace PlaybookAssist

namespace Path

/-- Does the path start at the root? -/
def isAbsolute (p : Text) : Bool :=
  p.head? == some '/'

/-! ## Composition -/

/-- The path `q` seen from the directory `p`. -/
def join (p q : Text) : Text :=
  if isAbsolute q then q
  else if p.isEmpty || p.getLast? == some '/' then p ++ q
  else p ++ '/' :: q

/-- The path up to and including its last slash, and what follows. -/
def splitLast (p : Text) : Text × Text :=
  let tail := (p.reverse.takeWhile (· ≠ '/')).reverse
  (p.take (p.length - tail.length), tail)

/-- The directory part of a path, without slashes at its end unless it consists of slashes. -/
def parent (p : Text) : Text :=
  let head := (splitLast p).1
  let trimmed := Text.trimEnd (· = '/') head
  if trimmed.isEmpty then head else trimmed

/-- The last component of a path; empty when the path ends with a slash. -/
def name (p : Text) : Text :=
  (splitLast p).2

/-! ## Normal form -/

/-- The slashes that a path of normal form begins with. -/
def root (p : Text) : Text :=
  match p with
  | '/' :: '/' :: '/' :: _ => "/"
  | '/' :: '/' :: _ => "//"
  | '/' :: _ => "/"
  | _ => []

/-- One step along a path; `taken` holds the components so far, the latest first. A step up undoes
    the latest component, is kept at the front of a relative path and is lost at the root. -/
def step (rooted : Bool) (taken : List Text) (component : Text) : List Text :=
  if component = [] ∨ component = ['.'] then taken
  else if component = ['.', '.'] then
    match taken with
    | [] => if rooted then [] else [component]
    | latest :: earlier => if latest = ['.', '.'] then component :: taken else earlier
  else component :: taken

/-- The components of the normal form of a path. -/
def components (p : Text) : List Text :=
  ((Text.splitOn '/' p).foldl (step (isAbsolute p)) []).reverse

/-- The normal form of a path; a path without components is the current directory. -/
def normalise (p : Text) : Text :=
  let q := root p ++ Text.joinWith "/" (components p)
  if q.isEmpty then ['.'] else q

end Path

/-- Where a program runs. -/
class Place where
  /-- The directory that relative paths start from. -/
  workingDirectory : Text
  /-- The home directory, for which `~` stands. -/
  homeDirectory : Text
  workingDirectory_isAbsolute : Path.isAbsolute workingDirectory = true
  workingDirectory_normal : Path.normalise workingDirectory = workingDirectory

namespace Path

variable [Place]

/-- The normal form of a path, below the working directory when it is relative. -/
def absolute (p : Text) : Text :=
  normalise (if isAbsolute p then p else join Place.workingDirectory p)

/-! ## Relations between paths -/

/-- Two lists without the elements at their front that agree. -/
def dropCommon : List Text → List Text → List Text × List Text
  | a :: as, b :: bs => if a = b then dropCommon as bs else (a :: as, b :: bs)
  | as, bs => (as, bs)

/-- The way from the directory `start` to `p`. -/
def relativeTo (start p : Text) : Text :=
  let (up, down) := dropCommon (components (absolute start)) (components (absolute p))
  match up.map (fun _ => (['.', '.'] : Text)) ++ down with
  | [] => ['.']
  | way => Text.joinWith "/" way

/-- Is `p` the directory `d` itself or something below it? -/
def isWithin (p d : Text) : Bool :=
  let p := absolute p
  let d := absolute d
  p == d || Text.startsWith (Text.trimEnd (· = '/') d ++ ['/']) p

/-- The path with the home directory in place of a `~` that is its first component; a `~` followed
    by a name stays. -/
def expandHome (p : Text) : Text :=
  match p with
  | ['~'] => Place.homeDirectory
  | '~' :: '/' :: rest => Place.homeDirectory ++ '/' :: rest
  | _ => p

end Path

end PlaybookAssist
