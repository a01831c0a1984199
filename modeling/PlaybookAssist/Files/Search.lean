import PlaybookAssist.Files.Tree
import PlaybookAssist.Files.Wildcard

/-!
# Finding files by pattern

A pattern is a path with wildcards in its components. The component `**` stands for any number of
directories, hidden ones left aside; other wildcards do not match a hidden name unless they begin
with a dot themselves.

## Main definitions

- `Entry.waysBelow` : the ways to all entries below a directory that are not hidden
- `FileTree.search` : the paths that a pattern matches, in no particular order; the search fails
  when it has to look into a directory that cannot even be named
-/

namespace PlaybookAssist

/-- Does the name begin with a dot? -/
def isHidden (name : Text) : Bool :=
  name.head? == some '.'

mutual

/-- The ways to the entries below a directory along names that are not hidden; with `onlyDirectories`
    files are left out. -/
def Entry.waysBelow (onlyDirectories : Bool) : Entry → List Text
  | .file _ => []
  | .directory es => Entry.waysBelowAll onlyDirectories es

/-- The ways to the given entries and to those below them. -/
def Entry.waysBelowAll (onlyDirectories : Bool) : List (Text × Entry) → List Text
  | [] => []
  | (n, e) :: rest =>
    if isHidden n || (onlyDirectories && !e.isDirectory) then Entry.waysBelowAll onlyDirectories rest
    else
      n :: (Entry.waysBelow onlyDirectories e).map (fun way => n ++ '/' :: way)
        ++ Entry.waysBelowAll onlyDirectories rest

end

namespace FileTree

variable [Place]

/-- The component that stands for any number of directories. -/
def anyDepth : Text := "**"

/-- A directory of a pattern as a path; the empty one is the current directory. -/
def orHere (path : Text) : Text :=
  if path.isEmpty then ['.'] else path

/-- The path of an entry, where either part may be empty. -/
def pathIn (directory name : Text) : Text :=
  if directory.isEmpty then name else if name.isEmpty then directory else Path.join directory name

/-- The entries of a directory that a last component matches, as ways from the directory. -/
def searchIn (fs : FileTree) (onlyDirectories : Bool) (directory component : Text) :
    Except FileError (List Text) := do
  if Wildcard.isPlain component then
    if component.isEmpty then pure (if fs.isDirectory directory then [[]] else [])
    else pure (if fs.pathExists (pathIn directory component) then [component] else [])
  else
    let here ← match fs.entry (orHere directory) with
      | .ok e => pure e
      | .error .zeroCharacter => throw .zeroCharacter
      | .error _ => pure (.directory [])
    if component = anyDepth then pure ([] :: here.waysBelow onlyDirectories)
    else
      let named := here.entries.filter fun p =>
        (!onlyDirectories || p.2.isDirectory) && (isHidden component || !isHidden p.1)
          && Wildcard.fits component p.1
      pure (named.map (·.1))

/-- The paths of the entries of some directories that a last component matches. -/
def searchAmong (fs : FileTree) (onlyDirectories : Bool) (component : Text) :
    List Text → Except FileError (List Text)
  | [] => .ok []
  | d :: ds => do
    let here ← fs.searchIn onlyDirectories d component
    let others ← searchAmong fs onlyDirectories component ds
    pure (here.map (fun way => Path.join d way) ++ others)

/-- The paths that a pattern of at most `fuel` components matches. -/
def searchFrom (fs : FileTree) : Nat → Bool → Text → Except FileError (List Text)
  | 0, _, _ => .ok []
  | fuel + 1, onlyDirectories, pattern => do
    let directory := Path.parent pattern
    let component := Path.name pattern
    if Wildcard.isPlain pattern then
      if component.isEmpty then pure (if fs.isDirectory directory then [pattern] else [])
      else pure (if fs.pathExists pattern then [pattern] else [])
    else if directory.isEmpty then fs.searchIn onlyDirectories [] component
    else
      let directories ←
        if directory ≠ pattern ∧ !Wildcard.isPlain directory then
          searchFrom fs fuel true directory
        else pure [directory]
      fs.searchAmong onlyDirectories component directories

/-- The paths that a pattern matches. -/
def search (fs : FileTree) (pattern : Text) : Except FileError (List Text) :=
  fs.searchFrom (pattern.length + 1) false pattern

end FileTree

end PlaybookAssist
