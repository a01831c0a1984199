import PlaybookAssist.Failure
import PlaybookAssist.Yaml.Document

/-!
# Loading files

Files are UTF-8 text in which carriage returns, alone or before a line feed, count as line feeds.

## Main definitions

- `FileTree.readText` : the text of a file
- `FileTree.load` : the value of the document in a file
- `FileTree.loadMapping` : the mapping in a variables file; such a file counts as absent when it
  cannot be opened, is no document or holds no mapping
-/

namespace PlaybookAssist

/-- Why a file gives no document. -/
inductive LoadError where
  /-- The file cannot be opened. -/
  | file (error : FileError)
  /-- The text of the file is malformed. -/
  | malformed
  /-- The file fails in a way that its reader does not expect. -/
  | failure (f : Failure)
  deriving DecidableEq, Repr

namespace FileTree

variable [Place]

/-- The octets of a file. A path has to have octets itself; every name in the tree is UTF-8. -/
def readPath (fs : FileTree) (path : Text) : Except LoadError Octets :=
  match Utf8.encodePath path with
  | .error run => .error (.failure (.unencodable run))
  | .ok octets =>
    let zeroFirst : FileError → LoadError
      | .zeroCharacter => .failure (.ofFileError path .zeroCharacter)
      | e => .file e
    match Utf8.decode octets with
    | .ok path => (fs.readFile path).mapError zeroFirst
    | .error _ =>
      .error (zeroFirst (if path.elem '\x00' then .zeroCharacter else .notFound))

/-- The text of a file. -/
def readText (fs : FileTree) (path : Text) : Except LoadError Text := do
  match Utf8.decode (← fs.readPath path) with
  | .ok t => pure t.normaliseBreaks
  | .error fault => throw (.failure (.undecodable fault))

/-- The value of the document in a file. -/
def load (fs : FileTree) (path : Text) : Except LoadError Value := do
  match Yaml.loadFrom (.ofOctets (← fs.readPath path)) with
  | .ok v => pure v
  | .error fault =>
    match Failure.ofYaml? fault with
    | none => throw .malformed
    | some f => throw (.failure f)

/-- The value of the document in a file, or nothing when the file cannot be opened or is
    malformed. -/
def load? (fs : FileTree) (path : Text) : Except Failure (Option Value) :=
  match fs.load path with
  | .ok v => .ok (some v)
  | .error (.file _) => .ok none
  | .error .malformed => .ok none
  | .error (.failure f) => .error f

/-- The mapping in a variables file, or nothing when the file counts as absent. -/
def loadMapping (fs : FileTree) (path : Text) : Except Failure (Option Mapping) := do
  pure ((← fs.load? path).bind Value.asMap?)

end FileTree

end PlaybookAssist
