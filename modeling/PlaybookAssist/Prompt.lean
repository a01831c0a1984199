import PlaybookAssist.Failure
import PlaybookAssist.Yaml.Document

/-!
# Prompts

The text above the cursor is a list of plays or tasks. A suggestion is worth asking for when the
task that is being written has a name and nothing else.

## Main definitions

- `Prompt.parse` : the list of plays or tasks of a prompt
- `Prompt.taskSections`, `Prompt.blockSections` : the keys under which tasks stand
- `Prompt.currentTask` : the task being written: the last one along the last keys, unless these lead
  back to where they come from
- `Prompt.awaitsBody` : has the current task a name and nothing else?
-/

namespace PlaybookAssist.Prompt

/-- The list of plays or tasks of a prompt; nothing when there is nothing to complete. -/
def parse (t : Text) : Except Failure (Option (List Value)) :=
  match Yaml.load t with
  | .error fault => .error ((Failure.ofYaml? fault).getD (.prompt .malformed))
  | .ok v =>
    if !v.isTruthy then .ok none
    else match v.content with
      | .map _ => .error (.prompt .mapping)
      | .list xs => .ok (some xs)
      | _ => .ok none

/-- The sections of a play that hold tasks, in the order in which they run. -/
def taskSections : List Text := ["pre_tasks", "tasks", "post_tasks", "handlers"]

/-- The sections of a block. -/
def blockSections : List Text := ["block", "rescue", "always"]

/-- Is the key that of a section? -/
def isSection (key : Value) : Bool :=
  match key with
  | .str t => (taskSections ++ blockSections).elem t
  | _ => false

mutual

/-- The task being written, from a play, block or task on: where the last key is a section with
    entries, it is the one of its last entry, otherwise the value itself. A mapping that is met again
    inside itself, under a name in `around`, leads on without end. -/
def currentTask (around : List Nat) : Value → Except Failure Value
  | .map ps => (sectionTask? around ps).getD (.ok (.map ps))
  | .knot n (.map ps) =>
    if around.elem n then .error .endless
    else (sectionTask? (n :: around) ps).getD (.ok (.map ps))
  | .knot _ v => currentTask around v
  | v => .ok v

/-- The task being written in the section under the last key, if it has entries. -/
def sectionTask? (around : List Nat) : List (Value × Value) → Option (Except Failure Value)
  | [] => none
  | [(k, v)] => if isSection k then entriesTask? around v else none
  | _ :: p :: ps => sectionTask? around (p :: ps)

/-- The task being written in a list of entries. A list that is met again need not lead on without
    end, as its last entry may be no mapping. -/
def entriesTask? (around : List Nat) : Value → Option (Except Failure Value)
  | .list xs => lastTask? around xs
  | .knot _ v => entriesTask? around v
  | _ => none

/-- The task being written in the last of some entries. -/
def lastTask? (around : List Nat) : List Value → Option (Except Failure Value)
  | [] => none
  | [x] => some (currentTask around x)
  | _ :: x :: xs => lastTask? around (x :: xs)

end

/-- Is the value a mapping with the only key `name`? -/
def hasOnlyName (v : Value) : Bool :=
  match v with
  | .map [(.str key, _)] => key == "name".toList
  | _ => false

/-- Has the task being written, from the last entry of a document on, a name and nothing else? -/
def awaitsBody (entries : List Value) : Except Failure Bool :=
  match entries.getLast? with
  | none => .ok false
  | some last => (currentTask [] last).map hasOnlyName

/-- The last entry of a value that is something: of a sequence the last element, of a mapping what
    stands under the key -1. -/
def lastEntry (v : Value) : Except Failure Value :=
  match v.content with
  | .list xs | .tuple xs =>
    match xs.getLast? with
    | some x => .ok x
    | none => .error (.outOfRange "list index out of range")
  | .str t =>
    match t.getLast? with
    | some c => .ok (.str [c])
    | none => .error (.outOfRange "string index out of range")
  | .bytes bs =>
    match bs.getLast? with
    | some b => .ok (.int b.toNat)
    | none => .error (.outOfRange "index out of range")
  | .map ps =>
    match Mapping.get? (.int (-1)) ps with
    | some x => .ok x
    | none => .error (.missingKey "-1")
  | _ => .error (.wrongKind ('\x27' :: v.kindName ++ "' object is not subscriptable".toList))

/-- Has the task being written in a document of any kind a name and nothing else? -/
def awaitsBodyIn (document : Value) : Except Failure Bool :=
  if !document.isTruthy then .ok false
  else do return hasOnlyName (← currentTask [] (← lastEntry document))

end PlaybookAssist.Prompt
