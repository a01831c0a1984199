import PlaybookAssist.Watch.Notice

/-!
# Watching directories

The watcher has `roles` directories observed, each once. The observer is started when the first
directory comes in, and goes away when the watcher stops.

## Main definitions

- `ObserverCall` : what the observer is asked to do
- `Watcher` : the directories that are observed
- `Watcher.watch`, `Watcher.stop` : the watcher and the calls that it makes
-/

namespace PlaybookAssist

/-- What the observer is asked to do. -/
inductive ObserverCall where
  | start
  /-- To observe a directory and everything below it. -/
  | schedule (watch : RolesWatch)
  | stop
  | join
  deriving DecidableEq, Repr

/-- The directories that are observed, in the order in which they came in. -/
structure Watcher where
  /-- Is there an observer? -/
  running : Bool
  directories : List Text
  deriving DecidableEq, Repr

namespace Watcher

/-- A watcher without an observer. -/
def idle : Watcher :=
  ⟨false, []⟩

/-- The watcher after a directory came in, with the calls to the observer. A directory that the
    observer refuses is not taken in, so that it is tried again when it comes in again. -/
def watch (refuses : Text → Bool) (w : RolesWatch) (watcher : Watcher) :
    Watcher × List ObserverCall :=
  if watcher.directories.elem w.directory then (watcher, [])
  else
    let start := if watcher.running then [] else [ObserverCall.start]
    let directories :=
      if refuses w.directory then watcher.directories
      else watcher.directories ++ [w.directory]
    (⟨true, directories⟩, start ++ [.schedule w])

/-- The watcher after several directories came in, with the calls to the observer. -/
def watchAll (refuses : Text → Bool) (watcher : Watcher) :
    List RolesWatch → Watcher × List ObserverCall
  | [] => (watcher, [])
  | w :: ws =>
    let (watcher, calls) := watcher.watch refuses w
    let (watcher, more) := watchAll refuses watcher ws
    (watcher, calls ++ more)

/-- The watcher without its observer, with the calls to the observer. -/
def stop (watcher : Watcher) : Watcher × List ObserverCall :=
  if watcher.running then (idle, [.stop, .join]) else (watcher, [])

end Watcher

end PlaybookAssist
