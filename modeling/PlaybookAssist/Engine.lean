import PlaybookAssist.Suggestion.Lifecycle
import PlaybookAssist.Watch.Watcher

/-!
# The engine

The engine holds everything that lasts as long as an editor is open: the suggester, the role cache
and the watcher of the `roles` directories. Whenever the cache finds such a directory, the watcher
takes it in.

## Main definitions

- `Engine` : the parts that work together
- `Engine.onCache` : an operation on the role cache, with the calls to the observer that it brings
- `Engine.request` : the request made of an inquiry
- `Engine.handleNotice`, `Engine.handleChange` : news of files
-/

namespace PlaybookAssist

/-- The parts that work together. -/
structure Engine where
  lifecycle : Lifecycle
  cache : RoleCache
  /-- The watcher, if `roles` directories are watched. -/
  watcher : Option Watcher
  workspace : Workspace
  /-- The number of requests that got a fresh id. -/
  freshRequests : Nat

namespace Engine

variable [Place]

/-- An operation of the engine gives the engine after it, the calls to the observer and an answer. -/
abbrev Result (α : Type) := Engine × List ObserverCall × α

/-- The watcher takes in the directories that the cache has found. -/
def takeIn (refuses : Text → Bool) (found : List RolesWatch) (e : Engine) :
    Engine × List ObserverCall :=
  match e.watcher with
  | none => (e, [])
  | some watcher =>
    let (watcher, calls) := watcher.watchAll refuses found
    ({ e with watcher := some watcher }, calls)

/-- An operation on the role cache. -/
def onCache {α : Type} (refuses : Text → Bool) (f : RoleCache → RoleCache × α) (e : Engine) :
    Result α :=
  let (cache, a) := f e.cache
  let (cache, found) := cache.takeDiscovered
  let (e, calls) := { e with cache }.takeIn refuses (found.map fun (d : Text × Text) => ⟨d.1, d.2⟩)
  (e, calls, a)

/-- The request made of an inquiry. -/
def request (refuses : Text → Bool) (fs : FileTree) (q : Inquiry) (e : Engine) :
    Result (Except Failure CompletionRequest) :=
  let surroundings := e.lifecycle.surroundings
  let (e, calls, result) := e.onCache refuses
    (q.request fs e.workspace surroundings.settings.modelId
      (surroundings.ids.request e.freshRequests))
  let isFresh := q.suggestionId.isEmpty && result.isOk
  let freshRequests := if isFresh then e.freshRequests + 1 else e.freshRequests
  ({ e with freshRequests }, calls, result)

/-- A file was opened, closed or shown: the role that it lies in is to be read anew. The answer
    tells whether there is one. -/
def handleChange (path : Text) (kind : ChangeKind) (e : Engine) : Engine × Bool :=
  let (cache, posted) := e.cache.postForPath path kind
  ({ e with cache }, posted)

/-- A notice about a watched directory: the roles that it is about are to be read anew. -/
def handleNotice (w : RolesWatch) (n : Notice) (e : Engine) : Engine × Except Failure Unit :=
  let (changes, failure) := w.changes n
  let cache := changes.foldl (fun cache change => cache.post change) e.cache
  ({ e with cache }, failure.elim (.ok ()) .error)

/-- The end of all watching. -/
def close (e : Engine) : Engine × List ObserverCall :=
  match e.watcher with
  | none => (e, [])
  | some watcher =>
    let (watcher, calls) := watcher.stop
    ({ e with watcher := some watcher }, calls)

end Engine

end PlaybookAssist
