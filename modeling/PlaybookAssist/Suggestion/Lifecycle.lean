import PlaybookAssist.Suggestion.Suggester

/-!
# Calls side by side

Calls to the suggester run side by side: while one of them waits, others begin, go on or end. A
lifecycle holds the suggester, what it finds around it, and what each call waits for; events of any
kind may follow each other in any order.

## Main definitions

- `Lifecycle` : the suggester among its calls
- `Event` : the beginning of a call, the end of a wait, or a change of what is around
- `Lifecycle.step`, `Lifecycle.run` : what an event and what many of them do
-/

namespace PlaybookAssist

/-- Something that happens to the suggester. -/
inductive Event where
  /-- The editor asks for a suggestion. -/
  | trigger (t : Trigger)
  /-- A suggestion is asked for without the guards of a trigger. -/
  | ask (t : Trigger)
  | accept
  | hide
  /-- The user asks for a suggestion by a command. -/
  | invoke
  /-- Whatever session there is ends. -/
  | reset
  /-- The call of the given number gets the answer that it waits for. -/
  | resume (call : Nat) (answer : Answer)
  /-- Seconds go by. -/
  | advance (seconds : Float)
  /-- The triggers with a token are taken back. -/
  | cancel (token : Text)
  /-- The editor shows another document, or none. -/
  | activate (document : Option Document)
  | configure (settings : Settings)

/-- The suggester among its calls. -/
structure Lifecycle where
  suggester : Suggester
  surroundings : Surroundings
  /-- What each call waits for, in the order in which the calls began; nothing when it is over. -/
  calls : List (Option Wait)

/-- What an event does: the effects in order, and how far the call gets that it is about. -/
structure Happening where
  effects : List Effect
  /-- The number of the call, and how far it gets. -/
  call : Option (Nat × Progress)
  deriving DecidableEq, Repr

/-- What a call waits for after a stretch. -/
def Progress.wait? : Progress → Option Wait
  | .waiting wait => some wait
  | _ => none

namespace Lifecycle

/-- The lifecycle of a fresh suggester. -/
def fresh (surroundings : Surroundings) : Lifecycle :=
  ⟨.fresh, surroundings, []⟩

/-- A call begins. -/
def beginCall (l : Lifecycle) (stretch : Surroundings → Suggester → Stretch) :
    Lifecycle × Happening :=
  let (suggester, effects, progress) := stretch l.surroundings l.suggester
  ({ l with suggester, calls := l.calls ++ [progress.wait?] },
    ⟨effects, some (l.calls.length, progress)⟩)

/-- Nothing but the surroundings changes. -/
def around (l : Lifecycle) (f : Surroundings → Surroundings) : Lifecycle × Happening :=
  ({ l with surroundings := f l.surroundings }, ⟨[], none⟩)

/-- What an event does. An answer for a call that does not wait does nothing. -/
def step (l : Lifecycle) : Event → Lifecycle × Happening
  | .trigger t => l.beginCall fun s p => p.trigger s t
  | .ask t => l.beginCall fun s p => p.ask s t
  | .accept => l.beginCall fun s p => p.accept s
  | .hide => l.beginCall fun s p => p.hide s
  | .invoke => l.beginCall fun s p => p.invoke s
  | .reset => ({ l with suggester := l.suggester.reset }, ⟨[], none⟩)
  | .resume n answer =>
    match l.calls[n]? with
    | some (some wait) =>
      let (suggester, effects, progress) := l.suggester.resume l.surroundings wait answer
      ({ l with suggester, calls := l.calls.set n progress.wait? }, ⟨effects, some (n, progress)⟩)
    | _ => (l, ⟨[], none⟩)
  | .advance seconds => l.around fun s => { s with now := s.now + seconds }
  | .cancel token => l.around fun s => { s with cancelled := token :: s.cancelled }
  | .activate document => l.around fun s => { s with active := document }
  | .configure settings => l.around fun s => { s with settings }

/-- What the events do one after the other. -/
def run (l : Lifecycle) : List Event → Lifecycle × List Happening
  | [] => (l, [])
  | e :: es =>
    let (l, happening) := l.step e
    let (l, happenings) := run l es
    (l, happening :: happenings)

end Lifecycle

end PlaybookAssist
