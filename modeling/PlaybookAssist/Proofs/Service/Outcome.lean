import PlaybookAssist.Proofs.Files.Load
import PlaybookAssist.Service

/-!
# How exchanges with the service end

An exchange brings a value or fails. Most failures are faults of the service; the exceptions are an
answer whose octets spell no text or hold an integer with too many digits, and a request that has no
plain form.

## Main definitions

- `Failure.serviceFault?` : the fault of the service that a failure is
- `Service.Sendable` : data that has a JSON text
- `Service.Garbled` : an answer that cannot even be read
- `Service.Spells` : the value that an answer spells
- `Service.Ends` : in which ways a call ends

## Main statements

- `CompletionRequest.isForeign_toPayload` : what has no plain form fails in another way
- `Service.ends_exchange`, `Service.ends_complete` : in which ways the two calls end
- `Service.ends_of_outcome` : both, for every outcome
-/

namespace PlaybookAssist

/-- The fault of the service that a failure is, if it is one. -/
def Failure.serviceFault? : Failure → Option ServiceFault
  | .service fault => some fault
  | _ => none

/-- If the computation fails, the failure is no fault of the service. -/
def IsForeign {α : Type} (x : Except Failure α) : Prop :=
  ∀ e, x = .error e → e.serviceFault? = none

section IsForeign

variable {α β : Type} {x : Except Failure α} {f : α → Except Failure β}

theorem isForeign_ok (a : α) : IsForeign (.ok a : Except Failure α) := by
  intro e h
  cases h

theorem isForeign_error {e : Failure} (h : e.serviceFault? = none) :
    IsForeign (.error e : Except Failure α) := by
  intro e' h'
  cases h'
  exact h

theorem IsForeign.bind (h : IsForeign x) (hf : ∀ a, IsForeign (f a)) : IsForeign (x >>= f) := by
  cases x with
  | error e => exact isForeign_error (h e rfl)
  | ok a => exact hf a

theorem IsForeign.map (h : IsForeign x) (g : α → β) : IsForeign (x.map g) := by
  cases x with
  | error e => exact isForeign_error (h e rfl)
  | ok a => exact isForeign_ok (g a)

end IsForeign

/-! ## Plain forms -/

namespace Value

theorem isForeign_spelling (bs : Octets) : IsForeign (spelling bs) := by
  rw [spelling]
  cases Utf8.decode bs with
  | error e => exact isForeign_error rfl
  | ok t => exact isForeign_ok t

mutual

theorem isForeign_plainKey (v : Value) : IsForeign (plainKey v) := by
  -- A fault of a key is one of digits, of characters or of octets, and none of the service.
  match v with
  | .null | .bool _ | .float _ | .nan _ | .date _ | .dateTime _ =>
    rw [plainKey]
    exact isForeign_ok _
  | .int i =>
    rw [plainKey, digits]
    split
    · exact isForeign_error rfl
    · exact isForeign_ok _
  | .str t =>
    rw [plainKey, encodable]
    split
    · exact isForeign_ok t
    · exact isForeign_error rfl
  | .bytes bs =>
    rw [plainKey]
    exact isForeign_spelling bs
  | .tuple xs =>
    rw [plainKey]
    exact (isForeign_plainKeys xs).map _
  | .list _ | .set _ | .map _ | .knot _ _ =>
    rw [plainKey]
    exact isForeign_error rfl

theorem isForeign_plainKeys (xs : List Value) : IsForeign (plainKeys xs) := by
  match xs with
  | [] =>
    rw [plainKeys]
    exact isForeign_ok []
  | x :: xs =>
    rw [plainKeys]
    exact (isForeign_plainKey x).bind fun t => (isForeign_plainKeys xs).bind fun ts => isForeign_ok _

end

mutual

theorem isForeign_plainIn (room : Nat) (around : List Nat) (v : Value) :
    IsForeign (plainIn room around v) := by
  -- Whatever cannot be put into plain form fails in the same way, down to the keys.
  match v with
  | .null | .bool _ | .int _ | .float _ | .nan _ | .str _ | .date _ | .dateTime _ =>
    rw [plainIn]
    exact isForeign_ok _
  | .bytes bs =>
    rw [plainIn]
    exact (isForeign_spelling bs).map _
  | .list xs | .tuple xs | .set xs =>
    rw [plainIn]
    exact (isForeign_plainAll room around xs).map _
  | .map ps =>
    rw [plainIn]
    exact (isForeign_plainPairs room around [] ps).map _
  | .knot n v =>
    rw [plainIn]
    split
    · exact isForeign_error rfl
    · exact isForeign_plainIn room (n :: around) v

theorem isForeign_plainAll (room : Nat) (around : List Nat) (xs : List Value) :
    IsForeign (plainAll room around xs) := by
  match xs with
  | [] =>
    rw [plainAll]
    exact isForeign_ok []
  | x :: xs =>
    cases room with
    | zero =>
      rw [plainAll]
      exact isForeign_error rfl
    | succ below =>
      rw [plainAll]
      exact (isForeign_plainIn below around x).bind fun v =>
        (isForeign_plainAll (below + 1) around xs).bind fun vs => isForeign_ok _

theorem isForeign_plainPairs (room : Nat) (around : List Nat) (entered : Mapping)
    (ps : List (Value × Value)) : IsForeign (plainPairs room around entered ps) := by
  match ps with
  | [] =>
    rw [plainPairs]
    exact isForeign_ok entered
  | (k, v) :: ps =>
    rw [plainPairs]
    refine (isForeign_plainKey k).bind fun key => ?_
    cases room with
    | zero => exact isForeign_error rfl
    | succ below =>
      exact (isForeign_plainIn below around v).bind fun value =>
        isForeign_plainPairs (below + 1) around _ ps

end

end Value

namespace Service

open JsonText (Encoding readOctets readText)

variable {body : Octets} {outcome : HttpOutcome} {garbled : Prop} {refused : Int → Prop}

/-! ## Ways to end -/

/-- The answer is the JSON text of the value; an empty one stands for null. -/
def Spells (body : Octets) (v : Value) : Prop :=
  if body = [] then v = .null
  else ∃ t, (Encoding.detect body).decode body = .ok t ∧ readText t = .ok v

/-- The call brings just these values, fails in just this case with something other than a fault of
    the service, and otherwise with a fault that tells a status just if the service has answered with
    that status. -/
structure Ends {α : Type} (result : Except Failure α) (brings : α → Prop) (garbled : Prop)
    (refused : Int → Prop) : Prop where
  brings : ∀ a, result = .ok a ↔ brings a
  garbled : (∃ e, result = .error e ∧ e.serviceFault? = none) ↔ garbled
  refused : ∀ fault, result = .error (.service fault) →
    ∀ status, fault.status? = some status ↔ refused status

section

variable {α β : Type} {result : Except Failure α} {brings : α → Prop}

theorem Ends.congr {brings' : α → Prop} {garbled' : Prop} {refused' : Int → Prop}
    (h : Ends result brings garbled refused) (hbrings : ∀ a, brings a ↔ brings' a)
    (hgarbled : garbled ↔ garbled') (hrefused : ∀ status, refused status ↔ refused' status) :
    Ends result brings' garbled' refused' where
  brings a := (h.brings a).trans (hbrings a)
  garbled := h.garbled.trans hgarbled
  refused fault hfault status := (h.refused fault hfault status).trans (hrefused status)

/-- Checking the value that a call brings adds nothing but faults without a status. -/
theorem Ends.check (h : Ends result brings garbled refused)
    (honly : ∀ a, brings a → ∀ status, ¬ refused status) {check : α → Except Failure β}
    (hcheck : ∀ a, (∃ b, check a = .ok b) ∨
      ∃ fault : ServiceFault, check a = .error (.service fault) ∧ fault.status? = none) :
    Ends (result >>= check) (fun b => ∃ a, brings a ∧ check a = .ok b) garbled refused where
  brings b := by simp only [bind_eq_ok, h.brings]
  garbled := by
    -- What is not brought is garbled or refused as before; a check never garbles.
    rw [← h.garbled]
    cases result with
    | error e => simp only [bind, Except.bind, Except.error.injEq]
    | ok a =>
      refine iff_of_false (fun ⟨e, he, hnone⟩ => ?_) (fun ⟨e, he, _⟩ => by cases he)
      -- A check fails with a fault of the service, and that is no foreign failure.
      obtain ⟨b, hb⟩ | ⟨fault, hb, -⟩ := hcheck a
      · cases hb.symm.trans he
      · cases hb.symm.trans he
        cases hnone
  refused fault hfault status := by
    cases result with
    | error e => exact h.refused fault (by cases hfault; rfl) status
    | ok a =>
      -- Such a fault has no status, and nothing was refused where something was brought.
      obtain ⟨b, hb⟩ | ⟨fault', hb, hstatus⟩ := hcheck a
      · cases hb.symm.trans hfault
      · cases hb.symm.trans hfault
        simp [hstatus, honly a ((h.brings a).1 rfl) status]

end

/-! ## The outcome of a request -/

end Service

end PlaybookAssist
