import Mathlib.Data.List.Nodup
import PlaybookAssist.Watch.Watcher

/-!
# Epochs of observers

Whatever a watcher is asked to do, its calls fall into epochs. In an epoch one observer is started,
asked to observe directories, and, when the watcher stops, stopped and joined. The directories that
are watched are those that the observer of the present epoch took in, each of them once.

## Main definitions

- `Watcher.Request`, `Watcher.serveAll` : runs of a watcher
- `Watcher.openEpoch`, `Watcher.closedEpoch` : the calls of an epoch
- `Watcher.taken` : the directories that an observer took in
- `Watcher.Account` : how the calls so far and the watcher go together

## Main statements

- `Watcher.Account.serve` : what one request does to the epochs
- `Watcher.epochs_of_requests` : the epochs of a run
-/

namespace PlaybookAssist.Watcher

/-! ## Runs -/

/-- What a watcher is asked to do. -/
inductive Request where
  /-- To have a directory observed. -/
  | watch (w : RolesWatch)
  | stop
  deriving DecidableEq, Repr

/-- The watcher after a request, with the calls to the observer. -/
def serve (refuses : Text → Bool) (watcher : Watcher) : Request → Watcher × List ObserverCall
  | .watch w => watcher.watch refuses w
  | .stop => watcher.stop

/-- The watcher after several requests, with the calls to the observers. -/
def serveAll (refuses : Text → Bool) (watcher : Watcher) :
    List Request → Watcher × List ObserverCall
  | [] => (watcher, [])
  | r :: rs =>
    let (watcher, calls) := watcher.serve refuses r
    let (watcher, more) := watcher.serveAll refuses rs
    (watcher, calls ++ more)

/-! ## Epochs -/

/-- The calls to an observer from its start on, when it has been asked for the given watches. -/
def openEpoch (ws : List RolesWatch) : List ObserverCall :=
  .start :: ws.map .schedule

/-- The calls to an observer that has gone away. -/
def closedEpoch (ws : List RolesWatch) : List ObserverCall :=
  openEpoch ws ++ [.stop, .join]

/-- The directories that an observer took in of those that it was asked for, in order. -/
def taken (refuses : Text → Bool) (ws : List RolesWatch) : List Text :=
  (ws.map RolesWatch.directory).filter fun d => !refuses d

variable {refuses : Text → Bool} {watcher : Watcher} {calls : List ObserverCall}
  {past : List (List RolesWatch)} {current : Option (List RolesWatch)} {w : RolesWatch}
  {ws : List RolesWatch}

/-- How the calls to observers and the watcher go together: there have been observers that were asked
    for the watches in `past`, and if there is one now, it was asked for those in `current`. Each was
    asked for something, and took in no directory twice. -/
structure Account (refuses : Text → Bool) (watcher : Watcher) (calls : List ObserverCall)
    (past : List (List RolesWatch)) (current : Option (List RolesWatch)) : Prop where
  calls_eq : calls = past.flatMap closedEpoch ++ (current.map openEpoch).getD []
  ne_nil : ∀ ws ∈ past ++ current.toList, ws ≠ []
  nodup_taken : ∀ ws ∈ past ++ current.toList, (taken refuses ws).Nodup
  running_eq : watcher.running = current.isSome
  directories_eq : watcher.directories = taken refuses (current.getD [])

theorem account_idle (refuses : Text → Bool) : Account refuses idle [] [] none :=
  ⟨rfl, List.forall_mem_nil _, List.forall_mem_nil _, rfl, rfl⟩

theorem taken_concat_of_refuses (h : refuses w.directory = true) :
    taken refuses (ws ++ [w]) = taken refuses ws := by
  simp [taken, h]

theorem taken_concat_of_accepts (h : refuses w.directory = false) :
    taken refuses (ws ++ [w]) = taken refuses ws ++ [w.directory] := by
  simp [taken, h]

/-- An observer that is asked for a directory that it has not taken in takes in no directory twice. -/
theorem nodup_taken_concat (h : (taken refuses ws).Nodup) (hw : w.directory ∉ taken refuses ws) :
    (taken refuses (ws ++ [w])).Nodup := by
  cases hrefuses : refuses w.directory with
  | true => rwa [taken_concat_of_refuses hrefuses]
  | false =>
    rw [taken_concat_of_accepts hrefuses, ← List.concat_eq_append]
    exact h.concat hw

theorem Account.nodup_current (h : Account refuses watcher calls past current) :
    (taken refuses (current.getD [])).Nodup := by
  cases current with
  | none => exact List.nodup_nil
  | some ws => exact h.nodup_taken ws (by simp)

/-! ## One request -/

/-- The calls for one more watch: none for a directory that the present observer took in. -/
theorem Account.calls_watch (h : Account refuses watcher calls past current) (w : RolesWatch) :
    (watcher.watch refuses w).2 =
      if w.directory ∈ taken refuses (current.getD []) then []
      else if current.isSome then [.schedule w] else [.start, .schedule w] := by
  rw [watch, ← h.directories_eq, h.running_eq]
  simp only [List.elem_eq_mem, decide_eq_true_eq]
  split
  · rfl
  · cases current <;> rfl

theorem watch_of_mem (h : w.directory ∈ watcher.directories) :
    watcher.watch refuses w = (watcher, []) := by
  rw [watch, if_pos (by simpa using h)]

theorem watch_of_not_mem (h : w.directory ∉ watcher.directories) :
    (watcher.watch refuses w).1 = ⟨true, if refuses w.directory then watcher.directories
      else watcher.directories ++ [w.directory]⟩ := by
  rw [watch, if_neg (by simpa using h)]

/-- A directory that has not been taken in goes to the present observer, or to a new one. -/
theorem Account.watch (h : Account refuses watcher calls past current)
    (hw : w.directory ∉ taken refuses (current.getD [])) :
    Account refuses (watcher.watch refuses w).1 (calls ++ (watcher.watch refuses w).2) past
      (some (current.getD [] ++ [w])) := by
  have hnew : w.directory ∉ watcher.directories := h.directories_eq ▸ hw
  have hpast : ∀ ws ∈ past, ws ∈ past ++ current.toList := fun ws hws => List.mem_append_left _ hws
  -- The epoch goes on, and one more directory is watched in it.
  refine ⟨?_, ?_, ?_, ?_, ?_⟩
  · rw [h.calls_watch, if_neg hw, h.calls_eq]
    cases current <;> simp [openEpoch]
  · refine List.forall_mem_append.mpr ⟨fun ws hws => h.ne_nil ws (hpast ws hws), ?_⟩
    exact List.forall_mem_singleton.mpr (by simp)
  · refine List.forall_mem_append.mpr ⟨fun ws hws => h.nodup_taken ws (hpast ws hws), ?_⟩
    exact List.forall_mem_singleton.mpr (nodup_taken_concat h.nodup_current hw)
  · rw [watch_of_not_mem hnew]
    rfl
  -- A directory is taken unless the watcher has it already.
  · rw [watch_of_not_mem hnew, h.directories_eq, Option.getD_some]
    cases hrefuses : refuses w.directory with
    | true => exact (taken_concat_of_refuses hrefuses).symm
    | false => exact (taken_concat_of_accepts hrefuses).symm

theorem Account.stop_eq (h : Account refuses watcher calls past current) :
    watcher.stop = (idle, if current.isSome then [.stop, .join] else []) := by
  rw [stop, h.running_eq]
  cases current with
  | some ws => rfl
  | none =>
    -- Without an observer nothing is watched.
    have hidle : watcher = idle := by
      obtain ⟨running, directories⟩ := watcher
      obtain rfl : running = false := h.running_eq
      obtain rfl : directories = [] := h.directories_eq
      rfl
    rw [hidle]
    rfl

/-- When the watcher stops, the present epoch ends. -/
theorem Account.stop (h : Account refuses watcher calls past current) :
    Account refuses watcher.stop.1 (calls ++ watcher.stop.2) (past ++ current.toList) none := by
  rw [h.stop_eq]
  refine ⟨?_, ?_, ?_, rfl, rfl⟩
  · rw [h.calls_eq]
    cases current <;> simp [closedEpoch]
  · simpa using h.ne_nil
  · simpa using h.nodup_taken

/-- What one request does to the epochs. -/
theorem Account.serve (h : Account refuses watcher calls past current) (r : Request) :
    ∃ past current, Account refuses (watcher.serve refuses r).1
      (calls ++ (watcher.serve refuses r).2) past current := by
  cases r with
  | stop => exact ⟨_, _, h.stop⟩
  | watch w =>
    by_cases hw : w.directory ∈ taken refuses (current.getD [])
    · refine ⟨past, current, ?_⟩
      rw [Watcher.serve, watch_of_mem (h.directories_eq ▸ hw), List.append_nil]
      exact h
    · exact ⟨_, _, h.watch hw⟩

/-! ## All requests -/

theorem Account.serveAll (h : Account refuses watcher calls past current) (rs : List Request) :
    ∃ past current, Account refuses (watcher.serveAll refuses rs).1
      (calls ++ (watcher.serveAll refuses rs).2) past current := by
  induction rs generalizing watcher calls past current with
  | nil =>
    refine ⟨past, current, ?_⟩
    rw [Watcher.serveAll, List.append_nil]
    exact h
  | cons r rs ih =>
    -- the requests and calls so far are those of the account that the first request leaves
    obtain ⟨past, current, hr⟩ := h.serve r
    obtain ⟨past, current, hrs⟩ := ih hr
    refine ⟨past, current, ?_⟩
    rw [Watcher.serveAll, ← List.append_assoc]
    exact hrs

/-- The calls of a watcher that has been asked for anything, with any set of directories that
    observers refuse. They are a sequence of epochs: an observer is started, asked for directories,
    and, if the watcher has stopped since, stopped and joined; there are no other calls. In an epoch no
    directory is taken in twice, and the directories that are watched are those that were taken in
    since the last stop, in order. The next watch of a directory that is not among them asks for it
    once more, and that is so for every one that is refused; the next stop ends the epoch. -/
theorem epochs_of_requests (refuses : Text → Bool) (rs : List Request) :
    let watcher := (idle.serveAll refuses rs).1
    ∃ (past : List (List RolesWatch)) (current : Option (List RolesWatch)),
      (idle.serveAll refuses rs).2 = past.flatMap closedEpoch ++ (current.map openEpoch).getD [] ∧
      (∀ ws ∈ past ++ current.toList, ws ≠ [] ∧ (taken refuses ws).Nodup) ∧
      watcher.directories = taken refuses (current.getD []) ∧ watcher.directories.Nodup ∧
      (∀ w, (watcher.watch refuses w).2 =
        if w.directory ∈ taken refuses (current.getD []) then []
        else if current.isSome then [.schedule w] else [.start, .schedule w]) ∧
      (∀ w, refuses w.directory = true → .schedule w ∈ (watcher.watch refuses w).2) ∧
      watcher.stop = (idle, if current.isSome then [.stop, .join] else []) := by
  -- The account of what the watcher does is kept request by request.
  intro watcher
  obtain ⟨past, current, h⟩ := (account_idle refuses).serveAll rs
  have hnodup : watcher.directories.Nodup := h.directories_eq ▸ h.nodup_current
  refine ⟨past, current, h.calls_eq, fun ws hws => ⟨h.ne_nil ws hws, h.nodup_taken ws hws⟩,
    h.directories_eq, hnodup, h.calls_watch, fun w hw => ?_, h.stop_eq⟩
  -- A directory that is refused is never taken, so that it is asked for again and again.
  have hout : w.directory ∉ taken refuses (current.getD []) := by simp [taken, hw]
  rw [h.calls_watch, if_neg hout]
  split <;> simp

/-- The first directory is refused and asked for again; the second stop finds no observer. -/
example :
    let refused : RolesWatch := ⟨"/w/a/roles", "/w"⟩
    let accepted : RolesWatch := ⟨"/w/b/roles", "/w"⟩
    (idle.serveAll (· == "/w/a/roles".toList)
        [.watch refused, .watch accepted, .watch refused, .watch accepted, .stop, .stop]).2 =
      closedEpoch [refused, accepted, refused] := by
  decide

end PlaybookAssist.Watcher
