import PlaybookAssist.Proofs.Value.Endless
import PlaybookAssist.Proofs.Variables.Selected

/-!
# The tasks of a document

A document that does not hold itself is walked through to its end, and the walk meets exactly the tasks
of its lists and of their blocks, at any depth.

## Main definitions

- `Variables.HasTask` : a task is in a list of tasks, or in one of their blocks
- `Variables.IsTaskOf` : a task is one of a document of some kind
- `Variables.Meets` : what a walk meets

## Main statements

- `Variables.visitsIn_meets` : what the walk through a list of tasks meets
- `Variables.visits_meets` : what the walk through the tasks of a document meets
-/

namespace PlaybookAssist.Variables

variable {tasks document : Value} {entries : List Value} {task : Mapping} {type : FileType}
  {walk walk' : List Visit} {P Q : Mapping → Prop}

/-! ## Tasks at any depth -/

/-- The task is one of a list of tasks, or it is in a block of one of them. -/
inductive HasTask : Value → Mapping → Prop where
  | mem {tasks x : Value} {xs : List Value} {task : Mapping} :
    tasks.asList? = some xs → x ∈ xs → x.asMap? = some task → HasTask tasks task
  | block {tasks x inner : Value} {xs : List Value} {ps task : Mapping} {key : Text} :
    tasks.asList? = some xs → x ∈ xs → x.asMap? = some ps → key ∈ Prompt.blockSections →
      Mapping.find? key ps = some inner → HasTask inner task → HasTask tasks task

/-- The value is the task, or one of its blocks has the task. -/
def IsIn (x : Value) (task : Mapping) : Prop :=
  ∃ ps, x.asMap? = some ps ∧ (task = ps ∨
    ∃ key ∈ Prompt.blockSections, ∃ tasks, Mapping.find? key ps = some tasks ∧ HasTask tasks task)

theorem hasTask_iff : HasTask tasks task ↔
    ∃ xs, tasks.asList? = some xs ∧ ∃ x ∈ xs, IsIn x task := by
  constructor
  · intro h
    cases h with
    | mem hlist hx hmap => exact ⟨_, hlist, _, hx, task, hmap, .inl rfl⟩
    | block hlist hx hmap hkey hfind htask =>
      exact ⟨_, hlist, _, hx, _, hmap, .inr ⟨_, hkey, _, hfind, htask⟩⟩
  · rintro ⟨xs, hlist, x, hx, ps, hmap, rfl | ⟨key, hkey, inner, hfind, htask⟩⟩
    · exact .mem hlist hx hmap
    · exact .block hlist hx hmap hkey hfind htask

/-! ## What a walk meets -/

/-- The walk comes to its end, and it meets exactly the tasks with the property. -/
structure Meets (walk : List Visit) (P : Mapping → Prop) : Prop where
  ends : ∀ visit ∈ walk, visit.isTask = true
  task_mem : ∀ task, .task task ∈ walk ↔ P task

theorem Meets.congr (h : Meets walk P) (hPQ : ∀ task, P task ↔ Q task) : Meets walk Q :=
  ⟨h.ends, fun task => (h.task_mem task).trans (hPQ task)⟩

theorem meets_nil (h : ∀ task, ¬ P task) : Meets [] P :=
  ⟨List.forall_mem_nil _, fun task => iff_of_false List.not_mem_nil (h task)⟩

theorem Meets.append (h : Meets walk P) (h' : Meets walk' Q) :
    Meets (walk ++ walk') fun task => P task ∨ Q task where
  ends := List.forall_mem_append.mpr ⟨h.ends, h'.ends⟩
  task_mem task := by rw [List.mem_append, h.task_mem, h'.task_mem]

theorem meets_task (task : Mapping) : Meets [.task task] (· = task) where
  ends := List.forall_mem_singleton.mpr rfl
  task_mem task' := by simp

-- The walk recurses through lists, their elements, mappings and their values in turn, and so does
-- the proof that it meets what it should.
mutual

theorem visitsIn_meets (around : List Nat) (v : Value)
    (h : v.hasScalarIn (fun _ => false) true around = false) :
    Meets (visitsIn around v) (HasTask v) := by
  match v with
  | .list xs =>
    -- A list is visited entry by entry.
    rw [Value.hasScalarIn] at h
    exact (visitsAmong_meets around xs h).congr fun task => by
      simp [hasTask_iff, Value.asList?, Value.content]
  | .knot n v =>
    rw [Value.hasScalarIn] at h
    -- A document that is endless would come round to one of the marks around it.
    rw [visitsIn]
    split
    case isTrue hknot =>
      rw [if_pos hknot] at h
      cases h
    case isFalse hknot =>
      rw [if_neg hknot] at h
      exact (visitsIn_meets (n :: around) v h).congr fun task => by
        simp [hasTask_iff, Value.asList?, Value.content]
  | .null | .bool _ | .int _ | .float _ | .nan _ | .str _ | .date _ | .dateTime _ | .bytes _
  | .tuple _ | .set _ | .map _ =>
    exact meets_nil fun task => by simp [hasTask_iff, Value.asList?, Value.content]

theorem visitsAmong_meets (around : List Nat) (xs : List Value)
    (h : Value.anyHasScalarIn (fun _ => false) true around xs = false) :
    Meets (visitsAmong around xs) fun task => ∃ x ∈ xs, IsIn x task := by
  match xs with
  | [] => exact meets_nil fun task => by simp
  | x :: xs =>
    rw [Value.anyHasScalarIn, Bool.or_eq_false_iff] at h
    rw [visitsAmong]
    exact ((visitsFrom_meets around x h.1).append (visitsAmong_meets around xs h.2)).congr
      fun task => by simp

theorem visitsFrom_meets (around : List Nat) (x : Value)
    (h : x.hasScalarIn (fun _ => false) true around = false) :
    Meets (visitsFrom around x) (IsIn x) := by
  match x with
  | .map ps =>
    rw [Value.hasScalarIn] at h
    have hblock := visitsUnder_meets around "block" ps h
    -- The three sections of a block are the only lists a mapping leads to.
    have hrescue := visitsUnder_meets around "rescue" ps h
    have halways := visitsUnder_meets around "always" ps h
    exact ((meets_task ps).append ((hblock.append hrescue).append halways)).congr fun task => by
      simp [IsIn, Value.asMap?, Value.content, Prompt.blockSections, or_assoc]
  | .knot n x =>
    rw [Value.hasScalarIn] at h
    -- The mark is not one of those around it, so that the walk goes on below it.
    rw [visitsFrom]
    split
    case isTrue hknot =>
      rw [if_pos hknot] at h
      cases h
    case isFalse hknot =>
      rw [if_neg hknot] at h
      exact (visitsFrom_meets (n :: around) x h).congr fun task => by
        simp [IsIn, Value.asMap?, Value.content]
  | .null | .bool _ | .int _ | .float _ | .nan _ | .str _ | .date _ | .dateTime _ | .bytes _
  | .list _ | .tuple _ | .set _ =>
    exact meets_nil fun task => by simp [IsIn, Value.asMap?, Value.content]

theorem visitsUnder_meets (around : List Nat) (key : Text) (ps : List (Value × Value))
    (h : Value.anyPairHasScalarIn (fun _ => false) true around ps = false) :
    Meets (visitsUnder around key ps)
      fun task => ∃ tasks, Mapping.find? key ps = some tasks ∧ HasTask tasks task := by
  match ps with
  | [] => exact meets_nil fun task => by simp [Mapping.find?, Mapping.get?]
  | (k, v) :: ps =>
    rw [Value.anyPairHasScalarIn, Bool.or_eq_false_iff, Bool.or_eq_false_iff] at h
    rw [visitsUnder]
    split
    case isTrue hkey =>
      exact (visitsIn_meets around v h.1.2).congr fun task => by
        simp [Mapping.find?, Mapping.get?, hkey]
    case isFalse hkey =>
      exact (visitsUnder_meets around key ps h.2).congr fun task => by
        simp [Mapping.find?, Mapping.get?, hkey]

end

/-! ## The tasks of a document -/

/-- The task is one of the document: of a playbook, one in a section of a play, and otherwise one of
    its entries; or it is in a block of such a task, at any depth. -/
def IsTaskOf (document : Value) (type : FileType) (task : Mapping) : Prop :=
  if type = .playbook then
    ∃ plays, document.asList? = some plays ∧ ∃ play ∈ plays, ∃ ps, play.asMap? = some ps ∧
      ∃ key ∈ Prompt.taskSections, ∃ tasks, Mapping.find? key ps = some tasks ∧ HasTask tasks task
  else HasTask document task

theorem meets_flatMap {α : Type} {xs : List α} {walk : α → List Visit} {P : α → Mapping → Prop}
    (h : ∀ x ∈ xs, Meets (walk x) (P x)) :
    Meets (xs.flatMap walk) fun task => ∃ x ∈ xs, P x task where
  ends visit hvisit := by
    obtain ⟨x, hx, hvisit⟩ := List.mem_flatMap.mp hvisit
    exact (h x hx).ends visit hvisit
  task_mem task := by
    rw [List.mem_flatMap]
    exact exists_congr fun x => and_congr_right fun hx => (h x hx).task_mem task

theorem mem_iff_of_isParsed (h : IsParsed document entries) {x : Value} :
    x ∈ entries ↔ ∃ xs, document.asList? = some xs ∧ x ∈ xs := by
  obtain hlist | ⟨rfl, rfl⟩ := h
  · simp [hlist]
  · simp [Value.asList?, Value.content]

/-- The walk through the tasks of a document that does not hold itself comes to its end, and it meets
    all of them. -/
theorem visits_meets (hparsed : IsParsed document entries) (hends : document.isEndless = false)
    (type : FileType) :
    ∃ walk, visits document type = .ok walk ∧ Meets walk (IsTaskOf document type) := by
  by_cases htype : type = .playbook
  · subst htype
    refine ⟨_, by rw [visits, taskLists, if_pos rfl, entriesOf_of_isParsed hparsed]; rfl, ?_⟩
    -- In a playbook the lists stand under keys of its plays; elsewhere the document is the list.
    refine (meets_flatMap fun tasks htasks => visitsIn_meets [] tasks ?_).congr fun task => ?_
    · -- A list of tasks is under a key of a play, and a play is an entry of the document.
      obtain ⟨play, hplay, htasks⟩ := List.mem_flatMap.mp htasks
      obtain ⟨key, -, htasks⟩ := List.mem_filterMap.mp htasks
      obtain ⟨ps, hmap, hfind⟩ := Option.bind_eq_some_iff.mp htasks
      obtain ⟨plays, hlist, hplay⟩ := (mem_iff_of_isParsed hparsed).mp hplay
      exact Value.isEndless_of_find? (Value.isEndless_of_asList? hends hlist play hplay) hmap hfind
    · simp only [IsTaskOf, if_pos, List.mem_flatMap, List.mem_filterMap, Option.bind_eq_some_iff,
        mem_iff_of_isParsed hparsed]
      constructor
      -- Both directions say that the task is reached through a play and one of its keys.
      · rintro ⟨tasks, ⟨play, ⟨plays, hlist, hplay⟩, key, hkey, ps, hmap, hfind⟩, htask⟩
        exact ⟨plays, hlist, play, hplay, ps, hmap, key, hkey, tasks, hfind, htask⟩
      · rintro ⟨plays, hlist, play, hplay, ps, hmap, key, hkey, tasks, hfind, htask⟩
        exact ⟨tasks, ⟨play, ⟨plays, hlist, hplay⟩, key, hkey, ps, hmap, hfind⟩, htask⟩
  · refine ⟨visitsIn [] document, ?_, (visitsIn_meets [] document hends).congr fun task => ?_⟩
    · rw [visits, taskLists, if_neg htype]
      exact congrArg Except.ok (List.flatMap_singleton _ _)
    · rw [IsTaskOf, if_neg htype]

end PlaybookAssist.Variables
