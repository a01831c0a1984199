import PlaybookAssist.Proofs.Value.Rearranged
import PlaybookAssist.Proofs.Variables.Walk

/-!
# Variable files that are included

With a loader that answers for every path, the files that the tasks of a document include are the
targets of its tasks that are found. The same targets are looked for in the same directories whichever
task comes first, so the order of the tasks makes no difference to the files that come in.

## Main definitions

- `Variables.IsTarget` : a path is the target of a task of a document
- `Variables.ownVariables?` : the directory with the variables of a role

## Main statements

- `Variables.HasTask.rearranged` : tasks in another order
- `Variables.included_iff_target` : what the tasks of a document bring in
-/

namespace PlaybookAssist.Variables

variable {v w document document' : Value} {entries : List Value} {ps : List (Value × Value)}
  {task : Mapping} {p : Text} {type : FileType} {walk : List Visit}

/-! ## Tasks in another order -/

theorem targetOf?_eq_some (h : Value.Rearranged v w) (hv : targetOf? v = some p) :
    targetOf? w = some p := by
  induction h with
  | refl v => exact hv
  | trans _ _ ih ih' => exact ih' (ih hv)
  | list | element => cases hv
  | under before after k h _ =>
    rw [targetOf?] at hv ⊢
    dsimp only [Value.content] at hv ⊢
    split at hv
    case h_1 file hfile =>
      -- A text has no list in it.
      obtain ⟨u, hfind, hu⟩ := Value.exists_of_rel (h.rel_find? "file" before after k) hfile
      rw [hfind, hu.eq_of_ne (by simp) (by simp) (by simp)]
      exact hv
    case h_2 => cases hv
  | knot n _ ih => exact ih hv

theorem targetOf?_of_rearranged (h : Value.Rearranged v w) : targetOf? v = targetOf? w :=
  Option.ext fun _ => ⟨targetOf?_eq_some h, targetOf?_eq_some h.symm⟩

theorem target?_of_rel {qs : List (Value × Value)}
    (h : ∀ key, Option.Rel Value.Rearranged (Mapping.find? key ps) (Mapping.find? key qs)) :
    target? ps = target? qs := by
  rw [target?, target?]
  congr 1
  funext name
  have hname := h name
  revert hname
  cases Mapping.find? name ps <;> cases Mapping.find? name qs <;> intro hname <;> cases hname
  case none.none => rfl
  case some.some huv => exact targetOf?_of_rearranged huv

/-- A list of tasks in another order has a task with the same target. -/
theorem HasTask.rearranged (h : HasTask v task) (hvw : Value.Rearranged v w) :
    ∃ task', HasTask w task' ∧ target? task' = target? task := by
  induction h generalizing w with
  | mem hlist hx hmap =>
    obtain ⟨ys, hlist', hmem⟩ := Value.exists_of_rel hvw.rel_asList? hlist
    obtain ⟨y, hy, hxy⟩ := hmem _ hx
    obtain ⟨task', hmap', hrel⟩ := Value.exists_of_rel hxy.rel_asMap? hmap
    exact ⟨task', .mem hlist' hy hmap', (target?_of_rel hrel).symm⟩
  | block hlist hx hmap hkey hfind _ ih =>
    obtain ⟨ys, hlist', hmem⟩ := Value.exists_of_rel hvw.rel_asList? hlist
    obtain ⟨y, hy, hxy⟩ := hmem _ hx
    obtain ⟨qs, hmap', hrel⟩ := Value.exists_of_rel hxy.rel_asMap? hmap
    obtain ⟨inner', hfind', hinner⟩ := Value.exists_of_rel (hrel _) hfind
    obtain ⟨task', htask', htarget⟩ := ih hinner
    exact ⟨task', .block hlist' hy hmap' hkey hfind' htask', htarget⟩

/-- The path is the target of a task of the document. -/
def IsTarget (document : Value) (type : FileType) (p : Text) : Prop :=
  ∃ task, IsTaskOf document type task ∧ target? task = some p

theorem IsTarget.rearranged (h : IsTarget document type p)
    (hdocument : Value.Rearranged document document') : IsTarget document' type p := by
  obtain ⟨task, htask, htarget⟩ := h
  rw [IsTaskOf] at htask
  split at htask
  case isTrue htype =>
    -- Every part of the way from the document to the task has its counterpart.
    obtain ⟨plays, hlist, play, hplay, ps, hmap, key, hkey, tasks, hfind, htask⟩ := htask
    obtain ⟨plays', hlist', hmem⟩ := Value.exists_of_rel hdocument.rel_asList? hlist
    obtain ⟨play', hplay', hrelplay⟩ := hmem play hplay
    obtain ⟨qs, hmap', hrel⟩ := Value.exists_of_rel hrelplay.rel_asMap? hmap
    obtain ⟨tasks', hfind', htasks⟩ := Value.exists_of_rel (hrel key) hfind
    obtain ⟨task', htask', htarget'⟩ := htask.rearranged htasks
    refine ⟨task', ?_, htarget'.trans htarget⟩
    rw [IsTaskOf, if_pos htype]
    exact ⟨plays', hlist', play', hplay', qs, hmap', key, hkey, tasks', hfind', htask'⟩
  -- In a file of tasks the document itself is the list.
  case isFalse htype =>
    obtain ⟨task', htask', htarget'⟩ := htask.rearranged hdocument
    refine ⟨task', ?_, htarget'.trans htarget⟩
    rw [IsTaskOf, if_neg htype]
    exact htask'

/-- A parsed document in another order is one that parsing can make. -/
theorem exists_isParsed (h : IsParsed document entries)
    (hdocument : Value.Rearranged document document') :
    ∃ entries', IsParsed document' entries' := by
  obtain hlist | ⟨rfl, -⟩ := h
  · obtain ⟨entries', hlist', -⟩ := Value.exists_of_rel hdocument.rel_asList? hlist
    exact ⟨entries', .inl hlist'⟩
  · exact ⟨[], .inr ⟨hdocument.eq_of_ne (by simp) (by simp) (by simp), rfl⟩⟩

theorem isTarget_iff (h : Value.Rearranged document document') :
    IsTarget document type p ↔ IsTarget document' type p :=
  ⟨fun htarget => htarget.rearranged h, fun htarget => htarget.rearranged h.symm⟩

/-! ## The files that are included -/

theorem addAll_filesNamed (find : Text → Option Mapping) (directories names paths : List Text) :
    addAll (answering find) directories (filesNamed find directories names) paths =
      .ok (filesNamed find directories
        (names ++ paths.filterMap fun p => foundName? find directories (.str p))) := by
  induction paths generalizing names with
  | nil => simp [addAll]
  | cons p paths ih =>
    rw [addAll, add_filesNamed, List.filterMap_cons]
    show addAll _ _ _ paths = _
    rw [ih]
    cases foundName? find directories (.str p) <;> simp

/-- A walk that comes to its end brings in the files that its tasks name, each by itself. -/
theorem included_eq_filesNamed (h : visits document type = .ok walk)
    (hends : ∀ visit ∈ walk, visit.isTask = true) (find : Text → Option Mapping)
    (directory : Text) (role : Option Text) :
    included (answering find) document directory type role =
      .ok (filesNamed find (searchDirectories directory type role)
        ((walk.filterMap Visit.target?).filterMap fun p =>
          foundName? find (searchDirectories directory type role) (.str p))) := by
  rw [included, targets, h]
  show (addAll _ _ [] ((walk.takeWhile Visit.isTask).filterMap Visit.target?) >>= fun files =>
    if walk.all Visit.isTask = true then pure files else throw Failure.endless) = _
  have hadd : addAll (answering find) (searchDirectories directory type role) []
      (walk.filterMap Visit.target?) = .ok (filesNamed _ _ ([] ++ _)) :=
    addAll_filesNamed find _ [] _
  rw [List.takeWhile_eq_self_iff.mpr hends, hadd, List.nil_append]
  exact if_pos (List.all_eq_true.mpr hends)

/-- The directory with the variables of the role, for the tasks of a role. -/
def ownVariables? (type : FileType) (role : Option Text) : Option Text :=
  if type = .tasksInRole then (role.filter (· ≠ [])).map (Path.join · "vars") else none

theorem searchDirectories_eq (directory : Text) (type : FileType) (role : Option Text) :
    searchDirectories directory type role = (ownVariables? type role).toList ++ [directory] := by
  by_cases htype : type = .tasksInRole
  · subst htype
    match role with
    | none => rfl
    | some [] => rfl
    | some (c :: r) => rfl
  · rw [ownVariables?, if_neg htype, searchDirectories]
    · rfl
    · intro r hrole
      exact absurd hrole htype

theorem mem_targets (hwalk : Meets walk (IsTaskOf document type)) :
    p ∈ walk.filterMap Visit.target? ↔ IsTarget document type p := by
  rw [List.mem_filterMap, IsTarget]
  constructor
  · rintro ⟨visit, hvisit, htarget⟩
    cases visit with
    | task task => exact ⟨task, (hwalk.task_mem task).mp hvisit, htarget⟩
    | again => cases htarget
  · rintro ⟨task, htask, htarget⟩
    exact ⟨.task task, (hwalk.task_mem task).mpr htask, htarget⟩

theorem foundName?_str {q : Text} {find : Text → Option Mapping} {directories : List Text} :
    foundName? find directories (.str q) = some p ↔
      q = p ∧ p ≠ [] ∧ isTemplated p = false ∧ (found? find directories p).isSome := by
  rw [foundName?, nameOf?, Option.filter_eq_some_iff]
  simp only [Option.ite_none_left_eq_some, Bool.or_eq_true, List.isEmpty_iff, not_or,
    Bool.not_eq_true, Option.some.injEq]
  constructor
  · rintro ⟨⟨⟨hne, htemplate⟩, rfl⟩, hfound⟩
    exact ⟨rfl, hne, htemplate, hfound⟩
  · rintro ⟨rfl, hne, htemplate, hfound⟩
    exact ⟨⟨⟨hne, htemplate⟩, rfl⟩, hfound⟩

/-- A file is brought in as it is found in the search directories, if it is a target that has a name
    and no template in it. -/
theorem find?_included (hwalk : Meets walk (IsTaskOf document type)) (find : Text → Option Mapping)
    (directories : List Text) (p : Text) (m : Mapping) :
    (filesNamed find directories ((walk.filterMap Visit.target?).filterMap fun p =>
        foundName? find directories (.str p))).find? p = some m ↔
      IsTarget document type p ∧ p ≠ [] ∧ isTemplated p = false ∧
        found? find directories p = some m := by
  have hmem : p ∈ (walk.filterMap Visit.target?).filterMap
      (fun p => foundName? find directories (.str p)) ↔ IsTarget document type p ∧ p ≠ [] ∧
        isTemplated p = false ∧ (found? find directories p).isSome := by
    rw [List.mem_filterMap, ← mem_targets hwalk]
    simp only [foundName?_str]
    -- A name is found where the tasks ask for it.
    constructor
    · rintro ⟨q, hq, rfl, hname⟩
      exact ⟨hq, hname⟩
    · rintro ⟨hp, hname⟩
      exact ⟨p, hp, rfl, hname⟩
  rw [find?_filesNamed, Option.ite_none_right_eq_some, hmem]
  -- What is held is what one of the directories has.
  constructor
  · rintro ⟨⟨htarget, hne, htemplate, -⟩, hfound⟩
    exact ⟨htarget, hne, htemplate, hfound⟩
  · rintro ⟨htarget, hne, htemplate, hfound⟩
    exact ⟨⟨htarget, hne, htemplate, Option.isSome_of_eq_some hfound⟩, hfound⟩

/-- Included variable files, with a loader that answers for every path: the files of a document that
    does not hold itself come in once each. Those are the targets of its tasks and of the tasks in
    their blocks, at any depth, that have a name and no template in it and are found, with the mapping
    of the first search directory in which there is one; the variables of the role are searched only
    for the tasks of a role, and then before the directory. The order of the tasks in any list makes
    no difference. -/
theorem included_iff_target (hparsed : IsParsed document entries)
    (hends : document.isEndless = false) (find : Text → Option Mapping) (directory : Text)
    (type : FileType) (role : Option Text) :
    ∃ files, included (answering find) document directory type role = .ok files ∧
      files.keys.Nodup ∧
      (∀ p m, files.find? p = some m ↔
        IsTarget document type p ∧ p ≠ [] ∧ isTemplated p = false ∧
          found? find ((ownVariables? type role).toList ++ [directory]) p = some m) ∧
      ∀ document', Value.Rearranged document document' →
        ∃ files', included (answering find) document' directory type role = .ok files' ∧
          files'.keys.Nodup ∧ ∀ p, files'.find? p = files.find? p := by
  obtain ⟨walk, hvisits, hwalk⟩ := visits_meets hparsed hends type
  have hfind := find?_included hwalk find (searchDirectories directory type role)
  refine ⟨_, included_eq_filesNamed hvisits hwalk.ends find directory role,
    nodup_keys_filesNamed _ _ _, ?_, fun document' hdocument => ?_⟩
  · rw [← searchDirectories_eq]
    exact hfind
  · -- Another order of the tasks leads to the same targets.
    obtain ⟨entries', hparsed'⟩ := exists_isParsed hparsed hdocument
    have hends' : document'.isEndless = false := hdocument.isEndless_eq ▸ hends
    obtain ⟨walk', hvisits', hwalk'⟩ := visits_meets hparsed' hends' type
    refine ⟨_, included_eq_filesNamed hvisits' hwalk'.ends find directory role,
      nodup_keys_filesNamed _ _ _, fun p => Option.ext fun m => ?_⟩
    rw [hfind, find?_included hwalk', isTarget_iff hdocument]

/-! ## Samples -/

namespace Sample

/-- A task whose block has a task whose `always` includes a file. -/
def nestedTask : Value :=
  .map [(.str "rescue", .str "no tasks"), (.str "block", .list [.null, .map [(.str "always", .list
    [.map [(.str "ansible.builtin.include_vars", .map [(.str "file", .str "b.yml")])]])]])]

/-- Tasks of a role, one of which names its file by a template. -/
def roleTasks : List Value :=
  [.map [(.str "include_vars", .str "a.yml")], .str "no task", nestedTask,
    .map [(.str "include_vars", .str "\x7b\x7b\x7d\x7d.yml")]]

/-- A file among the variables of a role and another of its name among the tasks, and one that is
    only among the tasks. -/
def roleFiles (path : Text) : Option Mapping :=
  Table.find? path
    [("/r/vars/a.yml".toList, numbered 1), ("/r/tasks/a.yml".toList, numbered 2),
      ("/r/tasks/b.yml".toList, numbered 3)]

end Sample

/-- The file of a task in a block of a block comes in from beside the tasks, that of a task from the
    variables of the role, and the order of the tasks makes no difference. -/
theorem included_sample :
    ∃ files, included (answering Sample.roleFiles) (.list Sample.roleTasks) "/r/tasks" .tasksInRole
        (some "/r".toList) = .ok files ∧
      files.find? "a.yml" = some (Sample.numbered 1) ∧
      files.find? "b.yml" = some (Sample.numbered 3) ∧
      files.find? "\x7b\x7b\x7d\x7d.yml" = none ∧
      ∃ files', included (answering Sample.roleFiles) (.list Sample.roleTasks.reverse) "/r/tasks"
          .tasksInRole (some "/r".toList) = .ok files' ∧ ∀ p, files'.find? p = files.find? p := by
  have hparsed : IsParsed (.list Sample.roleTasks) Sample.roleTasks := .inl rfl
  obtain ⟨files, hfiles, -, hfind, horder⟩ :=
    included_iff_target hparsed (by decide) Sample.roleFiles "/r/tasks" .tasksInRole (some "/r".toList)
  refine ⟨files, hfiles, (hfind _ _).mpr ⟨?a, by decide, by decide, by decide +kernel⟩,
    (hfind _ _).mpr ⟨?b, by decide, by decide, by decide +kernel⟩, ?template, ?order⟩
  case a => exact ⟨_, .mem rfl List.mem_cons_self rfl, rfl⟩
  case b =>
    have hnested : Sample.nestedTask ∈ Sample.roleTasks := by simp [Sample.roleTasks]
    have hblock : "block".toList ∈ Prompt.blockSections := by decide
    have halways : "always".toList ∈ Prompt.blockSections := by decide
    have htask : HasTask (.list Sample.roleTasks)
        [(.str "ansible.builtin.include_vars", .map [(.str "file", .str "b.yml")])] :=
      .block rfl hnested rfl hblock rfl
        (.block rfl (List.mem_cons_of_mem _ List.mem_cons_self) rfl halways rfl
          (.mem rfl List.mem_cons_self rfl))
    exact ⟨_, htask, by decide +kernel⟩
  case template =>
    refine Option.eq_none_iff_forall_ne_some.mpr fun m hm => ?_
    obtain ⟨-, -, htemplate, -⟩ := (hfind _ m).mp hm
    exact absurd htemplate (by decide)
  case order =>
    obtain ⟨files', hfiles', -, hsame⟩ := horder _ (.list (List.reverse_perm _).symm)
    exact ⟨files', hfiles', hsame⟩

end PlaybookAssist.Variables
