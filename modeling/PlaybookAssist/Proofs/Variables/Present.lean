import Mathlib.Data.List.Basic
import Mathlib.Data.List.TakeWhile
import PlaybookAssist.Proofs.Files.Load
import PlaybookAssist.Variables

/-!
# Variable files that are present

A document names its variable files in groups: of each group the first file counts that is present,
and a file is looked for in one directory after the other. If loading fails on none of the files that
are tried, the variables of a document are those of the first file of each group, and a group without
a file that is present is left out.

## Main definitions

- `Variables.Candidate`, `Variables.candidates` : the places at which the files of a group may be
- `Variables.Opens` : loading fails on none of the candidates that are tried
- `Variables.gather` : the files that are present
- `Variables.OpensListed`, `Variables.OpensIncluded` : loading fails on none of the files of a document
- `Variables.presentListed`, `Variables.presentIncluded` : the files of a document that are present

## Main statements

- `Variables.add_eq_ok_iff` : what one more file adds
- `Variables.listed_eq_ok_iff`, `Variables.included_eq_ok_iff` : what the plays and the tasks of a
  document bring in
-/

namespace PlaybookAssist.Variables

/-- A place at which the file of a name may be. -/
structure Candidate where
  name : Text
  path : Text
  deriving DecidableEq, Repr

variable [Place] {fs : FileTree} {directories : List Text} {directory p : Text} {m : Mapping}
  {files files' : VariableFiles} {cs cs' : List Candidate} {group : List Value} {value : Value}

/-! ## Candidates -/

/-- The places at which the file of a name may be, in the order in which they are tried. -/
def placesOf (directories : List Text) (p : Text) : List Candidate :=
  directories.map fun directory =>
    ⟨p, Path.normalise (if Path.isAbsolute p then p else Path.join directory p)⟩

/-- The name of the file that a value names: a text that is not empty and has no template in it. -/
def nameOf? : Value → Option Text
  | .str p => if p.isEmpty || isTemplated p then none else some p
  | _ => none

/-- The places at which the files of a group may be. -/
def candidates (directories : List Text) (group : List Value) : List Candidate :=
  (group.filterMap nameOf?).flatMap (placesOf directories)

/-- The first file that is present, under its name. -/
def first? (fs : FileTree) (cs : List Candidate) : Option (Text × Mapping) :=
  cs.findSome? fun c => (fs.mapping? c.path).map fun m => (c.name, m)

/-- Loading fails on none of the candidates up to the first that is present; the others are not
    tried. -/
def Opens (fs : FileTree) : List Candidate → Prop
  | [] => True
  | c :: cs => ¬ fs.Fails c.path ∧ (fs.mapping? c.path = none → Opens fs cs)

/-- The files that are present: of each group the first. -/
def gather (fs : FileTree) (directories : List Text) (groups : List (List Value)) : VariableFiles :=
  Table.setAll [] (groups.filterMap fun group => first? fs (candidates directories group))

theorem first?_cons (fs : FileTree) (c : Candidate) (cs : List Candidate) :
    first? fs (c :: cs) = ((fs.mapping? c.path).map fun m => (c.name, m)).or (first? fs cs) := by
  rw [first?, List.findSome?_cons]
  cases fs.mapping? c.path <;> rfl

theorem first?_append (fs : FileTree) (cs cs' : List Candidate) :
    first? fs (cs ++ cs') = (first? fs cs).or (first? fs cs') :=
  List.findSome?_append

theorem opens_append : Opens fs (cs ++ cs') ↔ Opens fs cs ∧ (first? fs cs = none → Opens fs cs') := by
  induction cs with
  | nil => simp [Opens, first?]
  | cons c cs ih =>
    rw [List.cons_append, Opens, Opens, ih, first?_cons]
    cases fs.mapping? c.path with
    | none => simp [and_assoc]
    | some m =>
      -- A file that is present keeps those after it from being tried.
      simp

/-- A file is found under the name that it is looked for. -/
theorem first?_placesOf (fs : FileTree) (directories : List Text) (p : Text) :
    first? fs (placesOf directories p) =
      ((first? fs (placesOf directories p)).map Prod.snd).map fun m => (p, m) := by
  induction directories with
  | nil => rfl
  | cons directory directories ih =>
    rw [placesOf, List.map_cons, first?_cons]
    dsimp only
    cases fs.mapping? (Path.normalise (if Path.isAbsolute p then p else Path.join directory p)) with
    | none => exact ih
    | some m => rfl

theorem loadFrom_eq_ok_iff {result : Option Mapping} : loadFrom fs p directories = .ok result ↔
    Opens fs (placesOf directories p) ∧
      result = (first? fs (placesOf directories p)).map Prod.snd := by
  induction directories with
  | nil => exact ok_eq_ok_iff trivial
  | cons directory directories ih =>
    rw [loadFrom, FileTree.bind_loadMapping_eq_ok_iff, placesOf, List.map_cons, ← placesOf, Opens,
      first?_cons, and_assoc]
    refine and_congr_right fun _ => ?_
    dsimp only
    cases fs.mapping? (Path.normalise (if Path.isAbsolute p then p else Path.join directory p)) with
    | none => simpa using ih
    | some m => simp [pure, Except.pure, eq_comm]

omit [Place] in
theorem candidates_cons (directories : List Text) (value : Value) (group : List Value) :
    candidates directories (value :: group) =
      candidates directories [value] ++ candidates directories group := by
  rw [candidates, ← List.singleton_append, List.filterMap_append, List.flatMap_append]
  rfl

omit [Place] in
theorem candidates_of_none (h : nameOf? value = none) (directories : List Text) :
    candidates directories [value] = [] := by
  simp [candidates, h]

omit [Place] in
theorem candidates_of_some (h : nameOf? value = some p) (directories : List Text) :
    candidates directories [value] = placesOf directories p := by
  simp [candidates, h]

/-! ## One more file -/

/-- Every file is there as it is found where it is looked for. -/
def Held (fs : FileTree) (directories : List Text) (files : VariableFiles) : Prop :=
  ∀ p m, files.find? p = some m →
    Opens fs (placesOf directories p) ∧ first? fs (placesOf directories p) = some (p, m)

/-- What is found for a group is found for its own name alone. -/
theorem first?_placesOf_of_candidates (hopens : Opens fs (candidates directories group))
    (h : first? fs (candidates directories group) = some (p, m)) :
    Opens fs (placesOf directories p) ∧ first? fs (placesOf directories p) = some (p, m) := by
  -- Induction over the values of the group; the first that is found decides.
  induction group with
  | nil => cases h
  | cons value group ih =>
    rw [candidates_cons] at hopens h
    rw [opens_append] at hopens
    rw [first?_append] at h
    cases hfirst : first? fs (candidates directories [value]) with
    | none =>
      rw [hfirst] at h
      exact ih (hopens.2 hfirst) h
    | some found =>
      -- The first value decides, and all its candidates have its name.
      rw [hfirst] at h
      cases h
      cases hvalue : nameOf? value with
      | none =>
        rw [candidates_of_none hvalue] at hfirst
        cases hfirst
      | some q =>
        rw [candidates_of_some hvalue] at hfirst hopens
        have hname := first?_placesOf fs directories q
        rw [hfirst] at hname
        cases hname
        exact ⟨hopens.1, hfirst⟩

theorem Held.setAll (h : Held fs directories files)
    (hopens : Opens fs (candidates directories group)) :
    Held fs directories (files.setAll (first? fs (candidates directories group)).toList) := by
  -- Nothing comes in, or one entry does.
  cases hfirst : first? fs (candidates directories group) with
  | none => exact h
  | some found =>
    obtain ⟨p, m⟩ := found
    intro q m' hfind
    -- Only the entry that has come in is new.
    show Opens fs (placesOf directories q) ∧ first? fs (placesOf directories q) = some (q, m')
    by_cases hq : q = p
    · subst hq
      have hself : m = m' := by
        have hset : (files.set q m).find? q = some m' := hfind
        rw [Table.find?_set_self] at hset
        exact Option.some.inj hset
      subst hself
      exact first?_placesOf_of_candidates hopens hfirst
    -- Every other entry was held before.
    · apply h
      have hset : (files.set p m).find? q = some m' := hfind
      rwa [Table.find?_set_of_ne hq] at hset

omit [Place] in
theorem add_of_none (h : nameOf? value = none) (load : Loader) (directories : List Text)
    (files : VariableFiles) : add load directories files value = .ok (files, false) := by
  cases value with
  | str p =>
    rw [nameOf?] at h
    split at h
    case isTrue hp => rw [add, if_pos hp]
    case isFalse => cases h
  | _ => rfl

omit [Place] in
theorem add_of_some (h : nameOf? value = some p) (load : Loader) (directories : List Text)
    (files : VariableFiles) : add load directories files value =
      if files.hasKey p then .ok (files, true)
      else loadFrom load p directories >>= fun loaded =>
        .ok (files.setAll (loaded.map fun m => (p, m)).toList, loaded.isSome) := by
  cases value with
  | str q =>
    rw [nameOf?] at h
    split at h
    case isTrue => cases h
    case isFalse hq =>
      cases h
      rw [add, if_neg hq]
      -- whether the file has been found is what is stored and what is told
      congr 2
      funext loaded
      cases loaded <;> rfl
  | _ => cases h

/-- Adding a file gives the files with it, if it is present, and tells whether it is; loading must
    not fail on a place that is tried. -/
theorem add_eq_ok_iff {result : VariableFiles × Bool} (h : Held fs directories files) :
    add fs directories files value = .ok result ↔ Opens fs (candidates directories [value]) ∧
      result = (files.setAll (first? fs (candidates directories [value])).toList,
        (first? fs (candidates directories [value])).isSome) := by
  cases hvalue : nameOf? value with
  | none =>
    -- Without a name nothing is loaded.
    rw [add_of_none hvalue, candidates_of_none hvalue]
    exact ok_eq_ok_iff trivial
  | some p =>
    rw [add_of_some hvalue, candidates_of_some hvalue]
    cases hfind : files.find? p with
    | some m =>
      -- The file is not loaded again: it would be found just as it is there.
      obtain ⟨hopens, hfirst⟩ := h p m hfind
      have hsame : files.setAll (some (p, m)).toList = files := Table.set_of_find? hfind
      rw [Table.hasKey, hfind, hfirst, hsame]
      exact ok_eq_ok_iff hopens
    | none =>
      rw [Table.hasKey, hfind, first?_placesOf]
      -- Both sides open the same places in the same order.
      show (loadFrom fs p directories >>= _) = _ ↔ _
      rw [bind_eq_ok]
      constructor
      · intro h
        obtain ⟨loaded, hload, hresult⟩ := h
        obtain ⟨hopens, rfl⟩ := loadFrom_eq_ok_iff.mp hload
        refine ⟨hopens, ?_⟩
        rw [Option.isSome_map]
        exact (Except.ok.inj hresult).symm
      · intro h
        refine ⟨_, loadFrom_eq_ok_iff.mpr ⟨h.1, rfl⟩, ?_⟩
        simp only [h.2, Option.isSome_map]

/-! ## Groups of files -/

/-- The first file of a group that is present is added; the files after it are not tried. -/
theorem addFirst_eq_ok_iff (h : Held fs [directory] files) :
    addFirst fs directory files group = .ok files' ↔ Opens fs (candidates [directory] group) ∧
      files' = files.setAll (first? fs (candidates [directory] group)).toList := by
  induction group with
  | nil => exact ok_eq_ok_iff trivial
  | cons value group ih =>
    rw [addFirst, bind_eq_ok, candidates_cons, opens_append, first?_append]
    simp only [add_eq_ok_iff h, and_assoc, exists_and_left, exists_eq_left]
    apply and_congr_right
    intro _
    cases hfirst : first? fs (candidates [directory] [value]) with
    | none => simpa [Table.setAll] using ih
    | some found => simp [pure, Except.pure, eq_comm]

/-- Groups are added one after the other, each step a step that adds the first file of its group. -/
theorem foldlM_eq_ok_iff {α : Type} {step : VariableFiles → α → Except Failure VariableFiles}
    {groupOf : α → List Value}
    (hstep : ∀ x files files', Held fs directories files → (step files x = .ok files' ↔
      Opens fs (candidates directories (groupOf x)) ∧
        files' = files.setAll (first? fs (candidates directories (groupOf x))).toList))
    (xs : List α) (h : Held fs directories files) :
    xs.foldlM step files = .ok files' ↔
      (∀ x ∈ xs, Opens fs (candidates directories (groupOf x))) ∧
        files' = files.setAll
          (xs.filterMap fun x => first? fs (candidates directories (groupOf x))) := by
  induction xs generalizing files with
  | nil => exact ok_eq_ok_iff (List.forall_mem_nil _)
  | cons x xs ih =>
    rw [List.foldlM_cons, bind_eq_ok, List.forall_mem_cons, List.filterMap_eq_flatMap_toList,
      List.flatMap_cons, ← List.filterMap_eq_flatMap_toList, Table.setAll_append]
    -- The induction carries `Held`: without it a step could find a file other than the one there.
    constructor
    · intro hrun
      obtain ⟨next, hnext, hrest⟩ := hrun
      obtain ⟨hopens, rfl⟩ := (hstep x files next h).mp hnext
      obtain ⟨hothers, hfiles⟩ := (ih (h.setAll hopens)).mp hrest
      exact ⟨⟨hopens, hothers⟩, hfiles⟩
    · intro hrun
      obtain ⟨⟨hopens, hothers⟩, hfiles⟩ := hrun
      exact ⟨_, (hstep x files _ h).mpr ⟨hopens, rfl⟩, (ih (h.setAll hopens)).mpr ⟨hothers, hfiles⟩⟩

theorem held_nil (fs : FileTree) (directories : List Text) : Held fs directories [] := by
  intro p m h
  cases h

/-! ## Files that plays list -/

/-- The groups of files that some plays list. An entry that is a list is a group, any other entry a
    group of its own. -/
def listedGroups (plays : List Value) : List (List Value) :=
  (plays.flatMap listedIn).map fun entry => entry.asList?.getD [entry]

/-- Loading fails on none of the files that are tried for what the plays of the document list. -/
def OpensListed (fs : FileTree) (document : Value) (directory : Text) : Prop :=
  ∃ plays, entriesOf document = .ok plays ∧
    ∀ group ∈ listedGroups plays, Opens fs (candidates [directory] group)

/-- The files that the plays of a document list and that are present. -/
def presentListed (fs : FileTree) (document : Value) (directory : Text) : VariableFiles :=
  gather fs [directory] (listedGroups ((entriesOf document).toOption.getD []))

theorem listed_eq_ok_iff {document : Value} : listed fs document directory = .ok files ↔
    OpensListed fs document directory ∧ files = presentListed fs document directory := by
  have hfold (entries : List Value) (files : VariableFiles) : addEntries fs directory files entries =
      entries.foldlM (fun files e => addFirst fs directory files (e.asList?.getD [e])) files := by
    induction entries generalizing files with
    | nil => rfl
    | cons e entries ih =>
      rw [addEntries, List.foldlM_cons]
      exact congrArg _ (funext ih)
  have hstep (e : Value) (files files' : VariableFiles) (h : Held fs [directory] files) :=
    @addFirst_eq_ok_iff _ fs directory files files' (e.asList?.getD [e]) h
  rw [listed, OpensListed, presentListed]
  cases entriesOf document with
  | error e =>
    -- Without entries nothing is listed.
    apply error_eq_ok_iff
    intro h
    obtain ⟨⟨plays, hplays, -⟩, -⟩ := h
    cases hplays
  | ok plays =>
    show addEntries fs directory [] (plays.flatMap listedIn) = _ ↔ _
    -- Each entry lists one group, and the groups are gathered one after the other.
    simp only [Except.ok.injEq, exists_eq_left']
    rw [hfold, foldlM_eq_ok_iff hstep _ (held_nil _ _), listedGroups, List.forall_mem_map]
    apply and_congr_right
    intro _
    show _ ↔ files = gather fs [directory] ((plays.flatMap listedIn).map _)
    rw [gather, List.filterMap_map]
    rfl

/-! ## Files that tasks include -/

/-- The groups of files that the tasks on a walk include: each file is a group of its own. -/
def includedGroups (walk : List Visit) : List (List Value) :=
  (walk.filterMap Visit.target?).map fun p => [.str p]

theorem addAll_eq_ok_iff (h : Held fs directories files) (paths : List Text) :
    addAll fs directories files paths = .ok files' ↔
      (∀ p ∈ paths, Opens fs (candidates directories [.str p])) ∧
        files' = files.setAll
          (paths.filterMap fun p => first? fs (candidates directories [.str p])) := by
  have hfold (files : VariableFiles) : addAll fs directories files paths =
      paths.foldlM (fun files p => (add fs directories files (.str p)).map Prod.fst) files := by
    -- Induction over the paths, which are taken one by one.
    induction paths generalizing files with
    | nil => rfl
    | cons p paths ih =>
      rw [addAll, List.foldlM_cons]
      cases add fs directories files (.str p) with
      | error e => rfl
      | ok result => exact ih result.1
  rw [hfold]
  apply foldlM_eq_ok_iff _ paths h
  intro p files files' h
  rw [map_eq_ok]
  simp only [add_eq_ok_iff h, and_assoc, exists_and_left, exists_eq_left]

/-- The walk through the tasks of the document ends, and loading fails on none of the files that are
    tried for what they include. -/
def OpensIncluded (fs : FileTree) (document : Value) (directory : Text) (type : FileType)
    (role : Option Text) : Prop :=
  ∃ walk, visits document type = .ok walk ∧ (∀ visit ∈ walk, visit.isTask = true) ∧
    ∀ group ∈ includedGroups walk,
      Opens fs (candidates (searchDirectories directory type role) group)

/-- The files that the tasks of a document include and that are present. -/
def presentIncluded (fs : FileTree) (document : Value) (directory : Text) (type : FileType)
    (role : Option Text) : VariableFiles :=
  gather fs (searchDirectories directory type role)
    (includedGroups ((visits document type).toOption.getD []))

theorem included_eq_ok_iff {document : Value} {type : FileType} {role : Option Text} :
    included fs document directory type role = .ok files ↔
      OpensIncluded fs document directory type role ∧
        files = presentIncluded fs document directory type role := by
  rw [included, targets, OpensIncluded, presentIncluded]
  cases visits document type with
  -- A document without visits includes nothing.
  | error e =>
    apply error_eq_ok_iff
    intro h
    obtain ⟨⟨walk, hwalk, -⟩, -⟩ := h
    cases hwalk
  | ok walk =>
    show (addAll _ _ _ ((walk.takeWhile Visit.isTask).filterMap Visit.target?) >>= fun files =>
        if walk.all Visit.isTask = true then pure files else throw Failure.endless) = .ok files ↔
      _ ∧ files = gather _ _ ((walk.filterMap Visit.target?).map fun p => [.str p])
    rw [bind_eq_ok, gather, List.filterMap_map]
    simp only [Except.ok.injEq, exists_eq_left', addAll_eq_ok_iff (held_nil _ _), includedGroups,
      List.forall_mem_map]
    by_cases hall : walk.all Visit.isTask = true
    · -- The walk ends, so no task is left out.
      have htasks : ∀ visit ∈ walk, visit.isTask = true := List.all_eq_true.mp hall
      rw [List.takeWhile_eq_self_iff.mpr htasks]
      simp only [if_pos hall]
      constructor
      · intro h
        obtain ⟨files', hadd, hfiles⟩ := h
        cases hfiles
        exact ⟨⟨htasks, hadd.1⟩, hadd.2⟩
      · intro h
        exact ⟨files, ⟨h.1.2, h.2⟩, rfl⟩
    · -- The files on the way are loaded, and then the walk goes on without end.
      simp only [if_neg hall]
      constructor
      · intro h
        obtain ⟨files', -, hfiles⟩ := h
        cases hfiles
      · intro h
        exact absurd (List.all_eq_true.mpr h.1.1) hall

end PlaybookAssist.Variables
