import Mathlib.Data.List.Induction
import PlaybookAssist.Proofs.Value.Content
import PlaybookAssist.Proofs.Variables.Present

/-!
# Variable files that are selected

With a loader that answers for every path, the variable files of a document do not depend on the order
in which they come in: a file that is there already is there as it would be found again. So each entry
of a document selects a file by itself, and the files of a document are those selected, each once.

## Main definitions

- `Variables.answering` : a loader that answers for every path
- `Variables.found?` : what is found of a file in some directories
- `Variables.IsParsed` : what parsing makes of a text
- `Variables.selected?` : the file that an entry of a play selects
- `Variables.filesNamed` : the files of some names that are found, each once

## Main statements

- `Variables.add_filesNamed` : one more file among those of some names
- `Variables.listed_eq_selected` : what the plays of a document bring in
-/

namespace PlaybookAssist.Variables

variable {find : Text → Option Mapping} {directories : List Text} {directory p : Text}
  {names : List Text} {value document : Value} {plays : List Value}

/-! ## Files of some names -/

/-- The loader that answers for every path as the function says. -/
def answering (find : Text → Option Mapping) : Loader :=
  fun path => .ok (find path)

/-- The mapping of a file in the first of the directories in which there is one. -/
def found? (find : Text → Option Mapping) (directories : List Text) (p : Text) : Option Mapping :=
  directories.findSome? fun directory => find (Path.normalise (Path.join directory p))

/-- The name of the file that a value names, if the file is found. -/
def foundName? (find : Text → Option Mapping) (directories : List Text) (value : Value) :
    Option Text :=
  (nameOf? value).filter fun p => (found? find directories p).isSome

/-- The files of the names that are found, each where its name comes first. -/
def filesNamed (find : Text → Option Mapping) (directories : List Text) (names : List Text) :
    VariableFiles :=
  names.eraseDups.filterMap fun p => (found? find directories p).map fun m => (p, m)

theorem loadFrom_answering (find : Text → Option Mapping) (p : Text) (directories : List Text) :
    loadFrom (answering find) p directories = .ok (found? find directories p) := by
  induction directories with
  | nil => rfl
  | cons directory directories ih =>
    -- Joined to a directory, an absolute path stays as it is.
    have hjoin : (if Path.isAbsolute p then p else Path.join directory p) = Path.join directory p := by
      rw [Path.join]
      split <;> rfl
    rw [loadFrom, hjoin, found?, List.findSome?_cons]
    simp only [answering, bind, Except.bind]
    cases find (Path.normalise (Path.join directory p)) with
    | some m => rfl
    | none => exact ih

theorem filesNamed_concat_of_mem (h : p ∈ names) :
    filesNamed find directories (names ++ [p]) = filesNamed find directories names := by
  have hsame : [p].removeAll names = [] := by simp [List.removeAll, h]
  rw [filesNamed, List.eraseDups_append, hsame, List.eraseDups_nil, List.append_nil, filesNamed]

theorem filesNamed_concat_of_not_mem (h : p ∉ names) :
    filesNamed find directories (names ++ [p]) = filesNamed find directories names ++
      ((found? find directories p).map fun m => (p, m)).toList := by
  have hnew : [p].removeAll names = [p] := by simp [List.removeAll, h]
  rw [filesNamed, List.eraseDups_append, hnew, List.filterMap_append, filesNamed]
  cases hfound : found? find directories p <;> simp [List.eraseDups_cons, hfound]

/-- A file is there as it is found, if it is among those named. -/
theorem find?_filesNamed (find : Text → Option Mapping) (directories names : List Text) (p : Text) :
    (filesNamed find directories names).find? p =
      if p ∈ names then found? find directories p else none := by
  induction names using List.reverseRecOn with
  | nil => rfl
  | append_singleton names q ih =>
    -- by the last name: one that has come before changes nothing, a new one adds at most itself
    by_cases hq : q ∈ names
    · rw [filesNamed_concat_of_mem hq, ih]
      by_cases hp : p = q
      · simp [hp, hq]
      · simp [hp]
    · rw [filesNamed_concat_of_not_mem hq, Table.find?_append, ih]
      by_cases hp : p = q
      · subst hp
        cases found? find directories p <;> simp [hq, Table.find?]
      · cases found? find directories q <;> simp [hp, Ne.symm hp, Table.find?]

theorem mem_keys_filesNamed : p ∈ (filesNamed find directories names).keys ↔
    p ∈ names ∧ (found? find directories p).isSome := by
  rw [← Table.hasKey_iff, Table.hasKey, find?_filesNamed]
  by_cases hp : p ∈ names <;> simp [hp]

theorem nodup_keys_filesNamed (find : Text → Option Mapping) (directories names : List Text) :
    (filesNamed find directories names).keys.Nodup := by
  induction names using List.reverseRecOn with
  | nil => exact List.nodup_nil
  | append_singleton names q ih =>
    by_cases hq : q ∈ names
    · rw [filesNamed_concat_of_mem hq]
      exact ih
    · rw [filesNamed_concat_of_not_mem hq]
      cases found? find directories q with
      | none => simpa using ih
      -- the new name is not among the keys, so putting its file at the end is setting it
      | some m =>
        have hnew : q ∉ (filesNamed find directories names).keys := fun h =>
          hq (mem_keys_filesNamed.mp h).1
        rw [Option.map_some, Option.toList_some, ← Table.set_of_not_mem hnew]
        exact Table.nodup_keys_set ih

/-! ## One more file -/

/-- One more file among those of some names: it is added if it is found, and tells so. -/
theorem add_filesNamed (find : Text → Option Mapping) (directories names : List Text)
    (value : Value) :
    add (answering find) directories (filesNamed find directories names) value =
      .ok (filesNamed find directories (names ++ (foundName? find directories value).toList),
        (foundName? find directories value).isSome) := by
  cases hvalue : nameOf? value with
  -- A value without a name names nothing.
  | none => simp [add_of_none hvalue, foundName?, hvalue]
  | some p =>
    have hthere : (filesNamed find directories names).hasKey p = true ↔
        p ∈ names ∧ (found? find directories p).isSome :=
      Table.hasKey_iff.trans mem_keys_filesNamed
    rw [add_of_some hvalue, loadFrom_answering, foundName?, hvalue, Option.filter_some]
    -- The file is not there, or it is loaded, or it is there already.
    cases hfound : found? find directories p with
    | none =>
      rw [hfound] at hthere
      simp [hthere, Table.setAll, bind, Except.bind]
    | some m =>
      rw [hfound] at hthere
      by_cases hp : p ∈ names
      · -- The file is there, and it is not loaded again.
        simp [hthere, hp, filesNamed_concat_of_mem hp]
      · have hnew : p ∉ (filesNamed find directories names).keys := fun h =>
          -- A new name is set behind the others.
          hp (mem_keys_filesNamed.mp h).1
        simp [hthere, hp, hfound, filesNamed_concat_of_not_mem hp, Table.setAll, bind,
          Except.bind, Table.set_of_not_mem hnew]

/-! ## Files that plays list -/

/-- The name of the file that an entry of a play selects: of a list the first of its files that is
    found, otherwise the file of the entry if it is found. -/
def selected? (find : Text → Option Mapping) (directory : Text) (entry : Value) : Option Text :=
  match entry.asList? with
  | some candidates => candidates.findSome? (foundName? find [directory])
  | none => foundName? find [directory] entry

theorem addFirst_filesNamed (find : Text → Option Mapping) (directory : Text) (names : List Text)
    (candidates : List Value) :
    addFirst (answering find) directory (filesNamed find [directory] names) candidates =
      .ok (filesNamed find [directory]
        (names ++ (candidates.findSome? (foundName? find [directory])).toList)) := by
  induction candidates with
  | nil => simp [addFirst]
  | cons value candidates ih =>
    rw [addFirst, add_filesNamed, List.findSome?_cons]
    cases foundName? find [directory] value with
    | some p => rfl
    | none => simpa [bind, Except.bind] using ih

theorem addEntries_filesNamed (find : Text → Option Mapping) (directory : Text)
    (names : List Text) (entries : List Value) :
    addEntries (answering find) directory (filesNamed find [directory] names) entries =
      .ok (filesNamed find [directory] (names ++ entries.filterMap (selected? find directory))) := by
  induction entries generalizing names with
  | nil => simp [addEntries]
  | cons entry entries ih =>
    have hselected : (entry.asList?.getD [entry]).findSome? (foundName? find [directory]) =
        selected? find directory entry := by
      rw [selected?]
      cases entry.asList? <;> simp
    rw [addEntries, addFirst_filesNamed, hselected, List.filterMap_cons]
    show addEntries _ _ _ entries = _
    rw [ih]
    cases selected? find directory entry <;> simp

/-- The document is what parsing makes of a text: a list of plays or tasks, or nothing when there is
    nothing to complete. -/
def IsParsed (document : Value) (entries : List Value) : Prop :=
  document.asList? = some entries ∨ document = .null ∧ entries = []

theorem entriesOf_of_isParsed (h : IsParsed document plays) : entriesOf document = .ok plays := by
  obtain h | ⟨rfl, rfl⟩ := h
  swap
  · rfl
  rw [entriesOf, ← Value.isTruthy_content, Value.asList?_eq_some_iff.mp h]
  cases plays <;> rfl

/-- The variable files of the plays of a document, in order: each entry selects a file by itself,
    whatever the entries before it have brought in, and each file that is selected is there once,
    with the mapping of its path in the directory. -/
theorem listed_eq_selected (h : IsParsed document plays) (find : Text → Option Mapping)
    (directory : Text) :
    listed (answering find) document directory =
      .ok (filesNamed find [directory]
        ((plays.flatMap listedIn).filterMap (selected? find directory))) := by
  rw [listed, entriesOf_of_isParsed h]
  exact addEntries_filesNamed find directory [] (plays.flatMap listedIn)

/-! ## Samples -/

namespace Sample

/-- A mapping to tell files apart by. -/
def numbered (n : Int) : Mapping :=
  [(.str "n", .int n)]

/-- Three files in a directory. -/
def files (path : Text) : Option Mapping :=
  Table.find? path
    [("/w/a.yml".toList, numbered 1), ("/w/b.yml".toList, numbered 2),
      ("/w/c.yml".toList, numbered 3)]

/-- A play with an entry for one file and one for the first of several, and a play that repeats
    one of these. -/
def twoPlays : List Value :=
  [.map [(.str "vars_files", .list [.str "a.yml", .list [.str "x.yml", .str "a.yml", .str "b.yml"]])],
    .map [(.str "vars_files", .list [.list [.str "\x7b\x7b c \x7d\x7d.yml", .null, .str "c.yml"],
      .str "./a.yml", .str "a.yml"])]]

end Sample

/-- A file that is there already is selected again, so the file after it does not come in; the same
    file by another name does. -/
theorem listed_sample :
    listed (answering Sample.files) (.list Sample.twoPlays) "/w" =
      .ok [("a.yml".toList, Sample.numbered 1), ("c.yml".toList, Sample.numbered 3),
        ("./a.yml".toList, Sample.numbered 1)] :=
  (listed_eq_selected (.inl rfl) Sample.files "/w").trans (congrArg Except.ok (by decide +kernel))

end PlaybookAssist.Variables
