import PlaybookAssist.Files.Load

/-!
# Files that count as absent

A variables file that cannot be opened, is malformed or holds no mapping counts as absent. Loading
fails on the other files that give no document: those whose path no file system takes, those that are
no text, and those in which a scalar does not fit its tag.

## Main definitions

- `FileTree.mapping?` : the mapping that a file holds
- `FileTree.Fails` : the file is one that loading fails on

## Main statements

- `FileTree.loadMapping_eq_ok_iff` : loading gives the mapping of every file on which it does not fail
-/

namespace PlaybookAssist

/-- An answer is given where nothing stands in its way. -/
theorem ok_eq_ok_iff {ε α : Type} {a b : α} {p : Prop} (h : p) :
    (.ok a : Except ε α) = .ok b ↔ p ∧ b = a := by
  rw [Except.ok.injEq, and_iff_right h]
  exact eq_comm

theorem error_eq_ok_iff {ε α : Type} {e : ε} {b : α} {p : Prop} (h : ¬ p) :
    (.error e : Except ε α) = .ok b ↔ p := by
  rw [iff_false_intro h, iff_false]
  intro heq
  cases heq

/-- What is done in steps gives an answer if each step does. -/
theorem bind_eq_ok {ε α β : Type} {x : Except ε α} {f : α → Except ε β} {b : β} :
    x >>= f = .ok b ↔ ∃ a, x = .ok a ∧ f a = .ok b := by
  cases x with
  | error e => exact error_eq_ok_iff fun ⟨a, h, _⟩ => (by cases h)
  | ok a =>
    constructor
    · intro h
      exact ⟨a, rfl, h⟩
    · rintro ⟨a', h, hf⟩
      cases h
      exact hf

theorem map_eq_ok {ε α β : Type} {x : Except ε α} {f : α → β} {b : β} :
    x.map f = .ok b ↔ ∃ a, x = .ok a ∧ b = f a := by
  cases x with
  | error e => exact error_eq_ok_iff fun ⟨a, h, _⟩ => (by cases h)
  | ok a =>
    constructor
    · intro h
      cases h
      exact ⟨a, rfl, rfl⟩
    · rintro ⟨a', h, rfl⟩
      cases h
      rfl

namespace FileTree

variable [Place] {fs : FileTree} {path : Text} {octets : Octets} {fault : Yaml.Fault}
  {m : Option Mapping}

/-- The mapping that a file holds: the file can be read, and its octets are a document that is a
    mapping. -/
def mapping? (fs : FileTree) (path : Text) : Option Mapping := do
  let octets ← (fs.readPath path).toOption
  let document ← (Yaml.loadFrom (.ofOctets octets)).toOption
  document.asMap?

/-- Loading fails on the file: its path can be no path, or something is wrong with its octets other
    than being malformed. -/
def Fails (fs : FileTree) (path : Text) : Prop :=
  (∃ f, fs.readPath path = .error (.failure f)) ∨
    ∃ octets fault, fs.readPath path = .ok octets ∧
      Yaml.loadFrom (.ofOctets octets) = .error fault ∧
      fault ≠ .malformed ∧ fault ≠ .unexpectedEnd

omit [Place] in
theorem ofYaml?_eq_none_iff : Failure.ofYaml? fault = none ↔
    fault = .malformed ∨ fault = .unexpectedEnd := by
  cases fault <;> simp [Failure.ofYaml?]

/-- Loading fails on a file that can be read if something is wrong with its octets other than being
    malformed. -/
theorem fails_iff_of_readPath (h : fs.readPath path = .ok octets) :
    fs.Fails path ↔ ∃ fault, Yaml.loadFrom (.ofOctets octets) = .error fault ∧
      Failure.ofYaml? fault ≠ none := by
  constructor
  · rintro (⟨f, hread⟩ | ⟨octets', fault, hread, hload, hfault⟩)
    -- a file that can be read is not one of those that cannot
    · rw [h] at hread
      cases hread
    · rw [h] at hread
      cases hread
      refine ⟨fault, hload, ?_⟩
      rwa [Ne, ofYaml?_eq_none_iff, not_or]
  · rintro ⟨fault, hload, hfault⟩
    rw [Ne, ofYaml?_eq_none_iff, not_or] at hfault
    exact .inr ⟨octets, fault, h, hload, hfault⟩

theorem fails_iff_of_error {e : LoadError} (h : fs.readPath path = .error e) :
    fs.Fails path ↔ ∃ f, e = .failure f := by
  constructor
  · rintro (⟨f, hread⟩ | ⟨octets, fault, hread, -⟩)
    · rw [h] at hread
      cases hread
      exact ⟨f, rfl⟩
    · rw [h] at hread
      cases hread
  · rintro ⟨f, rfl⟩
    exact .inl ⟨f, h⟩

/-- A file holds a document, or it counts as absent, or loading fails on it. -/
theorem load?_cases (fs : FileTree) (path : Text) :
    (∃ v, fs.load? path = .ok v ∧ ¬ fs.Fails path ∧ fs.mapping? path = v.bind Value.asMap?) ∨
      ∃ f, fs.load? path = .error f ∧ fs.Fails path := by
  rw [load?, load, mapping?]
  -- The three outcomes are those of reading and, after that, of loading.
  cases hread : fs.readPath path with
  | error e =>
    have hfails := fails_iff_of_error hread
    cases e with
    | failure f => exact .inr ⟨f, rfl, hfails.mpr ⟨f, rfl⟩⟩
    | _ =>
      -- The file cannot be opened.
      refine .inl ⟨none, rfl, fun h => ?_, rfl⟩
      obtain ⟨f, hf⟩ := hfails.mp h
      cases hf
  | ok octets =>
    have hfails := fails_iff_of_readPath hread
    dsimp only [bind, Except.bind, Option.bind, Except.toOption]
    cases hload : Yaml.loadFrom (.ofOctets octets) with
    | ok document =>
      refine .inl ⟨some document, rfl, fun h => ?_, rfl⟩
      obtain ⟨fault, hfault, -⟩ := hfails.mp h
      rw [hload] at hfault
      cases hfault
    | error fault =>
      dsimp only
      cases hf : Failure.ofYaml? fault with
      | none =>
        -- The file is malformed.
        refine .inl ⟨none, rfl, fun h => ?_, rfl⟩
        obtain ⟨fault', hfault, hsome⟩ := hfails.mp h
        rw [hload] at hfault
        cases hfault
        exact hsome hf
      | some f =>
        refine .inr ⟨f, rfl, hfails.mpr ⟨fault, hload, ?_⟩⟩
        rw [hf]
        exact Option.some_ne_none f

/-- Loading fails on a file where it says what is wrong beside that the file counts as absent. -/
theorem fails_iff_load : fs.Fails path ↔ ∃ f, fs.load path = .error (.failure f) := by
  rcases load?_cases fs path with ⟨v, hload, hfine, -⟩ | ⟨f, hload, hfails⟩
  · refine iff_of_false hfine ?_
    rintro ⟨f, hfailure⟩
    rw [load?, hfailure] at hload
    cases hload
  · refine iff_of_true hfails ⟨f, ?_⟩
    rw [load?] at hload
    split at hload
    case h_4 _ f' hfailure =>
      cases hload
      exact hfailure
    all_goals cases hload

/-- A path that is no path has no octets, or it has a null character. -/
theorem failure_of_readPath {f : Failure} (h : fs.readPath path = .error (.failure f)) :
    (∃ run, f = .unencodable run) ∨ f = .ofFileError path .zeroCharacter := by
  rw [readPath] at h
  split at h
  -- The path cannot be spelled.
  case h_1 run _ =>
    cases h
    exact .inl ⟨run, rfl⟩
  case h_2 =>
    right
    -- Of the faults of a file only the null character is none of the file itself.
    dsimp only at h
    split at h
    -- The path leads to a file, or nowhere.
    case h_1 path' _ =>
      cases hread : fs.readFile path' with
      | ok octets =>
        rw [hread] at h
        cases h
      | error e =>
        rw [hread] at h
        cases e <;> cases h
        rfl
    case h_2 =>
      generalize (if path.elem '\x00' then FileError.zeroCharacter else .notFound) = e at h
      cases e <;> cases h
      rfl

/-- What loading fails with is nothing that is wrong with settings. -/
theorem load_ne_configuration (fs : FileTree) (path : Text) (fault : ConfigurationFault) :
    fs.load path ≠ .error (.failure (.configuration fault)) := by
  intro h
  rw [load] at h
  cases hread : fs.readPath path with
  | error e =>
    rw [hread] at h
    cases h
    -- Reading fails for other reasons, and loading never gives a fault of the configuration.
    obtain ⟨run, hrun⟩ | hzero := failure_of_readPath hread
    · cases hrun
    · cases hzero
  | ok octets =>
    rw [hread] at h
    dsimp only [bind, Except.bind] at h
    cases hdocument : Yaml.loadFrom (.ofOctets octets) with
    | ok v =>
      rw [hdocument] at h
      cases h
    | error fault' =>
      rw [hdocument] at h
      cases fault' <;> cases h

/-- Loading gives the mapping of every file on which it does not fail; there is none if the file
    counts as absent. -/
theorem loadMapping_eq_ok_iff : fs.loadMapping path = .ok m ↔
    ¬ fs.Fails path ∧ m = fs.mapping? path := by
  rw [loadMapping]
  rcases load?_cases fs path with ⟨v, hload, hfine, hmapping⟩ | ⟨f, hload, hfails⟩
  · rw [hload, hmapping]
    constructor
    · intro h
      cases h
      exact ⟨hfine, rfl⟩
    · rintro ⟨-, rfl⟩
      rfl
  · rw [hload]
    exact error_eq_ok_iff fun h => h.1 hfails

theorem bind_loadMapping_eq_ok_iff {β : Type} {f : Option Mapping → Except Failure β} {b : β} :
    fs.loadMapping path >>= f = .ok b ↔ ¬ fs.Fails path ∧ f (fs.mapping? path) = .ok b := by
  rw [bind_eq_ok]
  constructor
  · rintro ⟨m, hload, hf⟩
    obtain ⟨hfine, rfl⟩ := loadMapping_eq_ok_iff.mp hload
    exact ⟨hfine, hf⟩
  · rintro ⟨hfine, hf⟩
    exact ⟨_, loadMapping_eq_ok_iff.mpr ⟨hfine, rfl⟩, hf⟩

end FileTree

end PlaybookAssist
