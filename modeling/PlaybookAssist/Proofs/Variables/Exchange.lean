import Mathlib.Data.Option.Basic
import PlaybookAssist.Proofs.Value.Rearranged
import PlaybookAssist.Variables

/-!
# Arguments that name the same file

Of the arguments of a task that includes variables nothing counts but the file that they name. Other
arguments that name the same file can stand in their place, in any task of any document, and the same
files come in.

## Main definitions

- `Variables.Exchanged` : documents that differ in arguments of the module that includes variables
- `Variables.Visit.told` : what a visit adds to the paths of a document
- `Variables.AlikeRead` : values from which the same paths are read

## Main statements

- `Variables.Exchanged.alikeRead` : exchanged arguments change nothing that is read
- `Variables.included_eq_of_exchanged` : nor what is included, whatever the loader does
-/

namespace PlaybookAssist.Variables

variable {a b v w x y document document' : Value} {ps qs : List (Value × Value)} {key : Text}
  {type : FileType}

/-- The second value is the first with `b` in the place of `a` as the arguments of the module that
    includes variables, in some mappings anywhere inside it. Keys and the elements of sets hold no
    mappings. -/
inductive Exchanged (a b : Value) : Value → Value → Prop where
  | refl (v : Value) : Exchanged a b v v
  | trans {u v w : Value} : Exchanged a b u v → Exchanged a b v w → Exchanged a b u w
  | arguments {name : Text} (before after : List (Value × Value)) : name ∈ includeModules →
      Exchanged a b (.map (before ++ (.str name, a) :: after))
        (.map (before ++ (.str name, b) :: after))
  | element {x y : Value} (before after : List Value) :
    Exchanged a b x y → Exchanged a b (.list (before ++ x :: after)) (.list (before ++ y :: after))
  | tupleElement {x y : Value} (before after : List Value) :
    Exchanged a b x y → Exchanged a b (.tuple (before ++ x :: after)) (.tuple (before ++ y :: after))
  | under {x y : Value} (before after : List (Value × Value)) (key : Value) :
    Exchanged a b x y →
      Exchanged a b (.map (before ++ (key, x) :: after)) (.map (before ++ (key, y) :: after))
  | knot {x y : Value} (n : Nat) : Exchanged a b x y → Exchanged a b (.knot n x) (.knot n y)

/-! ## What is read of a value -/

/-- What a visit adds to the paths of a document: whether the walk goes on, and the path. -/
def Visit.told (visit : Visit) : Bool × Option Text :=
  (visit.isTask, visit.target?)

/-- The walk through the tasks of a play. -/
def visitsOfPlay (play : Value) : List Visit :=
  (Prompt.taskSections.filterMap fun key => play.asMap?.bind (Mapping.find? key)).flatMap
    (visitsIn [])

/-- The same is read of both values, whether they stand for a path, arguments, a list of tasks, a
    task, a play or a document. -/
structure AlikeRead (v w : Value) : Prop where
  text : v.asText? = w.asText?
  target : targetOf? v = targetOf? w
  tasks : ∀ around, (visitsIn around v).map Visit.told = (visitsIn around w).map Visit.told
  task : ∀ around, (visitsFrom around v).map Visit.told = (visitsFrom around w).map Visit.told
  play : (visitsOfPlay v).map Visit.told = (visitsOfPlay w).map Visit.told
  plays : (entriesOf v).map (fun plays => (plays.flatMap visitsOfPlay).map Visit.told) =
    (entriesOf w).map fun plays => (plays.flatMap visitsOfPlay).map Visit.told

namespace AlikeRead

theorem refl (v : Value) : AlikeRead v v :=
  ⟨rfl, rfl, fun _ => rfl, fun _ => rfl, rfl, rfl⟩

theorem trans {u : Value} (h : AlikeRead u v) (h' : AlikeRead v w) : AlikeRead u w where
  text := h.text.trans h'.text
  target := h.target.trans h'.target
  tasks around := (h.tasks around).trans (h'.tasks around)
  task around := (h.task around).trans (h'.task around)
  play := h.play.trans h'.play
  plays := h.plays.trans h'.plays

theorem knot (h : AlikeRead x y) (n : Nat) : AlikeRead (.knot n x) (.knot n y) where
  text := rfl
  target := h.target
  tasks around := by
    rw [visitsIn, visitsIn]
    split
    -- a list met inside itself is not walked again on either side
    · rfl
    · exact h.tasks (n :: around)
  task around := by
    rw [visitsFrom, visitsFrom]
    split
    · rfl
    · exact h.task (n :: around)
  play := h.play
  plays := h.plays

theorem visitsAmong_eq_flatMap (around : List Nat) (xs : List Value) :
    visitsAmong around xs = xs.flatMap (visitsFrom around) := by
  induction xs with
  | nil => rfl
  | cons x xs ih => rw [visitsAmong, ih, List.flatMap_cons]

theorem element (h : AlikeRead x y) (before after : List Value) :
    AlikeRead (.list (before ++ x :: after)) (.list (before ++ y :: after)) where
  text := rfl
  target := rfl
  tasks around := by
    simp only [visitsIn, visitsAmong_eq_flatMap, List.flatMap_append, List.flatMap_cons,
      List.map_append, h.task around]
  task around := rfl
  play := rfl
  plays := by
    simp [entriesOf, Value.isTruthy, Value.content, Except.map, h.play]

theorem tupleElement (h : AlikeRead x y) (before after : List Value) :
    AlikeRead (.tuple (before ++ x :: after)) (.tuple (before ++ y :: after)) where
  text := rfl
  target := rfl
  tasks around := rfl
  task around := rfl
  play := rfl
  plays := by
    simp [entriesOf, Value.isTruthy, Value.content, Except.map, h.play]

end AlikeRead

/-! ## Mappings -/

theorem visitsUnder_eq (around : List Nat) (key : Text) (ps : List (Value × Value)) :
    visitsUnder around key ps = (Mapping.find? key ps).elim [] (visitsIn around) := by
  induction ps with
  | nil => rfl
  | cons p ps ih =>
    obtain ⟨k, v⟩ := p
    rw [visitsUnder, Mapping.find?, Mapping.get?]
    split
    · rfl
    · exact ih

theorem targetOf?_map (ps : List (Value × Value)) :
    targetOf? (.map ps) = (Mapping.find? "file" ps).bind Value.asText? := by
  rw [targetOf?]
  dsimp only [Value.content]
  cases Mapping.find? "file" ps with
  | none => rfl
  | some v => cases v <;> rfl

theorem entriesOf_map (ps : List (Value × Value)) : entriesOf (.map ps) = .ok (ps.map (·.1)) := by
  cases ps <;> rfl

theorem visitsOfPlay_map (ps : List (Value × Value)) :
    visitsOfPlay (.map ps) = Prompt.taskSections.flatMap fun key => visitsUnder [] key ps := by
  rw [visitsOfPlay, List.filterMap_eq_flatMap_toList, List.flatMap_assoc]
  refine List.flatMap_congr fun key _ => ?_
  rw [visitsUnder_eq]
  show (Mapping.find? key ps).toList.flatMap (visitsIn []) = _
  cases Mapping.find? key ps with
  | none => rfl
  | some tasks => exact List.flatMap_singleton _ _

/-- Under the names of the module only the file that is named counts, elsewhere all that is read. -/
def AlikeUnder (key : Text) (v w : Value) : Prop :=
  targetOf? v = targetOf? w ∧ (key ∉ includeModules → AlikeRead v w)

/-- Two mappings with the same keys, and with values that are read alike under each of them. -/
structure AlikePairs (ps qs : List (Value × Value)) : Prop where
  keys : ps.map (·.1) = qs.map (·.1)
  under : ∀ key, Option.Rel (AlikeUnder key) (Mapping.find? key ps) (Mapping.find? key qs)

namespace AlikePairs

theorem visitsUnder_told (h : AlikePairs ps qs) (hkey : key ∉ includeModules)
    (around : List Nat) :
    (visitsUnder around key ps).map Visit.told = (visitsUnder around key qs).map Visit.told := by
  rw [visitsUnder_eq, visitsUnder_eq, ← Option.elim_comp (List.map Visit.told),
    ← Option.elim_comp (List.map Visit.told)]
  exact Value.elim_eq_of_rel (h.under key) fun v w hvw => (hvw.2 hkey).tasks around

theorem target?_eq (h : AlikePairs ps qs) : target? ps = target? qs := by
  rw [target?, target?]
  congr 1
  funext name
  exact Value.bind_eq_of_rel (h.under name) fun v w hvw => hvw.1

theorem map (h : AlikePairs ps qs) : AlikeRead (.map ps) (.map qs) where
  text := rfl
  target := by
    rw [targetOf?_map, targetOf?_map]
    -- Nothing of what decides about a mapping is under an exchanged key.
    exact Value.bind_eq_of_rel (h.under "file") fun v w hvw => (hvw.2 (by decide)).text
  tasks around := rfl
  task around := by
    have htold : (Visit.task ps).told = (Visit.task qs).told :=
      congrArg (Prod.mk true) h.target?_eq
    simp only [visitsFrom, List.map_cons, List.map_append, htold,
      h.visitsUnder_told (by decide : "block".toList ∉ includeModules),
      h.visitsUnder_told (by decide : "rescue".toList ∉ includeModules),
      h.visitsUnder_told (by decide : "always".toList ∉ includeModules)]
  play := by
    -- No section has a name of the module.
    have hsections : ∀ key ∈ Prompt.taskSections, key ∉ includeModules := by decide
    rw [visitsOfPlay_map, visitsOfPlay_map, List.map_flatMap, List.map_flatMap]
    exact List.flatMap_congr fun key hkey => h.visitsUnder_told (hsections key hkey) []
  plays := by
    rw [entriesOf_map, entriesOf_map, h.keys]

end AlikePairs

/-- Mappings that differ in what is under one key are read alike if the two values are alike under
    every text that is the same key. -/
theorem AlikeRead.under (before after : List (Value × Value)) {k : Value}
    (h : ∀ key, Value.sameKey k (.str key) = true → AlikeUnder key x y) :
    AlikeRead (.map (before ++ (k, x) :: after)) (.map (before ++ (k, y) :: after)) :=
  AlikePairs.map ⟨by simp, fun key =>
    Value.rel_find?_of_sameKey (fun v => ⟨rfl, fun _ => .refl v⟩) before after (h key)⟩

/-! ## Documents -/

theorem visits_playbook_told (document : Value) :
    (visits document .playbook).map (List.map Visit.told) =
      (entriesOf document).map fun plays => (plays.flatMap visitsOfPlay).map Visit.told := by
  rw [visits, taskLists, if_pos rfl]
  cases entriesOf document with
  | error e => rfl
  | ok plays => exact congrArg (fun walk => Except.ok (walk.map Visit.told)) List.flatMap_assoc

theorem visits_of_ne_playbook (h : type ≠ .playbook) :
    visits document type = .ok (visitsIn [] document) := by
  rw [visits, taskLists, if_neg h]
  exact congrArg Except.ok (List.flatMap_singleton _ _)

theorem AlikeRead.visits_told (h : AlikeRead v w) (type : FileType) :
    (visits v type).map (List.map Visit.told) = (visits w type).map (List.map Visit.told) := by
  by_cases htype : type = .playbook
  · subst htype
    rw [visits_playbook_told, visits_playbook_told]
    exact h.plays
  · rw [visits_of_ne_playbook htype, visits_of_ne_playbook htype]
    exact congrArg Except.ok (h.tasks [])

/-- Exchanged arguments that name the same file change nothing that is read. -/
theorem Exchanged.alikeRead (hab : targetOf? a = targetOf? b) (h : Exchanged a b v w) :
    AlikeRead v w := by
  induction h with
  | refl v => exact .refl v
  | trans _ _ ih ih' => exact ih.trans ih'
  | @arguments name before after hname =>
    refine .under before after fun key hkey => ?_
    -- The arguments are looked up under the name of the module only.
    rw [Value.sameKey_str, beq_iff_eq] at hkey
    exact ⟨hab, fun hne => absurd (hkey ▸ hname) hne⟩
  | element before after _ ih => exact ih.element before after
  | tupleElement before after _ ih => exact ih.tupleElement before after
  | under before after k _ ih =>
    exact .under before after fun key _ => ⟨ih.target, fun _ => ih⟩
  | knot n _ ih => exact ih.knot n

/-- The files of what the visits of a walk tell. -/
def filesTold (load : Loader) (directories : List Text) (told : List (Bool × Option Text)) :
    Except Failure VariableFiles := do
  let files ← addAll load directories [] ((told.takeWhile (·.1)).filterMap (·.2))
  if told.all (·.1) then pure files else throw .endless

theorem included_eq_filesTold (load : Loader) (document : Value) (directory : Text)
    (type : FileType) (role : Option Text) :
    included load document directory type role =
      ((visits document type).map (List.map Visit.told)).bind
        (filesTold load (searchDirectories directory type role)) := by
  rw [included, targets]
  cases visits document type with
  | error e => rfl
  | ok walk =>
    -- The files that are told of are those of the tasks.
    have hpaths : ((walk.map Visit.told).takeWhile (·.1)).filterMap (·.2) =
        (walk.takeWhile Visit.isTask).filterMap Visit.target? := by
      rw [List.takeWhile_map, List.filterMap_map]
      rfl
    have hends : (walk.map Visit.told).all (·.1) = walk.all Visit.isTask := by
      rw [List.all_map]
      rfl
    show _ = filesTold load (searchDirectories directory type role) (walk.map Visit.told)
    rw [filesTold, hpaths, hends]
    rfl

/-- Exchanged arguments that name the same file change nothing of what a document includes, whatever
    the loader gives or fails with. -/
theorem included_eq_of_exchanged (hab : targetOf? a = targetOf? b)
    (h : Exchanged a b document document') (load : Loader) (directory : Text) (type : FileType)
    (role : Option Text) :
    included load document directory type role = included load document' directory type role := by
  rw [included_eq_filesTold, included_eq_filesTold, (h.alikeRead hab).visits_told]

end PlaybookAssist.Variables
