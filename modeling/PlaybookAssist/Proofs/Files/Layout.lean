import Mathlib.Data.List.Induction
import PlaybookAssist.FileType
import PlaybookAssist.Proofs.Files.Load
import PlaybookAssist.Proofs.Files.Wildcard
import PlaybookAssist.Proofs.Path.Rooted
import PlaybookAssist.Role.Reader

/-!
# Layouts of directories

The patterns of layouts speak of text, in which a star may stand for any number of directories or for
a part of a name. What they come to is a matter of components: which directories a file lies in, in
which order, and how the name of the file ends.

## Main definitions

- `FileType.LiesIn`, `FileType.LiesInRoleTasks` : the directories that a file lies in
- `FileType.IsDocument` : the name of the file ends as those of documents do

## Main statements

- `Text.exists_component` : a text between two slashes is a component
- `FileType.inOrder_directory`, `FileType.inOrder_roleTasks` : what the patterns come to
- `FileType.detect_by_components` : the kind of a document
-/

namespace PlaybookAssist

/-! ## Texts between slashes -/

namespace Text

variable {sep : Char} {s t n : Text} {parts before after : List Text}

/-- What stands between two separators is a part, with parts before and after it. -/
theorem exists_component (hn : sep ∉ n) (P : Text → Prop) :
    (∃ before after, t = before ++ ((sep :: n ++ [sep]) ++ after) ∧ P after) ↔
      ∃ before after, splitOn sep t = before ++ n :: after ∧ before ≠ [] ∧ after ≠ [] ∧
        P (joinWith [sep] after) := by
  constructor
  -- the text on either side of the part is split by itself, and neither side is without parts
  · rintro ⟨before, after, rfl, h⟩
    refine ⟨splitOn sep before, splitOn sep after, ?_, splitOn_ne_nil _ _, splitOn_ne_nil _ _, ?_⟩
    · have hsplit : (sep :: n ++ [sep]) ++ after = sep :: (n ++ sep :: after) := by simp
      rw [hsplit, splitOn_append_cons, splitOn_append_cons, splitOn_of_not_mem hn]
      rfl
    · rwa [joinWith_splitOn]
  · rintro ⟨before, after, hsplit, hbefore, hafter, h⟩
    refine ⟨joinWith [sep] before, joinWith [sep] after, ?_, h⟩
    rw [← joinWith_splitOn sep t, hsplit, joinWith_append hbefore (List.cons_ne_nil _ _),
      joinWith_cons hafter]
    simp

/-- Whether a text ends in something without a separator is decided in its last part. -/
theorem suffix_joinWith (hs : sep ∉ s) (hne : parts ≠ []) :
    s <:+ joinWith [sep] parts ↔ s <:+ parts.getLastD [] := by
  cases parts using List.reverseRecOn with
  | nil => exact absurd rfl hne
  | append_singleton before last =>
    rw [List.getLastD_concat]
    -- One part alone is the whole text; otherwise the last part stands behind a separator.
    by_cases hbefore : before = []
    · subst hbefore
      rfl
    · rw [joinWith_append hbefore (List.cons_ne_nil _ _)]
      constructor
      · -- What is longer than the last part holds the separator before it.
        intro h
        -- Both are suffixes of the whole, so that one is a suffix of the other.
        have hlast : sep :: last <:+ joinWith [sep] before ++ sep :: last := List.suffix_append _ _
        rcases List.suffix_or_suffix_of_suffix h hlast with h | h
        · rcases List.suffix_cons_iff.mp h with rfl | h
          · exact absurd List.mem_cons_self hs
          · exact h
        · exact absurd (h.subset List.mem_cons_self) hs
      · exact fun h => (h.trans (List.suffix_cons sep last)).trans (List.suffix_append _ _)

end Text

namespace FileType

open Wildcard (InOrder inOrder_singleton matchParts_starred starred)

variable {cs : List Text} {directory ending path : Text}

/-! ## Directories around a file -/

/-- The file whose path has the given components lies in a directory of the given name. -/
def LiesIn (directory : Text) (cs : List Text) : Prop :=
  ∃ k : Fin cs.length, cs[k] = directory ∧ k.val + 1 < cs.length

/-- The file lies in a directory `tasks`, which in turn lies at least two levels below a directory
    `roles`. -/
def LiesInRoleTasks (cs : List Text) : Prop :=
  ∃ i k : Fin cs.length, cs[i] = "roles".toList ∧ cs[k] = "tasks".toList ∧
    i.val + 2 ≤ k.val ∧ k.val + 1 < cs.length

/-- The name of the file ends as those of documents do. -/
def IsDocument (cs : List Text) : Prop :=
  Role.isDocumentName (cs.getLastD []) = true

instance (directory : Text) (cs : List Text) : Decidable (LiesIn directory cs) :=
  inferInstanceAs (Decidable (∃ k : Fin cs.length, cs[k] = directory ∧ k.val + 1 < cs.length))

instance (cs : List Text) : Decidable (LiesInRoleTasks cs) :=
  inferInstanceAs (Decidable (∃ i k : Fin cs.length, cs[i] = "roles".toList ∧
    cs[k] = "tasks".toList ∧ i.val + 2 ≤ k.val ∧ k.val + 1 < cs.length))

instance (cs : List Text) : Decidable (IsDocument cs) :=
  inferInstanceAs (Decidable (_ = _))

theorem eq_take_cons_drop {k : Nat} (h : cs[k]? = some directory) :
    cs = cs.take k ++ directory :: cs.drop (k + 1) := by
  obtain ⟨hk, rfl⟩ := List.getElem?_eq_some_iff.mp h
  rw [← List.drop_eq_getElem_cons hk, List.take_append_drop]

theorem liesIn_iff : LiesIn directory cs ↔
    ∃ before after, cs = before ++ directory :: after ∧ after ≠ [] := by
  constructor
  · rintro ⟨k, rfl, hk⟩
    refine ⟨cs.take k, cs.drop (k + 1), eq_take_cons_drop (List.getElem?_eq_getElem k.isLt), ?_⟩
    rw [ne_eq, List.drop_eq_nil_iff]
    omega
  · rintro ⟨before, after, rfl, hafter⟩
    have hlength := List.length_pos_of_ne_nil hafter
    refine ⟨⟨before.length, by simp⟩, by simp, ?_⟩
    simp only [List.length_append, List.length_cons]
    omega

theorem liesInRoleTasks_iff : LiesInRoleTasks cs ↔ ∃ before between after,
    cs = before ++ "roles".toList :: (between ++ "tasks".toList :: after) ∧ between ≠ [] ∧
      after ≠ [] := by
  constructor
  -- From the positions to the parts: what stands before, between and after the two names.
  · rintro ⟨i, k, hi, hk, hik, hlast⟩
    have hrole : (cs.take k)[i.val]? = some "roles".toList := by
      rw [List.getElem?_take_of_lt (by omega), ← hi]
      exact List.getElem?_eq_getElem i.isLt
    refine ⟨(cs.take k).take i, (cs.take k).drop (i + 1), cs.drop (k + 1), ?_, ?_, ?_⟩
    · have htasks := eq_take_cons_drop (hk ▸ List.getElem?_eq_getElem k.isLt)
      rw [eq_take_cons_drop hrole, List.append_assoc, List.cons_append] at htasks
      exact htasks
    -- A name lies between them, and one after them.
    · rw [ne_eq, List.drop_eq_nil_iff, List.length_take]
      omega
    · rw [ne_eq, List.drop_eq_nil_iff]
      omega
  -- From the parts to the positions, which are counted by their lengths.
  · rintro ⟨before, between, after, rfl, hbetween, hafter⟩
    have hlength := List.length_pos_of_ne_nil hbetween
    have hlength' := List.length_pos_of_ne_nil hafter
    rw [LiesInRoleTasks]
    generalize "roles".toList = roles
    generalize "tasks".toList = tasks
    refine ⟨⟨before.length, by simp⟩, ⟨before.length + (between.length + 1), ?_⟩, by simp, ?_, ?_, ?_⟩
    · simp only [List.length_append, List.length_cons]
      omega
    · simp
    · simp only
      omega
    · simp only [List.length_append, List.length_cons]
      omega

/-! ## What the patterns come to -/

theorem isDocument_iff : IsDocument cs ↔ ∃ ending ∈ Role.documentEndings, ending <:+ cs.getLastD [] := by
  simp [IsDocument, Role.isDocumentName, Text.endsWith, List.any_eq_true]

theorem getLastD_append_cons {after : List Text} (hafter : after ≠ []) (before : List Text) :
    (before ++ directory :: after).getLastD [] = after.getLastD [] := by
  obtain ⟨start, last, rfl⟩ := (List.eq_nil_or_concat' after).resolve_left hafter
  rw [← List.cons_append, ← List.append_assoc, List.getLastD_concat, List.getLastD_concat]

/-- What stands between two slashes of a path from the root is a component, with components after
    it. -/
theorem exists_directory (hcs : ∀ c ∈ cs, '/' ∉ c) (hne : cs ≠ []) (hdirectory : '/' ∉ directory)
    (P : Text → Prop) :
    (∃ before after, '/' :: Text.joinWith ['/'] cs = before ++ (('/' :: directory ++ ['/']) ++ after) ∧
      P after) ↔
      ∃ before after, cs = before ++ directory :: after ∧ after ≠ [] ∧
        P (Text.joinWith ['/'] after) := by
  -- The first part is the empty one before the root, which is no directory.
  have hsplit : Text.splitOn '/' ('/' :: Text.joinWith ['/'] cs) = [] :: cs := by
    rw [← List.nil_append ('/' :: _), Text.splitOn_append_cons, Text.splitOn_joinWith hne hcs]
    rfl
  rw [Text.exists_component hdirectory, hsplit]
  constructor
  · rintro ⟨before, after, hcomponents, hbefore, h⟩
    obtain ⟨c, before, rfl⟩ := List.exists_cons_of_ne_nil hbefore
    exact ⟨before, after, (List.cons.inj hcomponents).2, h⟩
  · rintro ⟨before, after, rfl, h⟩
    exact ⟨[] :: before, after, rfl, List.cons_ne_nil _ _, h⟩

/-- The pattern of a file in a directory. -/
theorem inOrder_directory (hcs : ∀ c ∈ cs, '/' ∉ c) (hne : cs ≠ []) (hdirectory : '/' ∉ directory)
    (hending : '/' ∉ ending) :
    InOrder ['/' :: directory ++ ['/'], ending] ('/' :: Text.joinWith ['/'] cs) ↔
      LiesIn directory cs ∧ ending <:+ cs.getLastD [] := by
  rw [InOrder, exists_directory hcs hne hdirectory, liesIn_iff]
  constructor
  · rintro ⟨before, after, rfl, hafter, h⟩
    rw [inOrder_singleton, Text.suffix_joinWith hending hafter] at h
    exact ⟨⟨before, after, rfl, hafter⟩, by rwa [getLastD_append_cons hafter]⟩
  · rintro ⟨⟨before, after, rfl, hafter⟩, h⟩
    rw [getLastD_append_cons hafter] at h
    refine ⟨before, after, rfl, hafter, ?_⟩
    rwa [inOrder_singleton, Text.suffix_joinWith hending hafter]

/-- The pattern of a file in the tasks of a role. The star between the two directories stands for one
    component or more, as there has to be something between two slashes. -/
theorem inOrder_roleTasks (hcs : ∀ c ∈ cs, '/' ∉ c) (hne : cs ≠ []) (hending : '/' ∉ ending) :
    InOrder ["/roles/", "/tasks/", ending] ('/' :: Text.joinWith ['/'] cs) ↔
      LiesInRoleTasks cs ∧ ending <:+ cs.getLastD [] := by
  have hroles : "/roles/".toList = '/' :: "roles".toList ++ ['/'] := rfl
  have htasks : "/tasks/".toList = '/' :: "tasks".toList ++ ['/'] := rfl
  rw [InOrder, hroles, exists_directory hcs hne (by decide), liesInRoleTasks_iff]
  -- The rest of the pattern, for what stands below the first directory.
  have hinner {after : List Text} (hcs : ∀ c ∈ after, '/' ∉ c) (hafter : after ≠ []) :
      InOrder ["/tasks/", ending] (Text.joinWith ['/'] after) ↔ ∃ between rest,
        after = between ++ "tasks".toList :: rest ∧ between ≠ [] ∧ rest ≠ [] ∧
          ending <:+ after.getLastD [] := by
    rw [InOrder, htasks, Text.exists_component (by decide), Text.splitOn_joinWith hafter hcs]
    refine exists_congr fun between => exists_congr fun rest => and_congr_right fun hsplit =>
      and_congr_right fun _ => and_congr_right fun hrest => ?_
    rw [inOrder_singleton, Text.suffix_joinWith hending hrest, hsplit, getLastD_append_cons hrest]
  constructor
  · rintro ⟨before, after, rfl, hafter, h⟩
    -- No component has a slash, so that the pattern can be read component by component.
    rw [List.forall_mem_append, List.forall_mem_cons] at hcs
    obtain ⟨between, rest, rfl, hbetween, hrest, h⟩ := (hinner hcs.2.2 hafter).mp h
    exact ⟨⟨before, between, rest, rfl, hbetween, hrest⟩, by rwa [getLastD_append_cons hafter]⟩
  · rintro ⟨⟨before, between, rest, rfl, hbetween, hrest⟩, h⟩
    rw [List.forall_mem_append, List.forall_mem_cons] at hcs
    have hafter : between ++ "tasks".toList :: rest ≠ [] := by simp
    rw [getLastD_append_cons hafter] at h
    exact ⟨before, _, rfl, hafter, (hinner hcs.2.2 hafter).mpr
      ⟨between, rest, rfl, hbetween, hrest, h⟩⟩

/-! ## Kinds -/

/-- The kind that the first of the given layouts tells that a path fits. -/
def kindIn (ls : List (Text × FileType)) (path : Text) : FileType :=
  match ls.find? fun l => Wildcard.fits l.1 path with
  | some l => l.2
  | none => .other

/-- Two layouts of a kind, one for each ending of documents, are one test. -/
theorem kindIn_cons_cons {first second : Text} {kind : FileType} {rest : List (Text × FileType)}
    {P : Prop} [Decidable P]
    (hfirst : Wildcard.fits first path = true ↔ P ∧ ".yml".toList <:+ cs.getLastD [])
    (hsecond : Wildcard.fits second path = true ↔ P ∧ ".yaml".toList <:+ cs.getLastD []) :
    kindIn ((first, kind) :: (second, kind) :: rest) path =
      if IsDocument cs ∧ P then kind else kindIn rest path := by
  -- The two patterns of a pair differ in the ending alone, and both endings are documents.
  have hpair : (Wildcard.fits first path = true ∨ Wildcard.fits second path = true) ↔
      IsDocument cs ∧ P := by
    rw [hfirst, hsecond, ← and_or_left, and_comm, isDocument_iff, Role.documentEndings]
    simp
  -- The pair decides where it applies, and is passed over where it does not.
  by_cases h : IsDocument cs ∧ P
  · rw [if_pos h, kindIn, List.find?_cons]
    rcases hpair.mpr h with h | h
    · simp [h]
    · cases Wildcard.fits first path <;> simp [h]
  · rw [if_neg h]
    rw [← hpair, not_or] at h
    simp [kindIn, h.1, h.2]

/-- What a pattern of stars and texts fits. -/
theorem fits_of_parse {pattern : Text} {ss : List Text} (h : Wildcard.parse pattern = starred ss) :
    Wildcard.fits pattern path = true ↔ InOrder ss path := by
  rw [Wildcard.fits, h, matchParts_starred]

/-- The kind that the layout gives a path is decided by the directories around it and the end of its
    name. -/
theorem ofPath_slash_joinWith (hcs : ∀ c ∈ cs, '/' ∉ c) :
    ofPath ('/' :: Text.joinWith ['/'] cs) =
      if IsDocument cs ∧ LiesInRoleTasks cs then .tasksInRole
      else if IsDocument cs ∧ LiesIn "tasks" cs then .tasks
      else if IsDocument cs ∧ LiesIn "playbooks" cs then .playbook
      else .other := by
  -- Without components the path is the root, which none of the layouts fits.
  by_cases hne : cs = []
  · subst hne
    decide
  -- Each layout speaks of the components: of two directories in order, or of one.
  have hrole {pattern ending : Text} (hending : '/' ∉ ending)
      (hparse : Wildcard.parse pattern = starred ["/roles/", "/tasks/", ending]) :=
    (@fits_of_parse ('/' :: Text.joinWith ['/'] cs) _ _ hparse).trans
      (inOrder_roleTasks hcs hne hending)
  have hdirectory (directory : Text) {pattern ending : Text} (hdirectory : '/' ∉ directory)
      (hending : '/' ∉ ending)
      (hparse : Wildcard.parse pattern = starred ['/' :: directory ++ ['/'], ending]) :=
    (@fits_of_parse ('/' :: Text.joinWith ['/'] cs) _ _ hparse).trans
      (inOrder_directory hcs hne hdirectory hending)
  have hroot : ofPath ('/' :: Text.joinWith ['/'] cs) =
      kindIn layouts ('/' :: Text.joinWith ['/'] cs) := rfl
  -- The layouts are gone through pair by pair.
  rw [hroot, layouts,
    kindIn_cons_cons (hrole (by decide) (by decide)) (hrole (by decide) (by decide)),
    kindIn_cons_cons (hdirectory "tasks" (by decide) (by decide) (by decide))
      (hdirectory "tasks" (by decide) (by decide) (by decide)),
    kindIn_cons_cons (hdirectory "playbooks" (by decide) (by decide) (by decide))
      (hdirectory "playbooks" (by decide) (by decide) (by decide))]
  rfl

/-! ## Documents -/

section

variable [Place] {document last : Value} {entries : List Value} {ps : Mapping}

/-- A document that is given is not read from its path. -/
theorem detect_of_ne_null (h : document ≠ .null) (fs : FileTree) (path : Text) :
    detect fs path document = .ok (ofDocument path document) := by
  cases document <;> first | exact absurd rfl h | rfl

omit [Place] in
theorem isPlay_iff : isPlay ps = true ↔ ∃ key ∈ playKeywords, ∃ v, (Value.str key, v) ∈ ps := by
  rw [isPlay, List.any_eq_true]
  constructor
  · rintro ⟨⟨k, v⟩, hmem, hkey⟩
    cases k with
    | str key => exact ⟨key, List.elem_iff.mp hkey, v, hmem⟩
    | _ => cases hkey
  · rintro ⟨key, hkey, v, hmem⟩
    exact ⟨_, hmem, List.elem_iff.mpr hkey⟩

/-- Only for the place where they lie are documents counted among the tasks of a role. -/
theorem ofPath_of_detect {fs : FileTree} (h : detect fs path document = .ok .tasksInRole) :
    ofPath path = .tasksInRole := by
  -- a document that is not null is not read again, and null is read from the file at the path
  obtain ⟨read, hread⟩ : ∃ read, ofDocument path read = .tasksInRole := by
    by_cases hnull : document = .null
    · subst hnull
      obtain ⟨read, -, hread⟩ := bind_eq_ok.mp h
      exact ⟨_, Except.ok.inj hread⟩
    · rw [detect_of_ne_null hnull] at h
      exact ⟨document, Except.ok.inj h⟩
  rw [ofDocument] at hread
  split at hread
  · split at hread
    · cases hread
    · exact hread
  · cases hread

/-- What is counted among the tasks of a role lies in such a directory. -/
theorem liesInRoleTasks_of_detect {fs : FileTree} (hcs : ∀ c ∈ cs, '/' ∉ c)
    (h : detect fs ('/' :: Text.joinWith ['/'] cs) document = .ok .tasksInRole) :
    LiesInRoleTasks cs := by
  have hpath := ofPath_of_detect h
  rw [ofPath_slash_joinWith hcs] at hpath
  split at hpath
  case isTrue hrole => exact hrole.2
  case isFalse => split at hpath <;> [cases hpath; split at hpath <;> cases hpath]

/-- A document whose last entry is a mapping is a playbook wherever it lies if the mapping has a key
    that only plays have. Otherwise the components of its path decide. -/
theorem detect_by_components (hentries : document.asList? = some entries)
    (hlast : entries.getLast? = some last) (hmap : last.asMap? = some ps) (fs : FileTree) :
    ((∃ key ∈ playKeywords, ∃ v, (Value.str key, v) ∈ ps) →
      ∀ path, detect fs path document = .ok .playbook) ∧
    ((∀ key ∈ playKeywords, ∀ v, (Value.str key, v) ∉ ps) →
      ∀ cs : List Text, (∀ c ∈ cs, c ≠ [] ∧ '/' ∉ c) →
        detect fs ('/' :: Text.joinWith ['/'] cs) document = .ok
          (if IsDocument cs ∧ LiesInRoleTasks cs then .tasksInRole
          else if IsDocument cs ∧ LiesIn "tasks" cs then .tasks
          else if IsDocument cs ∧ LiesIn "playbooks" cs then .playbook
          else .other)) := by
  -- A document whose last entry is a mapping is judged by that mapping.
  have hdetect (path : Text) : detect fs path document =
      .ok (if isPlay ps then .playbook else ofPath path) := by
    have hne : document ≠ .null := by
      rintro rfl
      cases hentries
    rw [detect_of_ne_null hne, ofDocument, hentries, Option.bind_some, hlast, Option.bind_some, hmap]
  refine ⟨fun hplay path => ?_, fun hplain cs hcs => ?_⟩
  · rw [hdetect, if_pos (isPlay_iff.mpr hplay)]
  -- No keyword of a play is there, so that the path decides.
  · have hno : ¬ isPlay ps = true := by
      rw [isPlay_iff]
      rintro ⟨key, hkey, v, hmem⟩
      exact hplain key hkey v hmem
    rw [hdetect, if_neg hno, ofPath_slash_joinWith fun c hc => (hcs c hc).2]

end

namespace Sample

/-- A document with one entry, which has one key. -/
def document (key : Text) : Value :=
  .list [.map [(.str key, .null)]]

end Sample

attribute [local instance] Path.atRoot in
/-- A role that is itself called `tasks` is no directory of tasks in a role; a directory `tasks` of a
    role may have directories of its own; and a play is one at either place. -/
theorem detect_role_named_tasks :
    detect default "/roles/tasks/a.yml" (Sample.document "name") = .ok .tasks ∧
      detect default "/roles/web/tasks/sub/.yaml" (Sample.document "name") = .ok .tasksInRole ∧
      detect default "/roles/web/tasks/sub/.yaml" (Sample.document "hosts") = .ok .playbook := by
  have hplain : ∀ key ∈ playKeywords, ∀ v, (Value.str key, v) ∉ [(Value.str "name", Value.null)] := by
    rintro key hkey v hmem
    obtain rfl : key = "name" := Value.str.inj (Prod.mk.inj (List.mem_singleton.mp hmem)).1
    exact absurd hkey (by decide)
  have hname : (Sample.document "name").asList? = some [.map [(.str "name", .null)]] := rfl
  have hhosts : (Sample.document "hosts").asList? = some [.map [(.str "hosts", .null)]] := rfl
  obtain ⟨-, hlayout⟩ := detect_by_components hname rfl rfl default
  obtain ⟨hplay, -⟩ := detect_by_components hhosts rfl rfl default
  exact ⟨hlayout hplain ["roles", "tasks", "a.yml"] (by decide),
    hlayout hplain ["roles", "web", "tasks", "sub", ".yaml"] (by decide),
    hplay ⟨"hosts", by decide, .null, List.mem_singleton_self _⟩ _⟩

end FileType

end PlaybookAssist
