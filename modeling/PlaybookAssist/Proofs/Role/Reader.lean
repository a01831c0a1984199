import PlaybookAssist.Proofs.Role.Directory
import PlaybookAssist.Role.Reader

/-!
# What reading a role depends on

Reading a role looks at the role itself and at the entries of its sections, and at nothing else: two
file systems in which these look the same give the same role. Every directory of a file tree can be
listed, so what is known of a role is missing only where the role is.

## Main definitions

- `Role.Concerns` : the paths that reading a role looks at
- `Role.known?` : what is known of a role, if anything
- `Role.documentsIn`, `Role.sectionsOf` : what the subdirectories of a role hold, as they can be listed

## Main statements

- `Role.mem_listIn` : the roles of a directory
- `Role.read?_of_isDirectory` : what reading a role that is there comes to
- `Role.read?_congr` : reading depends only on what is seen at the paths that concern the role
-/

namespace PlaybookAssist.Role

open PlaybookAssist.Path (Name rooted)

/-- The subdirectories of a role that reading it looks into. -/
def sectionNames : List Text :=
  "tasks".toList :: variableSections

/-- Reading the role at `ns` looks at the path `ps`: the role itself or an entry of a section. -/
def Concerns (ns ps : List Name) : Prop :=
  ps = ns ∨ ∃ s x : Name, s.text ∈ sectionNames ∧ ps = ns ++ [s, x]

variable [Place] {fs fs₀ fs₁ : FileTree} {ds ns : List Name} {n : Name} {d q x : Text}
  {names roles sections : List Text}

/-- What is known of the role at a path, where reading it gives anything. -/
def known? (fs : FileTree) (role : Text) : Option RoleContext :=
  match read? fs role with
  | .ok context => context
  | .error _ => none

/-! ## Roles of a directory -/

theorem exists_listIn (h : fs.isDirectory q = true) : ∃ roles, listIn fs q = .ok roles := by
  obtain ⟨es, hes⟩ := FileTree.isDirectory_iff.mp h
  rw [listIn, FileTree.list_eq_ok.mpr ⟨es, hes, rfl⟩]
  exact ⟨_, rfl⟩

/-- What is listed of a directory, however its path is written: the directory with one more name, which
    is not hidden. -/
theorem exists_of_mem_listIn (hs : fs.Sound) (h : listIn fs d = .ok roles) (hq : q ∈ roles) :
    ∃ n : Name, isHidden n.text = false ∧ q = Path.join d n.text ∧ fs.isDirectory q = true := by
  rw [listIn] at h
  cases hlist : fs.list d with
  | error err =>
    rw [hlist] at h
    cases err <;> cases h <;> cases hq
  | ok names =>
    rw [hlist] at h
    cases h
    -- the entries are sorted and kept if they are directories and not hidden
    obtain ⟨x, hx, rfl⟩ := List.mem_map.mp hq
    obtain ⟨hx, hkeep⟩ := List.mem_filter.mp hx
    rw [Bool.and_eq_true, Bool.not_eq_true'] at hkeep
    obtain ⟨n, rfl⟩ := ((hs.list hlist).2 x (Text.mem_sort.mp hx)).exists_name
    exact ⟨n, hkeep.1, rfl, hkeep.2⟩

/-- The roles of a directory are the directories in it whose names are not hidden. -/
theorem mem_listIn (hs : fs.Sound) (hds : ds ≠ []) (h : listIn fs (rooted ds) = .ok roles) :
    q ∈ roles ↔ ∃ n : Name, isHidden n.text = false ∧ q = rooted (ds ++ [n]) ∧
      fs.isDirectory q = true := by
  constructor
  · intro hq
    obtain ⟨n, hn, rfl, hdirectory⟩ := exists_of_mem_listIn hs h hq
    exact ⟨n, hn, Path.join_rooted ds n, hdirectory⟩
  · rintro ⟨n, hn, rfl, hdirectory⟩
    obtain ⟨es, he⟩ := FileTree.isDirectory_iff.mp hdirectory
    obtain ⟨names, hlist, hmem⟩ := FileTree.list_of_entry_concat hds he
    rw [listIn, hlist] at h
    cases h
    rw [← Path.join_rooted]
    refine List.mem_map_of_mem (List.mem_filter.mpr ⟨Text.mem_sort.mpr hmem, ?_⟩)
    rw [Path.join_rooted, hn, hdirectory]
    rfl

/-! ## Documents -/

/-- The names of the document files in a directory, ascending; none if it cannot be listed. -/
def documentsIn (fs : FileTree) (directory : Text) : List Text :=
  match fs.list directory with
  | .error _ => []
  | .ok names =>
    Text.sort (names.filter fun n => isDocumentName n && fs.isFile (Path.join directory n))

/-- Every directory can be listed, and nothing else. -/
theorem documents_eq (fs : FileTree) (d : Text) : documents fs d = .ok (documentsIn fs d) := by
  rw [documents, documentsIn]
  cases hthere : fs.isDirectory d with
  | true =>
    obtain ⟨es, hes⟩ := FileTree.isDirectory_iff.mp hthere
    rw [FileTree.list_eq_ok.mpr ⟨es, hes, rfl⟩]
    rfl
  | false =>
    cases hlist : fs.list d with
    | error err => rfl
    | ok names =>
      obtain ⟨es, hes, -⟩ := FileTree.list_eq_ok.mp hlist
      rw [FileTree.isDirectory_iff.mpr ⟨es, hes⟩] at hthere
      cases hthere

/-- The documents of a directory are its files with the name of a document, in order. -/
theorem exists_documentsIn (hs : fs.Sound) (hns : ns ≠ []) :
    ∃ names : List Text, names.Nodup ∧ documentsIn fs (rooted ns) = Text.sort names ∧
      ∀ x, x ∈ names ↔ isDocumentName x = true ∧
        ∃ n : Name, n.text = x ∧ fs.isFile (rooted (ns ++ [n])) = true := by
  rw [documentsIn]
  cases hlist : fs.list (rooted ns) with
  | error err =>
    refine ⟨[], List.nodup_nil, by simp [Text.sort], fun x => ⟨fun hx => (by cases hx), ?_⟩⟩
    -- Where there is no directory, nothing is seen in it.
    rintro ⟨-, n, -, hfile⟩
    obtain ⟨names, hnames, -⟩ := FileTree.list_of_isFile_concat hns hfile
    rw [hlist] at hnames
    cases hnames
  | ok listed =>
    obtain ⟨hnodup, hproper⟩ := hs.list hlist
    refine ⟨_, hnodup.filter _, rfl, fun x => ?_⟩
    rw [List.mem_filter, Bool.and_eq_true]
    constructor
    -- A name that is kept is a document, and a file with that name is there.
    · rintro ⟨hx, hdocument, hfile⟩
      obtain ⟨n, rfl⟩ := (hproper x hx).exists_name
      exact ⟨hdocument, n, rfl, Path.join_rooted ns n ▸ hfile⟩
    -- And every such file is listed under its name.
    · rintro ⟨hdocument, n, rfl, hfile⟩
      obtain ⟨names, hnames, hmem⟩ := FileTree.list_of_isFile_concat hns hfile
      rw [hlist] at hnames
      cases hnames
      exact ⟨hmem, hdocument, (Path.join_rooted ns n).symm ▸ hfile⟩

theorem documentsIn_congr (hs₀ : fs₀.Sound) (hs₁ : fs₁.Sound) (hns : ns ≠ [])
    (h : ∀ n : Name, fs₀.sight (rooted (ns ++ [n])) = fs₁.sight (rooted (ns ++ [n]))) :
    documentsIn fs₀ (rooted ns) = documentsIn fs₁ (rooted ns) := by
  obtain ⟨names₀, hnodup₀, hsort₀, hmem₀⟩ := exists_documentsIn hs₀ hns
  obtain ⟨names₁, hnodup₁, hsort₁, hmem₁⟩ := exists_documentsIn hs₁ hns
  rw [hsort₀, hsort₁]
  -- The lists may differ in order before they are sorted, not in what they hold.
  refine Text.sort_eq_of_mem_iff hnodup₀ hnodup₁ fun x => ?_
  simp only [hmem₀, hmem₁, FileTree.isFile_iff, h]

/-! ## Variables -/

theorem variablesOf_congr (hs₀ : fs₀.Sound) (hs₁ : fs₁.Sound)
    (hfiles : ∀ x ∈ names, ∃ n : Name, n.text = x ∧ fs₀.isFile (rooted (ns ++ [n])) = true)
    (h : ∀ n : Name, fs₀.sight (rooted (ns ++ [n])) = fs₁.sight (rooted (ns ++ [n]))) :
    variablesOf fs₀ (rooted ns) names = variablesOf fs₁ (rooted ns) names := by
  induction names with
  | nil => rfl
  | cons x names ih =>
    rw [List.forall_mem_cons] at hfiles
    obtain ⟨⟨n, rfl, hfile⟩, hrest⟩ := hfiles
    have hload : fs₀.loadMapping (rooted (ns ++ [n])) = fs₁.loadMapping (rooted (ns ++ [n])) :=
      FileTree.loadMapping_congr hs₀ hs₁ (by simp) hfile (h n)
    rw [variablesOf, variablesOf, Path.join_rooted, hload, ih hrest]

/-- The variable files of each section that declares variables. -/
def sectionsOf (fs : FileTree) (role : Text) : List Text → Except Failure (Table VariableFiles)
  | [] => .ok []
  | sectionName :: sections => do
    let directory := Path.join role sectionName
    let here ← variablesOf fs directory (documentsIn fs directory)
    let others ← sectionsOf fs role sections
    pure (if here.isEmpty then others else (sectionName, here) :: others)

/-- No section stands in the way of the others. -/
theorem sections?_eq (fs : FileTree) (role : Text) (sections : List Text) :
    sections? fs role sections = (sectionsOf fs role sections).map some := by
  induction sections with
  | nil => rfl
  | cons s sections ih =>
    rw [sections?, sectionsOf]
    simp only [documents_eq, ih, bind, Except.bind]
    cases variablesOf fs (Path.join role s) (documentsIn fs (Path.join role s)) with
    | error e => rfl
    | ok here => cases sectionsOf fs role sections <;> rfl

theorem sectionsOf_congr (hs₀ : fs₀.Sound) (hs₁ : fs₁.Sound)
    (hsections : ∀ s ∈ sections, ∃ n : Name, n.text = s ∧ ∀ x : Name,
      fs₀.sight (rooted (ns ++ [n, x])) = fs₁.sight (rooted (ns ++ [n, x]))) :
    sectionsOf fs₀ (rooted ns) sections = sectionsOf fs₁ (rooted ns) sections := by
  induction sections with
  | nil => rfl
  | cons s sections ih =>
    -- Each section is read alone, and its paths are those that the hypothesis speaks of.
    rw [List.forall_mem_cons] at hsections
    obtain ⟨⟨n, rfl, hsight⟩, hrest⟩ := hsections
    have hn : ns ++ [n] ≠ [] := by simp
    have hsight' (x : Name) :
        fs₀.sight (rooted ((ns ++ [n]) ++ [x])) = fs₁.sight (rooted ((ns ++ [n]) ++ [x])) := by
      rw [List.append_assoc]
      exact hsight x
    have hdocuments := documentsIn_congr hs₀ hs₁ hn hsight'
    have hvariables : variablesOf fs₀ (rooted (ns ++ [n])) (documentsIn fs₀ (rooted (ns ++ [n]))) =
        variablesOf fs₁ (rooted (ns ++ [n])) (documentsIn fs₀ (rooted (ns ++ [n]))) := by
      obtain ⟨names, -, hsort, hmem⟩ := exists_documentsIn hs₀ hn
      refine variablesOf_congr hs₀ hs₁ (fun x hx => ?_) hsight'
      rw [hsort, Text.mem_sort] at hx
      exact ((hmem x).mp hx).2
    rw [sectionsOf, sectionsOf, Path.join_rooted, hvariables, hdocuments, ih hrest]

/-! ## Roles -/

theorem read?_of_not_isDirectory (h : fs.isDirectory q = false) : read? fs q = .ok none := by
  rw [read?, h]
  rfl

/-- Of a role that is there something is known, unless reading its variables fails. -/
theorem read?_of_isDirectory (h : fs.isDirectory q = true) :
    read? fs q = (sectionsOf fs q variableSections).map fun sections =>
      some ⟨some (Path.name (Path.normalise q)), documentsIn fs (Path.join q "tasks"),
        .map (VariableFiles.sectionsToMapping sections), none⟩ := by
  rw [read?, h]
  simp only [documents_eq, sections?_eq, bind, Except.bind, Bool.not_true, Bool.false_eq_true,
    if_false]
  cases sectionsOf fs q variableSections <;> rfl

/-- Reading a role without variable files does not fail. -/
theorem read?_of_no_variables (hthere : fs.isDirectory q = true)
    (h : ∀ s ∈ variableSections, documentsIn fs (Path.join q s) = []) :
    read? fs q = .ok (some ⟨some (Path.name (Path.normalise q)),
      documentsIn fs (Path.join q "tasks"), .map (VariableFiles.sectionsToMapping []), none⟩) := by
  have hsections : ∀ sections : List Text, (∀ s ∈ sections, documentsIn fs (Path.join q s) = []) →
      sectionsOf fs q sections = .ok [] := by
    intro sections hempty
    induction sections with
    | nil => rfl
    | cons s sections ih =>
      rw [List.forall_mem_cons] at hempty
      rw [sectionsOf, hempty.1, ih hempty.2]
      rfl
  rw [read?_of_isDirectory hthere, hsections _ h]
  rfl

/-- Two file systems that look the same where a role concerns it hold the same role. -/
theorem read?_congr (hs₀ : fs₀.Sound) (hs₁ : fs₁.Sound)
    (h : ∀ ps, Concerns ns ps → fs₀.sight (rooted ps) = fs₁.sight (rooted ps)) :
    read? fs₀ (rooted ns) = read? fs₁ (rooted ns) := by
  -- Every path that reading touches is one that concerns the role.
  have hsection (s : Text) (hs : s ∈ sectionNames) : ∃ n : Name, n.text = s ∧ ∀ x : Name,
      fs₀.sight (rooted (ns ++ [n, x])) = fs₁.sight (rooted (ns ++ [n, x])) := by
    have hname : ∃ n : Name, n.text = s := by
      have hall : ∀ s ∈ sectionNames, s ≠ [] ∧ '/' ∉ s ∧ s ≠ ['.'] ∧ s ≠ ['.', '.'] := by decide
      obtain ⟨h₁, h₂, h₃, h₄⟩ := hall s hs
      exact ⟨⟨s, h₁, h₂, h₃, h₄⟩, rfl⟩
    obtain ⟨n, rfl⟩ := hname
    exact ⟨n, rfl, fun x => h _ (.inr ⟨n, x, hs, rfl⟩)⟩
  have hhere : fs₀.isDirectory (rooted ns) = fs₁.isDirectory (rooted ns) :=
    FileTree.isDirectory_congr (h ns (.inl rfl))
  have htasks : documentsIn fs₀ (Path.join (rooted ns) "tasks") =
      documentsIn fs₁ (Path.join (rooted ns) "tasks") := by
    obtain ⟨n, hn, hsight⟩ := hsection "tasks" List.mem_cons_self
    rw [← hn, Path.join_rooted]
    refine documentsIn_congr hs₀ hs₁ (by simp) fun x => ?_
    rw [List.append_assoc]
    exact hsight x
  have hsections : sectionsOf fs₀ (rooted ns) variableSections =
      sectionsOf fs₁ (rooted ns) variableSections :=
    sectionsOf_congr hs₀ hs₁ fun s hs => hsection s (List.mem_cons_of_mem _ hs)
  -- Where no role is, nothing is read; where one is, all its parts agree.
  cases hthere : fs₁.isDirectory (rooted ns) with
  | false => rw [read?_of_not_isDirectory (hhere.trans hthere), read?_of_not_isDirectory hthere]
  | true =>
    rw [read?_of_isDirectory (hhere.trans hthere), read?_of_isDirectory hthere, htasks, hsections]

end PlaybookAssist.Role
