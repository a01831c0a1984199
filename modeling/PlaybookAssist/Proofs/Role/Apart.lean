import PlaybookAssist.Proofs.Role.Coherence
import PlaybookAssist.Proofs.Role.Origin

/-!
# Workspaces that hold the same role

Each workspace is read by itself, whatever is held of others. What it finds lies within it, so the same
role is held of two workspaces only if the one lies within the other. That takes workspaces whose paths
are no patterns, as the path is part of a search pattern, and changes that name roles of a workspace by
paths within it, as the changes do that a path is put down to.

## Main definitions

- `RoleCache.Shared` : two workspaces hold a role
- `RoleCache.Operation.NamesWithin` : the operation names roles of a workspace within it only

## Main statements

- `RoleCache.isWithin_of_held` : the roles of a workspace lie within it, whatever the cache has gone
  through
- `RoleCache.nested_of_shared` : two workspaces that hold a role
-/

namespace PlaybookAssist.RoleCache

open PlaybookAssist.Path (Below isAbsolute isWithin)

/-- Both workspaces have been asked for, and the role is held of both. -/
def Shared (cache : RoleCache) (w v q : Text) : Prop :=
  ∃ own other, cache.entries.find? w = some own ∧ cache.entries.find? v = some other ∧
    q ∈ Table.keys own ∧ q ∈ Table.keys other

section

variable [Place] {fs : FileTree} {w v key d q : Text} {standard : List Text} {roles : Roles}
  {history : List (FileTree × Operation)}

/-- The operation names roles of the workspace by paths within it. -/
def Operation.NamesWithin (w : Text) : Operation → Prop
  | .post change => change.workspace = w → isWithin change.role w = true
  | .refresh workspace role => workspace = w → isWithin role w = true
  | _ => True

/-- What is found for the workspace leads along names from it, and its roles lie within it. -/
def ownPaths (w : Text) : Claims where
  found key d := key = w → Below w d
  held key _ q := key = w → isWithin q w = true
  named key q := key = w → isWithin q w = true

theorem isWithin_join (hw : isAbsolute w = true) (hd : Below w d) (n : Path.Name) :
    isWithin (Path.join d n.text) w = true :=
  (hd.join [n]).isWithin hw

theorem brings_ownPaths (hs : fs.Sound) (hw : isAbsolute w = true)
    (hplain : Wildcard.isPlain w = true) (h : Finds fs standard key d) :
    Brings fs (ownPaths w) key d := by
  have hd : key = w → Below w d := by
    rintro rfl
    rcases h with ⟨dirs, hdirs, hd⟩ | ⟨rfl, -⟩
    · exact Role.below_of_mem_directoriesBelow hs hw hplain hdirs hd
    · -- The common roles are kept under a key that is no absolute path.
      exact absurd hw (by decide)
  refine ⟨hd, fun roles hlist q hq hkey => ?_⟩
  obtain ⟨n, -, rfl, -⟩ := Role.exists_of_mem_listIn hs hlist hq
  exact isWithin_join hw (hd hkey) n

/-- The roles that are held of a workspace lie within it as long as changes name them so. -/
theorem isWithin_of_held (hw : isAbsolute w = true) (hplain : Wildcard.isPlain w = true)
    (hhistory : ∀ m ∈ history, m.1.Sound ∧ m.2.NamesWithin w)
    (hroles : ((empty standard).after history).entries.find? w = some roles)
    (hq : q ∈ roles.keys) : isWithin q w = true := by
  -- What a later operation may name lies in the workspace.
  have hnames (op : Operation) (h : op.NamesWithin w) : op.Names (ownPaths w) := by
    cases op with
    | post | refresh => exact h
    | rolesOf | commonRoles | role? | visible | postForPath | workOff | takeDiscovered => trivial
  have howner (path key d role : Text) (hd : key = w → Below w d)
      (hrole : Role.ownerIn? d path = some role) (hkey : key = w) : isWithin role w = true := by
    obtain ⟨n, rfl⟩ := Role.exists_of_ownerIn? hrole
    exact isWithin_join hw (hd hkey) n
  obtain ⟨told, haccounted⟩ := @exists_accounted_after _ standard (ownPaths w) history
    (fun m hm key d => brings_ownPaths (hhistory m hm).1 hw hplain) howner
    (fun m hm => hnames m.2 (hhistory m hm).2)
  -- What is held has been found or named, and both lie in the workspace.
  rcases haccounted.roles w roles hroles q hq with ⟨d, -, hheld⟩ | hnamed
  · exact hheld rfl
  · exact hnamed rfl

/-- Two workspaces that hold the same role lie within one another, whatever the cache has gone
    through, as long as their paths are no patterns and changes name their roles by paths within
    them. -/
theorem nested_of_shared (hw : isAbsolute w = true ∧ Wildcard.isPlain w = true)
    (hv : isAbsolute v = true ∧ Wildcard.isPlain v = true)
    (hhistory : ∀ m ∈ history, m.1.Sound ∧ m.2.NamesWithin w ∧ m.2.NamesWithin v)
    (h : Shared ((empty standard).after history) w v q) :
    isWithin w v = true ∨ isWithin v w = true := by
  obtain ⟨own, other, hown, hother, hqw, hqv⟩ := h
  have hinw := isWithin_of_held hw.1 hw.2
    (fun m hm => ⟨(hhistory m hm).1, (hhistory m hm).2.1⟩) hown hqw
  have hinv := isWithin_of_held hv.1 hv.2
    (fun m hm => ⟨(hhistory m hm).1, (hhistory m hm).2.2⟩) hother hqv
  exact Path.isWithin_or_isWithin hinw hinv

end

/-! ## Samples -/

attribute [local instance] Sample.place

theorem Sample.shared_holding (w v : Text) (h : w ≠ v) :
    Shared (Sample.holding [w] v) w v "/w/roles/web" := by
  refine ⟨[("/w/roles/web".toList, Sample.context Sample.one)],
    [("/w/roles/web".toList, Sample.context Sample.one)], ?_, ?_, List.mem_cons_self,
    List.mem_cons_self⟩
  · simp [Sample.holding, Table.find?]
  · simp [Sample.holding, Table.find?, h]

/-- The cache that has found the ordinary role for its workspace and nothing for another one. -/
def Sample.withEmpty (v : Text) : RoleCache :=
  { Sample.holding [] "/w" with entries := (Sample.holding [] "/w").entries ++ [(v, [])] }

theorem Sample.after_nested :
    (empty []).after [(Sample.tree Sample.web Sample.one, .rolesOf "/w"),
      (Sample.tree Sample.web Sample.one, .rolesOf "/")] = Sample.holding ["/w".toList] "/" := by
  have hsteps : (empty []).after [(Sample.tree Sample.web Sample.one, .rolesOf "/w"),
      (Sample.tree Sample.web Sample.one, .rolesOf "/")] =
        (((empty []).rolesOf (Sample.tree Sample.web Sample.one) "/w").1.rolesOf
          (Sample.tree Sample.web Sample.one) "/").1 := rfl
  rw [hsteps, Sample.rolesOf_web.1, Sample.rolesOf_web.2]

/-- A workspace and the root around it hold the role of the workspace. -/
theorem nested_workspace_and_root :
    let fs := Sample.tree Sample.web Sample.one
    let history : List (FileTree × Operation) := [(fs, .rolesOf "/w"), (fs, .rolesOf "/")]
    Shared ((empty []).after history) "/w" "/" "/w/roles/web" ∧
      (isWithin "/w" "/" = true ∨ isWithin "/" "/w" = true) := by
  intro fs history
  have hshared : Shared ((empty []).after history) "/w" "/" "/w/roles/web" := by
    rw [show (empty []).after history = _ from Sample.after_nested]
    exact Sample.shared_holding "/w" "/" (by decide)
  have hsound : fs.Sound := Sample.fits_web.1.sound
  exact ⟨hshared, nested_of_shared (by decide) (by decide)
    (by simpa [history, Operation.NamesWithin] using hsound) hshared⟩

/-- The same role is held of two workspaces of which the one lies within the other, of a workspace
    whose path is a pattern that the path of another one fits, and of a workspace for which a change
    names a role of another one. -/
theorem shared_by_others :
    let fs := Sample.tree Sample.web Sample.one
    let nested := (empty []).after [(fs, .rolesOf "/w"), (fs, .rolesOf "/")]
    let fitting := (empty []).after [(fs, .rolesOf "/w"), (fs, .rolesOf "/?")]
    let change : RoleChange := ⟨"/x", "/w/roles/web", .modified⟩
    let named := (empty []).after
      [(fs, .rolesOf "/w"), (fs, .rolesOf "/x"), (fs, .post change), (fs, .workOff)]
    Shared nested "/w" "/" "/w/roles/web" ∧
      (Shared fitting "/w" "/?" "/w/roles/web" ∧
        isWithin "/w" "/?" = false ∧ isWithin "/?" "/w" = false) ∧
      Shared named "/w" "/x" "/w/roles/web" ∧
        isWithin "/w" "/x" = false ∧ isWithin "/x" "/w" = false := by
  intro fs nested fitting change named
  -- Three ways to share a role: one workspace in the other, a pattern, and a change that names it.
  refine ⟨?nested, ⟨?fitting, by decide, by decide⟩, ?named, by decide, by decide⟩
  -- The root has the other workspace in it, with the same role.
  case nested =>
    rw [show nested = _ from Sample.after_nested]
    exact Sample.shared_holding "/w" "/" (by decide)
  -- A workspace that reads as a pattern fits another one's name.
  case fitting =>
    have hdirs : Role.directoriesBelow fs (some "/?".toList) = .ok ["/w/roles".toList] :=
      Role.directoriesBelow_of_search rfl rfl (by decide) rfl
    have hfitting : fitting = Sample.holding ["/w".toList] "/?" := by
      rw [show fitting = (((empty []).rolesOf fs "/w").1.rolesOf fs "/?").1 from rfl,
        Sample.rolesOf_web.1, Sample.rolesOf_holding hdirs rfl]
    rw [hfitting]
    exact Sample.shared_holding "/w" "/?" (by decide)
  case named =>
    have hdirs : Role.directoriesBelow fs (some "/x".toList) = .ok [] :=
      Role.directoriesBelow_of_search rfl rfl (by decide) rfl
    have hlook : (Sample.holding [] "/w").rolesOf fs "/x" = (Sample.withEmpty "/x", .ok []) := by
      rw [rolesOf, hdirs]
      rfl
    -- The other workspace has no roles of its own until the change is worked off.
    have hrefresh : ((Sample.withEmpty "/x").post change).refresh fs "/x" "/w/roles/web" =
        ({ (Sample.withEmpty "/x").post change with
          entries := (Sample.withEmpty "/x").entries.set "/x"
            [("/w/roles/web".toList, Sample.context Sample.one)] }, .ok ()) := by
      have hfind : ((Sample.withEmpty "/x").post change).entries.find? "/x" = some [] := rfl
      rw [refresh, hfind]
      dsimp only
      rw [Sample.read?_web.1]
      rfl
    -- So the second workspace holds the role because the change has named it.
    have hnamed : named.entries = [("/w".toList, [("/w/roles/web".toList, Sample.context Sample.one)]),
        ("/x".toList, [("/w/roles/web".toList, Sample.context Sample.one)])] := by
      rw [show named = (((((empty []).rolesOf fs "/w").1.rolesOf fs "/x").1.post change).workOff
        fs).1 from rfl, Sample.rolesOf_web.1, hlook]
      show (workOffAll fs ((Sample.withEmpty "/x").post change) 0 [change]).1.entries = _
      rw [workOffAll, hrefresh]
      rfl
    exact ⟨_, _, by rw [hnamed]; rfl, by rw [hnamed]; rfl, List.mem_cons_self, List.mem_cons_self⟩

end PlaybookAssist.RoleCache
