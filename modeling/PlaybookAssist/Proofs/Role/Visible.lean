import PlaybookAssist.Proofs.Role.Coherence
import PlaybookAssist.Proofs.Role.Origin

/-!
# The roles that a playbook sees

A playbook sees the roles of its workspace by the ways to them and the common roles by their own
paths. No role of the workspace hides another one, as different paths have different ways; that
takes paths of normal form, which the cache keeps unless a change names a role by another path.

## Main definitions

- `RoleCache.Operation.NamesNormal` : the operation names roles of a workspace by normal paths only
- `RoleCache.Sees` : what is seen of a workspace and the common roles

## Main statements

- `RoleCache.relativeRoles_eq`, `RoleCache.addCommon_eq` : what is entered, and in which order
- `RoleCache.orderly_after` : operations keep the paths of a workspace normal
- `RoleCache.visible_of_history` : what is seen, whatever the cache has gone through
-/

namespace PlaybookAssist.RoleCache

open PlaybookAssist.Path (IsNormal relativeTo)

section

variable [Place] {fs : FileTree} {w workspace role d q : Text} {dirs standard : List Text}
  {own common seen roles : Roles} {cache cache' : RoleCache} {op : Operation}
  {history : List (FileTree × Operation)}

/-! ## What is entered -/

/-- The roles of a workspace are entered one after the other, each by the way to it. -/
theorem relativeRoles_eq (hd : IsNormal d) (hown : ∀ p ∈ own.keys, IsNormal p)
    (hnodup : own.keys.Nodup) :
    relativeRoles d own = own.map fun p => (relativeTo d p.1, p.2) := by
  -- Induction over the own roles; the last one gets a way that no other one has.
  induction own using List.reverseRecOn with
  | nil => rfl
  | append_singleton own p ih =>
    rw [Table.keys, List.map_append, List.nodup_append] at hnodup
    obtain ⟨hfirst, -, hapart⟩ := hnodup
    have hrest : ∀ q ∈ Table.keys own, IsNormal q := by
      intro q hq
      exact hown q (by rw [Table.keys, List.map_append]; exact List.mem_append_left _ hq)
    have hlast : IsNormal p.1 := hown p.1 (by simp [Table.keys])
    -- Equal ways would come from equal roles.
    have hnew : relativeTo d p.1 ∉ Table.keys (own.map fun p => (relativeTo d p.1, p.2)) := by
      intro hmem
      rw [Table.keys, List.map_map] at hmem
      obtain ⟨q, hq, hsame⟩ := List.mem_map.mp hmem
      have hq' : q.1 ∈ Table.keys own := List.mem_map_of_mem hq
      have heq := Path.relativeTo_injective hd (hrest _ hq') hlast hsame
      exact hapart _ hq' _ (by simp) heq
    rw [relativeRoles, List.foldl_append, ← relativeRoles, ih hrest hfirst, List.map_append]
    exact Table.set_of_not_mem hnew _

omit [Place] in
/-- A common role is entered at the end if its path is not taken. -/
theorem addCommon_eq (own seen : Roles) (hnodup : common.keys.Nodup) :
    addCommon own seen common =
      seen ++ common.filter fun p => !own.hasKey p.1 && !seen.hasKey p.1 := by
  -- Induction over the common roles, of which the last one is new or taken.
  induction common using List.reverseRecOn with
  | nil => simp [addCommon]
  | append_singleton common p ih =>
    rw [Table.keys, List.map_append, List.nodup_append] at hnodup
    obtain ⟨hfirst, -, hapart⟩ := hnodup
    have hearlier : p.1 ∉ (common.filter fun q => !own.hasKey q.1 && !seen.hasKey q.1).map (·.1) := by
      intro hmem
      obtain ⟨q, hq, hsame⟩ := List.mem_map.mp hmem
      exact hapart _ (List.mem_map_of_mem (List.mem_filter.mp hq).1) _ (by simp) hsame
    -- What has been entered of the common roles does not take the path of a later one.
    have htaken : Table.hasKey p.1
        (seen ++ common.filter fun q => !own.hasKey q.1 && !seen.hasKey q.1) = seen.hasKey p.1 := by
      rw [Bool.eq_iff_iff, Table.hasKey_iff, Table.hasKey_iff, Table.keys, List.map_append,
        List.mem_append, or_iff_left hearlier]
      exact Iff.rfl
    have hfold : addCommon own seen (common ++ [p]) =
        addCommon own (addCommon own seen common) [p] := List.foldl_append
    rw [hfold, ih hfirst, addCommon, List.filter_append, List.foldl_cons, List.foldl_nil, htaken]
    rw [List.filter_cons, List.filter_nil, ← Bool.not_or]
    -- A role is added unless it is an own one, or its way is taken.
    cases htake : own.hasKey p.1 || seen.hasKey p.1 with
    | true => simp
    | false =>
      have hnew : p.1 ∉ Table.keys
          (seen ++ common.filter fun q => !own.hasKey q.1 && !seen.hasKey q.1) := by
        rw [← Table.hasKey_iff, htaken]
        rw [Bool.or_eq_false_iff] at htake
        simp [htake.2]
      have hset := Table.set_of_not_mem hnew p.2
      rw [List.append_assoc] at hset
      exact hset

/-- What is seen from a directory: the roles of the workspace by the ways to them, and then the
    common roles by their own paths, except those whose path is that of a role of the workspace or
    the way to one. No two entries have the same key, and the ways lead back to the roles. -/
structure Sees (d : Text) (own common seen : Roles) : Prop where
  eq : seen = (own.map fun p => (relativeTo d p.1, p.2)) ++
    common.filter fun p => p.1 ∉ own.keys ∧ ∀ q ∈ own.keys, relativeTo d q ≠ p.1
  nodup : seen.keys.Nodup
  back : ∀ q ∈ own.keys, Path.normalise (Path.join d (relativeTo d q)) = q

theorem sees (hd : IsNormal d) (hown : ∀ p ∈ own.keys, IsNormal p) (hnodup : own.keys.Nodup)
    (hcommon : common.keys.Nodup) :
    Sees d own common (addCommon own (relativeRoles d own) common) := by
  have hways : Table.keys (own.map fun p => (relativeTo d p.1, p.2)) = own.keys.map (relativeTo d) := by
    rw [Table.keys, Table.keys, List.map_map, List.map_map]
    rfl
  have heq : addCommon own (relativeRoles d own) common =
      (own.map fun p => (relativeTo d p.1, p.2)) ++
        common.filter fun p => p.1 ∉ own.keys ∧ ∀ q ∈ own.keys, relativeTo d q ≠ p.1 := by
    rw [addCommon_eq own _ hcommon, relativeRoles_eq hd hown hnodup]
    refine congrArg _ (List.filter_congr fun p _ => ?_)
    rw [Bool.eq_iff_iff, Bool.and_eq_true, Bool.not_eq_true', Bool.not_eq_true',
      ← Bool.not_eq_true, ← Bool.not_eq_true, Table.hasKey_iff, Table.hasKey_iff, hways,
      decide_eq_true_eq]
    simp
  -- No own role is hidden by another one, and none by a common one.
  refine ⟨heq, ?_, fun q hq => Path.normalise_join_relativeTo hd (hown q hq)⟩
  rw [heq, Table.keys, List.map_append, List.nodup_append]
  refine ⟨?_, (List.filter_sublist.map _).nodup hcommon, ?_⟩
  · -- Different roles of the workspace have different ways.
    rw [← Table.keys, hways]
    refine hnodup.map_on fun p hp q hq hsame => ?_
    exact Path.relativeTo_injective hd (hown p hp) (hown q hq) hsame
  -- A common role that is kept has no way of an own one.
  · rintro _ hway _ hpath rfl
    rw [← Table.keys, hways] at hway
    obtain ⟨q, hq, hsame⟩ := List.mem_map.mp hway
    obtain ⟨p, hp, hkey⟩ := List.mem_map.mp hpath
    have hkeep := of_decide_eq_true (List.mem_filter.mp hp).2
    exact hkeep.2 q hq (hsame.trans hkey.symm)

/-! ## Paths that a cache keeps -/

/-- What is kept of a workspace lies at paths of normal form: its roles, the directories found for
    it and the roles whose changes wait. -/
structure Orderly (w : Text) (cache : RoleCache) : Prop where
  roles : ∀ roles, cache.entries.find? w = some roles → ∀ q ∈ roles.keys, IsNormal q
  directories : ∀ d, (d, w) ∈ cache.directories → IsNormal d
  queue : ∀ c ∈ cache.queue, c.workspace = w → IsNormal c.role

/-- The operation names the roles of the workspace by paths of normal form. -/
def Operation.NamesNormal (w : Text) : Operation → Prop
  | .post change => change.workspace = w → IsNormal change.role
  | .refresh workspace role => workspace = w → IsNormal role
  | _ => True

/-- What is found for the workspace, and its roles, lie at paths of normal form. -/
def normalPaths (w : Text) : Claims where
  found key d := key = w → IsNormal d
  held key _ q := key = w → IsNormal q
  named key q := key = w → IsNormal q

omit [Place] in
theorem Accounted.orderly {told : List (Text × Text)}
    (h : cache.Accounted standard told (normalPaths w)) : cache.Orderly w := by
  have hbelongs (key q : Text) (hq : Belongs told (normalPaths w) cache key q) :
      key = w → IsNormal q :=
    hq.elim (fun ⟨_, _, hnormal⟩ => hnormal) id
  exact ⟨fun roles hroles q hq => hbelongs w q (h.roles w roles hroles q hq) rfl,
    fun d hd => h.found w d (h.directories d w hd) rfl, fun c hc => hbelongs _ _ (h.queue c hc)⟩

theorem brings_normalPaths (hs : fs.Sound) (hw : Path.root w = ['/']) {key : Text}
    (h : Finds fs standard key d) : Brings fs (normalPaths w) key d := by
  have hd : key = w → IsNormal d := by
    rintro rfl
    rcases h with ⟨dirs, hdirs, hd⟩ | ⟨rfl, -⟩
    · exact Role.isNormal_of_mem_directoriesBelow hs hw hdirs hd
    · -- The common roles are kept under a key that is no absolute path.
      exact absurd hw (by decide)
  refine ⟨hd, fun roles hlist q hq hkey => ?_⟩
  obtain ⟨ds, rfl⟩ := Path.isNormal_iff.mp (hd hkey)
  obtain ⟨n, -, rfl, -⟩ := Role.exists_of_mem_listIn hs hlist hq
  exact Path.isNormal_iff.mpr ⟨ds ++ [n], Path.join_rooted ds n⟩

/-- The paths of a workspace stay normal as long as changes name its roles by normal paths. -/
theorem orderly_after (hw : Path.root w = ['/'])
    (hhistory : ∀ m ∈ history, m.1.Sound ∧ m.2.NamesNormal w) (standard : List Text) :
    Orderly w ((empty standard).after history) := by
  have hnames (op : Operation) (h : op.NamesNormal w) : op.Names (normalPaths w) := by
    cases op with
    | post | refresh => exact h
    | rolesOf | commonRoles | role? | visible | postForPath | workOff | takeDiscovered => trivial
  obtain ⟨told, haccounted⟩ := @exists_accounted_after _ standard (normalPaths w) history
    (fun m hm key d => brings_normalPaths (hhistory m hm).1 hw)
    (fun path key d role hd howner hkey => Role.isNormal_of_ownerIn? (hd hkey) howner)
    (fun m hm => hnames m.2 (hhistory m hm).2)
  exact haccounted.orderly

/-! ## What is seen -/

/-- Whatever a cache has gone through, as long as changes name the roles of the workspace by paths of
    normal form: what is visible from a directory are the roles of the workspace by the ways to
    them and then the common roles by their own paths, unless one of the two cannot be read. -/
theorem visible_of_history (hw : Path.root w = ['/']) (hd : IsNormal d) (hs : fs.Sound)
    (hhistory : ∀ m ∈ history, m.1.Sound ∧ m.2.NamesNormal w) :
    let cache := (empty standard).after history
    -- Nothing more is done where the own roles cannot be read, or the common ones.
    (∀ next e, cache.rolesOf fs w = (next, .error e) →
      cache.visible fs (some w) d = (next, .error e)) ∧
    ∀ next own, cache.rolesOf fs w = (next, .ok own) →
      (∀ last e, next.commonRoles fs = (last, .error e) →
        cache.visible fs (some w) d = (last, .error e)) ∧
      ∀ last common, next.commonRoles fs = (last, .ok common) →
        ∃ seen, cache.visible fs (some w) d = (last, .ok seen) ∧ Sees d own common seen := by
  intro cache
  have hne : w ≠ [] := by
    rintro rfl
    cases hw
  rw [visible_of_some hne]
  -- Both reads are those of the cache, with the queue worked off in between.
  constructor
  · intro next e hown
    rw [hown]
  intro next own hown
  rw [hown]
  dsimp only
  constructor
  · intro last e hcommon
    rw [hcommon]
    rfl
  intro last common hcommon
  refine ⟨addCommon own (relativeRoles d own) common, by rw [hcommon]; rfl, ?_⟩
  -- Both tables are kept in a cache that has been in use, so they have what is true of all of them.
  have horderly : Orderly w (cache.rolesOf fs w).1 := by
    have hlater : ∀ m ∈ history ++ [(fs, Operation.rolesOf w)], m.1.Sound ∧ m.2.NamesNormal w :=
      List.forall_mem_append.mpr ⟨hhistory, List.forall_mem_singleton.mpr ⟨hs, trivial⟩⟩
    have hafter := orderly_after hw hlater standard
    rw [after, List.foldl_append] at hafter
    exact hafter
  have hdistinct : Distinct (cache.rolesOf fs w).1 :=
    (distinct_after standard history).run fs (.rolesOf w)
  rw [hown] at horderly hdistinct
  have hlast : Distinct (next.commonRoles fs).1 := hdistinct.run fs .commonRoles
  rw [hcommon] at hlast
  apply sees hd
  · exact horderly.roles own (find?_lookUp hown)
  · exact hdistinct w own (find?_lookUp hown)
  · exact hlast commonKey common (find?_lookUp hcommon)

end

/-! ## Samples -/

attribute [local instance] Sample.place

/-- A cache that holds nothing but some roles of the sample workspace. -/
structure HoldsSample (roles : Roles) (cache : RoleCache) : Prop where
  standardDirectories : cache.standardDirectories = []
  entries : cache.entries = [("/w".toList, roles)]
  queue : cache.queue = []

theorem HoldsSample.rolesOf {roles : Roles} {cache : RoleCache} (h : HoldsSample roles cache)
    (fs : FileTree) : cache.rolesOf fs "/w" = (cache, .ok roles) := by
  apply lookUp_of_held h.queue
  rw [h.entries]
  rfl

theorem HoldsSample.commonRoles {roles : Roles} {cache : RoleCache} (h : HoldsSample roles cache)
    (fs : FileTree) : ∃ last, cache.commonRoles fs = (last, .ok []) := by
  have hnone : cache.entries.find? commonKey = none := by
    rw [h.entries]
    rfl
  have hdirs : Role.installedDirectories fs cache.standardDirectories = [] := by
    rw [h.standardDirectories]
    rfl
  rw [RoleCache.commonRoles, hdirs, lookUp_of_new h.queue hnone]
  exact ⟨_, rfl⟩

/-- From a directory of the sample workspace its role is seen by a way that climbs first. -/
theorem visible_from_plays :
    let fs := Sample.tree Sample.web Sample.one
    let history : List (FileTree × Operation) := [(fs, .rolesOf "/w"), (fs, .takeDiscovered)]
    ∃ last own common seen,
      ((empty []).after history).visible fs (some "/w".toList) "/w/plays" = (last, .ok seen) ∧
      Sees "/w/plays" own common seen ∧
      seen.find? "../roles/web" = some (Sample.context Sample.one) := by
  intro fs history
  have hafter : (empty []).after history = (Sample.holding [] "/w").takeDiscovered.1 := by
    have hfirst : (empty []).after history = ((empty []).rolesOf fs "/w").1.takeDiscovered.1 := rfl
    rw [hfirst, Sample.rolesOf_web.1]
  have htaken : HoldsSample [("/w/roles/web".toList, Sample.context Sample.one)]
      (Sample.holding [] "/w").takeDiscovered.1 := ⟨rfl, rfl, rfl⟩
  obtain ⟨last, hcommon⟩ := htaken.commonRoles fs
  have hsound : fs.Sound := Sample.fits_web.1.sound
  obtain ⟨-, hvisible⟩ := @visible_of_history _ fs "/w" "/w/plays" [] history (by decide) (by decide)
    hsound (by simpa [history, Operation.NamesNormal] using hsound)
  rw [hafter] at hvisible ⊢
  -- The role is one of the workspace, and its way leads up and down again.
  obtain ⟨seen, hseen, hsees⟩ := (hvisible _ _ (htaken.rolesOf fs)).2 last [] hcommon
  refine ⟨last, _, [], seen, hseen, hsees, ?_⟩
  have hway : relativeTo "/w/plays" "/w/roles/web" = "../roles/web".toList := by decide
  rw [hsees.eq, List.map_singleton, hway]
  exact Table.find?_set_self _ _ []

/-- A change that names a role with a slash at the end has the role held twice, under two paths with
    one way, so that one of the two entries is not seen. -/
theorem hidden_by_other_spelling :
    let fs := Sample.tree Sample.web Sample.one
    let history : List (FileTree × Operation) :=
      [(fs, .rolesOf "/w"), (fs, .refresh "/w" "/w/roles/web/")]
    let cache := (empty []).after history
    ∃ next last own seen, cache.rolesOf fs "/w" = (next, .ok own) ∧
      own.keys = ["/w/roles/web".toList, "/w/roles/web/".toList] ∧
      cache.visible fs (some "/w".toList) "/w" = (last, .ok seen) ∧
      seen.keys = ["roles/web".toList] ∧
      Path.normalise (Path.join "/w" "roles/web") ≠ "/w/roles/web/".toList := by
  intro fs history cache
  let context := Sample.context Sample.one
  -- The same role, spelled with a slash at its end, is read as another one.
  obtain ⟨context', hother⟩ : ∃ context', Role.read? fs "/w/roles/web/" = .ok (some context') :=
    ⟨_, Role.read?_of_no_variables rfl (Sample.noVariables rfl rfl)⟩
  have hcache : HoldsSample
      [("/w/roles/web".toList, context), ("/w/roles/web/".toList, context')] cache := by
    have hafter : cache = (((empty []).rolesOf fs "/w").1.refresh fs "/w" "/w/roles/web/").1 := rfl
    have hfind : (Sample.holding [] "/w").entries.find? "/w".toList =
        some [("/w/roles/web".toList, context)] := rfl
    rw [hafter, Sample.rolesOf_web.1, refresh, hfind]
    dsimp only
    rw [hother]
    exact ⟨rfl, rfl, rfl⟩
  obtain ⟨last, hcommon⟩ := hcache.commonRoles fs
  have hway : relativeTo "/w" "/w/roles/web" = "roles/web".toList ∧
      relativeTo "/w" "/w/roles/web/" = "roles/web".toList := by decide
  -- Both spellings have one way, so that the later one takes the place of the other.
  have hseen : relativeRoles "/w"
      [("/w/roles/web".toList, context), ("/w/roles/web/".toList, context')] =
        [("roles/web".toList, context')] := by
    simp only [relativeRoles, List.foldl_cons, List.foldl_nil, Table.set, hway, if_true]
  refine ⟨cache, last, _, [("roles/web".toList, context')], hcache.rolesOf fs, rfl, ?_, rfl,
    by decide⟩
  rw [visible_of_some (by decide), hcache.rolesOf fs]
  dsimp only
  rw [hcommon, hseen]
  rfl

end PlaybookAssist.RoleCache
