import PlaybookAssist.Proofs.Role.Coherence
import PlaybookAssist.Proofs.Role.History

/-!
# Working changes off

The changes that wait are worked off one after the other, each by reading its role anew. What comes
out depends only on which roles of which workspaces are named: what was held of a role before it is
named, and how often, in which order and why it is named, make no difference.

## Main definitions

- `RoleChange.target` : the role of a workspace that a change names
- `RoleCache.held?` : what is held of a role of a workspace
- `RoleCache.WorkedOff` : what working changes off makes of a cache
- `RoleCache.Agree` : two caches hold the same

## Main statements

- `RoleCache.workedOff` : what working off makes of a cache whose changes can all be read
- `RoleCache.foldl_renew_eq_self` : changes that are held already have no effect
- `RoleCache.workOff_by_targets` : the result depends on the targets alone
-/

namespace PlaybookAssist

/-- The role that a change names, with its workspace. -/
def RoleChange.target (change : RoleChange) : Text × Text :=
  (change.workspace, change.role)

namespace RoleCache

section

variable [Place] {fs : FileTree} {key workspace role : Text} {entries : Table Roles}
  {cache next last : RoleCache} {changes others : List RoleChange}

/-! ## What is held -/

/-- What is held of a role of a workspace. -/
def held? (workspace role : Text) (cache : RoleCache) : Option RoleContext :=
  (cache.entries.find? workspace).bind (Table.find? role)

/-- All roles that changes name can be read. -/
def AllRead (fs : FileTree) (changes : List RoleChange) : Prop :=
  ∀ c ∈ changes, ∃ context, Role.read? fs c.role = .ok context

/-- Two caches have read the same workspaces, and hold the same of each role. -/
structure Agree (cache next : RoleCache) : Prop where
  workspaces : ∀ key, next.entries.hasKey key = cache.entries.hasKey key
  roles : ∀ key role, next.held? key role = cache.held? key role

/-- What working changes off makes of a cache: no change waits, no workspace is read that had not been
    read, of each role that a change names is held what reading it gives, and nothing else is
    touched. -/
structure WorkedOff (fs : FileTree) (changes : List RoleChange) (cache next : RoleCache) : Prop where
  rest : next = { cache with entries := next.entries, queue := [] }
  workspaces : ∀ key, next.entries.hasKey key = cache.entries.hasKey key
  distinct : next.Distinct
  unnamed : ∀ key role, (key, role) ∉ changes.map RoleChange.target →
    next.held? key role = cache.held? key role
  named : ∀ key role, (key, role) ∈ changes.map RoleChange.target → cache.entries.hasKey key = true →
    next.held? key role = Role.known? fs role

omit [Place] in
theorem mem_named : role ∈ named key changes ↔ (key, role) ∈ changes.map RoleChange.target := by
  simp [named, RoleChange.target, and_assoc]

omit [Place] in
theorem held?_of_not_hasKey (h : cache.entries.hasKey key = false) (role : Text) :
    cache.held? key role = none := by
  rw [Table.hasKey, Option.isSome_eq_false_iff, Option.isNone_iff_eq_none] at h
  rw [held?, h]
  rfl

/-- Of a role that can be read something is known exactly if its directory is there. -/
theorem isSome_known? (h : ∃ context, Role.read? fs role = .ok context) :
    (Role.known? fs role).isSome = fs.isDirectory role := by
  obtain ⟨context, h⟩ := h
  rw [Role.known?, h]
  cases hthere : fs.isDirectory role with
  | false =>
    rw [Role.read?_of_not_isDirectory hthere] at h
    cases h
    rfl
  | true =>
    rw [Role.read?_of_isDirectory hthere] at h
    obtain ⟨sections, -, rfl⟩ := map_eq_ok.mp h
    rfl

/-! ## One pass -/

/-- What working off makes of a cache whose changes can all be read. -/
theorem workedOff (hdistinct : cache.Distinct) (hread : AllRead fs changes) :
    ∃ next, workOff fs { cache with queue := changes } = (next, .ok changes.length) ∧
      WorkedOff fs changes cache next := by
  -- The entries are gone through change by change, and the queue is empty afterwards.
  refine ⟨{ cache with entries := changes.foldl (renew fs) cache.entries, queue := [] }, ?_, rfl,
    fun key => ?_, fun key roles hfind => ?_, fun key role hunnamed => ?_,
    fun key role hnamed hkey => ?_⟩
  · rw [workOff, workOffAll_eq hread, Nat.zero_add]
  · rw [Table.hasKey, Table.hasKey, find?_foldl_renew, Option.isSome_map]
  · rw [find?_foldl_renew] at hfind
    obtain ⟨old, hold, rfl⟩ := Option.map_eq_some_iff.mp hfind
    exact Table.nodup_keys_updateAll (hdistinct key old hold)
  -- A role that no change names stays what it was.
  · rw [held?, held?, find?_foldl_renew]
    cases hold : cache.entries.find? key with
    | none => rfl
    | some old =>
      show (Table.updateAll _ _ old).find? role = old.find? role
      rw [Table.find?_updateAll (hdistinct key old hold), if_neg (mt mem_named.mp hunnamed)]
  -- A role that a change names is read from the tree.
  · obtain ⟨old, hold⟩ := Option.isSome_iff_exists.mp hkey
    rw [held?, find?_foldl_renew, hold]
    show (Table.updateAll _ _ old).find? role = Role.known? fs role
    rw [Table.find?_updateAll (hdistinct key old hold), if_pos (mem_named.mpr hnamed)]

/-- What is held afterwards depends on the targets of the changes alone. -/
theorem WorkedOff.agree (h : WorkedOff fs changes cache next) (h' : WorkedOff fs others cache last)
    (hsame : ∀ p, p ∈ others.map RoleChange.target ↔ p ∈ changes.map RoleChange.target) :
    Agree next last := by
  refine ⟨fun key => (h'.workspaces key).trans (h.workspaces key).symm, fun key role => ?_⟩
  by_cases hnamed : (key, role) ∈ changes.map RoleChange.target
  · cases hkey : cache.entries.hasKey key with
    | true => rw [h.named key role hnamed hkey, h'.named key role ((hsame _).mpr hnamed) hkey]
    | false =>
      -- A workspace that has not been read holds nothing, before and after.
      rw [held?_of_not_hasKey ((h.workspaces key).trans hkey),
        held?_of_not_hasKey ((h'.workspaces key).trans hkey)]
  · rw [h.unnamed key role hnamed, h'.unnamed key role (mt (hsame _).mp hnamed)]

/-! ## A second pass -/

theorem renew_eq_self {change : RoleChange} (h : ∀ roles, entries.find? change.workspace = some roles →
    roles.find? change.role = Role.known? fs change.role) : renew fs entries change = entries := by
  rw [renew]
  cases hroles : entries.find? change.workspace with
  | none => rfl
  | some roles =>
    dsimp only
    rw [Table.update_of_find? (h roles hroles), Table.set_of_find? hroles]

/-- Changes of roles of which is held what reading them gives leave the tables as they are. -/
theorem foldl_renew_eq_self (h : ∀ c ∈ changes, ∀ roles, entries.find? c.workspace = some roles →
    roles.find? c.role = Role.known? fs c.role) : changes.foldl (renew fs) entries = entries := by
  induction changes with
  | nil => rfl
  | cons change changes ih =>
    rw [List.forall_mem_cons] at h
    rw [List.foldl_cons, renew_eq_self h.1]
    exact ih h.2

/-- After changes were worked off, the same changes leave the tables as they are. -/
theorem WorkedOff.foldl_renew (h : WorkedOff fs changes cache next) :
    changes.foldl (renew fs) next.entries = next.entries := by
  refine foldl_renew_eq_self fun c hc roles hroles => ?_
  have hkey : cache.entries.hasKey c.workspace = true := by
    rw [← h.workspaces, Table.hasKey, hroles]
    rfl
  have hheld := h.named c.workspace c.role (List.mem_map_of_mem hc) hkey
  rw [held?, hroles] at hheld
  exact hheld

/-! ## The main result -/

/-- No role is held twice, as in the tables of any run (`distinct_after`). If all roles that the waiting
    changes name can be read, working them off gives their number. Every role that none of them names
    is held as before, a workspace that had not been read stays unread, and of the named roles of the
    others is held what reading them gives. Any changes with the same targets have the same effect; to
    work the same changes off once more, later or in the same pass, has no effect at all. -/
theorem workOff_by_targets (hdistinct : cache.Distinct) (hread : AllRead fs cache.queue) :
    ∃ next, cache.workOff fs = (next, .ok cache.queue.length) ∧ next.queue = [] ∧
      WorkedOff fs cache.queue cache next ∧
      (∀ others : List RoleChange,
        (∀ p, p ∈ others.map RoleChange.target ↔ p ∈ cache.queue.map RoleChange.target) →
        ∃ last, workOff fs { cache with queue := others } = (last, .ok others.length) ∧
          last.queue = [] ∧ Agree next last) ∧
      workOff fs { next with queue := cache.queue } = (next, .ok cache.queue.length) ∧
      workOff fs { cache with queue := cache.queue ++ cache.queue } =
        (next, .ok (cache.queue.length + cache.queue.length)) := by
  obtain ⟨next, hnext, hworked⟩ := workedOff hdistinct hread
  have hqueue : next.queue = [] := congrArg RoleCache.queue hworked.rest
  have hentries : next.entries = cache.queue.foldl (renew fs) cache.entries := by
    rw [workOff, workOffAll_eq hread, Prod.mk.injEq] at hnext
    exact (congrArg RoleCache.entries hnext.1).symm
  refine ⟨next, hnext, hqueue, hworked, fun others hsame => ?_, ?_, ?_⟩
  · -- The roles that the other changes name are named by the changes that wait, so they can be read.
    have hothers : AllRead fs others := by
      intro c hc
      obtain ⟨c', hc', htarget⟩ := List.mem_map.mp ((hsame c.target).mp (List.mem_map_of_mem hc))
      have hrole : c'.role = c.role := congrArg Prod.snd htarget
      exact hrole ▸ hread c' hc'
    obtain ⟨last, hlast, hworked'⟩ := workedOff hdistinct hothers
    exact ⟨last, hlast, congrArg RoleCache.queue hworked'.rest, hworked.agree hworked' hsame⟩
  -- Working off the same changes again renews every role to the same context.
  · rw [workOff, workOffAll_eq hread, Nat.zero_add]
    dsimp only
    rw [hworked.foldl_renew, ← hqueue]
  -- And a queue that says everything twice does so with one pass after the other.
  · have htwice : AllRead fs (cache.queue ++ cache.queue) := by
      intro c hc
      exact hread c ((List.mem_append.mp hc).elim id id)
    rw [workOff, workOffAll_eq htwice, Nat.zero_add, List.length_append, List.foldl_append,
      ← hentries, hworked.foldl_renew]
    exact congrArg (·, _) hworked.rest.symm

end

/-! ## Samples -/

attribute [local instance] Sample.place

/-- The sample cache when a role of it is gone and the other one has a second task file; the change
    of the latter was reported twice, and one report is about a workspace that has not been read. -/
def Sample.waiting : RoleCache :=
  { Sample.holding [] "/w" with
    entries := [("/w".toList, [("/w/roles/web".toList, Sample.context Sample.one),
      ("/w/roles/gone".toList, Sample.context Sample.one)])]
    queue := [⟨"/w", "/w/roles/web", .modified⟩, ⟨"/v", "/v/roles/x", .deleted⟩,
      ⟨"/w", "/w/roles/gone", .deleted⟩, ⟨"/w", "/w/roles/web", .fileOpen⟩] }

theorem Sample.distinct_waiting : Sample.waiting.Distinct := by
  intro key roles hfind
  by_cases hkey : "/w".toList = key
  · rw [Sample.waiting, Table.find?, if_pos hkey] at hfind
    cases hfind
    decide
  · rw [Sample.waiting, Table.find?, if_neg hkey] at hfind
    cases hfind

/-- The sample changes are worked off: one role is read, one dropped, one left unread. -/
theorem workOff_waiting :
    let fs := Sample.tree Sample.web Sample.two
    ∃ next, Sample.waiting.workOff fs = (next, .ok 4) ∧ next.queue = [] ∧
      next.held? "/w" "/w/roles/web" = some (Sample.context Sample.two) ∧
      next.held? "/w" "/w/roles/gone" = none ∧ next.entries.hasKey "/v" = false ∧
      workOff fs { next with queue := Sample.waiting.queue } = (next, .ok 4) := by
  intro fs
  have hweb : Role.read? fs "/w/roles/web" = .ok (some (Sample.context Sample.two)) :=
    Sample.read?_web.2
  have hgone : Role.read? fs "/w/roles/gone" = .ok none := rfl
  have hother : Role.read? fs "/v/roles/x" = .ok none := rfl
  -- Each of the changes can be read: one role has been written, two are gone.
  have hread : AllRead fs Sample.waiting.queue := by
    simp only [AllRead, Sample.waiting, List.forall_mem_cons, List.not_mem_nil, false_imp_iff,
      implies_true, and_true]
    exact ⟨⟨_, hweb⟩, ⟨_, hother⟩, ⟨_, hgone⟩, ⟨_, hweb⟩⟩
  obtain ⟨next, hnext, hqueue, hworked, -, hagain, -⟩ :=
    workOff_by_targets Sample.distinct_waiting hread
  -- The count is that of the changes, of which two name the same role.
  refine ⟨next, hnext, hqueue, ?_, ?_, hworked.workspaces "/v", hagain⟩
  · rw [hworked.named "/w" "/w/roles/web" (by decide) rfl, Role.known?, hweb]
  · rw [hworked.named "/w" "/w/roles/gone" (by decide) rfl, Role.known?, hgone]

end RoleCache

end PlaybookAssist
