import PlaybookAssist.Proofs.Role.Coherence
import PlaybookAssist.Proofs.Role.History

/-!
# Whom a change reaches

A `roles` directory can be found more than once: for a workspace, for another one inside it and
among the places where roles are installed. It is noted for the last of them only, and a change of
one of its roles is put down to that one. The others go on holding the role as they have read it.

## Main definitions

- `RoleCache.Settled` : no change waits, and each directory is noted for whom it was found last
- `RoleCache.Renewed` : what a look makes of a cache to which a change was reported

## Main statements

- `RoleCache.settled_after` : looks leave a cache settled
- `RoleCache.renewed_of_isLook` : what is held of each role after the next look
- `RoleCache.change_reaches_last_finder` : where a change arrives, and where it does not
-/

namespace PlaybookAssist.RoleCache

open PlaybookAssist.Path (rooted)
open Role (rolesName)

section

variable [Place] {fs : FileTree} {key owner role path d : Text} {dirs standard : List Text}
  {cache next : RoleCache} {context : Option RoleContext} {kind : ChangeKind} {op : Operation}
  {history : List (FileTree × Operation)}

/-! ## For whom a directory is noted -/

/-- Directories that were found one after the other, each with whom it was found for last. -/
def lastFinders (discovered : List (Text × Text)) : Table Text :=
  discovered.foldl (fun noted p => Table.set p.1 p.2 noted) []

/-- No change waits, and each directory is noted for whom it was found last. -/
structure Settled (cache : RoleCache) : Prop where
  queue : cache.queue = []
  directories : cache.directories = lastFinders cache.discovered

omit [Place] in
theorem Settled.note (h : cache.Settled) (key : Text) (dirs : List Text) :
    (cache.note key dirs).Settled := by
  refine ⟨h.queue, ?_⟩
  rw [RoleCache.note, lastFinders, List.foldl_append, ← lastFinders, ← h.directories,
    List.foldl_map]

theorem Settled.lookUp (h : cache.Settled) (fs : FileTree) (key : Text)
    (directories : Except Failure (List Text)) : (cache.lookUp fs key directories).1.Settled := by
  rcases lookUp_cases fs key directories cache with hsame | ⟨count, dirs, -, -, -, hpopulate⟩
  · rw [hsame, workOff_of_idle h.queue]
    exact h
  · rw [hpopulate, workOff_of_idle h.queue]
    rcases populate_cases fs key dirs cache with ⟨found, e, -, hfails⟩ | ⟨roles, -, hresult⟩
    · rw [hfails]
      exact h.note key found
    · rw [hresult]
      exact ⟨(h.note key dirs).queue, (h.note key dirs).directories⟩

/-- Looks leave a cache settled. -/
theorem settled_after (hlooks : ∀ m ∈ history, m.2.IsLook) (standard : List Text) :
    ((empty standard).after history).Settled := by
  apply preserved_after
  · exact ⟨rfl, rfl⟩
  · intro m hm cache h
    apply preserved_of_isLook (hlooks m hm) ?_ ?_ h
    · exact fun cache workspace h => h.lookUp m.1 _ _
    · exact fun cache h => h.lookUp m.1 _ _

omit [Place] in
theorem lastFinders_concat (discovered : List (Text × Text)) (p : Text × Text) :
    lastFinders (discovered ++ [p]) = (lastFinders discovered).set p.1 p.2 :=
  List.foldl_append

omit [Place] in
theorem nodup_keys_lastFinders (discovered : List (Text × Text)) :
    (lastFinders discovered).keys.Nodup := by
  induction discovered using List.reverseRecOn with
  | nil => exact List.nodup_nil
  | append_singleton discovered p ih =>
    rw [lastFinders_concat]
    exact Table.nodup_keys_set ih

omit [Place] in
theorem exists_last {discovered : List (Text × Text)}
    (h : (lastFinders discovered).find? d = some key) :
    ∃ before later, discovered = before ++ (d, key) :: later ∧ ∀ p ∈ later, p.1 ≠ d := by
  induction discovered using List.reverseRecOn with
  | nil => cases h
  | append_singleton discovered p ih =>
    rw [lastFinders_concat] at h
    -- Either the directory was found last by the last discovery, or earlier.
    by_cases hp : d = p.1
    · -- The directory is noted for whom it is found now.
      subst hp
      rw [Table.find?_set_self] at h
      cases h
      exact ⟨discovered, [], rfl, fun q hq => by cases hq⟩
    · rw [Table.find?_set_of_ne hp] at h
      obtain ⟨before, later, rfl, hlater⟩ := ih h
      refine ⟨before, later ++ [p], by simp, fun q hq => ?_⟩
      rcases List.mem_append.mp hq with hq | hq
      · exact hlater q hq
      -- The last discovery is of another directory.
      · rw [List.mem_singleton.mp hq]
        exact Ne.symm hp

omit [Place] in
theorem Settled.exists_last (h : cache.Settled) (hd : (d, key) ∈ cache.directories) :
    ∃ before later, cache.discovered = before ++ (d, key) :: later ∧ ∀ p ∈ later, p.1 ≠ d := by
  rw [h.directories] at hd
  exact RoleCache.exists_last (Table.find?_of_mem (nodup_keys_lastFinders _) hd)

/-! ## What the next look makes of a change -/

/-- What a look makes of a cache to which a change of a role was reported: the owner holds of the
    role what reading it gives, everything else that was held stays, and what is entered under new
    keys has just been read. -/
structure Renewed (fs : FileTree) (owner role : Text) (cache next : RoleCache) : Prop where
  queue : next.queue = []
  held : ∀ key old, cache.entries.find? key = some old →
    ∃ new, next.entries.find? key = some new ∧ ∀ q, new.find? q =
      if key = owner ∧ q = role then Role.known? fs q else old.find? q
  fresh : ∀ key new, cache.entries.find? key = none → next.entries.find? key = some new →
    ∀ q context, new.find? q = some context → Role.known? fs q = some context

theorem renewed_workOff (hqueue : cache.queue = []) (hdistinct : cache.Distinct)
    (hread : Role.read? fs role = .ok context) (kind : ChangeKind) :
    ∃ next, (cache.post ⟨owner, role, kind⟩).workOff fs = (next, .ok 1) ∧
      Renewed fs owner role cache next := by
  -- The change is the only one in the queue.
  have hposted : (cache.post ⟨owner, role, kind⟩).queue = [⟨owner, role, kind⟩] := by
    rw [post, hqueue]
    rfl
  have hreads : ∀ c ∈ [(⟨owner, role, kind⟩ : RoleChange)],
      ∃ context, Role.read? fs c.role = .ok context := by
    rw [List.forall_mem_singleton]
    exact ⟨context, hread⟩
  refine ⟨_, by rw [workOff, hposted, workOffAll_eq hreads]; rfl, rfl, fun key old hold => ?_,
    fun key new hnone hnew => ?_⟩
  · refine ⟨_, (find?_renew _ _ _ _).trans (congrArg _ hold), fun q => ?_⟩
    -- The entry of the owner is renewed; every other one stays.
    by_cases hkey : owner = key
    · simp only [hkey, if_true, true_and, Table.find?_update (hdistinct key old hold)]
      by_cases hq : q = role <;> simp [hq]
    · simp only [if_neg hkey, Ne.symm hkey, false_and, if_false]
  · -- If the owner has not been read, or could not be read, the change is lost.
    have hstays := (find?_renew fs cache.entries ⟨owner, role, kind⟩ key).trans (congrArg _ hnone)
    cases hstays.symm.trans hnew

theorem Renewed.populate (h : Renewed fs owner role cache next)
    (hnone : next.entries.find? key = none) (dirs : List Text) :
    Renewed fs owner role cache (next.populate fs key dirs).1 := by
  rcases populate_cases fs key dirs next with ⟨found, e, -, hfails⟩ | ⟨roles, hreads, hresult⟩
  -- Nothing was read after all.
  · rw [hfails]
    exact ⟨h.queue, h.held, h.fresh⟩
  · rw [hresult]
    refine ⟨h.queue, fun key' old hold => ?_, fun key' new hbefore hnew => ?_⟩
    -- An entry that was held is held still, and its roles are the renewed ones.
    · obtain ⟨new, hnew, hfind⟩ := h.held key' old hold
      have hkey : key' ≠ key := by
        rintro rfl
        rw [hnone] at hnew
        cases hnew
      exact ⟨new, (Table.find?_set_of_ne hkey _ _).trans hnew, hfind⟩
    -- An entry that is new has been read from the tree as it is now.
    · by_cases hkey : key' = key
      · subst hkey
        obtain rfl : roles = new :=
          Option.some.inj ((Table.find?_set_self key' roles next.entries).symm.trans hnew)
        intro q context hq
        rw [hreads.find?] at hq
        split at hq
        · simpa [Table.find?] using hq
        · cases hq
      · exact h.fresh key' new hbefore ((Table.find?_set_of_ne hkey _ _).symm.trans hnew)

theorem Renewed.lookUp (h : Renewed fs owner role cache next) (key : Text)
    (directories : Except Failure (List Text)) :
    Renewed fs owner role cache (next.lookUp fs key directories).1 := by
  rcases lookUp_cases fs key directories next with hsame | ⟨_, dirs, -, -, hnone, hpopulate⟩
  · rw [hsame, workOff_of_idle h.queue]
    exact h
  · rw [workOff_of_idle h.queue] at hnone hpopulate
    rw [hpopulate]
    exact h.populate hnone dirs

/-- What the next look makes of a change, whatever it looks at. -/
theorem renewed_of_isLook (hqueue : cache.queue = []) (hdistinct : cache.Distinct)
    (hread : Role.read? fs role = .ok context) (hlook : op.IsLook) :
    Renewed fs owner role cache (op.run fs (cache.post ⟨owner, role, kind⟩)) := by
  obtain ⟨worked, hwork, hrenewed⟩ := renewed_workOff hqueue hdistinct hread kind
  -- The first look up works the change off.
  have hfirst (key : Text) (directories : Except Failure (List Text)) :
      Renewed fs owner role cache
        ((cache.post ⟨owner, role, kind⟩).lookUp fs key directories).1 := by
    rcases lookUp_cases fs key directories (cache.post ⟨owner, role, kind⟩) with
      hsame | ⟨_, dirs, -, -, hnone, hpopulate⟩
    · rw [hsame, hwork]
      exact hrenewed
    · rw [hwork] at hnone hpopulate
      rw [hpopulate]
      exact hrenewed.populate hnone dirs
  -- After that nothing waits, so that later looks keep what has been renewed.
  refine @holds_of_isLook _ fs _ op (· = cache.post ⟨owner, role, kind⟩) _ hlook ?_ ?_ ?_ rfl
  · rintro _ workspace rfl
    exact hfirst _ _
  · rintro _ rfl
    exact hfirst _ _
  · intro next h
    exact h.lookUp _ _

/-! ## Where a change arrives -/

/-- A file that is reported after nothing but looks belongs to a role of the directory with the
    longest path around it, and the change is put down to the one for whom that directory was found
    last. If the role can be read, the next look leaves everything else as it was held, and of the
    role those who held it before hold what reading it gives exactly if they are that one or held the
    same before. Who is read at the next look for the first time holds what reading gives. -/
theorem change_reaches_last_finder (hlooks : ∀ m ∈ history, m.2.IsLook) (hlook : op.IsLook)
    (hposted : (((empty standard).after history).postForPath path kind).2 = true) :
    let cache := (empty standard).after history
    ∃ owner role d,
      (Role.ownerIn? d path = some role ∧ (∀ d' ∈ cache.directories.keys,
        (Role.ownerIn? d' path).isSome → d'.length ≤ d.length)) ∧
      (∃ before later, cache.discovered = before ++ (d, owner) :: later ∧ ∀ p ∈ later, p.1 ≠ d) ∧
      ∀ context, Role.read? fs role = .ok context →
        let next := op.run fs (cache.postForPath path kind).1
        (∀ key old, cache.entries.find? key = some old →
          ∃ new, next.entries.find? key = some new ∧
            (new.find? role = context ↔ key = owner ∨ old.find? role = context) ∧
            ∀ q, q ≠ role → new.find? q = old.find? q) ∧
        ∀ key new, cache.entries.find? key = none → next.entries.find? key = some new →
          ∀ known, new.find? role = some known → context = some known := by
  intro cache
  have hsettled := settled_after hlooks standard
  have hdistinct := distinct_after standard history
  obtain ⟨⟨owner, role⟩, howner⟩ : ∃ o, cache.ownerOf? path = some o := by
    cases howner : cache.ownerOf? path with
    | some o => exact ⟨o, rfl⟩
    | none =>
      rw [postForPath, howner] at hposted
      cases hposted
  -- The owner is the directory with the longest way, and the workspace that found it last.
  obtain ⟨d, hd, hrole, hlongest⟩ := ownerOf?_spec howner
  refine ⟨owner, role, d, ⟨hrole, hlongest⟩, hsettled.exists_last hd, fun context hread => ?_⟩
  have hpost : (cache.postForPath path kind).1 = cache.post ⟨owner, role, kind⟩ := by
    rw [postForPath, howner]
  have hknown : Role.known? fs role = context := by
    rw [Role.known?, hread]
  intro next
  have hrenewed : Renewed fs owner role cache next := by
    rw [show next = op.run fs (cache.post ⟨owner, role, kind⟩) from congrArg (op.run fs) hpost]
    exact renewed_of_isLook hsettled.queue hdistinct hread hlook
  -- An entry held before is renewed for the owner only.
  constructor
  · intro key old hold
    obtain ⟨new, hnew, hfind⟩ := hrenewed.held key old hold
    refine ⟨new, hnew, ?_, fun q hq => by rw [hfind q, if_neg fun h => hq h.2]⟩
    by_cases hkey : key = owner
    · simp [hfind role, hkey, hknown]
    · simp [hfind role, hkey]
  -- An entry read afterwards has the role as the tree has it.
  · intro key new hnone hnew known hfind
    rw [← hknown]
    exact hrenewed.fresh key new hnone hnew role known hfind

end

/-! ## Samples -/

attribute [local instance] Sample.place

/-- The path of the second task file. -/
def Sample.written : Text :=
  rooted (Sample.way Sample.web)

theorem Sample.ownerIn?_written :
    Role.ownerIn? "/w/roles" Sample.written = some "/w/roles/web".toList :=
  @Role.ownerIn?_of_below _ [Sample.top, rolesName] _ Sample.web Sample.written
    (Path.absolute_rooted _)

theorem Sample.ownerOf?_written (earlier : List Text) (last : Text) :
    (Sample.holding earlier last).ownerOf? Sample.written = some (last, "/w/roles/web".toList) := by
  simp only [ownerOf?, directoriesByLength, Sample.holding, List.mergeSort_singleton,
    List.findSome?_cons, Sample.ownerIn?_written]
  rfl

/-- A change arrives at the only workspace that has found the role. -/
theorem change_reaches_only_finder :
    let before := Sample.tree Sample.web Sample.one
    let after := Sample.tree Sample.web Sample.two
    let cache := (empty []).after [(before, .rolesOf "/w")]
    let next := Operation.run after (cache.postForPath Sample.written .modified).1 (.rolesOf "/w")
    ∃ new, next.entries.find? "/w" = some new ∧
      new.find? "/w/roles/web" = some (Sample.context Sample.two) := by
  intro before after cache next
  have hcache : cache = Sample.holding [] "/w" := by
    rw [show cache = ((empty []).rolesOf before "/w").1 from rfl, Sample.rolesOf_web.1]
  have hposted : (cache.postForPath Sample.written .modified).2 = true := by
    rw [hcache, postForPath, Sample.ownerOf?_written]
  obtain ⟨owner, role, d, ⟨hrole, -⟩, ⟨earlier, later, hlast, -⟩, hreach⟩ :=
    @change_reaches_last_finder _ after Sample.written [] .modified (.rolesOf "/w")
      [(before, .rolesOf "/w")] (by simp [Operation.IsLook]) trivial hposted
  -- There is one directory, which was found once.
  have hdirectory : ("/w/roles".toList, "/w".toList) = (d, owner) := by
    have hone : (d, owner) ∈ cache.discovered := by
      rw [hlast]
      simp
    rw [hcache] at hone
    exact (List.mem_singleton.mp hone).symm
  cases hdirectory
  -- The role is the one that the path lies in.
  obtain rfl := Option.some.inj (Sample.ownerIn?_written.symm.trans hrole)
  obtain ⟨hheld, -⟩ := hreach _ Sample.read?_web.2
  obtain ⟨new, hnew, hiff, -⟩ := hheld "/w" [("/w/roles/web".toList, Sample.context Sample.one)]
    (by rw [show (empty []).after [(before, .rolesOf "/w")] = Sample.holding [] "/w" from hcache]; rfl)
  exact ⟨new, hnew, hiff.mpr (Or.inl rfl)⟩

/-- A change does not arrive at a workspace around which another one has found the role later. -/
theorem change_missed_by_earlier_finder :
    let before := Sample.tree Sample.web Sample.one
    let after := Sample.tree Sample.web Sample.two
    let cache := (empty []).after [(before, .rolesOf "/w"), (before, .rolesOf "/")]
    let posted := cache.postForPath Sample.written .modified
    let next := Operation.run after posted.1 (.rolesOf "/w")
    posted.2 = true ∧ cache.ownerOf? Sample.written = some ("/".toList, "/w/roles/web".toList) ∧
      (∃ new, next.entries.find? "/w" = some new ∧
        new.find? "/w/roles/web" = some (Sample.context Sample.one)) ∧
      Role.read? after "/w/roles/web" = .ok (some (Sample.context Sample.two)) ∧
      Sample.context Sample.one ≠ Sample.context Sample.two := by
  intro before after cache posted next
  -- Two workspaces have found the directory, the root after the other one.
  have hcache : cache = Sample.holding ["/w".toList] "/" := by
    rw [show cache = ((((empty []).rolesOf before "/w").1).rolesOf before "/").1 from rfl,
      Sample.rolesOf_web.1, Sample.rolesOf_web.2]
  have howner : cache.ownerOf? Sample.written = some ("/".toList, "/w/roles/web".toList) := by
    rw [hcache, Sample.ownerOf?_written]
  have hposted : posted = (cache.post ⟨"/", "/w/roles/web", .modified⟩, true) := by
    rw [show posted = cache.postForPath Sample.written .modified from rfl, postForPath, howner]
  have hrenewed : Renewed after "/" "/w/roles/web" cache next := by
    rw [show next = Operation.run after posted.1 (.rolesOf "/w") from rfl, hposted]
    refine renewed_of_isLook ?_ ?_ Sample.read?_web.2 trivial
    · rw [hcache]
      rfl
    · exact distinct_after [] [(before, .rolesOf "/w"), (before, .rolesOf "/")]
  -- So the other workspace keeps what it has read before.
  obtain ⟨new, hnew, hfind⟩ := hrenewed.held "/w"
    [("/w/roles/web".toList, Sample.context Sample.one)] (by rw [hcache]; rfl)
  refine ⟨by rw [hposted], howner, ⟨new, hnew, ?_⟩, Sample.read?_web.2, by decide⟩
  rw [hfind, if_neg (by decide)]
  rfl

end PlaybookAssist.RoleCache
