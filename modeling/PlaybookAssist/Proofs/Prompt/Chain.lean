import Mathlib.Data.List.Induction
import Mathlib.Logic.Relation
import PlaybookAssist.Prompt
import PlaybookAssist.Proofs.Value.Endless
import PlaybookAssist.Proofs.Value.Mapping

/-!
# The chain of last keys

From a play, block or task the way leads on where the last key is a section with entries, to the last
of these. The task being written stands where the way ends, so whether it awaits a body depends on
nothing that lies beside the way. Sections that do not stand under the last key lead nowhere, which
is why the order in which sections are looked through makes no difference.

A document may hold itself. Then its values are unfolded a little further than once around, and a
mapping occurs inside itself under its own name. A way that leads from a mapping to a mapping with the
same name goes round for ever: there is no task being written. In a finite document no way does.

## Main definitions

- `Prompt.LeadsTo` : one step along the way
- `Prompt.ComesBack` : the way goes round
- `Prompt.openedFirst?` : the step that is found by looking through sections in a given order

## Main statements

- `Prompt.exists_end` : the way ends where the unfolded value does
- `Prompt.currentTask_cases` : the way goes round, or the task being written stands at its end
- `Prompt.not_comesBack` : in a finite document no way goes round
- `Prompt.openedFirst?_eq_some_iff` : the order of sections makes no difference
- `Prompt.awaitsBody_iff_chain` : when a document awaits a body, and what this depends on
-/

namespace PlaybookAssist.Prompt

open Relation (ReflTransGen TransGen)

/-- The keys of sections. -/
def sectionKeys : List Text :=
  taskSections ++ blockSections

/-- The second value is the last entry of the section under the last key of the first. -/
inductive LeadsTo : Value → Value → Prop where
  | lastEntry {v entries x : Value} {key : Text} (before : Mapping) (earlier : List Value)
    (hmap : v.asMap? = some (before ++ [(.str key, entries)])) (hkey : key ∈ sectionKeys)
    (hlist : entries.asList? = some (earlier ++ [x])) : LeadsTo v x

/-- The name of a mapping, under which it occurs inside itself. -/
def mapName? : Value → Option Nat
  | .knot n (.map _) => some n
  | .knot _ v => mapName? v
  | _ => none

/-- The way goes round: it comes to a mapping, and from there to a mapping with the same name. -/
def ComesBack (v : Value) : Prop :=
  ∃ u w n, ReflTransGen LeadsTo v u ∧ TransGen LeadsTo u w ∧
    mapName? u = some n ∧ mapName? w = some n

/-- The way comes to a mapping with one of the given names. -/
def Reenters (around : List Nat) (v : Value) : Prop :=
  ∃ w n, ReflTransGen LeadsTo v w ∧ mapName? w = some n ∧ n ∈ around

variable {v x y t : Value} {key : Text} {entries others : List Value} {ps before : Mapping}
  {around : List Nat} {n : Nat} {e : Failure}

/-! ## One step -/

theorem isSection_str : isSection (.str key) = true ↔ key ∈ sectionKeys := by
  rw [isSection, List.elem_iff, sectionKeys]

theorem sectionTask?_concat (around : List Nat) (before : Mapping) (k v : Value) :
    sectionTask? around (before ++ [(k, v)]) =
      if isSection k then entriesTask? around v else none := by
  induction before with
  | nil => rw [List.nil_append, sectionTask?]
  | cons p before ih =>
    cases before with
    | nil => rw [← ih]; rfl
    | cons q before => rw [← ih]; rfl

theorem lastTask?_concat (around : List Nat) (earlier : List Value) (x : Value) :
    lastTask? around (earlier ++ [x]) = some (currentTask around x) := by
  induction earlier with
  | nil => rw [List.nil_append, lastTask?]
  | cons y earlier ih =>
    cases earlier with
    | nil => rw [← ih]; rfl
    | cons z earlier => rw [← ih]; rfl

/-- The name of a list makes no difference to its entries. -/
theorem entriesTask?_eq (around : List Nat) (v : Value) :
    entriesTask? around v = v.asList?.bind (lastTask? around) := by
  match v with
  | .knot n v => rw [entriesTask?, entriesTask?_eq around v]; rfl
  | .null | .bool _ | .int _ | .float _ | .nan _ | .str _ | .date _ | .dateTime _ | .bytes _
  | .list _ | .tuple _ | .set _ | .map _ => rfl

/-- The task being written is found in the mapping that a value is, unless its name was met before. -/
theorem currentTask_eq (around : List Nat) (v : Value) : currentTask around v =
    if (mapName? v).any around.elem then .error .endless
    else (v.asMap?.bind (sectionTask? ((mapName? v).toList ++ around))).getD (.ok v.content) := by
  match v with
  | .knot n (.map ps) => rfl
  | .knot n (.knot m v) => exact currentTask_eq around (.knot m v)
  | .knot n .null | .knot n (.bool _) | .knot n (.int _) | .knot n (.float _) | .knot n (.nan _)
  | .knot n (.str _) | .knot n (.date _) | .knot n (.dateTime _) | .knot n (.bytes _)
  | .knot n (.list _) | .knot n (.tuple _) | .knot n (.set _) => rfl
  | .null | .bool _ | .int _ | .float _ | .nan _ | .str _ | .date _ | .dateTime _ | .bytes _
  | .list _ | .tuple _ | .set _ | .map _ => rfl

/-- A mapping that was met before leads on without end. -/
theorem currentTask_of_met (hname : mapName? v = some n) (hmet : n ∈ around) :
    currentTask around v = .error .endless := by
  rw [currentTask_eq, hname, if_pos (by simpa using hmet)]

/-- A value that was not met before is looked into. -/
theorem currentTask_of_new (hnew : ∀ n, mapName? v = some n → n ∉ around) :
    currentTask around v =
      (v.asMap?.bind (sectionTask? ((mapName? v).toList ++ around))).getD (.ok v.content) := by
  rw [currentTask_eq, if_neg]
  rw [Option.any_eq_true]
  rintro ⟨n, hname, hmet⟩
  exact hnew n hname (List.elem_iff.mp hmet)

/-- A step along the way does not change the task being written; the name of the mapping that it comes
    from is remembered. -/
theorem LeadsTo.currentTask_eq (h : LeadsTo v x) (hnew : ∀ n, mapName? v = some n → n ∉ around) :
    currentTask around v = currentTask ((mapName? v).toList ++ around) x := by
  obtain ⟨before, earlier, hmap, hkey, hlist⟩ := h
  rw [currentTask_of_new hnew, hmap, Option.bind_some, sectionTask?_concat,
    if_pos (isSection_str.mpr hkey), entriesTask?_eq, hlist, Option.bind_some, lastTask?_concat]
  rfl

/-- Where the way does not lead on, there is the task being written. -/
theorem content_of_end (h : ∀ x, ¬ LeadsTo v x) (hnew : ∀ n, mapName? v = some n → n ∉ around) :
    currentTask around v = .ok v.content := by
  rw [currentTask_of_new hnew]
  -- The value leads nowhere, so that it stands for itself.
  suffices hnone : v.asMap?.bind (sectionTask? ((mapName? v).toList ++ around)) = none by
    rw [hnone]
    rfl
  cases hmap : v.asMap? with
  | none => rfl
  | some ps =>
    rw [Option.bind_some]
    -- The last key is the only one that could lead on.
    induction ps using List.reverseRecOn with
    | nil => rfl
    | append_singleton before p _ =>
      obtain ⟨k, e⟩ := p
      rw [sectionTask?_concat]
      split
      case isFalse => rfl
      case isTrue hsection =>
        -- A section without entries does not lead on.
        obtain ⟨key, rfl⟩ : ∃ key, k = .str key := by
          cases k with
          | str key => exact ⟨key, rfl⟩
          | _ => cases hsection
        rw [entriesTask?_eq]
        cases hlist : e.asList? with
        | none => rfl
        | some xs =>
          cases xs using List.reverseRecOn with
          | nil => rfl
          | append_singleton earlier x =>
            exact absurd (.lastEntry before earlier hmap (isSection_str.mp hsection) hlist) (h x)

/-- There is at most one step. -/
theorem LeadsTo.eq_of_leadsTo (h : LeadsTo v x) (h' : LeadsTo v y) : x = y := by
  obtain ⟨before, earlier, hmap, -, hlist⟩ := h
  obtain ⟨before', earlier', hmap', -, hlist'⟩ := h'
  have hpair := congrArg List.getLast? (Option.some.inj (hmap.symm.trans hmap'))
  rw [List.getLast?_concat, List.getLast?_concat] at hpair
  cases hpair
  have hentry := congrArg List.getLast? (Option.some.inj (hlist.symm.trans hlist'))
  rw [List.getLast?_concat, List.getLast?_concat] at hentry
  exact Option.some.inj hentry

/-! ## The whole way -/

theorem sizeOf_content (v : Value) : sizeOf v.content ≤ sizeOf v := by
  match v with
  | .knot n v =>
    have hv := sizeOf_content v
    simp only [Value.content, Value.knot.sizeOf_spec]
    omega
  | .null | .bool _ | .int _ | .float _ | .nan _ | .str _ | .date _ | .dateTime _ | .bytes _
  | .list _ | .tuple _ | .set _ | .map _ => exact Nat.le_refl _

theorem LeadsTo.sizeOf_lt (h : LeadsTo v x) : sizeOf x < sizeOf v := by
  obtain ⟨before, earlier, hmap, -, hlist⟩ := h
  rename_i e key
  -- Names around the mapping and around the list only make them larger.
  have hv := sizeOf_content v
  have he := sizeOf_content e
  rw [Value.asMap?_eq_some_iff.mp hmap, Value.map.sizeOf_spec] at hv
  rw [Value.asList?_eq_some_iff.mp hlist, Value.list.sizeOf_spec] at he
  have hx : sizeOf x < sizeOf (earlier ++ [x]) := List.sizeOf_lt_of_mem (by simp)
  have hp : sizeOf ((.str key, e) : Value × Value) < sizeOf (before ++ [(.str key, e)]) :=
    List.sizeOf_lt_of_mem (by simp)
  simp only [Prod.mk.sizeOf_spec] at hp
  omega

/-- The way ends, as each step leads into a smaller value. -/
theorem exists_end (v : Value) : ∃ t, ReflTransGen LeadsTo v t ∧ ∀ x, ¬ LeadsTo t x := by
  by_cases h : ∃ x, LeadsTo v x
  · obtain ⟨x, hx⟩ := h
    have hsmaller := hx.sizeOf_lt
    obtain ⟨t, hreach, hend⟩ := exists_end x
    exact ⟨t, .head hx hreach, hend⟩
  · exact ⟨v, .refl, not_exists.mp h⟩
termination_by sizeOf v

/-- Two values on one way where it does not lead on are the same. -/
theorem eq_of_ends (h : ReflTransGen LeadsTo v x) (h' : ReflTransGen LeadsTo v y)
    (hend : ∀ z, ¬ LeadsTo x z) (hend' : ∀ z, ¬ LeadsTo y z) : x = y := by
  have hunique : Relator.RightUnique LeadsTo := fun _ _ _ hx hy => hx.eq_of_leadsTo hy
  rcases Relation.ReflTransGen.total_of_right_unique hunique h h' with hxy | hyx
  · exact hxy.cases_head.resolve_right fun ⟨z, hz, _⟩ => hend z hz
  · exact (hyx.cases_head.resolve_right fun ⟨z, hz, _⟩ => hend' z hz).symm

/-! ## Ways that go round -/

/-- A way goes round, or comes to one of the names around it, exactly if the rest of it does, with one
    name more around it. -/
theorem LeadsTo.reenters_or_comesBack_iff (h : LeadsTo v x)
    (hnew : ∀ n, mapName? v = some n → n ∉ around) :
    Reenters around v ∨ ComesBack v ↔
      Reenters ((mapName? v).toList ++ around) x ∨ ComesBack x := by
  constructor
  · rintro (⟨w, n, hreach, hname, hmet⟩ | ⟨u, w, n, hreach, hround, hu, hw⟩)
    · -- The value itself is new, so what is met stands further on.
      rcases hreach.cases_head with rfl | ⟨y, hy, hreach⟩
      · exact absurd hmet (hnew n hname)
      · rw [hy.eq_of_leadsTo h] at hreach
        exact Or.inl ⟨w, n, hreach, hname, List.mem_append_right _ hmet⟩
    · rcases hreach.cases_head with rfl | ⟨y, hy, hreach⟩
      · -- The round begins here: the name of this value is met again.
        obtain ⟨y, hy, hreach⟩ := TransGen.head'_iff.mp hround
        rw [hy.eq_of_leadsTo h] at hreach
        exact Or.inl ⟨w, n, hreach, hw, List.mem_append_left _ (by simp [hu])⟩
      · rw [hy.eq_of_leadsTo h] at hreach
        exact Or.inr ⟨u, w, n, hreach, hround, hu, hw⟩
  -- And back: what is met further on is met here, too.
  · rintro (⟨w, n, hreach, hname, hmet⟩ | ⟨u, w, n, hreach, hround, hu, hw⟩)
    · rcases List.mem_append.mp hmet with hhere | hmet
      · have hv : mapName? v = some n := Option.mem_toList.mp hhere
        exact Or.inr ⟨v, w, n, .refl, .head' h hreach, hv, hname⟩
      · exact Or.inl ⟨w, n, .head h hreach, hname, hmet⟩
    · exact Or.inr ⟨u, w, n, .head h hreach, hround, hu, hw⟩

/-- Either the way goes round or comes to one of the names around it, and then there is no task being
    written; or the task stands where the way ends. -/
theorem currentTask_cases (around : List Nat) (v : Value) :
    (Reenters around v ∨ ComesBack v) ∧ currentTask around v = .error .endless ∨
      ¬ (Reenters around v ∨ ComesBack v) ∧
        ∃ t, ReflTransGen LeadsTo v t ∧ (∀ x, ¬ LeadsTo t x) ∧
          currentTask around v = .ok t.content := by
  -- Structural recursion on the value; a step leads to a smaller one, or there is none.
  by_cases hmet : ∃ n, mapName? v = some n ∧ n ∈ around
  · obtain ⟨n, hname, hmet⟩ := hmet
    exact Or.inl ⟨Or.inl ⟨v, n, .refl, hname, hmet⟩, currentTask_of_met hname hmet⟩
  have hnew : ∀ n, mapName? v = some n → n ∉ around := fun n hname hn => hmet ⟨n, hname, hn⟩
  by_cases hstep : ∃ x, LeadsTo v x
  · -- The step leads into a smaller value, inside one name more.
    obtain ⟨x, hx⟩ := hstep
    have hsmaller := hx.sizeOf_lt
    have hrest := currentTask_cases ((mapName? v).toList ++ around) x
    rw [← hx.reenters_or_comesBack_iff hnew, ← hx.currentTask_eq hnew] at hrest
    refine hrest.imp_right fun ⟨hnone, t, hreach, hend⟩ => ⟨hnone, t, .head hx hreach, hend⟩
  -- Without a step the value is where the chain ends.
  · have hend : ∀ x, ¬ LeadsTo v x := not_exists.mp hstep
    refine Or.inr ⟨?_, v, .refl, hend, content_of_end hend hnew⟩
    rintro (⟨w, n, hreach, hname, hmet⟩ | ⟨u, w, n, hreach, hround, -, -⟩)
    · rcases hreach.cases_head with rfl | ⟨y, hy, -⟩
      · exact hnew n hname hmet
      · exact hend y hy
    · rcases hreach.cases_head with rfl | ⟨y, hy, -⟩
      · obtain ⟨y, hy, -⟩ := TransGen.head'_iff.mp hround
        exact hend y hy
      · exact hend y hy
termination_by sizeOf v

theorem not_reenters_nil (v : Value) : ¬ Reenters [] v := by
  rintro ⟨w, n, -, -, hmet⟩
  exact List.not_mem_nil hmet

/-- There is no task being written exactly if the way goes round. -/
theorem currentTask_eq_error_iff :
    currentTask [] v = .error e ↔ e = .endless ∧ ComesBack v := by
  have hcases := currentTask_cases [] v
  rw [or_iff_right (not_reenters_nil v)] at hcases
  rcases hcases with ⟨hback, htask⟩ | ⟨hnot, t, -, -, htask⟩
  · rw [htask, Except.error.injEq, and_iff_left hback, eq_comm]
  · rw [htask]
    exact iff_of_false (by rintro ⟨⟩) fun h => hnot h.2

/-- A task that stands in its own block leads back to itself. -/
example : currentTask [] (.knot 0 (.map [(.str "name", .null),
    (.str "block", .list [.knot 0 (.map [(.str "name", .null), (.str "block", .null)])])])) =
      .error .endless :=
  rfl

/-- The task being written stands where a way ends that does not go round. -/
theorem currentTask_of_end (hnot : ¬ ComesBack v) (hreach : ReflTransGen LeadsTo v t)
    (hend : ∀ x, ¬ LeadsTo t x) : currentTask [] v = .ok t.content := by
  have hcases := currentTask_cases [] v
  rw [or_iff_right (not_reenters_nil v)] at hcases
  rcases hcases with ⟨hback, -⟩ | ⟨-, t', hreach', hend', htask⟩
  · exact absurd hback hnot
  · rw [htask, eq_of_ends hreach hreach' hend hend']

/-- Ways that come together lead to the same task. -/
theorem currentTask_eq_of_reach (hnot : ¬ ComesBack v) (hnot' : ¬ ComesBack x)
    (hreach : ReflTransGen LeadsTo v t) (hreach' : ReflTransGen LeadsTo x t) :
    currentTask [] v = currentTask [] x := by
  obtain ⟨z, hz, hend⟩ := exists_end t
  rw [currentTask_of_end hnot (hreach.trans hz) hend,
    currentTask_of_end hnot' (hreach'.trans hz) hend]

/-! ## Finite documents -/

/-- A mapping that does not hold itself does not occur inside itself. -/
theorem hasScalarIn_content_of_mapName? {test : Value → Bool} (v : Value)
    (h : v.hasScalarIn test true around = false) :
    (∀ n, mapName? v = some n → n ∉ around) ∧
      v.content.hasScalarIn test true ((mapName? v).toList ++ around) = false := by
  match v with
  -- a mapping that has a name: it would have been found again if it stood around itself
  | .knot n (.map ps) =>
    rw [Value.hasScalarIn] at h
    split at h
    case isTrue => cases h
    case isFalse hmet =>
      refine ⟨?_, h⟩
      rintro m hm
      obtain rfl : n = m := Option.some.inj hm
      exact fun hin => hmet (List.elem_iff.mpr hin)
  -- two names in a row: the outer one only adds to what stands around
  | .knot n (.knot m v) =>
    rw [Value.hasScalarIn] at h
    split at h
    case isTrue => cases h
    case isFalse =>
      exact hasScalarIn_content_of_mapName? (.knot m v)
        (Value.hasScalarIn_mono (fun _ => List.mem_cons_of_mem n) _ h)
  | .knot n .null | .knot n (.bool _) | .knot n (.int _) | .knot n (.float _) | .knot n (.nan _)
  | .knot n (.str _) | .knot n (.date _) | .knot n (.dateTime _) | .knot n (.bytes _)
  | .knot n (.list _) | .knot n (.tuple _) | .knot n (.set _) =>
    exact ⟨by simp [mapName?], Value.hasScalarIn_content _ h⟩
  | .null | .bool _ | .int _ | .float _ | .nan _ | .str _ | .date _ | .dateTime _ | .bytes _
  | .list _ | .tuple _ | .set _ | .map _ => exact ⟨by simp [mapName?], h⟩

/-- What a step leads to does not hold a mapping in which it stands, either. -/
theorem LeadsTo.hasScalarIn {test : Value → Bool} (hstep : LeadsTo v x)
    (h : v.hasScalarIn test true around = false) :
    x.hasScalarIn test true ((mapName? v).toList ++ around) = false := by
  obtain ⟨before, earlier, hmap, -, hlist⟩ := hstep
  have hcontent := (hasScalarIn_content_of_mapName? v h).2
  rw [Value.asMap?_eq_some_iff.mp hmap, Value.hasScalarIn, Value.anyPairHasScalarIn_eq,
    List.any_eq_false] at hcontent
  have hentries := hcontent _ (List.mem_append_right before List.mem_cons_self)
  rw [Bool.not_eq_true, Bool.or_eq_false_iff] at hentries
  exact Value.hasScalarIn_of_asList? hentries.2 hlist x
    (List.mem_append_right earlier List.mem_cons_self)

/-- The way from a value that holds nothing around it comes to nothing around it. -/
theorem not_reenters {test : Value → Bool} (h : v.hasScalarIn test true around = false) :
    ¬ Reenters around v := by
  rintro ⟨w, n, hreach, hname, hmet⟩
  induction hreach using ReflTransGen.head_induction_on generalizing around with
  | refl => exact (hasScalarIn_content_of_mapName? w h).1 n hname hmet
  | head hstep _ ih => exact ih (hstep.hasScalarIn h) (List.mem_append_right _ hmet)

theorem isEndless_of_reach (h : v.isEndless = false) (hreach : ReflTransGen LeadsTo v t) :
    t.isEndless = false := by
  induction hreach with
  | refl => exact h
  | tail _ hstep ih =>
    exact Value.hasScalarIn_mono (fun _ hn => absurd hn List.not_mem_nil) _ (hstep.hasScalarIn ih)

/-- In a finite document no way goes round. -/
theorem not_comesBack (h : v.isEndless = false) : ¬ ComesBack v := by
  rintro ⟨u, w, n, hreach, hround, hu, hw⟩
  obtain ⟨x, hstep, hreach'⟩ := TransGen.head'_iff.mp hround
  -- What the mapping at which the round begins leads to does not hold it.
  have hx := hstep.hasScalarIn (isEndless_of_reach h hreach)
  exact not_reenters hx ⟨w, n, hreach', hw, by simp [hu]⟩

/-! ## Names only -/

/-- A name is no section. -/
theorem not_leadsTo_of_onlyName {name : Value} (h : t.asMap? = some [(.str "name", name)])
    (x : Value) : ¬ LeadsTo t x := by
  rintro ⟨before, earlier, hmap, hkey, -⟩
  have hlast := congrArg List.getLast? (Option.some.inj (h.symm.trans hmap))
  rw [List.getLast?_singleton, List.getLast?_concat] at hlast
  cases hlast
  exact absurd hkey (by decide)

theorem hasOnlyName_content : hasOnlyName v.content = true ↔
    ∃ name, v.asMap? = some [(.str "name", name)] := by
  constructor
  · intro h
    unfold hasOnlyName at h
    split at h
    case h_2 => cases h
    case h_1 key name hcontent =>
      rw [beq_iff_eq] at h
      subst h
      exact ⟨name, Value.asMap?_eq_some_iff.mpr hcontent⟩
  · rintro ⟨name, h⟩
    rw [Value.asMap?_eq_some_iff.mp h]
    rfl

/-- The task being written has a name and nothing else if the way ends at such a mapping. -/
theorem hasOnlyName_currentTask : (currentTask [] v).map hasOnlyName = .ok true ↔
    ¬ ComesBack v ∧ ∃ t name, ReflTransGen LeadsTo v t ∧ t.asMap? = some [(.str "name", name)] := by
  by_cases hback : ComesBack v
  · rw [currentTask_eq_error_iff.mpr ⟨rfl, hback⟩]
    exact iff_of_false (by rintro ⟨⟩) fun h => h.1 hback
  rw [and_iff_right hback]
  -- a way that does not come back has one end, and that is what the task is read from
  obtain ⟨t, hreach, hend⟩ := exists_end v
  rw [currentTask_of_end hback hreach hend, Except.map, Except.ok.injEq, hasOnlyName_content]
  constructor
  · rintro ⟨name, hname⟩
    exact ⟨t, name, hreach, hname⟩
  -- a mapping with a name alone leads nowhere, so it is that end
  · rintro ⟨t', name, hreach', hname⟩
    rw [eq_of_ends hreach hreach' hend (not_leadsTo_of_onlyName hname)]
    exact ⟨name, hname⟩

/-! ## Looking through the sections -/

/-- The last entry of the section with a key if it has entries and stands under the last key of a
    mapping. -/
def openedBy? (ps : Mapping) (s : Text) : Option Value :=
  match ((ps.find? s).bind Value.asList?).bind List.getLast?, ps.getLast? with
  | some x, some (.str key, _) => if key = s then some x else none
  | _, _ => none

/-- What the first of the given sections that opens at all leads to. -/
def openedFirst? (sections : List Text) (ps : Mapping) : Option Value :=
  sections.findSome? (openedBy? ps)

/-- No key occurs twice. -/
def KeysApart (ps : Mapping) : Prop :=
  ps.Pairwise fun p q => Value.sameKey p.1 q.1 = false

/-- What is found under the last key is what stands there. -/
theorem KeysApart.find?_concat {e : Value} (h : KeysApart (before ++ [(.str key, e)])) :
    Mapping.find? key (before ++ [(.str key, e)]) = some e := by
  induction before with
  | nil => simp [Mapping.find?, Mapping.get?, Value.sameKey_str]
  | cons p before ih =>
    obtain ⟨k, u⟩ := p
    rw [List.cons_append, KeysApart, List.pairwise_cons] at h
    have hother : Value.sameKey k (.str key) = false := h.1 (.str key, e) (by simp)
    rw [List.cons_append, Mapping.find?, Mapping.get?, hother]
    exact ih h.2

/-- Any section that opens at all is the one under the last key. -/
theorem leadsTo_of_openedBy? (hmap : v.asMap? = some ps) (hapart : KeysApart ps)
    (hkey : key ∈ sectionKeys) (h : openedBy? ps key = some x) : LeadsTo v x := by
  unfold openedBy? at h
  split at h
  case h_2 => cases h
  case h_1 y key' e hentry hlast =>
    split at h
    case isFalse => cases h
    case isTrue hsame =>
      cases h
      subst hsame
      -- the entry is the last of its mapping, and keys are apart, so the key finds its value
      obtain ⟨before, rfl⟩ := List.getLast?_eq_some_iff.mp hlast
      rw [hapart.find?_concat, Option.bind_some] at hentry
      obtain ⟨xs, hxs, hx⟩ := Option.bind_eq_some_iff.mp hentry
      obtain ⟨earlier, rfl⟩ := List.getLast?_eq_some_iff.mp hx
      exact .lastEntry before earlier hmap hkey hxs

/-- The section under the last key opens if it has entries. -/
theorem openedBy?_concat {e : Value} {earlier : List Value}
    (hapart : KeysApart (before ++ [(.str key, e)])) (hlist : e.asList? = some (earlier ++ [x])) :
    openedBy? (before ++ [(.str key, e)]) key = some x := by
  simp [openedBy?, hapart.find?_concat, hlist]

/-- In whatever order the sections are looked through, the step that is found is the step along the
    way. -/
theorem openedFirst?_eq_some_iff (hmap : v.asMap? = some ps) (hapart : KeysApart ps)
    {sections : List Text} (hsections : ∀ s, s ∈ sections ↔ s ∈ sectionKeys) :
    openedFirst? sections ps = some x ↔ LeadsTo v x := by
  have hopened {y : Value} (h : openedFirst? sections ps = some y) : LeadsTo v y := by
    obtain ⟨s, hs, hfound⟩ := List.exists_of_findSome?_eq_some h
    exact leadsTo_of_openedBy? hmap hapart ((hsections s).mp hs) hfound
  refine ⟨hopened, fun h => ?_⟩
  have hsome : (openedFirst? sections ps).isSome := by
    rw [openedFirst?, List.findSome?_isSome_iff]
    obtain ⟨before, earlier, hmap', hkey, hlist⟩ := h
    rename_i key
    obtain rfl := Option.some.inj (hmap.symm.trans hmap')
    exact ⟨key, (hsections key).mpr hkey, by rw [openedBy?_concat hapart hlist]; rfl⟩
  -- What some section opens is where the way leads, whichever it was.
  obtain ⟨y, hy⟩ := Option.isSome_iff_exists.mp hsome
  rw [hy, (hopened hy).eq_of_leadsTo h]

/-! ## Documents -/

/-- A document that is a list is judged by its entries. -/
theorem awaitsBodyIn_eq {document : Value} (hlist : document.asList? = some entries) :
    awaitsBodyIn document = awaitsBody entries := by
  have hcontent := Value.asList?_eq_some_iff.mp hlist
  rw [awaitsBodyIn, awaitsBody, ← Value.isTruthy_content, hcontent, Value.isTruthy]
  cases entries using List.reverseRecOn with
  | nil => rfl
  | append_singleton earlier last =>
    have hsome : (!(earlier ++ [last]).isEmpty) = true := by simp
    simp only [hsome, lastEntry, hcontent, List.getLast?_concat, bind, Except.bind]
    cases currentTask [] last <;> rfl

/-- Judging a document fails exactly if the way from its last entry goes round. -/
theorem awaitsBody_eq_error_iff : awaitsBody entries = .error e ↔
    e = .endless ∧ ∃ last, entries.getLast? = some last ∧ ComesBack last := by
  rw [awaitsBody]
  cases entries.getLast? with
  | none => simp
  | some last =>
    simp only [Option.some.injEq, exists_eq_left', ← currentTask_eq_error_iff]
    cases currentTask [] last <;> simp [Except.map]

/-- A document awaits a body exactly if the way from its last entry along the last keys does not go
    round and comes to a mapping with the only key `name`; if it goes round, there is no answer, which
    no finite document does. So documents whose ways come together await a body both or neither,
    whatever stands before their last entries, before the last keys on their ways and before the last
    entries under these. The step from a mapping is the one that is found by looking through all
    sections, in any order, for the first that has entries and stands under the last key. -/
theorem awaitsBody_iff_chain {document : Value} (hlist : document.asList? = some entries) :
    awaitsBodyIn document = awaitsBody entries ∧
      (document.isEndless = false → ∀ last, entries.getLast? = some last → ¬ ComesBack last) ∧
      (∀ e, awaitsBody entries = .error e ↔
        e = .endless ∧ ∃ last, entries.getLast? = some last ∧ ComesBack last) ∧
      (awaitsBody entries = .ok true ↔ ∃ last t name, entries.getLast? = some last ∧
        ¬ ComesBack last ∧ ReflTransGen LeadsTo last t ∧ t.asMap? = some [(.str "name", name)]) ∧
      (∀ others last other t, entries.getLast? = some last → others.getLast? = some other →
        ¬ ComesBack last → ¬ ComesBack other →
          ReflTransGen LeadsTo last t → ReflTransGen LeadsTo other t →
            awaitsBody others = awaitsBody entries) ∧
      ∀ v ps sections, v.asMap? = some ps → KeysApart ps →
        (∀ s, s ∈ sections ↔ s ∈ sectionKeys) →
          ∀ x, openedFirst? sections ps = some x ↔ LeadsTo v x := by
  -- The last entry decides, and everything is said of the value it leads to.
  refine ⟨awaitsBodyIn_eq hlist, fun hfinite last hlast => ?_, fun e => awaitsBody_eq_error_iff, ?_,
    fun others last other t hlast hother hnot hnot' hreach hreach' => ?_,
    fun v ps sections hmap hapart hsections x => openedFirst?_eq_some_iff hmap hapart hsections⟩
  · exact not_comesBack (Value.isEndless_of_asList? hfinite hlist last (List.mem_of_getLast? hlast))
  · rw [awaitsBody]
    cases entries.getLast? with
    | none => simp
    | some last => simp [hasOnlyName_currentTask]
  · rw [awaitsBody, awaitsBody, hlast, hother]
    dsimp only
    rw [currentTask_eq_of_reach hnot hnot' hreach hreach']

/-! ## Samples -/

namespace Sample

/-- A task with a name only. -/
def task : Value :=
  .map [(.str "name", .str "restart")]

/-- A play that ends in the `rescue` section of its last task, with the same value at every place
    beside the way there. -/
def play (beside : Value) : Value :=
  .map [(.str "hosts", beside), (.str "tasks", .list [task, beside]),
    (.str "post_tasks", .list [beside,
      .map [(.str "always", .list [beside]), (.str "rescue", .list [beside, task])]])]

theorem reach_task (beside : Value) : ReflTransGen LeadsTo (play beside) task := by
  have hplay := @LeadsTo.lastEntry (play beside) _ _ _
    [(.str "hosts", beside), (.str "tasks", .list [task, beside])] [beside] rfl (by decide) rfl
  exact .head hplay (.single (.lastEntry [(.str "always", .list [beside])] [beside] rfl (by decide)
    rfl))

end Sample

/-- A document awaits the body of the last task of its last section, and goes on to do so when
    something is put before its only entry and all that lies beside the way is replaced. -/
theorem awaitsBody_replaced :
    (Value.list [Sample.play .null]).asList? = some [Sample.play .null] ∧
      (Value.list [Sample.play .null]).isEndless = false ∧
        awaitsBodyIn (.list [Sample.play .null]) = .ok true ∧
          awaitsBody [.str "first", Sample.play (.list [Sample.task])] = .ok true := by
  have hlist : (Value.list [Sample.play .null]).asList? = some [Sample.play .null] := rfl
  have hfinite : (Value.list [Sample.play .null]).isEndless = false := by decide
  have hfinite' : (Sample.play (.list [Sample.task])).isEndless = false := by decide
  obtain ⟨hdocument, hnever, -, hiff, hsame, -⟩ := awaitsBody_iff_chain hlist
  have hawaits : awaitsBody [Sample.play .null] = .ok true :=
    hiff.mpr ⟨_, _, _, rfl, hnever hfinite _ rfl, Sample.reach_task .null, rfl⟩
  refine ⟨hlist, hfinite, by rw [hdocument, hawaits], ?_⟩
  rw [hsame _ _ _ _ rfl rfl (hnever hfinite _ rfl) (not_comesBack hfinite')
    (Sample.reach_task .null) (Sample.reach_task _), hawaits]

end PlaybookAssist.Prompt
