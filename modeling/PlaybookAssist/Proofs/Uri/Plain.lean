import PlaybookAssist.Proofs.Path.Rooted
import PlaybookAssist.Proofs.Path.Start
import PlaybookAssist.Proofs.Request.Payload
import PlaybookAssist.Proofs.Uri.Quoted

/-!
# Documents named by plain paths

A document may be named by its path as it is. The path is read as a URI all the same: what is read is
some of its characters, with the escapes among them resolved, and so it is the path again exactly if
nothing in it means anything in a URI. Then the document is taken for the one that the `file` URI of
the path names.

## Main definitions

- `Uri.HasEscape` : a percent sign and two hexadecimal digits occur
- `Uri.written` : the path of a URI, its escapes not resolved
- `Uri.NamesItself` : the plain paths in which nothing means anything in a URI

## Main statements

- `Uri.unquote_eq_self_iff` : resolving escapes changes nothing where there are none
- `Uri.written_sublist` : what is read of a URI
- `Uri.toPath_eq_self_iff` : the plain paths that are read as they are
- `Inquiry.plain_path_iff` : when a plain path stands for its file
-/

namespace PlaybookAssist

namespace Uri

variable {c : Char} {p q s t run uri : Text}

/-! ## Escapes -/

/-- A percent sign with two hexadecimal digits behind it occurs in the text. -/
def HasEscape (t : Text) : Prop :=
  ∃ a b, ['%', a, b] <:+: t ∧ (Text.hexValue? a).isSome ∧ (Text.hexValue? b).isSome

theorem not_hasEscape_nil : ¬ HasEscape [] := by
  rintro ⟨a, b, h, -⟩
  cases List.infix_nil.mp h

theorem HasEscape.of_infix (h : HasEscape s) (hst : s <:+: t) : HasEscape t := by
  obtain ⟨a, b, hescape, hdigits⟩ := h
  exact ⟨a, b, hescape.trans hst, hdigits⟩

theorem hasEscape_cons : HasEscape (c :: t) ↔
    (∃ a b rest, c = '%' ∧ t = a :: b :: rest ∧ (Text.hexValue? a).isSome ∧
      (Text.hexValue? b).isSome) ∨ HasEscape t := by
  constructor
  · rintro ⟨a, b, h, ha, hb⟩
    rcases List.infix_cons_iff.mp h with ⟨rest, hrest⟩ | h
    · cases hrest
      exact .inl ⟨a, b, rest, rfl, rfl, ha, hb⟩
    · exact .inr ⟨a, b, h, ha, hb⟩
  · rintro (⟨a, b, rest, rfl, rfl, ha, hb⟩ | ⟨a, b, h, ha, hb⟩)
    · exact ⟨a, b, ⟨[], rest, rfl⟩, ha, hb⟩
    · exact ⟨a, b, List.infix_cons_iff.mpr (.inr h), ha, hb⟩

theorem toNat_of_hexValue? (h : (Text.hexValue? c).isSome) : c.toNat < 0x80 := by
  unfold Text.hexValue? at h
  simp only [Char.le_def, UInt32.le_iff_toNat_le] at h
  -- The digits and both kinds of letters come in one block each.
  by_contra hc
  have hval : c.val.toNat = c.toNat := rfl
  have h9 : '9'.val.toNat = 0x39 := rfl
  have hf : 'f'.val.toNat = 0x66 := rfl
  have hF : 'F'.val.toNat = 0x46 := rfl
  rw [if_neg (by omega), if_neg (by omega), if_neg (by omega)] at h
  cases h

/-- An escape is ASCII, so it stands on one side of any other character. -/
theorem hasEscape_split (hc : 0x80 ≤ c.toNat) (h : HasEscape (s ++ c :: t)) :
    HasEscape s ∨ HasEscape t := by
  obtain ⟨a, b, h, ha, hb⟩ := h
  -- An escape consists of characters below 0x80, so this one is no part of it.
  have hmem : c ∉ ['%', a, b] := by
    have hpercent : ('%').toNat < 0x80 := by decide
    have ha' := toNat_of_hexValue? ha
    have hb' := toNat_of_hexValue? hb
    simp only [List.mem_cons, List.not_mem_nil, or_false, not_or]
    refine ⟨?_, ?_, ?_⟩
    all_goals
      rintro rfl
      omega
  have hwhole : ∀ {u : Text}, ['%', a, b] <:+: u → HasEscape u := fun hu => ⟨a, b, hu, ha, hb⟩
  -- So the escape lies on one side, or it would cross the character.
  rcases List.infix_append_iff.mp h with h | h | ⟨before, after, happend, hbefore, hafter⟩
  · exact .inl (hwhole h)
  · rcases List.infix_cons_iff.mp h with h | h
    · exact absurd ((List.cons_prefix_cons.mp h).1 ▸ List.mem_cons_self) hmem
    · exact .inr (hwhole h)
  · cases after with
    | nil =>
      rw [List.append_nil] at happend
      exact .inl (hwhole (happend ▸ hbefore.isInfix))
    | cons d after =>
      obtain rfl : d = c := (List.cons_prefix_cons.mp hafter).1
      exact absurd (happend ▸ List.mem_append_right _ List.mem_cons_self) hmem

/-! ## Resolving escapes -/

/-- Without escapes every character is an octet. -/
theorem unescape_of_not_hasEscape (h : ¬ HasEscape t) :
    unescape t = t.map fun c => UInt8.ofNat c.toNat := by
  fun_induction unescape t with
  | case1 a b rest x hx y hy =>
    have hdigits : (Text.hexValue? a).isSome ∧ (Text.hexValue? b).isSome := by simp_all
    exact absurd (hasEscape_cons.mpr (.inl ⟨a, b, rest, rfl, rfl, hdigits⟩)) h
  | case2 a b rest hnone ih =>
    rw [ih fun hrest => h (hasEscape_cons.mpr (.inr hrest))]
    rfl
  | case3 c rest hc ih =>
    rw [ih fun hrest => h (hasEscape_cons.mpr (.inr hrest))]
    rfl
  | case4 => rfl

theorem length_unescape_le (t : Text) : (unescape t).length ≤ t.length := by
  fun_induction unescape t <;> simp_all
  omega

/-- An escape is one octet in place of three characters. -/
theorem length_unescape_lt (h : HasEscape t) : (unescape t).length < t.length := by
  -- By the recursion of the reading itself: an escape is taken, a lone percent sign, or a
  -- character.
  fun_induction unescape t with
  | case1 a b rest x hx y hy =>
    have hrest := length_unescape_le rest
    simp only [List.length_cons]
    omega
  | case2 a b rest hnone ih =>
    -- The percent sign is no escape here, so that the escape comes later.
    rcases hasEscape_cons.mp h with ⟨a', b', rest', -, heq, ha, hb⟩ | h
    · cases heq
      obtain ⟨x, hx⟩ := Option.isSome_iff_exists.mp ha
      obtain ⟨y, hy⟩ := Option.isSome_iff_exists.mp hb
      exact absurd hy (hnone x y hx)
    · exact Nat.succ_lt_succ (ih h)
  | case3 c rest hc ih =>
    rcases hasEscape_cons.mp h with ⟨a', b', rest', rfl, rfl, -, -⟩ | h
    · exact absurd rfl (hc a' b' rest' rfl)
    · exact Nat.succ_lt_succ (ih h)
  | case4 => exact absurd h not_hasEscape_nil

/-- In a run of ASCII characters without escapes there is nothing to resolve. -/
theorem decodeReplacing_unescape (hascii : ∀ c ∈ t, c.toNat < 0x80) (h : ¬ HasEscape t) :
    Utf8.decodeReplacing (unescape t) = t := by
  rw [unescape_of_not_hasEscape h, ← Utf8.encode_of_ascii hascii, Utf8.decodeReplacing_encode]

theorem length_decodeReplacing_unescape_le (t : Text) :
    (Utf8.decodeReplacing (unescape t)).length ≤ t.length :=
  (Utf8.length_decodeReplacing_le _).trans (length_unescape_le t)

theorem unquoteFrom_of_not_hasEscape (hrun : ∀ c ∈ run, c.toNat < 0x80)
    (h : ¬ HasEscape (run.reverse ++ t)) : unquoteFrom run t = run.reverse ++ t := by
  have hreverse : ∀ run : Text, (∀ c ∈ run, c.toNat < 0x80) → ∀ c ∈ run.reverse, c.toNat < 0x80 :=
    fun run hrun c hc => hrun c (List.mem_reverse.mp hc)
  -- Induction over what is left, with the run of plain characters in front of it.
  induction t generalizing run with
  | nil =>
    rw [List.append_nil] at h ⊢
    exact decodeReplacing_unescape (hreverse run hrun) h
  | cons c t ih =>
    rw [unquoteFrom]
    split
    case isTrue hc =>
      have happend : (c :: run).reverse ++ t = run.reverse ++ c :: t := by simp
      rw [ih (List.forall_mem_cons.mpr ⟨hc, hrun⟩) (happend ▸ h), happend]
    case isFalse =>
      -- The run ends here; neither side holds an escape.
      have hbefore : ¬ HasEscape run.reverse := fun hs => h (hs.of_infix ⟨[], c :: t, rfl⟩)
      have hafter : ¬ HasEscape t := fun ht => h (ht.of_infix ⟨run.reverse ++ [c], [], by simp⟩)
      rw [decodeReplacing_unescape (hreverse run hrun) hbefore, ih (List.forall_mem_nil _) hafter]
      rfl

theorem length_unquoteFrom_le (run t : Text) :
    (unquoteFrom run t).length ≤ run.length + t.length := by
  induction t generalizing run with
  | nil =>
    rw [unquoteFrom]
    simpa using length_decodeReplacing_unescape_le run.reverse
  | cons c t ih =>
    rw [unquoteFrom, List.length_cons]
    split
    -- the run grows by the character, the text loses it
    case isTrue =>
      have hrest := ih (c :: run)
      rw [List.length_cons] at hrest
      omega
    case isFalse =>
      have hrest := ih []
      have hbefore := length_decodeReplacing_unescape_le run.reverse
      rw [List.length_nil] at hrest
      rw [List.length_reverse] at hbefore
      rw [List.length_append, List.length_cons]
      omega

theorem length_unquoteFrom_lt (h : HasEscape (run.reverse ++ t)) :
    (unquoteFrom run t).length < run.length + t.length := by
  -- Three characters of an escape become one octet, and octets never become more characters.
  have hshorter : ∀ run : Text, HasEscape run.reverse →
      (Utf8.decodeReplacing (unescape run.reverse)).length < run.length := by
    intro run hrun
    have hoctets := length_unescape_lt hrun
    rw [List.length_reverse] at hoctets
    exact (Utf8.length_decodeReplacing_le _).trans_lt hoctets
  induction t generalizing run with
  | nil =>
    rw [List.append_nil] at h
    exact hshorter run h
  | cons c t ih =>
    rw [unquoteFrom, List.length_cons]
    split
    -- The run grows; an escape in it is still to come.
    case isTrue =>
      have hrest : (unquoteFrom (c :: run) t).length < (c :: run).length + t.length :=
        ih (by simpa using h)
      rw [List.length_cons] at hrest
      omega
    case isFalse hc =>
      have hbefore := length_decodeReplacing_unescape_le run.reverse
      have hafter := length_unquoteFrom_le [] t
      rw [List.length_nil] at hafter
      rw [List.length_reverse] at hbefore
      rw [List.length_append, List.length_cons]
      -- One of the two sides has become shorter.
      rcases hasEscape_split (by omega) h with h | h
      · have hlt := hshorter run h
        omega
      · have hlt : (unquoteFrom [] t).length < 0 + t.length := ih h
        omega

theorem length_unquote_le (t : Text) : (unquote t).length ≤ t.length := by
  rw [unquote]
  simpa using length_unquoteFrom_le [] t

/-- Resolving escapes leaves a text as it is exactly if there are none. -/
theorem unquote_eq_self_iff : unquote t = t ↔ ¬ HasEscape t := by
  constructor
  · intro heq h
    have hlt : (unquoteFrom [] t).length < 0 + t.length := length_unquoteFrom_lt h
    rw [← unquote, heq] at hlt
    omega
  · exact fun h => unquoteFrom_of_not_hasEscape (List.forall_mem_nil _) h

/-! ## What is read -/

/-- The path of a URI as it is written, its escapes not resolved. -/
def written (uri : Text) : Text :=
  let (scheme, rest) := splitScheme (cleaned uri)
  let path := (Text.cut '?' (Text.cut '#' (splitHost rest).2).1).1
  if schemesWithParameters.elem scheme then dropParameters path else path

theorem toPath_of_host (h : checkHost (splitHost (splitScheme (cleaned uri)).2).1 = none) :
    toPath uri = .ok (unquote (written uri)) := by
  simp only [toPath, h]
  rfl

theorem eq_of_toPath (h : toPath uri = .ok p) : p = unquote (written uri) := by
  cases hhost : checkHost (splitHost (splitScheme (cleaned uri)).2).1 with
  | some fault =>
    simp only [toPath, hhost] at h
    cases h
  | none =>
    rw [toPath_of_host hhost] at h
    exact (Except.ok.inj h).symm

theorem dropParameters_eq (p : Text) :
    dropParameters p = (Path.splitLast p).1 ++ (Text.cut ';' (Path.name p)).1 :=
  rfl

theorem isPrefix_dropParameters (p : Text) : dropParameters p <+: p := by
  have hsplit := (Path.splitLast_spec p).1
  conv_rhs => rw [← hsplit]
  exact (List.prefix_append_right_inj _).mpr (Text.isPrefix_cut _ _)

theorem dropParameters_eq_self_iff : dropParameters p = p ↔ ';' ∉ Path.name p := by
  have hsplit := (Path.splitLast_spec p).1
  conv_lhs => rhs; rw [← hsplit]
  rw [dropParameters_eq, List.append_cancel_left_eq]
  exact Text.cut_eq_self_iff

theorem splitScheme_suffix (uri : Text) : (splitScheme uri).2 <:+ uri := by
  unfold splitScheme
  split
  case h_1 scheme rest hcut =>
    split
    · have happend : uri = (Text.cut ':' uri).1 ++ ':' :: rest := Text.eq_of_cut (by rw [hcut])
      exact ⟨(Text.cut ':' uri).1 ++ [':'], by simpa using happend.symm⟩
    · exact List.suffix_refl _
  case h_2 => exact List.suffix_refl _

theorem splitHost_suffix (t : Text) : (splitHost t).2 <:+ t := by
  unfold splitHost
  split
  · exact (List.dropWhile_suffix _).trans ⟨['/', '/'], rfl⟩
  · exact List.suffix_refl _

theorem cleaned_sublist (uri : Text) : (cleaned uri).Sublist uri :=
  List.filter_sublist.trans (List.dropWhile_suffix _).sublist

/-- What is read of a URI are some of its characters, in order. -/
theorem written_sublist (uri : Text) : (written uri).Sublist (cleaned uri) := by
  have hcut : ((Text.cut '?' (Text.cut '#' (splitHost (splitScheme (cleaned uri)).2).2).1).1).Sublist
      (cleaned uri) :=
    (Text.isPrefix_cut _ _).sublist.trans <| (Text.isPrefix_cut _ _).sublist.trans <|
      (splitHost_suffix _).sublist.trans (splitScheme_suffix _).sublist
  unfold written
  dsimp only
  split
  · exact (isPrefix_dropParameters _).sublist.trans hcut
  · exact hcut

/-! ## Plain paths -/

/-- A plain path in which nothing means anything in a URI: no character is cleaned away, nothing ends
    the path before its end, and nothing stands for another character. -/
structure NamesItself (p : Text) : Prop where
  clean : ∀ c ∈ p, c ≠ '\t' ∧ c ≠ '\r' ∧ c ≠ '\n'
  no_fragment : '#' ∉ p
  no_query : '?' ∉ p
  no_parameters : ';' ∉ Path.name p
  no_escape : ¬ HasEscape p

/-- A path with a single slash at its front. -/
theorem exists_of_front (h : Path.front p = ['/']) : ∃ q, p = '/' :: q ∧ q.head? ≠ some '/' := by
  cases p with
  | nil => cases h
  | cons c q =>
    by_cases hc : c = '/'
    · subst hc
      rw [Path.front_cons_slash] at h
      refine ⟨q, rfl, fun hhead => ?_⟩
      obtain ⟨q', rfl⟩ := List.head?_eq_some_iff.mp hhead
      rw [Path.front_cons_slash] at h
      cases h
    · rw [Path.front_of_head (by simpa using hc)] at h
      cases h

theorem cleaned_eq_self_iff (h : Path.front p = ['/']) :
    cleaned p = p ↔ ∀ c ∈ p, c ≠ '\t' ∧ c ≠ '\r' ∧ c ≠ '\n' := by
  obtain ⟨q, rfl, -⟩ := exists_of_front h
  have hfront : ('/' :: q).dropWhile (fun c => c.toNat ≤ 0x20) = '/' :: q := rfl
  rw [cleaned, hfront, List.filter_eq_self]
  simp only [Bool.and_eq_true, decide_eq_true_eq, and_assoc]

/-- A path from the root begins with no scheme. -/
theorem splitScheme_of_front (h : Path.front p = ['/']) : splitScheme p = ([], p) := by
  obtain ⟨q, rfl, -⟩ := exists_of_front h
  have hcut : Text.cut ':' ('/' :: q) = ('/' :: (Text.cut ':' q).1, (Text.cut ':' q).2) := rfl
  rw [splitScheme, hcut]
  cases (Text.cut ':' q).2 <;> rfl

/-- Behind a single slash comes no host. -/
theorem splitHost_of_front (h : Path.front p = ['/']) : splitHost p = ([], p) := by
  obtain ⟨q, rfl, hq⟩ := exists_of_front h
  cases q with
  | nil => rfl
  | cons c q =>
    rw [splitHost]
    rintro rest hslash
    cases hslash
    exact hq rfl

theorem written_of_front (h : Path.front p = ['/']) (hclean : cleaned p = p) :
    written p = dropParameters (Text.cut '?' (Text.cut '#' p).1).1 := by
  have hparameters : schemesWithParameters.elem [] = true := by decide
  unfold written
  rw [hclean, splitScheme_of_front h]
  dsimp only
  rw [splitHost_of_front h, if_pos hparameters]

/-- All of a plain path is read exactly if nothing in it is cleaned away or ends the path. -/
theorem written_eq_self_iff (h : Path.front p = ['/']) :
    written p = p ↔ (∀ c ∈ p, c ≠ '\t' ∧ c ≠ '\r' ∧ c ≠ '\n') ∧ '#' ∉ p ∧ '?' ∉ p ∧
      ';' ∉ Path.name p := by
  constructor
  · intro heq
    -- What is read is a part of the path, so that equal lengths mean the same path.
    have hall := written_sublist p
    rw [heq] at hall
    have hclean : cleaned p = p := (cleaned_sublist p).antisymm hall
    -- Each part is read from the one before, so all of them are the path.
    rw [written_of_front h hclean] at heq
    have hfragment := Text.isPrefix_cut '#' p
    have hquery := Text.isPrefix_cut '?' (Text.cut '#' p).1
    have hparameters := isPrefix_dropParameters (Text.cut '?' (Text.cut '#' p).1).1
    have hlength := congrArg List.length heq
    have hfragment' : (Text.cut '#' p).1 = p := by
      apply hfragment.eq_of_length_le
      exact hlength ▸ (hparameters.trans hquery).length_le
    rw [hfragment'] at heq hquery hparameters hlength
    have hquery' : (Text.cut '?' p).1 = p := by
      apply hquery.eq_of_length_le
      exact hlength ▸ hparameters.length_le
    rw [hquery'] at heq
    exact ⟨(cleaned_eq_self_iff h).mp hclean, Text.cut_eq_self_iff.mp hfragment',
      Text.cut_eq_self_iff.mp hquery', dropParameters_eq_self_iff.mp heq⟩
  -- Nothing is cut off, so that every step gives the path back.
  · rintro ⟨hclean, hfragment, hquery, hparameters⟩
    rw [written_of_front h ((cleaned_eq_self_iff h).mpr hclean), Text.cut_eq_self_iff.mpr hfragment,
      Text.cut_eq_self_iff.mpr hquery, dropParameters_eq_self_iff.mpr hparameters]

/-- The plain paths that are read as they are. -/
theorem toPath_eq_self_iff (h : Path.front p = ['/']) : toPath p = .ok p ↔ NamesItself p := by
  constructor
  · intro hpath
    have heq := eq_of_toPath hpath
    have hsublist := (written_sublist p).trans (cleaned_sublist p)
    -- Nothing that is read gets longer, so nothing can have been lost.
    have hwritten : written p = p := by
      apply hsublist.eq_of_length_le
      have hlength := length_unquote_le (written p)
      rwa [← heq] at hlength
    rw [hwritten] at heq
    obtain ⟨hclean, hfragment, hquery, hparameters⟩ := (written_eq_self_iff h).mp hwritten
    exact ⟨hclean, hfragment, hquery, hparameters, unquote_eq_self_iff.mp heq.symm⟩
  -- A path that names itself has no host that could be refused.
  · rintro ⟨hclean, hfragment, hquery, hparameters, hescape⟩
    have hnoFault : checkHost [] = none := rfl
    have hhost : checkHost (splitHost (splitScheme (cleaned p)).2).1 = none := by
      rw [(cleaned_eq_self_iff h).mpr hclean, splitScheme_of_front h]
      dsimp only
      rw [splitHost_of_front h, hnoFault]
    rw [toPath_of_host hhost,
      (written_eq_self_iff h).mpr ⟨hclean, hfragment, hquery, hparameters⟩,
      unquote_eq_self_iff.mpr hescape]

end Uri

namespace Inquiry

section

variable [Place] {p : Text}

/-- A document on a plain path: the path is read as it is exactly if nothing in it means anything in a
    URI. Then the same is found out for the document as under the `file` URI of the path, whatever is
    asked and whatever files, folders and roles are known. -/
theorem plain_path_iff (h : Path.front p = ['/']) :
    (Uri.toPath p = .ok p ↔ Uri.NamesItself p) ∧
      (Uri.NamesItself p → ∀ (q : Inquiry) (fs : FileTree) (workspace : Workspace)
        (modelId : Option Text) (cache : RoleCache),
        { q with uri := p }.findings fs workspace modelId cache =
          { q with uri := Uri.ofPath p }.findings fs workspace modelId cache) := by
  refine ⟨Uri.toPath_eq_self_iff h, fun hself q fs workspace modelId cache => ?_⟩
  obtain ⟨rest, rfl, -⟩ := Uri.exists_of_front h
  have hplain := (Uri.toPath_eq_self_iff h).mpr hself
  have hfile := Uri.toPath_ofPath (p := '/' :: rest) rfl
  rw [findings, findings, hplain, hfile]

end

attribute [local instance] Path.atRoot in
/-- A percent sign, a semicolon, a blank and a letter that is not ASCII may stand in a plain path. -/
theorem plain_path_sample :
    Path.front "/w;1/50% é/main.yml" = ['/'] ∧ Uri.NamesItself "/w;1/50% é/main.yml" ∧
      Uri.toPath "/w;1/50% é/main.yml" = .ok "/w;1/50% é/main.yml".toList ∧
      ∀ (q : Inquiry) (fs : FileTree) (cache : RoleCache),
        { q with uri := "/w;1/50% é/main.yml" }.findings fs ⟨[]⟩ none cache =
          { q with uri := Uri.ofPath "/w;1/50% é/main.yml" }.findings fs ⟨[]⟩ none cache := by
  have hself : Uri.NamesItself "/w;1/50% é/main.yml" :=
    ⟨by simp, by decide, by decide, by decide, Uri.unquote_eq_self_iff.mp (by decide)⟩
  obtain ⟨hpath, hfindings⟩ := plain_path_iff (p := "/w;1/50% é/main.yml") (by decide)
  exact ⟨by decide, hself, hpath.mpr hself, fun q fs cache => hfindings hself q fs ⟨[]⟩ none cache⟩

/-- What follows a number sign is lost, and with it the kind of the file. -/
theorem plain_path_cut_short :
    Path.front "/w/tasks/c#.yml" = ['/'] ∧
      Uri.toPath "/w/tasks/c#.yml" = .ok "/w/tasks/c".toList ∧
      FileType.ofPath "/w/tasks/c#.yml" = .tasks ∧ FileType.ofPath "/w/tasks/c" = .other := by
  decide

end Inquiry

end PlaybookAssist
