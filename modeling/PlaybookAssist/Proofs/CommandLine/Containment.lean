import PlaybookAssist.Proofs.CommandLine.Verdict
import PlaybookAssist.Proofs.Context.Assembly
import PlaybookAssist.Proofs.Prompt.Load
import PlaybookAssist.Proofs.Settings.Normal

/-!
# What the program contains, and what escapes it

With arguments that can be followed the program prints a report, or it says why there is none and ends
with status 1, unless something escapes it. What escapes is known for each of the steps in which it
works: the settings, the text of the file, the place, the prompt, the workspace and the context. In
particular settings are read from a file or refused, unless the file is one that loading fails on.

## Main definitions

- `Program.ContextFits` : there is a context, and it can be written down
- `Program.Escapes` : something escapes the program

## Main statements

- `Settings.ofFile_cases` : when settings are read from a file or refused
- `Program.contained_iff` : the program contains everything but what `Program.Escapes` tells
-/

namespace PlaybookAssist

/-! ## Wordings -/

/-- Words that begin with some text are something. -/
theorem Text.append_ne_nil {s : String} (h : s ≠ "") (t : Text) : s.toList ++ t ≠ [] := by
  intro heq
  exact h (String.toList_eq_nil_iff.mp (List.append_eq_nil_iff.mp heq).1)

theorem ConfigurationFault.message_ne_nil (fault : ConfigurationFault) : fault.message ≠ [] := by
  cases fault with
  | invalid => exact Text.append_ne_nil (by simp) _
  | unreadable | malformed | notAMapping =>
    unfold message
    simp only [List.append_assoc]
    exact Text.append_ne_nil (by simp) _

theorem PromptFault.message_ne_nil (fault : PromptFault) : fault.message ≠ [] := by
  cases fault with
  | malformed | mapping => exact Text.append_ne_nil (by simp) _

theorem TriggerCheck.ne_nil_of_hint {c : TriggerCheck} {hint : Text} (h : c.hint = some hint) :
    hint ≠ [] := by
  rw [TriggerCheck.hint] at h
  split at h
  · cases h
  split at h
  · obtain rfl := Option.some.inj h
    exact Text.append_ne_nil (by simp) _
  · obtain rfl := Option.some.inj h
    rw [List.append_assoc]
    exact Text.append_ne_nil (by simp) _

/-! ## Settings -/

namespace Settings

/-- In null and in a mapping there is a section. -/
theorem exists_sectionOf {v : Value} (h : v.content = .null ∨ ∃ m, v.content = .map m) :
    ∃ entry, sectionOf v = .ok entry := by
  rw [sectionOf]
  cases htruthy : v.isTruthy with
  | false => exact ⟨_, rfl⟩
  | true =>
    obtain hnull | ⟨m, hmap⟩ := h
    · rw [← Value.isTruthy_content, hnull] at htruthy
      cases htruthy
    · rw [hmap]
      exact ⟨_, rfl⟩

variable [Place]

/-- From a file settings are read, or they are refused, unless loading fails on the file. -/
theorem ofFile_cases (fs : FileTree) (path : Text) :
    (((∃ s, ofFile fs path = .ok s) ∨ ∃ fault, ofFile fs path = .error (.configuration fault)) ∧
        ¬ fs.Fails path) ∨
      ((∃ f, ofFile fs path = .error f ∧ ∀ fault, f ≠ .configuration fault) ∧ fs.Fails path) := by
  rw [FileTree.fails_iff_load, ofFile]
  -- The file cannot be loaded, or it can and is judged; a judgement is always contained.
  cases hload : fs.load path with
  | error e =>
    -- Only a failure counts as one; what YAML refuses becomes a fault of the configuration.
    cases e with
    | failure f =>
      refine .inr ⟨⟨f, rfl, ?_⟩, f, rfl⟩
      rintro fault rfl
      exact fs.load_ne_configuration path fault hload
    | _ =>
      refine .inl ⟨.inr ⟨_, rfl⟩, ?_⟩
      rintro ⟨f, h⟩
      cases h
  | ok v =>
    refine .inl ⟨?_, by rintro ⟨f, h⟩; cases h⟩
    -- Null and a mapping are looked at; everything else is refused as no configuration.
    dsimp only
    have hread (h : v.content = .null ∨ ∃ m, v.content = .map m) :
        (∃ s, ofDocument v = .ok s) ∨ ∃ fault, ofDocument v = .error (.configuration fault) := by
      obtain ⟨entry, hentry⟩ := exists_sectionOf h
      rw [ofDocument, hentry]
      dsimp only [bind, Except.bind]
      cases ofSection entry with
      | ok s => exact .inl ⟨s, rfl⟩
      | error is => exact .inr ⟨_, rfl⟩
    cases hcontent : v.content with
    | null => exact hread (.inl hcontent)
    | map m => exact hread (.inr ⟨m, hcontent⟩)
    | _ => exact .inr ⟨_, rfl⟩

theorem ofFile_contained_iff {fs : FileTree} {path : Text} :
    ((∃ s, ofFile fs path = .ok s) ∨ ∃ fault, ofFile fs path = .error (.configuration fault)) ↔
      ¬ fs.Fails path := by
  rcases ofFile_cases fs path with ⟨hcontained, hfine⟩ | ⟨⟨f, hf, hother⟩, hfails⟩
  · exact iff_of_true hcontained hfine
  · refine iff_of_false ?_ (not_not_intro hfails)
    rintro (⟨s, hs⟩ | ⟨fault, hfault⟩)
    · rw [hf] at hs
      cases hs
    · exact hother fault (Except.error.inj (hf.symm.trans hfault))

end Settings

/-- For an entitled user the context of the document is found out. -/
theorem Inquiry.findings_of_entitled [Place] {q : Inquiry} {fs : FileTree} {workspace : Workspace}
    {modelId : Option Text} {cache : RoleCache} {path : Text} (hpath : Uri.toPath q.uri = .ok path)
    (hdocument : q.document ≠ .null) (hentitled : q.entitled = true) :
    (q.findings fs workspace modelId cache).2 =
      (AdditionalContext.assemble fs workspace q.document (Path.parent path) path
        (FileType.ofDocument path q.document) cache).2.map fun context =>
          ⟨FileType.ofDocument path q.document, modelId, some context⟩ := by
  simp only [findings, hpath, Except.mapError, FileType.detect_of_ne_null hdocument, hentitled,
    if_true, Prod.map_snd]

namespace Program

section

variable [Place] {fs : FileTree} {ids : IdSource} {argv : List Text} {arguments : Arguments}
  {settings : Settings} {text prompt w : Text} {p : Position} {entries : List Value} {d : Document}

/-! ## What an inspection comes to -/

/-- There is a context of the entries for a workspace, and it has a plain form without integers that
    are too long to be written. -/
def ContextFits (fs : FileTree) (w path : Text) (entries : List Value) : Prop :=
  let root := (Workspace.ofFolders [w]).rootFor path
  let type := FileType.ofDocument path (.list entries)
  AdditionalContext.Harmless fs root Role.standardDirectories (.list entries) (Path.parent path)
      path type ∧
    ∃ m, plainContext (AdditionalContext.present fs root Role.standardDirectories (.list entries)
        (Path.parent path) path type).toTable = .ok m ∧
      Value.hasLongInteger (.map m) = false

/-- Something escapes the program: there is neither a report nor a reason why not. -/
inductive Escapes (fs : FileTree) (arguments : Arguments) : Prop where
  /-- Loading fails on the settings that are named. -/
  | settings (path : Text) (hconfig : arguments.config = some path) (hnamed : path ≠ [])
      (hfails : fs.Fails path) : Escapes fs arguments
  /-- The file can be opened and is no text, or its path can be no path. -/
  | text (settings : Settings) (f : Failure)
      (hsettings : settingsOf fs arguments.config = .ok settings)
      (hread : fs.readText (resolve arguments.file) = .error (.failure f)) : Escapes fs arguments
  /-- The line or the column is nothing. -/
  | number (settings : Settings) (text : Text)
      (hsettings : settingsOf fs arguments.config = .ok settings)
      (hread : fs.readText (resolve arguments.file) = .ok text)
      (hnone : arguments.line = none ∨ arguments.column = none) : Escapes fs arguments
  /-- The prompt fails: it is not malformed and cannot be loaded, or the way along its last keys goes
      round, and the program never ends. -/
  | prompt (settings : Settings) (text : Text) (p : Position) (above : Text) (f : Failure)
      (hreads : Reads fs arguments settings text p)
      (hplaced : ((documentOf arguments text).checkTrigger p).isOk = true)
      (habove : (documentOf arguments text).prompt p = .ok above)
      (hfails : Prompt.FailsWith above f) : Escapes fs arguments
  /-- A suggestion is wanted, and the workspace is nothing. -/
  | workspace (settings : Settings) (text : Text) (p : Position) (prompt : Text)
      (entries : List Value) (hreads : Reads fs arguments settings text p)
      (hawaits : (documentOf arguments text).Awaits p prompt entries)
      (hnone : arguments.workspace = none) : Escapes fs arguments
  /-- A suggestion is wanted for a user who is entitled, and there is no context that can be written
      down. -/
  | context (settings : Settings) (text : Text) (p : Position) (prompt : Text)
      (entries : List Value) (w : Text) (hreads : Reads fs arguments settings text p)
      (hawaits : (documentOf arguments text).Awaits p prompt entries)
      (hworkspace : arguments.workspace = some w) (hentitled : arguments.entitled = true)
      (hunfit : ¬ ContextFits fs w (resolve arguments.file) entries) : Escapes fs arguments

/-- There is a report, or some words why not. -/
def Tells (result : Except Failure Finding) : Prop :=
  (∃ v, result = .ok (.report v)) ∨ ∃ reason, reason ≠ [] ∧ result = .ok (.nothing reason)

/-! ## Step by step -/

/-- Settings that are not named are the usual ones. -/
theorem settingsOf_cases (fs : FileTree) (config : Option Text) :
    (((∃ s, settingsOf fs config = .ok s) ∨
        ∃ fault, settingsOf fs config = .error (.configuration fault)) ∧
      ∀ path, config = some path → path ≠ [] → ¬ fs.Fails path) ∨
    ((∃ f, settingsOf fs config = .error f ∧ ∀ fault, f ≠ .configuration fault) ∧
      ∃ path, config = some path ∧ path ≠ [] ∧ fs.Fails path) := by
  -- Without a path, or with an empty one, no file is read.
  cases config with
  | none => exact .inl ⟨.inl ⟨_, rfl⟩, nofun⟩
  | some path =>
    by_cases hnamed : path = []
    · subst hnamed
      refine .inl ⟨.inl ⟨_, rfl⟩, fun path hpath hne => ?_⟩
      cases hpath
      exact absurd rfl hne
    · have hfile : settingsOf fs (some path) = Settings.ofFile fs path := by
        rw [settingsOf, if_neg (by simpa using hnamed)]
      rw [hfile]
      rcases Settings.ofFile_cases fs path with ⟨hcontained, hfine⟩ | ⟨hother, hfails⟩
      · refine .inl ⟨hcontained, fun path' hpath _ => ?_⟩
        cases hpath
        exact hfine
      · exact .inr ⟨hother, path, rfl, hnamed, hfails⟩

omit [Place] in
/-- Looking for a prompt fails where the prompt does. -/
theorem promptAt_failed_iff {f : Failure} : promptAt d p = .error f ↔
    (d.checkTrigger p).isOk = true ∧ ∃ above, d.prompt p = .ok above ∧
      Prompt.FailsWith above f := by
  -- With a hint the prompt is not looked at.
  cases hhint : (d.checkTrigger p).hint with
  | some hint =>
    rw [promptAt_of_hint hhint]
    refine iff_of_false (by simp) fun h => ?_
    rw [(hint_eq_none_iff _).mpr h.1] at hhint
    cases hhint
  | none =>
    -- The place is right: the prompt is loaded and its entries are judged.
    have hplaced := (hint_eq_none_iff _).mp hhint
    obtain ⟨above, habove⟩ := Document.exists_prompt hplaced
    simp only [promptAt_of_placed hhint habove, and_iff_right hplaced, habove, Except.ok.injEq,
      exists_eq_left', Prompt.failsWith_iff]
    cases Prompt.parse above with
    | error e =>
      simp only [reduceCtorEq, false_and, exists_false, or_false]
      -- A refusal is something to tell; every other failure is that of the prompt.
      cases e with
      | prompt refusal =>
        refine iff_of_false (by rintro ⟨⟩) fun h => ?_
        exact h.2 refusal (Except.error.inj h.1).symm
      | _ =>
        constructor
        · intro h
          obtain rfl := Except.error.inj h
          exact ⟨rfl, fun refusal hrefusal => by cases hrefusal⟩
        · rintro ⟨h, -⟩
          exact congrArg Except.error (Except.error.inj h)
    -- Loaded, it fails exactly where the walk along the keys does not end.
    | ok entries =>
      simp only [reduceCtorEq, false_and, false_or, Except.ok.injEq]
      cases entries with
      | none => exact iff_of_false (by rintro ⟨⟩) (by rintro ⟨entries, ⟨⟩, -⟩)
      | some entries =>
        simp only [Option.some.injEq, exists_eq_left', Option.getD_some]
        -- The walk along the keys is the only thing that can still fail.
        cases Prompt.awaitsBody entries with
        | error e => rw [Except.map, Except.error.injEq, Except.error.injEq]
        | ok awaits => exact iff_of_false (by rintro ⟨⟩) (by rintro ⟨⟩)

omit [Place] in
/-- Where the program does not go on it says something. -/
theorem ne_nil_of_promptAt {reason : Text} (h : promptAt d p = .ok (.error reason)) :
    reason ≠ [] := by
  -- The reasons are the hints, the refusals of a prompt and the message that nothing awaits a body.
  cases hhint : (d.checkTrigger p).hint with
  | some hint =>
    rw [promptAt_of_hint hhint] at h
    cases h
    exact TriggerCheck.ne_nil_of_hint hhint
  | none =>
    obtain ⟨above, habove⟩ := Document.exists_prompt ((hint_eq_none_iff _).mp hhint)
    rw [promptAt_of_placed hhint habove] at h
    split at h
    · obtain rfl := Except.error.inj (Except.ok.inj h)
      exact PromptFault.message_ne_nil _
    · cases h
    · obtain ⟨awaits, -, hreason⟩ := map_eq_ok.mp h
      split at hreason
      · cases hreason
      · obtain rfl := Except.error.inj hreason
        simp

/-- Where a suggestion is wanted a report is asked for. -/
theorem inspect_of_awaits (h : Reads fs arguments settings text p)
    (hawaits : (documentOf arguments text).Awaits p prompt entries) (ids : IdSource) :
    inspect fs ids arguments =
      report fs ids settings arguments (resolve arguments.file) text prompt entries >>= fun v =>
        .ok (.report v) := by
  rw [inspect_of_reads h, promptAt_eq_ok_iff.mpr hawaits]
  rfl

theorem isAbsolute_resolve (path : Text) : Path.isAbsolute (resolve path) = true := by
  obtain ⟨ns, hns⟩ := exists_resolve path
  rw [hns]
  exact Path.isAbsolute_rooted ns

omit [Place] in
/-- A request is shown if its context has a plain form without integers that are too long. -/
theorem shows_iff (q : Inquiry) (freshId : Text) (found : Inquiry.Findings) (type : FileType) :
    (∃ v, ((q.requestOf freshId found).toPayload >>= fun payload =>
        if Value.hasLongInteger (.map payload) then
          (.error (.badValue (Integer.limitText none)) : Except Failure Value)
        else .ok (shown type payload)) = .ok v) ↔
      ∃ context, found.plainContext = .ok context ∧
        (context.any fun m => Value.hasLongInteger (.map m)) = false := by
  rw [Inquiry.toPayload_requestOf]
  -- Of the payload only the context may hold integers that are too long.
  cases found.plainContext with
  | error f => exact iff_of_false nofun nofun
  | ok context =>
    simp only [Except.map, bind, Except.bind, Inquiry.hasLongInteger_payloadWith, Except.ok.injEq,
      exists_eq_left']
    cases context.any fun m => Value.hasLongInteger (.map m) with
    | true => exact iff_of_false nofun nofun
    | false => exact iff_of_true ⟨_, rfl⟩ rfl

/-- What is found out can be shown, unless the context does not fit. -/
theorem findings_fit_iff {q : Inquiry} {path : Text} (modelId : Option Text)
    (hpath : Uri.toPath q.uri = .ok path) (hdocument : q.document = .list entries) :
    (∃ found, (q.findings fs (.ofFolders [w]) modelId (.empty Role.standardDirectories)).2 =
        .ok found ∧
      ∃ context, found.plainContext = .ok context ∧
        (context.any fun m => Value.hasLongInteger (.map m)) = false) ↔
      (q.entitled = true → ContextFits fs w path entries) := by
  have hsome : q.document ≠ .null := by
    rw [hdocument]
    exact nofun
  cases hentitled : q.entitled with
  | false =>
    -- Without entitlement there is no context that could not fit.
    refine iff_of_true ?_ nofun
    rw [Inquiry.findings_of_unentitled hentitled hsome, Inquiry.plainFindings, hpath]
    exact ⟨_, rfl, none, rfl, rfl⟩
  | true =>
    rw [Inquiry.findings_of_entitled hpath hsome hentitled, forall_prop_of_true rfl, hdocument]
    simp only [map_eq_ok, AdditionalContext.assemble_eq_ok_iff]
    constructor
    -- The context was assembled and put into plain form, so that it fits.
    · rintro ⟨-, ⟨-, ⟨hharmless, rfl⟩, rfl⟩, context, hplain, hlong⟩
      obtain ⟨m, hm, rfl⟩ := map_eq_ok.mp hplain
      exact ⟨hharmless, m, hm, hlong⟩
    · rintro ⟨hharmless, m, hm, hlong⟩
      exact ⟨_, ⟨_, ⟨hharmless, rfl⟩, rfl⟩, some m, map_eq_ok.mpr ⟨m, hm, rfl⟩, hlong⟩

/-- There is a report, unless the context does not fit. -/
theorem report_ok_iff (ids : IdSource) (hworkspace : arguments.workspace = some w) :
    (∃ v, report fs ids settings arguments (resolve arguments.file) text prompt entries = .ok v) ↔
      (arguments.entitled = true → ContextFits fs w (resolve arguments.file) entries) := by
  have hpath := Uri.toPath_ofPath (isAbsolute_resolve arguments.file)
  generalize resolve arguments.file = path at hpath ⊢
  rw [report_eq hworkspace, Inquiry.request_eq]
  refine Iff.trans ?_ (findings_fit_iff (q := inquiryOf ids arguments path text prompt entries)
    settings.modelId hpath rfl)
  dsimp only [Prod.map]
  cases ((inquiryOf ids arguments path text prompt entries).findings fs (.ofFolders [w])
    settings.modelId (.empty Role.standardDirectories)).2 with
  | error f => exact iff_of_false nofun nofun
  | ok found =>
    simp only [Except.ok.injEq, exists_eq_left']
    exact shows_iff _ (ids.request 0) found _

/-! ## What escapes -/

/-- Where something escapes the inspection finds nothing. -/
theorem Escapes.inspect_ne (h : Escapes fs arguments) (ids : IdSource) (finding : Finding) :
    inspect fs ids arguments ≠ .ok finding := by
  intro hfinding
  -- The steps before the one that fails are known to give something.
  cases h with
  -- The settings escape before anything else is read.
  | settings path hconfig hnamed hfails =>
    rcases settingsOf_cases fs arguments.config with ⟨-, hfine⟩ | ⟨⟨f, hf, hother⟩, -⟩
    · exact hfine path hconfig hnamed hfails
    · rw [inspect, hf] at hfinding
      cases f with
      | configuration fault => exact hother fault rfl
      | _ => cases hfinding
  -- The other rules speak of the settings as read.
  | text settings f hsettings hread =>
    rw [inspect, hsettings] at hfinding
    dsimp only at hfinding
    rw [hread] at hfinding
    cases hfinding
  -- The position is asked for line by line and column by column.
  | number settings text hsettings hread hnone =>
    rw [inspect, hsettings] at hfinding
    dsimp only at hfinding
    rw [hread] at hfinding
    dsimp only at hfinding
    -- Neither a line nor a column stands for a position.
    rw [inspectText] at hfinding
    rcases hnone with hline | hcolumn
    · rw [hline] at hfinding
      cases hfinding
    · rw [hcolumn] at hfinding
      cases hline : arguments.line with
      | none =>
        rw [hline] at hfinding
        cases hfinding
      | some line =>
        rw [hline] at hfinding
        cases hfinding
  -- The prompt fails, in loading or in judging.
  | prompt settings text p above f hreads hplaced habove hfails =>
    rw [inspect_of_reads hreads, promptAt_failed_iff.mpr ⟨hplaced, above, habove, hfails⟩] at hfinding
    cases hfinding
  -- From here on a body is awaited.
  | workspace settings text p prompt entries hreads hawaits hnone =>
    rw [inspect_of_awaits hreads hawaits, report, hnone] at hfinding
    cases hfinding
  | context settings text p prompt entries w hreads hawaits hworkspace hentitled hunfit =>
    rw [inspect_of_awaits hreads hawaits] at hfinding
    obtain ⟨v, hv, -⟩ := bind_eq_ok.mp hfinding
    exact hunfit ((report_ok_iff ids hworkspace).mp ⟨v, hv⟩ hentitled)

/-- Where a suggestion is wanted there is a report, or something escapes. -/
theorem tells_or_escapes_of_awaits (hreads : Reads fs arguments settings text p)
    (hawaits : (documentOf arguments text).Awaits p prompt entries) (ids : IdSource) :
    Tells (inspect fs ids arguments) ∨ Escapes fs arguments := by
  cases hworkspace : arguments.workspace with
  | none => exact .inr (.workspace settings text p prompt entries hreads hawaits hworkspace)
  | some w =>
    by_cases hfits : arguments.entitled = true → ContextFits fs w (resolve arguments.file) entries
    · obtain ⟨v, hv⟩ := (report_ok_iff ids hworkspace).mpr hfits
      refine .inl (.inl ⟨v, ?_⟩)
      rw [inspect_of_awaits hreads hawaits, hv]
      rfl
    · obtain ⟨hentitled, hunfit⟩ := Classical.not_imp.mp hfits
      exact .inr (.context settings text p prompt entries w hreads hawaits hworkspace hentitled
        hunfit)

/-- At a place in a text something is told, or something escapes. -/
theorem tells_or_escapes_of_reads (hreads : Reads fs arguments settings text p) (ids : IdSource) :
    Tells (inspect fs ids arguments) ∨ Escapes fs arguments := by
  cases hplace : promptAt (documentOf arguments text) p with
  | error f =>
    obtain ⟨hplaced, above, habove, hfails⟩ := promptAt_failed_iff.mp hplace
    exact .inr (.prompt settings text p above f hreads hplaced habove hfails)
  | ok found =>
    cases found with
    | error reason =>
      refine .inl (.inr ⟨reason, ne_nil_of_promptAt hplace, ?_⟩)
      rw [inspect_of_reads hreads, hplace]
      rfl
    | ok found => exact tells_or_escapes_of_awaits hreads (promptAt_eq_ok_iff.mp hplace) ids

/-- The program tells something, or something escapes it. -/
theorem tells_or_escapes (fs : FileTree) (ids : IdSource) (arguments : Arguments) :
    Tells (inspect fs ids arguments) ∨ Escapes fs arguments := by
  -- The steps are gone through in the order in which the program does them.
  rcases settingsOf_cases fs arguments.config with
    ⟨⟨settings, hsettings⟩ | ⟨fault, hfault⟩, -⟩ | ⟨-, path, hconfig, hnamed, hfails⟩
  · cases hread : fs.readText (resolve arguments.file) with
    | error e =>
      cases e with
      | failure f => exact .inr (.text settings f hsettings hread)
      | file e =>
        refine .inl (.inr ⟨"Error reading '".toList ++ resolve arguments.file ++ "': ".toList ++
          e.message (resolve arguments.file), ?_, ?_⟩)
        · simp only [List.append_assoc]
          exact Text.append_ne_nil (by simp) _
        · rw [inspect, hsettings]
          dsimp only
          rw [hread]
      | malformed =>
        refine .inl (.inr ⟨malformedDetails, by decide, ?_⟩)
        rw [inspect, hsettings]
        dsimp only
        rw [hread]
    | ok text =>
      -- The file is read; what is missing now is the position.
      cases hline : arguments.line with
      | none => exact .inr (.number settings text hsettings hread (.inl hline))
      | some line =>
        cases hcolumn : arguments.column with
        -- A line is counted from one, so that its predecessor and successor give it back.
        | none => exact .inr (.number settings text hsettings hread (.inr hcolumn))
        | some column =>
          have hsame : line - 1 + 1 = line := by omega
          have hreads : Reads fs arguments settings text ⟨line - 1, column⟩ :=
            ⟨hsettings, hread, by rw [hline, hsame], hcolumn⟩
          exact tells_or_escapes_of_reads hreads ids
  -- A fault of the configuration is told.
  · exact .inl (.inr ⟨fault.message, fault.message_ne_nil, by rw [inspect, hfault]⟩)
  · exact .inr (.settings path hconfig hnamed hfails)

theorem tells_iff (ids : IdSource) :
    Tells (inspect fs ids arguments) ↔ ¬ Escapes fs arguments := by
  constructor
  · rintro (⟨v, hv⟩ | ⟨reason, -, hreason⟩) hescapes
    · exact hescapes.inspect_ne ids _ hv
    · exact hescapes.inspect_ne ids _ hreason
  · exact (tells_or_escapes fs ids arguments).resolve_right

/-- For arguments that can be followed the program prints a report, or it says something and ends with
    status 1, exactly if nothing escapes it. Settings are read from a file or refused exactly if
    loading does not fail on the file. -/
theorem contained_iff (fs : FileTree) (ids : IdSource) (argv : List Text) (arguments : Arguments)
    (hparse : Arguments.parse Place.workingDirectory argv = .done arguments) :
    (((∃ v, run fs ids argv = .ok ⟨0, Yaml.write v, []⟩) ∨
        ∃ reason, reason ≠ [] ∧ run fs ids argv = .ok ⟨1, [], reason ++ ['\n']⟩) ↔
      ¬ Escapes fs arguments) ∧
    ∀ path, ((∃ s, Settings.ofFile fs path = .ok s) ∨
        ∃ fault, Settings.ofFile fs path = .error (.configuration fault)) ↔ ¬ fs.Fails path := by
  refine ⟨?_, fun path => Settings.ofFile_contained_iff⟩
  rw [← tells_iff ids, Tells, run, hparse]
  dsimp only
  simp only [map_eq_ok]
  constructor
  -- What is printed is a report or a reason, and each comes from a finding of that kind.
  · rintro (⟨v, finding, hfinding, hv⟩ | ⟨reason, hne, finding, hfinding, hreason⟩)
    · cases finding with
      | report v' => exact .inl ⟨v', hfinding⟩
      | nothing reason => cases hv
    · cases finding with
      | report v => cases hreason
      | nothing reason' =>
        obtain rfl : reason = reason' := by simpa using hreason
        exact .inr ⟨reason, hne, hfinding⟩
  · rintro (⟨v, hv⟩ | ⟨reason, hne, hreason⟩)
    · exact .inl ⟨v, _, hv, rfl⟩
    · exact .inr ⟨reason, hne, _, hreason, rfl⟩

end

/-! ## Samples -/

attribute [local instance] RoleCache.Sample.place

/-- Nothing escapes the program on the sample, for which it prints a report. -/
theorem contained_on_sample :
    Arguments.parse Place.workingDirectory (Sample.argv false) = .done (Sample.arguments false) ∧
      ¬ Escapes Sample.tree (Sample.arguments false) := by
  have hparse := (Sample.previews false).parse
  have hreport : ∃ v, inspect Sample.tree .counting (Sample.arguments false) = .ok (.report v) := by
    rw [(Sample.previews false).inspect_of_awaits .counting Sample.awaits, Sample.findings_sample]
    exact ⟨_, rfl⟩
  obtain ⟨v, hv⟩ := hreport
  have hrun : run Sample.tree .counting (Sample.argv false) = .ok ⟨0, Yaml.write v, []⟩ :=
    (run_eq_ok_iff hparse).mpr ⟨v, hv, rfl⟩
  exact ⟨hparse, (contained_iff _ .counting _ _ hparse).1.mp (.inl ⟨v, hrun⟩)⟩

/-- Settings that are no text escape the program. -/
theorem undecodable_settings_escape :
    let tree : FileTree := ⟨.directory [("t.yml".toList, .file (Utf8.encode "- name: x\n")),
      ("c.yml".toList, .file [0xff])]⟩
    let argv : List Text := ["t.yml", "--line", "2", "--config", "c.yml"]
    (∃ arguments, Arguments.parse Place.workingDirectory argv = .done arguments) ∧
      Settings.ofFile tree "c.yml" = .error (.undecodable ⟨0, [0xff], .badStart⟩) ∧
      run tree .counting argv = .error (.undecodable ⟨0, [0xff], .badStart⟩) := by
  intro tree argv
  -- The settings are no text, whatever the file to inspect says.
  have hfile : Settings.ofFile tree "c.yml" = .error (.undecodable ⟨0, [0xff], .badStart⟩) := by
    decide +kernel
  have hsettings : settingsOf tree (some "c.yml".toList) =
      .error (.undecodable ⟨0, [0xff], .badStart⟩) := by
    rw [settingsOf, if_neg (by decide), hfile]
  have hparse : Arguments.parse Place.workingDirectory argv =
      .done ⟨"t.yml", some 2, some 0, some "/", some "c.yml", true, false⟩ := by
    decide
  refine ⟨⟨_, hparse⟩, hfile, ?_⟩
  rw [run, hparse]
  dsimp only
  rw [inspect, hsettings]
  rfl

end Program

end PlaybookAssist
