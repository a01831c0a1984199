import PlaybookAssist.Proofs.CommandLine.Preview
import PlaybookAssist.Proofs.Path.Rooted
import PlaybookAssist.Proofs.Request.Entitlement
import PlaybookAssist.Proofs.Uri.Quoted

/-!
# One verdict on the kind of a file

A report tells the kind of the file twice: by itself for the path that the program was called with,
and in the request for the path that is read back from the URI of the document. The two are one path,
so they are of one kind.

## Main definitions

- `Value.follow?` : what is found under one key after the other
- `Program.ReportsOn` : a report is made on the entries of a prompt

## Main statements

- `Program.follow?_of_report` : the kinds that a report tells
- `Program.one_verdict` : the kind in a report is the kind in the request
-/

namespace PlaybookAssist

/-- What is found in a value under one key after the other. -/
def Value.follow? : List Text → Value → Option Value
  | [], v => some v
  | key :: keys, .map m => (Mapping.find? key m).bind (follow? keys)
  | _ :: _, _ => none

/-! ## Kinds in a request -/

namespace Inquiry

variable [Place] {q : Inquiry} {fs : FileTree} {workspace : Workspace} {modelId : Option Text}
  {cache : RoleCache} {found : Findings} {p : Text}

/-- In a request for a document on an absolute path, the kind is the one for that path. -/
theorem type_of_findings (huri : q.uri = Uri.ofPath p) (hp : Path.isAbsolute p = true)
    (hdocument : q.document ≠ .null) (h : (q.findings fs workspace modelId cache).2 = .ok found) :
    found.type = FileType.ofDocument p q.document := by
  have hplain : q.plainFindings = .ok ⟨FileType.ofDocument p q.document, none, none⟩ := by
    rw [plainFindings, huri, Uri.toPath_ofPath hp]
    rfl
  have hsame := Except.ok.inj ((plainFindings_of_findings hdocument h).symm.trans hplain)
  exact congrArg Findings.type hsame

end Inquiry

namespace Program

section

variable [Place] {fs : FileTree} {ids : IdSource} {argv : List Text} {arguments : Arguments}
  {v : Value} {text prompt : Text} {entries : List Value}

/-- A report is made on the entries of the prompt at a place in a file. -/
structure ReportsOn (fs : FileTree) (ids : IdSource) (arguments : Arguments) (entries : List Value)
    (v : Value) : Prop where
  inspect : inspect fs ids arguments = .ok (.report v)
  awaits : ∃ text line column prompt, fs.readText (resolve arguments.file) = .ok text ∧
    arguments.line = some line ∧ arguments.column = some column ∧
    (⟨Uri.ofPath (resolve arguments.file), text, Settings.standard.languageId⟩ : Document).Awaits
      ⟨line - 1, column⟩ prompt entries

/-! ## Reports -/

/-- The path of a file leads from the root along some names. -/
theorem exists_resolve (path : Text) : ∃ ns : List Path.Name, resolve path = Path.rooted ns := by
  obtain ⟨ns, h | h⟩ := Path.absolute_cases path
  · refine ⟨ns, ?_⟩
    unfold resolve
    rw [h]
    by_cases hns : ns = []
    · subst hns
      rfl
    · -- The first name begins right behind the first slash.
      obtain ⟨c, rest, hc, hstem⟩ := Path.exists_cons_stem hns
      rw [Path.rooted_eq_stem hns, hstem]
      simp [hc]
  · refine ⟨ns, ?_⟩
    unfold resolve
    rw [h]
    rfl

/-- A report is made on a file that can be read. -/
theorem inspectText_of_inspect (h : inspect fs ids arguments = .ok (.report v)) :
    ∃ settings text, fs.readText (resolve arguments.file) = .ok text ∧
      inspectText fs ids settings arguments (resolve arguments.file) text = .ok (.report v) := by
  unfold inspect at h
  -- A report comes after the settings and the text have been read.
  cases hsettings : settingsOf fs arguments.config with
  | error e =>
    rw [hsettings] at h
    cases e <;> cases h
  | ok settings =>
    rw [hsettings] at h
    dsimp only at h
    cases hread : fs.readText (resolve arguments.file) with
    | error e =>
      rw [hread] at h
      cases e <;> cases h
    | ok text =>
      rw [hread] at h
      exact ⟨settings, text, rfl, h⟩

/-- A report is made for a place at which a suggestion is wanted. -/
theorem report_of_inspectText {settings : Settings} {path : Text}
    (h : inspectText fs ids settings arguments path text = .ok (.report v)) :
    ∃ line column prompt entries, arguments.line = some line ∧ arguments.column = some column ∧
      (⟨Uri.ofPath path, text, Settings.standard.languageId⟩ : Document).Awaits
        ⟨line - 1, column⟩ prompt entries ∧
      report fs ids settings arguments path text prompt entries = .ok v := by
  -- Both numbers are given, for otherwise there is no position.
  obtain ⟨line, hline⟩ : ∃ line, arguments.line = some line := by
    cases hline : arguments.line with
    | none =>
      rw [inspectText, hline] at h
      cases h
    | some line => exact ⟨line, rfl⟩
  obtain ⟨column, hcolumn⟩ : ∃ column, arguments.column = some column := by
    cases hcolumn : arguments.column with
    | none =>
      rw [inspectText, hline, hcolumn] at h
      cases h
    | some column => exact ⟨column, rfl⟩
  rw [inspectText_eq hline hcolumn] at h
  -- What is found at the position awaits a body, and the report is made of that.
  obtain ⟨place, hplace, h⟩ := bind_eq_ok.mp h
  cases place with
  | error reason => cases h
  | ok place =>
    obtain ⟨v', hreport, hv⟩ := bind_eq_ok.mp h
    cases hv
    exact ⟨line, column, place.1, place.2, hline, hcolumn, promptAt_eq_ok_iff.mp hplace, hreport⟩

/-- A report shows the payload for what is found out with some role cache. -/
theorem shown_of_report {settings : Settings} {path : Text}
    (h : report fs ids settings arguments path text prompt entries = .ok v) :
    ∃ workspace cache found context,
      ((inquiryOf ids arguments path text prompt entries).findings fs workspace settings.modelId
        cache).2 = .ok found ∧
      v = shown (FileType.ofDocument path (.list entries))
        ((inquiryOf ids arguments path text prompt entries).payloadWith (ids.request 0) found
          context) := by
  cases hworkspace : arguments.workspace with
  | none =>
    rw [report, hworkspace] at h
    cases h
  | some w =>
    -- The payload is made of what has been found, and the report shows it.
    rw [report_eq hworkspace, Inquiry.request_eq] at h
    obtain ⟨r, hr, h⟩ := bind_eq_ok.mp h
    obtain ⟨payload, hpayload, h⟩ := bind_eq_ok.mp h
    obtain ⟨found, hfound, rfl⟩ := map_eq_ok.mp hr
    rw [Inquiry.toPayload_requestOf] at hpayload
    obtain ⟨context, -, rfl⟩ := map_eq_ok.mp hpayload
    -- A payload with too long a number is not shown.
    split at h
    case isTrue => cases h
    case isFalse =>
      cases h
      exact ⟨_, _, found, context, hfound, rfl⟩

omit [Place] in
/-- Where a report tells kinds. -/
theorem follow?_shown (type : FileType) (q : Inquiry) (freshId : Text) (found : Inquiry.Findings)
    (context : Option Mapping) :
    let v := shown type (q.payloadWith freshId found context)
    v.follow? ["ansibleFileType"] = some (.str type.name) ∧
      v.follow? ["request", "metadata", "ansibleFileType"] = some (.str found.type.name) := by
  refine ⟨rfl, ?_⟩
  -- The metadata follow after the model, if there is one.
  cases hmodel : found.modelId with
  | none =>
    simp only [shown, Inquiry.payloadWith, hmodel]
    rfl
  | some modelId =>
    simp only [shown, Inquiry.payloadWith, hmodel]
    rfl

/-- A report tells the kind of its file, and the same kind in the request. -/
theorem follow?_of_report {settings : Settings} {path : Text}
    (hpath : Path.isAbsolute path = true)
    (h : report fs ids settings arguments path text prompt entries = .ok v) :
    v.follow? ["ansibleFileType"] =
        some (.str (FileType.ofDocument path (.list entries)).name) ∧
      v.follow? ["request", "metadata", "ansibleFileType"] =
        some (.str (FileType.ofDocument path (.list entries)).name) := by
  obtain ⟨workspace, cache, found, context, hfound, rfl⟩ := shown_of_report h
  have htype : found.type = FileType.ofDocument path (.list entries) :=
    Inquiry.type_of_findings rfl hpath (by simp [inquiryOf]) hfound
  rw [← htype]
  exact follow?_shown found.type _ _ found context

/-- The URI of an absolute path names that path, whatever characters the path has. So, whenever the
    program prints a report, the kind of file in it, which is the one for the path of the file, is the
    kind in the metadata of the request, which is the one for the path that the URI names. -/
theorem one_verdict :
    (∀ p, Path.isAbsolute p = true → Uri.toPath (Uri.ofPath p) = .ok p) ∧
    ∀ (fs : FileTree) (ids : IdSource) (argv : List Text) (arguments : Arguments) (out : Text),
      Arguments.parse Place.workingDirectory argv = .done arguments →
      run fs ids argv = .ok ⟨0, out, []⟩ →
      ∃ report entries named,
        ReportsOn fs ids arguments entries report ∧ out = Yaml.write report ∧
        report.follow? ["ansibleFileType"] =
          some (.str (FileType.ofDocument (resolve arguments.file) (.list entries)).name) ∧
        Uri.toPath (Uri.ofPath (resolve arguments.file)) = .ok named ∧
        report.follow? ["request", "metadata", "ansibleFileType"] =
          some (.str (FileType.ofDocument named (.list entries)).name) ∧
        report.follow? ["request", "metadata", "ansibleFileType"] =
          report.follow? ["ansibleFileType"] := by
  refine ⟨fun p hp => Uri.toPath_ofPath hp, ?_⟩
  intro fs ids argv arguments out hparse hrun
  -- The report goes back through the steps of the program to the entries it is about.
  obtain ⟨report, hinspect, hout⟩ := (run_eq_ok_iff hparse).mp hrun
  obtain ⟨settings, text, htext, hplace⟩ := inspectText_of_inspect hinspect
  obtain ⟨line, column, prompt, entries, hline, hcolumn, hawaits, hreport⟩ :=
    report_of_inspectText hplace
  have hon : ReportsOn fs ids arguments entries report :=
    ⟨hinspect, text, line, column, prompt, htext, hline, hcolumn, hawaits⟩
  -- The path of the file is absolute, so that its URI names the same path.
  have hpath : Path.isAbsolute (resolve arguments.file) = true := by
    obtain ⟨ns, hns⟩ := exists_resolve arguments.file
    rw [hns]
    exact Path.isAbsolute_rooted ns
  obtain ⟨hfile, hrequest⟩ := follow?_of_report hpath hreport
  exact ⟨report, entries, _, hon, hout, hfile, Uri.toPath_ofPath hpath, hrequest,
    hrequest.trans hfile.symm⟩

end

/-! ## Samples -/

attribute [local instance] RoleCache.Sample.place

/-- A path with characters that mean something in a URI is read back, and the report on the sample
    tells one kind. -/
theorem verdict_on_sample :
    Uri.toPath (Uri.ofPath "/w/50% #é?;\n.yml") = .ok "/w/50% #é?;\n.yml".toList ∧
      ∃ out report, run Sample.tree .counting (Sample.argv false) = .ok ⟨0, out, []⟩ ∧
        out = Yaml.write report ∧
        report.follow? ["request", "metadata", "ansibleFileType"] =
          report.follow? ["ansibleFileType"] := by
  have hinspect : ∃ report, inspect Sample.tree .counting (Sample.arguments false) =
      .ok (.report report) := by
    rw [(Sample.previews false).inspect_of_awaits .counting Sample.awaits, Sample.findings_sample]
    exact ⟨_, rfl⟩
  obtain ⟨report, hinspect⟩ := hinspect
  have hrun : run Sample.tree .counting (Sample.argv false) = .ok ⟨0, Yaml.write report, []⟩ :=
    (run_eq_ok_iff (Sample.previews false).parse).mpr ⟨report, hinspect, rfl⟩
  obtain ⟨hnamed, hverdict⟩ := one_verdict
  obtain ⟨report', -, -, -, hout, -, -, -, hsame⟩ :=
    hverdict _ _ _ _ _ (Sample.previews false).parse hrun
  exact ⟨hnamed _ (by decide), _, report', hrun, hout, hsame⟩

end Program

end PlaybookAssist
