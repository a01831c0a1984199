import PlaybookAssist.Proofs.Schema.Fields
import PlaybookAssist.Proofs.Text.Ends
import PlaybookAssist.Proofs.Value.Content
import PlaybookAssist.Settings

/-!
# Settings in normal form

The section of a document may give the settings in many ways: an address with blanks around it, a
model that is blank, a number for a truth value. What is read from it is in normal form, whatever
kinds of values it holds, and settings in normal form are what is read from the document that says
what they are. Nothing beside the section is looked at.

## Main definitions

- `Settings.IsNormal` : settings in normal form
- `Settings.IsGiven` : documents that settings are read from
- `Settings.entry` : what a document holds under the name of the section
- `Settings.toDocument` : the document that says what the settings are

## Main statements

- `Settings.isNormal_of_ofSection` : settings that are read are in normal form
- `Settings.ofSection_toSection` : settings in normal form are read back
- `Settings.ofDocument_normal` : what is read from a document
-/

namespace PlaybookAssist.Settings

variable {s : Settings} {v w document : Value} {t : Text} {m : Option Text}

/-- Neither the address nor the model has blanks at its ends, and a model is not empty. -/
structure IsNormal (s : Settings) : Prop where
  url : s.url.IsTrimmed isBlank
  modelId : ∀ m ∈ s.modelId, m ≠ [] ∧ m.IsTrimmed isBlank

/-- Settings are read from a mapping, or from null when there is nothing to read. -/
def IsGiven (document : Value) : Prop :=
  document = .null ∨ ∃ ps, document.asMap? = some ps

/-- What a document holds under the name of the section, null if there is nothing. -/
def entry (document : Value) : Value :=
  (document.asMap?.bind (Mapping.find? sectionName)).getD .null

/-- The document that says what the settings are. -/
def toDocument (s : Settings) : Value :=
  .map (Mapping.ofTexts [(sectionName, .map s.toSection)])

/-! ## What is read is in normal form -/

theorem isTrimmed_of_textOf (h : textOf v = .ok t) : t.IsTrimmed isBlank := by
  rw [textOf] at h
  split at h
  · cases h
  · cases h
    exact Text.isTrimmed_trim isBlank v.display

theorem isTrimmed_of_urlOf (h : urlOf v = .ok t) : t.IsTrimmed isBlank := by
  rw [urlOf.eq_def] at h
  split at h
  · cases h
    exact Text.isTrimmed_nil isBlank
  · exact isTrimmed_of_textOf h

theorem isTrimmed_of_modelOf (h : modelOf v = .ok m) :
    ∀ t ∈ m, t ≠ [] ∧ t.IsTrimmed isBlank := by
  rw [modelOf.eq_def] at h
  -- Either no model is given, or a text that has been trimmed.
  split at h
  case h_1 =>
    cases h
    exact fun _ ht => (Option.not_mem_none _ ht).elim
  case h_2 =>
    cases htext : textOf v with
    | error is =>
      rw [htext] at h
      cases h
    | ok u =>
      rw [htext] at h
      cases h
      intro t ht
      obtain ⟨hne, rfl⟩ : u ≠ [] ∧ u = t := by simpa using ht
      exact ⟨hne, isTrimmed_of_textOf htext⟩

/-- Settings that are read from a section are in normal form. -/
theorem isNormal_of_ofSection (h : ofSection v = .ok s) : s.IsNormal := by
  rw [ofSection] at h
  split at h
  case h_2 => cases h
  case h_1 ps _ =>
    dsimp only at h
    split at h
    case h_2 => cases h
    case h_1 enabled url modelId suggestions languageId timeout _ hurl hmodel _ _ _ =>
      cases h
      constructor
      -- a default is trimmed as it stands, anything else has been trimmed
      · obtain rfl | ⟨v, hv⟩ := Schema.withDefault_cases hurl
        · exact Text.isTrimmed_nil isBlank
        · exact isTrimmed_of_urlOf hv
      · obtain rfl | ⟨v, hv⟩ := Schema.withDefault_cases hmodel
        · exact fun _ ht => (Option.not_mem_none _ ht).elim
        · exact isTrimmed_of_modelOf hv

/-! ## Settings in normal form are read back -/

theorem textOf_str (h : t.IsTrimmed isBlank) : textOf (.str t) = .ok t := by
  rw [textOf, if_neg (by simp [Value.hasLongInteger, Value.hasScalarIn])]
  exact congrArg Except.ok (Text.trim_eq_self_iff.mpr h)

theorem urlOf_str (h : t.IsTrimmed isBlank) : urlOf (.str t) = .ok t :=
  textOf_str h

theorem modelOf_str (hne : t ≠ []) (h : t.IsTrimmed isBlank) :
    modelOf (.str t) = .ok (some t) := by
  rw [modelOf.eq_def]
  dsimp only
  rw [textOf_str h]
  simp [Except.map, hne]

theorem inlineSection_ofTexts (b : Bool) :
    inlineSection (.map (Mapping.ofTexts [("enabled", .bool b)])) = .ok b := by
  rw [inlineSection, Value.content_map]
  exact Schema.withDefault_ofTexts rfl rfl

/-- Settings in normal form are read from the section that says what they are. -/
theorem ofSection_toSection (h : s.IsNormal) : ofSection (.map s.toSection) = .ok s := by
  -- Field by field, each is written as it is read.
  have henabled : Schema.withDefault true Schema.truth ["enabled"] s.toSection = .ok s.enabled :=
    Schema.withDefault_ofTexts rfl rfl
  have hurl : Schema.withDefault [] urlOf ["url"] s.toSection = .ok s.url :=
    Schema.withDefault_ofTexts rfl (urlOf_str h.url)
  have hmodel : Schema.withDefault none modelOf ["model_id"] s.toSection = .ok s.modelId := by
    -- Without a model the field holds null.
    obtain ⟨_, _, model, _, _, _⟩ := s
    cases model with
    | none => exact Schema.withDefault_ofTexts rfl rfl
    | some m =>
      obtain ⟨hne, htrimmed⟩ := h.modelId m rfl
      exact Schema.withDefault_ofTexts rfl (modelOf_str hne htrimmed)
  have hsuggestions : Schema.withDefault true inlineSection ["suggestions"] s.toSection =
      .ok s.suggestions := Schema.withDefault_ofTexts rfl (inlineSection_ofTexts s.suggestions)
  have hlanguage : Schema.withDefault standard.languageId Schema.text ["language_id"]
      s.toSection = .ok s.languageId := Schema.withDefault_ofTexts rfl rfl
  have htimeout : Schema.withDefault standard.timeout Schema.integer ["timeout"] s.toSection =
      .ok s.timeout := Schema.withDefault_ofTexts rfl rfl
  rw [ofSection, Value.content_map]
  dsimp only
  rw [henabled, hurl, hmodel, hsuggestions, hlanguage, htimeout]

/-! ## Documents -/

theorem isGiven_toDocument (s : Settings) : IsGiven s.toDocument :=
  .inr ⟨_, rfl⟩

theorem entry_toDocument (s : Settings) : entry s.toDocument = .map s.toSection :=
  rfl

/-- The section of a document is what stands under its name, whatever else there is. -/
theorem sectionOf_eq (h : IsGiven document) :
    sectionOf document =
      .ok (if (entry document).isTruthy then entry document else .map []) := by
  obtain rfl | ⟨ps, hmap⟩ := h
  · rfl
  rw [sectionOf, entry, hmap, ← Value.isTruthy_content, Value.asMap?_eq_some_iff.mp hmap]
  cases ps with
  | nil => rfl
  | cons p ps => rfl

theorem ofDocument_eq (h : IsGiven document) :
    ofDocument document =
      (ofSection (if (entry document).isTruthy then entry document else .map [])).mapError
        fun is => .configuration (.invalid is) := by
  rw [ofDocument, sectionOf_eq h]
  dsimp only [bind, Except.bind]
  cases ofSection (if (entry document).isTruthy then entry document else .map []) <;> rfl

/-- Settings in normal form are read from the document that says what they are. -/
theorem ofDocument_toDocument (h : s.IsNormal) : ofDocument s.toDocument = .ok s := by
  rw [ofDocument_eq (isGiven_toDocument s), entry_toDocument,
    if_pos (show (Value.map s.toSection).isTruthy from rfl), ofSection_toSection h]
  rfl

/-- From a mapping, or null, the settings are read in normal form unless they are refused, and what
    is read is read again from the document that says what it is. Whatever a document holds beside
    the section makes no difference. -/
theorem ofDocument_normal (h : IsGiven document) :
    ((∃ is, ofDocument document = .error (.configuration (.invalid is))) ∨
      ∃ s, ofDocument document = .ok s ∧ s.IsNormal ∧ ofDocument s.toDocument = .ok s) ∧
    ∀ other, IsGiven other → entry other = entry document →
      ofDocument other = ofDocument document := by
  constructor
  · rw [ofDocument_eq h]
    cases hs : ofSection _ with
    | error is => exact .inl ⟨is, rfl⟩
    | ok s =>
      have hnormal := isNormal_of_ofSection hs
      exact .inr ⟨s, rfl, hnormal, ofDocument_toDocument hnormal⟩
  · intro other hother hentry
    rw [ofDocument_eq h, ofDocument_eq hother, hentry]

namespace Sample

/-- A section with blanks around the address, a list for the model and a word for a truth value. -/
def mixed : Value :=
  .map (Mapping.ofTexts
    [("url", .str " u "), ("model_id", .list [.bool true]), ("enabled", .str "off"), ("timeout", .bool true)])

/-- A document with something beside the section. -/
def given : Value :=
  .map (Mapping.ofTexts [("other", .int 1), (sectionName, mixed)])

/-- The settings of the document. -/
def read : Settings :=
  { standard with enabled := false, url := "u", modelId := some "[True]", timeout := 1 }

theorem ofDocument_given : ofDocument given = .ok read := by
  decide

end Sample

theorem mixed_section_is_read_in_normal_form :
    (∃ s, ofDocument Sample.given = .ok s ∧ s.IsNormal ∧ ofDocument s.toDocument = .ok s) ∧
      ofDocument (.map (Mapping.ofTexts [(sectionName, Sample.mixed)])) =
        ofDocument Sample.given := by
  have hgiven : IsGiven Sample.given := .inr ⟨_, rfl⟩
  obtain ⟨hread, hother⟩ := ofDocument_normal hgiven
  refine ⟨?_, hother _ (.inr ⟨_, rfl⟩) rfl⟩
  obtain ⟨is, hrefused⟩ | hnormal := hread
  · rw [Sample.ofDocument_given] at hrefused
    cases hrefused
  · exact hnormal

end PlaybookAssist.Settings
