import PlaybookAssist.Proofs.Request.Plain
import PlaybookAssist.Proofs.Schema.Fields
import PlaybookAssist.Proofs.Value.Content
import PlaybookAssist.Request.Feedback

/-!
# What is sent is read back

What is sent of a request leaves out what is not known and names the other fields in a way of its own.
A request whose context is JSON is read back from it, null values in the context included. A
request is not sent, rather than changed, where the context cannot be written: where a key further
down in it has no UTF-8 form, and where it is nested deeper than plain data may be. The keys of the
context itself are written in any case, and one without a UTF-8 form is changed on the way.

## Main definitions

- `CompletionRequest.written` : a request as data, with its context as it is
- `CompletionRequest.asSent` : a request with the keys that are sent for those of its context
- `CompletionRequest.HasJson`, `CompletionRequest.IsSendable` : the context is JSON, and can be sent
- `CompletionRequest.IsFaithful` : the keys of the context are sent as they are

## Main statements

- `CompletionRequest.toPayload_eq_ok_iff` : what is sent of a request, and when
- `CompletionRequest.ofValue_written` : a request is read back
- `Feedback.ofValue_toPayload` : a report is read back
- `payloads_read_back` : requests and reports
-/

namespace PlaybookAssist

open Mapping (ofTexts)

/-! ## Fields -/

theorem find?_payloadField {α : Type} (name key : Text) (form : α → Value) (a? : Option α) :
    Table.find? key (payloadField name form a?) = if name = key then a?.map form else none := by
  cases a? <;> simp [payloadField, Table.find?]

namespace Schema

/-- Texts are keys already, and are entered one after the other. -/
theorem textKeys_ofTexts (entered fields : Table Value) :
    textKeys entered (ofTexts fields) = .ok (entered.setAll fields) := by
  induction fields generalizing entered with
  | nil => rfl
  | cons p fields ih => exact ih (entered.set p.1 p.2)

theorem textMapping_ofTexts {fields : Table Value} (hdistinct : fields.keys.Nodup) :
    textMapping (.map (ofTexts fields)) = .ok fields := by
  rw [textMapping, Value.content_map]
  exact (textKeys_ofTexts [] fields).trans
    (congrArg Except.ok (Table.setAll_of_nodup (t := []) hdistinct))

end Schema

/-! ## Completion requests -/

namespace CompletionMetadata

/-- The metadata as data, the context as it is. -/
def written (m : CompletionMetadata) : Mapping :=
  ofTexts
    (payloadField "documentUri" .str (some m.documentId)
      ++ (payloadField "ansibleFileType" .str (some m.fileType)
      ++ (payloadField "activityId" .str (some m.activityId)
      ++ payloadField "additionalContext" (fun context => .map (ofTexts context)) m.context)))

/-- The metadata with the keys that are sent for those of the context. -/
def asSent (m : CompletionMetadata) : CompletionMetadata :=
  { m with context := m.context.map Value.withPlainKeys }

variable {m : CompletionMetadata} {payload : Mapping}

theorem ofValue_written (h : ∀ context ∈ m.context, context.keys.Nodup) :
    ofValue (.map m.written) = .ok m := by
  -- Each field is written under its name and read under that name again.
  have hdocument : Schema.required Schema.text ["documentUri", "document_uri"] m.written =
      .ok m.documentId := Schema.required_ofTexts rfl rfl
  have htype : Schema.required Schema.text ["ansibleFileType", "ansible_file_type"] m.written =
      .ok m.fileType := Schema.required_ofTexts rfl rfl
  have hactivity : Schema.required Schema.text ["activityId", "activity_id"] m.written =
      .ok m.activityId := Schema.required_ofTexts rfl rfl
  have hcontext : Schema.withDefault none (Schema.optional Schema.textMapping)
      ["additionalContext", "additional_context"] m.written = .ok m.context := by
    -- The context is the only field that can be missing, and the only one with keys of its own.
    refine Schema.withDefault_optional_ofTexts (fun context => .map (ofTexts context)) ?_ ?_ ?_
    · intro context hmem
      show (Schema.textMapping _).map some = _
      rw [Schema.textMapping_ofTexts (h context hmem)]
      rfl
    · simp [Table.find?_append, find?_payloadField]
    · exact List.forall_mem_singleton.mpr (by simp [Table.find?_append, find?_payloadField])
  rw [ofValue, Value.content_map]
  dsimp only
  rw [hdocument, htype, hactivity, hcontext]

/-- What is sent are the metadata as data, under the keys that are sent for those of the context. -/
theorem toPayload_eq_ok_iff {sent : Table Value → Prop}
    (h : ∀ context ∈ m.context, ∀ plain, plainContext context = .ok plain ↔
      sent context ∧ plain = ofTexts (Value.withPlainKeys context)) :
    m.toPayload = .ok payload ↔
      (∀ context ∈ m.context, sent context) ∧ payload = m.asSent.written := by
  obtain ⟨documentId, fileType, activityId, context⟩ := m
  rw [toPayload]
  -- Without a context nothing has to be put into plain form.
  cases context with
  | none => exact ok_eq_ok_iff nofun
  | some context =>
    have hplain := h context rfl
    simp only [Option.mem_some_iff, forall_eq']
    -- The context has a plain form, and that is what is written.
    constructor
    · intro hsent
      obtain ⟨plain?, hmap, hwritten⟩ := bind_eq_ok.mp hsent
      obtain ⟨plain, hcontext, hsome⟩ := map_eq_ok.mp hmap
      obtain ⟨hcan, rfl⟩ := (hplain plain).mp hcontext
      subst hsome
      exact ⟨hcan, (Except.ok.inj hwritten).symm⟩
    · rintro ⟨hcan, rfl⟩
      have hcontext := (hplain _).mpr ⟨hcan, rfl⟩
      exact bind_eq_ok.mpr ⟨_, map_eq_ok.mpr ⟨_, hcontext, rfl⟩, rfl⟩

end CompletionMetadata

namespace CompletionRequest

/-- The context of a request, if there is one. -/
def context? (r : CompletionRequest) : Option (Table Value) :=
  r.metadata.bind (·.context)

/-- The context holds JSON values under its keys. -/
def HasJson (r : CompletionRequest) : Prop :=
  ∀ context ∈ r.context?, Value.IsJson (fun _ => True) (.map (ofTexts context))

/-- Every key of a mapping inside the context has a UTF-8 form, and the context is nested no deeper
    than plain data may be. -/
def IsSendable (r : CompletionRequest) : Prop :=
  ∀ context ∈ r.context?, (∀ p ∈ context, Value.IsJson Text.HasUtf8 p.2) ∧
    Value.height (.map (ofTexts context)) ≤ Value.depthLimit

/-- The keys of the context itself have UTF-8 forms. -/
def IsFaithful (r : CompletionRequest) : Prop :=
  ∀ context ∈ r.context?, ∀ key ∈ context.keys, key.HasUtf8

/-- The request with the keys that are sent for those of its context. -/
def asSent (r : CompletionRequest) : CompletionRequest :=
  { r with metadata := r.metadata.map CompletionMetadata.asSent }

/-- The request as data, the context as it is. -/
def written (r : CompletionRequest) : Mapping :=
  ofTexts
    (payloadField "prompt" .str (some r.prompt)
      ++ (payloadField "suggestionId" .str (some r.suggestionId)
      ++ (payloadField "modelId" .str r.modelId
      ++ payloadField "metadata" (fun m => .map m.written) r.metadata)))

variable {r : CompletionRequest} {payload : Mapping}

theorem HasJson.of_mem (h : r.HasJson) {context : Table Value} (hcontext : context ∈ r.context?) :
    context.keys.Nodup ∧ ∀ p ∈ context, Value.IsJson (fun _ => True) p.2 := by
  obtain ⟨hdistinct, hfields⟩ := Value.isJson_map_iff.mp (h context hcontext)
  exact ⟨hdistinct, fun p hp => (hfields p hp).2⟩

/-- A request is sent under its own keys exactly if these have UTF-8 forms. -/
theorem asSent_eq_self_iff (h : r.HasJson) : r.asSent = r ↔ r.IsFaithful := by
  obtain ⟨prompt, suggestionId, modelId, metadata⟩ := r
  cases metadata with
  | none => exact iff_of_true rfl (by rintro _ ⟨⟩)
  | some m =>
    obtain ⟨documentId, fileType, activityId, context⟩ := m
    cases context with
    | none => exact iff_of_true rfl (by rintro _ ⟨⟩)
    | some context =>
      have hsame := Value.withPlainKeys_eq_self_iff (h.of_mem rfl).1
      simpa [asSent, CompletionMetadata.asSent, IsFaithful, context?] using hsame

/-- What is sent of a request is the request as data, under the keys that are sent for those of its
    context, and it is sent if its context can be. -/
theorem toPayload_eq_ok_iff (h : r.HasJson) :
    r.toPayload = .ok payload ↔ r.IsSendable ∧ payload = r.asSent.written := by
  obtain ⟨prompt, suggestionId, modelId, metadata⟩ := r
  rw [toPayload]
  -- The metadata decide; everything else of a request is text.
  cases metadata with
  | none => exact ok_eq_ok_iff nofun
  | some m =>
    have hmetadata (plain : Mapping) : m.toPayload = .ok plain ↔ _ :=
      CompletionMetadata.toPayload_eq_ok_iff fun context hmem plain =>
        Value.plainMapping_eq_ok_iff (m := plain) (h.of_mem hmem).2
    constructor
    · intro hsent
      obtain ⟨plain?, hmap, hwritten⟩ := bind_eq_ok.mp hsent
      obtain ⟨plain, hplain, hsome⟩ := map_eq_ok.mp hmap
      obtain ⟨hcan, rfl⟩ := (hmetadata plain).mp hplain
      subst hsome
      exact ⟨hcan, (Except.ok.inj hwritten).symm⟩
    · rintro ⟨hcan, rfl⟩
      have hplain := (hmetadata m.asSent.written).mpr ⟨hcan, rfl⟩
      exact bind_eq_ok.mpr ⟨some m.asSent.written, map_eq_ok.mpr ⟨_, hplain, rfl⟩, rfl⟩

/-- A request is read from its data, with whatever its context holds. -/
theorem ofValue_written (h : ∀ context ∈ r.context?, context.keys.Nodup) :
    ofValue (.map r.written) = .ok r := by
  -- The same as for the metadata, whose own round trip is used for their field.
  have hprompt : Schema.required Schema.text ["prompt"] r.written = .ok r.prompt :=
    Schema.required_ofTexts rfl rfl
  have hsuggestion : Schema.required Schema.text ["suggestionId", "suggestion_id"] r.written =
      .ok r.suggestionId := Schema.required_ofTexts rfl rfl
  have hmodel : Schema.withDefault none (Schema.optional Schema.text) ["modelId", "model_id"]
      r.written = .ok r.modelId := by
    refine Schema.withDefault_optional_ofTexts .str (fun _ _ => rfl) ?_ ?_
    · simp [Table.find?_append, find?_payloadField]
    · exact List.forall_mem_singleton.mpr (by simp [Table.find?_append, find?_payloadField])
  have hmetadata : Schema.withDefault none (Schema.optional CompletionMetadata.ofValue)
      ["metadata"] r.written = .ok r.metadata := by
    refine Schema.withDefault_optional_ofTexts (fun m => .map m.written) ?_ ?_ nofun
    · intro m hmem
      show (CompletionMetadata.ofValue (.map m.written)).map some = _
      rw [CompletionMetadata.ofValue_written fun context hcontext =>
        h context (Option.mem_bind_iff.mpr ⟨m, hmem, hcontext⟩)]
      rfl
    · simp [Table.find?_append, find?_payloadField]
  rw [ofValue, Value.content_map]
  dsimp only
  rw [hprompt, hsuggestion, hmodel, hmetadata]

/-- What is read is the request under the keys that were sent. -/
theorem ofValue_written_asSent (r : CompletionRequest) :
    ofValue (.map r.asSent.written) = .ok r.asSent := by
  refine ofValue_written fun context hcontext => ?_
  obtain ⟨m, hm, hmem⟩ := Option.mem_bind_iff.mp hcontext
  obtain ⟨m, -, rfl⟩ := Option.map_eq_some_iff.mp hm
  obtain ⟨context, -, rfl⟩ := Option.map_eq_some_iff.mp hmem
  exact Value.nodup_keys_withPlainKeys context

end CompletionRequest

/-! ## Reports -/

namespace Feedback

/-- The fields of the report on a suggestion, those that are always there written like those that may
    be missing. -/
def suggestionFields (f : Feedback) : Table Value :=
  payloadField "suggestionId" .str (some f.suggestionId)
    ++ (payloadField "action" .int (some f.action.number)
    ++ (payloadField "latency" .float f.latency
    ++ (payloadField "userActionTime" .float f.actionTime
    ++ (payloadField "documentUri" .str f.documentUri
    ++ (payloadField "activityId" .str f.activityId
    ++ payloadField "error" .str f.error)))))

theorem toSuggestion_eq (f : Feedback) : f.toSuggestion = ofTexts f.suggestionFields := by
  rw [toSuggestion, suggestionFields]
  simp only [payloadField, List.append_assoc, List.cons_append, List.nil_append]

/-- What is under a key, field by field. -/
theorem find?_suggestionFields (f : Feedback) (key : Text) :
    Table.find? key f.suggestionFields =
      (if "suggestionId" = key then some (.str f.suggestionId) else none).or
      ((if "action" = key then some (.int f.action.number) else none).or
      ((if "latency" = key then f.latency.map .float else none).or
      ((if "userActionTime" = key then f.actionTime.map .float else none).or
      ((if "documentUri" = key then f.documentUri.map .str else none).or
      ((if "activityId" = key then f.activityId.map .str else none).or
      (if "error" = key then f.error.map .str else none)))))) := by
  simp only [suggestionFields, Table.find?_append, find?_payloadField, Option.map_some]

theorem ofSuggestion_toSuggestion (f : Feedback) : ofSuggestion (.map f.toSuggestion) = .ok f := by
  -- All fields but the first two may be missing, and none of them is named like another.
  have hfind := f.find?_suggestionFields
  have hsuggestion : Schema.required Schema.text ["suggestionId", "suggestion_id"]
      (ofTexts f.suggestionFields) = .ok f.suggestionId := Schema.required_ofTexts rfl rfl
  have haction : Schema.required UserAction.ofValue ["action"] (ofTexts f.suggestionFields) =
      .ok f.action := by
    refine Schema.required_ofTexts (v := .int f.action.number) rfl ?_
    rw [UserAction.ofValue, Schema.integer]
    dsimp only
    rw [UserAction.ofNumber?_number]
  have hlatency : Schema.withDefault none (Schema.optional Schema.real) ["latency"]
      (ofTexts f.suggestionFields) = .ok f.latency :=
    Schema.withDefault_optional_ofTexts .float (fun _ _ => rfl) (by simp [hfind]) nofun
  have hactionTime : Schema.withDefault none (Schema.optional Schema.real)
      ["userActionTime", "user_action_time"] (ofTexts f.suggestionFields) = .ok f.actionTime :=
    Schema.withDefault_optional_ofTexts .float (fun _ _ => rfl) (by simp [hfind])
      (List.forall_mem_singleton.mpr (by simp [hfind]))
  have hdocument : Schema.withDefault none (Schema.optional Schema.text)
      ["documentUri", "document_uri"] (ofTexts f.suggestionFields) = .ok f.documentUri :=
    Schema.withDefault_optional_ofTexts .str (fun _ _ => rfl) (by simp [hfind])
      (List.forall_mem_singleton.mpr (by simp [hfind]))
  have hactivity : Schema.withDefault none (Schema.optional Schema.text)
      ["activityId", "activity_id"] (ofTexts f.suggestionFields) = .ok f.activityId :=
    Schema.withDefault_optional_ofTexts .str (fun _ _ => rfl) (by simp [hfind])
      (List.forall_mem_singleton.mpr (by simp [hfind]))
  have herror : Schema.withDefault none (Schema.optional Schema.text) ["error"]
      (ofTexts f.suggestionFields) = .ok f.error :=
    Schema.withDefault_optional_ofTexts .str (fun _ _ => rfl) (by simp [hfind]) nofun
  rw [ofSuggestion, Value.content_map, toSuggestion_eq]
  dsimp only
  rw [hsuggestion, haction, hlatency, hactionTime, hdocument, hactivity, herror]

/-- A report is read back from what is sent. -/
theorem ofValue_toPayload (f : Feedback) : ofValue (.map f.toPayload) = .ok f := by
  rw [ofValue, Value.content_map]
  exact Schema.required_ofTexts rfl f.ofSuggestion_toSuggestion

end Feedback

/-! ## Requests and reports -/

/-- A request whose context is JSON is sent if and only if every key of a mapping inside the context
    has a UTF-8 form and the context is nested no deeper than plain data may be; what is sent of it is
    read back as the request exactly if the keys of the context itself have UTF-8 forms, and otherwise
    as the request with replacement characters in them. What is sent of a report, in which the action
    is a number, is read back as the report. -/
theorem payloads_read_back (r : CompletionRequest) (f : Feedback) (h : r.HasJson) :
    ((∃ payload, r.toPayload = .ok payload) ↔ r.IsSendable) ∧
      (∀ payload, r.toPayload = .ok payload →
        CompletionRequest.ofValue (.map payload) = .ok r.asSent ∧
          (CompletionRequest.ofValue (.map payload) = .ok r ↔ r.IsFaithful)) ∧
      f.toSuggestion.find? "action" = some (.int f.action.number) ∧
      Feedback.ofValue (.map f.toPayload) = .ok f := by
  -- one lemma says when there is a payload and what it is, both parts read it off
  have hsent (payload : Mapping) : r.toPayload = .ok payload ↔ _ :=
    CompletionRequest.toPayload_eq_ok_iff h
  refine ⟨⟨?_, fun hcan => ⟨_, (hsent _).mpr ⟨hcan, rfl⟩⟩⟩, ?_, rfl, f.ofValue_toPayload⟩
  · rintro ⟨payload, hpayload⟩
    exact ((hsent payload).mp hpayload).1
  · intro payload hpayload
    rw [((hsent payload).mp hpayload).2, r.ofValue_written_asSent]
    refine ⟨rfl, ?_⟩
    rw [Except.ok.injEq, CompletionRequest.asSent_eq_self_iff h]

namespace CompletionRequest.Sample

/-- A request with a context. -/
def request (context : Table Value) : CompletionRequest :=
  { prompt := "p", suggestionId := "s", modelId := none
    metadata := some
      { documentId := "d", fileType := "t", activityId := "a", context := some context } }

/-- A context with a variable that is null and a list in a mapping. -/
def context : Table Value :=
  [("empty", .null), ("nested", .map (ofTexts [("list", .list [.bool false, .str "x"])]))]

theorem isSendable_context : (request context).IsSendable := by
  rintro _ ⟨⟩
  refine ⟨?_, by decide⟩
  have hlist : Value.IsJson Text.HasUtf8 (.list [.bool false, .str "x"]) :=
    .list (by simp [Value.IsJson.bool, Value.IsJson.str])
  have hmap : Value.IsJson Text.HasUtf8 (.map (ofTexts [("list", .list [.bool false, .str "x"])])) :=
    Value.isJson_map_iff.mpr ⟨by decide, List.forall_mem_singleton.mpr ⟨rfl, hlist⟩⟩
  exact List.forall_mem_cons.mpr ⟨.null, List.forall_mem_singleton.mpr hmap⟩

theorem isFaithful_context : (request context).IsFaithful := by
  rintro _ ⟨⟩
  exact List.forall_mem_cons.mpr ⟨rfl, List.forall_mem_singleton.mpr rfl⟩

/-- So many lists inside one another. -/
def lists : Nat → Value
  | 0 => .int 1
  | n + 1 => .list [lists n]

theorem isJson_lists {isKey : Text → Prop} (n : Nat) : (lists n).IsJson isKey := by
  induction n with
  | zero => exact .int 1
  | succ n ih => exact .list (List.forall_mem_singleton.mpr ih)

theorem height_lists (n : Nat) : (lists n).height = n := by
  induction n with
  | zero => rfl
  | succ n ih => rw [lists, Value.height, Value.heightAll, Value.heightAll, ih, Nat.max_zero]

/-- A report without times. -/
def report : Feedback :=
  { suggestionId := "s", action := .ignore, latency := none, actionTime := none
    documentUri := some "u", activityId := none, error := none }

end CompletionRequest.Sample

open CompletionRequest (Sample.request Sample.context Sample.report) in
theorem context_with_null_reads_back :
    (Sample.request Sample.context).HasJson ∧
      (∃ payload, (Sample.request Sample.context).toPayload = .ok payload ∧
        CompletionRequest.ofValue (.map payload) = .ok (Sample.request Sample.context)) ∧
      Feedback.ofValue (.map Sample.report.toPayload) = .ok Sample.report := by
  have hcan := CompletionRequest.Sample.isSendable_context
  have hjson : (Sample.request Sample.context).HasJson := by
    rintro _ ⟨⟩
    refine Value.isJson_map_iff.mpr ⟨by decide, fun p hp => ⟨trivial, ?_⟩⟩
    exact ((hcan _ rfl).1 p hp).mono fun _ _ => trivial
  obtain ⟨hsent, hread, -, hreport⟩ := payloads_read_back _ Sample.report hjson
  obtain ⟨payload, hpayload⟩ := hsent.mpr hcan
  have hsame := (hread payload hpayload).2.mpr CompletionRequest.Sample.isFaithful_context
  exact ⟨hjson, ⟨payload, hpayload, hsame⟩, hreport⟩

open CompletionRequest (Sample.request Sample.lists) in
/-- A context with one list too many inside one another is not sent. One with an unpaired surrogate in
    a key is sent, and is another one when it is read. -/
theorem json_context_not_sent :
    (Sample.request [("k", Sample.lists 255)]).HasJson ∧
      (∀ payload, (Sample.request [("k", Sample.lists 255)]).toPayload ≠ .ok payload) ∧
      (Sample.request [([Surrogate.standIn 0xd800], .null)]).HasJson ∧
      ∃ payload, (Sample.request [([Surrogate.standIn 0xd800], .null)]).toPayload = .ok payload ∧
        CompletionRequest.ofValue (.map payload) =
          .ok (Sample.request [(['\ufffd', '\ufffd', '\ufffd'], .null)]) := by
  -- Both contexts are JSON: one is too deep, the other has a key that is no text.
  have hdeep : (Sample.request [("k", Sample.lists 255)]).HasJson := by
    rintro _ ⟨⟩
    exact Value.isJson_map_iff.mpr ⟨by decide, List.forall_mem_singleton.mpr
      ⟨trivial, CompletionRequest.Sample.isJson_lists 255⟩⟩
  have hunpaired : (Sample.request [([Surrogate.standIn 0xd800], .null)]).HasJson := by
    rintro _ ⟨⟩
    exact Value.isJson_map_iff.mpr ⟨by decide, List.forall_mem_singleton.mpr ⟨trivial, .null⟩⟩
  refine ⟨hdeep, fun payload hsent => ?_, hunpaired, _,
    (CompletionRequest.toPayload_eq_ok_iff hunpaired).mpr ⟨?_, rfl⟩,
    CompletionRequest.ofValue_written_asSent _⟩
  -- The depth of the lists is what stands in the way of the first.
  · obtain ⟨-, hheight⟩ :=
      ((CompletionRequest.toPayload_eq_ok_iff hdeep).mp hsent).1 _ rfl
    rw [Value.height, Value.heightPairs_le_iff, List.forall_mem_singleton,
      CompletionRequest.Sample.height_lists] at hheight
    exact absurd hheight (by decide)
  -- The second is sent, with its key replaced.
  · rintro _ ⟨⟩
    exact ⟨List.forall_mem_singleton.mpr .null, by decide⟩

end PlaybookAssist
