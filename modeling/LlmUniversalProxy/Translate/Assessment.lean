import LlmUniversalProxy.Server.ModelSurface
import LlmUniversalProxy.Translate.Media
import LlmUniversalProxy.Translate.ToolIdentity

/-!
# `Translate.Assessment` — what is held against a request before it is translated

An assessment is a list of issues in the order they were found; the first one that rejects decides.
A request is held against the surface of its model first: the media it carries, the audio it asks
for, the parallel calls it insists on. Then come the checks every request goes through, and then, for
a client and an upstream that do not speak the same format, those about the pair of formats.

The checks about a pair of formats are left open here, since most results hold whatever they say.
`Translate.PairAssessment` has them. The source is `translate/internal/assessment.rs` 47-79 and
1380-1856, with the frame of 2541-2824.
-/

set_option autoImplicit false

namespace LlmUniversalProxy.Translate

open Json Lib
open Server (ModelModality ModelSurface)

/-! ## Issues -/

/-- `TranslationIssue`, with its level. -/
inductive TranslationIssue where
  | warning (message : String)
  | reject (message : String)
  deriving DecidableEq, Repr

/-- `TranslationDecision`. -/
inductive TranslationDecision where
  | allow
  | allowWithWarnings (warnings : List String)
  | reject (message : String)
  deriving DecidableEq, Repr

/-- The loop of `TranslationAssessment::decision`; `warnings` are those so far. -/
def decisionFrom (warnings : List String) : List TranslationIssue → TranslationDecision
  | [] => if warnings = [] then .allow else .allowWithWarnings warnings
  | .reject message :: _ => .reject message
  | .warning message :: issues => decisionFrom (warnings ++ [message]) issues

/-- `TranslationAssessment::decision`. -/
def decision (issues : List TranslationIssue) : TranslationDecision := decisionFrom [] issues

/-- Something was held against the request that rejects it. -/
def Rejects (issues : List TranslationIssue) : Prop := ∃ message, .reject message ∈ issues

theorem decisionFrom_reject {warnings : List String} {issues : List TranslationIssue} :
    (∃ message, decisionFrom warnings issues = .reject message) ↔ Rejects issues := by
  induction issues generalizing warnings with
  | nil =>
    constructor
    · rintro ⟨message, h⟩
      simp only [decisionFrom] at h
      split at h <;> cases h
    · rintro ⟨message, h⟩
      cases h
  | cons issue issues ih =>
    cases issue with
    | reject message => exact ⟨fun _ => ⟨message, List.mem_cons_self⟩, fun _ => ⟨message, rfl⟩⟩
    | warning text =>
      rw [decisionFrom, ih]
      constructor
      · rintro ⟨message, h⟩
        exact ⟨message, List.mem_cons_of_mem _ h⟩
      · rintro ⟨message, h⟩
        rcases List.mem_cons.mp h with h | h
        · cases h
        · exact ⟨message, h⟩

theorem decision_reject {issues : List TranslationIssue} :
    (∃ message, decision issues = .reject message) ↔ Rejects issues := decisionFrom_reject

theorem rejects_append {left right : List TranslationIssue} :
    Rejects (left ++ right) ↔ Rejects left ∨ Rejects right := by
  simp only [Rejects, List.mem_append]
  exact exists_or

theorem not_rejects_nil : ¬ Rejects [] := fun ⟨_, h⟩ => (nomatch h)

/-- Entries that are each held against the request reject it when there is one. -/
theorem rejects_map {α : Type} {entries : List α} {message : α → String} :
    Rejects (entries.map fun entry => .reject (message entry)) ↔ ∃ entry, entry ∈ entries := by
  constructor
  · rintro ⟨text, h⟩
    obtain ⟨entry, hentry, _⟩ := List.mem_map.mp h
    exact ⟨entry, hentry⟩
  · rintro ⟨entry, hentry⟩
    exact ⟨message entry, List.mem_map.mpr ⟨entry, hentry, rfl⟩⟩

/-! ## The media of a request -/

/-- The media that a MIME type stands for. -/
def modalityOfMimeType (mimeType : String) : ModelModality :=
  if Text.startsWith mimeType "text/" then .text
  else if Text.startsWith mimeType "image/" then .image
  else if Text.startsWith mimeType "audio/" then .audio
  else if Text.startsWith mimeType "video/" then .video
  else if mimeType = "application/pdf" then .pdf
  else .file

/-- `mime_type_to_input_modality`, which brings the type into the form of `normalized_mime_type`
by itself. -/
def mimeTypeToInputModality (mimeType : String) : Option ModelModality :=
  (normalizedMimeType mimeType).map modalityOfMimeType

/-- `openai_file_part_modality`. -/
def openaiFilePartModality (part : Value) : ModelModality :=
  match openaiFilePartResolvedMimeType part with
  | .ok (some mimeType) => (mimeTypeToInputModality mimeType).getD .file
  | _ => .file

/-- `insert_input_modality`: text is no medium. -/
def inputModality (modality : ModelModality) : List ModelModality :=
  if modality = .text then [] else [modality]

/-- `openai_collect_input_part_modalities`. -/
def openaiInputPartModalities (part : Value) : List ModelModality :=
  match part.getStr "type" with
  | some "image_url" | some "input_image" => [.image]
  | some "input_audio" => [.audio]
  | some "file" | some "input_file" => inputModality (openaiFilePartModality part)
  | _ => []

/-- `openai_assistant_history_audio_present`. -/
def openaiAssistantHistoryAudioPresent (body : Value) : Bool :=
  ((body.getArray "messages").getD []).any fun message =>
    message.getStr "role" = some "assistant" && (message.get "audio").any fun audio => !audio.isNull

/-- `openai_collect_completion_message_input_modalities`. -/
def openaiCompletionMessageInputModalities (message : Value) : List ModelModality :=
  (if (message.get "audio").any fun audio => !audio.isNull then [.audio] else []) ++
    ((message.getArray "content").getD []).flatMap openaiInputPartModalities

/-- `openai_collect_completion_input_modalities`. -/
def openaiCompletionInputModalities (body : Value) : List ModelModality :=
  (if openaiAssistantHistoryAudioPresent body then [.audio] else []) ++
    ((body.getArray "messages").getD []).flatMap openaiCompletionMessageInputModalities

/-- `responses_input_item_type`: an item with a role and no type is a message. -/
def responsesInputItemType (item : Value) : Option String :=
  (item.getStr "type").or ((item.getStr "role").map fun _ => "message")

/-- `openai_collect_responses_input_item_modalities`. -/
def openaiResponsesInputItemModalities (item : Value) : List ModelModality :=
  openaiInputPartModalities item ++
    match responsesInputItemType item with
    | some "message" => ((item.getArray "content").getD []).flatMap openaiInputPartModalities
    | some "output_audio" => [.audio]
    | _ => []

/-- `openai_collect_responses_input_modalities`. -/
def openaiResponsesInputModalities (body : Value) : List ModelModality :=
  ((body.getArray "input").getD []).flatMap openaiResponsesInputItemModalities

/-- `anthropic_collect_block_input_modalities` (`translate/internal/assessment.rs` 1590-1618). -/
def anthropicBlockInputModalities (block : Value) : List ModelModality :=
  let sourceModality :=
    ((block.get "source").bind (Value.getStr · "media_type")).bind mimeTypeToInputModality
  match block.getStr "type" with
  | some "image" => [.image]
  | some "audio" => [.audio]
  | some "document" =>
      inputModality ((sourceModality.filter fun modality => modality = .pdf).getD .file)
  | _ =>
      match sourceModality with
      | some modality => inputModality modality
      | none => []

/-- The parts of a content: those of a list, or a single object. -/
def contentParts : Option Value → List Value
  | some (.array parts) => parts
  | some (.object fields) => [.object fields]
  | _ => []

/-- `anthropic_collect_content_input_modalities`. -/
def anthropicContentInputModalities (content : Option Value) : List ModelModality :=
  (contentParts content).flatMap anthropicBlockInputModalities

/-- `anthropic_collect_request_input_modalities`. -/
def anthropicRequestInputModalities (body : Value) : List ModelModality :=
  anthropicContentInputModalities (body.get "system") ++
    ((body.getArray "messages").getD []).flatMap fun message =>
      anthropicContentInputModalities (message.get "content")

/-- The media that are found in a request, in the order they are found. -/
def foundInputModalities : UpstreamFormat → Value → List ModelModality
  | .openAiChatCompletions, body => openaiCompletionInputModalities body
  | .openAiResponses, body => openaiResponsesInputModalities body
  | .anthropic, body => anthropicRequestInputModalities body

/-- `request_input_modalities`: each of them once, in the order of a `BTreeSet`. -/
def requestInputModalities (clientFormat : UpstreamFormat) (body : Value) : List ModelModality :=
  ModelModality.all.filter fun modality => modality ∈ foundInputModalities clientFormat body

theorem mem_requestInputModalities {clientFormat : UpstreamFormat} {body : Value}
    {modality : ModelModality} :
    modality ∈ requestInputModalities clientFormat body ↔
      modality ∈ foundInputModalities clientFormat body := by
  simp [requestInputModalities, modality.mem_all]

/-- `request_output_modalities` (`translate/internal/assessment.rs` 1731-1743): the audio that a
request of OpenAI asks for. -/
def requestOutputModalities : UpstreamFormat → Value → List ModelModality
  | .anthropic, _ => []
  | _, body =>
      if (body.get "audio").isSome || ((body.getArray "modalities").getD []).any fun requested =>
          requested.asStr.any fun requested => Text.eqIgnoreAsciiCase requested "audio" then
        [.audio]
      else []

/-! ## The surface of the model -/

/-- `surface_allows_modality`: what takes files takes a PDF. -/
def surfaceAllowsModality (allowed : Option (List ModelModality)) (modality : ModelModality) :
    Bool :=
  match allowed with
  | none => true
  | some allowed => modality ∈ allowed || (modality = .pdf && .file ∈ allowed)

/-- `request_has_surface_tooling`, the same for every format. -/
def requestHasSurfaceTooling (body : Value) : Bool :=
  (body.getArray "tools").any fun tools => !tools.isEmpty

/-- `tool_choice.disable_parallel_tool_use`, where there is one that says yes or no. -/
def disableParallelToolUse (body : Value) : Option Bool :=
  (((body.get "tool_choice").bind (Value.get · "disable_parallel_tool_use"))).bind Value.asBool

/-- `request_explicitly_enables_parallel_tool_calls`. -/
def requestExplicitlyEnablesParallelToolCalls : UpstreamFormat → Value → Bool
  | .anthropic, body => disableParallelToolUse body = some false
  | _, body => (body.get "parallel_tool_calls").bind Value.asBool = some true

/-- `assess_surface_request_policy` (`translate/internal/assessment.rs` 1380-1431). -/
def assessSurfaceRequestPolicy (clientFormat : UpstreamFormat) (body : Value)
    (surface : ModelSurface) : List TranslationIssue :=
  (if surface.disablesParallelToolCalls && requestHasSurfaceTooling body &&
      requestExplicitlyEnablesParallelToolCalls clientFormat body then
    [.reject <| "request explicitly enables parallel tool execution " ++
      "(`parallel_tool_calls=true` or `tool_choice.disable_parallel_tool_use=false`), but model " ++
      "surface `tools.supports_parallel_calls=false`"]
  else []) ++
  -- one rejection for each medium; the first is the one that is told
  ((requestInputModalities clientFormat body).filter fun modality =>
      !surfaceAllowsModality surface.inputModalities modality).map (fun modality =>
    .reject <| s!"request uses {modality.label} input, but model surface `modalities.input` does " ++
      s!"not include `{modality.label}`") ++
  ((requestOutputModalities clientFormat body).filter fun modality =>
      !surfaceAllowsModality surface.outputModalities modality).map fun modality =>
    .reject <| s!"request asks for {modality.label} output, but model surface " ++
      s!"`modalities.output` does not include `{modality.label}`"

/-! ## The checks for every request -/

/-- `openai_input_part_file_mime_conflict_message`. -/
def openaiInputPartFileMimeConflictMessage (part : Value) : Option String :=
  match part.getStr "type" with
  | some "file" | some "input_file" => openaiFilePartMimeConflictMessage part
  | _ => none

/-- `openai_content_file_mime_conflict_message`. -/
def openaiContentFileMimeConflictMessage (content : Option Value) : Option String :=
  (contentParts content).findSome? openaiInputPartFileMimeConflictMessage

/-- `openai_responses_input_item_file_mime_conflict_message`. -/
def openaiResponsesInputItemFileMimeConflictMessage (item : Value) : Option String :=
  (openaiInputPartFileMimeConflictMessage item).or
    (if responsesInputItemType item = some "message" then
      openaiContentFileMimeConflictMessage (item.get "content")
    else none)

/-- `openai_request_file_mime_conflict_message` (`translate/internal/assessment.rs` 1482-1491). -/
def openaiRequestFileMimeConflictMessage : UpstreamFormat → Value → Option String
  | .openAiChatCompletions, body =>
      ((body.getArray "messages").getD []).findSome? fun message =>
        openaiContentFileMimeConflictMessage (message.get "content")
  | .openAiResponses, body =>
      ((body.getArray "input").getD []).findSome? openaiResponsesInputItemFileMimeConflictMessage
  | .anthropic, _ => none

/-- `openai_family_format`. -/
def openaiFamilyFormat (format : UpstreamFormat) : Bool := format ≠ .anthropic

/-- `openai_extra_body_anthropic_cache_control_present`. -/
def openaiExtraBodyAnthropicCacheControlPresent (body : Value) : Bool :=
  (((body.get "extra_body").bind (Value.get · "anthropic")).bind
    (Value.get · "cache_control")).isSome

/-- `anthropic_extra_body_openai_prompt_cache_controls_present`. -/
def anthropicExtraBodyOpenaiPromptCacheControlsPresent (body : Value) : Bool :=
  ((body.get "extra_body").bind (Value.get · "openai")).any fun openai =>
    (openai.get "prompt_cache_key").isSome || (openai.get "prompt_cache_retention").isSome

/-- `assess_prompt_cache_extension_target_mismatch` (`translate/internal/assessment.rs` 54-79). -/
def assessPromptCacheExtensionTargetMismatch (clientFormat upstreamFormat : UpstreamFormat)
    (body : Value) : List TranslationIssue :=
  (if openaiFamilyFormat clientFormat && upstreamFormat ≠ .anthropic &&
      openaiExtraBodyAnthropicCacheControlPresent body then
    [.reject <| "extra_body.anthropic.cache_control is an explicit Anthropic prompt-cache " ++
      s!"control and cannot be forwarded to {translationTargetLabel upstreamFormat}; target " ++
      "Anthropic is required"]
  else []) ++
  (if clientFormat = .anthropic && !openaiFamilyFormat upstreamFormat &&
      anthropicExtraBodyOpenaiPromptCacheControlsPresent body then
    [.reject <| "extra_body.openai prompt-cache controls are explicit OpenAI prompt-cache " ++
      s!"controls and cannot be forwarded to {translationTargetLabel upstreamFormat}; target " ++
      "OpenAI is required"]
  else [])

/-! ## The whole assessment -/

/-- The leading digits of a minor version name a number of 32 bits that is at least seven. -/
def minorVersionIsAtLeastSeven (rest : List Char) : Bool :=
  let digits := rest.takeWhile Char.isDigit
  let minor := digits.foldl (fun n digit => n * 10 + (digit.toNat - 48)) 0
  !digits.isEmpty && 7 ≤ minor && minor < 4294967296

/-- `anthropic_upstream_rejects_nondefault_sampling`. -/
def anthropicUpstreamRejectsNondefaultSampling (resolvedUpstreamModel : String) : Bool :=
  let model := Text.trim resolvedUpstreamModel
  match Text.stripPrefix model "claude-opus-4-" with
  | some rest => minorVersionIsAtLeastSeven rest.toList
  | none => Text.startsWith model "claude-sonnet-5" || Text.startsWith model "claude-fable-5" ||
      Text.startsWith model "claude-opus-5"

/-- `openai_sampling_field_is_nondefault`; the default is `1.0`. -/
def openaiSamplingFieldIsNondefault : Option Value → Bool
  | some (.number number) => number ≠ .posInt 1 && number ≠ .float "1.0"
  | _ => false

/-- `assess_anthropic_nondefault_sampling_withhold` (`translate/internal/assessment.rs` 1793-1809).
-/
def assessAnthropicNondefaultSamplingWithhold (clientFormat upstreamFormat : UpstreamFormat)
    (body : Value) (resolvedUpstreamModel : String) : List TranslationIssue :=
  if openaiFamilyFormat clientFormat && upstreamFormat = .anthropic &&
      anthropicUpstreamRejectsNondefaultSampling resolvedUpstreamModel then
    (["temperature", "top_p"].filter fun field =>
        openaiSamplingFieldIsNondefault (body.get field)).map fun field =>
      .warning <| s!"{translationTargetLabel clientFormat} sampling control `{field}` is not " ++
        "accepted by the resolved Anthropic upstream model and will be withheld to avoid a 400 " ++
        "response"
  else []

/-- The checks about two formats that differ: of the client, of the upstream, over a body, with a
dialect that maps reasoning efforts or does not. -/
abbrev PairAssessment := UpstreamFormat → UpstreamFormat → Value → Bool → List TranslationIssue

section

variable (assessPair : PairAssessment)

/-- `assess_request_translation_with_dialect`. -/
def assessRequestTranslationWithDialect (clientFormat upstreamFormat : UpstreamFormat)
    (body : Value) (reasoningMapped : Bool) : List TranslationIssue :=
  (openaiRequestFileMimeConflictMessage clientFormat body).toList.map .reject ++
    assessPromptCacheExtensionTargetMismatch clientFormat upstreamFormat body ++
    if clientFormat = upstreamFormat then []
    else assessPair clientFormat upstreamFormat body reasoningMapped

/-- `assess_request_translation_with_surface` (`translate/internal/assessment.rs` 1764-1786). -/
def assessRequestTranslationWithSurface (clientFormat upstreamFormat : UpstreamFormat)
    (body : Value) (surface : ModelSurface) (resolvedUpstreamModel : String)
    (reasoningMapped : Bool) : List TranslationIssue :=
  assessSurfaceRequestPolicy clientFormat body surface ++
    assessRequestTranslationWithDialect assessPair clientFormat upstreamFormat body
      reasoningMapped ++
    assessAnthropicNondefaultSamplingWithhold clientFormat upstreamFormat body resolvedUpstreamModel

theorem not_rejects_sampling (clientFormat upstreamFormat : UpstreamFormat) (body : Value)
    (resolvedUpstreamModel : String) :
    ¬ Rejects (assessAnthropicNondefaultSamplingWithhold clientFormat upstreamFormat body
      resolvedUpstreamModel) := by
  unfold assessAnthropicNondefaultSamplingWithhold
  split
  · rintro ⟨message, h⟩
    obtain ⟨field, _, h⟩ := List.mem_map.mp h
    cases h
  · exact not_rejects_nil

/-- What rejects a request is what it asks of the surface, or what is wrong with it anyway. -/
theorem rejects_withSurface {clientFormat upstreamFormat : UpstreamFormat} {body : Value}
    {surface : ModelSurface} {resolvedUpstreamModel : String} {reasoningMapped : Bool} :
    Rejects (assessRequestTranslationWithSurface assessPair clientFormat upstreamFormat body surface
        resolvedUpstreamModel reasoningMapped) ↔
      Rejects (assessSurfaceRequestPolicy clientFormat body surface) ∨
        Rejects (assessRequestTranslationWithDialect assessPair clientFormat upstreamFormat body
          reasoningMapped) := by
  unfold assessRequestTranslationWithSurface
  rw [rejects_append, rejects_append]
  exact or_iff_left (not_rejects_sampling clientFormat upstreamFormat body resolvedUpstreamModel)

/-- Between equal formats neither the dialect nor the checks about a pair make a difference. -/
theorem withDialect_same (format : UpstreamFormat) (body : Value) (reasoningMapped : Bool) :
    assessRequestTranslationWithDialect assessPair format format body reasoningMapped =
      (openaiRequestFileMimeConflictMessage format body).toList.map .reject ++
        assessPromptCacheExtensionTargetMismatch format format body := by
  unfold assessRequestTranslationWithDialect
  rw [if_pos rfl, List.append_nil]

end

end LlmUniversalProxy.Translate
