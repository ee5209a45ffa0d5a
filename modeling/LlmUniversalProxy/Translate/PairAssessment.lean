import LlmUniversalProxy.Translate.AnthropicAssessment
import LlmUniversalProxy.Translate.ResponsesAssessment

/-!
# `Translate.PairAssessment` — what is held against a request between two formats

`Translate.Assessment` leaves the checks about two formats that differ open. Here they are put
together, in the order of `assess_request_translation_with_dialect`
(`translate/internal/assessment.rs` 2541-2824): those about prompt caching, the one candidate that a
translation is for, the checks of a client of Responses, `store`, the audio of Chat, the checks of a
client of Anthropic, and last, for an upstream of Anthropic, custom tools and the arguments of earlier
calls.

Most of what is held against a request is only a warning. `RefusedAnyway` lists the grounds on which
a request is rejected, each as a fact about the body, and `rejects_withDialect_iff` says that there
are no others. The dialect of the upstream is not among them: it takes warnings away and nothing
else.
-/

set_option autoImplicit false

namespace LlmUniversalProxy.Translate

open Json Lib
open Server (responsesStatefulRequestControls providerStateControlEnabled)

/-! ## Any two formats -/

/-- `cross_protocol_requested_choice_count_message`. -/
def crossProtocolRequestedChoiceCountMessage (clientFormat upstreamFormat : UpstreamFormat)
    (body : Value) : Option String :=
  if clientFormat ≠ .openAiChatCompletions then none
  else ((body.getU64 "n").filter fun count => 1 < count).map fun count =>
    singleCandidateChoiceContractMessage (translationTargetLabel clientFormat)
      (translationTargetLabel upstreamFormat) "n" count

/-- `cross_protocol_store_reject_message`. -/
def crossProtocolStoreRejectMessage (clientFormat upstreamFormat : UpstreamFormat) : String :=
  s!"{translationTargetLabel clientFormat} request field `store` is an enabled provider " ++
    s!"persistence/storage request and cannot be translated to " ++
    s!"{translationTargetLabel upstreamFormat}; same-wire provider-native handling is required"

/-! ## Audio of Chat -/

/-- `NormalizedOpenAiAudioContract`. -/
structure NormalizedOpenAiAudioContract where
  responseModalities : List String
  voiceName : Option String

/-- The modalities that a request of Chat asks for. -/
def requestedModalities (body : Value) : List String :=
  ((((body.getArray "modalities").getD []).filterMap Value.asStr).map fun item =>
    Text.asciiLower (Text.trim item)).filter fun item => !item.isEmpty

/-- The voice of an `audio` object. -/
def audioVoiceName (audio : Value) : Except String (Option String) :=
  let notAName : Except String (Option String) :=
    .error <| "OpenAI Chat audio voice must be a non-empty string for portable cross-protocol " ++
      "audio translation."
  match audio.get "voice" with
  | none => .ok none
  | some (.string voice) => if Text.isBlank voice then notAName else .ok (some voice)
  | some (.object fields) =>
      .error <| "OpenAI Chat audio voice `" ++ ((Value.object fields).getStr "id").getD "" ++
        "` is outside the portable cross-protocol audio subset."
  | some _ => notAName

/-- `normalized_openai_audio_contract` (`translate/internal/assessment.rs` 311-387). -/
def normalizedOpenaiAudioContract (body : Value) :
    Except String (Option NormalizedOpenAiAudioContract) :=
  let modalities := requestedModalities body
  let withoutAudio : Except String (Option NormalizedOpenAiAudioContract) :=
    .error "OpenAI Chat audio output requests require `modalities` to include `audio`."
  if "audio" ∉ modalities && (body.get "audio").isNone then .ok none
  else
    match (body.get "audio").filter Value.isObject with
    | none => .error "OpenAI Chat audio output requests require a top-level `audio` object."
    | some audio =>
      if !modalities.isEmpty && "audio" ∉ modalities then withoutAudio
      else
        match audio.getStr "format" with
        | some format => .error <| s!"OpenAI Chat audio field `audio.format` value `{format}` is " ++
            "outside the portable cross-protocol audio subset."
        | none =>
          (audioVoiceName audio).bind fun voiceName =>
            let normalizedModalities := if modalities.isEmpty then ["audio"]
              else modalities.filter fun item => item = "text" || item = "audio"
            if normalizedModalities.isEmpty then withoutAudio
            else .ok (some ⟨normalizedModalities, voiceName⟩)

/-- What is held against the audio that a request of Chat asks for: audio that is asked for in a
portable way cannot be translated either. -/
def openaiRequestAudioMessage (body : Value) (targetLabel : String) : Option String :=
  match normalizedOpenaiAudioContract body with
  | .error message => some message
  | .ok (some _) => some <| "OpenAI Chat audio output intent cannot be faithfully translated to " ++
      targetLabel
  | .ok none => none

/-- `openai_assistant_audio_history_not_portable_message`. -/
def openaiAssistantAudioHistoryNotPortableMessage (targetLabel : String) : String :=
  "OpenAI assistant history field `messages[].audio` cannot be faithfully translated to " ++
    targetLabel

/-! ## Controls of Chat -/

/-- `openai_to_responses_dropped_control_names`. -/
def openaiToResponsesDroppedControlNames (body : Value) : List String :=
  ["stop", "seed", "presence_penalty", "frequency_penalty", "logit_bias", "prediction",
    "web_search_options"].filter fun field => (body.get field).isSome

/-- `openai_to_anthropic_dropped_control_names`. -/
def openaiToAnthropicDroppedControlNames (body : Value) : List String :=
  ["seed", "presence_penalty", "frequency_penalty"].filter fun field => (body.get field).isSome

/-- `openai_warning_only_request_controls_for_translate` (`translate/internal/assessment.rs`
517-567). -/
def openaiWarningOnlyRequestControlsForTranslate (body : Value) (targetFormat : UpstreamFormat)
    (reasoningMapped : Bool) : List String :=
  let profile := sharedControlProfileForTarget targetFormat
  let has (field : String) : Bool := (body.get field).isSome
  controlIf (has "metadata" && !profile.metadata) "metadata" ++
  controlIf (has "user" && !profile.user) "user" ++
  controlIf (has "service_tier" && !profile.serviceTier) "service_tier" ++
  controlIf ((requestStreamIncludeObfuscation body).isSome && !profile.streamIncludeObfuscation)
    "stream_options.include_obfuscation" ++
  controlIf (has "verbosity" && !profile.verbosity) "verbosity" ++
  controlIf (has "reasoning_effort" && !profile.reasoningEffort && !reasoningMapped)
    "reasoning_effort" ++
  controlIf (has "prompt_cache_key" && !profile.promptCacheKey) "prompt_cache_key" ++
  controlIf (has "prompt_cache_retention" && !profile.promptCacheRetention)
    "prompt_cache_retention" ++
  controlIf (has "safety_identifier" && !profile.safetyIdentifier) "safety_identifier" ++
  controlIf ((body.get "logprobs").bind Value.asBool = some true && !profile.topLogprobs)
    "logprobs" ++
  controlIf (has "top_logprobs" && !profile.topLogprobs) "top_logprobs" ++
  controlIf (has "logit_bias" && !profile.logitBias) "logit_bias" ++
  -- no target has the last two
  controlIf (has "prediction") "prediction" ++
  controlIf (has "web_search_options") "web_search_options"

/-- The checks for a request of Chat to another format. -/
def assessChatRequest (upstreamFormat : UpstreamFormat) (body : Value) (reasoningMapped : Bool) :
    List TranslationIssue :=
  let targetLabel := translationTargetLabel upstreamFormat
  rejectFor (openaiRequestAudioMessage body targetLabel) ++
  (if openaiAssistantHistoryAudioPresent body then
    [.reject (openaiAssistantAudioHistoryNotPortableMessage targetLabel)] else []) ++
  match upstreamFormat with
  | .openAiResponses => warnAbout (openaiToResponsesDroppedControlNames body) fun quoted =>
      s!"OpenAI Chat Completions controls {quoted} have no direct OpenAI Responses equivalent in " ++
        "this translator and will be dropped"
  | _ => warnAbout (openaiToAnthropicDroppedControlNames body ++
        openaiWarningOnlyRequestControlsForTranslate body upstreamFormat reasoningMapped)
      fun quoted => s!"OpenAI Chat Completions controls {quoted} are not portable to Anthropic " ++
        "and will be dropped"

/-! ## Tools for an upstream of Anthropic -/

/-- `openai_tool_choice_contains_custom` (`translate/internal/assessment.rs` 684-708). -/
def openaiToolChoiceContainsCustom (value : Value) : Bool :=
  match value.getStr "type" with
  | some "custom" => (openaiNamedToolChoiceName value "custom").isSome
  | some "allowed_tools" =>
      ((((((value.get "allowed_tools").filter Value.isObject).bind (Value.get · "tools")).or
        (value.get "tools")).bind Value.asArray).getD []).any fun tool =>
          tool.getStr "type" = some "custom" && (openaiNamedToolChoiceName tool "custom").isSome
  | _ => false

section

variable (env : Env)

def isCustomTool (value : Value) : Bool := semanticToolKindFromValue env value = .openAiCustom

/-- `request_has_custom_tools` (`translate/internal/assessment.rs` 1255-1322). -/
def requestHasCustomTools (clientFormat : UpstreamFormat) (body : Value) : Bool :=
  match clientFormat with
  | .openAiChatCompletions =>
      (toolsOf body).any (isCustomTool env) ||
        (messagesOf body).any (fun message =>
          ((message.getArray "tool_calls").getD []).any (isCustomTool env)) ||
        (body.get "tool_choice").any openaiToolChoiceContainsCustom
  | .openAiResponses =>
      (toolsOf body).any (isCustomTool env) ||
        (inputItemsOf body).any (fun item =>
          isCustomTool env ((responsesToolCallItemToOpenaiToolCall env item).getD item)) ||
        (body.get "tool_choice").any openaiToolChoiceContainsCustom
  | .anthropic => false

/-- A call whose arguments have to be a JSON object. -/
def needsStructuredArguments (call : Value) : Bool :=
  !isCustomTool env call && !toolCallIsMarkedNonReplayable env call

/-- `request_invalid_structured_tool_arguments_message` (`translate/internal/assessment.rs`
1324-1378). -/
def requestInvalidStructuredToolArgumentsMessage (clientFormat : UpstreamFormat) (body : Value)
    (targetLabel : String) : Option String :=
  match clientFormat with
  | .openAiChatCompletions =>
      (messagesOf body).findSome? fun message =>
        ((message.getArray "tool_calls").getD []).findSome? fun toolCall =>
          if needsStructuredArguments env toolCall then
            errorText? (openaiToolArgumentsToStructuredValue env.serde toolCall targetLabel)
          else none
  | .openAiResponses =>
      (inputItemsOf body).findSome? fun item =>
        if ((item.getStr "type").any fun itemType =>
            itemType ∈ ["function_call", "custom_tool_call"]) &&
            needsStructuredArguments env item then
          errorText? (responsesToolCallToStructuredValue env item targetLabel)
        else none
  -- Anthropic's own calls have an object for their input
  | .anthropic => none

/-- The checks about tools for an upstream of Anthropic. The custom tools of Responses are bridged
there, those of Chat are not. -/
def assessToolsForAnthropic (clientFormat : UpstreamFormat) (body : Value) :
    List TranslationIssue :=
  (if requestHasCustomTools env clientFormat body && clientFormat ≠ .openAiResponses then
    [.reject (customToolsNotPortableMessage .anthropic)] else []) ++
  rejectFor (requestInvalidStructuredToolArgumentsMessage env clientFormat body
    (translationTargetLabel .anthropic))

/-! ## The checks about a pair -/

/-- The part of `assess_request_translation_with_dialect` behind the comparison of the formats. -/
def assessPair : PairAssessment := fun clientFormat upstreamFormat body reasoningMapped =>
  assessOpenaiFamilyPromptCacheExtensions clientFormat upstreamFormat body ++
  assessAnthropicPromptCacheExtensions clientFormat upstreamFormat body ++
  rejectFor (crossProtocolRequestedChoiceCountMessage clientFormat upstreamFormat body) ++
  (if clientFormat = .openAiResponses then
    assessResponsesRequest upstreamFormat body reasoningMapped else []) ++
  (if providerStateControlEnabled (body.get "store") then
    [.reject (crossProtocolStoreRejectMessage clientFormat upstreamFormat)] else []) ++
  (if clientFormat = .openAiChatCompletions then
    assessChatRequest upstreamFormat body reasoningMapped else []) ++
  (if clientFormat = .anthropic then assessAnthropicRequest upstreamFormat body else []) ++
  (if upstreamFormat = .anthropic then assessToolsForAnthropic env clientFormat body else [])

/-! ## Grounds for a rejection -/

/-- The grounds that two formats that differ add. -/
inductive PairRefused (clientFormat upstreamFormat : UpstreamFormat) (body : Value) : Prop
  | geminiCache (hclient : clientFormat ≠ .anthropic)
      (h : (openaiExtraBodyGoogleCachedContent body).isSome = true)
  | cacheForm {message : String} (hclient : clientFormat ≠ .anthropic)
      (hupstream : upstreamFormat = .anthropic)
      (hpresent : openaiExtraBodyAnthropicCacheControlPresent body = true)
      (h : validatedOpenaiExtraBodyAnthropicCacheControl body = .error message)
  | cacheOfBlocks (hclient : clientFormat ≠ .anthropic) (hupstream : upstreamFormat = .anthropic)
      (h : openaiKnownCacheControlPaths clientFormat body ≠ [])
  | openaiControls {message : String} (hclient : clientFormat = .anthropic)
      (h : validatedAnthropicExtraBodyOpenaiControls body = .error message)
  | candidates {count : Nat} (hclient : clientFormat = .openAiChatCompletions)
      (hcount : body.getU64 "n" = some count) (h : 1 < count)
  | store (h : providerStateControlEnabled (body.get "store") = true)
  | responses (hclient : clientFormat = .openAiResponses) (h : ResponsesRefused upstreamFormat body)
  | audio (hclient : clientFormat = .openAiChatCompletions)
      (h : (openaiRequestAudioMessage body (translationTargetLabel upstreamFormat)).isSome = true)
  | audioHistory (hclient : clientFormat = .openAiChatCompletions)
      (h : openaiAssistantHistoryAudioPresent body = true)
  | anthropic (hclient : clientFormat = .anthropic) (h : AnthropicRefused upstreamFormat body)
  | customTools (hclient : clientFormat ≠ .openAiResponses) (hupstream : upstreamFormat = .anthropic)
      (h : requestHasCustomTools env clientFormat body = true)
  | arguments (hupstream : upstreamFormat = .anthropic)
      (h : (requestInvalidStructuredToolArgumentsMessage env clientFormat body
        (translationTargetLabel .anthropic)).isSome = true)

/-- The grounds on which a request is rejected whatever its model takes. -/
inductive RefusedAnyway (clientFormat upstreamFormat : UpstreamFormat) (body : Value) : Prop
  | mimeConflict (h : (openaiRequestFileMimeConflictMessage clientFormat body).isSome = true)
  | cacheOfAnthropic (hclient : clientFormat ≠ .anthropic) (hupstream : upstreamFormat ≠ .anthropic)
      (h : openaiExtraBodyAnthropicCacheControlPresent body = true)
  | cacheOfOpenai (hclient : clientFormat = .anthropic) (hupstream : upstreamFormat = .anthropic)
      (h : anthropicExtraBodyOpenaiPromptCacheControlsPresent body = true)
  | pair (hne : clientFormat ≠ upstreamFormat)
      (h : PairRefused env clientFormat upstreamFormat body)

/-! ## There are no others -/

theorem openaiFamilyFormat_iff {format : UpstreamFormat} :
    openaiFamilyFormat format = true ↔ format ≠ .anthropic := decide_eq_true_iff

section

variable {clientFormat upstreamFormat : UpstreamFormat} {body : Value} {reasoningMapped : Bool}

theorem rejects_cacheTarget :
    Rejects (assessPromptCacheExtensionTargetMismatch clientFormat upstreamFormat body) ↔
      (clientFormat ≠ .anthropic ∧ upstreamFormat ≠ .anthropic ∧
        openaiExtraBodyAnthropicCacheControlPresent body = true) ∨
      (clientFormat = .anthropic ∧ upstreamFormat = .anthropic ∧
        anthropicExtraBodyOpenaiPromptCacheControlsPresent body = true) := by
  unfold assessPromptCacheExtensionTargetMismatch
  simp only [rejects_append, rejects_ite, rejects_singleton, and_true, Bool.and_eq_true,
    openaiFamilyFormat_iff, decide_eq_true_eq, Bool.not_eq_true', ← Bool.not_eq_true, not_not,
    and_assoc]

theorem rejects_openaiCache (hne : clientFormat ≠ upstreamFormat) :
    Rejects (assessOpenaiFamilyPromptCacheExtensions clientFormat upstreamFormat body) ↔
      clientFormat ≠ .anthropic ∧ ((openaiExtraBodyGoogleCachedContent body).isSome = true ∨
        upstreamFormat = .anthropic ∧ (openaiKnownCacheControlPaths clientFormat body ≠ [] ∨
          openaiExtraBodyAnthropicCacheControlPresent body = true ∧
            ∃ message, validatedOpenaiExtraBodyAnthropicCacheControl body = .error message)) := by
  unfold assessOpenaiFamilyPromptCacheExtensions
  simp only [rejects_append, rejects_ite, rejects_rejectError, rejects_singleton, and_true,
    Bool.and_eq_true, openaiFamilyFormat_iff, decide_eq_true_eq, hne, ne_eq, not_false_eq_true,
    Bool.not_eq_true', List.isEmpty_eq_false_iff]
  tauto

theorem rejects_anthropicCache (hne : clientFormat ≠ upstreamFormat) :
    Rejects (assessAnthropicPromptCacheExtensions clientFormat upstreamFormat body) ↔
      clientFormat = .anthropic ∧
        ∃ message, validatedAnthropicExtraBodyOpenaiControls body = .error message := by
  unfold assessAnthropicPromptCacheExtensions
  simp only [rejects_ite, rejects_rejectError, Bool.and_eq_true, openaiFamilyFormat_iff,
    decide_eq_true_eq]
  constructor
  · exact fun h => ⟨h.1.1, h.2⟩
  · exact fun h => ⟨⟨h.1, fun hupstream => hne (h.1.trans hupstream.symm)⟩, h.2⟩

theorem choiceCountMessage_isSome :
    (crossProtocolRequestedChoiceCountMessage clientFormat upstreamFormat body).isSome = true ↔
      clientFormat = .openAiChatCompletions ∧
        ∃ count, body.getU64 "n" = some count ∧ 1 < count := by
  unfold crossProtocolRequestedChoiceCountMessage
  split
  · next hclient => exact ⟨fun h => (nomatch h), fun h => absurd h.1 hclient⟩
  · next hclient =>
    simp [not_not.mp hclient, Option.any_eq_true]

theorem rejects_chatRequest :
    Rejects (assessChatRequest upstreamFormat body reasoningMapped) ↔
      (openaiRequestAudioMessage body (translationTargetLabel upstreamFormat)).isSome = true ∨
        openaiAssistantHistoryAudioPresent body = true := by
  unfold assessChatRequest
  cases upstreamFormat <;>
    simp only [rejects_append, rejects_rejectFor, rejects_ite, rejects_singleton,
      not_rejects_warnAbout, and_true, or_false]

theorem rejects_toolsForAnthropic :
    Rejects (assessToolsForAnthropic env clientFormat body) ↔
      (clientFormat ≠ .openAiResponses ∧ requestHasCustomTools env clientFormat body = true) ∨
        (requestInvalidStructuredToolArgumentsMessage env clientFormat body
          (translationTargetLabel .anthropic)).isSome = true := by
  unfold assessToolsForAnthropic
  rw [rejects_append, rejects_ite, rejects_rejectFor, Bool.and_eq_true, decide_eq_true_eq]
  exact or_congr_left ⟨fun h => h.1.symm, fun h => ⟨h.symm, rejects_singleton⟩⟩

theorem rejects_assessPair_iff (hne : clientFormat ≠ upstreamFormat) :
    Rejects (assessPair env clientFormat upstreamFormat body reasoningMapped) ↔
      PairRefused env clientFormat upstreamFormat body := by
  unfold assessPair
  simp only [rejects_append, rejects_ite, rejects_rejectFor, rejects_singleton, and_true,
    rejects_openaiCache hne, rejects_anthropicCache hne, choiceCountMessage_isSome,
    rejects_responsesRequest, rejects_chatRequest, rejects_anthropicRequest,
    rejects_toolsForAnthropic]
  constructor
  · rintro (((((((⟨hclient, h | ⟨hupstream, h | ⟨hpresent, _, h⟩⟩⟩ | ⟨hclient, _, h⟩) |
      ⟨hclient, _, hcount, h⟩) | ⟨hclient, h⟩) | h) | ⟨hclient, h | h⟩) | ⟨hclient, h⟩) |
      ⟨hupstream, ⟨hclient, h⟩ | h⟩)
    exacts [.geminiCache hclient h, .cacheOfBlocks hclient hupstream h,
      .cacheForm hclient hupstream hpresent h, .openaiControls hclient h,
      .candidates hclient hcount h, .responses hclient h, .store h, .audio hclient h,
      .audioHistory hclient h, .anthropic hclient h, .customTools hclient hupstream h,
      .arguments hupstream h]
  · intro h
    cases h <;> simp_all

/-- A request is rejected on no other grounds than these, and the dialect of the upstream is none of
them. -/
theorem rejects_withDialect_iff :
    Rejects (assessRequestTranslationWithDialect (assessPair env) clientFormat upstreamFormat body
      reasoningMapped) ↔ RefusedAnyway env clientFormat upstreamFormat body := by
  unfold assessRequestTranslationWithDialect
  rw [rejects_append, rejects_append, rejects_cacheTarget, rejects_unless]
  constructor
  · rintro ((h | ⟨hclient, hupstream, h⟩ | ⟨hclient, hupstream, h⟩) | ⟨hne, h⟩)
    · exact .mimeConflict (rejects_rejectFor.mp h)
    · exact .cacheOfAnthropic hclient hupstream h
    · exact .cacheOfOpenai hclient hupstream h
    · exact .pair hne ((rejects_assessPair_iff env hne).mp h)
  · intro h
    cases h with
    | mimeConflict h => exact .inl (.inl (rejects_rejectFor.mpr h))
    | cacheOfAnthropic hclient hupstream h => exact .inl (.inr (.inl ⟨hclient, hupstream, h⟩))
    | cacheOfOpenai hclient hupstream h => exact .inl (.inr (.inr ⟨hclient, hupstream, h⟩))
    | pair hne h => exact .inr ⟨hne, (rejects_assessPair_iff env hne).mpr h⟩

end

end

end LlmUniversalProxy.Translate
