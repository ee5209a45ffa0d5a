import LlmUniversalProxy.Server.RequestProcessing
import LlmUniversalProxy.Translate.CacheExtensions
import LlmUniversalProxy.Translate.ResponsesToMessages

/-!
# `Translate.ResponsesAssessment` — a request of Responses for another format

What only the provider of Responses can make sense of keeps a request from being translated: state
that it holds for the client, tools that it hosts, encrypted content that it alone can read. What is
merely lost is put into a warning. Encrypted content is on both sides. A reasoning item or a
compaction may be dropped as long as something visible remains of the conversation, its own summary
included; a tool output that is encrypted and has no text beside it may not.

The checks are those of `assess_request_translation_with_dialect` between its lines 2579 and 2645, in
their order, with the functions they call (`translate/internal/assessment.rs` 404-487 and 569-1224).
-/

set_option autoImplicit false

namespace LlmUniversalProxy.Translate

open Json Lib
open Server (responsesStatefulRequestControls providerStateControlEnabled)

def inputItemsOf (body : Value) : List Value := (body.getArray "input").getD []

/-! ## Controls that are dropped -/

/-- `responses_include_items`. -/
def responsesIncludeItems (body : Value) : List String :=
  ((body.getArray "include").getD []).filterMap Value.asStr

/-- `responses_include_has_nonportable_items`. -/
def responsesIncludeHasNonportableItems (body : Value) (targetFormat : UpstreamFormat) : Bool :=
  if (responsesIncludeItems body).isEmpty then (body.get "include").isSome
  else (responsesIncludeItems body).any fun item =>
    item ≠ "reasoning.encrypted_content" &&
      !(openaiFamilyFormat targetFormat && item = "message.output_text.logprobs")

/-- `responses_text_has_nonportable_fields`. -/
def responsesTextHasNonportableFields (body : Value) (profile : SharedControlProfile) : Bool :=
  match (body.get "text").filter Value.isObject with
  | none => false
  | some text =>
      !hasOnlyKeys (["format"] ++ if profile.verbosity then ["verbosity"] else []) text

/-- `responses_reasoning_has_nonportable_fields`. -/
def responsesReasoningHasNonportableFields (body : Value) (profile : SharedControlProfile) : Bool :=
  match (body.get "reasoning").filter Value.isObject with
  | none => false
  | some reasoning => !hasOnlyKeys (if profile.reasoningEffort then ["effort"] else []) reasoning

/-- `responses_input_reasoning_encrypted_content_present`. -/
def responsesInputReasoningEncryptedContentPresent (body : Value) : Bool :=
  (inputItemsOf body).any fun item =>
    responsesInputItemType item = some "reasoning" && (item.get "encrypted_content").isSome

/-- `responses_input_item_is_compaction`. -/
def responsesInputItemIsCompaction (item : Value) : Bool :=
  (responsesInputItemType item).any fun itemType => itemType ∈ ["compaction", "compaction_summary"]

/-- `responses_input_compaction_carrier_present`. -/
def responsesInputCompactionCarrierPresent (body : Value) : Bool :=
  (inputItemsOf body).any responsesInputItemIsCompaction

/-- A control that is there and that the target does not have. -/
def controlIf (present : Bool) (name : String) : List String := if present then [name] else []

/-- `responses_warning_only_request_controls_for_translate` (`translate/internal/assessment.rs`
569-653). -/
def responsesWarningOnlyRequestControlsForTranslate (body : Value) (targetFormat : UpstreamFormat)
    (reasoningMapped : Bool) : List String :=
  let profile := sharedControlProfileForTarget targetFormat
  let has (field : String) : Bool := (body.get field).isSome
  let nonportableInclude := responsesIncludeHasNonportableItems body targetFormat
  ["stop", "seed", "presence_penalty", "frequency_penalty", "max_tool_calls",
    "truncation"].filter has ++
  controlIf nonportableInclude "include" ++
  controlIf ("reasoning.encrypted_content" ∈ responsesIncludeItems body)
    "reasoning.encrypted_content" ++
  controlIf (responsesInputReasoningEncryptedContentPresent body)
    "input[].reasoning.encrypted_content" ++
  controlIf (responsesInputCompactionCarrierPresent body) "input[].compaction" ++
  controlIf (has "reasoning" && ((!profile.reasoningEffort && !reasoningMapped) ||
    responsesReasoningHasNonportableFields body profile)) "reasoning" ++
  controlIf (has "text" && responsesTextHasNonportableFields body profile) "text" ++
  controlIf (has "metadata" && !profile.metadata) "metadata" ++
  controlIf (has "user" && !profile.user) "user" ++
  controlIf (has "service_tier" && !profile.serviceTier) "service_tier" ++
  controlIf (has "prompt_cache_key" && !profile.promptCacheKey) "prompt_cache_key" ++
  controlIf (has "prompt_cache_retention" && !profile.promptCacheRetention)
    "prompt_cache_retention" ++
  controlIf (has "safety_identifier" && !profile.safetyIdentifier) "safety_identifier" ++
  -- `include` is named once
  controlIf (responsesIncludeRequestsOutputTextLogprobs body && !profile.topLogprobs &&
    !nonportableInclude) "include" ++
  controlIf (has "top_logprobs" && !profile.topLogprobs) "top_logprobs" ++
  controlIf ((requestStreamIncludeObfuscation body).isSome && !profile.streamIncludeObfuscation)
    "stream_options.include_obfuscation" ++
  controlIf (((body.get "text").bind (Value.get · "verbosity")).isSome && !profile.verbosity)
    "text.verbosity" ++
  controlIf (((body.get "reasoning").bind (Value.get · "effort")).isSome &&
    !profile.reasoningEffort && !reasoningMapped) "reasoning.effort" ++
  controlIf ((body.get "parallel_tool_calls").bind Value.asBool = some false &&
    !profile.parallelToolCalls) "parallel_tool_calls"

/-! ## The choice of a tool -/

/-- `responses_tool_choice_allowed_tools_array`. -/
def responsesToolChoiceAllowedToolsArray (choice : Value) : Option (List Value) :=
  (choice.getArray "tools").or ((choice.get "allowed_tools").bind (Value.getArray · "tools"))

/-- What is held against one of the tools that a choice allows. -/
def nonportableAllowedToolMessage (targetFormat : UpstreamFormat) (tool : Value) : Option String :=
  let targetLabel := translationTargetLabel targetFormat
  match tool.getStr "type" with
  | some "function" | some "namespace" => none
  | some "custom" =>
      if bridgesTools targetFormat then none
      else some <| "OpenAI Responses tool_choice.allowed_tools selected custom tool `" ++
        (tool.getStr "name").getD "unknown" ++ "` and cannot be faithfully translated to " ++
        targetLabel
  | some other => some <| "OpenAI Responses tool_choice.allowed_tools selected hosted/built-in " ++
      s!"tool `{other}` and cannot be faithfully translated to {targetLabel}"
  | none => some <| "OpenAI Responses tool_choice.allowed_tools selected an unnamed tool that " ++
      s!"cannot be faithfully translated to {targetLabel}"

/-- `responses_nonportable_tool_choice_message` (`translate/internal/assessment.rs` 710-769). -/
def responsesNonportableToolChoiceMessage (body : Value) (targetFormat : UpstreamFormat) :
    Option String :=
  let refuse (choiceType : String) : Option String :=
    some <| s!"OpenAI Responses tool_choice.type `{choiceType}` cannot be faithfully translated " ++
      s!"to {translationTargetLabel targetFormat}"
  (body.get "tool_choice").bind fun toolChoice =>
    match toolChoice.getStr "type" with
    | none | some "function" | some "namespace" => none
    | some "custom" => if bridgesTools targetFormat then none else refuse "custom"
    | some "allowed_tools" => (responsesToolChoiceAllowedToolsArray toolChoice).bind fun tools =>
        tools.findSome? (nonportableAllowedToolMessage targetFormat)
    | some other => refuse other

/-! ## The definitions of the tools -/

def toolsOf (body : Value) : List Value := (body.getArray "tools").getD []

def errorText? {α : Type} : Except String α → Option String
  | .error message => some message
  | .ok _ => none

/-- `responses_nonportable_tool_definition_message`. -/
def responsesNonportableToolDefinitionMessage (body : Value) : Option String :=
  (toolsOf body).findSome? fun tool => errorText? (normalizedResponsesToolDefinition tool)

/-- `responses_has_warning_only_nonportable_tool_definitions`. -/
def responsesHasWarningOnlyNonportableToolDefinitions (body : Value) : Bool :=
  (toolsOf body).any fun tool =>
    match normalizedResponsesToolDefinition tool with
    | .ok (some _) => false
    | _ => true

/-- `openai_custom_tool_format_supports_anthropic_bridge`. -/
def openaiCustomToolFormatSupportsAnthropicBridge (format : Option Value) : Bool :=
  openaiCustomToolFormatIsPlainText format ||
    (openaiCustomToolStringConstraintFormatParts format).isSome

def definedCustomTool (tool : Value) : Option NormalizedOpenAiFamilyCustomTool :=
  match normalizedResponsesToolDefinition tool with
  | .ok (some (.custom custom)) => some custom
  | _ => none

/-- `custom_tool_format_reject_message`. -/
def customToolFormatRejectMessage (sourceLabel toolName targetLabel : String) : String :=
  s!"{sourceLabel} custom tool `{toolName}` format constraints cannot be faithfully translated " ++
    s!"to {targetLabel}; failing closed because this custom format has no safe raw string bridge"

/-- `custom_tool_format_portability_warning_message`. -/
def customToolFormatPortabilityWarningMessage (sourceLabel toolName targetLabel : String) :
    String :=
  s!"{sourceLabel} custom tool `{toolName}` format constraints cannot be faithfully translated " ++
    s!"to {targetLabel}; using raw string input bridge while omitting format constraints to " ++
    "preserve raw string input semantics"

/-- `responses_custom_tool_format_reject_message` (`translate/internal/assessment.rs` 854-880). -/
def responsesCustomToolFormatRejectMessage (body : Value) (targetFormat : UpstreamFormat) :
    Option String :=
  if !bridgesTools targetFormat then none
  else (toolsOf body).findSome? fun tool =>
    ((definedCustomTool tool).filter fun custom =>
      !openaiCustomToolFormatSupportsAnthropicBridge custom.format).map fun custom =>
        customToolFormatRejectMessage "OpenAI Responses" custom.name
          (translationTargetLabel targetFormat)

/-- `responses_custom_tool_bridge_warning_messages` (`translate/internal/assessment.rs` 882-917). -/
def responsesCustomToolBridgeWarningMessages (body : Value) (targetFormat : UpstreamFormat) :
    List String :=
  if !bridgesTools targetFormat then []
  else (toolsOf body).filterMap fun tool =>
    ((definedCustomTool tool).filter fun custom =>
      openaiCustomToolFormatSupportsAnthropicBridge custom.format &&
        !openaiCustomToolFormatIsPlainText custom.format).map fun custom =>
          customToolFormatPortabilityWarningMessage "OpenAI Responses" custom.name
            (translationTargetLabel targetFormat)

/-! ## What remains visible -/

/-- `responses_content_part_has_visible_portable_context` (`translate/internal/assessment.rs`
1039-1059). -/
def responsesContentPartHasVisiblePortableContext (part : Value) : Bool :=
  match part.getStr "type" with
  | some "input_text" | some "output_text" | some "refusal" =>
      (part.getStr "text").any fun text => !Text.isBlank text
  | some "input_image" | some "image_url" => (part.get "image_url").isSome
  | some "input_audio" => (part.get "input_audio").isSome
  | some "input_file" | some "file" =>
      ["file_id", "file_data", "file_url", "filename", "mime_type", "mimeType"].any fun field =>
        (part.get field).isSome
  | _ => false

/-- `responses_content_has_visible_portable_context`. -/
def responsesContentHasVisiblePortableContext : Option Value → Bool
  | some (.string text) => !Text.isBlank text
  | content => (contentParts content).any responsesContentPartHasVisiblePortableContext

/-- `responses_input_item_has_visible_portable_context` (`translate/internal/assessment.rs`
1008-1024). -/
def responsesInputItemHasVisiblePortableContext (item : Value) : Bool :=
  match responsesInputItemType item with
  | some "message" => responsesContentHasVisiblePortableContext (item.get "content")
  | some "reasoning" => !Text.isBlank (responsesSummaryArrayText item)
  | some "compaction" | some "compaction_summary" =>
      !Text.isBlank (responsesCompactionSummaryText item)
  | some "agent_message" => (responsesAgentMessageText item).isSome
  | _ => false

/-- `responses_request_has_visible_portable_context`. -/
def responsesRequestHasVisiblePortableContext (body : Value) : Bool :=
  match body.get "input" with
  | some (.string text) => !Text.isBlank text
  | some (.array items) => items.any responsesInputItemHasVisiblePortableContext
  | _ => false

/-- `responses_request_has_non_compaction_visible_portable_context`. -/
def responsesRequestHasNonCompactionVisiblePortableContext (body : Value) : Bool :=
  (inputItemsOf body).any fun item =>
    !responsesInputItemIsCompaction item && responsesInputItemHasVisiblePortableContext item

/-- `responses_input_reasoning_encrypted_content_requires_native_continuity`. -/
def responsesInputReasoningEncryptedContentRequiresNativeContinuity (body : Value) : Bool :=
  (inputItemsOf body).any fun item =>
    responsesInputItemType item = some "reasoning" && (item.get "encrypted_content").isSome &&
      -- `responses_reasoning_item_can_drop_opaque_state`
      !(!Text.isBlank (responsesSummaryArrayText item) ||
        responsesRequestHasVisiblePortableContext body)

/-- `responses_reasoning_continuity_request_message` (`translate/internal/assessment.rs` 1212-1224).
-/
def responsesReasoningContinuityRequestMessage (body : Value) (targetFormat : UpstreamFormat) :
    Option String :=
  if responsesInputReasoningEncryptedContentRequiresNativeContinuity body then
    some <| "OpenAI Responses reasoning-continuity field `input[].reasoning.encrypted_content` " ++
      "carries provider-owned opaque state and cannot be faithfully translated to " ++
      s!"{translationTargetLabel targetFormat}; use a native OpenAI Responses upstream to " ++
      "preserve it"
  else none

/-! ## Input items -/

/-- `responses_hosted_input_item_type`. -/
def responsesHostedInputItemType (itemType : String) : Bool :=
  itemType ∈ ["file_search_call", "web_search_call", "code_interpreter_call", "mcp_call",
    "image_generation_call", "computer_call", "computer_call_output"]

/-- `responses_portable_input_item_type`. -/
def responsesPortableInputItemType (itemType : String) : Bool :=
  itemType ∈ ["message", "function_call", "custom_tool_call", "function_call_output",
    "custom_tool_call_output", "reasoning", "agent_message"]

/-- `responses_namespace_is_bridged`: one of the definitions is of this namespace, with functions
alone in it. -/
def responsesNamespaceIsBridged (body : Value) (ns : String) : Bool :=
  (toolsOf body).any fun tool =>
    match normalizedResponsesToolDefinition tool with
    | .ok (some (.namespaceOf name _ _)) => name = ns
    | _ => false

/-- The loop of `responses_nonportable_input_item_message`, at one item. -/
def nonportableInputItemMessage (body : Value) (targetLabel : String) (item : Value) :
    Option String :=
  match responsesInputItemType item with
  | none => some <| "OpenAI Responses input item lacks both `type` and `role` and cannot be " ++
      s!"faithfully translated to {targetLabel}"
  | some itemType =>
    if itemType ∈ ["function_call", "custom_tool_call"] && (item.get "namespace").isSome then
      if responsesNamespaceIsBridged body ((item.getStr "namespace").getD "") then none
      else some <| "OpenAI Responses namespaced tool call `" ++
        (item.getStr "name").getD "unknown" ++ "` cannot be faithfully translated to " ++
        targetLabel
    else if responsesInputItemIsCompaction item then
      -- `responses_compaction_item_can_drop_opaque_state`
      if !Text.isBlank (responsesCompactionSummaryText item) ||
          responsesRequestHasNonCompactionVisiblePortableContext body then none
      else some <| "OpenAI Responses compaction input item contains provider-owned opaque state " ++
        s!"and cannot be safely dropped when translating to {targetLabel} because no visible " ++
        "portable transcript or summary remains"
    else if responsesPortableInputItemType itemType then none
    else if responsesHostedInputItemType itemType then
      some <| s!"OpenAI Responses input item `{itemType}` cannot be faithfully translated to " ++
        targetLabel
    else some <| s!"OpenAI Responses input item type `{itemType}` is outside the portable " ++
      s!"cross-protocol subset and cannot be faithfully translated to {targetLabel}"

/-- `responses_nonportable_input_item_message`. -/
def responsesNonportableInputItemMessage (body : Value) (targetFormat : UpstreamFormat) :
    Option String :=
  (inputItemsOf body).findSome?
    (nonportableInputItemMessage body (translationTargetLabel targetFormat))

/-! ## Tool outputs -/

def isToolOutputItem (item : Value) : Bool :=
  (responsesInputItemType item).any fun itemType =>
    itemType ∈ ["function_call_output", "custom_tool_call_output"]

def isEncryptedPart (part : Value) : Bool := part.getStr "type" = some "encrypted_content"

def isOutputTextPart (part : Value) : Bool :=
  (part.getStr "type").any fun partType => partType ∈ ["input_text", "output_text"]

/-- What is held against a part of a tool output: it is neither a text nor encrypted. -/
def nonportableOutputPartMessage (targetLabel : String) (part : Value) : Option String :=
  if isOutputTextPart part || isEncryptedPart part then none
  else
    match part.getStr "type" with
    | some other => some <| s!"OpenAI Responses tool output arrays containing `{other}` cannot " ++
        s!"be faithfully translated to {targetLabel}; only text arrays are portable."
    | none => some <| "OpenAI Responses tool output arrays containing untyped values cannot be " ++
        s!"faithfully translated to {targetLabel}."

/-- The loop of `responses_nonportable_tool_output_message`, at one item. -/
def nonportableToolOutputMessage (targetLabel : String) (item : Value) : Option String :=
  if !isToolOutputItem item then none
  else (item.getArray "output").bind fun parts =>
    (parts.findSome? (nonportableOutputPartMessage targetLabel)).or
      (if parts.any isEncryptedPart && !parts.any isOutputTextPart then
        some <| "OpenAI Responses encrypted-only tool output has no portable representation when " ++
          s!"translating to {targetLabel}; at least one text part is required so the opaque " ++
          "payload is not dropped silently"
      else none)

/-- `responses_nonportable_tool_output_message`. -/
def responsesNonportableToolOutputMessage (body : Value) (targetFormat : UpstreamFormat) :
    Option String :=
  (inputItemsOf body).findSome?
    (nonportableToolOutputMessage (translationTargetLabel targetFormat))

/-- `responses_has_warning_only_encrypted_agent_message`. -/
def responsesHasWarningOnlyEncryptedAgentMessage (body : Value) : Bool :=
  (inputItemsOf body).any fun item =>
    responsesInputItemType item = some "agent_message" &&
      ((item.getArray "content").getD []).any isEncryptedPart

/-- `responses_has_warning_only_encrypted_tool_output`. -/
def responsesHasWarningOnlyEncryptedToolOutput (body : Value) : Bool :=
  (inputItemsOf body).any fun item =>
    isToolOutputItem item && (item.getArray "output").any fun parts =>
      parts.any isEncryptedPart && parts.any isOutputTextPart

/-! ## The checks -/

/-- The checks for a request of Responses to another format. -/
def assessResponsesRequest (upstreamFormat : UpstreamFormat) (body : Value)
    (reasoningMapped : Bool) : List TranslationIssue :=
  let controls := responsesStatefulRequestControls body
  (if controls.isEmpty then []
    else [.reject <| s!"Responses request controls {quotedNames controls} require a native " ++
      s!"OpenAI Responses upstream and cannot be translated to {upstreamFormat.display}; the " ++
      "proxy does not reconstruct provider state"]) ++
  rejectFor (responsesReasoningContinuityRequestMessage body upstreamFormat) ++
  warnAbout (responsesWarningOnlyRequestControlsForTranslate body upstreamFormat reasoningMapped)
    (fun quoted => s!"OpenAI Responses controls {quoted} are not portable on this translation " ++
      s!"path to {translationTargetLabel upstreamFormat} and will be dropped") ++
  rejectFor (responsesNonportableToolChoiceMessage body upstreamFormat) ++
  rejectFor (responsesNonportableInputItemMessage body upstreamFormat) ++
  rejectFor (responsesNonportableToolOutputMessage body upstreamFormat) ++
  (match responsesNonportableToolDefinitionMessage body with
    | some message => [.reject message]
    | none => if responsesHasWarningOnlyNonportableToolDefinitions body then
        [.warning <| "non-function Responses tools are not portable to " ++
          s!"{upstreamFormat.display} and will be dropped"]
      else []) ++
  (if responsesHasWarningOnlyEncryptedAgentMessage body then
    [.warning <| "OpenAI Responses `agent_message` input carries an `encrypted_content` part " ++
      s!"whose payload is opaque to {upstreamFormat.display}; only the routing metadata envelope " ++
      "remains visible and the encrypted payload body is dropped"]
  else []) ++
  (if responsesHasWarningOnlyEncryptedToolOutput body then
    [.warning <| "OpenAI Responses tool output carries an `encrypted_content` part whose payload " ++
      s!"is opaque to {upstreamFormat.display}; the surviving text parts are kept and the " ++
      "encrypted payload is dropped"]
  else []) ++
  rejectFor (responsesCustomToolFormatRejectMessage body upstreamFormat) ++
  (responsesCustomToolBridgeWarningMessages body upstreamFormat).map .warning

/-- The grounds on which these checks reject a request. -/
inductive ResponsesRefused (upstreamFormat : UpstreamFormat) (body : Value) : Prop
  | stateful (h : responsesStatefulRequestControls body ≠ [])
  | continuity (h : responsesInputReasoningEncryptedContentRequiresNativeContinuity body = true)
  | toolChoice (h : (responsesNonportableToolChoiceMessage body upstreamFormat).isSome = true)
  | inputItem (h : (responsesNonportableInputItemMessage body upstreamFormat).isSome = true)
  | toolOutput (h : (responsesNonportableToolOutputMessage body upstreamFormat).isSome = true)
  | toolDefinition (h : (responsesNonportableToolDefinitionMessage body).isSome = true)
  | toolFormat (h : (responsesCustomToolFormatRejectMessage body upstreamFormat).isSome = true)

/-- A definition that cannot be read rejects the request; one that is dropped does not. -/
theorem rejects_toolDefinitions {message : Option String} {warnings : List TranslationIssue}
    (h : ¬ Rejects warnings) :
    Rejects (match message with
      | some message => [.reject message]
      | none => warnings) ↔ message.isSome = true := by
  cases message with
  | none => exact ⟨fun hrejects => absurd hrejects h, fun hsome => (nomatch hsome)⟩
  | some message => exact ⟨fun _ => rfl, fun _ => rejects_singleton⟩

theorem rejects_responsesRequest {upstreamFormat : UpstreamFormat} {body : Value}
    {reasoningMapped : Bool} :
    Rejects (assessResponsesRequest upstreamFormat body reasoningMapped) ↔
      ResponsesRefused upstreamFormat body := by
  have hwarnings : ¬ Rejects (if responsesHasWarningOnlyNonportableToolDefinitions body then
      [.warning <| "non-function Responses tools are not portable to " ++
        s!"{upstreamFormat.display} and will be dropped"] else []) := by
    rw [rejects_ite]
    exact fun h => not_rejects_warning _ h.2
  have hcontinuity : (responsesReasoningContinuityRequestMessage body upstreamFormat).isSome =
      responsesInputReasoningEncryptedContentRequiresNativeContinuity body := by
    unfold responsesReasoningContinuityRequestMessage
    split
    · next h => exact h.symm
    · next h => exact (Bool.eq_false_iff.mpr h).symm
  unfold assessResponsesRequest
  simp only [rejects_append, rejects_rejectFor, rejects_ite, rejects_unless,
    rejects_singleton, not_rejects_warning, not_rejects_warnAbout, not_rejects_map_warning,
    rejects_toolDefinitions hwarnings, hcontinuity, List.isEmpty_iff, and_true, and_false, or_false]
  constructor
  · rintro ((((((h | h) | h) | h) | h) | h) | h)
    exacts [.stateful h, .continuity h, .toolChoice h, .inputItem h, .toolOutput h,
      .toolDefinition h, .toolFormat h]
  · rintro (h | h | h | h | h | h | h) <;> simp [h]

end LlmUniversalProxy.Translate
