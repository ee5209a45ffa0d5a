import LlmUniversalProxy.Server.RequestProcessing
import LlmUniversalProxy.Translate.AnthropicContent
import LlmUniversalProxy.Translate.CacheExtensions
import LlmUniversalProxy.Translate.ToolClearing

/-!
# `Translate.AnthropicAssessment` — a request of Anthropic for a format of OpenAI

Three controls at the top of the body, `thinking`, `context_management` and `container`, are hints to
the provider. They may be dropped with a warning as long as the request tells the whole conversation,
so that nothing the provider keeps would be needed: there is something of the user to see, no block
refers to hidden state, and every use of a tool has its result. They are a reason to reject the
request where it does not, where a container is one that the provider runs, and where the context
edits are not of a known form.

Thinking without visible text is rejected; the carriers beside visible thinking are dropped with a
warning. Tools of the provider are rejected, and so are two uses under one id, results that would
have to be put in another order, and blocks of a type that has no counterpart. None of these checks
looks into the content of a tool result.

The checks are those of `assess_request_translation_with_dialect` between its lines 2720 and 2802, in
their order, with the functions they call (`translate/internal/assessment.rs` 1858-2526 and
`translate/internal.rs` 1461-1599).
-/

set_option autoImplicit false

namespace LlmUniversalProxy.Translate

open Json Lib

/-! ## The visible history -/

/-- `anthropic_block_has_visible_thinking_text`. -/
def anthropicBlockHasVisibleThinkingText (block : Value) : Bool :=
  (block.getStr "thinking").any fun thinking => !Text.isBlank thinking

/-- `anthropic_block_has_visible_user_context`. -/
def anthropicBlockHasVisibleUserContext (block : Value) : Bool :=
  match block.getStr "type" with
  | some "text" => (block.getStr "text").any fun text => !Text.isBlank text
  | some "image" => (block.get "source").isSome
  | _ => false

/-- `anthropic_content_has_visible_user_context`. -/
def anthropicContentHasVisibleUserContext : Option Value → Bool
  | some (.string text) => !Text.isBlank text
  | content => (contentParts content).any anthropicBlockHasVisibleUserContext

/-- `anthropic_block_has_provider_owned_state_hint`. -/
def anthropicBlockHasProviderOwnedStateHint (block : Value) : Bool :=
  match block.getStr "type" with
  | some "redacted_thinking" | some "encrypted_thinking" => true
  | some "thinking" => !anthropicBlockHasVisibleThinkingText block || (block.get "data").isSome ||
      (block.get "redacted_content").isSome || (block.get "encrypted_content").isSome
  | _ => false

/-- `anthropic_content_has_provider_owned_state_hint`. -/
def anthropicContentHasProviderOwnedStateHint (content : Option Value) : Bool :=
  (contentParts content).any anthropicBlockHasProviderOwnedStateHint

/-- The variables of the loop of `anthropic_request_has_complete_visible_history`. -/
structure VisibleHistory where
  hasVisibleUserContext : Bool
  pendingToolUseIds : List String

/-- A use of a tool opens its id, and a result closes one that is open. Anything else about the ids,
and the history is not complete. -/
def visitToolBlock (role : Option String) (pending : List String) (block : Value) :
    Option (List String) :=
  if isToolUse block && role = some "assistant" then
    (trimmedText block "id").bind fun id => if id ∈ pending then none else some (id :: pending)
  else if isToolResult block then
    (trimmedText block "tool_use_id").bind fun id =>
      if id ∈ pending then some (pending.erase id) else none
  else some pending

/-- The loop of `anthropic_request_has_complete_visible_history`, at one message. -/
def VisibleHistory.visit (history : VisibleHistory) (message : Value) : Option VisibleHistory :=
  let role := message.getStr "role"
  let content := message.get "content"
  if anthropicContentHasProviderOwnedStateHint content then none
  else ((contentParts content).foldlM (visitToolBlock role) history.pendingToolUseIds).map
    fun pending =>
      { hasVisibleUserContext := history.hasVisibleUserContext ||
          (role = some "user" && anthropicContentHasVisibleUserContext content)
        pendingToolUseIds := pending }

/-- `anthropic_request_has_complete_visible_history`. -/
def anthropicRequestHasCompleteVisibleHistory (body : Value) : Bool :=
  let system := body.get "system"
  if (messagesOf body).isEmpty || anthropicContentHasProviderOwnedStateHint system then false
  else ((messagesOf body).foldlM VisibleHistory.visit
    ⟨anthropicContentHasVisibleUserContext system, []⟩).any fun history =>
      history.hasVisibleUserContext && history.pendingToolUseIds.isEmpty

/-! ## Containers -/

/-- A key or a text that is about something the provider runs. -/
def namesProviderRuntime (normalized : String) : Bool :=
  ["container", "skill", "code_execution", "mcp", "server_tool", "resource", "runtime", "opaque",
    "encrypted", "state"].any fun word => Text.contains normalized word

/-- A text in lower case, with an underscore for every hyphen. -/
def normalizedContainerText (text : String) : String := Text.replace (Text.asciiLower text) "-" "_"

/-- `anthropic_container_key_requires_provider_runtime`. -/
def anthropicContainerKeyRequiresProviderRuntime (key : String) : Bool :=
  normalizedContainerText key ∈ ["id", "handle"] ||
    namesProviderRuntime (normalizedContainerText key)

/-- `anthropic_container_string_requires_provider_runtime`. -/
def anthropicContainerStringRequiresProviderRuntime (text : String) : Bool :=
  namesProviderRuntime (normalizedContainerText text)

mutual

/-- `anthropic_container_requires_provider_runtime`. -/
def anthropicContainerRequiresProviderRuntime : Value → Bool
  | .object fields => containerFieldsRequireProviderRuntime fields
  | .array items => containerItemsRequireProviderRuntime items
  | .string text => anthropicContainerStringRequiresProviderRuntime text
  | _ => false

def containerItemsRequireProviderRuntime : List Value → Bool
  | [] => false
  | item :: items => anthropicContainerRequiresProviderRuntime item ||
      containerItemsRequireProviderRuntime items

def containerFieldsRequireProviderRuntime : List (String × Value) → Bool
  | [] => false
  | (_, .null) :: fields | (_, .bool false) :: fields =>
      containerFieldsRequireProviderRuntime fields
  | (key, value) :: fields => anthropicContainerKeyRequiresProviderRuntime key ||
      anthropicContainerRequiresProviderRuntime value ||
      containerFieldsRequireProviderRuntime fields

end

/-! ## Context edits -/

def firstUnknownField (value : Value) (allowedFields : List String) : Option String :=
  (((value.asObject.getD []).map Prod.fst).find? fun key => key ∉ allowedFields)

/-- `positive_integer_schema_error`. -/
def positiveIntegerSchemaError (value : Option Value) (path : String) : Option String :=
  if (value.bind Value.asU64).any fun value => 0 < value then none
  else some s!"{path} must be a positive integer"

/-- `validate_context_management_metric` (`translate/internal/assessment.rs` 2351-2370). -/
def validateContextManagementMetric (value : Option Value) (path : String)
    (allowedTypes : List String) : Option String :=
  value.bind fun value =>
    if !value.isObject then some s!"{path} must be an object"
    else
      match firstUnknownField value ["type", "value"] with
      | some field => some s!"{path} contains unsupported field `{field}`"
      | none =>
        match value.getStr "type" with
        | none => some s!"{path}.type must be a string"
        | some metricType =>
            if metricType ∈ allowedTypes then
              positiveIntegerSchemaError (value.get "value") s!"{path}.value"
            else some s!"{path}.type `{metricType}` is not supported"

/-- `validate_anthropic_clear_thinking_edit` (`translate/internal/assessment.rs` 2274-2306). -/
def validateAnthropicClearThinkingEdit (edit : Value) : Option String :=
  match firstUnknownField edit ["type", "keep"] with
  | some field => some s!"clear_thinking_20251015 contains unsupported field `{field}`"
  | none =>
    match edit.get "keep" with
    | none | some (.string "all") => none
    | some (.object fields) =>
        let keep := Value.object fields
        match firstUnknownField keep ["type", "value"] with
        | some field => some s!"clear_thinking_20251015.keep contains unsupported field `{field}`"
        | none =>
            if keep.getStr "type" ≠ some "thinking_turns" then
              some "clear_thinking_20251015.keep.type must be `thinking_turns`"
            else positiveIntegerSchemaError (keep.get "value") "clear_thinking_20251015.keep.value"
    | some _ => some <| "clear_thinking_20251015.keep must be `all` or " ++
        "`\x7btype:\"thinking_turns\", value:N\x7d`"

/-- `validate_anthropic_clear_tool_uses_edit` (`translate/internal/assessment.rs` 2308-2349). -/
def validateAnthropicClearToolUsesEdit (edit : Value) : Option String :=
  match firstUnknownField edit ["type", "keep", "exclude_tools", "clear_tool_inputs"] with
  | some field => some s!"clear_tool_uses_20250919 contains unsupported field `{field}`"
  | none =>
    (validateContextManagementMetric (edit.get "keep") "clear_tool_uses_20250919.keep"
      ["tool_uses"]).or <|
    ((edit.get "exclude_tools").bind fun excludeTools =>
      match excludeTools.asArray with
      | none => some "clear_tool_uses_20250919.exclude_tools must be an array"
      | some tools =>
          if tools.any fun tool => tool.asStr.all Text.isBlank then
            some "clear_tool_uses_20250919.exclude_tools entries must be non-empty strings"
          else none).or <|
    if (edit.get "clear_tool_inputs").any fun value => value.asBool.isNone then
      some "clear_tool_uses_20250919.clear_tool_inputs must be a boolean"
    else none

/-- The loop of `validate_anthropic_context_management_edits`, at one edit. -/
def validateContextManagementEdit (edit : Value) (index : Nat) : Option String :=
  if !edit.isObject then some s!"edit at index {index} must be an object"
  else
    match edit.getStr "type" with
    | none => some s!"edit at index {index} requires a string `type` field"
    | some "clear_thinking_20251015" =>
        if index ≠ 0 then some "`clear_thinking_20251015` must be the first context edit"
        else validateAnthropicClearThinkingEdit edit
    | some "clear_tool_uses_20250919" => validateAnthropicClearToolUsesEdit edit
    | some editType => some s!"contains unsupported edit type `{editType}`"

/-- `validate_anthropic_context_management_edits`. -/
def validateAnthropicContextManagementEdits (edits : List Value) : Option String :=
  edits.zipIdx.findSome? fun (edit, index) => validateContextManagementEdit edit index

/-- `anthropic_context_management_provider_owned_field`. -/
def anthropicContextManagementProviderOwnedField (key : String) : Bool :=
  key ∈ ["applied_edits", "original_input_tokens", "cleared_input_tokens", "cleared_tool_uses",
    "cleared_thinking_turns", "id", "handle", "state", "opaque_state", "encrypted_content"]

/-- `anthropic_context_management_schema_error` (`translate/internal/assessment.rs` 2167-2222). -/
def anthropicContextManagementSchemaError : Value → Option String
  | .null | .bool false => none
  | .object fields =>
      let contextManagement := Value.object fields
      let keys := fields.map Prod.fst
      match keys.find? anthropicContextManagementProviderOwnedField with
      | some providerField => some s!"contains provider-owned state field `{providerField}`"
      | none =>
        match contextManagement.get "type" with
        | some (.string "auto") =>
            if fields.length = 1 then none
            else some "legacy no-op `type:auto` does not support additional fields"
        | some (.string contextType) => some s!"uses unsupported legacy type `{contextType}`"
        | some _ => some <| "field `type` must be the legacy string `auto` or omitted when " ++
            "using `edits`"
        | none =>
          match contextManagement.get "edits" with
          | none =>
            match keys with
            | unknownField :: _ => some s!"contains unsupported field `{unknownField}`"
            | [] => some "must use known legacy `type:auto` or an `edits` array"
          | some edits =>
            if fields.length ≠ 1 then
              some <| "contains unsupported field `" ++
                (keys.find? fun key => key ≠ "edits").getD "unknown" ++ "` alongside `edits`"
            else
              match edits.asArray with
              | none => some "field `edits` must be an array"
              | some edits => validateAnthropicContextManagementEdits edits
  | _ => some "must be an object, null, or false"

/-- `anthropic_context_management_fail_closed_reason`. -/
def anthropicContextManagementFailClosedReason (contextManagement : Value) (targetLabel : String) :
    Option String :=
  (anthropicContextManagementSchemaError contextManagement).map fun reason =>
    s!"Anthropic context_management {reason} and cannot be translated to {targetLabel}"

/-! ## Controls at the top -/

/-- `AnthropicRequestControlAssessment`. With a reason to reject, the control is `FailClosed`;
without one it is `WarnDrop`, whose reason is read nowhere. -/
structure AnthropicRequestControlAssessment where
  field : String
  failClosed : Option String

/-- `anthropic_top_level_request_control_assessments` (`translate/internal/assessment.rs`
1886-1971). -/
def anthropicTopLevelRequestControlAssessments (body : Value) (targetLabel : String) :
    List AnthropicRequestControlAssessment :=
  let complete := anthropicRequestHasCompleteVisibleHistory body
  let unlessComplete (reason : String) : Option String := if complete then none else some reason
  (if (body.get "thinking").isSome then
    [⟨"thinking", unlessComplete <| "top-level Anthropic thinking requires complete visible " ++
      s!"history before translation to {targetLabel}"⟩]
  else []) ++
  (match (body.get "context_management").filter fun value =>
      value ≠ .null && value ≠ .bool false with
    | none => []
    | some contextManagement =>
        [⟨"context_management",
          (anthropicContextManagementFailClosedReason contextManagement targetLabel).or
            (unlessComplete <| "Anthropic context_management requires complete visible history " ++
              s!"before translation to {targetLabel}")⟩]) ++
  (match body.get "container" with
    | none => []
    | some container =>
        [⟨"container",
          if anthropicContainerRequiresProviderRuntime container then
            some <| "Anthropic container depends on provider-owned runtime/state/resource " ++
              s!"semantics and cannot be translated to {targetLabel}"
          else unlessComplete <| "Anthropic container hints require complete visible history " ++
            s!"before translation to {targetLabel}"⟩])

/-- `anthropic_warning_only_request_controls_for_translate`. -/
def anthropicWarningOnlyRequestControlsForTranslate (body : Value) : List String :=
  (["top_k", "service_tier"].filter fun field => (body.get field).isSome) ++
    if Server.anthropicProtocolCacheControlPresent body then ["cache_control"] else []

/-! ## Thinking -/

/-- The blocks of the system prompt, and those of the messages in their order. -/
def anthropicBlocks (body : Value) : List Value :=
  contentParts (body.get "system") ++
    (messagesOf body).flatMap fun message => contentParts (message.get "content")

/-- `anthropic_opaque_thinking_carrier_in_block` (`translate/internal/assessment.rs` 2469-2485). -/
def anthropicOpaqueThinkingCarrierInBlock (targetLabel : String) (block : Value) : Option String :=
  let refuse : Option String :=
    some <| "Anthropic opaque/redacted/encrypted thinking carriers without visible text require " ++
      s!"native Anthropic semantics and cannot be faithfully translated to {targetLabel}"
  match block.getStr "type" with
  | some "thinking" => if anthropicBlockHasVisibleThinkingText block then none else refuse
  | some "redacted_thinking" | some "encrypted_thinking" => refuse
  | _ => none

/-- `anthropic_opaque_thinking_carrier_message`. -/
def anthropicOpaqueThinkingCarrierMessage (body : Value) (targetLabel : String) : Option String :=
  (anthropicBlocks body).findSome? (anthropicOpaqueThinkingCarrierInBlock targetLabel)

/-- `anthropic_collect_block_thinking_carrier_fields` (`translate/internal/assessment.rs`
2422-2438). -/
def anthropicBlockThinkingCarrierFields (block : Value) : List String :=
  if block.getStr "type" = some "thinking" && anthropicBlockHasVisibleThinkingText block then
    (if (block.get "signature").isSome then ["signature"] else []) ++
    (if (block.get "encrypted_content").isSome then ["encrypted_content"] else []) ++
    (if (block.get "redacted_content").isSome || (block.get "data").isSome then
      ["redacted_content"] else [])
  else []

/-- `anthropic_request_visible_thinking_carrier_fields`, in the order of the alphabet and each of
them once. -/
def anthropicRequestVisibleThinkingCarrierFields (body : Value) : List String :=
  ["encrypted_content", "redacted_content", "signature"].filter fun field =>
    field ∈ (anthropicBlocks body).flatMap anthropicBlockThinkingCarrierFields

/-! ## Tools and blocks -/

/-- `anthropic_request_tool_definition_not_portable_message`. -/
def anthropicRequestToolDefinitionNotPortableMessage (detail targetLabel : String) : String :=
  s!"Anthropic tool definitions with {detail} cannot be faithfully translated to {targetLabel}"

/-- The loop of `anthropic_request_nonportable_tool_definition_message`, at one tool. -/
def nonportableToolDefinitionMessage (targetLabel : String) (tool : Value) : Option String :=
  match ["strict", "defer_loading", "allowed_callers", "input_examples"].find? fun field =>
      (tool.get field).isSome with
  | some field => some <| anthropicRequestToolDefinitionNotPortableMessage
      s!"native `{field}` metadata" targetLabel
  | none =>
      if (tool.get "type").isSome || (tool.get "name").isNone then
        some <| anthropicRequestToolDefinitionNotPortableMessage
          "server-side or provider-native tool shapes" targetLabel
      else none

/-- `anthropic_request_nonportable_tool_definition_message`. -/
def anthropicRequestNonportableToolDefinitionMessage (body : Value) (targetLabel : String) :
    Option String :=
  ((body.getArray "tools").getD []).findSome? (nonportableToolDefinitionMessage targetLabel)

/-- `anthropic_user_turn_requires_tool_result_reordering`: a result comes behind something that is
none. -/
def anthropicUserTurnRequiresToolResultReordering (blocks : List Value) : Bool :=
  (blocks.dropWhile isToolResult).any isToolResult

/-- `anthropic_request_tool_result_order_message`. -/
def anthropicRequestToolResultOrderMessage (body : Value) (targetLabel : String) : Option String :=
  if (messagesOf body).any fun message => message.getStr "role" = some "user" &&
      (message.getArray "content").any anthropicUserTurnRequiresToolResultReordering then
    some <| "Anthropic user turns that mix `tool_result` blocks with surrounding content cannot " ++
      s!"be faithfully translated to {targetLabel} without reordering blocks"
  else none

/-- `anthropic_nonportable_block_message`. -/
def anthropicNonportableBlockMessage (targetLabel : String) (block : Value) : Option String :=
  ((block.getStr "type").filter fun blockType => !anthropicContentBlockSupported blockType).map
    fun blockType => anthropicBlockNotPortableMessage blockType targetLabel

/-- `anthropic_nonportable_content_block_message`. A content of a message that is a single object is
not looked at. -/
def anthropicNonportableContentBlockMessage (body : Value) (targetLabel : String) :
    Option String :=
  (contentParts (body.get "system") ++
    (messagesOf body).flatMap fun message => (message.getArray "content").getD []).findSome?
      (anthropicNonportableBlockMessage targetLabel)

/-! ## The checks -/

/-- The checks for a request of Anthropic to another format. -/
def assessAnthropicRequest (upstreamFormat : UpstreamFormat) (body : Value) :
    List TranslationIssue :=
  let targetLabel := translationTargetLabel upstreamFormat
  let assessments := anthropicTopLevelRequestControlAssessments body targetLabel
  let rejected := assessments.filter fun assessment => assessment.failClosed.isSome
  (if rejected.isEmpty then []
    else [.reject <| s!"Anthropic request controls {quotedNames (rejected.map (·.field))} cannot " ++
      s!"be faithfully translated to {targetLabel}: " ++
      "; ".intercalate (rejected.filterMap (·.failClosed))]) ++
  warnAbout ((assessments.filter fun assessment => assessment.failClosed.isNone).map (·.field))
    (fun quoted => s!"Anthropic request controls {quoted} are not portable to {targetLabel} with " ++
      "complete visible history and will be dropped") ++
  warnAbout (anthropicWarningOnlyRequestControlsForTranslate body)
    (fun quoted => s!"Anthropic request controls {quoted} are not portable to {targetLabel} and " ++
      "will be dropped") ++
  rejectFor (anthropicOpaqueThinkingCarrierMessage body targetLabel) ++
  warnAbout (anthropicRequestVisibleThinkingCarrierFields body)
    (fun quoted => s!"Anthropic visible thinking carrier fields {quoted} cannot be translated to " ++
      s!"{targetLabel}; visible thinking text will be preserved and carrier fields dropped") ++
  rejectFor (anthropicRequestNonportableToolDefinitionMessage body targetLabel) ++
  rejectFor (anthropicDuplicateAssistantToolUseIdMessage body targetLabel) ++
  rejectFor (anthropicRequestToolResultOrderMessage body targetLabel) ++
  rejectFor (anthropicNonportableContentBlockMessage body targetLabel)

/-- The grounds on which these checks reject a request. -/
inductive AnthropicRefused (upstreamFormat : UpstreamFormat) (body : Value) : Prop
  | control {assessment : AnthropicRequestControlAssessment}
      (hmem : assessment ∈ anthropicTopLevelRequestControlAssessments body
        (translationTargetLabel upstreamFormat))
      (h : assessment.failClosed.isSome = true)
  | carrier (h : (anthropicOpaqueThinkingCarrierMessage body
      (translationTargetLabel upstreamFormat)).isSome = true)
  | toolDefinition (h : (anthropicRequestNonportableToolDefinitionMessage body
      (translationTargetLabel upstreamFormat)).isSome = true)
  | duplicateId (h : (anthropicDuplicateAssistantToolUseIdMessage body
      (translationTargetLabel upstreamFormat)).isSome = true)
  | resultOrder (h : (anthropicRequestToolResultOrderMessage body
      (translationTargetLabel upstreamFormat)).isSome = true)
  | contentBlock (h : (anthropicNonportableContentBlockMessage body
      (translationTargetLabel upstreamFormat)).isSome = true)

theorem rejects_anthropicRequest {upstreamFormat : UpstreamFormat} {body : Value} :
    Rejects (assessAnthropicRequest upstreamFormat body) ↔
      AnthropicRefused upstreamFormat body := by
  have hcontrols : (anthropicTopLevelRequestControlAssessments body
      (translationTargetLabel upstreamFormat)).filter (fun assessment =>
        assessment.failClosed.isSome) ≠ [] ↔
      ∃ assessment ∈ anthropicTopLevelRequestControlAssessments body
        (translationTargetLabel upstreamFormat), assessment.failClosed.isSome = true := by
    simp [List.filter_eq_nil_iff, Option.isSome_iff_ne_none]
  unfold assessAnthropicRequest
  simp only [rejects_append, rejects_rejectFor, rejects_unless, rejects_singleton,
    not_rejects_warnAbout, List.isEmpty_iff, and_true, or_false, hcontrols]
  constructor
  · rintro (((((⟨_, hmem, h⟩ | h) | h) | h) | h) | h)
    exacts [.control hmem h, .carrier h, .toolDefinition h, .duplicateId h, .resultOrder h,
      .contentBlock h]
  · rintro (⟨hmem, h⟩ | h | h | h | h | h)
    · exact .inl (.inl (.inl (.inl (.inl ⟨_, hmem, h⟩))))
    all_goals simp [h]

end LlmUniversalProxy.Translate
