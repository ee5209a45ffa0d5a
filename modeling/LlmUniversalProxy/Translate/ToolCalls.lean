import LlmUniversalProxy.Translate.ToolBridge

/-!
# `Translate.ToolCalls` — tool calls of the two OpenAI formats

A tool call of Chat and a tool-call item of Responses are read into one form, and written from it.
Two markers go along with a call, signed with the key of the process: one says that its arguments
are incomplete, so that it is never replayed as a call; the other that it was a call of one of
Anthropic's server tools.

The source is `translate/internal/tools.rs` 284-308, 1057-1313 and 1669-2089.
-/

set_option autoImplicit false

namespace LlmUniversalProxy.Translate

open Json Lib

/-! ## Payloads -/

/-- `openai_custom_tool_payload`. -/
def openaiCustomToolPayload (value : Value) : Option Value :=
  if value.getStr "type" ≠ some "custom" then none
  else
    (((value.get "custom").filter Value.isObject).or
      ((value.get "function").filter Value.isObject)).or
        (if (value.get "name").isSome then some value else none)

/-- `openai_custom_tool_name`. -/
def openaiCustomToolName (value : Value) : Option String :=
  ((openaiCustomToolPayload value).bind (Value.getStr · "name")).filter fun name => !name.isEmpty

/-- `openai_custom_tool_input_raw`. -/
def openaiCustomToolInputRaw (value : Value) : Option String :=
  (openaiCustomToolPayload value).bind fun payload =>
    ((payload.get "input").or (payload.get "arguments")).bind Value.asStr

/-- `openai_tool_arguments_raw`. -/
def openaiToolArgumentsRaw (toolCall : Value) : Option String :=
  (((toolCall.get "function").bind (Value.get · "arguments")).or (toolCall.get "arguments")).bind
    Value.asStr

/-- `responses_tool_call_input_raw`. -/
def responsesToolCallInputRaw (env : Env) (item : Value) : Option String :=
  match semanticToolKindFromValue env item with
  | .openAiCustom => item.getStr "input"
  | _ => item.getStr "arguments"

/-! ## Calls that are not replayed -/

/-- `INTERNAL_NON_REPLAYABLE_TOOL_CALL_FIELD`. -/
def nonReplayableToolCallField : String := "_llmup_non_replayable_tool_call"

/-- `non_replayable_tool_call_name_and_raw`. -/
def nonReplayableToolCallNameAndRaw (env : Env) (value : Value) : Option String × Option String :=
  ((((value.get "function").bind (Value.getStr · "name")).or (openaiCustomToolName value)).or
      (value.getStr "name"),
    ((openaiToolArgumentsRaw value).or (openaiCustomToolInputRaw value)).or
      (responsesToolCallInputRaw env value))

/-- `non_replayable_tool_call_signature`. -/
def nonReplayableToolCallSignature (env : Env) (value : Value) : String :=
  let (name, raw) := nonReplayableToolCallNameAndRaw env value
  env.signature (.ofFields [("v", .nat 1), ("reason", .string "incomplete_arguments"),
    ("name", .string (name.getD "")), ("raw", .string (raw.getD ""))])

/-- `trusted_non_replayable_tool_call_marker`, of which only the answer is used. -/
def toolCallIsMarkedNonReplayable (env : Env) (value : Value) : Bool :=
  (value.get nonReplayableToolCallField).any fun marker =>
    marker.getStr "reason" = some "incomplete_arguments" && marker.getU64 "v" = some 1 &&
      marker.getStr "sig" = some (nonReplayableToolCallSignature env value)

/-- `mark_tool_call_as_non_replayable`. -/
def markToolCallAsNonReplayable (env : Env) (value : Value) : Value :=
  if value.isObject then
    value.set nonReplayableToolCallField (.ofFields [("reason", .string "incomplete_arguments"),
      ("v", .nat 1), ("sig", .string (nonReplayableToolCallSignature env value))])
  else value

/-- `copy_non_replayable_tool_call_marker`: the marker is bound to the shape of the call, so the
copy is made anew. -/
def copyNonReplayableToolCallMarker (env : Env) (source dest : Value) : Value :=
  if toolCallIsMarkedNonReplayable env source then markToolCallAsNonReplayable env dest else dest

/-- `tool_call_text_for_partial_replay`. -/
def toolCallTextForPartialReplay (name raw : Option String) : String :=
  let name := name.getD "unknown_tool"
  match (raw.map Text.trim).filter fun raw => !raw.isEmpty with
  | some raw => s!"Tool call `{name}` with partial arguments: {raw}"
  | none => s!"Tool call `{name}` had incomplete arguments."

/-- `openai_tool_call_partial_replay_text`. -/
def openaiToolCallPartialReplayText (toolCall : Value) : String :=
  toolCallTextForPartialReplay
    (((toolCall.get "function").bind (Value.getStr · "name")).or (openaiCustomToolName toolCall))
    ((openaiToolArgumentsRaw toolCall).or (openaiCustomToolInputRaw toolCall))

/-- `responses_tool_call_partial_replay_text`. -/
def responsesToolCallPartialReplayText (env : Env) (item : Value) : String :=
  toolCallTextForPartialReplay (item.getStr "name") (responsesToolCallInputRaw env item)

/-! ## Server tools -/

/-- `attest_proxied_tool_kind`. -/
def attestProxiedToolKind (env : Env) (value : Value) : Value :=
  if value.getStr "proxied_tool_kind" ≠ some "anthropic_server_tool_use" || !value.isObject then
    value
  else value.set "_llmup_proxied_tool_kind_sig"
    (.string (proxiedToolKindSignature env (proxiedToolKindName value)))

/-! ## Arguments -/

/-- `raw_json_object_to_structured_value` (`translate/internal/tools.rs` 1300-1313). -/
def rawJsonObjectToStructuredValue (serde : Serde) (raw targetLabel : String) :
    Except String Value :=
  match fromStr serde raw with
  | none => .error <| s!"tool arguments for {targetLabel} must be valid JSON; received `{raw}`: " ++
      serde.errorText raw
  | some value =>
      if value.isObject then .ok value
      else .error s!"tool arguments for {targetLabel} must be a JSON object; received `{raw}`"

/-- Arguments that may be missing, or blank. -/
def structuredArguments (serde : Serde) (raw : Option String) (targetLabel : String) :
    Except String Value :=
  match raw with
  | none => .ok (.ofFields [])
  | some raw =>
      if Text.isBlank raw then .ok (.ofFields [])
      else rawJsonObjectToStructuredValue serde raw targetLabel

/-- `openai_tool_arguments_to_structured_value`. -/
def openaiToolArgumentsToStructuredValue (serde : Serde) (toolCall : Value)
    (targetLabel : String) : Except String Value :=
  structuredArguments serde (openaiToolArgumentsRaw toolCall) targetLabel

/-- `responses_tool_call_to_structured_value`. -/
def responsesToolCallToStructuredValue (env : Env) (item : Value) (targetLabel : String) :
    Except String Value :=
  structuredArguments env.serde (responsesToolCallInputRaw env item) targetLabel

/-! ## One form for both -/

/-- The two members of `NormalizedOpenAiFamilyToolCall`, with the arguments of a function or the
input of a custom tool as the payload. -/
structure NormalizedOpenAiFamilyToolCall where
  custom : Bool
  id : Option Value
  name : String
  payload : String
  namespaceName : Option String := none
  proxiedToolKind : Option Value

/-- A name that is there, is not empty and is not reserved. -/
def requiredToolName (name : Option String) (missing : String) : Except String String :=
  match name.filter fun name => !name.isEmpty with
  | none => .error missing
  | some name => do
      validatePublicToolNameNotReserved name
      pure name

/-- `normalized_openai_tool_call` (`translate/internal/tools.rs` 1689-1735). -/
def normalizedOpenaiToolCall (toolCall : Value) :
    Except String (Option NormalizedOpenAiFamilyToolCall) := do
  -- the reserved names are checked before the type is looked at
  validateOpenaiPublicToolIdentity toolCall
  match toolCall.getStr "type" with
  | some "function" =>
      match (toolCall.get "function").filter Value.isObject with
      | none => throw "OpenAI function tool calls require a `function` payload."
      | some function => do
          let name ← requiredToolName (function.getStr "name")
            "OpenAI function tool calls require a non-empty function name."
          pure (some
            { custom := false, id := toolCall.get "id", name := name
              -- no arguments are those of an empty object, no input is an empty text
              payload := (openaiToolArgumentsRaw toolCall).getD "\x7b\x7d"
              proxiedToolKind := toolCall.get "proxied_tool_kind" })
  | some "custom" => do
      let name ← requiredToolName (openaiCustomToolName toolCall)
        "OpenAI custom tool calls require a `custom.name` field."
      pure (some
        { custom := true, id := toolCall.get "id", name := name
          payload := (openaiCustomToolInputRaw toolCall).getD ""
          proxiedToolKind := toolCall.get "proxied_tool_kind" })
  | _ => pure none

/-- `normalized_responses_tool_call` (`translate/internal/tools.rs` 1737-1777). -/
def normalizedResponsesToolCall (env : Env) (item : Value) :
    Except String (Option NormalizedOpenAiFamilyToolCall) :=
  match item.getStr "type" with
  | some "function_call" | some "custom_tool_call" => do
      validateResponsesPublicToolCallItemIdentity item
      let name ← requiredToolName (item.getStr "name")
        "OpenAI Responses tool calls require a non-empty name."
      let custom : Bool := semanticToolKindFromValue env item = .openAiCustom
      pure (some
        { custom := custom, id := item.get "call_id", name := name
          payload := (responsesToolCallInputRaw env item).getD (if custom then "" else "\x7b\x7d")
          namespaceName := item.getStr "namespace"
          proxiedToolKind := item.get "proxied_tool_kind" })
  | _ => pure none

/-- The kind of server tool that goes along with a call, if there is one. -/
def withProxiedToolKind (proxiedToolKind : Option Value) (call : Value) : Value :=
  match proxiedToolKind with
  | some kind => call.set "proxied_tool_kind" kind
  | none => call

def openaiFunctionCall (id : Option Value) (name arguments : String) : Value :=
  .ofFields [("id", .ofOption id), ("type", .string "function"),
    ("function", .ofFields [("name", .string name), ("arguments", .string arguments)])]

/-- A call of a custom tool of Chat. -/
def openaiCustomCall (id : Option Value) (name input : String) : Value :=
  .ofFields [("id", .ofOption id), ("type", .string "custom"),
    ("custom", .ofFields [("name", .string name), ("input", .string input)])]

/-- `normalized_tool_call_to_openai`. -/
def normalizedToolCallToOpenai (call : NormalizedOpenAiFamilyToolCall) : Value :=
  withProxiedToolKind call.proxiedToolKind
    (if call.custom then openaiCustomCall call.id call.name call.payload
    else openaiFunctionCall call.id call.name call.payload)

/-- `flatten_normalized_namespaced_tool_call`. -/
def flattenNormalizedNamespacedToolCall (call : NormalizedOpenAiFamilyToolCall) :
    NormalizedOpenAiFamilyToolCall :=
  match call.namespaceName with
  | some ns => { call with name := flatToolName ns call.name, namespaceName := none }
  | none => call

/-- `responses_tool_call_item_to_openai_tool_call_strict`. -/
def responsesToolCallItemToOpenaiToolCallStrict (env : Env) (item : Value) :
    Except String (Option Value) := do
  let call ← normalizedResponsesToolCall env item
  pure (call.map fun call => copyNonReplayableToolCallMarker env item
    (normalizedToolCallToOpenai (flattenNormalizedNamespacedToolCall call)))

def responsesCallItem (itemType payloadField : String) (id : Option Value)
    (name payload : String) : Value :=
  .ofFields [("type", .string itemType), ("call_id", .ofOption id), ("name", .string name),
    (payloadField, .string payload)]

/-- `normalized_tool_call_to_responses_item` (`translate/internal/tools.rs` 1927-1972). -/
def normalizedToolCallToResponsesItem (call : NormalizedOpenAiFamilyToolCall) : Value :=
  let item := if call.custom then
      responsesCallItem "custom_tool_call" "input" call.id call.name call.payload
    else responsesCallItem "function_call" "arguments" call.id call.name call.payload
  let item := match call.namespaceName with
    | some ns => item.set "namespace" (.string ns)
    | none => item
  withProxiedToolKind call.proxiedToolKind item

/-- `openai_tool_call_to_responses_item` (`translate/internal/tools.rs` 1974-1989), of a call that
is neither of a function nor of a custom tool: its fields are taken as they are. -/
def openaiToolCallToResponsesItem (env : Env) (toolCall : Value) : Value :=
  let item := match normalizedOpenaiToolCall toolCall with
    | .ok (some call) => normalizedToolCallToResponsesItem call
    | _ => .ofFields [("type", .string "function_call"), ("call_id", .ofOption (toolCall.get "id")),
        ("name", .ofOption ((toolCall.get "function").bind (Value.get · "name"))),
        ("arguments", .string ((openaiToolArgumentsRaw toolCall).getD "\x7b\x7d"))]
  copyNonReplayableToolCallMarker env toolCall item

/-- The item of a call, for a client whose tools were bridged. -/
def bridgedCallItem (serde : Serde) (bridgeContext : Option ToolBridgeContext)
    (call : NormalizedOpenAiFamilyToolCall) : Value :=
  if call.custom then normalizedToolCallToResponsesItem call
  else if expectsWrapper bridgeContext call.name then
    match openaiResponsesCustomToolInputFromBridgeArguments serde call.payload with
    | some input => withProxiedToolKind call.proxiedToolKind
        (responsesCallItem "custom_tool_call" "input" call.id call.name input)
    | none => normalizedToolCallToResponsesItem call
  else
    match bridgeContext.bind (ToolBridgeContext.namespaceBridgeSplit · call.name) with
    | some (ns, child) => withProxiedToolKind call.proxiedToolKind
        ((responsesCallItem "function_call" "arguments" call.id child call.payload).set "namespace"
          (.string ns))
    | none => normalizedToolCallToResponsesItem call

/-- `openai_tool_call_to_responses_item_decoding_custom_bridge_with_context`
(`translate/internal/tools.rs` 1998-2089). -/
def openaiToolCallToResponsesItemDecodingCustomBridge (env : Env)
    (bridgeContext : Option ToolBridgeContext) (toolCall : Value) : Except String Value := do
  match ← normalizedOpenaiToolCall toolCall with
  | none => pure (openaiToolCallToResponsesItem env toolCall)
  | some call =>
      pure (copyNonReplayableToolCallMarker env toolCall
        (bridgedCallItem env.serde bridgeContext call))

/-! ## What the markers leave alone -/

theorem get_withProxiedToolKind (kind : Option Value) (call : Value) {k : String}
    (h : k ≠ "proxied_tool_kind") : (withProxiedToolKind kind call).get k = call.get k := by
  cases kind with
  | none => rfl
  | some kind => exact Value.get_set_of_ne call kind h

theorem getStr_withProxiedToolKind (kind : Option Value) (call : Value) {k : String}
    (h : k ≠ "proxied_tool_kind") : (withProxiedToolKind kind call).getStr k = call.getStr k :=
  congrArg (Option.bind · Value.asStr) (get_withProxiedToolKind kind call h)

theorem get_markToolCall (env : Env) (value : Value) {k : String}
    (h : k ≠ nonReplayableToolCallField) :
    (markToolCallAsNonReplayable env value).get k = value.get k := by
  unfold markToolCallAsNonReplayable
  split
  · exact Value.get_set_of_ne value _ h
  · rfl

theorem get_copyMarker (env : Env) (source dest : Value) {k : String}
    (h : k ≠ nonReplayableToolCallField) :
    (copyNonReplayableToolCallMarker env source dest).get k = dest.get k := by
  unfold copyNonReplayableToolCallMarker
  split
  · exact get_markToolCall env dest h
  · rfl

theorem getStr_copyMarker (env : Env) (source dest : Value) {k : String}
    (h : k ≠ nonReplayableToolCallField) :
    (copyNonReplayableToolCallMarker env source dest).getStr k = dest.getStr k :=
  congrArg (Option.bind · Value.asStr) (get_copyMarker env source dest h)

end LlmUniversalProxy.Translate
