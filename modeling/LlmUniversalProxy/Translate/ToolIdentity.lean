import LlmUniversalProxy.Formats
import LlmUniversalProxy.InternalArtifacts
import LlmUniversalProxy.Translate.Env

/-!
# `Translate.ToolIdentity` — the names that tools may be seen under

Names with the prefix of the custom-tool bridge are the proxy's own: neither side may use one. The
checks differ in where they look for names; the texts of their errors all come from
`reservedOpenaiCustomBridgePrefixMessage`.

The source is `translate/internal/tools.rs` 20-66, 713-944 and 1189-1232.
-/

set_option autoImplicit false

namespace LlmUniversalProxy.Translate

open Json Lib

/-! ## Reserved names -/

/-- `translation_target_label`. -/
def translationTargetLabel : UpstreamFormat → String
  | .openAiChatCompletions => "OpenAI Chat Completions"
  | .openAiResponses => "OpenAI Responses"
  | .anthropic => "Anthropic"

/-- `custom_tools_not_portable_message`. -/
def customToolsNotPortableMessage (upstreamFormat : UpstreamFormat) : String :=
  s!"OpenAI custom tools cannot be faithfully translated to " ++
    s!"{translationTargetLabel upstreamFormat}; failing closed because no safe function-tool " ++
    "representation exists"

/-- `reserved_openai_custom_bridge_prefix_message`. -/
def reservedOpenaiCustomBridgePrefixMessage (name : String) : String :=
  s!"OpenAI Responses function name `{name}` uses reserved bridge prefix `__llmup_custom__`; " ++
    "this namespace is reserved for synthetic custom-tool bridging to OpenAI Chat Completions"

/-- `openai_responses_custom_tool_bridge_prefix_is_reserved`. -/
def openaiResponsesCustomToolBridgePrefixIsReserved (name : String) : Bool :=
  Text.startsWith name openaiResponsesCustomBridgePrefix

/-- `validate_public_tool_name_not_reserved`. -/
def validatePublicToolNameNotReserved (name : String) : Except String Unit :=
  if openaiResponsesCustomToolBridgePrefixIsReserved name then
    throw (reservedOpenaiCustomBridgePrefixMessage name)
  else pure ()

/-- `validate_public_tool_identity_value_not_reserved`. -/
def validatePublicToolIdentityValueNotReserved (value : Option Value) : Except String Unit :=
  match (value.bind Value.asStr).filter fun value => !value.isEmpty with
  | some value => validatePublicToolNameNotReserved value
  | none => pure ()

theorem nameNotReserved_ok {name : String} :
    validatePublicToolNameNotReserved name = .ok () ↔
      openaiResponsesCustomToolBridgePrefixIsReserved name = false := by
  unfold validatePublicToolNameNotReserved
  cases openaiResponsesCustomToolBridgePrefixIsReserved name with
  | true => exact ⟨fun h => (nomatch h), fun h => (nomatch h)⟩
  | false => exact ⟨fun _ => rfl, fun _ => rfl⟩

/-- The empty name is not reserved, so it makes no difference that it is not checked. -/
theorem identityValue_eq (value : Option Value) :
    validatePublicToolIdentityValueNotReserved value =
      match value.bind Value.asStr with
      | some name => validatePublicToolNameNotReserved name
      | none => .ok () := by
  unfold validatePublicToolIdentityValueNotReserved
  cases value.bind Value.asStr with
  | none => rfl
  | some name =>
    by_cases hempty : name = ""
    · subst hempty
      rfl
    · have hsome : (some name).filter (fun value => !value.isEmpty) = some name := by
        simp [hempty]
      rw [hsome]

theorem identityValue_ok {value : Option Value} :
    validatePublicToolIdentityValueNotReserved value = .ok () ↔
      ∀ name, value.bind Value.asStr = some name →
        openaiResponsesCustomToolBridgePrefixIsReserved name = false := by
  rw [identityValue_eq]
  cases value.bind Value.asStr with
  | none => exact ⟨fun _ name h => (nomatch h), fun _ => rfl⟩
  | some name =>
    constructor
    · intro h other hother
      cases hother
      exact nameNotReserved_ok.mp h
    · intro h
      exact nameNotReserved_ok.mpr (h name rfl)

/-- `selector_container_key_is_visible_identity_carrier`. -/
def selectorContainerKeyIsVisibleIdentityCarrier (key : String) : Bool :=
  key ∈ ["function", "custom", "tool", "tools", "allowed_tool", "allowed_tools", "allowedTools",
    "selected_tool", "selected_tools", "selectedTools", "allowed_function_names"]

/-- A check with the place it was made at in front of its message. -/
def checkAt (place : String) (check : Except String Unit) : Except String Unit :=
  check.mapError fun error => s!"{place}: {error}"

/-- One of the two fields that `validate_public_selector_visible_identity_at` reads itself. -/
def validateSelectorField (fields : List (String × Value)) (path key : String) :
    Except String Unit :=
  match (fields.lookup key).bind Value.asStr with
  | some name => checkAt s!"{path}.{key}" (validatePublicToolNameNotReserved name)
  | none => pure ()

mutual

/-- `validate_public_selector_visible_identity_at` (`translate/internal/tools.rs` 751-779). -/
def validatePublicSelectorVisibleIdentityAt : Value → String → Except String Unit
  | .string name, path =>
      if name.isEmpty then pure () else checkAt path (validatePublicToolNameNotReserved name)
  | .array items, path => validateSelectorItems items 0 path
  | .object fields, path => do
      validateSelectorField fields path "name"
      validateSelectorField fields path "namespace"
      validateSelectorFields fields path
  | _, _ => pure ()

def validateSelectorItems : List Value → Nat → String → Except String Unit
  | [], _, _ => pure ()
  | item :: items, index, path => do
      validatePublicSelectorVisibleIdentityAt item s!"{path}[{index}]"
      validateSelectorItems items (index + 1) path

def validateSelectorFields : List (String × Value) → String → Except String Unit
  | [], _ => pure ()
  | (key, nested) :: fields, path => do
      if selectorContainerKeyIsVisibleIdentityCarrier key then
        validatePublicSelectorVisibleIdentityAt nested s!"{path}.{key}"
      validateSelectorFields fields path

end

/-- `validate_public_selector_visible_identity`. -/
def validatePublicSelectorVisibleIdentity (value : Value) : Except String Unit :=
  validatePublicSelectorVisibleIdentityAt value "$"

/-! ## OpenAI Chat -/

/-- `validate_openai_public_tool_identity`. -/
def validateOpenaiPublicToolIdentity (value : Value) : Except String Unit := do
  validatePublicToolIdentityValueNotReserved (some value)
  validatePublicToolIdentityValueNotReserved (value.get "name")
  validatePublicToolIdentityValueNotReserved ((value.get "function").bind (Value.get · "name"))
  validatePublicToolIdentityValueNotReserved ((value.get "custom").bind (Value.get · "name"))

/-! ## OpenAI Responses -/

/-- `validate_responses_public_nested_tool_reference_identity`. -/
def validateResponsesPublicNestedToolReferenceIdentity : Option Value → Except String Unit
  | none => pure ()
  | some value => do
      validatePublicToolIdentityValueNotReserved (some value)
      validatePublicToolIdentityValueNotReserved (value.get "name")
      validatePublicToolIdentityValueNotReserved (value.get "namespace")

/-- `validate_responses_public_tool_reference_identity` (`translate/internal/tools.rs` 837-845). -/
def validateResponsesPublicToolReferenceIdentity (value : Value) : Except String Unit := do
  validatePublicSelectorVisibleIdentity value
  validatePublicToolIdentityValueNotReserved (some value)
  validatePublicToolIdentityValueNotReserved (value.get "name")
  validatePublicToolIdentityValueNotReserved (value.get "namespace")
  validateResponsesPublicNestedToolReferenceIdentity (value.get "function")
  validateResponsesPublicNestedToolReferenceIdentity (value.get "custom")

def selectedTools (choice : Value) : Option (List Value) :=
  ((((choice.get "allowed_tools").filter Value.isObject).bind (Value.get · "tools")).or
    (choice.get "tools")).bind Value.asArray

/-- `validate_responses_public_tool_choice_identity`. -/
def validateResponsesPublicToolChoiceIdentity (choice : Value) : Except String Unit := do
  validateResponsesPublicToolReferenceIdentity choice
  ((selectedTools choice).getD []).forM validateResponsesPublicToolReferenceIdentity

/-- `validate_responses_public_tool_metadata_identity`. -/
def validateResponsesPublicToolMetadataIdentity (value : Value) : Except String Unit := do
  ((value.getArray "tools").getD []).forM validateResponsesPublicToolReferenceIdentity
  match (value.get "tool_choice").filter fun choice => !choice.isNull with
  | some toolChoice => validateResponsesPublicToolChoiceIdentity toolChoice
  | none => pure ()

/-- `validate_responses_public_stream_event_tool_identity` (`translate/internal/tools.rs` 894-911).
-/
def validateResponsesPublicStreamEventToolIdentity (event : Value) : Except String Unit := do
  validateResponsesPublicToolMetadataIdentity event
  match event.getStr "type" with
  | some "response.function_call_arguments.delta" | some "response.function_call_arguments.done"
  | some "response.custom_tool_call_input.delta" | some "response.custom_tool_call_input.done" =>
      validatePublicToolIdentityValueNotReserved (event.get "name")
      validatePublicToolIdentityValueNotReserved (event.get "namespace")
  | _ => pure ()

/-- `validate_responses_public_tool_call_item_identity`. -/
def validateResponsesPublicToolCallItemIdentity (item : Value) : Except String Unit :=
  match item.getStr "type" with
  | some "function_call" | some "custom_tool_call" => do
      validatePublicToolIdentityValueNotReserved (item.get "name")
      validatePublicToolIdentityValueNotReserved (item.get "namespace")
  | _ => pure ()

/-- `validate_responses_public_output_tool_identity`. -/
def validateResponsesPublicOutputToolIdentity (output : Value) : Except String Unit :=
  (output.asArray.getD []).forM validateResponsesPublicToolCallItemIdentity

/-- `validate_responses_public_response_object_tool_identity`. -/
def validateResponsesPublicResponseObjectToolIdentity (response : Value) : Except String Unit := do
  validateResponsesPublicToolMetadataIdentity response
  match response.get "output" with
  | some output => validateResponsesPublicOutputToolIdentity output
  | none => pure ()

/-! ## The kinds of tools -/

/-- `SemanticToolKind`. -/
inductive SemanticToolKind where
  | function
  | openAiCustom
  | anthropicServerTool
  deriving DecidableEq, Repr

/-- `proxied_tool_kind_name`. -/
def proxiedToolKindName (value : Value) : Option String :=
  (((value.get "function").bind (Value.getStr · "name")).or (value.getStr "name")).filter
    fun name => !name.isEmpty

/-- `proxied_tool_kind_signature`. -/
def proxiedToolKindSignature (env : Env) (name : Option String) : String :=
  env.signature (.ofFields [("v", .nat 1), ("kind", .string "anthropic_server_tool_use"),
    ("name", .string (name.getD ""))])

/-- `proxied_tool_kind_is_attested`. -/
def proxiedToolKindIsAttested (env : Env) (value : Value) : Bool :=
  if value.getStr "proxied_tool_kind" ≠ some "anthropic_server_tool_use" then false
  else
    match value.getStr "_llmup_proxied_tool_kind_sig" with
    | none => false
    | some signature => signature = proxiedToolKindSignature env (proxiedToolKindName value)

/-- `semantic_tool_kind_from_value` (`translate/internal/tools.rs` 51-66). -/
def semanticToolKindFromValue (env : Env) (value : Value) : SemanticToolKind :=
  if value.getStr "proxied_tool_kind" = some "anthropic_server_tool_use" ∧
      proxiedToolKindIsAttested env value then .anthropicServerTool
  else
    match value.getStr "type" with
    | some "custom" | some "custom_tool_call" | some "custom_tool_call_output" => .openAiCustom
    | _ => .function

/-- `anthropic_tool_use_type_for_openai_tool_call` (`translate/internal/tools.rs` 20-49). -/
def anthropicToolUseTypeForOpenaiToolCall (env : Env) (toolCall : Value) :
    Except String String := do
  validateOpenaiPublicToolIdentity toolCall
  let checkName : Except String Unit :=
    match (toolCall.get "function").bind (Value.getStr · "name") with
    | some name => validatePublicToolNameNotReserved name
    | none => pure ()
  match semanticToolKindFromValue env toolCall with
  | .openAiCustom => throw (customToolsNotPortableMessage .anthropic)
  | .anthropicServerTool => do
      checkName
      pure "server_tool_use"
  | .function => do
      checkName
      pure "tool_use"

end LlmUniversalProxy.Translate
