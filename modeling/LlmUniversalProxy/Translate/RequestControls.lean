import LlmUniversalProxy.Translate.Assessment
import LlmUniversalProxy.Translate.Response

/-!
# `Translate.RequestControls` — the controls of a request, in one form

Chat and Responses write the same wishes down differently: which tools may be used and whether one
must be, what shape the output has, how much of the log probabilities comes back. They are read into
one record here, which refuses what it has no form for.

The source is `translate/internal/openai_family.rs` 13-588.
-/

set_option autoImplicit false

namespace LlmUniversalProxy.Translate

open Json Lib

/-! ## Tools by name -/

/-- `openai_function_tool_name`. -/
def openaiFunctionToolName (value : Value) : Option String :=
  if value.getStr "type" ≠ some "function" then none
  else
    ((((value.get "function").bind (Value.get · "name")).or (value.get "name")).bind
      Value.asStr).filter fun name => !name.isEmpty

/-- `openai_declared_function_tools`. -/
def openaiDeclaredFunctionTools (body : Value) : List Value :=
  ((body.getArray "tools").getD []).filter fun tool => (openaiFunctionToolName tool).isSome

/-- `openai_select_function_tools_by_name` (`openai_family.rs` 321-339). -/
def openaiSelectFunctionToolsByName (tools : List Value) (selectedNames : List String)
    (selectorLabel : String) : Except String (List Value) :=
  selectedNames.mapM fun selectedName =>
    match tools.find? fun tool => openaiFunctionToolName tool = some selectedName with
    | some tool => .ok tool
    | none => .error <| s!"OpenAI {selectorLabel} selected function `{selectedName}`, but no " ++
        "matching declared function tool exists."

/-- `openai_portable_function_tools`. -/
def openaiPortableFunctionTools (body : Value) (restrictedToolNames : Option (List String))
    (selectorLabel : String) : Except String (List Value) :=
  match restrictedToolNames with
  | some selectedNames => openaiSelectFunctionToolsByName (openaiDeclaredFunctionTools body)
      selectedNames selectorLabel
  | none => .ok (openaiDeclaredFunctionTools body)

/-- `openai_tool_choice_allowed_tools_object`. -/
def openaiToolChoiceAllowedToolsObject (choice : Value) : Option Value :=
  ((choice.get "allowed_tools").filter Value.isObject).or
    (if (choice.get "mode").isSome && (choice.get "tools").isSome then some choice else none)

/-- `openai_legacy_allowed_tool_names`. -/
def openaiLegacyAllowedToolNames (body : Value) : Option (List String) :=
  (body.getArray "allowed_tool_names").bind fun allowedToolNames =>
    some ((allowedToolNames.filterMap Value.asStr).filter fun name => !name.isEmpty)
      |>.filter fun names => !names.isEmpty

/-! ## The policy for tools -/

/-- `NormalizedToolPolicy`. -/
inductive NormalizedToolPolicy where
  | auto
  | none
  | required
  | forcedFunction (name : String)
  deriving DecidableEq, Repr

/-- The names that `allowed_tools` selects; `none` when there is a custom tool among them. -/
def selectedFunctionNames : List Value → Except String (Option (List String))
  | [] => .ok (some [])
  | selectedTool :: rest =>
      match selectedTool.getStr "type" with
      | some "function" =>
          do
            let name ← okOr (openaiFunctionToolName selectedTool) <|
              "OpenAI tool_choice.allowed_tools function selections require non-empty function " ++
                "names."
            validatePublicToolNameNotReserved name
            let names ← selectedFunctionNames rest
            pure (names.map (name :: ·))
      | some "custom" => .ok Option.none
      | _ => .error <| "OpenAI tool_choice.allowed_tools is only portable for function/custom tools."

/-- The policy of a choice of `allowed_tools`. -/
def allowedToolsPolicy (declaredTools : List Value) (toolChoice : Value) :
    Except String (Option NormalizedToolPolicy × Option (List String)) := do
  let allowedTools ← okOr (openaiToolChoiceAllowedToolsObject toolChoice)
    "OpenAI tool_choice.type = allowed_tools requires an `allowed_tools` payload."
  let mode ← okOr (allowedTools.getStr "mode")
    "OpenAI tool_choice.allowed_tools.mode is required for allowed_tools translation."
  let selectedTools ← okOr (allowedTools.getArray "tools")
    "OpenAI tool_choice.allowed_tools.tools must be an array of selected tools."
  if selectedTools.isEmpty then
    throw <| "OpenAI tool_choice.allowed_tools.tools cannot be empty for cross-protocol translation."
  match ← selectedFunctionNames selectedTools with
  -- with a custom tool among them the choice is dropped
  | none => pure (none, none)
  | some selectedNames =>
      -- the selection is only made to see that every name is declared
      let _ ← openaiSelectFunctionToolsByName declaredTools selectedNames "tool_choice.allowed_tools"
      match mode with
      | "auto" => pure (some .auto, some selectedNames)
      | "required" => pure (some .required, some selectedNames)
      | other => throw s!"OpenAI tool_choice.allowed_tools.mode `{other}` is not portable."

/-- `openai_normalized_tool_policy` (`openai_family.rs` 371-489): the policy, and the tools it is
restricted to. -/
def openaiNormalizedToolPolicy (body : Value) :
    Except String (Option NormalizedToolPolicy × Option (List String)) := do
  let legacyAllowedToolNames := openaiLegacyAllowedToolNames body
  (legacyAllowedToolNames.getD []).forM validatePublicToolNameNotReserved
  match (body.get "tool_choice").filter fun value => !value.isNull with
  | none => pure (none, none)
  | some (.string "auto") => pure (some .auto, none)
  | some (.string "none") => pure (some .none, none)
  -- the only choice that `allowed_tool_names` can restrict
  | some (.string "required") => pure (some .required, legacyAllowedToolNames)
  | some toolChoice =>
      match toolChoice.getStr "type" with
      | some "function" =>
          do
            let name := ((toolChoice.get "name").or
              ((toolChoice.get "function").bind (Value.get · "name"))).bind Value.asStr
            let name ← okOr (name.filter fun name => !name.isEmpty)
              "OpenAI tool_choice.type = function requires a non-empty function name."
            validatePublicToolNameNotReserved name
            pure (some (.forcedFunction name), none)
      | some "allowed_tools" => allowedToolsPolicy (openaiDeclaredFunctionTools body) toolChoice
      | _ => pure (none, none)

/-! ## The shape of the output -/

/-- `NormalizedJsonSchemaOutputShape`. -/
structure NormalizedJsonSchemaOutputShape where
  name : String
  schema : Value
  description : Option String
  strict : Option Bool

/-- `NormalizedOutputShape`. -/
inductive NormalizedOutputShape where
  | text
  | jsonObject
  | jsonSchema (schema : NormalizedJsonSchemaOutputShape)

/-- The schema that `container` describes. -/
def jsonSchemaOf (container schema : Value) : NormalizedJsonSchemaOutputShape :=
  { name := ((container.getStr "name").filter fun name => !name.isEmpty).getD "structured_output"
    schema := schema
    description := container.getStr "description"
    strict := (container.get "strict").bind Value.asBool }

/-- `openai_response_format_json_schema` (`openai_family.rs` 13-40). -/
def openaiResponseFormatJsonSchema (container : Value) :
    Except String NormalizedJsonSchemaOutputShape := do
  let jsonSchema ← okOr ((container.get "json_schema").filter Value.isObject)
    "OpenAI response_format.type = json_schema requires a `json_schema` object"
  let schema ← okOr (jsonSchema.get "schema") <| "OpenAI response_format.json_schema.schema is " ++
    "required for structured output translation"
  pure (jsonSchemaOf jsonSchema schema)

/-- `responses_text_format_json_schema`. -/
def responsesTextFormatJsonSchema (container : Value) :
    Except String NormalizedJsonSchemaOutputShape :=
  (okOr (container.get "schema")
    "Responses text.format.type = json_schema requires a `schema` object").map (jsonSchemaOf container)

/-- The shape that `format` names, under the name `field` that its errors use. -/
def outputShapeOf (field : String)
    (schemaOf : Value → Except String NormalizedJsonSchemaOutputShape) (format : Option Value) :
    Except String (Option NormalizedOutputShape) :=
  match format.filter fun value => !value.isNull with
  | none => .ok none
  | some format =>
    if !format.isObject then
      .error s!"{field} must be an object when translating structured output controls"
    else
      match format.getStr "type" with
      | some "text" => .ok (some .text)
      | some "json_object" => .ok (some .jsonObject)
      | some "json_schema" => (schemaOf format).map fun schema => some (.jsonSchema schema)
      | some other => .error s!"{field}.type `{other}` cannot be faithfully translated"
      | none => .error s!"{field}.type is required when translating structured output controls"

/-- `openai_normalized_output_shape`. -/
def openaiNormalizedOutputShape (body : Value) : Except String (Option NormalizedOutputShape) :=
  outputShapeOf "OpenAI response_format" openaiResponseFormatJsonSchema (body.get "response_format")

/-- `responses_normalized_output_shape`. -/
def responsesNormalizedOutputShape (body : Value) : Except String (Option NormalizedOutputShape) :=
  outputShapeOf "Responses text.format" responsesTextFormatJsonSchema
    ((body.get "text").bind (Value.get · "format"))

/-- What a schema says besides itself. -/
def schemaFields (schema : NormalizedJsonSchemaOutputShape) : List (String × Value) :=
  [("name", .string schema.name), ("schema", schema.schema)] ++
    (schema.description.map fun text => ("description", Value.string text)).toList ++
    (schema.strict.map fun strict => ("strict", Value.bool strict)).toList

/-- `normalized_output_shape_to_openai_response_format`. -/
def normalizedOutputShapeToOpenaiResponseFormat : NormalizedOutputShape → Value
  | .text => .ofFields [("type", .string "text")]
  | .jsonObject => .ofFields [("type", .string "json_object")]
  | .jsonSchema schema => .ofFields [("type", .string "json_schema"),
      ("json_schema", .ofFields (schemaFields schema))]

/-- `normalized_output_shape_to_responses_text_format`. -/
def normalizedOutputShapeToResponsesTextFormat : NormalizedOutputShape → Value
  | .text => .ofFields [("type", .string "text")]
  | .jsonObject => .ofFields [("type", .string "json_object")]
  | .jsonSchema schema => .ofFields (("type", .string "json_schema") :: schemaFields schema)

/-- `normalized_output_shape_to_claude_output_config`. -/
def normalizedOutputShapeToClaudeOutputConfig : NormalizedOutputShape → Except String (Option Value)
  | .text => .ok none
  | .jsonSchema schema => .ok (some (.ofFields [("format", .ofFields
      [("type", .string "json_schema"), ("schema", schema.schema)])]))
  | .jsonObject => .error <| "OpenAI/Responses `json_object` structured output cannot be " ++
      "faithfully translated to Anthropic structured outputs"

/-! ## Prompt caching -/

/-- `openai_extra_body_anthropic_cache_control`. -/
def openaiExtraBodyAnthropicCacheControl (body : Value) : Option Value :=
  ((body.get "extra_body").bind (Value.get · "anthropic")).bind (Value.get · "cache_control")

/-- `openai_extra_body_anthropic_cache_control_message`. -/
def openaiExtraBodyAnthropicCacheControlMessage (detail : String) : String :=
  "extra_body.anthropic.cache_control must be an object with `type`: \"ephemeral\" and optional " ++
    s!"`ttl`: \"5m\" or \"1h\"; {detail}"

/-- `validate_openai_extra_body_anthropic_cache_control` (`openai_family.rs` 242-288). -/
def validateOpenaiExtraBodyAnthropicCacheControl (cacheControl : Value) : Except String Unit := do
  let refuse (detail : String) : Except String Unit :=
    throw (openaiExtraBodyAnthropicCacheControlMessage detail)
  match cacheControl.asObject with
  | none => refuse "value must be an object"
  | some fields => do
      if fields.any fun field => field.1 ≠ "type" && field.1 ≠ "ttl" then
        refuse "only `type` and optional `ttl` are supported"
      match cacheControl.getStr "type" with
      | some "ephemeral" => pure ()
      | some _ => refuse "`type` must be \"ephemeral\""
      | none => refuse "`type` is required"
      match cacheControl.get "ttl" with
      | none => pure ()
      | some (.string "5m") | some (.string "1h") => pure ()
      | some (.string _) => refuse "`ttl` must be \"5m\" or \"1h\""
      | some _ => refuse "`ttl` must be a string"

/-- `validated_openai_extra_body_anthropic_cache_control`. -/
def validatedOpenaiExtraBodyAnthropicCacheControl (body : Value) :
    Except String (Option Value) :=
  match openaiExtraBodyAnthropicCacheControl body with
  | none => .ok none
  | some cacheControl =>
      (validateOpenaiExtraBodyAnthropicCacheControl cacheControl).map fun _ => some cacheControl

/-! ## The record -/

/-- `NormalizedLogprobsControls`. -/
structure NormalizedLogprobsControls where
  enabled : Bool
  topLogprobs : Option Value

/-- The controls for log probabilities, where anything is said about them. -/
def logprobsControls (enabled : Bool) (topLogprobs : Option Value) :
    Option NormalizedLogprobsControls :=
  if enabled || topLogprobs.isSome then some ⟨enabled, topLogprobs⟩ else none

/-- `openai_normalized_logprobs_controls`. -/
def openaiNormalizedLogprobsControls (body : Value) : Option NormalizedLogprobsControls :=
  logprobsControls ((body.get "logprobs").bind Value.asBool = some true) (body.get "top_logprobs")

/-- `responses_include_requests_output_text_logprobs`. -/
def responsesIncludeRequestsOutputTextLogprobs (body : Value) : Bool :=
  (((body.getArray "include").getD []).filterMap Value.asStr).contains "message.output_text.logprobs"

/-- `responses_normalized_logprobs_controls`. -/
def responsesNormalizedLogprobsControls (body : Value) : Option NormalizedLogprobsControls :=
  logprobsControls (responsesIncludeRequestsOutputTextLogprobs body) (body.get "top_logprobs")

/-- `NormalizedRequestControls`, of which the decoding controls and `store` have no reader among
the conversions. -/
structure NormalizedRequestControls where
  toolPolicy : Option NormalizedToolPolicy := none
  restrictedToolNames : Option (List String) := none
  outputShape : Option NormalizedOutputShape
  logprobs : Option NormalizedLogprobsControls
  metadata : Option Value
  user : Option Value
  serviceTier : Option Value
  streamIncludeObfuscation : Option Value
  verbosity : Option Value
  reasoningEffort : Option Value
  promptCacheKey : Option Value
  promptCacheRetention : Option Value
  anthropicCacheControl : Option Value
  safetyIdentifier : Option Value
  parallelToolCalls : Option Value

/-- `request_stream_include_obfuscation`. -/
def requestStreamIncludeObfuscation (body : Value) : Option Value :=
  (body.get "stream_options").bind (Value.get · "include_obfuscation")

/-- `openai_normalized_request_controls` (`openai_family.rs` 491-514). -/
def openaiNormalizedRequestControls (body : Value) : Except String NormalizedRequestControls := do
  let (toolPolicy, restrictedToolNames) ← openaiNormalizedToolPolicy body
  let outputShape ← openaiNormalizedOutputShape body
  let anthropicCacheControl ← validatedOpenaiExtraBodyAnthropicCacheControl body
  pure
    { toolPolicy := toolPolicy
      restrictedToolNames := restrictedToolNames
      outputShape := outputShape
      logprobs := openaiNormalizedLogprobsControls body
      metadata := body.get "metadata"
      user := body.get "user"
      serviceTier := body.get "service_tier"
      streamIncludeObfuscation := requestStreamIncludeObfuscation body
      verbosity := body.get "verbosity"
      reasoningEffort := body.get "reasoning_effort"
      promptCacheKey := body.get "prompt_cache_key"
      promptCacheRetention := body.get "prompt_cache_retention"
      anthropicCacheControl := anthropicCacheControl
      safetyIdentifier := body.get "safety_identifier"
      parallelToolCalls := body.get "parallel_tool_calls" }

/-- `responses_normalized_request_controls` (`openai_family.rs` 516-536). -/
def responsesNormalizedRequestControls (body : Value) :
    Except String NormalizedRequestControls := do
  let outputShape ← responsesNormalizedOutputShape body
  let anthropicCacheControl ← validatedOpenaiExtraBodyAnthropicCacheControl body
  pure
    { outputShape := outputShape
      logprobs := responsesNormalizedLogprobsControls body
      metadata := body.get "metadata"
      user := body.get "user"
      serviceTier := body.get "service_tier"
      streamIncludeObfuscation := requestStreamIncludeObfuscation body
      verbosity := (body.get "text").bind (Value.get · "verbosity")
      reasoningEffort := (body.get "reasoning").bind (Value.get · "effort")
      promptCacheKey := body.get "prompt_cache_key"
      promptCacheRetention := body.get "prompt_cache_retention"
      anthropicCacheControl := anthropicCacheControl
      safetyIdentifier := body.get "safety_identifier"
      parallelToolCalls := body.get "parallel_tool_calls" }

/-! ## Sampling -/

/-- `anthropic_nondefault_sampling_withhold_fields`. -/
def anthropicNondefaultSamplingWithholdFields (resolvedUpstreamModel : String) (body : Value) :
    List String :=
  if anthropicUpstreamRejectsNondefaultSampling resolvedUpstreamModel then
    ["temperature", "top_p"].filter fun field => openaiSamplingFieldIsNondefault (body.get field)
  else []

end LlmUniversalProxy.Translate
