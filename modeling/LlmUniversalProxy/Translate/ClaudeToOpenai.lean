import LlmUniversalProxy.Translate.OpenaiToClaude

/-!
# `Translate.ClaudeToOpenai` — a request of Anthropic for Chat

The system prompt becomes the first message, every message becomes the messages its blocks make up,
and tools become function tools. Controls that only OpenAI knows come in under `extra_body.openai`.

The source is `translate/internal.rs` 1598-1645 and 1831-2119.
-/

set_option autoImplicit false

namespace LlmUniversalProxy.Translate

open Json Lib

/-! ## Controls of OpenAI -/

/-- `OpenAiPromptCacheControls`. -/
structure OpenAiPromptCacheControls where
  promptCacheKey : Value
  promptCacheRetention : Option Value

/-- `anthropic_extra_body_openai_prompt_cache_controls`. -/
def anthropicExtraBodyOpenaiPromptCacheControls (body : Value) : Option Value :=
  (body.get "extra_body").bind (Value.get · "openai")

/-- `anthropic_extra_body_openai_prompt_cache_controls_message`. -/
def anthropicExtraBodyOpenaiPromptCacheControlsMessage (detail : String) : String :=
  "extra_body.openai must be an object with non-empty string `prompt_cache_key` and optional " ++
    s!"`prompt_cache_retention`: \"in_memory\" or \"24h\"; {detail}"

/-- Only these keys are there. -/
def hasOnlyKeys (keys : List String) (value : Value) : Bool :=
  (value.asObject.getD []).all fun field => field.1 ∈ keys

/-- `validated_anthropic_extra_body_openai_prompt_cache_controls` (`openai_family.rs` 163-224). -/
def validatedAnthropicExtraBodyOpenaiPromptCacheControls (body : Value) :
    Except String (Option OpenAiPromptCacheControls) :=
  let refuse {α : Type} (detail : String) : Except String α :=
    .error (anthropicExtraBodyOpenaiPromptCacheControlsMessage detail)
  match anthropicExtraBodyOpenaiPromptCacheControls body with
  | none => .ok none
  | some openai =>
    if !openai.isObject then refuse "value must be an object"
    else if !hasOnlyKeys ["prompt_cache_key", "prompt_cache_retention"] openai then
      refuse "only `prompt_cache_key` and optional `prompt_cache_retention` are supported"
    else do
      let promptCacheKey ←
        match openai.get "prompt_cache_key" with
        | some (.string key) =>
            -- the key is trimmed for the check only; it goes on as it is
            if (Text.trim key).isEmpty then refuse "`prompt_cache_key` must be a non-empty string"
            else pure (Value.string key)
        | some _ => refuse "`prompt_cache_key` must be a string"
        | none => refuse "`prompt_cache_key` is required"
      let promptCacheRetention ←
        match openai.get "prompt_cache_retention" with
        | none => pure none
        | some (.string "in_memory") => pure (some (Value.string "in_memory"))
        | some (.string "24h") => pure (some (Value.string "24h"))
        | some (.string _) => refuse "`prompt_cache_retention` must be \"in_memory\" or \"24h\""
        | some _ => refuse "`prompt_cache_retention` must be a string"
      pure (some ⟨promptCacheKey, promptCacheRetention⟩)

/-- `AnthropicExtraBodyOpenAiControls`. -/
structure AnthropicExtraBodyOpenAiControls where
  promptCacheKey : Option Value
  promptCacheRetention : Option Value
  reasoningEffort : Option Value

/-- `anthropic_extra_body_openai_controls_message`. -/
def anthropicExtraBodyOpenaiControlsMessage (detail : String) : String :=
  "extra_body.openai supports non-empty string `prompt_cache_key`, optional " ++
    "`prompt_cache_retention`: \"in_memory\" or \"24h\", and optional `reasoning_effort`: one of " ++
    s!"none, minimal, low, medium, high, xhigh, max, ultra; {detail}"

/-- The names that `ReasoningLevel::parse` takes. -/
def reasoningLevels : List String :=
  ["none", "minimal", "low", "medium", "high", "xhigh", "max", "ultra"]

/-- The two prompt-cache controls of `openai`, checked as if they stood there alone. -/
def promptCacheControlsOf (openai : Value) : Except String (Option OpenAiPromptCacheControls) :=
  if (openai.get "prompt_cache_key").isSome || (openai.get "prompt_cache_retention").isSome then
    let controls := setSome "prompt_cache_retention" (openai.get "prompt_cache_retention")
      (setSome "prompt_cache_key" (openai.get "prompt_cache_key") (.ofFields []))
    validatedAnthropicExtraBodyOpenaiPromptCacheControls
      (.ofFields [("extra_body", .ofFields [("openai", controls)])])
  else .ok none

/-- The reasoning effort of `openai`. -/
def reasoningEffortOf (openai : Value) : Except String (Option Value) :=
  match openai.get "reasoning_effort" with
  | none => .ok none
  | some (.string level) =>
      if level ∈ reasoningLevels then .ok (some (.string level))
      else .error <| anthropicExtraBodyOpenaiControlsMessage <|
        "extra_body.openai.reasoning_effort must be one of: none, minimal, low, medium, high, " ++
          "xhigh, max, ultra"
  | some _ => .error <| anthropicExtraBodyOpenaiControlsMessage
      "extra_body.openai.reasoning_effort must be a string"

/-- `validated_anthropic_extra_body_openai_controls` (`internal.rs` 1841-1935). An object without a
supported key is refused before its keys are looked at, so the second check for one never fails. -/
def validatedAnthropicExtraBodyOpenaiControls (body : Value) :
    Except String (Option AnthropicExtraBodyOpenAiControls) :=
  let refuse (detail : String) : Except String (Option AnthropicExtraBodyOpenAiControls) :=
    .error (anthropicExtraBodyOpenaiControlsMessage detail)
  match (body.get "extra_body").bind (Value.get · "openai") with
  | none => .ok none
  | some openai =>
    match openai.asObject with
    | none => refuse "value must be an object"
    | some fields =>
      if fields.isEmpty then refuse "at least one supported OpenAI control is required"
      else if !hasOnlyKeys ["prompt_cache_key", "prompt_cache_retention", "reasoning_effort"]
          openai then
        refuse <| "only `prompt_cache_key`, optional `prompt_cache_retention`, and " ++
          "`reasoning_effort` are supported"
      else do
        let promptCache ← promptCacheControlsOf openai
        let reasoningEffort ← reasoningEffortOf openai
        pure (some
          { promptCacheKey := promptCache.map (·.promptCacheKey)
            promptCacheRetention := promptCache.bind (·.promptCacheRetention)
            reasoningEffort := reasoningEffort })

/-! ## Tools -/

/-- The selection of a tool by name, and of a bridged one as the custom tool it is. -/
def openaiNamedChoice (decodeCustomBridge : Bool) (bridgeContext : Option ToolBridgeContext)
    (name : String) : Value :=
  let kind := if decodeCustomBridge && expectsWrapper bridgeContext name then "custom" else "function"
  .ofFields [("type", .string kind), (kind, .ofFields [("name", .string name)])]

/-- `anthropic_tool_choice_to_openai` (`internal.rs` 2060-2119): the choice, and whether parallel
use is turned off. -/
def anthropicToolChoiceToOpenai (toolChoice : Value) (decodeCustomBridge : Bool)
    (bridgeContext : Option ToolBridgeContext) : Except String (Value × Bool) := do
  if !toolChoice.isObject then
    throw "Anthropic tool_choice must be an object for cross-protocol translation"
  let choiceType ← okOr (toolChoice.getStr "type")
    "Anthropic tool_choice.type is required for cross-protocol translation"
  let disableParallel :=
    ((toolChoice.get "disable_parallel_tool_use").bind Value.asBool).getD false
  let mapped ← match choiceType with
    | "auto" => pure (Value.string "auto")
    | "none" => pure (Value.string "none")
    | "any" => pure (Value.string "required")
    | "tool" => do
        let name ← okOr ((toolChoice.getStr "name").filter fun name => !name.isEmpty)
          "Anthropic tool_choice.type = tool requires a non-empty `name` field."
        validatePublicToolNameNotReserved name
        pure (openaiNamedChoice decodeCustomBridge bridgeContext name)
    | other => throw <|
        s!"Anthropic tool_choice.type `{other}` cannot be translated to OpenAI Chat Completions"
  pure (mapped, disableParallel)

/-- One of the tools; `none` skips one without a name. -/
def openaiToolOfClaudeTool (decodeCustomBridge : Bool) (bridgeContext : Option ToolBridgeContext)
    (tool : Value) : Except String (Option Value) :=
  match tool.getStr "name" with
  | none => .ok none
  | some name => do
      validatePublicToolNameNotReserved name
      let described := [("name", Value.string name),
        ("description", .ofOption (tool.get "description"))]
      if decodeCustomBridge && expectsWrapper bridgeContext name then
        pure (some (.ofFields [("type", .string "custom"), ("custom", .ofFields described)]))
      else
        let parameters :=
          ((tool.get "input_schema").or (tool.get "parameters")).getD emptyObjectSchema
        pure (some (.ofFields [("type", .string "function"),
          ("function", .ofFields (described ++ [("parameters", parameters)]))]))

/-! ## The system prompt -/

/-- A block of the system prompt; `none` skips it. -/
def claudeSystemBlockToOpenaiPart (block : Value) : Except String (Option Value) :=
  match block.getStr "type" with
  | none | some "thinking" => .ok none
  | some "text" =>
      .ok ((semanticTextPartFromClaudeBlock block).map semanticTextPartToOpenaiValue)
  | some other => .error (anthropicBlockNotPortableMessage other "OpenAI Chat Completions")

/-- `claude_system_to_openai_content`. -/
def claudeSystemToOpenaiContent : Value → Except String (Option Value)
  | .string text => .ok (if text.isEmpty then none else some (.string text))
  | .array blocks =>
      (blocks.mapM claudeSystemBlockToOpenaiPart).map fun parts => nonempty (parts.filterMap id)
  | .object fields => claudeSystemBlockToOpenaiPart (.object fields)
  | _ => .ok none

/-- The message of the system prompt, if there is one. -/
def systemMessages (system : Option Value) : Except String (List Value) :=
  match system with
  | none => .ok []
  | some system => (claudeSystemToOpenaiContent system).map fun content =>
      (content.map fun content =>
        Value.ofFields [("role", .string "system"), ("content", content)]).toList

/-! ## The request -/

/-- The `stop` of the result: a list of one stands for its entry. -/
def openaiStop : Value → Value
  | .array [stop] => stop
  | stopSequences => stopSequences

/-- The result of `claude_to_openai`, from the parts that can be refused. -/
def openaiRequest (body : Value) (openaiControls : Option AnthropicExtraBodyOpenAiControls)
    (toolChoice : Option (Value × Bool)) (messages tools : List Value) : Value :=
  let result := Value.ofFields [("model", (body.get "model").getD .null),
    ("messages", .array messages), ("stream", (body.get "stream").getD (.bool false))]
  let result := setSome "max_completion_tokens" (body.get "max_tokens") result
  let result := setSome "temperature" (body.get "temperature") result
  let result := setSome "top_p" (body.get "top_p") result
  let result := setSome "stop" ((body.get "stop_sequences").map openaiStop) result
  let result := setSome "tool_choice" (toolChoice.map Prod.fst) result
  let result := setSome "parallel_tool_calls"
    (if toolChoice.any Prod.snd then some (.bool false) else none) result
  let result := setSome "tools" (nonempty tools) result
  let result := setSome requestScopedToolBridgeContextField
    ((requestScopedToolBridgeContextFromBody body).map ToolBridgeContext.toValue) result
  let result := setSome "prompt_cache_key" (openaiControls.bind (·.promptCacheKey)) result
  let result :=
    setSome "prompt_cache_retention" (openaiControls.bind (·.promptCacheRetention)) result
  setSome "reasoning_effort" (openaiControls.bind (·.reasoningEffort)) result

def openaiToolChoiceOf (decodeCustomBridge : Bool) (bridgeContext : Option ToolBridgeContext)
    (toolChoice : Option Value) : Except String (Option (Value × Bool)) :=
  match toolChoice.filter fun value => !value.isNull with
  | none => .ok none
  | some toolChoice =>
      (anthropicToolChoiceToOpenai toolChoice decodeCustomBridge bridgeContext).map some

/-- `claude_to_openai` (`internal.rs` 1943-2058). -/
def claudeToOpenai (env : TranslationEnv) (decodeCustomBridge : Bool) (body : Value) :
    Except String Value := do
  let bridgeContext := requestScopedToolBridgeContextFromBody body
  let openaiControls ← validatedAnthropicExtraBodyOpenaiControls body
  let toolChoice ← openaiToolChoiceOf decodeCustomBridge bridgeContext (body.get "tool_choice")
  let system ← systemMessages (body.get "system")
  let messages ← ((body.getArray "messages").getD []).mapM
    (convertClaudeMessageToOpenai env decodeCustomBridge bridgeContext)
  let tools ← ((body.getArray "tools").getD []).mapM
    (openaiToolOfClaudeTool decodeCustomBridge bridgeContext)
  pure (openaiRequest body openaiControls toolChoice
    (system ++ messages.flatMap fun converted => converted.getD []) (tools.filterMap id))

/-! ## The names that are offered

The names under the reserved prefix are the proxy's own: a call to one of them is taken for a call
to a bridged tool. So a client must not be able to bring one in as a tool of its own. -/

/-- The name that a model calls a tool of Chat by. -/
def nameOfferedBy (tool : Value) : Option String :=
  ((tool.get "function").or (tool.get "custom")).bind (Value.getStr · "name")

theorem nameOfferedBy_ofFields {kind name : String} {described : List (String × Value)}
    (hkind : kind = "function" ∨ kind = "custom") :
    nameOfferedBy (.ofFields [("type", .string kind),
      (kind, .ofFields (("name", .string name) :: described))]) = some name := by
  rcases hkind with rfl | rfl <;>
  · rw [nameOfferedBy, Value.get_ofFields, Value.get_ofFields]
    change Value.getStr (.ofFields _) "name" = some name
    rw [Value.getStr, Value.get_ofFields]
    rfl

theorem nameOfferedBy_openaiTool {decodeCustomBridge : Bool}
    {bridgeContext : Option ToolBridgeContext} {tool offered : Value}
    (h : openaiToolOfClaudeTool decodeCustomBridge bridgeContext tool = .ok (some offered)) :
    ∃ name, nameOfferedBy offered = some name ∧
      openaiResponsesCustomToolBridgePrefixIsReserved name = false := by
  unfold openaiToolOfClaudeTool at h
  split at h
  · cases h
  · next name _ =>
    obtain ⟨_, hpublic, h⟩ := Result.bind_ok.mp h
    refine ⟨name, ?_, nameNotReserved_ok.mp hpublic⟩
    split at h
    · cases h
      exact nameOfferedBy_ofFields (.inr rfl)
    · cases h
      exact nameOfferedBy_ofFields (.inl rfl)

theorem getArray_openaiRequest_tools {body : Value}
    {openaiControls : Option AnthropicExtraBodyOpenAiControls} {toolChoice : Option (Value × Bool)}
    {messages tools : List Value} :
    ((openaiRequest body openaiControls toolChoice messages tools).getArray "tools").getD [] =
      tools := by
  unfold openaiRequest
  rw [Value.getArray]
  iterate 4 rw [get_setSome_of_ne (by decide)]
  rw [get_setSome_self]
  · iterate 6 rw [get_setSome_of_ne (by decide)]
    rw [Value.get_ofFields]
    cases tools <;> rfl
  · repeat' apply isObject_setSome
    exact Value.isObject_ofFields _

/-- **A translated request offers no tool under a reserved name.** -/
theorem claudeToOpenai_offers_public {env : TranslationEnv} {decodeCustomBridge : Bool}
    {body result : Value} (h : claudeToOpenai env decodeCustomBridge body = .ok result) :
    ∀ tool ∈ (result.getArray "tools").getD [], ∃ name, nameOfferedBy tool = some name ∧
      openaiResponsesCustomToolBridgePrefixIsReserved name = false := by
  unfold claudeToOpenai at h
  obtain ⟨openaiControls, _, h⟩ := Result.bind_ok.mp h
  obtain ⟨toolChoice, _, h⟩ := Result.bind_ok.mp h
  obtain ⟨system, _, h⟩ := Result.bind_ok.mp h
  obtain ⟨messages, _, h⟩ := Result.bind_ok.mp h
  obtain ⟨tools, htools, h⟩ := Result.bind_ok.mp h
  cases h
  intro offered hoffered
  rw [getArray_openaiRequest_tools] at hoffered
  obtain ⟨found, hfound, hsome⟩ := List.mem_filterMap.mp hoffered
  obtain ⟨tool, _, htool⟩ := Result.exists_of_mem_mapM htools hfound
  exact nameOfferedBy_openaiTool (htool.trans (congrArg Except.ok hsome))

end LlmUniversalProxy.Translate
