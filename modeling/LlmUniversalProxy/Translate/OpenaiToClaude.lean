import LlmUniversalProxy.Lib.Regroup
import LlmUniversalProxy.Translate.AnthropicContent
import LlmUniversalProxy.Translate.RequestControls
import LlmUniversalProxy.Translate.RoleRepair
import LlmUniversalProxy.Translate.ToolBridge

/-!
# `Translate.OpenaiToClaude` — a request of Chat for Anthropic

Anthropic has the instructions in a field of their own and the results of tools in messages of the
user. The results are held back until the message that follows them is known: a message of the user
takes them in front of its own blocks, before any other they get a message to themselves.

The source is `translate/internal.rs` 2344-2527 and 2699-2796.
-/

set_option autoImplicit false

namespace LlmUniversalProxy.Translate

open Json Lib

/-! ## Instructions -/

def isInstructionMessage (message : Value) : Bool := (message.getStr "role").any isInstructionRole

/-- `openai_system_content_part_not_portable_to_anthropic_message`. -/
def openaiSystemContentPartNotPortableToAnthropicMessage (role partType reason : String) : String :=
  s!"OpenAI {role} content part `{partType}` cannot be faithfully translated to Anthropic system " ++
    s!"blocks: {reason}"

/-- `openai_system_content_part_label`. -/
def openaiSystemContentPartLabel (partType : String) : String :=
  if partType = "file" then "file/input_file" else partType

/-- `openai_system_part_to_claude_block` (`internal.rs` 2717-2734), which never answers `None`. -/
def openaiSystemPartToClaudeBlock (role : String) (part : Value) : Except String Value :=
  match part.getStr "type" with
  | none => .error <| s!"OpenAI {role} content array entries require a string `type` to translate " ++
      "to Anthropic system blocks."
  | some "text" => openaiTextPartToClaudeTextBlock part
  | some "refusal" => .ok (openaiRefusalPartToClaudeTextBlock part)
  | some other => .error <| openaiSystemContentPartNotPortableToAnthropicMessage role
      (openaiSystemContentPartLabel other) <| "system/developer content arrays only support " ++
        "text/refusal parts; unsupported typed parts must not be silently dropped."

/-- `openai_system_content_to_claude_blocks`. -/
def openaiSystemContentToClaudeBlocks (role : String) : Option Value → Except String (List Value)
  | some (.string text) => .ok (if text.isEmpty then [] else [claudeTextBlock text])
  | some (.array parts) => parts.mapM (openaiSystemPartToClaudeBlock role)
  | some (.object fields) => (openaiSystemPartToClaudeBlock role (.object fields)).map ([·])
  | _ => .ok []

def instructionBlocks (message : Value) : Except String (List Value) :=
  openaiSystemContentToClaudeBlocks ((message.getStr "role").getD "system") (message.get "content")

/-! ## Messages -/

/-- The messages so far, and the results of tools that wait for the next one. -/
structure ClaudeConversation where
  messages : List Value := []
  pendingToolResults : List Value := []

def claudeMessage (role : String) (content : List Value) : Value :=
  .ofFields [("role", .string role), ("content", .array content)]

/-- The results that wait get a message to themselves. -/
def ClaudeConversation.flush (self : ClaudeConversation) : List Value :=
  if self.pendingToolResults.isEmpty then self.messages
  else self.messages ++ [claudeMessage "user" self.pendingToolResults]

def ClaudeConversation.push (self : ClaudeConversation) (role : String) (claudeBlocks : List Value) :
    ClaudeConversation :=
  if role = "user" && !self.pendingToolResults.isEmpty then
    { messages := self.messages ++ [claudeMessage "user" (self.pendingToolResults ++ claudeBlocks)] }
  else
    { messages := self.flush ++
        [claudeMessage (if role = "assistant" then "assistant" else "user") claudeBlocks] }

def roleOf (message : Value) : String := (message.getStr "role").getD "user"

/-- One turn of the message loop of `openai_to_claude`. -/
def convertOpenaiMessage (env : TranslationEnv) (conversation : ClaudeConversation)
    (message : Value) : Except String ClaudeConversation := do
  match ← openaiMessageToClaudeBlocks env message with
  | none => pure conversation
  | some claudeBlocks =>
      if roleOf message = "tool" then
        pure { conversation with
          pendingToolResults := conversation.pendingToolResults ++ claudeBlocks }
      else pure (conversation.push (roleOf message) claudeBlocks)

/-- The message loop of `openai_to_claude`, and the flush behind it. -/
def convertOpenaiMessages (env : TranslationEnv) (messages : List Value) :
    Except String (List Value) := do
  let conversation ← messages.foldlM (convertOpenaiMessage env) {}
  pure conversation.flush

/-! ## The request -/

/-- `normalized_tool_policy_to_claude_tool_choice` (`internal.rs` 2509-2527). -/
def normalizedToolPolicyToClaudeToolChoice (toolPolicy : NormalizedToolPolicy)
    (parallelToolCalls : Option Value) : Value :=
  let disableParallelToolUse := parallelToolCalls.bind Value.asBool = some false
  let mapped : Value :=
    match toolPolicy with
    | .none => .ofFields [("type", .string "none")]
    | .auto => .ofFields [("type", .string "auto")]
    | .required => .ofFields [("type", .string "any")]
    | .forcedFunction name => .ofFields [("type", .string "tool"), ("name", .string name)]
  if disableParallelToolUse && mapped.getStr "type" ≠ some "none" then
    mapped.set "disable_parallel_tool_use" (.bool true)
  else mapped

/-- The `tool_choice` of the result. -/
def claudeToolChoice (toolPolicy : Option NormalizedToolPolicy) (body : Value) : Option Value :=
  match toolPolicy with
  | some toolPolicy =>
      some (normalizedToolPolicyToClaudeToolChoice toolPolicy (body.get "parallel_tool_calls"))
  | none =>
      if (body.get "parallel_tool_calls").bind Value.asBool = some false &&
          ((body.getArray "tools").any fun tools => !tools.isEmpty) then
        some (.ofFields [("type", .string "auto"), ("disable_parallel_tool_use", .bool true)])
      else none

/-- The schema of a tool that takes no arguments. -/
def emptyObjectSchema : Value :=
  .ofFields [("type", .string "object"), ("properties", .ofFields [])]

def claudeToolOfFunctionTool (tool : Value) : Value :=
  let field (name : String) : Option Value := (tool.get "function").bind (Value.get · name)
  .ofFields [("name", .ofOption (field "name")), ("description", .ofOption (field "description")),
    ("input_schema", (field "parameters").getD emptyObjectSchema)]

/-- `if let Some(x) = value { object[key] = x }`. -/
def setSome (k : String) (value : Option Value) (v : Value) : Value :=
  match value with
  | some x => v.set k x
  | none => v

/-- A list that is there when it has entries. -/
def nonempty (items : List Value) : Option Value :=
  if items.isEmpty then none else some (.array items)

/-- The `stop_sequences` of the result. -/
def stopSequences : Value → Value
  | .array items => .array items
  | stop => .array [stop]

/-- The result of `openai_to_claude`, from the parts that can be refused. The fields that Anthropic
has no place for are not in it. -/
def claudeRequest (controls : NormalizedRequestControls) (body : Value) (targetModel : String)
    (claudeMessages systemBlocks portableTools : List Value) (outputConfig : Option Value) : Value :=
  -- some models refuse a sampling value that is not their default
  let withheldSamplingFields := anthropicNondefaultSamplingWithholdFields targetModel body
  let sampling (field : String) : Option Value :=
    if field ∈ withheldSamplingFields then none else body.get field
  let result := Value.ofFields [("model", (body.get "model").getD .null),
    ("max_tokens", ((body.get "max_completion_tokens").or (body.get "max_tokens")).getD (.nat 4096)),
    ("messages", .array claudeMessages), ("stream", (body.get "stream").getD (.bool false))]
  let result := setSome "temperature" (sampling "temperature") result
  let result := setSome "top_p" (sampling "top_p") result
  let result := setSome "stop_sequences" ((body.get "stop").map stopSequences) result
  let result := setSome "metadata" (body.get "metadata") result
  let result := setSome "cache_control" controls.anthropicCacheControl result
  let result := setSome "tool_choice" (claudeToolChoice controls.toolPolicy body) result
  let result := setSome "system" (nonempty systemBlocks) result
  let result := setSome "output_config" outputConfig result
  let result := setSome "tools" (nonempty (portableTools.map claudeToolOfFunctionTool)) result
  setSome requestScopedToolBridgeContextField
    ((requestScopedToolBridgeContextFromBody body).map ToolBridgeContext.toValue) result

/-- `openai_to_claude` (`internal.rs` 2344-2507). -/
def openaiToClaude (env : TranslationEnv) (body : Value) (targetModel : String) :
    Except String Value := do
  let controls ← openaiNormalizedRequestControls body
  let messages ← okOr (body.getArray "messages") "missing messages"
  let systemBlocks ← (messages.filter isInstructionMessage).mapM instructionBlocks
  let outputConfig ←
    controls.outputShape.elim (.ok none) normalizedOutputShapeToClaudeOutputConfig
  let claudeMessages ←
    convertOpenaiMessages env (messages.filter fun message => !isInstructionMessage message)
  let portableTools ← openaiPortableFunctionTools body controls.restrictedToolNames
    "tool_choice.allowed_tools"
  pure (claudeRequest controls body targetModel claudeMessages systemBlocks.flatten portableTools
    outputConfig)

/-! ## What the result has -/

theorem get_setSome_of_ne {k l : String} (h : l ≠ k) (value : Option Value) (v : Value) :
    (setSome k value v).get l = v.get l := by
  cases value with
  | none => rfl
  | some x => exact Value.get_set_of_ne v x h

theorem isObject_setSome {v : Value} (h : v.isObject = true) (k : String) (value : Option Value) :
    (setSome k value v).isObject = true := by
  cases value with
  | none => exact h
  | some x => exact Value.isObject_set h k x

theorem get_setSome_self {v : Value} (h : v.isObject = true) (k : String) (value : Option Value) :
    (setSome k value v).get k = value.or (v.get k) := by
  cases value with
  | none => rfl
  | some x => exact Value.get_set_self h k x

section

variable {env : TranslationEnv} {controls : NormalizedRequestControls} {body result : Value}
  {targetModel : String} {claudeMessages systemBlocks portableTools : List Value}
  {outputConfig : Option Value}

theorem get_claudeRequest_messages : (claudeRequest controls body targetModel claudeMessages
    systemBlocks portableTools outputConfig).get "messages" = some (.array claudeMessages) := by
  unfold claudeRequest
  repeat rw [get_setSome_of_ne (by decide)]
  rw [Value.get_ofFields]
  rfl

theorem get_claudeRequest_system : (claudeRequest controls body targetModel claudeMessages
    systemBlocks portableTools outputConfig).get "system" = nonempty systemBlocks := by
  unfold claudeRequest
  iterate 3 rw [get_setSome_of_ne (by decide)]
  rw [get_setSome_self]
  · iterate 6 rw [get_setSome_of_ne (by decide)]
    rw [Value.get_ofFields]
    exact Option.or_none
  · repeat' apply isObject_setSome
    rfl

/-- A request that was taken is put together from its messages, instructions and tools. -/
theorem openaiToClaude_ok (h : openaiToClaude env body targetModel = .ok result) :
    ∃ messages systemBlocks claudeMessages controls portableTools outputConfig,
      body.getArray "messages" = some messages ∧
      (messages.filter isInstructionMessage).mapM instructionBlocks = .ok systemBlocks ∧
      convertOpenaiMessages env (messages.filter fun message => !isInstructionMessage message) =
        .ok claudeMessages ∧
      result = claudeRequest controls body targetModel claudeMessages systemBlocks.flatten
        portableTools outputConfig := by
  unfold openaiToClaude at h
  obtain ⟨controls, _, h⟩ := Result.bind_ok.mp h
  obtain ⟨messages, hmessages, h⟩ := Result.bind_ok.mp h
  obtain ⟨systemBlocks, hsystem, h⟩ := Result.bind_ok.mp h
  obtain ⟨outputConfig, _, h⟩ := Result.bind_ok.mp h
  obtain ⟨claudeMessages, hclaude, h⟩ := Result.bind_ok.mp h
  obtain ⟨portableTools, _, h⟩ := Result.bind_ok.mp h
  cases h
  exact ⟨messages, systemBlocks, claudeMessages, controls, portableTools, outputConfig,
    okOr_ok.mp hmessages, hsystem, hclaude, rfl⟩

end

end LlmUniversalProxy.Translate
