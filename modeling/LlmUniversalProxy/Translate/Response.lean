import LlmUniversalProxy.Translate.AnthropicContent
import LlmUniversalProxy.Translate.ResponsesContent
import LlmUniversalProxy.UsageMapping

/-!
# `Translate.Response` — whole responses, between any two formats

A response goes through Chat: the upstream's body becomes a completion, and the completion becomes
the client's body. Between two formats that are the same nothing is translated, only checked. An
upstream that is not to show its reasoning has it stripped, from the completion when formats differ
and from the body when they do not.

The source is `translate/internal.rs` 761-1043 and 1647-1777, `response_protocols.rs` 100-252 and
`openai_responses.rs` 449-732.
-/

set_option autoImplicit false

namespace LlmUniversalProxy.Translate

open Json Lib

/-- `ok_or`. -/
def okOr {α : Type} (value : Option α) (error : String) : Except String α :=
  match value with
  | some a => .ok a
  | none => .error error

/-! ## From Anthropic -/

def withUsage (body : Value) (translate : Value → Value) (result : Value) : Value :=
  match body.get "usage" with
  | some usage => result.set "usage" (translate usage)
  | none => result

theorem get_withUsage (body : Value) (translate : Value → Value) (result : Value) {k : String}
    (h : k ≠ "usage") : (withUsage body translate result).get k = result.get k := by
  unfold withUsage
  split
  · exact Value.get_set_of_ne result _ h
  · rfl

theorem getArray_withUsage (body : Value) (translate : Value → Value) (result : Value)
    {k : String} (h : k ≠ "usage") :
    (withUsage body translate result).getArray k = result.getArray k := by
  unfold Value.getArray
  rw [get_withUsage body translate result h]

/-- The blocks that go along for a replay: all the thinking, once one block of it is signed or
hidden. -/
def claudeReasoningReplayBlocks (content : Value) : List Value :=
  let thinking := (content.asArray.getD []).filter fun block =>
    block.getStr "type" = some "thinking"
  if thinking.any anthropicBlockHasNonportableThinkingProvenance then thinking else []

/-- A refusal turns the text of a message into its refusal. -/
def applyClaudeRefusal (stopReason : String) (message : Value) : Value :=
  if stopReason = "refusal" then
    let refusal := extractOpenaiContentText (message.get "content")
    let message := if refusal.isEmpty then message else message.set "refusal" (.string refusal)
    message.set "content" .null
  else message

theorem get_applyClaudeRefusal (stopReason : String) (message : Value) {k : String}
    (hrefusal : k ≠ "refusal") (hcontent : k ≠ "content") :
    (applyClaudeRefusal stopReason message).get k = message.get k := by
  unfold applyClaudeRefusal
  split
  · rw [Value.get_set_of_ne _ _ hcontent]
    split
    · rfl
    · exact Value.get_set_of_ne message _ hrefusal
  · rfl

/-- The assistant's message of an Anthropic response. -/
def claudeResponseMessage (env : TranslationEnv) (allowReasoningReplay : Bool)
    (bridgeContext : Option ToolBridgeContext) (body : Value) : Except String Value := do
  let content ← okOr (body.get "content") "missing content"
  let converted ← convertClaudeMessageToOpenai env allowReasoningReplay bridgeContext
    (.ofFields [("role", .string "assistant"), ("content", content)])
  let messages ← okOr converted "missing content"
  let message ← okOr (messages.find? fun item => item.getStr "role" = some "assistant")
    "missing assistant message"
  let message := if allowReasoningReplay then
      appendOpenaiMessageAnthropicReasoningReplayBlocks message
        (claudeReasoningReplayBlocks content)
    else message
  pure (applyClaudeRefusal ((body.getStr "stop_reason").getD "stop") message)

theorem okOr_ok {α : Type} {value : Option α} {error : String} {a : α} :
    okOr value error = .ok a ↔ value = some a := by
  cases value with
  | none => exact ⟨fun h => (nomatch h), fun h => (nomatch h)⟩
  | some b =>
    constructor
    · intro h
      exact congrArg some (Except.ok.inj h)
    · intro h
      exact congrArg Except.ok (Option.some.inj h)

def ConvertsTo (env : TranslationEnv) (allowReasoningReplay : Bool)
    (bridgeContext : Option ToolBridgeContext) (content message : Value) : Prop :=
  (∃ text, content = .string text ∧
    message = .ofFields [("role", .string "assistant"), ("content", .string text)]) ∨
  ∃ blocks parts, content = .array blocks ∧
    convertClaudeBlocks env allowReasoningReplay bridgeContext {} blocks = .ok (some parts) ∧
    parts.toolResults = [] ∧ parts.messages "assistant" = [message]

theorem toolResults_of_find {parts : ClaudeMessageParts} {message : Value}
    (htool : ∀ m ∈ parts.toolResults, m.getStr "role" = some "tool")
    (h : (parts.messages "assistant").find? (fun item => item.getStr "role" = some "assistant") =
      some message) : parts.toolResults = [] ∧ parts.messages "assistant" = [message] := by
  have hrole : message.getStr "role" = some "assistant" := by simpa using List.find?_some h
  have hmem := List.mem_of_find?_eq_some h
  cases hresults : parts.toolResults with
  | nil =>
    refine ⟨rfl, ?_⟩
    unfold ClaudeMessageParts.messages at hmem ⊢
    simp only [hresults, List.isEmpty_nil, Bool.not_true, Bool.false_eq_true, if_false] at hmem ⊢
    split at hmem <;> simp_all
  | cons first rest =>
    have husers : ∀ content, message ≠ .ofFields [("role", .string "user"), ("content", content)] := by
      rintro content rfl
      rw [Value.getStr, Value.get_ofFields] at hrole
      have huser : some "user" = some "assistant" := hrole
      exact absurd (Option.some.inj huser) (by decide)
    have hresult : message ∉ parts.toolResults := by
      intro hm
      rw [htool message hm] at hrole
      exact absurd (Option.some.inj hrole) (by decide)
    exfalso
    unfold ClaudeMessageParts.messages at hmem
    rw [if_pos (by simp [hresults])] at hmem
    split at hmem
    · exact hresult hmem
    · rcases List.mem_append.mp hmem with hmem | hmem
      · exact hresult hmem
      · exact husers _ (List.mem_singleton.mp hmem)

theorem claudeResponseMessage_ok {env : TranslationEnv} {allowReasoningReplay : Bool}
    {bridgeContext : Option ToolBridgeContext} {body message : Value}
    (h : claudeResponseMessage env allowReasoningReplay bridgeContext body = .ok message) :
    ∃ content converted, body.get "content" = some content ∧
      ConvertsTo env allowReasoningReplay bridgeContext content converted ∧
      message = applyClaudeRefusal ((body.getStr "stop_reason").getD "stop")
        (if allowReasoningReplay then appendOpenaiMessageAnthropicReasoningReplayBlocks converted
          (claudeReasoningReplayBlocks content) else converted) := by
  obtain ⟨content, hcontent, h⟩ := Result.bind_ok.mp h
  obtain ⟨converted, hconverted, h⟩ := Result.bind_ok.mp h
  obtain ⟨messages, hmessages, h⟩ := Result.bind_ok.mp h
  obtain ⟨found, hfound, h⟩ := Result.bind_ok.mp h
  cases h
  refine ⟨content, found, okOr_ok.mp hcontent, ?_, rfl⟩
  rw [okOr_ok.mp hmessages] at hconverted
  have hfound := okOr_ok.mp hfound
  unfold convertClaudeMessageToOpenai at hconverted
  rw [Value.getStr, Value.get_ofFields, Value.get_ofFields] at hconverted
  dsimp [List.lookup] at hconverted
  cases content with
  | string text =>
    cases hconverted
    refine .inl ⟨text, rfl, ?_⟩
    have hmem := List.mem_of_find?_eq_some hfound
    exact List.mem_singleton.mp hmem
  | array blocks =>
    obtain ⟨parts, hparts, hmap⟩ := Result.map_ok.mp hconverted
    obtain ⟨parts, rfl, rfl⟩ := Option.map_eq_some_iff.mp hmap
    have htool := role_of_toolResults env allowReasoningReplay bridgeContext hparts
    obtain ⟨hnone, hone⟩ := toolResults_of_find htool hfound
    exact .inr ⟨blocks, parts, rfl, hparts, hnone, hone⟩
  | _ => cases hconverted

def openaiCompletion (id created model choice : Value) : Value :=
  .ofFields [("id", id), ("object", .string "chat.completion"), ("created", created),
    ("model", model), ("choices", .array [choice])]

def choicesOf (body : Value) : List Value := (body.getArray "choices").getD []

theorem choicesOf_completion (body : Value) (translate : Value → Value)
    (id created model choice : Value) :
    choicesOf (withUsage body translate (openaiCompletion id created model choice)) = [choice] := by
  rw [choicesOf, getArray_withUsage _ _ _ (by decide), Value.getArray, openaiCompletion,
    Value.get_ofFields]
  rfl

/-- `claude_response_to_openai_internal` (`internal.rs` 1661-1777). -/
def claudeResponseToOpenaiInternal (env : TranslationEnv) (allowReasoningReplay : Bool)
    (bridgeContext : Option ToolBridgeContext) (body : Value) : Except String Value := do
  let message ← claudeResponseMessage env allowReasoningReplay bridgeContext body
  let finishReason := finishReasonOfStopReason ((body.getStr "stop_reason").getD "stop")
  pure (withUsage body claudeResponseUsageToOpenaiUsage (openaiCompletion
    ((body.get "id").getD (.string s!"chatcmpl-{env.now}"))
    ((body.get "created").getD (.nat env.now)) ((body.get "model").getD (.string "claude"))
    (.ofFields [("index", .nat 0), ("message", message),
      ("finish_reason", .string finishReason)])))

/-- `claude_response_to_openai`. -/
def claudeResponseToOpenai (env : TranslationEnv) (bridgeContext : Option ToolBridgeContext)
    (body : Value) : Except String Value :=
  claudeResponseToOpenaiInternal env false bridgeContext body

/-- `claude_response_to_openai_with_reasoning_replay`. -/
def claudeResponseToOpenaiWithReasoningReplay (env : TranslationEnv)
    (bridgeContext : Option ToolBridgeContext) (body : Value) : Except String Value :=
  claudeResponseToOpenaiInternal env true bridgeContext body

/-! ## From Responses -/

/-- What the items of an output have given so far. -/
structure ResponsesOutputParts where
  contentParts : List Value := []
  contentLogprobs : Option (List Value) := none
  reasoningContent : String := ""
  replayBlocks : List Value := []
  refusal : String := ""
  toolCalls : List Value := []

def openaiTextPartOfOutputText (part : Value) : Value :=
  semanticTextPartToOpenaiValue
    ⟨(part.getStr "text").getD "", (part.getArray "annotations").getD []⟩

/-- A message item: its texts, its refusals and their logprobs. -/
def collectMessageItem (item : Value) (acc : ResponsesOutputParts) :
    Except String ResponsesOutputParts :=
  if item.getStr "type" ≠ some "message" then .ok acc
  else
    (responsesOutputTextLogprobs item).map fun logprobs =>
      let parts := (item.getArray "content").getD []
      { acc with
        contentLogprobs := match logprobs with
          | some logprobs => some (acc.contentLogprobs.getD [] ++ logprobs)
          | none => acc.contentLogprobs
        contentParts := acc.contentParts ++ (parts.filter fun part =>
          part.getStr "type" = some "output_text").map openaiTextPartOfOutputText
        refusal := acc.refusal ++ String.join ((parts.filter fun part =>
          part.getStr "type" = some "refusal").filterMap (Value.getStr · "refusal")) }

def collectToolCallItem (env : Env) (item : Value) (acc : ResponsesOutputParts) :
    Except String ResponsesOutputParts :=
  (responsesToolCallItemToOpenaiToolCallStrict env item).map fun toolCall =>
    { acc with toolCalls := acc.toolCalls ++ toolCall.toList }

/-- A reasoning item: the texts of its summary, and what Anthropic can replay. -/
def collectReasoningItem (serde : Serde) (allowReplay : Bool) (item : Value)
    (acc : ResponsesOutputParts) : ResponsesOutputParts :=
  if item.getStr "type" ≠ some "reasoning" then acc
  else
    { acc with
      reasoningContent := acc.reasoningContent ++
        String.join (((item.getArray "summary").getD []).filterMap (Value.getStr · "text"))
      replayBlocks := acc.replayBlocks ++ if allowReplay then
        (responsesReasoningReplayBlocksForAnthropic serde item).getD [] else [] }

/-- One round of the loop over the items. -/
def collectOutputItem (env : Env) (allowReplay : Bool) (acc : ResponsesOutputParts)
    (item : Value) : Except String ResponsesOutputParts := do
  let acc ← collectMessageItem item acc
  let acc ← collectToolCallItem env item acc
  pure (collectReasoningItem env.serde allowReplay item acc)

/-- The message that the items make up. -/
def ResponsesOutputParts.message (audio : Option Value) (acc : ResponsesOutputParts) : Value :=
  let content : Value := if !acc.contentParts.isEmpty then collapseOpenaiTextParts acc.contentParts
    else if !acc.toolCalls.isEmpty || !acc.reasoningContent.isEmpty || !acc.refusal.isEmpty then
      .null
    else .string ""
  let optional (present : Bool) (field : String) (value : Value) : List (String × Value) :=
    if present then [(field, value)] else []
  .ofFields ([("role", .string "assistant"), ("content", content)] ++
    optional (!acc.reasoningContent.isEmpty) "reasoning_content" (.string acc.reasoningContent) ++
    optional (!acc.replayBlocks.isEmpty) openaiAnthropicReasoningReplayField
      (.array acc.replayBlocks) ++
    optional (!acc.refusal.isEmpty) "refusal" (.string acc.refusal) ++
    (audio.map fun audio => ("audio", audio)).toList ++
    optional (!acc.toolCalls.isEmpty) "tool_calls" (.array acc.toolCalls))

theorem lookup_optional (present : Bool) (field k : String) (value : Value) :
    (if present then [(field, value)] else []).lookup k =
      if present && field = k then some value else none := by
  cases present with
  | false => rfl
  | true =>
    by_cases hfield : field = k
    · simp [hfield]
    · simp [hfield, List.lookup_cons, beq_eq_false_iff_ne.mpr (Ne.symm hfield)]

theorem lookup_audio (audio : Option Value) {k : String} (h : k ≠ "audio") :
    (audio.map fun audio => ("audio", audio)).toList.lookup k = none := by
  cases audio with
  | none => rfl
  | some audio => simp [List.lookup_cons, beq_eq_false_iff_ne.mpr h]

theorem content_message (audio : Option Value) (acc : ResponsesOutputParts) {texts : List String}
    (h : acc.contentParts = texts.map fun text => semanticTextPartToOpenaiValue ⟨text, []⟩) :
    extractOpenaiContentText ((acc.message audio).get "content") = String.join texts := by
  have hget : ∃ content, (acc.message audio).get "content" = some content ∧
      content = if !acc.contentParts.isEmpty then collapseOpenaiTextParts acc.contentParts
        else if !acc.toolCalls.isEmpty || !acc.reasoningContent.isEmpty || !acc.refusal.isEmpty then
          .null
        else .string "" := by
    rw [ResponsesOutputParts.message, Value.get_ofFields]
    exact ⟨_, rfl, rfl⟩
  obtain ⟨content, hget, hcontent⟩ := hget
  rw [hget, hcontent, h]
  cases texts with
  | nil =>
    simp only [List.map_nil, List.isEmpty_nil, Bool.not_true, Bool.false_eq_true, if_false]
    split <;> rfl
  | cons text texts =>
    rw [if_pos (by simp), collapse_plainTexts]
    rfl

theorem reasoning_message (audio : Option Value) (acc : ResponsesOutputParts) :
    ((acc.message audio).getStr "reasoning_content").getD "" = acc.reasoningContent := by
  rw [ResponsesOutputParts.message, Value.getStr_ofFields]
  simp only [List.lookup_append, lookup_optional,
    lookup_audio audio (k := "reasoning_content") (by decide)]
  by_cases hempty : acc.reasoningContent = ""
  · simp [List.lookup_cons, hempty, openaiAnthropicReasoningReplayField]
  · simp [List.lookup_cons, hempty, Value.asStr]

theorem toolCalls_message (audio : Option Value) (acc : ResponsesOutputParts) :
    ((acc.message audio).getArray "tool_calls").getD [] = acc.toolCalls := by
  rw [ResponsesOutputParts.message, Value.getArray, Value.get_ofFields]
  simp only [List.lookup_append, lookup_optional,
    lookup_audio audio (k := "tool_calls") (by decide)]
  cases hcalls : acc.toolCalls with
  | nil => simp [List.lookup_cons, openaiAnthropicReasoningReplayField]
  | cons call calls => simp [List.lookup_cons, openaiAnthropicReasoningReplayField, Value.asArray]

/-- `responses_response_to_openai_impl` (`openai_responses.rs` 457-590). A body without an output is
returned as it is. -/
def responsesResponseToOpenaiImpl (env : TranslationEnv) (allowReplay : Bool) (body : Value) :
    Except String Value :=
  match body.getArray "output" with
  | none => .ok body
  | some output =>
    let targetLabel := if allowReplay then "Anthropic" else "OpenAI Chat Completions"
    match output.findSome? (responsesNonportableOutputItemMessage targetLabel allowReplay) with
    | some message => .error message
    | none => do
      -- the items are looked at before the audio, so their refusal is the one that is told
      let audio ← responsesResponseAudioToOpenaiAudio body
      let parts ← output.foldlM (collectOutputItem env.toEnv allowReplay) {}
      let finishReason := responsesFinishReasonToOpenai body (!parts.toolCalls.isEmpty)
      let choice := [("index", .nat 0), ("message", parts.message audio),
        ("finish_reason", .string finishReason)]
      let logprobs := parts.contentLogprobs.map fun logprobs => ("logprobs",
        Value.ofFields [("content", .array logprobs), ("refusal", .array [])])
      pure (withUsage body responsesUsageToOpenaiUsage (openaiCompletion
        (.ofOption (body.get "id"))
        (((body.get "created_at").or (body.get "created")).getD (.nat env.now))
        (.ofOption (body.get "model")) (.ofFields (choice ++ logprobs.toList))))

/-- `responses_response_to_openai`. -/
def responsesResponseToOpenai (env : TranslationEnv) (body : Value) : Except String Value :=
  responsesResponseToOpenaiImpl env false body

/-- `responses_response_to_openai_for_anthropic`. -/
def responsesResponseToOpenaiForAnthropic (env : TranslationEnv) (body : Value) :
    Except String Value :=
  responsesResponseToOpenaiImpl env true body

/-! ## To Responses -/

def responsesReasoningItem (reasoning : Option String) (replayBlocks : Option (List Value)) :
    Option Value :=
  if reasoning.isNone && replayBlocks.isNone then none
  else
    let summary := reasoning.map fun text =>
      Value.ofFields [("type", .string "summary_text"), ("text", .string text)]
    let carrier := replayBlocks.map fun blocks =>
      ("encrypted_content", Value.string (encodeAnthropicReasoningCarrier blocks))
    some (.ofFields ([("type", .string "reasoning"), ("summary", .array summary.toList)] ++
      carrier.toList))

/-- The message item with these parts. -/
def responsesMessageItem (content : List Value) : Value :=
  .ofFields [("type", .string "message"), ("role", .string "assistant"),
    ("content", .array content)]

def responsesError (code message errorType : String) : Value :=
  .ofFields [("code", .string code), ("message", .string message), ("type", .string errorType)]

/-- The status of a response, the details of one that is incomplete, and the error. -/
def responsesStatusOfFinishReason (finishReason : String) : String × Value × Value :=
  let incomplete (reason : String) : String × Value × Value :=
    ("incomplete", .ofFields [("reason", .string reason)], .null)
  match finishReason with
  | "length" => incomplete "max_output_tokens"
  | "content_filter" => incomplete "content_filter"
  | "pause_turn" => incomplete "pause_turn"
  | "context_length_exceeded" => ("failed", .null, responsesError "context_length_exceeded"
      "The conversation exceeded the model context window." "invalid_request_error")
  | "error" => ("failed", .null,
      responsesError "error" "The provider returned an error." "server_error")
  | "tool_error" => ("failed", .null, responsesError "tool_error"
      "The provider reported a tool or protocol error." "invalid_request_error")
  | _ => ("completed", .null, .null)

/-- The items of a message in front of its calls. -/
def responsesLeadingItems (env : TranslationEnv) (choice message : Value)
    (audioOutput : Option Value) : Except String (List Value) := do
  let reasoning := (responsesReasoningItem (openaiMessageReasoningText message)
    (openaiMessageAnthropicReasoningReplayBlocks message)).toList
  let content ← openaiMessageToResponsesContent env.parseUrl message "output_text"
  let content ← match ← normalizedResponseLogprobsFromOpenaiChoice choice "OpenAI Responses" with
    | some logprobs => attachOpenaiChoiceLogprobsToResponsesContent content logprobs
    | none => pure content
  if !content.isEmpty then pure (reasoning ++ [responsesMessageItem content])
  else if (message.get "tool_calls").isNone && reasoning.isEmpty && audioOutput.isNone then
    pure [responsesMessageItem
      [.ofFields [("type", .string "output_text"), ("text", .string "")]]]
  else pure reasoning

/-- `openai_response_to_responses` (`openai_responses.rs` 592-732). -/
def openaiResponseToResponses (env : TranslationEnv) (bridgeContext : Option ToolBridgeContext)
    (body : Value) : Except String Value := do
  let choice ← singleRequiredArrayItem (body.getArray "choices") "OpenAI response"
    "OpenAI Responses" "choices"
  let message ← okOr (choice.get "message") "missing message"
  let audioOutput ← openaiAssistantAudioToResponsesOutputItem message
  let leading ← responsesLeadingItems env choice message audioOutput
  let calls ← ((message.getArray "tool_calls").getD []).mapM
    (openaiToolCallToResponsesItemDecodingCustomBridge env.toEnv bridgeContext)
  let (status, incompleteDetails, error) :=
    responsesStatusOfFinishReason ((choice.getStr "finish_reason").getD "stop")
  pure (withUsage body openaiUsageToResponsesUsage (.ofFields
    [("id", .ofOption (body.get "id")), ("object", .string "response"),
      ("created_at", (body.get "created").getD (.nat env.now)),
      ("model", .ofOption (body.get "model")),
      ("output", .array (leading ++ calls ++ audioOutput.toList)), ("status", .string status),
      ("incomplete_details", incompleteDetails), ("error", error)]))

/-! ## To Anthropic -/

/-- `prepare_openai_message_for_claude_response`. -/
def prepareOpenaiMessageForClaudeResponse (message : Value) : Value :=
  match openaiMessageAnthropicReasoningReplayBlocks message, openaiMessageReasoningText message with
  | none, some reasoning =>
      appendOpenaiMessageAnthropicReasoningReplayBlocks message [unsignedThinkingBlock reasoning]
  | _, _ => message

/-- `openai_response_to_claude` (`response_protocols.rs` 203-252). -/
def openaiResponseToClaude (env : TranslationEnv) (body : Value) : Except String Value := do
  let choice ← singleRequiredArrayItem (body.getArray "choices") "OpenAI response" "Anthropic"
    "choices"
  let message ← okOr (choice.get "message") "missing message"
  let blocks ← openaiMessageToClaudeBlocks env (prepareOpenaiMessageForClaudeResponse message)
  match classifyOpenaiFinishForAnthropic ((choice.getStr "finish_reason").getD "stop") with
  -- an error takes the place of the message, though its blocks have been converted
  | .error errorType message =>
      pure (.ofFields [("type", .string "error"), ("error",
        .ofFields [("type", .string errorType), ("message", .string message)])])
  | .stopReason stopReason =>
      -- no sums here: Chat counts the cached tokens in, and nothing is taken out again
      let usage (u : Value) : Value :=
        .ofFields [("input_tokens", .nat ((u.getU64 "prompt_tokens").getD 0)),
          ("output_tokens", .nat ((u.getU64 "completion_tokens").getD 0))]
      pure (withUsage body usage (.ofFields
        [("id", .ofOption (body.get "id")), ("type", .string "message"),
          ("role", .string "assistant"), ("content", .array (blocks.getD [claudeTextBlock ""])),
          ("model", .ofOption (body.get "model")), ("stop_reason", .string stopReason)]))

/-! ## Reasoning -/

/-- A change of a choice's message, when it is an object. -/
def mapChoiceMessage (f : Value → Value) (choice : Value) : Value :=
  match (choice.get "message").filter Value.isObject with
  | some message => choice.set "message" (f message)
  | none => choice

/-- A change of every choice's message. -/
def mapChoiceMessages (f : Value → Value) (body : Value) : Value :=
  match body.getArray "choices" with
  | none => body
  | some choices => body.set "choices" (.array (choices.map (mapChoiceMessage f)))

/-- The message with `reasoning_details` as a text beside them. -/
def normalizeOpenaiMessageReasoning (message : Value) : Value :=
  if ((message.getStr "reasoning_content").filter fun text => !text.isEmpty).isSome then message
  else
    match reasoningDetailsToText (message.get "reasoning_details") with
    | some reasoning => message.set "reasoning_content" (.string reasoning)
    | none => message

/-- `normalize_openai_completion_response`. -/
def normalizeOpenaiCompletionResponse (body : Value) : Value :=
  mapChoiceMessages normalizeOpenaiMessageReasoning body

/-- `strip_openai_completion_reasoning`. -/
def stripOpenaiCompletionReasoning (body : Value) : Value :=
  mapChoiceMessages
    (fun message => (message.remove "reasoning_content").remove "reasoning_details") body

/-- The items of an array field that may stay. -/
def retainItems (field : String) (keep : Value → Bool) (body : Value) : Value :=
  match body.getArray field with
  | some items => body.set field (.array (items.filter keep))
  | none => body

/-- `strip_anthropic_response_thinking`. -/
def stripAnthropicResponseThinking (body : Value) : Value :=
  retainItems "content" (fun block =>
    block.getStr "type" ≠ some "thinking" && block.getStr "type" ≠ some "redacted_thinking") body

/-- `strip_responses_reasoning_items`. -/
def stripResponsesReasoningItems (body : Value) : Value :=
  retainItems "output" (fun item => item.getStr "type" ≠ some "reasoning") body

/-- `strip_response_reasoning`. -/
def stripResponseReasoning : UpstreamFormat → Value → Value
  | .openAiChatCompletions => stripOpenaiCompletionReasoning
  | .anthropic => stripAnthropicResponseThinking
  | .openAiResponses => stripResponsesReasoningItems

/-! ## The names of tools -/

/-- `validate_openai_legacy_function_call_name`. -/
def validateOpenaiLegacyFunctionCallName (functionCall : Value) : Except String Unit := do
  validatePublicSelectorVisibleIdentity functionCall
  validateOpenaiPublicToolIdentity functionCall

/-- `validate_openai_message_tool_call_names` (`internal.rs` 940-954). -/
def validateOpenaiMessageToolCallNames (message : Value) : Except String Unit := do
  ((message.getArray "tool_calls").getD []).forM fun toolCall => do
    validatePublicSelectorVisibleIdentity toolCall
    let _ ← normalizedOpenaiToolCall toolCall
  match (message.get "function_call").filter fun value => !value.isNull with
  | some functionCall => validateOpenaiLegacyFunctionCallName functionCall
  | none => pure ()

/-- `validate_openai_response_tool_names`. -/
def validateOpenaiResponseToolNames (body : Value) : Except String Unit :=
  ((body.getArray "choices").getD []).forM fun choice =>
    match choice.get "message" with
    | some message => validateOpenaiMessageToolCallNames message
    | none => pure ()

/-- `validate_responses_response_tool_names` (`internal.rs` 986-997). -/
def validateResponsesResponseToolNames (env : Env) (body : Value) : Except String Unit := do
  validateResponsesPublicResponseObjectToolIdentity body
  match body.get "response" with
  | some response => validateResponsesPublicResponseObjectToolIdentity response
  | none => pure ()
  ((body.getArray "output").getD []).forM fun item => do
    let _ ← normalizedResponsesToolCall env item

/-- `validate_anthropic_content_tool_names` (`internal.rs` 1028-1043). -/
def validateAnthropicContentToolNames (content : Value) : Except String Unit :=
  (content.asArray.getD []).forM fun block =>
    match block.getStr "type" with
    | some "tool_use" | some "server_tool_use" =>
        match block.getStr "name" with
        | some name => validatePublicToolNameNotReserved name
        | none => pure ()
    | _ => pure ()

/-- The content of a body or of a message, when there is some. -/
def validateAnthropicContentOf (value : Value) : Except String Unit :=
  match value.get "content" with
  | some content => validateAnthropicContentToolNames content
  | none => pure ()

/-- `validate_anthropic_body_tool_names` (`internal.rs` 1003-1026). -/
def validateAnthropicBodyToolNames (body : Value) : Except String Unit := do
  match (body.get "tool_choice").filter fun value => !value.isNull with
  | some toolChoice => validatePublicSelectorVisibleIdentity toolChoice
  | none => pure ()
  ((body.getArray "tools").getD []).forM fun tool => do
    validatePublicSelectorVisibleIdentity tool
    match tool.getStr "name" with
    | some name => validatePublicToolNameNotReserved name
    | none => pure ()
  validateAnthropicContentOf body
  ((body.getArray "messages").getD []).forM validateAnthropicContentOf

/-- `validate_public_response_tool_names`. -/
def validatePublicResponseToolNames (env : Env) (format : UpstreamFormat) (body : Value) :
    Except String Unit :=
  match format with
  | .openAiChatCompletions => validateOpenaiResponseToolNames body
  | .openAiResponses => validateResponsesResponseToolNames env body
  | .anthropic => validateAnthropicBodyToolNames body

/-! ## Translation -/

/-- `ResponseTranslationContext`. -/
structure ResponseTranslationContext where
  requestScopedToolBridgeContext : Option ToolBridgeContext := none
  reasoningEcho : Option Bool := none

/-- `suppress_reasoning`. -/
def ResponseTranslationContext.suppressReasoning (self : ResponseTranslationContext) : Bool :=
  self.reasoningEcho = some false

/-- `openai_response_has_assistant_audio`. -/
def openaiResponseHasAssistantAudio (body : Value) : Bool :=
  ((body.getArray "choices").getD []).any fun choice =>
    ((choice.get "message").bind (Value.get · "audio")).any fun audio => !audio.isNull

/-- The upstream's body as a completion, by the pair of formats. -/
def upstreamResponseToOpenai (env : TranslationEnv) (upstreamFormat clientFormat : UpstreamFormat)
    (bridgeContext : Option ToolBridgeContext) (body : Value) : Except String Value :=
  match upstreamFormat, clientFormat with
  | .anthropic, .openAiResponses =>
      claudeResponseToOpenaiWithReasoningReplay env bridgeContext body
  | .openAiResponses, .anthropic => responsesResponseToOpenaiForAnthropic env body
  | .openAiChatCompletions, _ => .ok (normalizeOpenaiCompletionResponse body)
  | .anthropic, _ => claudeResponseToOpenai env bridgeContext body
  | .openAiResponses, _ => responsesResponseToOpenai env body

/-- `openai_response_to_client` (`internal.rs` 868-883). -/
def openaiResponseToClient (env : TranslationEnv) (clientFormat : UpstreamFormat)
    (bridgeContext : Option ToolBridgeContext) (body : Value) : Except String Value :=
  match clientFormat with
  | .openAiChatCompletions => .ok body
  | .openAiResponses => openaiResponseToResponses env bridgeContext body
  | .anthropic =>
      if openaiResponseHasAssistantAudio body then
        .error (openaiAssistantAudioNotPortableMessage (translationTargetLabel clientFormat))
      else openaiResponseToClaude env body

/-- `translate_response_with_context` (`translate/internal.rs` 810-852). Reasoning is stripped in
two places: from the body between equal formats, and from the completion half way between others. -/
def translateResponseWithContext (env : TranslationEnv)
    (upstreamFormat clientFormat : UpstreamFormat) (body : Value)
    (context : ResponseTranslationContext) : Except String Value :=
  if containsInternalContextField body then
    .error <| "upstream response contained internal-only field " ++
      s!"`{requestScopedToolBridgeContextField}`"
  else if upstreamFormat = clientFormat then
    (validatePublicResponseToolNames env.toEnv clientFormat body).map fun _ =>
      if context.suppressReasoning then stripResponseReasoning clientFormat body else body
  else do
    let bridgeContext := context.requestScopedToolBridgeContext
    let openai ← upstreamResponseToOpenai env upstreamFormat clientFormat bridgeContext body
    openaiResponseToClient env clientFormat bridgeContext
      (if context.suppressReasoning then stripOpenaiCompletionReasoning openai else openai)

end LlmUniversalProxy.Translate
