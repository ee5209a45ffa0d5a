import LlmUniversalProxy.Json.Modify
import LlmUniversalProxy.Translate.CallConversions
import LlmUniversalProxy.Translate.RequestControls

/-!
# `Translate.ResponsesHistory` — the items of Responses as messages of Chat

Responses keeps a conversation as a list of items, and a call, its output and the text around them
are items of their own. Chat has messages: the calls belong to a message of the assistant, and the
outputs follow it. The loop over the items holds back two things, the message of the assistant that
is still open and the content of users that has to wait for the outputs, and looks one item ahead.

The loop is `translate/internal/openai_responses.rs` 756-1268, with its helpers up to 1517.
-/

set_option autoImplicit false

namespace LlmUniversalProxy.Translate

open Json Lib

/-! ## Content -/

/-- `extract_responses_refusal_text`. -/
def extractResponsesRefusalText (content : Option Value) : String :=
  String.join (((content.bind Value.asArray).getD []).filterMap fun part =>
    if part.getStr "type" = some "refusal" then part.getStr "refusal" else none)

/-- The text of a part that is one: what is pushed to `plain_text_parts` where it has no
annotations. -/
def responsesTextPart (part : Value) : Option SemanticTextPart :=
  match part.getStr "type" with
  | some "input_text" | some "output_text" =>
      some ⟨(part.getStr "text").getD "", (part.getArray "annotations").getD []⟩
  | _ => none

/-- The part leaves `has_non_text_part` as it is. -/
def keepsPlainText (part : Value) : Bool :=
  match responsesTextPart part with
  | some text => text.annotations.isEmpty
  | none => part.getStr "type" = some "refusal"

/-- An `input_image` as a part of Chat. -/
def openaiImagePart (part : Value) : Value :=
  let imageUrl : Value := match part.get "image_url" with
    | some (.object fields) => .object fields
    | value => .ofFields [("url", .ofOption value)]
  let imageUrl := match imageUrl.get "detail", part.get "detail" with
    | none, some detail => imageUrl.set "detail" detail
    | _, _ => imageUrl
  .ofFields [("type", .string "image_url"), ("image_url", imageUrl)]

/-- `validate_openai_file_source_fields`. -/
def validateOpenaiFileSourceFields (parseUrl : String → Option Url) (file : Value) :
    Except String Unit :=
  ["file_data", "file_url"].forM fun field =>
    match file.get field with
    | some value => validateOpenaiMediaSourceField parseUrl field value
    | none => pure ()

/-- An `input_file` as a part of Chat. -/
def openaiFilePart (part : Value) : Value :=
  .ofFields [("type", .string "file"), ("file", .ofFields
    (["file_id", "file_data", "file_url", "filename", "mime_type", "mimeType"].filterMap fun key =>
      (part.get key).map fun value => (key, value)))]

/-- One part of `map_responses_content_to_openai`. -/
def mapResponsesPartToOpenai (parseUrl : String → Option Url) (part : Value) :
    Except String Value :=
  match part.getStr "type" with
  | some "input_text" | some "output_text" => .ok (semanticTextPartToOpenaiValue
      ⟨(part.getStr "text").getD "", (part.getArray "annotations").getD []⟩)
  -- a refusal has no place in the parts; the caller drops the null
  | some "refusal" => .ok .null
  | some "input_image" =>
      (validateOpenaiImageSourceField parseUrl "input_image.image_url" (part.get "image_url")).map
        fun _ => openaiImagePart part
  | some "input_audio" =>
      (validateOpenaiInputAudioData "input_audio" (part.get "input_audio")).map fun _ =>
        .ofFields [("type", .string "input_audio"),
          ("input_audio", .ofOption (part.get "input_audio"))]
  | some "input_file" =>
      (validateOpenaiFileSourceFields parseUrl part).map fun _ => openaiFilePart part
  | _ => .ok part

/-- `map_responses_content_to_openai` (`openai_responses.rs` 1424-1517). -/
def mapResponsesContentToOpenai (parseUrl : String → Option Url) :
    Option Value → Except String Value
  | none => .ok (.array [])
  | some (.array parts) => do
      let out ← parts.mapM (mapResponsesPartToOpenai parseUrl)
      if parts.all keepsPlainText then
        pure (.string (String.join
          ((parts.filterMap responsesTextPart).map SemanticTextPart.text)))
      else pure (.array (out.filter fun item => !item.isNull))
  | some content => .ok content

/-- `openai_text_content_part`. -/
def openaiTextContentPart (text : String) : Value :=
  .ofFields [("type", .string "text"), ("text", .string text)]

/-- `openai_content_to_segment_parts`. -/
def openaiContentToSegmentParts : Value → List Value
  | .null => []
  | .string text => if text.isEmpty then [] else [openaiTextContentPart text]
  | .array parts => parts
  | other => [other]

/-- `openai_segment_parts_to_content` (`openai_responses.rs` 1307-1327). -/
def openaiSegmentPartsToContent : List Value → Value
  | [] => .null
  | [part] =>
      if part.getStr "type" = some "text" &&
          ((part.getArray "annotations").map List.isEmpty).getD true then
        .string ((part.getStr "text").getD "")
      else .array [part]
  | parts => .array parts

/-- `append_openai_message_content`. -/
def appendOpenaiMessageContent (message content : Value) : Value :=
  let newParts := openaiContentToSegmentParts content
  if newParts.isEmpty then message
  else message.set "content" (openaiSegmentPartsToContent
    (openaiContentToSegmentParts ((message.get "content").getD .null) ++ newParts))

/-- `append_openai_message_text_field`. -/
def appendOpenaiMessageTextField (message : Value) (field text : String) : Value :=
  if text.isEmpty then message
  else
    let existing := (message.getStr field).getD ""
    message.set field (.string (if existing.isEmpty then text else s!"{existing}\n\n{text}"))

/-- `append_assistant_text_content`. -/
def appendAssistantTextContent (message : Value) (text : String) : Value :=
  if text.isEmpty then message else appendOpenaiMessageContent message (.string text)

/-- `content_value_is_effectively_empty`. -/
def contentValueIsEffectivelyEmpty : Value → Bool
  | .null => true
  | .string text => text.isEmpty
  | .array items => items.isEmpty
  | _ => false

/-- `append_deferred_user_after_tool_result_content` (`openai_responses.rs` 1358-1375). -/
def appendDeferredUserAfterToolResultContent (deferred : Option Value) (content : Value) :
    Option Value :=
  if contentValueIsEffectivelyEmpty content then deferred
  else
    match deferred with
    | none => some content
    | some existing =>
        (appendOpenaiMessageContent (.ofFields [("content", existing)]) content).get "content"

/-! ## Tool outputs -/

/-- `responses_item_is_tool_output`. -/
def responsesItemIsToolOutput (item : Value) : Bool :=
  item.getStr "type" = some "function_call_output" ||
    item.getStr "type" = some "custom_tool_call_output"

/-- One part of an output; `none` where it is dropped. -/
def toolOutputPart (targetFormat : UpstreamFormat) (part : Value) :
    Except String (Option Value) :=
  match part.getStr "type" with
  | some "input_text" | some "output_text" => .ok (some (.ofFields
      [("type", .string "text"), ("text", (part.get "text").getD (.string ""))]))
  | some "encrypted_content" => .ok none
  | some other => .error <| s!"OpenAI Responses tool output arrays containing `{other}` cannot be " ++
      s!"faithfully translated to {translationTargetLabel targetFormat}; only text arrays are " ++
      "portable."
  | none => .error <| "OpenAI Responses tool output arrays containing untyped values cannot be " ++
      s!"faithfully translated to {translationTargetLabel targetFormat}."

/-- `responses_tool_output_to_openai_tool_content` (`translate/internal/tools.rs` 189-229). -/
def responsesToolOutputToOpenaiToolContent (targetFormat : UpstreamFormat) :
    Option Value → Except String Value
  | none => .ok (.string "")
  | some (.array parts) =>
      (parts.mapM (toolOutputPart targetFormat)).map fun content =>
        .array (content.filterMap id)
  | some other => .ok other

/-- What is left of an output for a reader, where anything is. -/
def renderedToolOutput : Option Value → Option String
  | none => none
  | some (.string text) => some (Text.trim text)
  | some (.array parts) =>
      let text := Text.trim (String.join (parts.filterMap (Value.getStr · "text")))
      if text.isEmpty then
        some (Value.array (parts.filter fun part =>
          part.getStr "type" ≠ some "encrypted_content")).toJson
      else some text
  | some other => some other.toJson

/-- `responses_tool_output_partial_replay_text`. -/
def responsesToolOutputPartialReplayText (name : Option String) (output : Option Value) : String :=
  let name := name.getD "unknown_tool"
  match (renderedToolOutput output).filter fun rendered => !rendered.isEmpty with
  | some rendered => s!"Tool result for `{name}`: {rendered}"
  | none => s!"Tool result for `{name}` was returned."

/-! ## Other items -/

/-- `responses_compaction_summary_text`. -/
def responsesCompactionSummaryText (item : Value) : String :=
  if responsesInputItemType item ∉ [some "compaction", some "compaction_summary"] then ""
  else
    let summary := responsesSummaryArrayText item
    if summary.isEmpty then ((item.getStr "summary").or (item.getStr "summary_text")).getD ""
    else summary

/-- `responses_agent_message_text`. -/
def responsesAgentMessageText (item : Value) : Option String :=
  if responsesInputItemType item ≠ some "agent_message" then none
  else
    let text := String.join (((item.getArray "content").getD []).filterMap fun part =>
      if part.getStr "type" = some "input_text" then part.getStr "text" else none)
    if Text.isBlank text then none else some text

/-- `responses_reasoning_unsigned_summary_blocks_for_anthropic_request`. -/
def responsesReasoningUnsignedSummaryBlocksForAnthropicRequest (item : Value) :
    Option (List Value) :=
  let summary := responsesSummaryArrayText item
  if summary.isEmpty then none else some [unsignedThinkingBlock summary]

/-- `assistant_has_pending_tool_calls`. -/
def assistantHasPendingToolCalls (message : Option Value) : Bool :=
  (message.bind (Value.getArray · "tool_calls")).any fun toolCalls => !toolCalls.isEmpty

/-! ## The loop -/

/-- The variables of the loop of `responses_to_messages`. -/
structure ResponsesHistory where
  messages : List Value := []
  currentAssistant : Option Value := none
  deferredUser : Option Value := none
  toolKindByCallId : List (String × SemanticToolKind) := []
  degradedToolCallNameByCallId : List (String × String) := []

def chatMessage (role : String) (content : Value) : Value :=
  .ofFields [("role", .string role), ("content", content)]

namespace ResponsesHistory

/-- `flush_assistant`. -/
def flushAssistant (h : ResponsesHistory) : ResponsesHistory :=
  { h with messages := h.messages ++ h.currentAssistant.toList, currentAssistant := none }

/-- `flush_deferred_user_after_tool_results`. -/
def flushDeferredUserAfterToolResults (h : ResponsesHistory) : ResponsesHistory :=
  { h with
    messages := h.messages ++ (h.deferredUser.map (chatMessage "user")).toList
    deferredUser := none }

/-- `messages.push(message)`. -/
def push (h : ResponsesHistory) (message : Value) : ResponsesHistory :=
  { h with messages := h.messages ++ [message] }

/-- A message of the assistant that nothing was said in yet, where none is open. -/
def openAssistant (h : ResponsesHistory) : Value :=
  h.currentAssistant.getD (chatMessage "assistant" .null)

/-- A `message`. -/
def addMessage (env : TranslationEnv) (h : ResponsesHistory) (item : Value) (next : Option Value) :
    Except String ResponsesHistory := do
  let role := (item.getStr "role").getD "user"
  let refusal := extractResponsesRefusalText (item.get "content")
  let content ← mapResponsesContentToOpenai env.parseUrl (item.get "content")
  if role = "assistant" then
    let assistant := h.openAssistant.set "role" (.string "assistant")
    let assistant := appendOpenaiMessageTextField assistant "refusal" refusal
    pure { h with currentAssistant := some (appendOpenaiMessageContent assistant content) }
  else if role = "user" && (assistantHasPendingToolCalls h.currentAssistant ||
      h.deferredUser.isSome || next.any responsesItemIsToolOutput) then
    pure { h with
      deferredUser := appendDeferredUserAfterToolResultContent h.deferredUser content }
  else pure (h.flushAssistant.push (chatMessage role content))

/-- The open message of the assistant with one more call. -/
def withToolCall (h : ResponsesHistory) (toolCall : Value) : Value :=
  let assistant := h.currentAssistant.getD (.ofFields
    [("role", .string "assistant"), ("content", .null), ("tool_calls", .array [])])
  let assistant := if (assistant.get "tool_calls").isNone then
      assistant.set "tool_calls" (.array [])
    else assistant
  assistant.modifyArray "tool_calls" (· ++ [toolCall])

/-- The kind that the outputs of a call are taken for. -/
def recordedToolKind (env : Env) (targetFormat : UpstreamFormat) (item : Value) :
    SemanticToolKind :=
  if bridgesTools targetFormat && semanticToolKindFromValue env item = .openAiCustom then .function
  else semanticToolKindFromValue env item

/-- A `function_call` or `custom_tool_call`. Calls and texts of one turn go into one message of the
assistant, until something else comes. -/
def addToolCall (env : TranslationEnv) (targetFormat : UpstreamFormat)
    (entries : List (String × NamespaceBridgeContextEntry)) (h : ResponsesHistory)
    (item : Value) : Except String ResponsesHistory := do
  let flat := flattenNamespaceCall entries item
  match ← historyCall env.toEnv targetFormat entries item with
  | none => pure h
  -- a call that must not be replayed is told as text, and its name is kept for its output
  | some (.text text) =>
      let assistant := h.openAssistant.set "role" (.string "assistant")
      pure { h with
        currentAssistant := some (appendAssistantTextContent assistant text)
        degradedToolCallNameByCallId := match flat.getStr "call_id" with
          | some callId => insertSorted callId ((flat.getStr "name").getD "unknown_tool")
              h.degradedToolCallNameByCallId
          | none => h.degradedToolCallNameByCallId }
  | some (.call toolCall) =>
      pure { h with
        currentAssistant := some (h.withToolCall toolCall)
        toolKindByCallId := match flat.getStr "call_id" with
          | some callId =>
              insertSorted callId (recordedToolKind env.toEnv targetFormat flat) h.toolKindByCallId
          | none => h.toolKindByCallId }

/-- The end of an output: what users said meanwhile is due when no other output follows. -/
def afterOutput (h : ResponsesHistory) (next : Option Value) : ResponsesHistory :=
  if next.any responsesItemIsToolOutput then h else h.flushDeferredUserAfterToolResults

def toolMessage (callId : Option Value) (content : Value) : Value :=
  .ofFields [("role", .string "tool"), ("tool_call_id", .ofOption callId), ("content", content)]

/-- A `function_call_output` or `custom_tool_call_output`. -/
def addToolOutput (env : TranslationEnv) (targetFormat : UpstreamFormat) (h : ResponsesHistory)
    (item : Value) (next : Option Value) : Except String ResponsesHistory := do
  let h := h.flushAssistant
  let callId := item.getStr "call_id"
  match callId.bind fun id => (h.degradedToolCallNameByCallId.lookup id).map (id, ·) with
  | some (id, name) =>
      -- the output of a call that was told as text is text as well: a tool message would have no
      -- call
      let told := chatMessage "user"
        (.string (responsesToolOutputPartialReplayText (some name) (item.get "output")))
      pure (({ h with
        degradedToolCallNameByCallId :=
          h.degradedToolCallNameByCallId.filter fun entry => entry.1 ≠ id }).push told
        |>.afterOutput next)
  | none =>
      -- the call decides what kind of output this is; the item is only asked when there was no call
      let kind := (callId.bind (h.toolKindByCallId.lookup ·)).getD
        (semanticToolKindFromValue env.toEnv item)
      if kind = .openAiCustom && targetFormat ≠ .openAiChatCompletions then
        throw (customToolsNotPortableMessage targetFormat)
      let content ← responsesToolOutputToOpenaiToolContent targetFormat (item.get "output")
      pure ((h.push (toolMessage (item.get "call_id") content)).afterOutput next)

/-- A `reasoning` item. -/
def addReasoning (targetFormat : UpstreamFormat) (h : ResponsesHistory) (item : Value) :
    ResponsesHistory :=
  -- for Anthropic the blocks themselves are replayed, for the others the text of the summary
  if targetFormat = .anthropic then
    match responsesReasoningUnsignedSummaryBlocksForAnthropicRequest item with
    | some blocks =>
        { h with
          currentAssistant := some
            (appendOpenaiMessageAnthropicReasoningReplayBlocks h.openAssistant blocks) }
    | none => h
  else
    let summary := responsesSummaryArrayText item
    if summary.isEmpty then h
    else
      let existing := (h.openAssistant.getStr "reasoning_content").getD ""
      { h with
        currentAssistant :=
          some (h.openAssistant.set "reasoning_content" (.string s!"{existing}{summary}")) }

/-- A text that stands for a turn of the user. -/
def addBoundary (h : ResponsesHistory) (text : String) : ResponsesHistory :=
  h.flushAssistant.flushDeferredUserAfterToolResults.push (chatMessage "user" (.string text))

/-- One round of the loop. -/
def addItem (env : TranslationEnv) (targetFormat : UpstreamFormat)
    (entries : List (String × NamespaceBridgeContextEntry)) (h : ResponsesHistory)
    (item : Value) (next : Option Value) : Except String ResponsesHistory :=
  match responsesInputItemType item with
  | some "message" => h.addMessage env item next
  | some "function_call" | some "custom_tool_call" => h.addToolCall env targetFormat entries item
  | some "function_call_output" | some "custom_tool_call_output" =>
      h.addToolOutput env targetFormat item next
  | some "reasoning" => .ok (h.addReasoning targetFormat item)
  -- only the text of these can be kept, as a turn of the user
  | some "compaction" | some "compaction_summary" =>
      let summary := responsesCompactionSummaryText item
      .ok (if summary.isEmpty then h else h.addBoundary summary)
  | some "agent_message" =>
      .ok (match responsesAgentMessageText item with
        | some text => h.addBoundary text
        | none => h)
  -- other types have been refused by the assessment
  | _ => .ok h

/-- The loop, up to the flush of what is left behind it. -/
def addItems (env : TranslationEnv) (targetFormat : UpstreamFormat)
    (entries : List (String × NamespaceBridgeContextEntry)) :
    ResponsesHistory → List Value → Except String ResponsesHistory
  | h, [] => .ok h.flushAssistant.flushDeferredUserAfterToolResults
  | h, item :: rest => do
      let h ← h.addItem env targetFormat entries item rest.head?
      addItems env targetFormat entries h rest

end ResponsesHistory

def responsesItemsToMessages (env : TranslationEnv) (targetFormat : UpstreamFormat)
    (entries : List (String × NamespaceBridgeContextEntry)) (items : List Value) :
    Except String (List Value) :=
  (ResponsesHistory.addItems env targetFormat entries {} items).map ResponsesHistory.messages

end LlmUniversalProxy.Translate
