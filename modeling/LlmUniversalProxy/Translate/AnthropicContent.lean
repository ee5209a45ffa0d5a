import LlmUniversalProxy.Lib.Result
import LlmUniversalProxy.Translate.Content

/-!
# `Translate.AnthropicContent` — messages of Anthropic and of Chat

A message of Anthropic is one list of blocks; Chat has the texts in `content`, the calls in
`tool_calls`, the thinking in `reasoning_content`, and a message of its own for every tool result.
Both directions refuse what they have no counterpart for.

The source is `translate/internal.rs` 1444-1472, 2121-2338 and 2537-2899.
-/

set_option autoImplicit false

namespace LlmUniversalProxy.Translate

open Json Lib

/-! ## From Anthropic -/

/-- `anthropic_content_block_supported`. -/
def anthropicContentBlockSupported (blockType : String) : Bool :=
  blockType ∈ ["text", "image", "tool_use", "server_tool_use", "tool_result", "thinking"]

/-- `anthropic_block_not_portable_message`. -/
def anthropicBlockNotPortableMessage (blockType targetLabel : String) : String :=
  s!"Anthropic content block `{blockType}` cannot be faithfully translated to {targetLabel}"

/-- `anthropic_block_has_nonportable_thinking_provenance`: a signature, or no text to carry over. -/
def anthropicBlockHasNonportableThinkingProvenance (block : Value) : Bool :=
  block.getStr "type" = some "thinking" &&
    ((block.get "signature").isSome || (block.getStr "thinking").isNone)

/-- `anthropic_image_block_to_openai_part` (`internal.rs` 2285-2338). -/
def anthropicImageBlockToOpenaiPart (parseUrl : String → Option Url) (block : Value) :
    Except String Value :=
  let imageUrl (url : String) : Value :=
    .ofFields [("type", .string "image_url"), ("image_url", .ofFields [("url", .string url)])]
  match block.get "source" with
  | none => .error (anthropicBlockNotPortableMessage "image" "OpenAI Chat Completions")
  | some source =>
    match source.getStr "type" with
    | some "base64" =>
        match validateInlineBase64Payload ((source.getStr "data").getD ""),
          (source.getStr "media_type").filter fun media => !media.isEmpty with
        | some data, some media => .ok (imageUrl s!"data:{media};base64,{data}")
        | _, _ => .error
            "Anthropic image source.type=base64 requires canonical non-empty base64 `data`."
    | some "url" =>
        match source.getStr "url" with
        | none => .error <| "Anthropic image source.type=url requires a string `url` to " ++
            "translate to OpenAI Chat Completions."
        | some url =>
          match httpOrHttpsRemoteUrl parseUrl url with
          | some url => .ok (imageUrl url)
          | none => .error <| "Anthropic image source.type=url only supports clean http:// or " ++
              "https:// remote URLs for OpenAI targets."
    | some other => .error <| s!"Anthropic image source type `{other}` cannot be faithfully " ++
        "translated to OpenAI Chat Completions."
    | none => .error <| "Anthropic image blocks require a source.type to translate to OpenAI " ++
        "Chat Completions."

/-- What the blocks of a message have given so far. -/
structure ClaudeMessageParts where
  parts : List Value := []
  toolCalls : List Value := []
  toolResults : List Value := []
  reasoningText : String := ""

/-- The call of a `tool_use` block. -/
def openaiToolCallOfToolUse (block : Value) (name : String) (decodeCustomBridge : Bool)
    (bridgeContext : Option ToolBridgeContext) : Value :=
  let input := (block.get "input").getD (.ofFields [])
  let customInput :=
    if decodeCustomBridge && expectsWrapper bridgeContext name then
      openaiResponsesCustomToolInputFromBridgeValue input
    else none
  match customInput with
  | some customInput => openaiCustomCall (block.get "id") name customInput
  | none => .ofFields [("id", .ofOption (block.get "id")), ("type", .string "function"),
      ("function", .ofFields [("name", .ofOption (block.get "name")),
        ("arguments", .string input.toJson)])]

/-- The call of a `server_tool_use` block. The proxy alone attests where it comes from. -/
def openaiToolCallOfServerToolUse (env : Env) (block : Value) : Value :=
  attestProxiedToolKind env <| .ofFields
    [("id", .ofOption (block.get "id")), ("type", .string "function"),
      ("proxied_tool_kind", .string "anthropic_server_tool_use"),
      ("function", .ofFields [("name", .ofOption (block.get "name")),
        ("arguments", .string (((block.get "input").map Value.toJson).getD "\x7b\x7d"))])]

/-- One round of the loop over the blocks. `none` is the early return that drops the message. -/
def convertClaudeBlock (env : TranslationEnv) (decodeCustomBridge : Bool)
    (bridgeContext : Option ToolBridgeContext) (acc : ClaudeMessageParts) (block : Value) :
    Except String (Option ClaudeMessageParts) :=
  match block.getStr "type" with
  | none => .ok none
  | some "text" =>
      .ok ((semanticTextPartFromClaudeBlock block).map fun part =>
        { acc with parts := acc.parts ++ [semanticTextPartToOpenaiValue part] })
  | some "image" =>
      (anthropicImageBlockToOpenaiPart env.parseUrl block).map fun part =>
        some { acc with parts := acc.parts ++ [part] }
  | some "tool_use" =>
      let name := (block.getStr "name").getD ""
      (validatePublicToolNameNotReserved name).map fun _ =>
        some { acc with toolCalls := acc.toolCalls ++
          [openaiToolCallOfToolUse block name decodeCustomBridge bridgeContext] }
  | some "server_tool_use" =>
      (validatePublicToolNameNotReserved ((block.getStr "name").getD "")).map fun _ =>
        some { acc with
          toolCalls := acc.toolCalls ++ [openaiToolCallOfServerToolUse env.toEnv block] }
  | some "tool_result" =>
      (semanticToolResultContentToOpenaiChatToolContent
        (semanticToolResultContentFromValue (block.get "content"))).map fun content =>
        some { acc with toolResults := acc.toolResults ++ [.ofFields [("role", .string "tool"),
          ("tool_call_id", .ofOption (block.get "tool_use_id")), ("content", content)]] }
  | some "thinking" =>
      .ok (some { acc with
        reasoningText := acc.reasoningText ++ (block.getStr "thinking").getD "" })
  | some other => .error (anthropicBlockNotPortableMessage other "OpenAI Chat Completions")

/-- The loop over the blocks. -/
def convertClaudeBlocks (env : TranslationEnv) (decodeCustomBridge : Bool)
    (bridgeContext : Option ToolBridgeContext) :
    ClaudeMessageParts → List Value → Except String (Option ClaudeMessageParts)
  | acc, [] => .ok (some acc)
  | acc, block :: blocks =>
      match convertClaudeBlock env decodeCustomBridge bridgeContext acc block with
      | .error e => .error e
      | .ok none => .ok none
      | .ok (some acc) => convertClaudeBlocks env decodeCustomBridge bridgeContext acc blocks

def withReasoningContent (reasoningText : String) (message : Value) : Value :=
  if reasoningText.isEmpty then message
  else message.set "reasoning_content" (.string reasoningText)

theorem get_withReasoningContent (reasoningText : String) (message : Value) {k : String}
    (h : k ≠ "reasoning_content") :
    (withReasoningContent reasoningText message).get k = message.get k := by
  unfold withReasoningContent
  split
  · rfl
  · exact Value.get_set_of_ne message _ h

theorem isObject_withReasoningContent {reasoningText : String} {message : Value}
    (h : message.isObject = true) : (withReasoningContent reasoningText message).isObject = true := by
  unfold withReasoningContent
  split
  · exact h
  · exact Value.isObject_set h _ _

/-- The messages that the blocks make up. Tool results come first, and drop the calls and the
thinking beside them. -/
def ClaudeMessageParts.messages (openaiRole : String) (acc : ClaudeMessageParts) : List Value :=
  let content := collapseOpenaiTextParts acc.parts
  if !acc.toolResults.isEmpty then
    if acc.parts.isEmpty then acc.toolResults
    else acc.toolResults ++ [.ofFields [("role", .string "user"), ("content", content)]]
  else if !acc.toolCalls.isEmpty then
    let message :=
      Value.ofFields [("role", .string "assistant"), ("tool_calls", .array acc.toolCalls)]
    [withReasoningContent acc.reasoningText
      (if acc.parts.isEmpty then message else message.set "content" content)]
  else
    [withReasoningContent acc.reasoningText (.ofFields [("role", .string openaiRole),
      ("content", if acc.parts.isEmpty then .string "" else content)])]

def openaiRoleOfClaudeRole (role : String) : String :=
  if role = "user" || role = "tool" then "user" else "assistant"

/-- `convert_claude_message_to_openai_impl` (`internal.rs` 2121-2283). `none` drops the message. -/
def convertClaudeMessageToOpenai (env : TranslationEnv) (decodeCustomBridge : Bool)
    (bridgeContext : Option ToolBridgeContext) (msg : Value) :
    Except String (Option (List Value)) :=
  match msg.getStr "role", msg.get "content" with
  | some role, some (.string text) =>
      .ok (some [.ofFields [("role", .string (openaiRoleOfClaudeRole role)),
        ("content", .string text)]])
  | some role, some (.array blocks) =>
      (convertClaudeBlocks env decodeCustomBridge bridgeContext {} blocks).map fun acc =>
        acc.map (ClaudeMessageParts.messages (openaiRoleOfClaudeRole role))
  | _, _ => .ok none

/-! ## The loop over the blocks, block by block

Every block adds to the parts without looking at them, so the parts of a message are those of its
blocks put together. -/

/-- The parts of two runs of blocks, one after the other. -/
def ClaudeMessageParts.append (a b : ClaudeMessageParts) : ClaudeMessageParts :=
  ⟨a.parts ++ b.parts, a.toolCalls ++ b.toolCalls, a.toolResults ++ b.toolResults,
    a.reasoningText ++ b.reasoningText⟩

@[simp] theorem ClaudeMessageParts.empty_append (b : ClaudeMessageParts) :
    ClaudeMessageParts.append {} b = b := by
  simp [append]

theorem ClaudeMessageParts.append_assoc (a b c : ClaudeMessageParts) :
    (a.append b).append c = a.append (b.append c) := by
  simp [append, List.append_assoc, String.append_assoc]

section

variable (env : TranslationEnv) (decodeCustomBridge : Bool)
  (bridgeContext : Option ToolBridgeContext)

theorem convertClaudeBlock_append (acc : ClaudeMessageParts) (block : Value) :
    convertClaudeBlock env decodeCustomBridge bridgeContext acc block =
      (convertClaudeBlock env decodeCustomBridge bridgeContext {} block).map
        (Option.map acc.append) := by
  unfold convertClaudeBlock
  split
  · rfl
  · cases semanticTextPartFromClaudeBlock block <;> simp [Except.map, ClaudeMessageParts.append]
  · cases anthropicImageBlockToOpenaiPart env.parseUrl block <;>
      simp [Except.map, ClaudeMessageParts.append]
  · dsimp only
    cases validatePublicToolNameNotReserved ((block.getStr "name").getD "") <;>
      simp [Except.map, ClaudeMessageParts.append]
  · cases validatePublicToolNameNotReserved ((block.getStr "name").getD "") <;>
      simp [Except.map, ClaudeMessageParts.append]
  · cases semanticToolResultContentToOpenaiChatToolContent
      (semanticToolResultContentFromValue (block.get "content")) <;>
      simp [Except.map, ClaudeMessageParts.append]
  · simp [Except.map, ClaudeMessageParts.append]
  · rfl

/-- What a property of parts needs to hold of all the parts of a message: that it holds of nothing,
of what one block adds, and of what is put together. -/
theorem convertClaudeBlocks_induction {P : ClaudeMessageParts → Prop}
    (happend : ∀ a b, P a → P b → P (a.append b))
    {blocks : List Value}
    (hblock : ∀ block ∈ blocks, ∀ part,
      convertClaudeBlock env decodeCustomBridge bridgeContext {} block = .ok (some part) → P part) :
    ∀ {acc parts : ClaudeMessageParts}, P acc →
      convertClaudeBlocks env decodeCustomBridge bridgeContext acc blocks = .ok (some parts) →
      P parts := by
  induction blocks with
  | nil =>
    intro acc parts hacc h
    cases h
    exact hacc
  | cons block blocks ih =>
    intro acc parts hacc h
    rw [convertClaudeBlocks, convertClaudeBlock_append] at h
    cases hone : convertClaudeBlock env decodeCustomBridge bridgeContext {} block with
    | error e =>
      rw [hone] at h
      cases h
    | ok part =>
      rw [hone] at h
      cases part with
      | none => cases h
      | some part =>
        exact ih (fun b hb => hblock b (List.mem_cons_of_mem _ hb))
          (happend acc part hacc (hblock block List.mem_cons_self part hone)) h

theorem role_of_toolResults {blocks : List Value} {parts : ClaudeMessageParts}
    (h : convertClaudeBlocks env decodeCustomBridge bridgeContext {} blocks = .ok (some parts)) :
    ∀ message ∈ parts.toolResults, message.getStr "role" = some "tool" := by
  refine convertClaudeBlocks_induction env decodeCustomBridge bridgeContext
    (P := fun parts => ∀ message ∈ parts.toolResults, message.getStr "role" = some "tool")
    (fun a b ha hb message hm => (List.mem_append.mp hm).elim (ha message) (hb message))
    (fun block _ part hpart => ?_) (fun _ hm => absurd hm List.not_mem_nil) h
  unfold convertClaudeBlock at hpart
  split at hpart
  case h_6 =>
    obtain ⟨content, _, hpart⟩ := Result.map_ok.mp hpart
    cases hpart
    intro message hm
    rw [List.mem_singleton.mp hm, Value.getStr, Value.get_ofFields]
    rfl
  case h_2 =>
    obtain ⟨textPart, _, rfl⟩ := Option.map_eq_some_iff.mp (Except.ok.inj hpart)
    exact fun _ hm => absurd hm List.not_mem_nil
  case h_1 | h_8 => cases hpart
  case h_7 =>
    cases hpart
    exact fun _ hm => absurd hm List.not_mem_nil
  all_goals
    obtain ⟨_, _, hpart⟩ := Result.map_ok.mp hpart
    cases hpart
    exact fun _ hm => absurd hm List.not_mem_nil

end

/-! ## To Anthropic -/

/-- `openai_content_part_not_portable_to_anthropic_message`. -/
def openaiContentPartNotPortableToAnthropicMessage (partType reason : String) : String :=
  s!"OpenAI content part `{partType}` cannot be faithfully translated to Anthropic: {reason}"

/-- `openai_image_url_part_url`. -/
def openaiImageUrlPartUrl (part : Value) : Option String :=
  match part.get "image_url" with
  | some (.string url) => some url
  | some imageUrl => imageUrl.getStr "url"
  | none => none

/-- A block whose source has been read. -/
def claudeSourceBlock (blockType : String) (source : List (String × Value)) : Value :=
  .ofFields [("type", .string blockType), ("source", .ofFields source)]

/-- `openai_image_url_part_to_claude_block` (`internal.rs` 2551-2590). -/
def openaiImageUrlPartToClaudeBlock (parseUrl : String → Option Url) (part : Value) :
    Except String Value :=
  let refuse (reason : String) : Except String Value :=
    .error (openaiContentPartNotPortableToAnthropicMessage "image_url" reason)
  match openaiImageUrlPartUrl part with
  | none =>
      refuse "missing image URL; Anthropic image blocks require inline base64 image data."
  | some url =>
    match classifyMediaSourceReference parseUrl url with
    | .mimeDataUri mimeType data =>
        if Text.startsWith mimeType "image/" then
          .ok (claudeSourceBlock "image" [("type", .string "base64"),
            ("media_type", .string mimeType), ("data", .string data)])
        else refuse s!"data URI MIME `{mimeType}` is not an image MIME type."
    | .httpRemoteUrl url =>
        .ok (claudeSourceBlock "image" [("type", .string "url"), ("url", .string url)])
    | .providerOrLocalUri uri =>
        refuse <| "Anthropic image URL sources only support http:// or https:// remote URLs; " ++
          s!"provider/local URI `{uri}` is not portable."
    | .bareBase64 _ | .unsupported _ =>
        refuse "image_url must be a base64 data URI or an http:// or https:// remote URL."

/-- `openai_file_part_error_to_anthropic`. -/
def openaiFilePartErrorToAnthropic (reason : String) : String :=
  openaiContentPartNotPortableToAnthropicMessage "file/input_file" reason

/-- `openai_file_part_to_claude_document_block` (`internal.rs` 2596-2666). -/
def openaiFilePartToClaudeDocumentBlock (parseUrl : String → Option Url) (part : Value) :
    Except String Value := do
  let _ ← (openaiFileReferencePayload part).mapError openaiFilePartErrorToAnthropic
  if ((openaiFilePartField part "file_data").or (openaiFilePartField part "file_url")).isNone then
    throw <| openaiFilePartErrorToAnthropic <| "file parts require file_data or file_url with " ++
      "PDF MIME/filename provenance; provider file_id references are not portable."
  let resolvedMime ← (openaiFilePartResolvedMimeType part).mapError openaiFilePartErrorToAnthropic
  let reference ←
    (openaiFileDataReferenceFromPart parseUrl part).mapError openaiFilePartErrorToAnthropic
  match reference with
  | .inlineData mimeType data =>
      if isPdfMime mimeType then
        pure (claudeSourceBlock "document" [("type", .string "base64"),
          ("media_type", .string "application/pdf"), ("data", .string data)])
      else throw <| openaiFilePartErrorToAnthropic <|
        s!"only application/pdf files can map to Anthropic document blocks; got MIME `{mimeType}`."
  | .httpRemoteUrl mimeType url =>
      if isPdfMime mimeType then
        pure (claudeSourceBlock "document" [("type", .string "url"), ("url", .string url)])
      else throw <| openaiFilePartErrorToAnthropic <|
        "only application/pdf HTTP(S) URLs can map to Anthropic document URL blocks; got MIME " ++
          s!"`{mimeType}`."
  | .providerOrLocalUri _ uri =>
      throw <| openaiFilePartErrorToAnthropic <|
        "Anthropic document URL sources only support http:// or https:// PDF URLs; " ++
          s!"provider/local URI `{uri}` is not portable."
  | .bareBase64 mimeType _ =>
      let detail := ((resolvedMime.or mimeType).map fun mime => s!" with MIME `{mime}`").getD ""
      throw <| openaiFilePartErrorToAnthropic <|
        s!"bare base64 file_data{detail} must not be coerced into Anthropic document bytes; use " ++
          "a MIME-bearing PDF data URI."

/-- `openai_audio_part_not_portable_to_anthropic_message`. -/
def openaiAudioPartNotPortableToAnthropicMessage (part : Value) : String :=
  let format := ((((part.get "input_audio").bind (Value.getStr · "format")).filter
    fun format => !format.isEmpty).map fun format => s!" with format `{format}`").getD ""
  openaiContentPartNotPortableToAnthropicMessage "input_audio"
    s!"audio input{format} has no native Anthropic request mapping in this translator."

def claudeTextBlock (text : String) : Value :=
  .ofFields [("type", .string "text"), ("text", .string text)]

/-- `openai_text_part_to_claude_text_block`. -/
def openaiTextPartToClaudeTextBlock (part : Value) : Except String Value :=
  match semanticTextPartFromOpenaiPart part with
  | none => .error "invalid OpenAI text content part"
  | some textPart =>
      .ok (if textPart.annotations.isEmpty then claudeTextBlock textPart.text
        else (claudeTextBlock textPart.text).set "citations" (.array textPart.annotations))

/-- `openai_refusal_part_to_claude_text_block`. -/
def openaiRefusalPartToClaudeTextBlock (part : Value) : Value :=
  .ofFields [("type", .string "text"), ("text", (part.get "refusal").getD (.string ""))]

/-- One entry of a content array. -/
def openaiContentPartToClaudeBlock (parseUrl : String → Option Url) (part : Value) :
    Except String Value :=
  match part.getStr "type" with
  | none => .error
      "OpenAI content array entries require a string `type` to translate to Anthropic."
  | some "text" => openaiTextPartToClaudeTextBlock part
  | some "refusal" => .ok (openaiRefusalPartToClaudeTextBlock part)
  | some "image_url" => openaiImageUrlPartToClaudeBlock parseUrl part
  | some "input_audio" => .error (openaiAudioPartNotPortableToAnthropicMessage part)
  | some "file" | some "input_file" => openaiFilePartToClaudeDocumentBlock parseUrl part
  | some other => .error (openaiContentPartNotPortableToAnthropicMessage other
      "unsupported typed content parts must not be silently dropped.")

def openaiContentToClaudeBlocks (parseUrl : String → Option Url) :
    Option Value → Except String (List Value)
  | some (.string s) => .ok [claudeTextBlock s]
  | some (.array parts) => parts.mapM (openaiContentPartToClaudeBlock parseUrl)
  | _ => .ok []

/-- The thinking and the refusal of an assistant's message, in front of its content. -/
def openaiAssistantLeadingBlocks (msg : Value) : List Value :=
  let thinking :=
    match openaiMessageAnthropicReasoningReplayBlocks msg with
    | some replayBlocks => replayBlocks
    | none =>
      match openaiMessageReasoningText msg with
      | some reasoning =>
          [.ofFields [("type", .string "thinking"), ("thinking", .string reasoning)]]
      | none => []
  thinking ++ ((extractOpenaiRefusal msg).map claudeTextBlock).toList

def openaiToolCallToClaudeBlock (env : Env) (toolCall : Value) : Except String Value :=
  if toolCallIsMarkedNonReplayable env toolCall then
    .ok (claudeTextBlock (openaiToolCallPartialReplayText toolCall))
  else do
    let blockType ← anthropicToolUseTypeForOpenaiToolCall env toolCall
    let input ← openaiToolArgumentsToStructuredValue env.serde toolCall "Anthropic"
    pure (.ofFields [("type", .string blockType), ("id", .ofOption (toolCall.get "id")),
      ("name", .ofOption ((toolCall.get "function").bind (Value.get · "name"))),
      ("input", input)])

/-- `openai_message_to_claude_blocks` (`internal.rs` 2798-2899). `none` drops the message. -/
def openaiMessageToClaudeBlocks (env : TranslationEnv) (msg : Value) :
    Except String (Option (List Value)) :=
  match msg.getStr "role" with
  | none => .ok none
  | some role =>
    if role = "tool" then
      if semanticToolKindFromValue env.toEnv msg = .openAiCustom then
        .error (customToolsNotPortableMessage .anthropic)
      else
        .ok (some [.ofFields [("type", .string "tool_result"),
          ("tool_use_id", .ofOption (msg.get "tool_call_id")),
          ("content", semanticToolResultContentToValue
            (semanticToolResultContentFromValue (msg.get "content")))]])
    else do
      let leading := if role = "assistant" then openaiAssistantLeadingBlocks msg else []
      let content ← openaiContentToClaudeBlocks env.parseUrl (msg.get "content")
      let toolCalls := if role = "assistant" then (msg.getArray "tool_calls").getD [] else []
      let calls ← toolCalls.mapM (openaiToolCallToClaudeBlock env.toEnv)
      let blocks := leading ++ content ++ calls
      if blocks.isEmpty then
        pure (if (msg.get "content").isSome then some [claudeTextBlock ""] else none)
      else pure (some blocks)

end LlmUniversalProxy.Translate
