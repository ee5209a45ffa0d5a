import LlmUniversalProxy.Translate.Content
import LlmUniversalProxy.Translate.Finish

/-!
# `Translate.ResponsesContent` — output items of Responses and the message of Chat

The output of a response is a list of items; Chat has one message. Its texts, refusals, reasoning
and calls are collected from the items, and written as items again. Thinking that Anthropic has
signed travels in a carrier: the blocks as hexadecimal JSON, behind a text that tells it from the
reasoning that other providers encrypt.

The source is `translate/internal/openai_responses.rs` 52-137, 239-447 and 2101-2189, and
`response_logprobs.rs`.
-/

set_option autoImplicit false

namespace LlmUniversalProxy.Translate

open Json Lib

/-! ## The reasoning carrier -/

/-- `ANTHROPIC_REASONING_CARRIER_PREFIX`. -/
def anthropicReasoningCarrierPrefix : String := "anthropic-thinking-v1:"

/-- `encode_anthropic_reasoning_carrier`. -/
def encodeAnthropicReasoningCarrier (blocks : List Value) : String :=
  anthropicReasoningCarrierPrefix ++ hexEncode (bytesOf (Value.ofFields
    [("format", .string "anthropic-thinking-replay"), ("version", .nat 1),
      ("blocks", .array blocks)]).toJson)

/-- `hex::decode`. -/
def hexDecode : List Char → Option (List UInt8)
  | [] => some []
  | [_] => none
  | a :: b :: rest => do
      let high ← hexVal a
      let low ← hexVal b
      let bytes ← hexDecode rest
      pure (UInt8.ofNat (high * 16 + low) :: bytes)

/-- `serde_json::from_slice`: what is not UTF-8 is no JSON either. -/
def fromSlice (serde : Serde) (bytes : List UInt8) : Option Value :=
  (String.fromUTF8? ⟨bytes.toArray⟩).bind (fromStr serde)

/-- `decode_anthropic_reasoning_carrier` (`openai_responses.rs` 66-90), of whose errors only the
fact is used. -/
def decodeAnthropicReasoningCarrier (serde : Serde) (carrier : String) : Option (List Value) := do
  let encoded ← Text.stripPrefix carrier anthropicReasoningCarrierPrefix
  let decoded ← hexDecode encoded.toList
  let payload ← fromSlice serde decoded
  if payload.getStr "format" ≠ some "anthropic-thinking-replay" then none
  else if payload.getU64 "version" ≠ some 1 then none
  else do
    let blocks ← payload.getArray "blocks"
    if blocks.any fun block => block.getStr "type" ≠ some "thinking" then none else some blocks

/-- `responses_summary_array_text`. -/
def responsesSummaryArrayText (item : Value) : String :=
  String.join (((item.getArray "summary").getD []).filterMap fun part =>
    if part.getStr "type" = some "summary_text" then part.getStr "text" else none)

/-- A thinking block without a signature. -/
def unsignedThinkingBlock (thinking : String) : Value :=
  .ofFields [("type", .string "thinking"), ("thinking", .string thinking)]

/-- `responses_reasoning_replay_blocks_for_anthropic`. -/
def responsesReasoningReplayBlocksForAnthropic (serde : Serde) (item : Value) :
    Option (List Value) :=
  let summary := responsesSummaryArrayText item
  let carried := ((item.getStr "encrypted_content").bind
    (decodeAnthropicReasoningCarrier serde)).filter fun blocks => !blocks.isEmpty
  carried.or (if summary.isEmpty then none else some [unsignedThinkingBlock summary])

/-! ## What an output item may be -/

/-- `responses_portable_output_item_type`. -/
def responsesPortableOutputItemType (itemType : String) : Bool :=
  itemType ∈ ["message", "function_call", "custom_tool_call", "reasoning", "output_audio"]

/-- `responses_hosted_output_item_type`. -/
def responsesHostedOutputItemType (itemType : String) : Bool :=
  itemType ∈ ["file_search_call", "web_search_call", "code_interpreter_call", "mcp_call",
    "image_generation_call", "computer_call", "computer_call_output"]

/-- `responses_nonportable_output_item_message` (`response_logprobs.rs` 8-36). -/
def responsesNonportableOutputItemMessage (targetLabel : String)
    (allowReasoningEncryptedContent : Bool) (item : Value) : Option String :=
  (item.getStr "type").bind fun itemType =>
    let notPortable := s!"OpenAI Responses output item `{itemType}` cannot be faithfully " ++
      s!"translated to {targetLabel}"
    if itemType = "reasoning" && (item.get "encrypted_content").isSome &&
        !allowReasoningEncryptedContent then
      some <| "OpenAI Responses reasoning output item field `encrypted_content` cannot be " ++
        s!"faithfully translated to {targetLabel}"
    else if itemType ∈ ["function_call_output", "custom_tool_call_output", "compaction"] then
      some notPortable
    else if responsesPortableOutputItemType itemType then none
    else if responsesHostedOutputItemType itemType then some notPortable
    else some <| s!"OpenAI Responses output item `{itemType}` is outside the portable " ++
      s!"cross-protocol subset and cannot be faithfully translated to {targetLabel}"

/-! ## Logprobs -/

/-- `responses_output_text_logprobs` (`response_logprobs.rs` 38-65). -/
def responsesOutputTextLogprobs (item : Value) : Except String (Option (List Value)) := do
  let logprobs ← (((item.getArray "content").getD []).filter fun part =>
    part.getStr "type" = some "output_text").mapM fun part =>
      match part.get "logprobs" with
      | some (.array logprobs) => .ok (some logprobs)
      | some .null | none => .ok none
      | some _ => .error <| "OpenAI Responses message.output_text.logprobs must be an array for " ++
          "response translation."
  let logprobs := logprobs.filterMap id
  pure (if logprobs.isEmpty then none else some logprobs.flatten)

/-- `normalized_response_logprob_candidate_from_value` (`response_logprobs.rs` 67-101), of which
only the check is used. -/
def checkLogprobCandidate (fieldName targetLabel : String) (value : Value) :
    Except String Unit :=
  let field := s!"OpenAI-family response field `{fieldName}` must contain "
  if !value.isObject then throw s!"{field}objects when translating to {targetLabel}"
  else if ((value.getStr "token").filter fun token => !token.isEmpty).isNone then
    throw s!"{field}non-empty string `token` values when translating to {targetLabel}"
  else
    match value.get "logprob" with
    | some (.number _) => pure ()
    | _ => throw s!"{field}finite numeric `logprob` values when translating to {targetLabel}"

/-- `normalized_response_token_logprob_from_value` (`response_logprobs.rs` 103-136), of which only
`raw` is used. -/
def normalizedResponseTokenLogprobFromValue (targetLabel : String) (value : Value) :
    Except String Value := do
  checkLogprobCandidate "choice.logprobs.content" targetLabel value
  match value.get "top_logprobs" with
  | some (.array items) =>
      items.forM (checkLogprobCandidate "choice.logprobs.content[].top_logprobs" targetLabel)
  | some .null | none => pure ()
  | some _ => throw <| "OpenAI Chat response field `choice.logprobs.content[].top_logprobs` must " ++
      s!"be an array when translating to {targetLabel}"
  pure value

/-- `normalized_response_logprobs_from_openai_choice` (`response_logprobs.rs` 138-170). -/
def normalizedResponseLogprobsFromOpenaiChoice (choice : Value) (targetLabel : String) :
    Except String (Option (List Value)) :=
  match (choice.get "logprobs").filter fun value => !value.isNull with
  | none => .ok none
  | some logprobs =>
    if !logprobs.isObject then
      .error <| "OpenAI Chat response field `choice.logprobs` must be an object when translating " ++
        s!"to {targetLabel}"
    -- Responses has no place for the logprobs of a refusal
    else if (logprobs.getArray "refusal").any fun refusal => !refusal.isEmpty then
      .error <| "OpenAI Chat response field `choice.logprobs.refusal` cannot be faithfully " ++
        s!"translated to {targetLabel}"
    else
      match logprobs.get "content" with
      | some (.array content) =>
          (content.mapM (normalizedResponseTokenLogprobFromValue targetLabel)).map some
      | some .null | none => .ok none
      | some _ => .error <| "OpenAI Chat response field `choice.logprobs.content` must be an " ++
          s!"array when translating to {targetLabel}"

/-- `attach_openai_choice_logprobs_to_responses_content` (`response_logprobs.rs` 181-202). -/
def attachOpenaiChoiceLogprobsToResponsesContent (content : List Value)
    (contentLogprobs : List Value) : Except String (List Value) :=
  let isOutputText (part : Value) : Bool := part.getStr "type" = some "output_text"
  if (content.filter isOutputText).length ≠ 1 then
    .error <| "OpenAI Chat response logprobs can only be translated to Responses when assistant " ++
      "output maps to a single `output_text` item."
  else .ok (content.map fun part =>
    if isOutputText part then part.set "logprobs" (.array contentLogprobs) else part)

/-! ## Audio -/

/-- `responses_output_audio_item_to_openai_audio` (`openai_responses.rs` 239-265). -/
def responsesOutputAudioItemToOpenaiAudio (item : Value) : Option Value :=
  if item.getStr "type" ≠ some "output_audio" then none
  else
    let merged := match item.get "audio" with
      | some (.object audio) => .object audio
      | some .null | none => .ofFields []
      | some audio => .ofFields [("data", audio)]
    let merged := copyRemainingUsageFields item merged ["type", "audio"]
    if merged = .ofFields [] then none else some merged

/-- `responses_response_audio_to_openai_audio`. -/
def responsesResponseAudioToOpenaiAudio (body : Value) : Except String (Option Value) :=
  match ((body.getArray "output").getD []).filterMap responsesOutputAudioItemToOpenaiAudio with
  | [] => .ok none
  | [audio] => .ok (some audio)
  | _ => .error (responsesMultipleOutputAudioItemsNotPortableMessage "OpenAI Chat Completions")

def checkAudioData (field : String) (data : Value) : Except String Unit :=
  match data.asStr with
  | some text =>
      if (validateInlineBase64Payload text).isNone then
        throw <| s!"OpenAI assistant {field} requires canonical non-empty base64 data to " ++
          "translate to OpenAI Responses."
      else pure ()
  | none => pure ()

/-- `openai_assistant_audio_to_responses_output_item` (`openai_responses.rs` 305-354). -/
def openaiAssistantAudioToResponsesOutputItem (message : Value) :
    Except String (Option Value) :=
  match message.get "audio" with
  | none | some .null => pure none
  | some (.object audio) => do
      for field in ["id", "expires_at"] do
        if ((Value.object audio).get field).isSome then
          throw (openaiAssistantAudioFieldNotPortableMessage field "OpenAI Responses")
      let data := (Value.object audio).get "data"
      match data with
      | some data => checkAudioData "audio.data" data
      | none => pure ()
      pure (some (.ofFields ([("type", .string "output_audio")] ++
        (data.map fun data => ("data", data)).toList ++
        (((Value.object audio).get "transcript").map fun text => ("transcript", text)).toList)))
  -- audio that is no object counts as its own data
  | some audio => do
      checkAudioData "audio" audio
      pure (some (.ofFields [("type", .string "output_audio"), ("data", audio)]))

/-! ## Content parts -/

/-- `validate_openai_media_source_field` (`openai_responses.rs` 377-387). -/
def validateOpenaiMediaSourceField (parseUrl : String → Option Url) (field : String)
    (value : Value) : Except String Unit :=
  match value.asStr with
  | none => pure ()
  | some source =>
      if validateMediaSourceReference parseUrl source then pure ()
      else throw <| s!"OpenAI {field} media source must be a clean data URI, HTTP(S) URL, " ++
        "provider/local URI, or canonical base64 payload."

/-- `validate_openai_image_source_field` (`openai_responses.rs` 389-400). -/
def validateOpenaiImageSourceField (parseUrl : String → Option Url) (field : String)
    (value : Option Value) : Except String Unit :=
  match value with
  | some (.string source) => validateOpenaiMediaSourceField parseUrl field (.string source)
  | some value =>
      match value.get "url" with
      | some url => validateOpenaiMediaSourceField parseUrl field url
      | none => pure ()
  | none => pure ()

/-- `validate_openai_input_audio_data` (`openai_responses.rs` 416-433). -/
def validateOpenaiInputAudioData (field : String) (inputAudio : Option Value) :
    Except String Unit :=
  match inputAudio.bind (Value.getStr · "data") with
  | none => pure ()
  | some data =>
      if (validateInlineBase64Payload data).isSome then pure ()
      else throw s!"OpenAI {field}.data requires canonical non-empty base64 data."

def inputFilePart (parseUrl : String → Option Url) (file : Value) : Except String Value := do
  for field in ["file_data", "file_url"] do
    match file.get field with
    | some value => validateOpenaiMediaSourceField parseUrl field value
    | none => pure ()
  pure (.ofFields (("type", .string "input_file") ::
    ["file_id", "file_data", "file_url", "filename", "mime_type", "mimeType"].filterMap fun key =>
      (file.get key).map fun value => (key, value)))

/-- One part of `map_openai_content_to_responses`. -/
def mapOpenaiPartToResponses (parseUrl : String → Option Url) (contentType : String)
    (part : Value) : Except String Value :=
  match part.getStr "type" with
  | some "text" => .ok (semanticTextPartToResponsesValue
      ⟨(part.getStr "text").getD "", (part.getArray "annotations").getD []⟩ contentType)
  | some "refusal" => .ok (.ofFields [("type", .string "refusal"),
      ("refusal", (part.get "refusal").getD (.string ""))])
  | some "image_url" => do
      let imageUrl := part.get "image_url"
      validateOpenaiImageSourceField parseUrl "image_url" imageUrl
      let url := (imageUrl.bind (Value.get · "url")).or imageUrl
      let detail := imageUrl.bind (Value.get · "detail")
      pure (.ofFields ([("type", .string "input_image"), ("image_url", .ofOption url)] ++
        (detail.map fun detail => ("detail", detail)).toList))
  | some "input_audio" => do
      validateOpenaiInputAudioData "input_audio" (part.get "input_audio")
      pure (.ofFields [("type", .string "input_audio"),
        ("input_audio", .ofOption (part.get "input_audio"))])
  | some "file" =>
      match (part.get "file").filter Value.isObject with
      | some file => inputFilePart parseUrl file
      | none => .ok (.ofFields [("type", .string "input_file")])
  -- unknown parts become text, of their JSON where they have none
  | _ =>
      let text := (((part.get "text").or (part.get "content")).bind Value.asStr).getD part.toJson
      .ok (.ofFields [("type", .string contentType), ("text", .string text)])

/-- `map_openai_content_to_responses`. -/
def mapOpenaiContentToResponses (parseUrl : String → Option Url) (content : Option Value)
    (contentType : String) : Except String (List Value) :=
  match content with
  | some (.string s) => .ok [.ofFields [("type", .string contentType), ("text", .string s)]]
  | some (.array parts) => parts.mapM (mapOpenaiPartToResponses parseUrl contentType)
  | _ => .ok []

/-- `openai_message_to_responses_content`. -/
def openaiMessageToResponsesContent (parseUrl : String → Option Url) (msg : Value)
    (contentType : String) : Except String (List Value) :=
  (mapOpenaiContentToResponses parseUrl (msg.get "content") contentType).map fun content =>
    content ++ ((extractOpenaiRefusal msg).map fun refusal =>
      Value.ofFields [("type", .string "refusal"), ("refusal", .string refusal)]).toList

end LlmUniversalProxy.Translate
