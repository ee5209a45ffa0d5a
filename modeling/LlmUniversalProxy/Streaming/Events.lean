import LlmUniversalProxy.Streaming.AnthropicSource
import LlmUniversalProxy.Streaming.ClaudeSink
import LlmUniversalProxy.Streaming.ResponsesSink
import LlmUniversalProxy.Streaming.ResponsesSource

/-!
# `Streaming.Events` — one upstream event for one client

An event goes through the source of the upstream's format and the sink of the client's, with checks
before and between. Anthropic's `error` events, and the proxy's own limits, which are put into the
same form, do not take that way: they are turned into the client's last event at once.

The source is `streaming/stream.rs` 151-553 and 822-1009.
-/

set_option autoImplicit false

namespace LlmUniversalProxy.Streaming

open Json Lib Translate

/-! ## Limits -/

/-- `StreamResourceLimit`. -/
inductive StreamResourceLimit where
  | sseFrameTooLarge
  | idleTimeout
  | maxDuration
  | maxEvents
  | stateTooLarge
  deriving DecidableEq, Repr

namespace StreamResourceLimit

/-- `StreamResourceLimit::code`. -/
def code : StreamResourceLimit → String
  | sseFrameTooLarge => "upstream_sse_frame_too_large"
  | idleTimeout => "upstream_stream_idle_timeout"
  | maxDuration => "upstream_stream_max_duration_exceeded"
  | maxEvents => "upstream_stream_event_limit_exceeded"
  | stateTooLarge => "upstream_stream_state_too_large"

/-- `StreamResourceLimit::message`. -/
def message : StreamResourceLimit → String
  | sseFrameTooLarge => "Upstream SSE frame exceeded the maximum supported size."
  | idleTimeout => "Upstream stream exceeded the configured idle timeout."
  | maxDuration => "Upstream stream exceeded the configured maximum duration."
  | maxEvents => "Upstream stream exceeded the configured maximum event count."
  | stateTooLarge => "Upstream stream exceeded the configured accumulated state size."

end StreamResourceLimit

/-- `known_stream_resource_limit_code`. -/
def knownStreamResourceLimitCode (code : String) : Option String :=
  if code ∈ [StreamResourceLimit.sseFrameTooLarge, .idleTimeout, .maxDuration, .maxEvents,
    .stateTooLarge].map StreamResourceLimit.code then some code else none

/-- What `normalize_anthropic_stream_error` answers. -/
structure NormalizedError where
  errorType : String
  code : Option String
  finishReason : String

/-- An error of the kind that a limit makes. -/
def limitError (limit : StreamResourceLimit) : NormalizedError :=
  ⟨"invalid_request_error", some limit.code, "tool_error"⟩

/-- `normalize_anthropic_stream_error` (`streaming/stream.rs` 925-1009). -/
def normalizeAnthropicStreamError (errorType message : String) : NormalizedError :=
  let lowerType := Text.asciiLower errorType
  let lowerMessage := Text.asciiLower message
  let mentions := Text.contains lowerMessage
  -- an error of Anthropic has no code, so the proxy's own limits are known by their texts
  if mentions "sse frame" && mentions "maximum supported size" then limitError .sseFrameTooLarge
  else if mentions "idle timeout" then limitError .idleTimeout
  else if mentions "maximum duration" then limitError .maxDuration
  else if mentions "maximum event count" then limitError .maxEvents
  else if mentions "accumulated state size" then limitError .stateTooLarge
  else if Text.contains lowerType "overloaded" || Text.contains lowerType "api_error" then
    ⟨"server_error", some "server_is_overloaded",
      classifyPortableNonSuccessTerminal (some "server_is_overloaded")⟩
  else if Text.contains lowerType "rate_limit" then
    ⟨"rate_limit_error", some "rate_limit_exceeded",
      classifyPortableNonSuccessTerminal (some "rate_limit_exceeded")⟩
  else if Text.contains lowerType "invalid_request" && (mentions "context window" ||
      mentions "context_length_exceeded" || mentions "too many tokens" ||
      mentions "maximum context length") then
    ⟨"invalid_request_error", some "context_length_exceeded", "context_length_exceeded"⟩
  else if Text.contains lowerType "invalid_request" &&
      (mentions "refusal" || mentions "content filter") then
    ⟨"invalid_request_error", some "content_filter", "content_filter"⟩
  else
    ⟨"server_error", some "server_is_overloaded",
      classifyPortableNonSuccessTerminal (some "server_is_overloaded")⟩

/-! ## Errors that end a stream -/

/-- An error as the client is to see it. -/
structure PublicError where
  errorType : String
  message : String
  normalized : NormalizedError

/-- The error of an event: a type or a message that would leak something is replaced, and the code
of a limit is kept. -/
def publicError (event : Value) : PublicError :=
  let error := (event.get "error").getD .null
  let errorType := (error.getStr "type").getD "api_error"
  let errorType := if containsInternalArtifactText errorType then "api_error" else errorType
  let message := sanitizePublicErrorMessage
    ((error.getStr "message").getD "Anthropic streaming error")
  let explicitCode := (error.getStr "code").bind knownStreamResourceLimitCode
  let normalized := normalizeAnthropicStreamError errorType message
  ⟨errorType, message, ⟨
    if explicitCode.isSome then "invalid_request_error" else normalized.errorType,
    explicitCode.or normalized.code, normalized.finishReason⟩⟩

/-- `anthropic_error_event_to_client_sse` (`streaming/stream.rs` 822-912), for a Responses client.
-/
def responsesFailedByError (env : Env) (error : PublicError) (state : StreamState) :
    List SseFrame × StreamState :=
  let state := { state with responsesSeq := state.responsesSeq + 1 }
  let (message, state) := markStreamFatalRejection state error.message
  let state := { state with responsesTerminalSent := true }
  let fallback := state.messageId.getD s!"resp_error_{env.uuid (state.responsesSeq - 1)}"
  ([.event "response.failed" (.ofFields [("type", .string "response.failed"),
    ("sequence_number", .nat state.responsesSeq),
    ("response", .ofFields [("id", .string (state.responsesResponseId (some fallback))),
      ("object", .string "response"), ("created_at", .nat 0), ("status", .string "failed"),
      ("background", .bool false),
      ("error", .ofFields [("type", .string error.normalized.errorType),
        ("code", .ofOptionStr error.normalized.code), ("message", .string message)]),
      ("incomplete_details", .null), ("usage", .null), ("metadata", .ofFields [])])])], state)

/-- `anthropic_error_event_to_client_sse` (`streaming/stream.rs` 822-912). -/
def anthropicErrorEventToClientSse (env : Env) (event : Value) (clientFormat : UpstreamFormat)
    (state : StreamState) : List SseFrame × StreamState :=
  let error := publicError event
  match clientFormat with
  | .openAiResponses => responsesFailedByError env error state
  | .openAiChatCompletions =>
      let chunk := openaiChunk env state (.ofFields []) (some error.normalized.finishReason)
      ([.data (chunk.set "error" (.ofFields [("type", .string error.normalized.errorType),
        ("code", .ofOptionStr error.normalized.code), ("message", .string error.message)])),
        .done], state)
  | .anthropic => ([anthropicErrorEvent error.errorType error.message], state)

/-- `reject_stream_resource_limit`. -/
def rejectStreamResourceLimit (env : Env) (clientFormat : UpstreamFormat) (state : StreamState)
    (limit : StreamResourceLimit) : List SseFrame × StreamState :=
  anthropicErrorEventToClientSse env (.ofFields [("type", .string "error"),
    ("error", .ofFields [("type", .string "invalid_request_error"), ("code", .string limit.code),
      ("message", .string limit.message)])]) clientFormat state

/-! ## Names -/

/-- `validate_openai_stream_tool_call_name`. -/
def validateOpenaiStreamToolCallName (toolCall : Value) : Except String Unit := do
  validatePublicSelectorVisibleIdentity toolCall
  [(toolCall.get "function").bind (Value.getStr · "name"),
    (toolCall.get "custom").bind (Value.getStr · "name"),
    toolCall.getStr "name"].reduceOption.forM validatePublicToolNameNotReserved

/-- `validate_openai_stream_choice_tool_names`. -/
def validateOpenaiStreamChoiceToolNames (choice : Value) : Except String Unit :=
  [choice.get "delta", choice.get "message"].reduceOption.forM fun container => do
    ((container.getArray "tool_calls").getD []).forM validateOpenaiStreamToolCallName
    (container.get "function_call").toList.forM validateOpenaiStreamToolCallName

/-- `validate_openai_stream_event_tool_names`. -/
def validateOpenaiStreamEventToolNames (event : Value) : Except String Unit :=
  ((event.getArray "choices").getD []).forM validateOpenaiStreamChoiceToolNames

/-- A block of Anthropic content, when it is a tool call. -/
def validateAnthropicBlockToolName (block : Value) : Except String Unit :=
  match block.getStr "type" with
  | some "tool_use" | some "server_tool_use" =>
      (block.getStr "name").toList.forM validatePublicToolNameNotReserved
  | _ => pure ()

/-- `validate_anthropic_stream_content_tool_names`. -/
def validateAnthropicStreamContentToolNames (content : Value) : Except String Unit :=
  (content.asArray.getD []).forM validateAnthropicBlockToolName

/-- `validate_anthropic_stream_event_tool_names`. -/
def validateAnthropicStreamEventToolNames (event : Value) : Except String Unit := do
  validateAnthropicBlockToolName ((event.get "content_block").getD .null)
  (event.get "content").toList.forM validateAnthropicStreamContentToolNames
  ((event.get "message").bind (Value.get · "content")).toList.forM
    validateAnthropicStreamContentToolNames

/-- `validate_responses_stream_event_tool_names`. -/
def validateResponsesStreamEventToolNames (event : Value) : Except String Unit := do
  validateResponsesPublicStreamEventToolIdentity event
  (event.get "item").toList.forM validateResponsesPublicToolCallItemIdentity
  (event.get "output").toList.forM validateResponsesPublicOutputToolIdentity
  (event.get "response").toList.forM validateResponsesPublicResponseObjectToolIdentity

/-- `validate_public_stream_response_event_tool_names` (`streaming/stream.rs` 332-344). -/
def validatePublicStreamResponseEventToolNames (format : UpstreamFormat) (event : Value) :
    Except String Unit :=
  if containsInternalContextField event then .error internalArtifactErrorMessage
  else
    match format with
    | .openAiChatCompletions => validateOpenaiStreamEventToolNames event
    | .openAiResponses => validateResponsesStreamEventToolNames event
    | .anthropic => validateAnthropicStreamEventToolNames event

/-! ## Chunks -/

/-- The marker that a stream ends with. -/
def isDone (event : Value) : Bool := (event.get "_done").bind Value.asBool = some true

/-- `openai_event_as_chunk`. -/
def openaiEventAsChunk (event : Value) : Option Value :=
  if isDone event then none
  else if (event.get "usage").isSome ||
      ((event.getArray "choices").any fun choices => !choices.isEmpty) then some event
  else none

/-- `reject_openai_multi_choice_for_non_openai_sink`. -/
def rejectOpenaiMultiChoiceForNonOpenaiSink (env : Env) (state : StreamState) :
    List Value × StreamState :=
  rejectOpenaiStream env state "invalid_request_error" "unsupported_openai_stream_event"
    "OpenAI streaming response with multiple choices cannot be translated losslessly."

def captureChunk (chunk : Value) (state : StreamState) : StreamState :=
  { state with
    messageId := state.messageId.or (chunk.getStr "id")
    model := state.model.or (chunk.getStr "model")
    usage := (chunk.get "usage").or state.usage }

/-- `ensure_single_openai_choice_for_non_openai_sink` (`streaming/stream.rs` 180-216): the chunks to
go on with, and the state. -/
def ensureSingleOpenaiChoice (env : Env) (chunk : Value) (state : StreamState) :
    List Value × StreamState :=
  let state := captureChunk chunk state
  match (chunk.getArray "choices").getD [] with
  | [] => ([chunk], state)
  | [choice] =>
      if (choice.getU64 "index").getD 0 ≠ 0 ∨ state.openaiChoiceIndex.any fun i => i ≠ 0 then
        rejectOpenaiMultiChoiceForNonOpenaiSink env state
      else ([chunk], { state with openaiChoiceIndex := some 0 })
  | _ => rejectOpenaiMultiChoiceForNonOpenaiSink env state

/-- `validate_openai_chunks_for_public_stream`: the chunks to go on with, and the state. -/
def validateOpenaiChunks (env : Env) (chunks : List Value) (state : StreamState) :
    List Value × StreamState :=
  match chunks.forM validateOpenaiStreamEventToolNames with
  | .ok _ => (chunks, state)
  | .error message => rejectOpenaiStream env state "invalid_request_error"
      "reserved_openai_custom_bridge_prefix" message

def openaiChunkToClientSse (env : Env) (clientFormat : UpstreamFormat) (chunk : Value)
    (state : StreamState) : List SseFrame × StreamState :=
  match clientFormat with
  | .openAiChatCompletions => ([.data chunk], state)
  | .anthropic => openaiChunkToClaudeSse env chunk state
  | .openAiResponses => openaiChunkToResponsesSse env chunk state

/-- `openai_chunks_to_client_sse` (`streaming/stream.rs` 363-388). -/
def openaiChunksToClientSse (env : Env) (clientFormat : UpstreamFormat) :
    List Value → StreamState → List SseFrame × StreamState
  | [], state => ([], state)
  | chunk :: chunks, state =>
      let (frames, state) := openaiChunkToClientSse env clientFormat chunk state
      let (more, state) := openaiChunksToClientSse env clientFormat chunks state
      (frames ++ more, state)

/-- `reject_public_stream_tool_name`. -/
def rejectPublicStreamToolName (env : Env) (clientFormat : UpstreamFormat) (state : StreamState)
    (message : String) : List SseFrame × StreamState :=
  let (chunks, state) := rejectOpenaiStream env state "invalid_request_error"
    "reserved_openai_custom_bridge_prefix" message
  openaiChunksToClientSse env clientFormat chunks state

/-! ## An error of the same format -/

/-- `stream_event_is_public_error`. -/
def streamEventIsPublicError (event : Value) : Bool :=
  (event.get "error").isSome || event.getStr "type" = some "error" ||
    event.getStr "type" = some "response.failed"

mutual

/-- `sanitize_internal_artifact_strings`. -/
def sanitizeInternalArtifactStrings : Value → Value
  | .string text => .string (sanitizePublicErrorMessage text)
  | .array items => .array (sanitizeItems items)
  | .object fields => .object (sanitizeFields fields)
  | v => v

def sanitizeItems : List Value → List Value
  | [] => []
  | v :: rest => sanitizeInternalArtifactStrings v :: sanitizeItems rest

def sanitizeFields : List (String × Value) → List (String × Value)
  | [] => []
  | (k, v) :: rest =>
      if containsInternalArtifactText k then sanitizeFields rest
      else (k, sanitizeInternalArtifactStrings v) :: sanitizeFields rest

end

/-- `sanitize_public_stream_error_event`. -/
def sanitizePublicStreamErrorEvent (event : Value) : Value :=
  if streamEventIsPublicError event then sanitizeInternalArtifactStrings event else event

/-- `translate_sse_event` (`streaming/stream.rs` 420-495), when the client speaks the upstream's
format. -/
def passSseEvent (env : Env) (format : UpstreamFormat) (event : Value) (state : StreamState) :
    List SseFrame × StreamState :=
  if isDone event then ([.done], state)
  else
    let publicEvent := sanitizePublicStreamErrorEvent event
    match validatePublicStreamResponseEventToolNames format publicEvent with
    | .error message => rejectPublicStreamToolName env format state message
    | .ok _ => ([.data publicEvent], state)

/-! ## An event -/

/-- The `[DONE]` of a Chat upstream ends the response, should nothing have ended it before. -/
def responsesDone (env : Env) (state : StreamState) : List SseFrame × StreamState :=
  if state.responsesTerminalSent then ([], state)
  else
    let responseId := state.responsesResponseId state.messageId
    let k := emitOpenaiResponsesTerminal env responseId 0
      (flushPendingResponsesToolCalls env responseId true ⟨state, []⟩)
    (k.out, k.state)

def upstreamChunks (env : Env) (upstreamFormat clientFormat : UpstreamFormat) (event : Value)
    (state : StreamState) : List Value × StreamState :=
  match upstreamFormat with
  | .openAiChatCompletions =>
      match openaiEventAsChunk event with
      | none => ([], state)
      | some chunk =>
          if clientFormat = .openAiChatCompletions then ([chunk], state)
          else ensureSingleOpenaiChoice env chunk state
  | .anthropic =>
      let k := claudeEventToOpenaiChunks env event state
      (k.out, k.state)
  | .openAiResponses =>
      let k := responsesEventToOpenaiChunks env event state
      (k.out, k.state)

/-- `translate_sse_event` (`streaming/stream.rs` 420-495), when the event takes the way through Chat
chunks. -/
def convertSseEvent (env : Env) (upstreamFormat clientFormat : UpstreamFormat) (event : Value)
    (state : StreamState) : List SseFrame × StreamState :=
  let names := if isDone event then .ok ()
    else validatePublicStreamResponseEventToolNames upstreamFormat event
  match names with
  | .error message => rejectPublicStreamToolName env clientFormat state message
  | .ok _ =>
      let (chunks, state) := upstreamChunks env upstreamFormat clientFormat event state
      let (chunks, state) := validateOpenaiChunks env chunks state
      openaiChunksToClientSse env clientFormat chunks state

/-- `translate_sse_event` (`streaming/stream.rs` 420-495). Only the last of the five ways goes
through Chat chunks. That of an `error` of Anthropic ends the client's stream at once, and does not
ask whether it has been ended already. -/
def translateSseEvent (env : Env) (upstreamFormat clientFormat : UpstreamFormat) (event : Value)
    (state : StreamState) : List SseFrame × StreamState :=
  if state.fatalRejection.isSome then ([], state)
  else if upstreamFormat = .openAiChatCompletions ∧ clientFormat = .openAiResponses ∧
      isDone event then responsesDone env state
  else if upstreamFormat = .anthropic ∧ event.getStr "type" = some "error" then
    anthropicErrorEventToClientSse env event clientFormat state
  else if upstreamFormat = clientFormat then passSseEvent env clientFormat event state
  else convertSseEvent env upstreamFormat clientFormat event state

end LlmUniversalProxy.Streaming
