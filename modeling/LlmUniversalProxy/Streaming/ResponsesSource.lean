import LlmUniversalProxy.Streaming.Sink
import LlmUniversalProxy.Streaming.Source

/-!
# `Streaming.ResponsesSource` — Responses events to Chat chunks

A tool call is known by its place in the upstream's output, and by the id of its item. The input of
a custom tool is put into the wrapper object that stands for it on the Chat side, piece by piece:
the object is opened when the call is added, and closed when its input is done.

The source is `streaming/responses_source.rs`, whole.
-/

set_option autoImplicit false

namespace LlmUniversalProxy.Streaming

open Json Lib Translate

/-- `openai_custom_bridge_input_delta_stream`. -/
def openaiCustomBridgeInputDeltaStream (input : String) : String :=
  escapeJsonStringContentStream input

/-- `responses_failed_code_to_openai_finish_stream`. -/
def responsesFailedCodeToOpenaiFinishStream (code : Option String) : String :=
  classifyPortableNonSuccessTerminal code

/-- `capture_responses_model`. -/
def captureResponsesModel (resp : Value) (state : StreamState) : StreamState :=
  { state with model := (resp.getStr "model").or (state.model.or (some "unknown")) }

/-- `finalize_custom_tool_call_bridge_delta` (`streaming/responses_source.rs` 21-41): the delta that
closes the wrapper, and the call. -/
def finalizeCustomToolCallBridgeDelta (toolCall : ToolCallState) (fullInput : String) :
    Option (String × ToolCallState) := do
  let emittedInput ← toolCall.customInputText
  if toolCall.customInputDone then none
  else
    let remainder := (Text.stripPrefix fullInput emittedInput).getD ""
    let bridgeDelta :=
      openaiCustomBridgeInputDeltaStream remainder ++ openaiCustomBridgeDoneDeltaStream
    some (bridgeDelta, { toolCall with
      customInputText := some (emittedInput ++ remainder)
      arguments := toolCall.arguments ++ bridgeDelta
      customInputDone := true })

/-- The chunk that closes the wrapper of a call, if it has one that is open. -/
def closeCustomToolCall (env : Env) (idx : Nat) (id : ToolCallState → Value)
    (fullInput : ToolCallState → String) (k : Source) : Source :=
  match k.state.openaiToolCalls.lookup idx with
  | none => k
  | some toolCall =>
      match finalizeCustomToolCallBridgeDelta toolCall (fullInput toolCall) with
      | none => k
      | some (bridgeDelta, finished) =>
          (k.update fun s => { s with
            openaiToolCalls := s.openaiToolCalls.insert idx finished }).pushToolCall env
            (.ofFields [("index", .nat idx), ("id", id toolCall), ("type", .string "function"),
              ("function", .ofFields [("arguments", .string bridgeDelta)])])

/-- A custom tool call of the final output. -/
structure FinalCustomCall where
  callId : String
  fullInput : String

def finalCustomCall (item : Value) : Option FinalCustomCall := do
  let itemType ← item.getStr "type"
  if itemType ≠ "custom_tool_call" then none
  else
    let callId ← item.getStr "call_id"
    let fullInput ← item.getStr "input"
    some ⟨callId, fullInput⟩

def toolCallIndexById (env : Env) (state : StreamState) (callId : String) : Option Nat :=
  ((hashWalk env state.openaiToolCalls).find? fun e =>
    e.2.id.bind Value.asStr = some callId).map Prod.fst

/-- One output item in `responses_terminal_custom_tool_bridge_chunk`. -/
def closeFinalCustomCall (env : Env) (k : Source) (item : Value) : Source :=
  match finalCustomCall item with
  | none => k
  | some call =>
      match toolCallIndexById env k.state call.callId with
      | none => k
      | some idx =>
          closeCustomToolCall env idx (fun _ => .string call.callId) (fun _ => call.fullInput) k

def responseOutput (event : Value) : List Value :=
  ((event.get "response").bind (Value.getArray · "output")).getD []

/-- `responses_terminal_custom_tool_bridge_chunk`. -/
def responsesTerminalCustomToolBridgeChunk (env : Env) (event : Value) (state : StreamState) :
    Source :=
  (responseOutput event).foldl (closeFinalCustomCall env) ⟨state, []⟩

/-! ## Events -/

/-- `response.created`. -/
def responseCreated (env : Env) (event : Value) (state : StreamState) : Source :=
  let resp := (event.get "response").getD event
  (⟨captureResponsesModel resp { state with messageId := resp.getStr "id" }, []⟩ :
    Source).ensureRole env

/-- A text that goes out under a field of the delta, unless it is empty. -/
def pushText (env : Env) (field : String) (text : Option String) (state : StreamState) : Source :=
  match text.filter fun text => !text.isEmpty with
  | none => ⟨state, []⟩
  | some text => (⟨state, []⟩ : Source).push env (.ofFields [(field, .string text)])

/-- `response.refusal.delta` and `response.refusal.done`. -/
def refusalEvent (env : Env) (rawRefusal : Option String) (state : StreamState) : Source :=
  let (delta, seen) := normalizeOpenaiStreamText (rawRefusal.getD "") state.openaiSeenRefusal
  pushText env "refusal" delta { state with openaiSeenRefusal := seen }

/-- The tool call that `response.output_item.added` starts. -/
def addedToolCall (event item : Value) (isCustom : Bool) (idx : Nat) : ToolCallState :=
  let customInput := (item.getStr "input").getD ""
  { index := idx
    id := some (.string ((item.getStr "call_id").getD s!"call_{idx}"))
    name := (item.getStr "name").getD ""
    arguments := if isCustom then openaiCustomBridgeStartDeltaStream customInput
      else (item.getStr "arguments").getD ""
    customInputText := if isCustom then some customInput else none
    toolType := some "function"
    proxiedToolKind := item.getStr "proxied_tool_kind"
    blockIndex := event.getU64 "output_index"
    responsesItemId := item.getStr "id" }

/-- `response.output_item.added`, for a tool call. -/
def toolCallAdded (env : Env) (event item : Value) (isCustom : Bool) (state : StreamState) :
    Source :=
  match validatePublicToolNameNotReserved ((item.getStr "name").getD "") with
  | .error message =>
      let (chunks, state) := rejectOpenaiStream env state "invalid_request_error"
        "reserved_openai_custom_bridge_prefix" message
      ⟨state, chunks⟩
  | .ok _ =>
      -- the chunks are numbered in the order the calls are added, whatever their output index
      let idx := state.openaiToolCallIndex
      let toolCall := addedToolCall event item isCustom idx
      let tc := Value.ofFields [("index", .nat idx), ("id", .ofOption toolCall.id),
        ("type", .string "function"), ("function", .ofFields [("name", .string toolCall.name),
          ("arguments", .string toolCall.arguments)])]
      let tc := match item.get "proxied_tool_kind" with
        | some proxiedToolKind => tc.set "proxied_tool_kind" proxiedToolKind
        | none => tc
      (⟨{ state with
        openaiToolCallIndex := idx + 1
        openaiToolCalls := state.openaiToolCalls.insert idx toolCall }, []⟩ : Source).pushToolCall
        env tc

/-- `response.output_item.added`. -/
def outputItemAddedEvent (env : Env) (event : Value) (state : StreamState) : Source :=
  let item := (event.get "item").getD .null
  match item.getStr "type" with
  | some "function_call" => toolCallAdded env event item false state
  | some "custom_tool_call" => toolCallAdded env event item true state
  | _ => ⟨state, []⟩

/-- The call that an event is about, or else the last one. -/
def eventToolCallIndex (env : Env) (event : Value) (state : StreamState) : Nat :=
  (responsesEventToolCallIndex env event state).getD (state.openaiToolCallIndex - 1)

/-- What a piece of its payload adds to a call. -/
def addToolCallDelta (event : Value) (isCustom : Bool) (delta emittedDelta : String)
    (tc : ToolCallState) : ToolCallState :=
  { tc with
    toolType := tc.toolType.or (some "function")
    responsesItemId := tc.responsesItemId.or (event.getStr "item_id")
    blockIndex := tc.blockIndex.or (event.getU64 "output_index")
    customInputText := if isCustom then some (tc.customInputText.getD "" ++ delta)
      else tc.customInputText
    arguments := tc.arguments ++ emittedDelta }

/-- `response.function_call_arguments.delta` and `response.custom_tool_call_input.delta`. -/
def toolCallDeltaEvent (env : Env) (event : Value) (isCustom : Bool) (state : StreamState) :
    Source :=
  match (event.getStr "delta").filter fun delta => !delta.isEmpty with
  | none => ⟨state, []⟩
  | some delta =>
      -- what the event names, or else the call that was added last
      let idx := eventToolCallIndex env event state
      let emittedDelta := if isCustom then openaiCustomBridgeInputDeltaStream delta else delta
      let before := (state.openaiToolCalls.lookup idx).getD ({ index := idx } : ToolCallState)
      let tc := addToolCallDelta event isCustom delta emittedDelta before
      let toolCallDelta := Value.ofFields [("index", .nat idx), ("type", .string "function"),
        ("function", .ofFields [("arguments", .string emittedDelta)])]
      let toolCallDelta := match tc.proxiedToolKind with
        | some proxiedToolKind => toolCallDelta.set "proxied_tool_kind" (.string proxiedToolKind)
        | none => toolCallDelta
      (⟨{ state with openaiToolCalls := state.openaiToolCalls.insert idx tc }, []⟩ :
        Source).pushToolCall env toolCallDelta

/-- `response.custom_tool_call_input.done`. -/
def customToolCallInputDone (env : Env) (event : Value) (state : StreamState) : Source :=
  closeCustomToolCall env (eventToolCallIndex env event state) (fun tc => .ofOption tc.id)
    (fun tc => ((event.getStr "input").or tc.customInputText).getD "") ⟨state, []⟩

def isToolCallItem (item : Value) : Bool :=
  item.getStr "type" = some "function_call" || item.getStr "type" = some "custom_tool_call"

/-- The finish reason that a terminal event stands for. -/
def responsesFinishReason (ty : String) (event : Value) (state : StreamState) : String :=
  let response := (event.get "response").getD .null
  match ty with
  | "response.incomplete" =>
      match (response.get "incomplete_details").bind (Value.getStr · "reason") with
      | some "max_output_tokens" => "length"
      | some "content_filter" => "content_filter"
      | some "pause_turn" => "pause_turn"
      | _ => "stop"
  | "response.failed" => responsesFailedCodeToOpenaiFinishStream
      ((response.get "error").bind (Value.getStr · "code"))
  | _ =>
      if !state.openaiToolCalls.keys.isEmpty || (responseOutput event).any isToolCallItem then
        "tool_calls"
      else "stop"

/-- What a terminal event says of its response. -/
def captureResponse (event : Value) (state : StreamState) : StreamState :=
  match event.get "response" with
  | none => state
  | some resp =>
      let state := captureResponsesModel resp state
      match resp.get "usage" with
      | none => state
      | some usage => { state with usage := some (responsesUsageToOpenaiUsageStream usage) }

/-- `response.completed`, `response.incomplete` and `response.failed`. -/
def responseEnded (env : Env) (ty : String) (event : Value) (state : StreamState) : Source :=
  let k := (responsesTerminalCustomToolBridgeChunk env event state).update (captureResponse event)
  if k.state.finishReasonSent then k
  else
    let chunk := openaiChunk env k.state (.ofFields [])
      (some (responsesFinishReason ty event k.state))
    let chunk := match k.state.usage with
      | some usage => chunk.set "usage" usage
      | none => chunk
    ⟨{ k.state with finishReasonSent := true }, k.out ++ [chunk]⟩

/-- `responses_event_to_openai_chunks` (`streaming/responses_source.rs` 94-403). Types that are not
listed say nothing to a Chat client, those of hosted tools among them; audio is refused. -/
def responsesEventToOpenaiChunks (env : Env) (event : Value) (state : StreamState) : Source :=
  let ty := (event.getStr "type").getD ""
  if Text.startsWith ty "response.audio." then
    let (chunks, state) := rejectOpenaiStream env state "invalid_request_error"
      "unsupported_openai_responses_stream_event"
      "OpenAI Responses audio streaming events cannot be translated losslessly."
    ⟨state, chunks⟩
  else
    match ty with
    | "response.created" => responseCreated env event state
    -- text and reasoning go on as they come, a refusal only as far as it is new
    | "response.output_text.delta" => pushText env "content" (event.getStr "delta") state
    | "response.refusal.delta" => refusalEvent env (event.getStr "delta") state
    | "response.refusal.done" => refusalEvent env (event.getStr "refusal") state
    | "response.reasoning_summary_text.delta" =>
        pushText env "reasoning_content" (event.getStr "delta") state
    | "response.output_item.added" => outputItemAddedEvent env event state
    | "response.function_call_arguments.delta" => toolCallDeltaEvent env event false state
    | "response.custom_tool_call_input.delta" => toolCallDeltaEvent env event true state
    | "response.custom_tool_call_input.done" => customToolCallInputDone env event state
    | "response.completed" => responseEnded env ty event state
    | "response.incomplete" => responseEnded env ty event state
    | "response.failed" => responseEnded env ty event state
    | _ => ⟨state, []⟩

end LlmUniversalProxy.Streaming
