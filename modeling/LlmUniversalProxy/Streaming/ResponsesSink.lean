import LlmUniversalProxy.Streaming.Sink

/-!
# `Streaming.ResponsesSink` — Chat chunks to an OpenAI Responses client

The client is told of a list of output items: each is added under an index of its own, filled by
deltas and then done, and the terminal event repeats the list as a whole. The Chat side knows
nothing of items. Reasoning is one item for the whole stream. Texts are gathered into a message
item, which is closed whenever a tool call comes up. A tool call is added when it is known what it
is, and done at the finish.

The source is `streaming/openai_sink.rs` 153-913 and 1125-1882.
-/

set_option autoImplicit false

namespace LlmUniversalProxy.Streaming

open Json Lib Translate

/-- An optional text field of an object literal. -/
def optionalField (name : String) (value : Option String) : List (String × Value) :=
  match value with
  | some value => [(name, .string value)]
  | none => []

def Sink.emit (k : Sink) (eventType : String) (fields : List (String × Value)) : Sink :=
  { state := { k.state with responsesSeq := k.state.responsesSeq + 1 }
    out := k.out ++ [.event eventType (.ofFields (("type", .string eventType) ::
      ("sequence_number", .nat (k.state.responsesSeq + 1)) :: fields))] }

/-! ## Calls that cannot be replayed -/

/-- `raw_json_is_valid_object_stream`. -/
def rawJsonIsValidObjectStream (serde : Serde) (raw : String) : Bool :=
  !Text.isBlank raw && (fromStr serde raw).any Value.isObject

/-- `INTERNAL_NON_REPLAYABLE_TOOL_CALL_FIELD`. -/
def internalNonReplayableToolCallField : String := "_llmup_non_replayable_tool_call"

/-- `non_replayable_tool_call_signature_stream`. -/
def nonReplayableToolCallSignatureStream (env : Env) (name raw : String) : String :=
  env.signature (.ofFields [("v", .nat 1), ("reason", .string "incomplete_arguments"),
    ("name", .string name), ("raw", .string raw)])

/-- `signed_non_replayable_tool_call_marker_stream`. -/
def signedNonReplayableToolCallMarkerStream (env : Env) (name raw : String) : Value :=
  .ofFields [("reason", .string "incomplete_arguments"), ("v", .nat 1),
    ("sig", .string (nonReplayableToolCallSignatureStream env name raw))]

/-- `trusted_non_replayable_tool_call_marker_for_name_and_raw_stream`, of which only the answer is
used. -/
def trustedNonReplayableMarkerStream (env : Env) (name raw : String) (marker : Value) : Bool :=
  marker.getStr "reason" = some "incomplete_arguments" && marker.getU64 "v" = some 1 &&
    marker.getStr "sig" = some (nonReplayableToolCallSignatureStream env name raw)

/-- The call carries a marker that the proxy made for it. -/
def ToolCallState.markedNonReplayable (self : ToolCallState) (env : Env) : Bool :=
  self.nonReplayableMarker.any (trustedNonReplayableMarkerStream env self.name self.arguments)

/-- `tool_call_partial_replay_text_stream`. -/
def toolCallPartialReplayTextStream (name raw : String) : String :=
  if Text.isBlank raw then s!"Tool call `{name}` had incomplete arguments."
  else s!"Tool call `{name}` with partial arguments: {Text.trim raw}"

/-- How the stream has ended, as far as its tool calls are concerned. -/
structure TerminalContext where
  incompleteReason : Option String
  terminatedWithoutFinishReason : Bool

/-- `responses_stream_tool_call_should_be_marked_non_replayable` (`openai_sink.rs` 214-236). -/
def toolCallShouldBeMarkedNonReplayable (serde : Serde) (toolType arguments : String)
    (context : TerminalContext) : Bool :=
  if context.incompleteReason = some "max_output_tokens" ∨
      context.incompleteReason = some "pause_turn" then
    if Text.isBlank arguments then false
    else if toolType = "custom" then true
    else !rawJsonIsValidObjectStream serde arguments
  else
    context.terminatedWithoutFinishReason && toolType ≠ "custom" &&
      !rawJsonIsValidObjectStream serde arguments

/-- `maybe_mark_responses_stream_tool_call_item_non_replayable`: the field it adds to the item. -/
def nonReplayableField (env : Env) (name toolType arguments : String) (context : TerminalContext) :
    List (String × Value) :=
  if toolCallShouldBeMarkedNonReplayable env.serde toolType arguments context then
    [(internalNonReplayableToolCallField,
      signedNonReplayableToolCallMarkerStream env name arguments)]
  else []

/-! ## Output indices -/

/-- `reserve_responses_output_index`. -/
def reserveResponsesOutputIndex (s : StreamState) : Nat × StreamState :=
  (s.responsesNextOutputIndex,
    { s with responsesNextOutputIndex := s.responsesNextOutputIndex + 1 })

/-- `responses_reasoning_output_index`. -/
def responsesReasoningOutputIndex (s : StreamState) : Nat × StreamState :=
  match s.responsesReasoningOutputIndex with
  | some idx => (idx, s)
  | none =>
      let (idx, s) := reserveResponsesOutputIndex s
      (idx, { s with responsesReasoningOutputIndex := some idx })

/-- `responses_message_output_index`. -/
def responsesMessageOutputIndex (s : StreamState) : Nat × StreamState :=
  match s.responsesMessageOutputIndex with
  | some idx => (idx, s)
  | none =>
      let (idx, s) := reserveResponsesOutputIndex s
      (idx, { s with responsesMessageOutputIndex := some idx })

/-- `responses_tool_output_index` (`openai_sink.rs` 325-344). -/
def responsesToolOutputIndex (s : StreamState) (tcIdx : Nat) : Nat × StreamState :=
  match (s.openaiToolCalls.lookup tcIdx).bind ToolCallState.blockIndex with
  | some idx => (idx, s)
  | none =>
      let (idx, s) := reserveResponsesOutputIndex s
      let toolCalls := updateEntry s.openaiToolCalls tcIdx ({ index := tcIdx } : ToolCallState)
        fun entry => { entry with blockIndex := some idx }
      (idx, { s with openaiToolCalls := toolCalls })

/-! ## Messages -/

namespace ResponsesMessagePartKind

/-- `responses_message_part_delta_event_type`. -/
def deltaEventType : ResponsesMessagePartKind → String
  | outputText => "response.output_text.delta"
  | refusal => "response.refusal.delta"

/-- `responses_message_part_done_event_type`. -/
def doneEventType : ResponsesMessagePartKind → String
  | outputText => "response.output_text.done"
  | refusal => "response.refusal.done"

def textField : ResponsesMessagePartKind → String
  | outputText => "text"
  | refusal => "refusal"

end ResponsesMessagePartKind

/-- `responses_message_part_value`. -/
def responsesMessagePartValue (part : ResponsesMessagePartState) : Value :=
  match part.kind with
  | .outputText => .ofFields [("type", .string "output_text"), ("text", .string part.text),
      ("annotations", .array part.annotations)]
  | .refusal => .ofFields [("type", .string "refusal"), ("refusal", .string part.text)]

/-- `ensure_responses_message_item_added` (`openai_sink.rs` 346-385). -/
def ensureResponsesMessageItemAdded (env : Env) (responseId : String) (outputIndex : Nat)
    (k : Sink) : Sink :=
  if k.state.outputItemAdded then k
  else
    let itemId := k.state.outputItemId.getD
      s!"msg_{String.ofList ((env.uuid k.state.responsesSeq).toList.take 8)}"
    (k.update fun s => { s with outputItemAdded := true, outputItemId := some itemId }).emit
      "response.output_item.added"
      [("response_id", .string responseId), ("output_index", .nat outputIndex),
        ("item", .ofFields [("id", .string itemId), ("type", .string "message"),
          ("status", .string "in_progress"), ("role", .string "assistant"),
          ("content", .array [])])]

def existingPartIndex (s : StreamState) : ResponsesMessagePartKind → Option Nat
  | .outputText => s.responsesTextPartIndex
  | .refusal => s.responsesRefusalPartIndex

/-- The state with a new, empty part of a kind. -/
def addPart (kind : ResponsesMessagePartKind) (s : StreamState) : StreamState :=
  let index := s.responsesMessageParts.length
  let s := { s with
    responsesMessageParts :=
      s.responsesMessageParts ++ [(⟨kind, "", []⟩ : ResponsesMessagePartState)]
    responsesContentPartAdded := true }
  match kind with
  | .outputText => { s with responsesTextPartIndex := some index }
  | .refusal => { s with responsesRefusalPartIndex := some index }

def messageItemId (s : StreamState) : String := s.outputItemId.getD "msg_0"

/-- `ensure_responses_message_part` (`openai_sink.rs` 387-433). -/
def ensureResponsesMessagePart (responseId : String) (outputIndex : Nat)
    (kind : ResponsesMessagePartKind) (k : Sink) : Nat × Sink :=
  match existingPartIndex k.state kind with
  | some index => (index, k)
  | none =>
      let index := k.state.responsesMessageParts.length
      (index, (k.update (addPart kind)).emit "response.content_part.added"
        [("response_id", .string responseId), ("output_index", .nat outputIndex),
          ("content_index", .nat index), ("item_id", .string (messageItemId k.state)),
          ("part", responsesMessagePartValue ⟨kind, "", []⟩)])

/-- `responses_message_part_has_meaningful_content`. -/
def responsesMessagePartHasMeaningfulContent (part : ResponsesMessagePartState) : Bool :=
  !part.text.isEmpty || !part.annotations.isEmpty

/-- `responses_message_has_meaningful_content`. -/
def responsesMessageHasMeaningfulContent (s : StreamState) : Bool :=
  s.responsesMessageParts.any responsesMessagePartHasMeaningfulContent

/-- `reset_responses_message_segment` (`openai_sink.rs` 446-455). -/
def resetResponsesMessageSegment (s : StreamState) : StreamState :=
  { s with
    outputItemId := none
    outputItemAdded := false
    responsesContentPartAdded := false
    responsesOutputText := ""
    responsesMessageParts := []
    responsesTextPartIndex := none
    responsesRefusalPartIndex := none
    responsesMessageOutputIndex := none }

/-- `responses_terminal_message_phase`. -/
def responsesTerminalMessagePhase : Option String → Option String
  | some "stop" => some "final_answer"
  | some "tool_calls" => some "commentary"
  | _ => none

def emitPartDone (responseId : String) (outputIndex : Nat) (itemId : String) (contentIndex : Nat)
    (part : ResponsesMessagePartState) (k : Sink) : Sink :=
  (k.emit part.kind.doneEventType
    [("response_id", .string responseId), ("output_index", .nat outputIndex),
      ("content_index", .nat contentIndex), ("item_id", .string itemId),
      (part.kind.textField, .string part.text)]).emit "response.content_part.done"
    [("response_id", .string responseId), ("output_index", .nat outputIndex),
      ("content_index", .nat contentIndex), ("item_id", .string itemId),
      ("part", responsesMessagePartValue part)]

/-- The loop over the parts in `emit_responses_message_done`. -/
def emitPartsDone (responseId : String) (outputIndex : Nat) (itemId : String) :
    Nat → List ResponsesMessagePartState → Sink → Sink
  | _, [], k => k
  | contentIndex, part :: parts, k =>
      emitPartsDone responseId outputIndex itemId (contentIndex + 1) parts
        (emitPartDone responseId outputIndex itemId contentIndex part k)

def messageItem (itemId : String) (parts : List ResponsesMessagePartState)
    (phase : Option String) : Value :=
  .ofFields ([("id", .string itemId), ("type", .string "message"),
    ("status", .string "completed"), ("role", .string "assistant"),
    ("content", .array (parts.map responsesMessagePartValue))] ++ optionalField "phase" phase)

/-- `emit_responses_message_done` (`openai_sink.rs` 465-561); the finished item joins the completed
ones, as it does at both calls. -/
def emitResponsesMessageDone (responseId : String) (phase : Option String) (k : Sink) : Sink :=
  if !k.state.outputItemAdded || !responsesMessageHasMeaningfulContent k.state then k
  else
    let (outputIndex, state) := responsesMessageOutputIndex k.state
    let itemId := messageItemId state
    let item := messageItem itemId state.responsesMessageParts phase
    let k := emitPartsDone responseId outputIndex itemId 0 state.responsesMessageParts
      { k with state := state }
    (k.emit "response.output_item.done"
      [("response_id", .string responseId), ("output_index", .nat outputIndex),
        ("item", item)]).update fun s =>
      { resetResponsesMessageSegment s with
        responsesCompletedMessageItems := s.responsesCompletedMessageItems ++
          [⟨outputIndex, item⟩] }

/-! ## The reasoning carrier -/

/-- The blocks of `streaming_anthropic_reasoning_carrier`: the reasoning text goes to the first one
that is not omitted. -/
def reasoningCarrierBlocks : List ClaudeThinkingProvenanceState → String → List Value
  | [], _ => []
  | entry :: entries, text =>
      let thinking : Value := if entry.omitted then .ofFields [("display", .string "omitted")]
        else .string text
      .ofFields ([("type", .string "thinking"), ("thinking", thinking)] ++
        optionalField "signature" entry.signature) ::
        reasoningCarrierBlocks entries (if entry.omitted then text else "")

/-- `streaming_anthropic_reasoning_carrier` (`openai_sink.rs` 598-621). -/
def streamingAnthropicReasoningCarrier (s : StreamState) : Option String :=
  if s.claudeThinkingProvenance.isEmpty then none
  else
    let payload := Value.ofFields [("format", .string "anthropic-thinking-replay"),
      ("version", .nat 1), ("blocks", .array
        (reasoningCarrierBlocks s.claudeThinkingProvenance s.responsesReasoningText))]
    some ("anthropic-thinking-v1:" ++ hexEncode (bytesOf payload.toJson))

/-! ## Tool calls -/

/-- `ResponsesToolCallEvent`. -/
structure ResponsesToolCallEvent where
  responseId : String
  outputIndex : Nat
  callId : String
  name : String
  toolType : String
  proxiedToolKind : Option String
  namespaceName : Option String

def toolCallExtras (proxiedToolKind namespaceName : Option String) : List (String × Value) :=
  optionalField "proxied_tool_kind" proxiedToolKind ++ optionalField "namespace" namespaceName

/-- A tool-call item, with its payload and its optional fields. -/
def toolCallItem (callId name toolType payload : String) (extras : List (String × Value)) :
    Value :=
  .ofFields ([("id", .string s!"fc_{callId}"),
    ("type", .string (responsesToolCallItemType toolType)), ("call_id", .string callId),
    ("name", .string name), (responsesToolCallPayloadField toolType, .string payload)] ++ extras)

/-- `emit_responses_tool_call_item_added`. -/
def emitResponsesToolCallItemAdded (event : ResponsesToolCallEvent) (k : Sink) : Sink :=
  k.emit "response.output_item.added"
    [("response_id", .string event.responseId), ("output_index", .nat event.outputIndex),
      ("item", toolCallItem event.callId event.name event.toolType ""
        (toolCallExtras event.proxiedToolKind event.namespaceName))]

/-- `emit_responses_tool_call_delta` (`openai_sink.rs` 1163-1192). -/
def emitResponsesToolCallDelta (event : ResponsesToolCallEvent) (delta : String) (k : Sink) :
    Sink :=
  if delta.isEmpty then k
  else
    k.emit (responsesToolCallDeltaEventType event.toolType)
      ([("response_id", .string event.responseId), ("call_id", .string event.callId),
        ("name", .string event.name), ("item_id", .string s!"fc_{event.callId}"),
        ("output_index", .nat event.outputIndex), ("delta", .string delta)] ++
        toolCallExtras event.proxiedToolKind event.namespaceName)

/-- `ResponsesToolCallDone`. -/
structure ResponsesToolCallDone where
  callId : String
  name : String
  arguments : String
  outputIndex : Nat
  toolType : String
  proxiedToolKind : Option String
  namespaceName : Option String

def doneItem (env : Env) (context : TerminalContext) (done : ResponsesToolCallDone) : Value :=
  toolCallItem done.callId done.name done.toolType done.arguments
    (toolCallExtras done.proxiedToolKind done.namespaceName ++
      nonReplayableField env done.name done.toolType done.arguments context)

/-- `emit_responses_tool_call_done` (`openai_sink.rs` 1210-1281). -/
def emitResponsesToolCallDone (env : Env) (responseId : String) (context : TerminalContext)
    (k : Sink) (done : ResponsesToolCallDone) : Sink :=
  (k.emit (responsesToolCallDoneEventType done.toolType)
    ([("response_id", .string responseId), ("call_id", .string done.callId),
      ("name", .string done.name), ("item_id", .string s!"fc_{done.callId}"),
      ("output_index", .nat done.outputIndex),
      (responsesToolCallPayloadField done.toolType, .string done.arguments)] ++
      optionalField "namespace" done.namespaceName)).emit "response.output_item.done"
    [("response_id", .string responseId), ("output_index", .nat done.outputIndex),
      ("item", doneItem env context done)]

/-- What `emit_responses_tool_call_done` is told of a call. -/
def ToolCallState.done (self : ToolCallState) (callId : String) : ResponsesToolCallDone :=
  ⟨callId, self.name, self.arguments, self.blockIndex.getD self.index, toolCallStateType self,
    self.proxiedToolKind, self.namespaceName⟩

/-- What the first loop of `emit_pending_responses_tool_call_done_events` makes of the calls: their
states, the calls to finish, and the texts of those that cannot be replayed. -/
structure PendingDone where
  toolCalls : FinMap Nat ToolCallState
  completed : List ResponsesToolCallDone
  degraded : List String

/-- The first loop of `emit_pending_responses_tool_call_done_events`. -/
def collectPendingDone (env : Env) (includeDegraded : Bool) (acc : PendingDone) (key : Nat) :
    PendingDone :=
  match acc.toolCalls.lookup key with
  | none => acc
  | some toolCall =>
      let finished := acc.toolCalls.insert key { toolCall with responsesDone := true }
      -- a marked call has no item; its text is told by the message
      if toolCall.markedNonReplayable env then
        if includeDegraded then
          { acc with
            toolCalls := finished
            degraded := acc.degraded ++
              [toolCallPartialReplayTextStream toolCall.name toolCall.arguments] }
        else acc
      else if toolCall.responsesItemAdded && !toolCall.responsesDone then
        { acc with
          toolCalls := finished
          -- an id that is no string has no item that could be done
          completed := acc.completed ++
            ((toolCall.id.bind Value.asStr).map toolCall.done).toList }
      else acc

/-- `emit_pending_responses_tool_call_done_events`. -/
def emitPendingResponsesToolCallDoneEvents (env : Env) (responseId : String)
    (context : TerminalContext) (includeDegraded : Bool) (k : Sink) : List String × Sink :=
  let pending := (sortedKeys k.state.openaiToolCalls).foldl
    (collectPendingDone env includeDegraded) ⟨k.state.openaiToolCalls, [], []⟩
  (pending.degraded, pending.completed.foldl (emitResponsesToolCallDone env responseId context)
    (k.update fun s => { s with openaiToolCalls := pending.toolCalls }))

/-- The custom wrapper that a call to a bridged tool has been sent in, once it can be read. -/
def decodedWrapper (env : Env) (s : StreamState) (entry : ToolCallState) :
    Option (Option String) :=
  if toolCallStateType entry ≠ "custom" ∧ entry.proxiedToolKind.isNone ∧
      entry.namespaceName.isNone ∧ requestScopedCustomBridgeExpectsWrapperStream
        s.requestScopedToolBridgeContext entry.name then
    some (openaiCustomBridgeDecodeArgumentsStream env.serde entry.arguments)
  else none

/-- The call as it is added; `none` while its wrapper cannot be read and there may be more of it. -/
def resolvedToolCall (env : Env) (s : StreamState) (finalize : Bool) (entry : ToolCallState) :
    Option ToolCallState :=
  match decodedWrapper env s entry with
  | some (some decodedInput) =>
      some { entry with toolType := some "custom", arguments := decodedInput }
  | some none => if finalize then some entry else none
  | none => some entry

/-- `flush_pending_responses_tool_call` (`openai_sink.rs` 1358-1444). The call gets its place in the
output even where it cannot be added yet, because its id is missing or it is not known what it is;
so the places go by the first deltas. -/
def flushPendingResponsesToolCall (env : Env) (responseId : String) (finalize : Bool) (k : Sink)
    (tcIdx : Nat) : Sink :=
  let (outputIndex, state) := responsesToolOutputIndex k.state tcIdx
  let k := { k with state := state }
  match state.openaiToolCalls.lookup tcIdx with
  | none => k
  | some entry =>
      -- added before, without an id as yet, or marked: none of these is added
      if entry.responsesItemAdded ∨ entry.id.isNone ∨ entry.markedNonReplayable env then k
      else
        match resolvedToolCall env state finalize entry with
        | none => k
        | some entry =>
            let callId := (entry.id.bind Value.asStr).getD ""
            let entry := { entry with
              responsesItemAdded := true
              responsesItemId := some s!"fc_{callId}" }
            let event : ResponsesToolCallEvent := ⟨responseId, outputIndex, callId, entry.name,
              toolCallStateType entry, entry.proxiedToolKind, entry.namespaceName⟩
            -- the arguments that came before go out as one delta, after the item
            emitResponsesToolCallDelta event entry.arguments (emitResponsesToolCallItemAdded event
              (k.update fun s => { s with
                openaiToolCalls := s.openaiToolCalls.insert tcIdx entry }))

/-- `flush_pending_responses_tool_calls`. -/
def flushPendingResponsesToolCalls (env : Env) (responseId : String) (finalize : Bool) (k : Sink) :
    Sink :=
  (sortedKeys k.state.openaiToolCalls).foldl
    (flushPendingResponsesToolCall env responseId finalize) k

/-! ## The terminal event -/

/-- The reasoning item, once it is done. -/
def reasoningItem (s : StreamState) (carrier : Option String) : Value :=
  .ofFields ([("id", .ofOptionStr s.responsesReasoningId), ("type", .string "reasoning"),
    ("summary", .array [.ofFields [("type", .string "summary_text"),
      ("text", .string s.responsesReasoningText)]])] ++ optionalField "encrypted_content" carrier)

/-- The end of the reasoning item in `emit_openai_responses_terminal`. -/
def emitReasoningDone (responseId : String) (carrier : Option String) (k : Sink) : Sink :=
  if k.state.responsesReasoningAdded && !k.state.responsesReasoningDone then
    let (outputIndex, state) := responsesReasoningOutputIndex
      { k.state with responsesReasoningDone := true }
    let itemId := state.responsesReasoningId.getD "rs_0"
    let place : List (String × Value) := [("response_id", .string responseId),
      ("item_id", .string itemId), ("output_index", .nat outputIndex), ("summary_index", .nat 0)]
    ((({ k with state := state } : Sink).emit "response.reasoning_summary_text.done"
      (place ++ [("text", .string state.responsesReasoningText)])).emit
      "response.reasoning_summary_part.done"
      (place ++ [("part", .ofFields [("type", .string "summary_text"),
        ("text", .string state.responsesReasoningText)])])).emit "response.output_item.done"
      [("response_id", .string responseId), ("output_index", .nat outputIndex),
        ("item", reasoningItem state carrier)]
  else k

/-- The texts of calls that cannot be replayed join the message. -/
def appendDegradedTexts (env : Env) (responseId : String) (texts : List String) (k : Sink) :
    Sink :=
  if texts.isEmpty then k
  else
    let (outputIndex, state) := responsesMessageOutputIndex k.state
    let k := ensureResponsesMessageItemAdded env responseId outputIndex { k with state := state }
    let (contentIndex, k) := ensureResponsesMessagePart responseId outputIndex .outputText k
    k.update fun s => { s with
      responsesMessageParts := s.responsesMessageParts.modify contentIndex fun part =>
        { part with
          text := (if part.text.isEmpty then part.text else part.text ++ "\n\n") ++
            "\n\n".intercalate texts } }

/-- The item of a tool call in the terminal's output; calls that cannot be replayed, or have no id,
are left out. -/
def terminalToolCallItem (env : Env) (context : TerminalContext) (toolCall : ToolCallState) :
    Option (Nat × Value) :=
  if toolCall.markedNonReplayable env then none
  else
    (toolCall.id.bind Value.asStr).map fun callId =>
      (toolCall.blockIndex.getD toolCall.index, doneItem env context (toolCall.done callId))

/-- The place of the reasoning item is settled, should it not be. -/
def settleReasoningOutputIndex (s : StreamState) : StreamState :=
  if s.responsesReasoningAdded then (responsesReasoningOutputIndex s).2 else s

/-- The output of the terminal event, rebuilt from the state. -/
def terminalOutput (env : Env) (context : TerminalContext) (carrier : Option String)
    (s : StreamState) : List Value :=
  let reasoning := if s.responsesReasoningAdded then
    [((responsesReasoningOutputIndex s).1, reasoningItem s carrier)] else []
  let messages := s.responsesCompletedMessageItems.map fun message =>
    (message.outputIndex, message.item)
  let toolCalls := (((hashWalk env s.openaiToolCalls).map Prod.snd).mergeSort
    fun a b => a.index ≤ b.index).filterMap (terminalToolCallItem env context)
  ((reasoning ++ messages ++ toolCalls).mergeSort fun a b => a.1 ≤ b.1).map Prod.snd

def incompleteReason : Option String → Option String
  | some "length" => some "max_output_tokens"
  | some "content_filter" => some "content_filter"
  | some "pause_turn" => some "pause_turn"
  | _ => none

def failedError (s : StreamState) : Option Value :=
  match s.finishReason with
  | some "context_length_exceeded" => some (.ofFields [("type", .string "invalid_request_error"),
      ("code", .string "context_length_exceeded"), ("message", .string
        ("Your input exceeds the context window of this model. Please adjust your input and " ++
          "try again."))])
  | some "error" => s.openaiTerminalError.or (some (.ofFields [("type", .string "server_error"),
      ("code", .string "error"), ("message", .string "The provider returned an error.")]))
  | some "tool_error" => some (.ofFields [("type", .string "invalid_request_error"),
      ("code", .string "tool_error"),
      ("message", .string "The provider reported a tool or protocol error.")])
  | _ => none

/-- How a response ends. -/
inductive TerminalStatus where
  | failed
  | incomplete
  | completed
  deriving DecidableEq, Repr

namespace TerminalStatus

def text : TerminalStatus → String
  | failed => "failed"
  | incomplete => "incomplete"
  | completed => "completed"

def eventType : TerminalStatus → String
  | failed => "response.failed"
  | incomplete => "response.incomplete"
  | completed => "response.completed"

end TerminalStatus

def terminalStatus (s : StreamState) : TerminalStatus :=
  if (failedError s).isSome then .failed
  else if (incompleteReason s.finishReason).isSome then .incomplete
  else .completed

/-- The whole response, for the last event. -/
def terminalResponse (env : Env) (responseId : String) (created : Nat) (context : TerminalContext)
    (carrier : Option String) (s : StreamState) : Value :=
  .ofFields ([("id", .string responseId), ("object", .string "response"),
    ("created_at", .nat created), ("model", .ofOptionStr s.model),
    ("status", .string (terminalStatus s).text), ("error", .ofOption (failedError s)),
    ("incomplete_details", .ofOption (context.incompleteReason.map fun reason =>
      .ofFields [("reason", .string reason)])),
    ("output", .array (terminalOutput env context carrier s))] ++
    (match s.usage with
      | some usage => [("usage", openaiUsageToResponsesUsageStream usage)]
      | none => []))

/-- The last event. -/
def emitTerminalEvent (env : Env) (responseId : String) (created : Nat)
    (context : TerminalContext) (carrier : Option String) (k : Sink) : Sink :=
  let response := terminalResponse env responseId created context carrier k.state
  let status := terminalStatus k.state
  ((k.update fun s => { settleReasoningOutputIndex s with
    responsesTerminalResponse := if status = .completed then some response
      else s.responsesTerminalResponse }).emit status.eventType [("response", response)]).update
    fun s => { s with responsesTerminalSent := true }

/-- `emit_openai_responses_terminal` (`openai_sink.rs` 623-867), at the end of what has been pushed
before. -/
def emitOpenaiResponsesTerminal (env : Env) (responseId : String) (created : Nat) (k : Sink) :
    Sink :=
  let finishReason := k.state.finishReason
  let context : TerminalContext := ⟨incompleteReason finishReason, finishReason.isNone⟩
  let carrier := streamingAnthropicReasoningCarrier k.state
  let k := emitReasoningDone responseId carrier k
  let (degraded, k) := emitPendingResponsesToolCallDoneEvents env responseId context true k
  let k := appendDegradedTexts env responseId degraded k
  let k := emitResponsesMessageDone responseId (responsesTerminalMessagePhase finishReason) k
  emitTerminalEvent env responseId created context carrier k

/-- `reject_openai_responses_stream` (`openai_sink.rs` 882-913). -/
def rejectOpenaiResponsesStream (responseId : String) (created : Nat) (code message : String)
    (k : Sink) : Sink :=
  let (message, state) := markStreamFatalRejection k.state message
  ({ k with state := { state with
      openaiToolCalls := ∅
      finishReason := some "error"
      responsesTerminalSent := true } } : Sink).emit "response.failed"
    [("response", .ofFields [("id", .string responseId), ("object", .string "response"),
      ("created_at", .nat created), ("status", .string "failed"), ("background", .bool false),
      ("error", .ofFields [("type", .string "invalid_request_error"), ("code", .string code),
        ("message", .string message)]),
      ("incomplete_details", .null), ("usage", .null), ("output", .array [])])]

/-! ## A chunk -/

/-- What `openai_chunk_to_responses_sse` reads of a chunk before it does anything. -/
structure ResponsesChunk where
  chunk : Value
  responseId : String
  delta : Value
  finishReason : Option String

def ResponsesChunk.created (self : ResponsesChunk) : Nat := (self.chunk.getU64 "created").getD 0

def firstChoice (chunk : Value) : Option Value := (chunk.getArray "choices").bind List.head?

def responsesChunk (chunk : Value) (s : StreamState) : ResponsesChunk :=
  ⟨chunk, s.responsesResponseId ((chunk.getStr "id").or s.messageId),
    ((firstChoice chunk).bind (Value.get · "delta")).getD .null,
    (firstChoice chunk).bind (Value.getStr · "finish_reason")⟩

/-- The error of a chunk is kept for the terminal event. -/
def captureError (chunk : Value) (s : StreamState) : StreamState :=
  match chunk.get "error" with
  | some error => { s with openaiTerminalError := some error }
  | none => s

/-- The first model that a chunk names is kept. -/
def captureModel (chunk : Value) (s : StreamState) : StreamState :=
  if s.model.isSome then s
  else
    { s with model := ((((firstChoice chunk).bind (Value.get · "model")).or
      (chunk.get "model")).bind Value.asStr) }

/-- The first two events. -/
def startResponses (c : ResponsesChunk) (k : Sink) : Sink :=
  if k.state.responsesStarted then k
  else
    ((k.update fun s => { s with
      responsesStarted := true
      responsesCompletedMessageItems := []
      -- set, not added: an error that was kept is gone unless this chunk has one too
      openaiTerminalError := c.chunk.get "error"
      messageId := c.chunk.getStr "id" }).emit "response.created"
      [("response", .ofFields [("id", .string c.responseId), ("object", .string "response"),
        ("created_at", .nat c.created), ("status", .string "in_progress"),
        ("model", .ofOptionStr k.state.model), ("background", .bool false), ("error", .null),
        ("incomplete_details", .null), ("usage", .null), ("output", .array [])])]).emit
      "response.in_progress"
      [("response", .ofFields [("id", .string c.responseId), ("object", .string "response"),
        ("created_at", .nat c.created), ("status", .string "in_progress"), ("error", .null),
        ("incomplete_details", .null), ("usage", .null)])]

def ensureReasoningItem (env : Env) (responseId : String) (outputIndex : Nat) (k : Sink) : Sink :=
  if k.state.responsesReasoningAdded then k
  else
    let itemId := k.state.responsesReasoningId.getD s!"rs_{env.uuid k.state.responsesSeq}"
    ((k.update fun s => { s with
      responsesReasoningAdded := true
      responsesReasoningId := some itemId }).emit "response.output_item.added"
      [("response_id", .string responseId), ("output_index", .nat outputIndex),
        ("item", .ofFields [("id", .string itemId), ("type", .string "reasoning"),
          ("summary", .array [])])]).emit "response.reasoning_summary_part.added"
      [("response_id", .string responseId), ("item_id", .string itemId),
        ("output_index", .nat outputIndex), ("summary_index", .nat 0),
        ("part", .ofFields [("type", .string "summary_text"), ("text", .string "")])]

/-- A reasoning delta. -/
def reasoningResponses (env : Env) (responseId : String) (reasoning : Option String) (k : Sink) :
    Sink :=
  match reasoning.filter fun reasoning => !reasoning.isEmpty with
  | none => k
  | some reasoning =>
      let (outputIndex, state) := responsesReasoningOutputIndex { k.state with
        responsesReasoningText := k.state.responsesReasoningText ++ reasoning }
      let k := ensureReasoningItem env responseId outputIndex { k with state := state }
      k.emit "response.reasoning_summary_text.delta"
        [("response_id", .string responseId),
          ("item_id", .ofOptionStr k.state.responsesReasoningId),
          ("output_index", .nat outputIndex), ("summary_index", .nat 0),
          ("delta", .string reasoning)]

/-- The place of a part in the message, after making it if need be. -/
def ensurePart (env : Env) (responseId : String) (kind : ResponsesMessagePartKind) (k : Sink) :
    Nat × Nat × Sink :=
  let (outputIndex, state) := responsesMessageOutputIndex k.state
  let k := ensureResponsesMessageItemAdded env responseId outputIndex { k with state := state }
  let (contentIndex, k) := ensureResponsesMessagePart responseId outputIndex kind k
  (outputIndex, contentIndex, k)

/-- A text or refusal delta goes into its part; a text delta brings the chunk's annotations. -/
def messageDelta (env : Env) (responseId : String) (kind : ResponsesMessagePartKind)
    (text : Option String) (annotations : List Value) (k : Sink) : Sink :=
  match text.filter fun text => !text.isEmpty with
  | none => k
  | some text =>
      let (outputIndex, contentIndex, k) := ensurePart env responseId kind k
      let k := k.update fun s => { s with
        responsesOutputText := if kind = .outputText then s.responsesOutputText ++ text
          else s.responsesOutputText
        responsesMessageParts := s.responsesMessageParts.modify contentIndex fun part =>
          { part with text := part.text ++ text, annotations := part.annotations ++ annotations } }
      k.emit kind.deltaEventType
        [("response_id", .string responseId), ("output_index", .nat outputIndex),
          ("content_index", .nat contentIndex), ("item_id", .string (messageItemId k.state)),
          ("delta", .string text)]

/-- Annotations without a text go to the text part. -/
def annotationsResponses (env : Env) (responseId : String) (annotations : List Value)
    (hadContentDelta : Bool) (k : Sink) : Sink :=
  if annotations.isEmpty || hadContentDelta then k
  else
    let (_, contentIndex, k) := ensurePart env responseId .outputText k
    k.update fun s => { s with
      responsesMessageParts := s.responsesMessageParts.modify contentIndex fun part =>
        { part with annotations := part.annotations ++ annotations } }

def responsesToolCallIndex (tc : Value) : Nat := (tc.getU64 "index").getD 0

def toolCallFunctionField (tc : Value) (field : String) : Option String :=
  (tc.get "function").bind (Value.getStr · field)

/-- The name of a tool call is that of a bridged namespace's child, or taken as it is; a call that
has its namespace keeps its name. -/
def mergeToolCallName (s : StreamState) (name : Option String) (entry : ToolCallState) :
    ToolCallState :=
  match name with
  | none => entry
  | some name =>
      if entry.namespaceName.isSome then entry
      else
        match requestScopedNamespaceBridgeLookupStream s.requestScopedToolBridgeContext name with
        | some (ns, child) => { entry with namespaceName := some ns, name := child }
        | none => { entry with name := name }

/-- What a tool-call delta adds to the call's state. -/
def mergeToolCall (s : StreamState) (tc : Value) (entry : ToolCallState) : ToolCallState :=
  let entry := { entry with
    id := (tc.get "id").or entry.id
    nonReplayableMarker := (tc.get internalNonReplayableToolCallField).or entry.nonReplayableMarker
    toolType := if entry.toolType.isNone || (tc.get "type").isSome then
      some (openaiStreamToolCallType tc) else entry.toolType
    proxiedToolKind := (tc.getStr "proxied_tool_kind").or entry.proxiedToolKind }
  let entry := mergeToolCallName s (toolCallFunctionField tc "name") entry
  { entry with
    arguments := entry.arguments ++ (toolCallFunctionField tc "arguments").getD "" }

/-- A tool-call delta: its call is added as soon as it can be, and later arguments go out as they
come. -/
def toolCallResponses (env : Env) (responseId : String) (tc : Value) (k : Sink) : Sink :=
  let tcIdx := responsesToolCallIndex tc
  let (outputIndex, state) := responsesToolOutputIndex k.state tcIdx
  let before := (state.openaiToolCalls.lookup tcIdx).getD { index := tcIdx }
  let entry := mergeToolCall state tc before
  let k : Sink := { k with state := { state with
    openaiToolCalls := state.openaiToolCalls.insert tcIdx entry } }
  -- a marked call is kept for the end of the response, where its text is told
  if entry.markedNonReplayable env then k
  else
    let k := if !before.responsesItemAdded && entry.id.isSome then
      flushPendingResponsesToolCall env responseId false k tcIdx else k
    -- a call that has just been added has told all of its arguments
    if before.responsesItemAdded then
      emitResponsesToolCallDelta ⟨responseId, outputIndex, (entry.id.bind Value.asStr).getD "",
        entry.name, toolCallStateType entry, entry.proxiedToolKind, entry.namespaceName⟩
        ((toolCallFunctionField tc "arguments").getD "") k
    else k

/-- The loop over the tool-call deltas; a reserved name ends the stream. -/
def toolCallsResponses (env : Env) (c : ResponsesChunk) : List Value → Sink → Except Sink Sink
  | [], k => .ok k
  | tc :: tcs, k =>
      let tcIdx := responsesToolCallIndex tc
      let k := k.update fun s => { s with
        openaiToolCalls := dedupeToolCallStateByCallId env s.openaiToolCalls tcIdx (tc.get "id") }
      let reserved := k.update fun s => (responsesToolOutputIndex s tcIdx).2
      match (toolCallFunctionField tc "name").map validatePublicToolNameNotReserved with
      | some (.error message) =>
          .error (rejectOpenaiResponsesStream c.responseId c.created
            "reserved_openai_custom_bridge_prefix" message reserved)
      | _ => toolCallsResponses env c tcs (toolCallResponses env c.responseId tc k)

/-- A chunk with tool calls closes the message before them. -/
def toolCallsDelta (env : Env) (c : ResponsesChunk) (k : Sink) : Except Sink Sink :=
  match c.delta.getArray "tool_calls" with
  | none => .ok k
  | some tcs =>
      toolCallsResponses env c tcs
        (emitResponsesMessageDone c.responseId (some "commentary") k)

/-- The terminal event, with the calls that are still pending in front of it. -/
def finalizeResponses (env : Env) (c : ResponsesChunk) (k : Sink) : Sink :=
  emitOpenaiResponsesTerminal env c.responseId c.created
    (flushPendingResponsesToolCalls env c.responseId true k)

/-- The finish of a chunk: an error ends the stream at once, tool calls are finished, and the
terminal event comes unless the usage is still to come. -/
def finishResponses (env : Env) (c : ResponsesChunk) (k : Sink) : Sink :=
  let k := match c.chunk.get "usage" with
    | some usage => k.update fun s => { s with usage := some usage }
    | none => k
  let k := k.update fun s => { s with finishReason := c.finishReason.or s.finishReason }
  if c.finishReason = some "context_length_exceeded" ∨ c.finishReason = some "error" ∨
      c.finishReason = some "tool_error" then
    finalizeResponses env c k
  else
    let k := if c.finishReason = some "tool_calls" then
      (emitPendingResponsesToolCallDoneEvents env c.responseId ⟨none, false⟩ false
        (flushPendingResponsesToolCalls env c.responseId true k)).2
    else k
    -- `"usage": null` is not the usage that is waited for
    let hasRealUsage := (c.chunk.get "usage").any fun usage => !usage.isNull
    if k.state.finishReason.isSome ∧ !k.state.responsesTerminalSent ∧
        -- only these models send their usage behind the finish reason, and are waited for
        (hasRealUsage ∨ !isMinimaxChunk c.chunk k.state) then finalizeResponses env c k
    else k

def textsResponses (env : Env) (c : ResponsesChunk) (k : Sink) : Sink :=
  let (reasoning, state) := openaiChunkReasoningDelta c.delta k.state
  let k := reasoningResponses env c.responseId reasoning { k with state := state }
  let (content, state) := openaiChunkContentDelta c.delta k.state
  let (refusal, state) := openaiChunkRefusalDelta c.delta state
  let annotations := openaiChunkAnnotationsDelta c.delta
  let k := messageDelta env c.responseId .outputText content annotations { k with state := state }
  let k := annotationsResponses env c.responseId annotations content.isSome k
  messageDelta env c.responseId .refusal refusal [] k

/-- `openai_chunk_to_responses_sse` (`streaming/openai_sink.rs` 1459-1882). Behind the last event a
chunk comes to nothing, whatever it holds. A call that must not be told ends the response in
`toolCallsDelta`, and then the finish reason of the chunk is not looked at. -/
def openaiChunkToResponsesSse (env : Env) (chunk : Value) (state : StreamState) :
    List SseFrame × StreamState :=
  if state.responsesTerminalSent then ([], state)
  else
    let state := captureError chunk state
    let c := responsesChunk chunk state
    let k := startResponses c ⟨captureModel chunk state, []⟩
    let k := textsResponses env c k
    match toolCallsDelta env c k with
    | .error k => (k.out, k.state)
    | .ok k =>
        let k := finishResponses env c k
        (k.out, k.state)

end LlmUniversalProxy.Streaming
