import LlmUniversalProxy.Streaming.Sink
import LlmUniversalProxy.Translate.Finish

/-!
# `Streaming.ClaudeSink` — Chat chunks to an Anthropic client

An Anthropic message is a list of content blocks that are started, filled and stopped. At most one
thinking block and one text block are open at a time; tool blocks stay open to the end of the
message.

The source is `streaming/openai_sink.rs` 6-48 and 869-1123.
-/

set_option autoImplicit false

namespace LlmUniversalProxy.Streaming

open Json Lib Translate

/-! ## Blocks -/

def contentBlockStart (k : Sink) (index : Nat) (contentBlock : Value) : Sink :=
  k.push "content_block_start" (.ofFields [("type", .string "content_block_start"),
    ("index", .nat index), ("content_block", contentBlock)])

def contentBlockDelta (k : Sink) (index : Nat) (delta : Value) : Sink :=
  k.push "content_block_delta" (.ofFields [("type", .string "content_block_delta"),
    ("index", .nat index), ("delta", delta)])

def contentBlockStop (k : Sink) (index : Nat) : Sink :=
  k.push "content_block_stop" (.ofFields [("type", .string "content_block_stop"),
    ("index", .nat index)])

@[simp] theorem contentBlockStart_state (k : Sink) (index : Nat) (contentBlock : Value) :
    (contentBlockStart k index contentBlock).state = k.state := rfl

@[simp] theorem contentBlockDelta_state (k : Sink) (index : Nat) (delta : Value) :
    (contentBlockDelta k index delta).state = k.state := rfl

@[simp] theorem contentBlockStop_state (k : Sink) (index : Nat) :
    (contentBlockStop k index).state = k.state := rfl

/-- `stop_thinking_block_claude`. -/
def stopThinkingBlockClaude (k : Sink) : Sink :=
  if k.state.thinkingBlockStarted then
    (contentBlockStop k k.state.thinkingBlockIndex).update
      fun s => { s with thinkingBlockStarted := false }
  else k

/-- `ensure_thinking_block_claude` (`openai_sink.rs` 17-32). -/
def ensureThinkingBlockClaude (k : Sink) : Sink :=
  if k.state.thinkingBlockStarted then k
  else
    contentBlockStart
      (k.update fun s => { s with
        thinkingBlockIndex := s.nextBlockIndex
        nextBlockIndex := s.nextBlockIndex + 1
        thinkingBlockStarted := true })
      k.state.nextBlockIndex
      (.ofFields [("type", .string "thinking"), ("thinking", .string "")])

/-- `stop_text_block_claude`. -/
def stopTextBlockClaude (k : Sink) : Sink :=
  if !k.state.textBlockStarted || k.state.textBlockClosed then k
  else
    contentBlockStop
      (k.update fun s => { s with textBlockClosed := true, textBlockStarted := false })
      k.state.textBlockIndex

/-- The start of a text block in `openai_chunk_to_claude_sse`. -/
def ensureTextBlockClaude (k : Sink) : Sink :=
  if k.state.textBlockStarted then k
  else
    contentBlockStart
      (k.update fun s => { s with
        textBlockIndex := s.nextBlockIndex
        nextBlockIndex := s.nextBlockIndex + 1
        textBlockStarted := true
        textBlockClosed := false })
      k.state.nextBlockIndex
      (.ofFields [("type", .string "text"), ("text", .string "")])

/-! ## The parts of a chunk -/

/-- `reject_anthropic_stream`. -/
def rejectAnthropicStream (state : StreamState) (errorType message : String) :
    List SseFrame × StreamState :=
  let (message, state) := markStreamFatalRejection state message
  ([anthropicErrorEvent errorType message], state)

/-- The id of the message: that of the chunk, when it looks like one. -/
def claudeMessageId (chunk : Value) : String :=
  (((chunk.getStr "id").map fun s => (Text.stripPrefix s "chatcmpl-").getD s).filter fun s =>
    !s.isEmpty && s ≠ "chat" && decide (8 ≤ s.utf8ByteSize)).getD "msg_0"

/-- The `message_start` in front of the first chunk that has something to say. -/
def startMessageClaude (chunk choice : Value) (k : Sink) : Sink :=
  if k.state.messageStartSent then k
  else
    let messageId := claudeMessageId chunk
    let model := ((choice.get "model").or (chunk.get "model")).bind Value.asStr
    (k.update fun s => { s with
      messageStartSent := true
      messageId := some messageId
      model := model
      nextBlockIndex := 0 }).push "message_start"
      (.ofFields [("type", .string "message_start"), ("message", .ofFields [
        ("id", .string messageId), ("type", .string "message"), ("role", .string "assistant"),
        ("model", .ofOptionStr model), ("content", .array []), ("stop_reason", .null),
        ("stop_sequence", .null), ("usage", .ofFields [("input_tokens", .nat 0),
          ("output_tokens", .nat 0)])])])

/-- A reasoning delta. -/
def reasoningClaude (reasoning : Option String) (k : Sink) : Sink :=
  match reasoning.filter fun reasoning => !reasoning.isEmpty with
  | none => k
  | some reasoning =>
      let k := ensureThinkingBlockClaude (stopTextBlockClaude k)
      contentBlockDelta k k.state.thinkingBlockIndex
        (.ofFields [("type", .string "thinking_delta"), ("thinking", .string reasoning)])

/-- A content delta. -/
def contentClaude (content : Option String) (k : Sink) : Sink :=
  match content.filter fun content => !content.isEmpty with
  | none => k
  | some content =>
      let k := ensureTextBlockClaude (stopThinkingBlockClaude k)
      contentBlockDelta k k.state.textBlockIndex
        (.ofFields [("type", .string "text_delta"), ("text", .string content)])

def toolCallIndex (tc : Value) : Nat := (tc.getU64 "index").getD 0

/-- A field of a tool-call delta's function, if it is a string. -/
def functionField (tc : Value) (field : String) : Option String :=
  (tc.get "function").bind (Value.getStr · field)

def startToolBlockClaude (env : Env) (tc : Value) (k : Sink) : Except (String × StreamState) Sink :=
  if (tc.get "id").isNone then .ok k
  else
    let k := stopTextBlockClaude (stopThinkingBlockClaude k)
    let blockIndex := k.state.nextBlockIndex
    let k := k.update fun s => { s with
      nextBlockIndex := s.nextBlockIndex + 1
      toolBlockIndices := s.toolBlockIndices.insert (toolCallIndex tc) blockIndex }
    match anthropicToolUseTypeForOpenaiToolCall env tc with
    | .error message => .error (message, k.state)
    | .ok toolUseType =>
        .ok (contentBlockStart k blockIndex (.ofFields [("type", .string toolUseType),
          ("id", .string ((tc.getStr "id").getD "")),
          ("name", .string ((functionField tc "name").getD "")), ("input", .ofFields [])]))

/-- The arguments of a tool-call delta go to the block of its index. -/
def toolArgumentsClaude (tc : Value) (k : Sink) : Sink :=
  match (functionField tc "arguments").filter fun args => !args.isEmpty with
  | none => k
  | some args =>
      match k.state.toolBlockIndices.lookup (toolCallIndex tc) with
      | none => k
      | some blockIndex =>
          contentBlockDelta k blockIndex
            (.ofFields [("type", .string "input_json_delta"), ("partial_json", .string args)])

/-- The loop over the tool-call deltas; it stops at one that is rejected. -/
def toolCallsClaude (env : Env) : List Value → Sink → Except (String × StreamState) Sink
  | [], k => .ok k
  | tc :: tcs, k =>
      match startToolBlockClaude env tc k with
      | .error rejection => .error rejection
      | .ok k => toolCallsClaude env tcs (toolArgumentsClaude tc k)

/-- The end of the message, or an error in its place. -/
def finishClaude (env : Env) (finishReason : Option String) (k : Sink) : Sink :=
  match finishReason.map classifyOpenaiFinishForAnthropic with
  | none => k
  | some (.stopReason stopReason) =>
      let k := stopTextBlockClaude (stopThinkingBlockClaude k)
      let k := ((hashWalk env k.state.toolBlockIndices).map Prod.snd).foldl contentBlockStop k
      let usage := k.state.usage.getD
        (.ofFields [("input_tokens", .nat 0), ("output_tokens", .nat 0)])
      (k.push "message_delta" (.ofFields [("type", .string "message_delta"),
        ("delta", .ofFields [("stop_reason", .string stopReason)]), ("usage", usage)])).push
        "message_stop" (.ofFields [("type", .string "message_stop")])
  | some (.error errorType message) =>
      { k with out := k.out ++ [anthropicErrorEvent errorType message] }

/-! ## A chunk -/

/-- The first choice of a chunk, with its delta and its finish reason. -/
structure ChunkChoice where
  choice : Value
  delta : Value
  finishReason : Option String

def chunkChoice (chunk : Value) : Option ChunkChoice :=
  match chunk.getArray "choices" with
  | some (choice :: _) =>
      some ⟨choice, (choice.get "delta").getD .null, choice.getStr "finish_reason"⟩
  | _ => none

def ChunkChoice.toolCalls (self : ChunkChoice) : List Value :=
  (self.delta.getArray "tool_calls").getD []

/-- The first tool call of a choice that Anthropic cannot be given. -/
def rejectedToolCall (env : Env) (self : ChunkChoice) : Option String :=
  self.toolCalls.findSome? fun tc =>
    match anthropicToolUseTypeForOpenaiToolCall env tc with
    | .error message => some message
    | .ok _ => none

/-- A delta that is an empty object, or `null`. -/
def deltaIsEmpty : Value → Bool
  | .object fields => fields.isEmpty
  | delta => delta.isNull

/-- An error finish without a delta that comes before anything else. -/
def earlyError (state : StreamState) (self : ChunkChoice) : Option SseFrame :=
  match self.finishReason.map classifyOpenaiFinishForAnthropic with
  | some (.error errorType message) =>
      if !state.messageStartSent && deltaIsEmpty self.delta then
        some (anthropicErrorEvent errorType message)
      else none
  | _ => none

/-- The usage of a chunk is kept for the end of the message. -/
def captureUsageClaude (chunk : Value) (state : StreamState) : StreamState :=
  match chunk.get "usage" with
  | some usage => { state with usage := some (openaiUsageToAnthropicUsageStream usage) }
  | none => state

/-- `openai_chunk_to_claude_sse` (`streaming/openai_sink.rs` 924-1123). The reserved names and the
errors are looked for before anything of the chunk goes out. The refusal of a delta is not read. -/
def openaiChunkToClaudeSse (env : Env) (chunk : Value) (state : StreamState) :
    List SseFrame × StreamState :=
  -- behind a rejection only a chunk with an error is read
  if state.fatalRejection.isSome ∧ (chunk.get "error").isNone then ([], state)
  else
    -- before the choice is looked for: a usage-only chunk has none
    let state := captureUsageClaude chunk state
    match chunkChoice chunk with
    | none => ([], state)
    | some choice =>
        let (reasoningDelta, state) := openaiChunkReasoningDelta choice.delta state
        match rejectedToolCall env choice with
        | some message => rejectAnthropicStream state "invalid_request_error" message
        | none =>
            match earlyError state choice with
            | some frame => ([frame], state)
            | none =>
                let k := startMessageClaude chunk choice.choice ⟨state, []⟩
                let k := reasoningClaude reasoningDelta k
                let (content, state) := openaiChunkContentDelta choice.delta k.state
                let k := contentClaude content { k with state := state }
                match toolCallsClaude env choice.toolCalls k with
                -- what the chunk has brought so far is lost: the rejection takes the place of all
                -- its events
                | .error (message, state) =>
                    rejectAnthropicStream state "invalid_request_error" message
                | .ok k =>
                    let k := finishClaude env choice.finishReason k
                    (k.out, k.state)

end LlmUniversalProxy.Streaming
