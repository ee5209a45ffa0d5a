import LlmUniversalProxy.Streaming.Source

/-!
# `Streaming.AnthropicSource` — Anthropic events to Chat chunks

Texts and thoughts are passed on as they come. The arguments of a tool call are held back until its
block stops: a call whose arguments turn out not to be an object goes out as a text.

The source is `streaming/anthropic_source.rs`, whole.
-/

set_option autoImplicit false

namespace LlmUniversalProxy.Streaming

open Json Lib Translate

/-- `raw_json_is_valid_object_anthropic_source`. -/
def rawJsonIsValidObjectAnthropicSource (serde : Serde) (raw : String) : Bool :=
  !Text.isBlank raw && (fromStr serde raw).any Value.isObject

/-- `anthropic_tool_use_partial_replay_text`. -/
def anthropicToolUsePartialReplayText (name raw : String) : String :=
  if Text.isBlank raw then s!"Tool call `{name}` had incomplete arguments."
  else s!"Tool call `{name}` with partial arguments: {Text.trim raw}"

/-- `emit_claude_reasoning_delta`. -/
def emitClaudeReasoningDelta (env : Env) (reasoning : String) (k : Source) : Source :=
  if reasoning.isEmpty then k
  else (k.ensureRole env).push env (.ofFields [("reasoning_content", .string reasoning)])

/-- `emit_structured_claude_tool_use_delta` (`streaming/anthropic_source.rs` 28-58). -/
def emitStructuredClaudeToolUseDelta (env : Env) (toolUse : ClaudeToolUseState)
    (arguments : String) (k : Source) : Source :=
  if arguments.isEmpty then k
  else
    let toolCall := Value.ofFields [("index", .nat toolUse.openaiIndex),
      ("id", .ofOption toolUse.id), ("type", .string "function"),
      ("function", .ofFields [("name", .string toolUse.name),
        ("arguments", .string arguments)])]
    let toolCall := match toolUse.proxiedToolKind with
      | some proxiedToolKind => toolCall.set "proxied_tool_kind" (.string proxiedToolKind)
      | none => toolCall
    (k.ensureRole env).pushToolCall env toolCall

/-- The arguments of a tool call that goes out as one. -/
def structuredFinal (serde : Serde) (toolUse : ClaudeToolUseState) : Option String :=
  if toolUse.zeroArgCandidate && !toolUse.sawInputJsonDelta && Text.isBlank toolUse.arguments then
    some "{}"
  else if rawJsonIsValidObjectAnthropicSource serde toolUse.arguments then some toolUse.arguments
  else none

/-- A change of a tool call that the state knows. -/
def updateToolUse (blockIndex : Nat) (f : ClaudeToolUseState → ClaudeToolUseState)
    (s : StreamState) : StreamState :=
  match s.claudeToolUses.lookup blockIndex with
  | some toolUse => { s with claudeToolUses := s.claudeToolUses.insert blockIndex (f toolUse) }
  | none => s

/-- The marks of a finished tool call. -/
def ClaudeToolUseState.finish (self : ClaudeToolUseState) : ClaudeToolUseState :=
  { self with zeroArgCandidate := false, argumentsSeededFromStart := false, finalized := true }

/-- `finalize_claude_tool_use_block` (`streaming/anthropic_source.rs` 60-161). -/
def finalizeClaudeToolUseBlock (env : Env) (k : Source) (blockIndex : Nat) : Source :=
  match k.state.claudeToolUses.lookup blockIndex with
  | none => k
  | some toolUse =>
      if toolUse.finalized then k
      else
        match structuredFinal env.serde toolUse with
        | some arguments =>
            -- told already, piece by piece
            if toolUse.startArgumentsEmitted then
              k.update (updateToolUse blockIndex ClaudeToolUseState.finish)
            else
              (emitStructuredClaudeToolUseDelta env toolUse arguments k).update
                (updateToolUse blockIndex fun toolUse => { toolUse.finish with
                  arguments := arguments, startArgumentsEmitted := true })
        -- arguments that are no object are told as text, under the role that this may have to set
        -- first
        | none =>
            ((k.ensureRole env).push env (.ofFields [("content", .string
              (anthropicToolUsePartialReplayText toolUse.name toolUse.arguments))])).update
              (updateToolUse blockIndex ClaudeToolUseState.finish)

/-- An event that cannot be translated. -/
def rejectAnthropicEvent (env : Env) (state : StreamState) (message : String) : Source :=
  let (chunks, state) := rejectOpenaiStream env state "invalid_request_error"
    "unsupported_anthropic_stream_event" message
  ⟨state, chunks⟩

/-! ## Blocks -/

/-- `message_start`. -/
def messageStart (env : Env) (event : Value) (state : StreamState) : Source :=
  let message := event.get "message"
  (⟨{ state with
    messageId := message.bind (Value.getStr · "id")
    model := message.bind (Value.getStr · "model")
    claudeToolUseIndex := 0
    claudeToolUses := ∅
    claudeBlocks := ∅
    claudeThinkingProvenance := [] }, []⟩ : Source).ensureRole env

/-- The `index` of an event. -/
def blockIndexOf (event : Value) : Option Nat := event.getU64 "index"

/-- A thinking block is shown only in part when it, or its text, says so. -/
def thinkingIsOmitted (block : Value) : Bool :=
  (((block.get "thinking").bind (Value.get · "display")).or (block.get "display")).bind
    Value.asStr = some "omitted"

def thinkingBlockStart (env : Env) (event block : Value) (idx : Nat) (state : StreamState) :
    Source :=
  let omitted := thinkingIsOmitted block
  let started : ClaudeBlockState :=
    { kind := some .thinking, signature := block.getStr "signature", omitted := omitted }
  let k : Source := ⟨{ state with claudeBlocks := state.claudeBlocks.insert idx started }, []⟩
  let k := if omitted then k
    else emitClaudeReasoningDelta env ((block.getStr "thinking").getD "") k
  k.update fun s => { s with inThinkingBlock := true, currentBlockIndex := blockIndexOf event }

def serializedInput (block : Value) : String :=
  (((block.get "input").filter fun input => !input.isNull).map Value.toJson).getD ""

/-- The start of a tool block (`streaming/anthropic_source.rs` 237-285). Nothing goes out yet: an
input that comes with the start may still be followed by pieces. -/
def toolUseBlockStart (block : Value) (idx : Nat) (onServer : Bool) (state : StreamState) :
    Source :=
  let input := serializedInput block
  -- the empty object is what Anthropic starts every call with, so it is not taken for its input
  let seededArguments := if input = "{}" then "" else input
  let kind := if onServer then ClaudeBlockKind.serverToolUse else .toolUse
  let started : ClaudeBlockState := { kind := some kind }
  let toolUse : ClaudeToolUseState :=
    { openaiIndex := state.claudeToolUseIndex
      id := block.get "id"
      name := (block.getStr "name").getD ""
      arguments := seededArguments
      proxiedToolKind := if onServer then some "anthropic_server_tool_use" else none
      zeroArgCandidate := input = "{}"
      argumentsSeededFromStart := !seededArguments.isEmpty }
  ⟨{ state with
    claudeToolUseIndex := state.claudeToolUseIndex + 1
    claudeBlocks := state.claudeBlocks.insert idx started
    claudeToolUses := state.claudeToolUses.insert idx toolUse }, []⟩

/-- `content_block_start`. -/
def contentBlockStarted (env : Env) (event : Value) (state : StreamState) : Source :=
  let block := (event.get "content_block").getD .null
  let idx := (blockIndexOf event).getD 0
  match block.getStr "type" with
  | some "text" =>
      let started : ClaudeBlockState := { kind := some .text }
      ⟨{ state with
        claudeBlocks := state.claudeBlocks.insert idx started, textBlockStarted := true }, []⟩
  | some "thinking" => thinkingBlockStart env event block idx state
  | some "tool_use" => toolUseBlockStart block idx false state
  | some "server_tool_use" => toolUseBlockStart block idx true state
  | some "server_tool_result" => rejectAnthropicEvent env state
      "Anthropic server_tool_result blocks cannot be translated losslessly."
  | some other => rejectAnthropicEvent env state
      s!"Anthropic content block type `{other}` cannot be translated losslessly."
  | none => rejectAnthropicEvent env state
      "Anthropic content block start event is missing a block type."

/-! ## Deltas -/

/-- The block that a delta is for; it has to be known, and of the kind that the delta is for. -/
def blockForDelta (deltaType : String) (kind : ClaudeBlockKind) (kindName : String)
    (event : Value) (state : StreamState) : Except String (Nat × ClaudeBlockState) :=
  match blockIndexOf event with
  | none => .error s!"Anthropic {deltaType} is missing a block index."
  | some idx =>
      match state.claudeBlocks.lookup idx with
      | none => .error s!"Anthropic {deltaType} referenced an unknown block."
      | some block =>
          if block.kind = some kind then .ok (idx, block)
          else .error s!"Anthropic {deltaType} is only valid for {kindName} blocks."

/-- The state with another block under an index. -/
def setBlock (idx : Nat) (block : ClaudeBlockState) (s : StreamState) : StreamState :=
  { s with claudeBlocks := s.claudeBlocks.insert idx block }

/-- `thinking_delta`: a thought that is not to be shown is kept. -/
def thinkingDelta (env : Env) (event delta : Value) (state : StreamState) : Source :=
  match blockForDelta "thinking_delta" .thinking "thinking" event state with
  | .error message => rejectAnthropicEvent env state message
  | .ok (idx, block) =>
      match (delta.getStr "thinking").filter fun t => !t.isEmpty with
      | none => ⟨state, []⟩
      | some t =>
          if block.omitted then
            ⟨setBlock idx { block with thinking := block.thinking ++ t } state, []⟩
          else emitClaudeReasoningDelta env t ⟨state, []⟩

/-- `signature_delta`. -/
def signatureDelta (env : Env) (event delta : Value) (state : StreamState) : Source :=
  match blockForDelta "signature_delta" .thinking "thinking" event state with
  | .error message => rejectAnthropicEvent env state message
  | .ok (idx, block) =>
      match delta.getStr "signature" with
      | none => ⟨state, []⟩
      | some signature => ⟨setBlock idx { block with signature := some signature } state, []⟩

/-- `citations_delta`. -/
def citationsDelta (env : Env) (event delta : Value) (state : StreamState) : Source :=
  match blockForDelta "citations_delta" .text "text" event state with
  | .error message => rejectAnthropicEvent env state message
  | .ok (idx, block) =>
      let annotations := (delta.getArray "citations").getD [] ++ (delta.get "citation").toList
      if annotations.isEmpty then ⟨state, []⟩
      else
        ((⟨setBlock idx { block with annotations := block.annotations ++ annotations } state,
          []⟩ : Source).ensureRole env).push env (.ofFields [("annotations", .array annotations)])

/-- What a piece of JSON adds to a tool call. -/
def ClaudeToolUseState.addInputJson (serde : Serde) (partialJson : Option String)
    (self : ClaudeToolUseState) : ClaudeToolUseState :=
  let self := { self with sawInputJsonDelta := true }
  match partialJson with
  | none => self
  | some pj =>
      let self := { self with zeroArgCandidate := false }
      if self.argumentsSeededFromStart && !self.arguments.isEmpty then
        { self with
          arguments := mergeSeededToolArguments serde self.arguments pj
          argumentsSeededFromStart := false }
      else { self with arguments := self.arguments ++ pj }

/-- `input_json_delta`. -/
def inputJsonDelta (env : Env) (event delta : Value) (state : StreamState) : Source :=
  match blockIndexOf event with
  | none => ⟨state, []⟩
  | some idx =>
      ⟨updateToolUse idx
        (ClaudeToolUseState.addInputJson env.serde (delta.getStr "partial_json")) state, []⟩

/-- `text_delta`. -/
def textDelta (env : Env) (delta : Value) (state : StreamState) : Source :=
  match (delta.getStr "text").filter fun t => !t.isEmpty with
  | none => ⟨state, []⟩
  | some t => ((⟨state, []⟩ : Source).ensureRole env).push env (.ofFields [("content", .string t)])

/-- `content_block_delta`. -/
def contentBlockDeltaEvent (env : Env) (event : Value) (state : StreamState) : Source :=
  let delta := (event.get "delta").getD .null
  match delta.getStr "type" with
  | some "text_delta" => textDelta env delta state
  | some "thinking_delta" => thinkingDelta env event delta state
  | some "input_json_delta" => inputJsonDelta env event delta state
  | some "signature_delta" => signatureDelta env event delta state
  | some "citations_delta" => citationsDelta env event delta state
  | some other => rejectAnthropicEvent env state
      s!"Anthropic content block delta `{other}` cannot be translated losslessly."
  | none => rejectAnthropicEvent env state
      "Anthropic content block delta is missing a delta type."

/-! ## Ends -/

/-- Where a thought came from is remembered, in place of what was remembered of its index. -/
def rememberThinking (idx : Nat) (block : ClaudeBlockState) (s : StreamState) : StreamState :=
  { s with
    claudeThinkingProvenance :=
      s.claudeThinkingProvenance.filter (fun entry => entry.blockIndex ≠ idx) ++
        [(⟨idx, block.signature, block.omitted⟩ : ClaudeThinkingProvenanceState)] }

/-- The end of a block: a thought that was kept goes out, and where it came from is remembered. -/
def stopBlock (env : Env) (idx : Nat) (k : Source) : Source :=
  let k := match k.state.claudeBlocks.lookup idx with
    | none => k
    | some block =>
        if block.kind = some ClaudeBlockKind.thinking then
          let k := if block.omitted then k else emitClaudeReasoningDelta env block.thinking k
          k.update (rememberThinking idx block)
        else k
  k.update fun s => { s with claudeBlocks := s.claudeBlocks.erase idx }

/-- `content_block_stop`. -/
def contentBlockStopped (env : Env) (event : Value) (state : StreamState) : Source :=
  let k : Source := match blockIndexOf event with
    | none => ⟨state, []⟩
    | some idx => stopBlock env idx (finalizeClaudeToolUseBlock env ⟨state, []⟩ idx)
  k.update fun s => { s with
    inThinkingBlock := s.inThinkingBlock && s.currentBlockIndex ≠ blockIndexOf event }

/-- `convert_claude_stop_reason` (`streaming/anthropic_source.rs` 613-625). -/
def convertClaudeStopReason : String → String
  | "end_turn" => "stop"
  | "max_tokens" => "length"
  | "tool_use" => "tool_calls"
  | "stop_sequence" => "stop"
  | "pause_turn" => "pause_turn"
  | "refusal" => "content_filter"
  | "model_context_window_exceeded" => "context_length_exceeded"
  | _ => "stop"

/-- `message_delta`. -/
def messageDeltaEvent (event : Value) (state : StreamState) : StreamState :=
  { state with
    finishReason := (((event.get "delta").bind (Value.getStr · "stop_reason")).map
      convertClaudeStopReason).or state.finishReason
    usage := (event.get "usage").or state.usage }

/-- The finish reason of the last chunk: a message is finished by its tool calls only when one of
them went out as a tool call. -/
def claudeFinishReason (s : StreamState) : String :=
  let hasStructuredToolUse := s.claudeToolUses.entries.any fun e => e.2.startArgumentsEmitted
  match s.finishReason with
  | none => if hasStructuredToolUse then "tool_calls" else "stop"
  | some finishReason =>
      if finishReason = "tool_calls" && !hasStructuredToolUse then "stop" else finishReason

/-- `message_stop`. -/
def messageStop (env : Env) (state : StreamState) : Source :=
  if state.finishReasonSent then ⟨state, []⟩
  else
    let pending := ((hashWalk env state.claudeToolUses).filter fun e =>
      !e.2.finalized).map Prod.fst
    let k := pending.foldl (finalizeClaudeToolUseBlock env) ⟨state, []⟩
    let chunk := openaiChunk env k.state (.ofFields []) (some (claudeFinishReason k.state))
    let chunk := match k.state.usage with
      | some usage => chunk.set "usage" (claudeUsageToOpenaiUsage usage)
      | none => chunk
    ⟨{ k.state with finishReasonSent := true }, k.out ++ [chunk]⟩

/-- `claude_event_to_openai_chunks` (`streaming/anthropic_source.rs` 163-611). An `error` event does
not come here; see `translateSseEvent`. -/
def claudeEventToOpenaiChunks (env : Env) (event : Value) (state : StreamState) : Source :=
  if state.fatalRejection.isSome then ⟨state, []⟩
  else
    match event.getStr "type" with
    | some "message_start" => messageStart env event state
    | some "content_block_start" => contentBlockStarted env event state
    | some "content_block_delta" => contentBlockDeltaEvent env event state
    | some "content_block_stop" => contentBlockStopped env event state
    | some "message_delta" => ⟨messageDeltaEvent event state, []⟩
    | some "message_stop" => messageStop env state
    | _ => ⟨state, []⟩

end LlmUniversalProxy.Streaming
