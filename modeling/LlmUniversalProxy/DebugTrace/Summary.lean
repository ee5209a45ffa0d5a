import LlmUniversalProxy.Formats
import LlmUniversalProxy.Hooks.Terminal
import LlmUniversalProxy.Json.Text

/-!
# `DebugTrace.Summary` — what the debug trace keeps of a streamed response

The debug trace has its own eyes: it does not share the accumulators of the hooks, nor the detectors
of the events that end a stream, but has copies of them. The record of how a stream ended has the
same fields in both; here it is one type.

The summary is `debug_trace.rs` 201-295 and 1330-1506. Of the texts and calls it keeps a bounded
front; what a client is sent does not depend on it.
-/

set_option autoImplicit false

namespace LlmUniversalProxy.DebugTrace

open Json Lib
open Hooks (ProtocolTerminal ProtocolTerminalKind)

/-! ## Bounded text -/

/-- `truncate_text`. -/
def truncateText (text : String) (maxTextChars : Nat) : String :=
  if text.toList.length ≤ maxTextChars then text
  else String.ofList (text.toList.take maxTextChars) ++ "…[" ++ toString text.toList.length ++ " chars]"

mutual

/-- `truncate_value_strings`. -/
def truncateValueStrings (maxTextChars : Nat) : Value → Value
  | .string text => .string (truncateText text maxTextChars)
  | .array items => .array (truncateItemStrings maxTextChars items)
  | .object fields => .object (truncateFieldStrings maxTextChars fields)
  | other => other

def truncateItemStrings (maxTextChars : Nat) : List Value → List Value
  | [] => []
  | item :: items => truncateValueStrings maxTextChars item :: truncateItemStrings maxTextChars items

def truncateFieldStrings (maxTextChars : Nat) : List (String × Value) → List (String × Value)
  | [] => []
  | (key, value) :: fields =>
      (key, truncateValueStrings maxTextChars value) :: truncateFieldStrings maxTextChars fields

end

/-- `BoundedTextSummary`. -/
structure BoundedTextSummary where
  head : String := ""
  storedChars : Nat := 0
  totalChars : Nat := 0
  maxChars : Nat
  deriving DecidableEq, Repr

/-- `push_str` (`debug_trace.rs` 218-232). -/
def BoundedTextSummary.pushStr (self : BoundedTextSummary) (text : String) : BoundedTextSummary :=
  if text.isEmpty then self
  else
    let self := { self with totalChars := self.totalChars + text.toList.length }
    if self.maxChars ≤ self.storedChars then self
    else
      let taken := text.toList.take (self.maxChars - self.storedChars)
      { self with
        head := self.head ++ String.ofList taken
        storedChars := self.storedChars + taken.length }

/-- `BoundedToolCallSummary`. -/
structure BoundedToolCallSummary where
  items : List Value := []
  storedChars : Nat := 0
  omittedItems : Nat := 0
  maxChars : Nat
  deriving DecidableEq, Repr

/-- `push` (`debug_trace.rs` 261-273). What is over the limit is counted, and not kept. -/
def BoundedToolCallSummary.push (self : BoundedToolCallSummary) (value : Value) :
    BoundedToolCallSummary :=
  let value := truncateValueStrings self.maxChars value
  let serializedLen := value.toJson.toList.length
  if max self.maxChars 1 < self.storedChars + serializedLen then
    { self with omittedItems := self.omittedItems + 1 }
  else { self with storedChars := self.storedChars + serializedLen, items := self.items ++ [value] }

/-! ## Detectors -/

/-- `openai_protocol_terminal`. -/
def openaiProtocolTerminal (event : Value) : Option ProtocolTerminal :=
  match event.get "error" with
  | some error => some ⟨.failed, "chat.completion.chunk", none, none, some error⟩
  | none => do
      let choice ← (event.getArray "choices").bind List.head?
      let finishReason ← choice.getStr "finish_reason"
      let kind :=
        if finishReason ∈ ["length", "content_filter", "pause_turn"] then
          ProtocolTerminalKind.incomplete
        else if finishReason ∈ ["context_length_exceeded", "tool_error", "error"] then
          ProtocolTerminalKind.failed
        else ProtocolTerminalKind.success
      some ⟨kind, "chat.completion.chunk", some finishReason,
        if kind = .incomplete then some finishReason else none, none⟩

/-- `responses_protocol_terminal`. -/
def responsesProtocolTerminal (event : Value) : Option ProtocolTerminal :=
  match event.getStr "type" with
  | some "response.completed" => some ⟨.success, "response.completed", none, none, none⟩
  | some "response.incomplete" => some ⟨.incomplete, "response.incomplete", none,
      (((event.get "response").bind (Value.get · "incomplete_details")).bind
        (Value.getStr · "reason")), none⟩
  | some "response.failed" => some ⟨.failed, "response.failed", none, none,
      ((event.get "response").bind (Value.get · "error")).filter fun error => !error.isNull⟩
  | _ => none

/-- `anthropic_protocol_terminal`. -/
def anthropicProtocolTerminal (event : Value) (lastStopReason : Option String) :
    Option ProtocolTerminal :=
  match event.getStr "type" with
  | some "error" => some ⟨.failed, "error", none, none, event.get "error"⟩
  | some "message_stop" =>
      let stopReason := lastStopReason.getD ""
      let kind :=
        if stopReason ∈ ["max_tokens", "pause_turn", "refusal"] then ProtocolTerminalKind.incomplete
        else if stopReason = "model_context_window_exceeded" then ProtocolTerminalKind.failed
        else ProtocolTerminalKind.success
      some ⟨kind, "message_stop", if stopReason.isEmpty then none else some stopReason,
        if kind = .incomplete then some stopReason else none, none⟩
  | _ => none

/-! ## The summary -/

/-- `ResponseSummary`. -/
structure ResponseSummary where
  text : BoundedTextSummary
  reasoning : BoundedTextSummary
  toolCalls : BoundedToolCallSummary
  protocolTerminal : Option ProtocolTerminal := none
  terminalEvent : Option String := none
  finishReason : Option String := none
  error : Option Value := none
  deriving DecidableEq, Repr

/-- `ResponseSummary::new`. -/
def ResponseSummary.new (maxTextChars : Nat) : ResponseSummary where
  text := { maxChars := maxTextChars }
  reasoning := { maxChars := maxTextChars }
  toolCalls := { maxChars := maxTextChars }

namespace ResponseSummary

/-- More text, if there is any. -/
def pushText (self : ResponseSummary) (text : Option String) : ResponseSummary :=
  match text with
  | some text => { self with text := self.text.pushStr text }
  | none => self

/-- More reasoning, if there is any. -/
def pushReasoning (self : ResponseSummary) (reasoning : Option String) : ResponseSummary :=
  match reasoning with
  | some reasoning => { self with reasoning := self.reasoning.pushStr reasoning }
  | none => self

/-- More of the calls. -/
def pushToolCall (self : ResponseSummary) (toolCall : Value) : ResponseSummary :=
  { self with toolCalls := self.toolCalls.push toolCall }

/-- The choice of a chunk. -/
def takeChoice (self : ResponseSummary) (choice : Value) : ResponseSummary :=
  let delta := choice.get "delta"
  let self := self.pushText (delta.bind (Value.getStr · "content"))
  let self := self.pushReasoning (delta.bind (Value.getStr · "reasoning_content"))
  let self := ((delta.bind (Value.getArray · "tool_calls")).getD []).foldl pushToolCall self
  match choice.getStr "finish_reason" with
  | some finishReason => { self with
      finishReason := some finishReason, terminalEvent := some "chat.completion.chunk" }
  | none => self

end ResponseSummary

/-- `accumulate_openai_completion_event` (`debug_trace.rs` 1338-1391). -/
def accumulateOpenaiCompletionEvent (event : Value) (summary : ResponseSummary) :
    ResponseSummary :=
  if (event.get "_done").bind Value.asBool = some true then
    { summary with
      terminalEvent := some "done"
      protocolTerminal :=
        summary.protocolTerminal.or (some ⟨.success, "done", some "stop", none, none⟩) }
  else
    let summary := match (event.getArray "choices").bind List.head? with
      | some choice => summary.takeChoice choice
      | none => summary
    { summary with
      error := (event.get "error").or summary.error
      protocolTerminal := (openaiProtocolTerminal event).or summary.protocolTerminal }

def ResponseSummary.takeResponsesEnd (self : ResponseSummary) (ty : String) (event : Value) :
    ResponseSummary :=
  let response := event.get "response"
  { self with
    terminalEvent := some ty
    finishReason := ((response.bind (Value.get · "incomplete_details")).bind
      (Value.getStr · "reason")).or self.finishReason
    error := ((response.bind (Value.get · "error")).filter fun error => !error.isNull).or self.error
    protocolTerminal := responsesProtocolTerminal event }

/-- `accumulate_responses_event` (`debug_trace.rs` 1393-1431). -/
def accumulateResponsesEvent (event : Value) (summary : ResponseSummary) : ResponseSummary :=
  match (event.getStr "type").getD "" with
  | "response.output_text.delta" => summary.pushText (event.getStr "delta")
  | "response.reasoning_summary_text.delta" => summary.pushReasoning (event.getStr "delta")
  | "response.function_call_arguments.delta" => summary.pushToolCall (.ofFields
      [("item_id", .ofOption (event.get "item_id")), ("delta", .ofOption (event.get "delta"))])
  | "response.completed" => summary.takeResponsesEnd "response.completed" event
  | "response.incomplete" => summary.takeResponsesEnd "response.incomplete" event
  | "response.failed" => summary.takeResponsesEnd "response.failed" event
  | _ => summary

def ResponseSummary.takeBlockDelta (self : ResponseSummary) (delta : Value) : ResponseSummary :=
  match (delta.getStr "type").getD "" with
  | "text_delta" => self.pushText (delta.getStr "text")
  | "thinking_delta" => self.pushReasoning (delta.getStr "thinking")
  | "input_json_delta" => self.pushToolCall (.ofFields
      [("partial_json", .ofOption (delta.get "partial_json"))])
  | _ => self

/-- `accumulate_claude_event` (`debug_trace.rs` 1433-1479). -/
def accumulateClaudeEvent (event : Value) (summary : ResponseSummary) : ResponseSummary :=
  match (event.getStr "type").getD "" with
  | "content_block_delta" =>
      match event.get "delta" with
      | some delta => summary.takeBlockDelta delta
      | none => summary
  | "message_delta" => { summary with
      finishReason :=
        ((event.get "delta").bind (Value.getStr · "stop_reason")).or summary.finishReason }
  -- the reason has come with an earlier event
  | "message_stop" => { summary with
      terminalEvent := some "message_stop"
      protocolTerminal := anthropicProtocolTerminal event summary.finishReason }
  | "error" => { summary with
      terminalEvent := some "error"
      error := event.get "error"
      protocolTerminal := anthropicProtocolTerminal event summary.finishReason }
  | _ => summary

/-- `accumulate_event`. -/
def accumulateEvent (format : UpstreamFormat) (event : Value) (summary : ResponseSummary) :
    ResponseSummary :=
  match format with
  | .openAiChatCompletions => accumulateOpenaiCompletionEvent event summary
  | .openAiResponses => accumulateResponsesEvent event summary
  | .anthropic => accumulateClaudeEvent event summary

/-! ## What the text and the calls do not touch -/

namespace ResponseSummary

/-- Two summaries that differ in the texts and calls they have collected at most. -/
def SameEnd (s t : ResponseSummary) : Prop :=
  s.protocolTerminal = t.protocolTerminal ∧ s.finishReason = t.finishReason

theorem sameEnd_pushText (s : ResponseSummary) (text : Option String) :
    (s.pushText text).SameEnd s := by
  cases text <;> exact ⟨rfl, rfl⟩

theorem sameEnd_pushReasoning (s : ResponseSummary) (reasoning : Option String) :
    (s.pushReasoning reasoning).SameEnd s := by
  cases reasoning <;> exact ⟨rfl, rfl⟩

theorem sameEnd_pushToolCall (s : ResponseSummary) (toolCall : Value) :
    (s.pushToolCall toolCall).SameEnd s := ⟨rfl, rfl⟩

theorem protocolTerminal_foldl_pushToolCall (toolCalls : List Value) (s : ResponseSummary) :
    (toolCalls.foldl pushToolCall s).protocolTerminal = s.protocolTerminal := by
  induction toolCalls generalizing s with
  | nil => rfl
  | cons toolCall toolCalls ih => exact ih (s.pushToolCall toolCall)

theorem protocolTerminal_takeChoice (s : ResponseSummary) (choice : Value) :
    (s.takeChoice choice).protocolTerminal = s.protocolTerminal := by
  have hfold := protocolTerminal_foldl_pushToolCall
    (((choice.get "delta").bind (Value.getArray · "tool_calls")).getD [])
    ((s.pushText ((choice.get "delta").bind (Value.getStr · "content"))).pushReasoning
      ((choice.get "delta").bind (Value.getStr · "reasoning_content")))
  rw [(sameEnd_pushReasoning _ _).1, (sameEnd_pushText _ _).1] at hfold
  unfold takeChoice
  dsimp only
  cases choice.getStr "finish_reason" with
  | none => exact hfold
  | some finishReason => exact hfold

theorem sameEnd_takeBlockDelta (s : ResponseSummary) (delta : Value) :
    (s.takeBlockDelta delta).SameEnd s := by
  unfold takeBlockDelta
  split
  · exact sameEnd_pushText s _
  · exact sameEnd_pushReasoning s _
  · exact sameEnd_pushToolCall s _
  · exact ⟨rfl, rfl⟩

end ResponseSummary
end LlmUniversalProxy.DebugTrace
