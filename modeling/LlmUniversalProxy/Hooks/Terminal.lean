import LlmUniversalProxy.Json.Value

/-!
# `Hooks.Terminal` — how a stream says that it is over

The event that ends a stream also says how it ended: well, early, or with an error. Every API says
it in its own way. The detectors here are those that the hooks use.

The source is `hooks.rs` 69-85 and 176-288. Those of the debug trace are copies
(`DebugTrace.Summary`), compared in `DebugTrace.Agreement`.
-/

set_option autoImplicit false

namespace LlmUniversalProxy.Hooks

open Json

/-- `ProtocolTerminalKind`. -/
inductive ProtocolTerminalKind where
  | success
  | incomplete
  | failed
  deriving DecidableEq, Repr

/-- `ProtocolTerminal`. -/
structure ProtocolTerminal where
  kind : ProtocolTerminalKind
  eventType : String
  finishReason : Option String
  incompleteReason : Option String
  error : Option Value
  deriving DecidableEq, Repr

/-- What `[DONE]` stands for when nothing else has ended the stream. -/
def doneTerminal : ProtocolTerminal := ⟨.success, "done", some "stop", none, none⟩

/-- An event that is the `[DONE]` marker. -/
def isDone (event : Value) : Bool := (event.get "_done").bind Value.asBool = some true

/-- `openai_protocol_terminal`. -/
def openaiProtocolTerminal (event : Value) : Option ProtocolTerminal :=
  match event.get "error" with
  | some error => some ⟨.failed, "chat.completion.chunk", none, none, some error⟩
  | none => do
      let finishReason ← ((event.getArray "choices").bind List.head?).bind
        (Value.getStr · "finish_reason")
      let (kind, incompleteReason) :=
        if finishReason ∈ ["length", "content_filter", "pause_turn"] then
          (ProtocolTerminalKind.incomplete, some finishReason)
        else if finishReason ∈ ["context_length_exceeded", "tool_error", "error"] then
          (ProtocolTerminalKind.failed, none)
        else (ProtocolTerminalKind.success, none)
      some ⟨kind, "chat.completion.chunk", some finishReason, incompleteReason, event.get "error"⟩

/-- `responses_protocol_terminal`. -/
def responsesProtocolTerminal (event : Value) : Option ProtocolTerminal :=
  match event.getStr "type" with
  | some "response.completed" => some ⟨.success, "response.completed", none, none, none⟩
  | some "response.incomplete" => some ⟨.incomplete, "response.incomplete", none,
      (((event.get "response").bind (Value.get · "incomplete_details")).bind
        (Value.getStr · "reason")), none⟩
  | some "response.failed" => some ⟨.failed, "response.failed", none, none,
      ((event.get "response").bind (Value.get · "error")).filter fun error => !error.isNull⟩
  | _ => none

/-- `anthropic_protocol_terminal`. -/
def anthropicProtocolTerminal (event : Value) (lastStopReason : Option String) :
    Option ProtocolTerminal :=
  match event.getStr "type" with
  | some "error" => some ⟨.failed, "error", none, none, event.get "error"⟩
  | some "message_stop" =>
      let stopReason := lastStopReason.getD ""
      let (kind, incompleteReason, finishReason) :=
        if stopReason ∈ ["max_tokens", "pause_turn", "refusal"] then
          (ProtocolTerminalKind.incomplete, some stopReason, some stopReason)
        else if stopReason = "model_context_window_exceeded" then
          (ProtocolTerminalKind.failed, none, some stopReason)
        else (ProtocolTerminalKind.success, none,
          if stopReason.isEmpty then none else some stopReason)
      some ⟨kind, "message_stop", finishReason, incompleteReason, none⟩
  | _ => none

end LlmUniversalProxy.Hooks
