import LlmUniversalProxy.Json.Value
import LlmUniversalProxy.Lib.Text

/-!
# `Translate.Finish` — why a response ended

Every format has its own words for it. Chat's are the pivot: an ending that Anthropic or Responses
reports is read into a `finish_reason`, and written from one.

The source is `translate/internal/response_protocols.rs` 15-69 and `translate/internal.rs`
1779-1828.
-/

set_option autoImplicit false

namespace LlmUniversalProxy.Translate

open Json Lib

/-- `classify_portable_non_success_terminal` (`internal.rs` 1779-1828): the finish reason of a
response that went wrong. -/
def classifyPortableNonSuccessTerminal : Option String → String
  | none => "error"
  | some codeOrReason =>
      let lower := Text.asciiLower codeOrReason
      let upper := Text.asciiUpper codeOrReason
      if lower = "context_length_exceeded" then "context_length_exceeded"
      else if upper ∈ ["SAFETY", "RECITATION", "BLOCKLIST", "PROHIBITED_CONTENT", "SPII",
          "IMAGE_SAFETY", "IMAGE_PROHIBITED_CONTENT", "IMAGE_RECITATION"] ∨
          lower = "content_filter" ∨
          -- words inside a longer code count as well, so the order of the tests matters
          ["safety", "policy", "block", "prohibited", "recitation", "spii"].any
            (Text.contains lower) then "content_filter"
      else if upper ∈ ["MALFORMED_FUNCTION_CALL", "UNEXPECTED_TOOL_CALL", "TOO_MANY_TOOL_CALLS",
          "MISSING_THOUGHT_SIGNATURE"] ∨
          ["tool", "function", "signature", "schema", "validation"].any
            (Text.contains lower) then "tool_error"
      else "error"

/-- `AnthropicTerminal`. -/
inductive AnthropicTerminal where
  | stopReason (reason : String)
  | error (errorType message : String)
  deriving DecidableEq, Repr

/-- `classify_openai_finish_for_anthropic` (`response_protocols.rs` 23-41). -/
def classifyOpenaiFinishForAnthropic (reason : String) : AnthropicTerminal :=
  match reason with
  | "stop" => .stopReason "end_turn"
  | "length" => .stopReason "max_tokens"
  | "tool_calls" => .stopReason "tool_use"
  | "pause_turn" => .stopReason "pause_turn"
  | "content_filter" => .stopReason "refusal"
  | "context_length_exceeded" => .stopReason "model_context_window_exceeded"
  | "error" => .error "api_error" "The provider returned an error."
  | "tool_error" =>
      .error "invalid_request_error" "The provider reported a tool or protocol error."
  | _ => .stopReason "end_turn"

/-- A finish reason that an Anthropic client is told as an error, without a message. -/
def endsInError (finishReason : String) : Bool :=
  match classifyOpenaiFinishForAnthropic finishReason with
  | .error _ _ => true
  | .stopReason _ => false

/-- The finish reason that `claude_response_to_openai_internal` gives a stop reason. -/
def finishReasonOfStopReason (stopReason : String) : String :=
  match stopReason with
  | "end_turn" | "stop_sequence" => "stop"
  | "tool_use" => "tool_calls"
  | "max_tokens" => "length"
  | "model_context_window_exceeded" => "context_length_exceeded"
  | "pause_turn" => "pause_turn"
  | "refusal" => "content_filter"
  | _ => "stop"

/-- No ending that Anthropic reports is an error to it. -/
theorem endsInError_finishReasonOfStopReason (stopReason : String) :
    endsInError (finishReasonOfStopReason stopReason) = false := by
  unfold finishReasonOfStopReason
  split <;> rfl

/-- `responses_finish_reason_to_openai` (`response_protocols.rs` 43-69). -/
def responsesFinishReasonToOpenai (body : Value) (hasToolCalls : Bool) : String :=
  match body.getStr "status" with
  | some "incomplete" =>
      match (body.get "incomplete_details").bind (Value.getStr · "reason") with
      | some "max_output_tokens" => "length"
      | some "content_filter" => "content_filter"
      | some "pause_turn" => "pause_turn"
      | _ => "stop"
  | some "failed" =>
      classifyPortableNonSuccessTerminal ((body.get "error").bind (Value.getStr · "code"))
  | _ => if hasToolCalls then "tool_calls" else "stop"

end LlmUniversalProxy.Translate
