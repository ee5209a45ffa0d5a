import LlmUniversalProxy.Streaming.State
import LlmUniversalProxy.Streaming.Wire

/-!
# `Streaming.Sink` — what both client sides of the translation share

A sink turns a Chat chunk into frames of the client's format. It works on a `Sink`: the state, and
the frames it has pushed for this chunk. The other half of this module is the reading of a chunk's
texts: some upstreams repeat everything they have said in every delta, and
`normalizeOpenaiStreamText` takes out what is new.

The source is `streaming/openai_sink.rs` 50-151.
-/

set_option autoImplicit false

namespace LlmUniversalProxy.Streaming

open Json Lib

/-- The state and the output vector of a sink function. -/
structure Sink where
  state : StreamState
  out : List SseFrame

namespace Sink

/-- `out.push(format_sse_event(event_type, &value))`. -/
def push (k : Sink) (eventType : String) (value : Value) : Sink :=
  { k with out := k.out ++ [.event eventType value] }

/-- A change of the state. -/
def update (k : Sink) (f : StreamState → StreamState) : Sink := { k with state := f k.state }

@[simp] theorem push_state (k : Sink) (eventType : String) (value : Value) :
    (k.push eventType value).state = k.state := rfl

@[simp] theorem push_out (k : Sink) (eventType : String) (value : Value) :
    (k.push eventType value).out = k.out ++ [.event eventType value] := rfl

@[simp] theorem update_state (k : Sink) (f : StreamState → StreamState) :
    (k.update f).state = f k.state := rfl

@[simp] theorem update_out (k : Sink) (f : StreamState → StreamState) :
    (k.update f).out = k.out := rfl

end Sink

/-! ## Texts of a chunk -/

/-- `OPENAI_STREAM_CUMULATIVE_PROBE`. -/
def openaiStreamCumulativeProbe : Nat := 4096

/-- The part of `incoming` behind everything seen, when it repeats that (as far as the probe
looks). -/
def cumulativeDelta (incoming seen : String) : Option String :=
  let probe := min seen.utf8ByteSize openaiStreamCumulativeProbe
  if seen.utf8ByteSize < incoming.utf8ByteSize ∧
      (bytesOf incoming).take probe = (bytesOf seen).take probe then
    (Text.splitAtByte incoming seen.utf8ByteSize).map Prod.snd
  else none

/-- `normalize_openai_stream_text`: the new text if there is some, and all that has been seen. -/
def normalizeOpenaiStreamText (incoming seen : String) : Option String × String :=
  if incoming.isEmpty ∨ incoming = seen then (none, seen)
  else
    let delta := (cumulativeDelta incoming seen).getD incoming
    (if delta.isEmpty then none else some delta, seen ++ delta)

/-- `minimax_reasoning_details_text`. -/
def minimaxReasoningDetailsText : Option Value → Option String
  | some (.string s) => if s.isEmpty then none else some s
  | some (.array items) =>
      let joined := String.join (items.filterMap fun item => item.getStr "text")
      if joined.isEmpty then none else some joined
  | _ => none

/-- `is_minimax_chunk`. -/
def isMinimaxChunk (chunk : Value) (state : StreamState) : Bool :=
  ((chunk.getStr "model").or state.model).any fun model => Text.startsWith model "MiniMax-"

/-- `openai_chunk_reasoning_delta` (`openai_sink.rs` 120-133). -/
def openaiChunkReasoningDelta (delta : Value) (state : StreamState) :
    Option String × StreamState :=
  match (((delta.get "reasoning_content").or (delta.get "reasoning")).bind Value.asStr).or
      (minimaxReasoningDetailsText (delta.get "reasoning_details")) with
  | none => (none, state)
  | some reasoning =>
      let (new, seen) := normalizeOpenaiStreamText reasoning state.openaiSeenReasoning
      (new, { state with openaiSeenReasoning := seen })

/-- `openai_chunk_content_delta` (`openai_sink.rs` 135-138). -/
def openaiChunkContentDelta (delta : Value) (state : StreamState) :
    Option String × StreamState :=
  match delta.getStr "content" with
  | none => (none, state)
  | some content =>
      let (new, seen) := normalizeOpenaiStreamText content state.openaiSeenContent
      (new, { state with openaiSeenContent := seen })

/-- `openai_chunk_refusal_delta` (`openai_sink.rs` 140-143). -/
def openaiChunkRefusalDelta (delta : Value) (state : StreamState) :
    Option String × StreamState :=
  match delta.getStr "refusal" with
  | none => (none, state)
  | some refusal =>
      let (new, seen) := normalizeOpenaiStreamText refusal state.openaiSeenRefusal
      (new, { state with openaiSeenRefusal := seen })

/-- `openai_chunk_annotations_delta`. -/
def openaiChunkAnnotationsDelta (delta : Value) : List Value :=
  (delta.getArray "annotations").getD []

/-- `anthropic_error_event`. -/
def anthropicErrorEvent (errorType message : String) : SseFrame :=
  .event "error" (.ofFields [("type", .string "error"),
    ("error", .ofFields [("type", .string errorType), ("message", .string message)])])

end LlmUniversalProxy.Streaming
