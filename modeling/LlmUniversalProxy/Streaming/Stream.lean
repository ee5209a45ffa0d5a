import LlmUniversalProxy.Streaming.Events

/-!
# `Streaming.Stream` — the two streams between an upstream body and a client

`TranslateSseStream` and `GuardedSseStream` differ in what they do with a frame. What they share
comes first: a buffer of upstream bytes, the frames that wait to be yielded, the limits, and the
loops that take frames off the buffer.

A stream asks for the clock, for ids and for the order of its hash maps when it handles a frame;
what it is told may be different for every frame, so the surroundings are given for each one of
them, by its number.

The source is `streaming/stream.rs` 30-141, 587-819 and 1012-1260.
-/

set_option autoImplicit false

namespace LlmUniversalProxy.Streaming

open Json Lib

/-- The limits of `ResourceLimits` that a stream checks by itself. -/
structure ResourceLimits where
  maxSseFrameBytes : Nat
  streamMaxEvents : Nat
  maxAccumulatedStreamStateBytes : Nat

/-- What `TranslateSseStream` and `GuardedSseStream` keep; `outputQueue` is the part of the queue
from `output_pos` on. `captureDisqualified` is the translating stream's alone. -/
structure SseStream where
  buffer : List UInt8 := []
  clientFormat : UpstreamFormat
  state : StreamState := {}
  resourceLimits : ResourceLimits
  eventsSeen : Nat := 0
  outputQueue : List SseFrame := []
  closeAfterOutput : Bool := false
  captureDisqualified : Bool := false

namespace SseStream

/-- `self.output_queue.extend(frames)`, with the state that came with the frames. -/
def extend (st : SseStream) (output : List SseFrame × StreamState) : SseStream :=
  { st with outputQueue := st.outputQueue ++ output.1, state := output.2 }

/-- `reject_stream_resource_limit`. -/
def rejectStreamResourceLimit (env : Env) (limit : StreamResourceLimit) (st : SseStream) :
    SseStream :=
  { st.extend (Streaming.rejectStreamResourceLimit env st.clientFormat st.state limit) with
    buffer := []
    closeAfterOutput := true
    captureDisqualified := true }

/-- The event counter, which stops at `usize::MAX`. -/
def registerSseEvent (st : SseStream) : SseStream :=
  { st with eventsSeen := min (st.eventsSeen + 1) (UInt64.size - 1) }

/-- `register_sse_event_or_reject`. -/
def registerSseEventOrReject (env : Env) (st : SseStream) : SseStream :=
  let st := st.registerSseEvent
  if st.eventsSeen > st.resourceLimits.streamMaxEvents then
    st.rejectStreamResourceLimit env .maxEvents
  else st

/-- `reject_if_state_too_large`. -/
def rejectIfStateTooLarge (env : Env) (st : SseStream) : SseStream :=
  if st.state.accumulatedBytes > st.resourceLimits.maxAccumulatedStreamStateBytes then
    { st with outputQueue := [] }.rejectStreamResourceLimit env .stateTooLarge
  else st

/-- A frame that must not be seen ends the stream. -/
def rejectFrame (env : Env) (message : String) (st : SseStream) : SseStream :=
  { st.extend (rejectPublicStreamToolName env st.clientFormat st.state message) with
    closeAfterOutput := true }

end SseStream

/-- What a stream does with a frame, and the event in it; with it comes whether the size of the
state is checked after it. -/
abbrev FrameHandler := Env → List UInt8 → Option Value → SseStream → SseStream × Bool

/-- The body of the loop over the frames: the last thing it does is the check of the state. -/
def handleFrame (handle : FrameHandler) (env : Env) (frame : List UInt8) (event : Option Value)
    (st : SseStream) : SseStream :=
  let (st, checked) := handle env frame event st
  if checked then st.rejectIfStateTooLarge env else st

section Drain

variable (handle : FrameHandler) (surroundings : Nat → Env)

/-- The loop over the frames of the buffer: it ends at a frame that is not complete, and at one
that closes the stream. The frames are read from the buffer behind what is consumed, which is taken
off at the end; a rejection may have cleared the buffer before that. -/
def drainLoop : Nat → SseStream → Nat → SseStream × Nat
  | 0, st, consumed => (st, consumed)
  | fuel + 1, st, consumed =>
      let env := surroundings st.eventsSeen
      match readOneSseFrame env.serde (dropSsePrefix st.buffer consumed) with
      | none => (st, consumed)
      | some (frame, event, frameEnd) =>
          let st := handleFrame handle env frame event st
          if st.closeAfterOutput then (st, consumed + frameEnd)
          else drainLoop fuel st (consumed + frameEnd)

/-- `drain_translated_frames` and `drain_validated_frames`. A frame has a byte at least, so there
are no more of them than there are bytes. -/
def drainFrames (st : SseStream) : SseStream :=
  let (st, consumed) := drainLoop handle surroundings (st.buffer.length + 1) st 0
  { st with buffer := dropSsePrefix st.buffer consumed }

/-- `reject_oversized_sse_frame`. -/
def rejectOversizedSseFrame (st : SseStream) : SseStream :=
  st.rejectStreamResourceLimit (surroundings st.eventsSeen) .sseFrameTooLarge

/-- The loop of `push_chunk_with_frame_limit`: the buffer takes as much of the chunk as a frame may
be long. -/
def pushLoop : Nat → List UInt8 → SseStream → SseStream
  | 0, _, st => st
  | fuel + 1, chunk, st =>
      if chunk.isEmpty || st.closeAfterOutput then st
      else
        let remaining := st.resourceLimits.maxSseFrameBytes - st.buffer.length
        if remaining = 0 then rejectOversizedSseFrame surroundings st
        else
          let st := drainFrames handle surroundings
            { st with buffer := st.buffer ++ chunk.take remaining }
          let st := if !st.closeAfterOutput &&
              st.buffer.length = st.resourceLimits.maxSseFrameBytes then
            rejectOversizedSseFrame surroundings st else st
          pushLoop fuel (chunk.drop remaining) st

/-- `push_chunk_with_frame_limit`. Every round takes a byte at least. -/
def pushChunkWithFrameLimit (chunk : List UInt8) (st : SseStream) : SseStream :=
  pushLoop handle surroundings (chunk.length + 1) chunk st

end Drain

/-! ## The two streams -/

/-- `sse_frame_contains_internal_artifact`. -/
def sseFrameContainsInternalArtifact (frame : List UInt8) : Bool :=
  containsInternalArtifactText (String.ofList (Utf8.fromUtf8Lossy frame))

/-- `sse_frame_has_nonempty_non_done_data`. -/
def sseFrameHasNonemptyNonDoneData (frame : List UInt8) : Bool :=
  if (dataLines frame).isEmpty then false
  else
    let data := "\n".intercalate (dataLines frame)
    !Text.isBlank data && data ≠ "[DONE]"

/-- What comes behind an event in `drain_translated_frames`: one that was fatal closes the
stream. -/
def closeIfFatal (st : SseStream) : SseStream × Bool :=
  if st.state.fatalRejection.isSome then
    ({ st with captureDisqualified := true, closeAfterOutput := true }, false)
  else (st, true)

/-- The loop body of `drain_translated_frames` (`streaming/stream.rs` 1117-1164). A frame that
cannot be read is passed over, but if it has data the stream is no longer captured: what was lost
might have belonged to the response. -/
def translateFrame (upstreamFormat : UpstreamFormat) : FrameHandler :=
  fun env frame event st =>
    let st := st.registerSseEventOrReject env
    if st.closeAfterOutput then (st, false)
    else if (sseFrameEventType frame).any containsInternalArtifactText then
      ({ st with captureDisqualified := true }.rejectFrame env internalArtifactErrorMessage, false)
    else
      match event with
      | none =>
          let st := if sseFrameHasNonemptyNonDoneData frame then
            { st with captureDisqualified := true } else st
          if sseFrameContainsInternalArtifact frame then
            ({ st with captureDisqualified := true }.rejectFrame env internalArtifactErrorMessage,
              false)
          else (st, false)
      | some event =>
          closeIfFatal
            (st.extend (translateSseEvent env upstreamFormat st.clientFormat event st.state))

/-- `canonical_sse_frame`. -/
def canonicalSseFrame (eventType : Option String) (event : Value) : SseFrame :=
  if isDone event then .done
  else
    match eventType with
    | some eventType => .event eventType event
    | none => .data event

/-- A frame of the same format, once its event is known not to leak anything. -/
def passFrame (frame : List UInt8) (event publicEvent : Value) : SseFrame :=
  if !sseFrameContainsInternalArtifact frame && publicEvent = event then .raw frame
  else canonicalSseFrame (sseFrameEventType frame) publicEvent

/-- The loop body of `drain_validated_frames` (`streaming/stream.rs` 656-729). -/
def guardFrame : FrameHandler :=
  fun env frame event st =>
    let st := st.registerSseEventOrReject env
    let pass := fun output : SseFrame => st.extend ([output], st.state)
    -- counting the event may have ended the stream
    if st.closeAfterOutput then (st, false)
    else if (sseFrameEventType frame).any containsInternalArtifactText then
      (st.rejectFrame env internalArtifactErrorMessage, false)
    else
      match event with
      -- a comment, or data that is no JSON
      | none =>
          if sseFrameContainsInternalArtifact frame then
            (st.rejectFrame env internalArtifactErrorMessage, false)
          else (pass (.raw frame), false)
      | some event =>
          if isDone event && !sseFrameContainsInternalArtifact frame then
            (pass (.raw frame), false)
          else
            -- only errors are cleaned of internal names; other events are refused for them
            let publicEvent := sanitizePublicStreamErrorEvent event
            let names := if isDone publicEvent then .ok ()
              else validatePublicStreamResponseEventToolNames st.clientFormat publicEvent
            match names with
            | .error message => (st.rejectFrame env message, false)
            | .ok _ => (pass (passFrame frame event publicEvent), true)

/-- The two streams. -/
inductive StreamKind where
  /-- `TranslateSseStream`. -/
  | translating (upstreamFormat : UpstreamFormat)
  /-- `GuardedSseStream`. -/
  | guarding

/-- `u8::is_ascii_whitespace`. -/
def isAsciiWhitespace (b : UInt8) : Bool := b ∈ ([32, 9, 10, 12, 13] : List UInt8)

namespace StreamKind

def handle : StreamKind → FrameHandler
  | translating upstreamFormat => translateFrame upstreamFormat
  | guarding => guardFrame

/-- What a stream does with what is left of the buffer when the upstream has ended: the translating
one drops it. -/
def finish : StreamKind → SseStream → SseStream
  | translating _, st => { st with
      buffer := []
      captureDisqualified := st.captureDisqualified ||
        st.buffer.any fun byte => !isAsciiWhitespace byte }
  | guarding, st => st

end StreamKind

/-! ## Polling -/

/-- The timers of `StreamLimitTimers`. -/
inductive StreamTimer where
  | maxDuration
  | idle

def StreamTimer.limit : StreamTimer → StreamResourceLimit
  | maxDuration => .maxDuration
  | idle => .idleTimeout

/-- What a stream meets when it is polled and has nothing to yield. An error of the upstream is
yielded as it is. -/
inductive Upstream where
  | expired (timer : StreamTimer)
  | chunk (bytes : List UInt8)
  | failed
  | ended

/-- What `poll_next` does with what it meets. -/
def SseStream.poll (kind : StreamKind) (surroundings : Nat → Env) (st : SseStream) :
    Upstream → SseStream
  | .expired timer => st.rejectStreamResourceLimit (surroundings st.eventsSeen) timer.limit
  | .chunk bytes => pushChunkWithFrameLimit kind.handle surroundings bytes st
  | .failed => st
  | .ended => kind.finish (drainFrames kind.handle surroundings st)

/-- `poll_next`, step by step: a frame that waits is yielded; without one, and unless the stream is
closed, the timers and the upstream are asked. -/
inductive SseStream.Step (kind : StreamKind) (surroundings : Nat → Env) :
    SseStream → Upstream ⊕ SseFrame → SseStream → Prop
  | yielded {st : SseStream} {frame : SseFrame} {rest : List SseFrame}
      (h : st.outputQueue = frame :: rest) :
      Step kind surroundings st (.inr frame) { st with outputQueue := rest }
  | polled {st : SseStream} (upstream : Upstream) (hqueue : st.outputQueue = [])
      (hopen : st.closeAfterOutput = false) :
      Step kind surroundings st (.inl upstream) (st.poll kind surroundings upstream)

/-- The frames among the labels of a run. -/
def yieldedFrames (labels : List (Upstream ⊕ SseFrame)) : List SseFrame :=
  labels.filterMap Sum.getRight?

end LlmUniversalProxy.Streaming
