import LlmUniversalProxy.Hooks.Accumulators
import LlmUniversalProxy.Lib.Framing
import LlmUniversalProxy.Streaming.Wire

/-!
# `Hooks.CaptureStream` — the stream of the hooks around a body

The body of a streamed response goes through a stream that keeps a buffer of its own, takes the
events off it, and reports once: at the first poll that ends the body, or when it is dropped. It
does not look at the events when it has no use for them.

The source is `hooks.rs` 912-950 and 1488-1608.
-/

set_option autoImplicit false

namespace LlmUniversalProxy.Hooks

open Json Lib Streaming

/-! ## Observing bytes -/

/-- `StreamObservationTransform`. -/
structure StreamObservationTransform (τ : Type) where
  transformChunk : τ → List UInt8 → List (List UInt8) × τ
  finish : τ → List (List UInt8) × τ

/-- `take_one_sse_event`, until there is none. -/
def takeSseEvents (serde : Serde) (buffer : List UInt8) : List Value × List UInt8 :=
  let (frames, rest) := Framing.cutAll sseFrameEnd buffer
  (frames.filterMap (parseSseEventJson serde), rest)

/-- What a stream that observes a body has: a transform, if there is one, a buffer, and something that the events
are told to. -/
structure Observation (τ α : Type) where
  transform : Option τ
  buffer : List UInt8 := []
  state : α

namespace Observation

variable {τ α : Type} (T : StreamObservationTransform τ) (serde : Serde) (tell : α → Value → α)

/-- `observe_bytes`. -/
def observeBytes (self : Observation τ α) (bytes : List UInt8) : Observation τ α :=
  let (events, rest) := takeSseEvents serde (self.buffer ++ bytes)
  { self with buffer := rest, state := events.foldl tell self.state }

/-- `observe_chunk`. -/
def observeChunk (self : Observation τ α) (bytes : List UInt8) : Observation τ α :=
  match self.transform with
  | some transform =>
      let (observed, transform) := T.transformChunk transform bytes
      { observed.foldl (observeBytes serde tell) self with transform := some transform }
  | none => self.observeBytes serde tell bytes

/-- `finish_observation_transform`. -/
def finishObservationTransform (self : Observation τ α) : Observation τ α :=
  match self.transform with
  | some transform =>
      let (observed, transform) := T.finish transform
      { observed.foldl (observeBytes serde tell) self with transform := some transform }
  | none => self

end Observation

/-! ## The stream -/

/-- `TransportOutcome`. -/
inductive TransportOutcome where
  | completedEof
  | clientDisconnected
  | streamError
  deriving DecidableEq, Repr

/-- What a poll of the body comes upon, or its drop. -/
inductive StreamPoll where
  | chunk (bytes : List UInt8)
  | failed
  | ended
  | pending
  | dropped
  deriving DecidableEq, Repr

/-- `ExchangeCaptureMode`, but for the sink. -/
inductive ExchangeCaptureMode where
  | spooling
  | unavailable (reason : String)
  deriving DecidableEq, Repr

/-- What a stream of the hooks is made by: whether there are hooks for exchanges and for usage,
whether the breaker lets an exchange be captured, and the error of a spool file that cannot be
made. -/
structure HookStreamConfig where
  exchange : Bool
  canCaptureExchange : Bool
  spoolError : Option String
  usage : Bool
  deriving DecidableEq, Repr

namespace HookStreamConfig

/-- `exchange_capture`, as `wrap_stream_inner` sets it. -/
def exchangeCapture (self : HookStreamConfig) : Option ExchangeCaptureMode :=
  if self.exchange && self.canCaptureExchange then
    match self.spoolError with
    | none => some .spooling
    | some reason => some (.unavailable reason)
  else none

/-- `capture_enabled`. -/
def captureEnabled (self : HookStreamConfig) : Bool := self.exchangeCapture = some .spooling

/-- `observe_events`. -/
def observeEvents (self : HookStreamConfig) : Bool := self.captureEnabled || self.usage

/-- Whether `finalize` sends a report. -/
def emits (self : HookStreamConfig) : Bool := self.exchangeCapture.isSome || self.usage

end HookStreamConfig

/-- `StreamObservation`. -/
structure StreamObservation where
  transportOutcome : TransportOutcome
  protocolTerminal : Option ProtocolTerminal
  deriving DecidableEq, Repr

/-- `HookCaptureStream`; `finalized` holds what it reports. An observer that is none has panicked. -/
structure HookCaptureStream (τ : Type) where
  config : HookStreamConfig
  observation : Observation τ (Option ClientSseAccumulator)
  finalized : Option StreamObservation := none

namespace HookCaptureStream

variable {τ : Type} (T : StreamObservationTransform τ) (serde : Serde)

/-- `wrap_stream_inner`. -/
def new (config : HookStreamConfig) (clientFormat : UpstreamFormat) (transform : Option τ) :
    HookCaptureStream τ where
  config := config
  observation := { transform, state := some (.new clientFormat) }

def tell (serde : Serde) (observer : Option ClientSseAccumulator) (event : Value) :
    Option ClientSseAccumulator :=
  observer.bind (·.onEvent serde event false)

/-- `observe_chunk`. -/
def observeChunk (self : HookCaptureStream τ) (bytes : List UInt8) : HookCaptureStream τ :=
  if self.config.observeEvents then
    { self with observation := self.observation.observeChunk T serde (tell serde) bytes }
  else self

/-- `finish_observation_transform`. -/
def finishObservationTransform (self : HookCaptureStream τ) : HookCaptureStream τ :=
  if self.config.observeEvents then
    { self with observation := self.observation.finishObservationTransform T serde (tell serde) }
  else self

/-- `finalize` (`hooks.rs` 1543-1582). -/
def finalize (self : HookCaptureStream τ) (transportOutcome : TransportOutcome) :
    HookCaptureStream τ :=
  if self.finalized.isSome then self
  else
    let self := if transportOutcome = .completedEof then self.finishObservationTransform T serde
      else self
    { self with finalized := some ⟨transportOutcome,
      self.observation.state.bind ClientSseAccumulator.protocolTerminal⟩ }

/-- `poll_next`, or the drop. -/
def poll (self : HookCaptureStream τ) : StreamPoll → HookCaptureStream τ
  | .chunk bytes => self.observeChunk T serde bytes
  | .failed => self.finalize T serde .streamError
  | .ended => self.finalize T serde .completedEof
  | .pending => self
  | .dropped => self.finalize T serde .clientDisconnected

def run (self : HookCaptureStream τ) (polls : List StreamPoll) : HookCaptureStream τ :=
  polls.foldl (poll T serde) self

end HookCaptureStream

/-! ## How the report reads -/

/-- `TerminationReason` of the hooks. -/
inductive TerminationReason where
  | completed
  | incomplete
  | failed
  | clientDisconnected
  | streamError
  deriving DecidableEq, Repr

/-- `LegacyFinalizationState`. -/
structure LegacyFinalizationState where
  completed : Bool
  cancelledByClient : Bool
  partialBody : Bool
  terminationReason : TerminationReason
  deriving DecidableEq, Repr

/-- `project_legacy` (`hooks.rs` 101-145). -/
def StreamObservation.projectLegacy (self : StreamObservation) : LegacyFinalizationState :=
  match self.protocolTerminal with
  | some terminal =>
      match terminal.kind with
      | .success => ⟨true, false, false, .completed⟩
      | .incomplete => ⟨false, false, true, .incomplete⟩
      | .failed => ⟨false, false, false, .failed⟩
  | none =>
      match self.transportOutcome with
      | .completedEof => ⟨true, false, false, .completed⟩
      | .clientDisconnected => ⟨false, true, true, .clientDisconnected⟩
      | .streamError => ⟨false, false, true, .streamError⟩

end LlmUniversalProxy.Hooks
