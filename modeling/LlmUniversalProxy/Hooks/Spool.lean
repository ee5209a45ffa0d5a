import LlmUniversalProxy.Hooks.Accumulators
import LlmUniversalProxy.Lib.Lines
import LlmUniversalProxy.Lib.Run
import LlmUniversalProxy.Lib.U64
import LlmUniversalProxy.Streaming.WireRoundTrip

/-!
# `Hooks.Spool` — the events of a stream, kept in a file

What an exchange hook will need of a streamed response is kept in a file, up to a budget. The stream
hands the events to a thread of its own through a bounded queue, and gives up on the first that does
not fit. At the end the artifact is whole or truncated; a whole one is read back from the file, once
the thread is done, and put together by an accumulator. Stream and thread run side by side, so their
steps come in any order.

The source is `hooks.rs` 653-694 and 1213-1319. Of the file only its bytes are modelled. A write may
fail with any line, half way through it, and a flush with any front of what it had to write.
-/

set_option autoImplicit false

namespace LlmUniversalProxy.Hooks

open Json Lib Streaming

/-! ## The thread -/

/-- How far the thread has come: it takes lines; it has left its loop, and flushes what is buffered;
it is gone, and the receiver with it. -/
inductive WriterThread where
  | receiving
  | leaving
  | gone
  deriving DecidableEq, Repr

/-- `SpoolWriterHandle`, with the queue and the file behind it. What was written to the buffer gets
to the file by the flush. -/
structure SpoolWriter where
  queue : List (List UInt8) := []
  thread : WriterThread := .receiving
  error : Option String := none
  written : List UInt8 := []
  file : List UInt8 := []
  deriving DecidableEq, Repr

/-- What `try_send` answers. -/
inductive SendOutcome where
  | sent
  | full
  | disconnected
  deriving DecidableEq, Repr

namespace SpoolWriter

/-- `try_send`. -/
def trySend (self : SpoolWriter) (queueCapacity : Nat) : SendOutcome :=
  if self.thread = .gone then .disconnected
  else if self.queue.length < queueCapacity then .sent
  else .full

def push (self : SpoolWriter) (line : Option (List UInt8)) : SpoolWriter :=
  { self with queue := self.queue ++ line.toList }

def write (self : SpoolWriter) (line : List UInt8) : SpoolWriter :=
  { self with written := self.written ++ line }

/-- A line that is not written whole: the error is kept, and the thread leaves its loop. -/
def writeError (message : String) (part : Nat) (self : SpoolWriter) (line : List UInt8) :
    SpoolWriter :=
  { self with
    written := self.written ++ line.take part
    error := some ("write spool event: " ++ message)
    thread := .leaving }

end SpoolWriter

/-! ## The sink -/

/-- `EventSpoolSink`; `sender` is whether the sender is still there. -/
structure EventSpoolSink where
  format : UpstreamFormat
  budgetBytes : Nat
  capturedBytes : Nat := 0
  droppedEventCount : Nat := 0
  overflowReason : Option String := none
  sender : Bool := true
  deriving DecidableEq, Repr

/-- `exchange_capture_budget_bytes` of the runtime. -/
def exchangeCaptureBudgetBytes (maxPendingBytes : Nat) : Nat := min maxPendingBytes (32 * 1024)

def spoolLine (event : Value) : List UInt8 := Lines.writeLine (bytesOf event.toJson)

namespace EventSpoolSink

/-- `mark_overflow`. -/
def markOverflow (self : EventSpoolSink) (reason : String) : EventSpoolSink :=
  let self := if self.overflowReason.isNone then
    { self with overflowReason := some reason, sender := false } else self
  { self with droppedEventCount := saturatingAdd self.droppedEventCount 1 }

/-- `on_event`: the sink, and the line that was handed over. -/
def onEvent (self : EventSpoolSink) (trySend : SendOutcome) (event : Value) :
    Except String (EventSpoolSink × Option (List UInt8)) :=
  if self.overflowReason.isSome then
    .ok ({ self with droppedEventCount := saturatingAdd self.droppedEventCount 1 }, none)
  else
    let serialized := spoolLine event
    if self.budgetBytes < saturatingAdd self.capturedBytes serialized.length then
      .ok (self.markOverflow "capture_budget_exceeded", none)
    else if !self.sender then .error "spool writer unavailable"
    else match trySend with
      | .sent => .ok ({ self with
          capturedBytes := saturatingAdd self.capturedBytes serialized.length }, some serialized)
      | .full => .ok (self.markOverflow "capture_queue_overflow", none)
      | .disconnected => .ok (self.markOverflow "capture_writer_disconnected", none)

end EventSpoolSink

/-! ## The artifact -/

/-- `EventSpoolArtifactState`. -/
inductive EventSpoolArtifactState where
  | complete
  | truncated (reason : String) (captureBudgetBytes capturedBytes droppedEventCount : Nat)
  deriving DecidableEq, Repr

/-- `EventSpoolArtifact`; the sender of its writer is closed when the replay begins. -/
structure EventSpoolArtifact where
  format : UpstreamFormat
  state : EventSpoolArtifactState
  sender : Bool
  deriving DecidableEq, Repr

/-- `EventSpoolSink::finish`. -/
def EventSpoolSink.finish (self : EventSpoolSink) : EventSpoolArtifact where
  format := self.format
  state := match self.overflowReason with
    | some reason => .truncated reason self.budgetBytes self.capturedBytes self.droppedEventCount
    | none => .complete
  sender := self.sender

/-- A line of the file; a blank one is skipped. -/
def readSpoolLine (serde : Serde) (bytes : List UInt8) : Except String (Option Value) :=
  match Lines.fromUtf8 bytes with
  | none => .error "read spool artifact line: stream did not contain valid UTF-8"
  | some line =>
      if Text.isBlank line then .ok none
      else match fromStr serde line with
        | none => .error ("parse spool event: " ++ serde.errorText line)
        | some event => .ok (some event)

/-- The events of the file, into an accumulator; `none` is a panic. -/
def replayLines (serde : Serde) (accumulator : ClientSseAccumulator) :
    List (List UInt8) → Option (Except String ClientSseAccumulator)
  | [] => some (.ok accumulator)
  | bytes :: rest =>
      match readSpoolLine serde bytes with
      | .error message => some (.error message)
      | .ok none => replayLines serde accumulator rest
      | .ok (some event) =>
          (accumulator.onEvent serde event true).bind fun accumulator =>
            replayLines serde accumulator rest

/-- What stands in for a body that was not kept. -/
def truncatedBody (format : UpstreamFormat) (reason : String)
    (captureBudgetBytes capturedBytes droppedEventCount : Nat) (writerCompleted : Bool) : Value :=
  .ofFields [("capture_truncated", .bool true), ("reason", .string reason),
    ("client_format", .string format.display),
    ("capture_budget_bytes", .nat captureBudgetBytes), ("captured_bytes", .nat capturedBytes),
    ("dropped_event_count", .nat droppedEventCount), ("writer_completed", .bool writerCompleted)]

/-- `replay_final_response_body` (`hooks.rs` 1282-1319), behind the join of the thread. `unreadable`
is the error of a file that cannot be opened or read; `none` is a panic. -/
def EventSpoolArtifact.replayFinalResponseBody (env : Env) (unreadable : Option String)
    (self : EventSpoolArtifact) (writer : SpoolWriter) : Option (Except String Value) :=
  match self.state with
  | .truncated reason captureBudgetBytes capturedBytes droppedEventCount =>
      some (.ok (truncatedBody self.format reason captureBudgetBytes capturedBytes
        droppedEventCount writer.error.isNone))
  | .complete =>
      match writer.error.or unreadable with
      | some message => some (.error message)
      | none => (replayLines env.serde (.new self.format) (Lines.readLines writer.file)).map
          fun result => result.map (·.finalResponseBody env)

/-! ## Stream and thread together -/

/-- The sink while the stream goes on, and then the artifact. -/
inductive Capture where
  | sink (sink : EventSpoolSink)
  | artifact (artifact : EventSpoolArtifact)
  deriving DecidableEq, Repr

/-- A capture and its writer. -/
structure Spool where
  capture : Capture
  writer : SpoolWriter := {}
  deriving DecidableEq, Repr

/-- Whether the thread can still be sent to. -/
def Capture.sender : Capture → Bool
  | .sink spoolSink => spoolSink.sender
  | .artifact spoolArtifact => spoolArtifact.sender

/-- What happens next. Of an event it is said whether its line was handed over; of a write that
fails, how much of its line got through; and of a flush that fails, how much is in the file. -/
inductive SpoolAction where
  | event (event : Value) (handedOver : Bool)
  | finish
  | closeSender
  | receive
  | writeError (message : String) (part : Nat)
  | hangUp
  | flush
  | flushError (kept : Nat)
  deriving DecidableEq, Repr

namespace Spool

/-- `EventSpoolSink::new`. -/
def new (format : UpstreamFormat) (budgetBytes : Nat) : Spool := ⟨.sink { format, budgetBytes }, {}⟩

/-- An event that is observed. -/
def observe (self : Spool) (queueCapacity : Nat) (event : Value) (handedOver : Bool) :
    Option Spool :=
  match self.capture with
  | .artifact _ => none
  | .sink sink =>
      match sink.onEvent (self.writer.trySend queueCapacity) event with
      | .error _ => none
      | .ok (sink, line) =>
          if line.isSome = handedOver then some ⟨.sink sink, self.writer.push line⟩ else none

/-- A step of the thread that takes the next line off the queue. -/
def receiving (self : Spool) (write : SpoolWriter → List UInt8 → SpoolWriter) : Option Spool :=
  match self.writer.thread, self.writer.queue with
  | .receiving, line :: rest => some { self with writer := write { self.writer with queue := rest } line }
  | _, _ => none

/-- The flush, with what it leaves in the file, and the end of the thread. The outcome of the flush
is not looked at. -/
def flushing (self : Spool) (file : List UInt8) : Option Spool :=
  if self.writer.thread = .leaving then
    some { self with writer := { self.writer with thread := .gone, file } }
  else none

/-- One step of the stream or of the thread. `none` where the step cannot be taken. -/
def next (queueCapacity : Nat) (self : Spool) : SpoolAction → Option Spool
  | .event event handedOver => self.observe queueCapacity event handedOver
  | .finish =>
      match self.capture with
      | .sink sink => some { self with capture := .artifact sink.finish }
      | .artifact _ => none
  | .closeSender =>
      match self.capture with
      | .sink _ => none
      | .artifact artifact => some { self with capture := .artifact { artifact with sender := false } }
  | .receive => self.receiving .write
  | .writeError message part => self.receiving (.writeError message part)
  | .hangUp =>
      -- `recv` fails when the queue is empty and the sender gone
      if self.writer.thread = .receiving ∧ self.writer.queue = [] ∧ self.capture.sender = false then
        some { self with writer := { self.writer with thread := .leaving } }
      else none
  | .flush => self.flushing self.writer.written
  -- what a failed flush leaves behind is some beginning of what was written
  | .flushError kept => self.flushing (self.writer.written.take kept)

/-- The body that a replay answers, once the thread is gone. -/
def replayed (env : Env) (unreadable : Option String) (self : Spool) :
    Option (Except String Value) :=
  match self.capture with
  | .sink _ => none
  | .artifact artifact =>
      if self.writer.thread = .gone then
        artifact.replayFinalResponseBody env unreadable self.writer
      else none

def droppedEventCount (self : Spool) : Nat :=
  match self.capture with
  | .sink sink => sink.droppedEventCount
  | .artifact artifact =>
      match artifact.state with
      | .complete => 0
      | .truncated _ _ _ droppedEventCount => droppedEventCount

end Spool

/-- Steps with their labels. -/
def SpoolStep (queueCapacity : Nat) (s : Spool) (action : SpoolAction) (t : Spool) : Prop :=
  s.next queueCapacity action = some t

/-- The events of a run. -/
def observedEvents (actions : List SpoolAction) : List Value :=
  actions.filterMap fun
    | .event event _ => some event
    | _ => none

/-- The events of a run whose lines were handed to the writer. -/
def handedEvents (actions : List SpoolAction) : List Value :=
  actions.filterMap fun
    | .event event true => some event
    | _ => none

def acceptedBytes (actions : List SpoolAction) : Nat :=
  ((handedEvents actions).flatMap spoolLine).length

end LlmUniversalProxy.Hooks
