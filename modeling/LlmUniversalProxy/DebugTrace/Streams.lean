import LlmUniversalProxy.DebugTrace.Agreement
import LlmUniversalProxy.Hooks.CaptureStream

/-!
# `DebugTrace.Streams` — two streams around one body

The stream of the debug trace is the outer one: it polls that of the hooks, and is dropped with it,
so both come upon the same. Where both look at the events, they report the same. But the stream of
the hooks does not always look, and it may have to report all the same.

The outer stream is `debug_trace.rs` 350-359 and 560-725, the inner one is `Hooks.CaptureStream`.
-/

set_option autoImplicit false

namespace LlmUniversalProxy.DebugTrace

open Json Lib Streaming Hooks

/-! ## The stream of the debug trace -/

/-- `DebugTraceStream`; `recorded` holds what it records, once it is finalized. -/
structure DebugTraceStream (τ : Type) where
  clientFormat : UpstreamFormat
  observation : Observation τ ResponseSummary
  recorded : Option (TransportOutcome × ResponseSummary) := none

namespace DebugTraceStream

variable {τ : Type} (T : StreamObservationTransform τ) (serde : Serde)

/-- `wrap_stream_inner`. -/
def new (maxTextChars : Nat) (clientFormat : UpstreamFormat) (transform : Option τ) :
    DebugTraceStream τ where
  clientFormat := clientFormat
  observation := { transform, state := .new maxTextChars }

def tell (clientFormat : UpstreamFormat) (summary : ResponseSummary) (event : Value) :
    ResponseSummary :=
  accumulateEvent clientFormat event summary

/-- `observe_chunk`. -/
def observeChunk (self : DebugTraceStream τ) (bytes : List UInt8) : DebugTraceStream τ :=
  { self with observation :=
      self.observation.observeChunk T serde (tell self.clientFormat) bytes }

/-- `finish_observation_transform`. -/
def finishObservationTransform (self : DebugTraceStream τ) : DebugTraceStream τ :=
  { self with observation :=
      self.observation.finishObservationTransform T serde (tell self.clientFormat) }

/-- `record_stream_result`, unless it was called before. -/
def record (self : DebugTraceStream τ) (transportOutcome : TransportOutcome) : DebugTraceStream τ :=
  { self with recorded := self.recorded.or (some (transportOutcome, self.observation.state)) }

/-- `poll_next`, or the drop. -/
def poll (self : DebugTraceStream τ) : StreamPoll → DebugTraceStream τ
  | .chunk bytes => self.observeChunk T serde bytes
  | .failed => self.record .streamError
  | .ended => (self.finishObservationTransform T serde).record .completedEof
  | .pending => self
  | .dropped => self.record .clientDisconnected

def run (self : DebugTraceStream τ) (polls : List StreamPoll) : DebugTraceStream τ :=
  polls.foldl (poll T serde) self

end DebugTraceStream

/-- `TraceOutcome` of the debug trace. -/
inductive TraceOutcome where
  | completed
  | incomplete
  | failed
  | clientDisconnected
  | streamError
  deriving DecidableEq, Repr

/-- `project_trace_outcome` (`debug_trace.rs` 182-198). -/
def projectTraceOutcome (transportOutcome : TransportOutcome) (summary : ResponseSummary) :
    TraceOutcome :=
  match summary.protocolTerminal with
  | some terminal =>
      match terminal.kind with
      | .success => .completed
      | .incomplete => .incomplete
      | .failed => .failed
  | none =>
      match transportOutcome with
      | .completedEof => .completed
      | .clientDisconnected => .clientDisconnected
      | .streamError => .streamError

/-- The outcome of the trace that a reason of the hooks stands for. -/
def outcomeOf : TerminationReason → TraceOutcome
  | .completed => .completed
  | .incomplete => .incomplete
  | .failed => .failed
  | .clientDisconnected => .clientDisconnected
  | .streamError => .streamError

/-! ## The events of a body -/

variable {τ : Type} (T : StreamObservationTransform τ) (serde : Serde)

def listen (events : List Value) (event : Value) : List Value := events ++ [event]

/-- The polls up to the one that ends the body: how it ends, and the events until then. -/
def bodyUntil (heard : Observation τ (List Value)) :
    List StreamPoll → Option (TransportOutcome × List Value)
  | [] => none
  | .chunk bytes :: polls => bodyUntil (heard.observeChunk T serde listen bytes) polls
  | .pending :: polls => bodyUntil heard polls
  | .failed :: _ => some (.streamError, heard.state)
  | .ended :: _ => some (.completedEof, (heard.finishObservationTransform T serde listen).state)
  | .dropped :: _ => some (.clientDisconnected, heard.state)

/-- The end of a body, and its events. -/
def bodyOf (transform : Option τ) (polls : List StreamPoll) :
    Option (TransportOutcome × List Value) :=
  bodyUntil T serde { transform, state := [] } polls

def endsStream (format : UpstreamFormat) (event : Value) : Bool :=
  match format with
  | .openAiChatCompletions => Hooks.isDone event || (Hooks.openaiProtocolTerminal event).isSome
  | .openAiResponses => (Hooks.responsesProtocolTerminal event).isSome
  | .anthropic => (Hooks.anthropicProtocolTerminal event none).isSome

/-! ## Telling instead of listening -/

section Tell

variable {α : Type} {tell : α → Value → α} {init : α}

/-- An observer that was told of what another one has heard. -/
structure Told (tell : α → Value → α) (init : α) (told : Observation τ α)
    (heard : Observation τ (List Value)) : Prop where
  transform : told.transform = heard.transform
  buffer : told.buffer = heard.buffer
  state : told.state = heard.state.foldl tell init

theorem foldl_listen (events heard : List Value) : events.foldl listen heard = heard ++ events := by
  induction events generalizing heard with
  | nil => simp
  | cons event events ih =>
    rw [List.foldl_cons, ih, listen, List.append_assoc]
    rfl

namespace Told

variable {told : Observation τ α} {heard : Observation τ (List Value)}

theorem observeBytes (h : Told tell init told heard) (bytes : List UInt8) :
    Told tell init (told.observeBytes serde tell bytes) (heard.observeBytes serde listen bytes) := by
  obtain ⟨htransform, hbuffer, hstate⟩ := h
  unfold Observation.observeBytes
  dsimp only
  rw [hbuffer]
  refine ⟨htransform, rfl, ?_⟩
  dsimp only
  rw [foldl_listen, List.foldl_append, hstate]

theorem foldl_observeBytes (h : Told tell init told heard) (observed : List (List UInt8)) :
    Told tell init (observed.foldl (Observation.observeBytes serde tell) told)
      (observed.foldl (Observation.observeBytes serde listen) heard) := by
  induction observed generalizing told heard with
  | nil => exact h
  | cons bytes observed ih => exact ih (h.observeBytes serde bytes)

theorem observeChunk (h : Told tell init told heard) (bytes : List UInt8) :
    Told tell init (told.observeChunk T serde tell bytes) (heard.observeChunk T serde listen bytes) := by
  unfold Observation.observeChunk
  rw [h.transform]
  cases heard.transform with
  | none => exact h.observeBytes serde bytes
  | some transform =>
    have hfold := h.foldl_observeBytes serde (T.transformChunk transform bytes).1
    exact ⟨rfl, hfold.buffer, hfold.state⟩

theorem finishObservationTransform (h : Told tell init told heard) :
    Told tell init (told.finishObservationTransform T serde tell)
      (heard.finishObservationTransform T serde listen) := by
  unfold Observation.finishObservationTransform
  rw [h.transform]
  cases heard.transform with
  | none => exact h
  | some transform =>
    have hfold := h.foldl_observeBytes serde (T.finish transform).1
    exact ⟨rfl, hfold.buffer, hfold.state⟩

end Told
end Tell

/-! ## What each stream reports -/

theorem DebugTraceStream.recorded_run {self : DebugTraceStream τ}
    {result : TransportOutcome × ResponseSummary} (h : self.recorded = some result)
    (polls : List StreamPoll) : (self.run T serde polls).recorded = some result := by
  induction polls generalizing self with
  | nil => exact h
  | cons poll polls ih =>
    have hrecord {observation : Observation τ ResponseSummary} {outcome : TransportOutcome} :
        (({ self with observation } : DebugTraceStream τ).record outcome).recorded =
          some result := by
      show self.recorded.or _ = _
      rw [h, Option.some_or]
    cases poll with
    | chunk bytes => exact ih h
    | pending => exact ih h
    | failed => exact ih hrecord
    | ended => exact ih hrecord
    | dropped => exact ih hrecord

/-- The debug trace records the end of the body, and what all of its events come to. -/
theorem DebugTraceStream.recorded_eq {self : DebugTraceStream τ} {init : ResponseSummary}
    {heard : Observation τ (List Value)} (hnone : self.recorded = none)
    (htold : Told (DebugTraceStream.tell self.clientFormat) init self.observation heard)
    (polls : List StreamPoll) :
    (self.run T serde polls).recorded = (bodyUntil T serde heard polls).map fun body =>
      (body.1, body.2.foldl (DebugTraceStream.tell self.clientFormat) init) := by
  induction polls generalizing self heard with
  | nil => exact hnone
  | cons poll polls ih =>
    have hrecord {observation : Observation τ ResponseSummary} {outcome : TransportOutcome} :
        (({ self with observation } : DebugTraceStream τ).record outcome).recorded =
          some (outcome, observation.state) := by
      show self.recorded.or _ = _
      rw [hnone, Option.none_or]
    cases poll with
    | chunk bytes =>
      have htold := htold.observeChunk T serde bytes
      exact ih hnone htold
    | pending => exact ih hnone htold
    | failed =>
      have hstate := htold.state
      exact (recorded_run T serde hrecord polls).trans (by rw [hstate]; rfl)
    | ended =>
      have hstate := (htold.finishObservationTransform T serde).state
      exact (recorded_run T serde hrecord polls).trans (by rw [hstate]; rfl)
    | dropped =>
      have hstate := htold.state
      exact (recorded_run T serde hrecord polls).trans (by rw [hstate]; rfl)

theorem finalized_run {self : HookCaptureStream τ} {observation : StreamObservation}
    (h : self.finalized = some observation) (polls : List StreamPoll) :
    (self.run T serde polls).finalized = some observation := by
  induction polls generalizing self with
  | nil => exact h
  | cons poll polls ih =>
    have hfinalize (outcome : TransportOutcome) :
        (self.finalize T serde outcome).finalized = some observation := by
      unfold HookCaptureStream.finalize
      rw [if_pos (by rw [h]; rfl), h]
    cases poll with
    | chunk bytes =>
      refine @ih (self.observeChunk T serde bytes) ?_
      unfold HookCaptureStream.observeChunk
      split
      · exact h
      · exact h
    | pending => exact ih h
    | failed => exact ih (hfinalize .streamError)
    | ended => exact ih (hfinalize .completedEof)
    | dropped => exact ih (hfinalize .clientDisconnected)

theorem finalized_finalize {self : HookCaptureStream τ} (hnone : self.finalized = none)
    (outcome : TransportOutcome) :
    (self.finalize T serde outcome).finalized = some ⟨outcome,
      (if outcome = .completedEof then self.finishObservationTransform T serde
        else self).observation.state.bind ClientSseAccumulator.protocolTerminal⟩ := by
  unfold HookCaptureStream.finalize
  rw [if_neg (by rw [hnone]; decide)]

/-- A stream that looks reports the end of the body, and what all of its events come to. -/
theorem finalized_observed {self : HookCaptureStream τ} {init : Option ClientSseAccumulator}
    {heard : Observation τ (List Value)} (hnone : self.finalized = none)
    (hlooks : self.config.observeEvents = true)
    (htold : Told (HookCaptureStream.tell serde) init self.observation heard)
    (polls : List StreamPoll) :
    (self.run T serde polls).finalized = (bodyUntil T serde heard polls).map fun body =>
      ⟨body.1, (body.2.foldl (HookCaptureStream.tell serde) init).bind
        ClientSseAccumulator.protocolTerminal⟩ := by
  induction polls generalizing self heard with
  | nil => exact hnone
  | cons poll polls ih =>
    cases poll with
    | chunk bytes =>
      have htold := htold.observeChunk T serde bytes
      have hchunk : self.observeChunk T serde bytes = ⟨self.config,
          self.observation.observeChunk T serde (HookCaptureStream.tell serde) bytes,
          self.finalized⟩ := if_pos hlooks
      show ((self.observeChunk T serde bytes).run T serde polls).finalized = _
      rw [hchunk]
      exact ih hnone hlooks htold
    | pending => exact ih hnone hlooks htold
    | failed =>
      refine (finalized_run T serde (finalized_finalize T serde hnone _) polls).trans ?_
      rw [if_neg (by decide), htold.state]
      rfl
    | ended =>
      have htold := htold.finishObservationTransform T serde
      have hfinish : self.finishObservationTransform T serde = ⟨self.config,
          self.observation.finishObservationTransform T serde (HookCaptureStream.tell serde),
          self.finalized⟩ := if_pos hlooks
      refine (finalized_run T serde (finalized_finalize T serde hnone _) polls).trans ?_
      rw [if_pos rfl, hfinish, htold.state]
      rfl
    | dropped =>
      refine (finalized_run T serde (finalized_finalize T serde hnone _) polls).trans ?_
      rw [if_neg (by decide), htold.state]
      rfl

/-- A stream that does not look reports the end of the body, and what it began with. -/
theorem finalized_unobserved {self : HookCaptureStream τ} (hnone : self.finalized = none)
    (hblind : self.config.observeEvents = false) (heard : Observation τ (List Value))
    (polls : List StreamPoll) :
    (self.run T serde polls).finalized = (bodyUntil T serde heard polls).map fun body =>
      ⟨body.1, self.observation.state.bind ClientSseAccumulator.protocolTerminal⟩ := by
  have hblind : ¬ self.config.observeEvents = true := by
    rw [hblind]
    decide
  have hfinalize (outcome : TransportOutcome) : (self.finalize T serde outcome).finalized =
      some ⟨outcome, self.observation.state.bind ClientSseAccumulator.protocolTerminal⟩ := by
    have hfinish : self.finishObservationTransform T serde = self := if_neg hblind
    rw [finalized_finalize T serde hnone, hfinish, ite_self]
  induction polls generalizing heard with
  | nil => exact hnone
  | cons poll polls ih =>
    cases poll with
    | chunk bytes =>
      have hchunk : self.observeChunk T serde bytes = self := if_neg hblind
      show ((self.observeChunk T serde bytes).run T serde polls).finalized = _
      rw [hchunk]
      exact ih _
    | pending => exact ih heard
    | failed => exact (finalized_run T serde (hfinalize .streamError) polls).trans rfl
    | ended => exact (finalized_run T serde (hfinalize .completedEof) polls).trans rfl
    | dropped => exact (finalized_run T serde (hfinalize .clientDisconnected) polls).trans rfl

/-! ## One request, two reports -/

theorem foldl_tell (observer : Option ClientSseAccumulator) (events : List Value) :
    events.foldl (HookCaptureStream.tell serde) observer =
      observer.bind (·.run serde events false) := by
  induction events generalizing observer with
  | nil => cases observer <;> rfl
  | cons event events ih =>
    rw [List.foldl_cons, ih]
    cases observer with
    | none => rfl
    | some accumulator => rfl

/-- The end of the stream in the summary of all events is what the observer finds in them. -/
theorem terminal_eq (format : UpstreamFormat) (maxTextChars : Nat) (events : List Value) :
    (events.foldl (HookCaptureStream.tell serde) (some (.new format))).bind
        ClientSseAccumulator.protocolTerminal =
      (events.foldl (DebugTraceStream.tell format) (.new maxTextChars)).protocolTerminal := by
  obtain ⟨last, hlast, hsame⟩ := (saySame_new format maxTextChars).run serde events
  have hformat : (ClientSseAccumulator.new format).format = format := by
    cases format <;> rfl
  rw [hformat] at hsame
  rw [foldl_tell, Option.bind_some, hlast, Option.bind_some]
  exact hsame.protocolTerminal

theorem endsStream_anthropic (event : Value) (lastStopReason : Option String) :
    (Hooks.anthropicProtocolTerminal event none).isSome =
      (Hooks.anthropicProtocolTerminal event lastStopReason).isSome := by
  unfold Hooks.anthropicProtocolTerminal
  split
  · rfl
  · rfl
  · rfl

theorem accumulateEvent_none_iff (format : UpstreamFormat) (event : Value)
    (summary : ResponseSummary) :
    (accumulateEvent format event summary).protocolTerminal = none ↔
      summary.protocolTerminal = none ∧ endsStream format event = false := by
  cases format with
  | anthropic =>
    show (accumulateClaudeEvent event summary).protocolTerminal = none ↔ _
    rw [(accumulateClaudeEvent_end event summary).2, Option.or_eq_none_iff,
      anthropicProtocolTerminal_eq, and_comm]
    unfold endsStream
    dsimp only
    rw [endsStream_anthropic event (accumulateClaudeEvent event summary).finishReason,
      Option.isSome_eq_false_iff, Option.isNone_iff_eq_none]
  | openAiResponses =>
    show (accumulateResponsesEvent event summary).protocolTerminal = none ↔ _
    rw [protocolTerminal_accumulateResponsesEvent, Option.or_eq_none_iff,
      responsesProtocolTerminal_eq, and_comm]
    unfold endsStream
    dsimp only
    rw [Option.isSome_eq_false_iff, Option.isNone_iff_eq_none]
  | openAiChatCompletions =>
    show (accumulateOpenaiCompletionEvent event summary).protocolTerminal = none ↔ _
    rw [protocolTerminal_accumulateOpenaiCompletionEvent, openaiProtocolTerminal_eq]
    unfold endsStream
    dsimp only
    by_cases hdone : Hooks.isDone event = true
    · rw [if_pos hdone, hdone]
      simp
    · rw [if_neg hdone, Option.or_eq_none_iff, and_comm, Bool.eq_false_iff.mpr hdone,
        Bool.false_or, Option.isSome_eq_false_iff, Option.isNone_iff_eq_none]

theorem terminal_none_iff (format : UpstreamFormat) (events : List Value)
    (summary : ResponseSummary) :
    (events.foldl (DebugTraceStream.tell format) summary).protocolTerminal = none ↔
      summary.protocolTerminal = none ∧ ∀ event ∈ events, endsStream format event = false := by
  induction events generalizing summary with
  | nil => simp
  | cons event events ih =>
    rw [List.foldl_cons, ih, DebugTraceStream.tell, accumulateEvent_none_iff, List.forall_mem_cons,
      and_assoc]

/-- Reports that say the same of the end of the stream also say the same of the request. -/
theorem outcome_eq {observation : StreamObservation} {transportOutcome : TransportOutcome}
    {summary : ResponseSummary} (htransport : observation.transportOutcome = transportOutcome)
    (hterminal : observation.protocolTerminal = summary.protocolTerminal) :
    outcomeOf observation.projectLegacy.terminationReason =
      projectTraceOutcome transportOutcome summary := by
  unfold StreamObservation.projectLegacy projectTraceOutcome
  rw [htransport, hterminal]
  cases summary.protocolTerminal with
  | none => cases transportOutcome <;> rfl
  | some terminal =>
    dsimp only
    cases terminal.kind <;> rfl

theorem recorded_new (format : UpstreamFormat) (maxTextChars : Nat) (transform : Option τ)
    (polls : List StreamPoll) :
    ((DebugTraceStream.new maxTextChars format transform).run T serde polls).recorded =
      (bodyOf T serde transform polls).map fun body =>
        (body.1, body.2.foldl (DebugTraceStream.tell format) (.new maxTextChars)) :=
  DebugTraceStream.recorded_eq T serde rfl ⟨rfl, rfl, rfl⟩ polls

theorem finalized_new (config : HookStreamConfig) (format : UpstreamFormat) (maxTextChars : Nat)
    (transform : Option τ) (polls : List StreamPoll) :
    ((HookCaptureStream.new config format transform).run T serde polls).finalized =
      (bodyOf T serde transform polls).map fun body => ⟨body.1, if config.observeEvents then
        (body.2.foldl (DebugTraceStream.tell format) (.new maxTextChars)).protocolTerminal
      else none⟩ := by
  cases hlooks : config.observeEvents with
  | true =>
    have htold : Told (HookCaptureStream.tell serde) (some (.new format))
        (HookCaptureStream.new config format transform).observation { transform, state := [] } :=
      ⟨rfl, rfl, rfl⟩
    rw [finalized_observed T serde rfl hlooks htold, bodyOf]
    refine congrArg (Option.map · _) (funext fun body => ?_)
    rw [terminal_eq serde format maxTextChars, if_pos rfl]
  | false =>
    have hnew : (ClientSseAccumulator.new format).protocolTerminal = none := by
      cases format <;> rfl
    rw [finalized_unobserved T serde rfl hlooks { transform, state := [] }, bodyOf]
    refine congrArg (Option.map · _) (funext fun body => ?_)
    rw [if_neg (by decide)]
    exact congrArg _ hnew

/-- **The reports of one request.** How the body ended, and whether and how its events ended the
stream, are the same in both if and only if the stream of the hooks looks at the events, or none of
them ends it. Then the reports also agree on the outcome of the request. -/
theorem observers_agree_iff (config : HookStreamConfig) (format : UpstreamFormat)
    (maxTextChars : Nat) (transform : Option τ) (polls : List StreamPoll) :
    let hook := ((HookCaptureStream.new config format transform).run T serde polls).finalized
    let debug :=
      ((DebugTraceStream.new maxTextChars format transform).run T serde polls).recorded
    let looks := config.observeEvents = true ∨ ∀ body ∈ bodyOf T serde transform polls,
      ∀ event ∈ body.2, endsStream format event = false
    (hook.map (fun observation => (observation.transportOutcome, observation.protocolTerminal)) =
        debug.map (fun result => (result.1, result.2.protocolTerminal)) ↔ looks) ∧
      (looks → hook.map (fun observation => outcomeOf observation.projectLegacy.terminationReason) =
        debug.map fun result => projectTraceOutcome result.1 result.2) := by
  dsimp only
  rw [finalized_new T serde config format maxTextChars, recorded_new, Option.map_map,
    Option.map_map, Option.map_map, Option.map_map]
  cases bodyOf T serde transform polls with
  | none => simp
  | some body =>
    have hnone := terminal_none_iff format body.2 (.new maxTextChars)
    have hlooks : (if config.observeEvents then
          (body.2.foldl (DebugTraceStream.tell format) (.new maxTextChars)).protocolTerminal
        else none) =
          (body.2.foldl (DebugTraceStream.tell format) (.new maxTextChars)).protocolTerminal ↔
        config.observeEvents = true ∨ ∀ event ∈ body.2, endsStream format event = false := by
      cases config.observeEvents with
      | true => simp
      | false =>
        rw [if_neg (by decide), eq_comm, hnone]
        simp [ResponseSummary.new]
    simp only [Option.map_some, Function.comp_apply, Option.some.injEq, Prod.mk.injEq, true_and,
      Option.mem_some_iff, forall_eq']
    exact ⟨hlooks, fun h => outcome_eq rfl (hlooks.mpr h)⟩

/-- No transform of what is observed. -/
def plainObservation : StreamObservationTransform Unit where
  transformChunk _ bytes := ([bytes], ())
  finish _ := ([], ())

/-- **A failed response that is reported as completed.** The spool file cannot be made, and there is
no usage hook: the exchange is reported all the same, but nobody has looked at the events. -/
theorem unobserved_failure_differs : ¬ ∀ (serde : Serde) (config : HookStreamConfig)
    (format : UpstreamFormat) (maxTextChars : Nat) (polls : List StreamPoll),
    config.emits = true →
      ((HookCaptureStream.new config format none).run plainObservation serde polls).finalized.map
          (fun observation => (observation.transportOutcome, observation.protocolTerminal)) =
        ((DebugTraceStream.new maxTextChars format none).run plainObservation serde
          polls).recorded.map fun result => (result.1, result.2.protocolTerminal) := by
  intro halways
  have hreports := halways ⟨some, fun _ => ""⟩ ⟨true, true, some "open spool file", false⟩
    .openAiResponses 0
    [.chunk (bytesOf "data: \x7b\"type\":\"response.failed\"\x7d\n\n"), .ended] rfl
  revert hreports
  decide +kernel

end LlmUniversalProxy.DebugTrace
