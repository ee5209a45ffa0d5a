import LlmUniversalProxy.Streaming.ResponsesEnd
import LlmUniversalProxy.Streaming.ServerToolEcho
import LlmUniversalProxy.Streaming.TerminalOnce

/-!
# `Streaming.ResponsesProtocol` — every Responses stream keeps to the list of items

From the functions of the sink follows the chunk, from the chunk the event of a Chat upstream, and
from the events the whole stream: `responses_stream_well_formed`. It holds with names that must not
be seen, with several choices and with errors of the upstream, which all end the stream early.

The conditions are on the calls alone (`CallsInOrder`). The texts may be cut in any way.
-/

set_option autoImplicit false

namespace LlmUniversalProxy.Streaming

open Json Lib Translate

variable {env : Env} {ids : Nat → String} {p : Phase} {m₀ : ResponsesOutput} {k : Sink}

/-! ## The texts of a chunk -/

theorem reasoningDelta_state (delta : Value) (s : StreamState) :
    ∃ seen, (openaiChunkReasoningDelta delta s).2 = { s with openaiSeenReasoning := seen } := by
  unfold openaiChunkReasoningDelta
  split <;> exact ⟨_, rfl⟩

theorem contentDelta_state (delta : Value) (s : StreamState) :
    ∃ seen, (openaiChunkContentDelta delta s).2 = { s with openaiSeenContent := seen } := by
  unfold openaiChunkContentDelta
  split <;> exact ⟨_, rfl⟩

theorem refusalDelta_state (delta : Value) (s : StreamState) :
    ∃ seen, (openaiChunkRefusalDelta delta s).2 = { s with openaiSeenRefusal := seen } := by
  unfold openaiChunkRefusalDelta
  split <;> exact ⟨_, rfl⟩

/-- The reasoning, the text and the refusal of a chunk. -/
theorem ToldSoFar.texts (h : ToldSoFar env ids p m₀ k) (hopen : p.closing = false)
    (c : ResponsesChunk) :
    ToldSoFar env ids p m₀ (textsResponses env c k) := by
  unfold textsResponses
  have hreasoned : ToldSoFar env ids p m₀
      ⟨(openaiChunkReasoningDelta c.delta k.state).2, k.out⟩ := by
    obtain ⟨seen, hseen⟩ := reasoningDelta_state c.delta k.state
    rw [hseen]
    exact h.state ⟨rfl, fun _ => rfl, fun _ => rfl, fun _ => rfl⟩ rfl { h.sound with }
  have hreasoning := hreasoned.reasoning hopen c.responseId
    (openaiChunkReasoningDelta c.delta k.state).1
  simp only
  generalize reasoningResponses env c.responseId (openaiChunkReasoningDelta c.delta k.state).1
    ⟨(openaiChunkReasoningDelta c.delta k.state).2, k.out⟩ = k₁ at hreasoning ⊢
  have hread : ToldSoFar env ids p m₀ ⟨(openaiChunkRefusalDelta c.delta
      (openaiChunkContentDelta c.delta k₁.state).2).2, k₁.out⟩ := by
    obtain ⟨seen, hseen⟩ := contentDelta_state c.delta k₁.state
    obtain ⟨seen', hseen'⟩ := refusalDelta_state c.delta
      (openaiChunkContentDelta c.delta k₁.state).2
    rw [hseen', hseen]
    exact hreasoning.state ⟨rfl, fun _ => rfl, fun _ => rfl, fun _ => rfl⟩ rfl
      { hreasoning.sound with }
  exact (((hread.messageDelta c.responseId .outputText _ _).annotations c.responseId _ _)
    |>.messageDelta c.responseId .refusal _ [])

/-! ## The finish of a chunk -/

abbrev Phase.streaming (finish fatal : Option String) : Phase :=
  { finish := finish, fatal := fatal }

theorem ToldSoFar.finalize {finish fatal : Option String}
    (h : ToldSoFar env ids (.streaming finish fatal) m₀ k) (c : ResponsesChunk) :
    ToldToEnd m₀ (finalizeResponses env c k) := by
  obtain ⟨hflush, hadded⟩ := h.flushAll c.responseId
  exact hflush.terminal rfl rfl rfl hadded c.responseId c.created

/-- **The finish of a chunk**: the stream goes on, or this is its end. -/
theorem ToldSoFar.finishChunk {finish fatal : Option String}
    (h : ToldSoFar env ids (.streaming finish fatal) m₀ k) (c : ResponsesChunk)
    (hfinish : c.finishReason.isSome = true → finish = none ∨ EndsWhole c.finishReason) :
    (c.finishReason ≠ some "error" ∧
      ToldSoFar env ids (.streaming (c.finishReason.or finish) fatal) m₀
        (finishResponses env c k)) ∨
    ToldToEnd m₀ (finishResponses env c k) := by
  have heq := finishResponses_eq env c k
  generalize (c.chunk.get "usage").or k.state.usage = usage at heq
  have hfinished : ToldSoFar env ids (.streaming (c.finishReason.or finish) fatal) m₀
      { k with state := { k.state with
        usage := usage
        finishReason := c.finishReason.or k.state.finishReason } } := by
    refine h.state ⟨rfl, fun _ => rfl, fun _ => rfl, fun _ => rfl⟩ rfl
      { h.sound with
        finish := congrArg (c.finishReason.or ·) h.sound.finish
        settled := ?_ }
    -- calls that are done already were finished by a reason that leaves the response whole
    intro hclosing t entry hlookup hdone
    have hwhole := h.sound.settled hclosing t entry hlookup hdone
    cases hreason : c.finishReason with
    | none => exact hwhole
    | some reason =>
      rw [hreason] at hfinish
      rcases hfinish rfl with hnone | hends
      · cases hnone
        cases hwhole.1
      · exact hends
  rw [heq]
  generalize ({ k with state := { k.state with
    usage := usage, finishReason := c.finishReason.or k.state.finishReason } } : Sink) = k₁
    at hfinished
  unfold concludeResponses
  split
  · exact .inr (hfinished.finalize c)
  · next hnoError =>
    have herror : c.finishReason ≠ some "error" := fun herror => hnoError (.inr (.inl herror))
    have hcalls : ToldSoFar env ids (.streaming (c.finishReason.or finish) fatal) m₀
        (if c.finishReason = some "tool_calls" then
          (emitPendingResponsesToolCallDoneEvents env c.responseId ⟨none, false⟩ false
            (flushPendingResponsesToolCalls env c.responseId true k₁)).2 else k₁) := by
      split
      · next htools =>
        obtain ⟨hflush, hadded⟩ := hfinished.flushAll c.responseId
        refine (hflush.pendingDone c.responseId false hadded ?_).2.1
        intro _
        show EndsWhole (c.finishReason.or finish)
        rw [htools]
        exact ⟨rfl, rfl⟩
      · exact hfinished
    generalize (if c.finishReason = some "tool_calls" then _ else _) = k₂ at hcalls ⊢
    dsimp only
    split
    · exact .inr (hcalls.finalize c)
    · exact .inl ⟨herror, hcalls⟩

/-! ## A chunk -/

/-- The calls and the finish of a chunk, behind this finish. -/
structure ChunkFits (ids : Nat → String) (finish : Option String) (chunk : Value) : Prop where
  calls : ∀ tc ∈ callsOf chunk, finish = none ∧ CallDelta ids tc
  finish : (finishReasonOf chunk).isSome = true → finish = none ∨ EndsWhole (finishReasonOf chunk)

theorem ToldSoFar.chunk {finish fatal : Option String} {chunk : Value} {s : StreamState}
    (hids : Function.Injective ids) (hopen : s.responsesTerminalSent = false)
    (h : ToldSoFar env ids (.streaming finish fatal) m₀
      (startResponses (responsesChunk chunk (captureError chunk s))
        ⟨captureModel chunk (captureError chunk s), []⟩))
    (hfits : ChunkFits ids finish chunk) :
    let output := openaiChunkToResponsesSse env chunk s
    (finishReasonOf chunk ≠ some "error" ∧
      ToldSoFar env ids (.streaming ((finishReasonOf chunk).or finish) fatal) m₀
        ⟨output.2, output.1⟩) ∨ ToldToEnd m₀ ⟨output.2, output.1⟩ := by
  unfold openaiChunkToResponsesSse
  rw [if_neg (by simp [hopen])]
  have htools := (h.texts rfl (responsesChunk chunk (captureError chunk s))).toolCallsDelta hids
    rfl rfl (c := responsesChunk chunk (captureError chunk s)) hfits.calls
  simp only
  generalize Streaming.toolCallsDelta env _ _ = result at htools ⊢
  cases result with
  | error k' => exact .inr htools
  | ok k' =>
    exact ToldSoFar.finishChunk htools (responsesChunk chunk (captureError chunk s)) hfits.finish

/-! ## Between two events -/

/-- The state of a stream of which nothing has been told. -/
structure Fresh (finish fatal : Option String) (s : StreamState) : Prop where
  unstarted : s.responsesStarted = false
  seq : s.responsesSeq = 0
  running : s.responsesTerminalSent = false
  finish : s.finishReason = finish
  fatal : s.fatalRejection = fatal
  reasoning : s.responsesReasoningAdded = false ∧ s.responsesReasoningDone = false ∧
    s.responsesReasoningOutputIndex = none
  message : s.outputItemAdded = false ∧ s.responsesMessageOutputIndex = none
  parts : s.responsesTextPartIndex = none ∧ s.responsesRefusalPartIndex = none
  calls : s.openaiToolCalls = ∅
  past : s.responsesCompletedMessageItems = []

/-- The board of such a state is empty. -/
theorem Fresh.board {finish fatal : Option String} {s : StreamState} (h : Fresh finish fatal s)
    (context : TerminalContext) (carrier : Option String) (holder : Holder) :
    (board env context carrier s).index holder = none ∧
      (board env context carrier s).opened holder = none ∧
      (board env context carrier s).done holder = none := by
  cases holder with
  | reasoning => simp [Streaming.board, h.reasoning]
  | message => simp [Streaming.board, h.message]
  | past n => simp [Streaming.board, h.past]
  | call t => simp [Streaming.board, h.calls]

/-- The response is created, and in progress. -/
theorem Fresh.start {finish fatal : Option String} {s : StreamState} (h : Fresh finish fatal s)
    (c : ResponsesChunk) :
    ToldSoFar env ids (.streaming finish fatal) {} (startResponses c ⟨s, []⟩) := by
  unfold startResponses
  rw [if_neg (by simp [h.unstarted])]
  refine ⟨⟨{ seq := 2 }, ?_, rfl, ?_, .empty fun holder => ?_⟩, ?_⟩
  · simp [Sink.emit, ResponsesOutput.step, List.lookup_cons, h.seq]
  · exact congrArg (· + 2) h.seq.symm
  · cases holder with
    | reasoning => exact h.reasoning.2.2
    | message => exact h.message.2
    | past n => rfl
    | call t => simp [Streaming.board, Sink.emit, h.calls]
  · refine
      { started := Nat.le_add_left 2 _
        created := rfl
        running := h.running
        finish := h.finish
        fatal := h.fatal
        reasoning := fun hcontra => ?_
        reasoningDone := h.reasoning.2.1
        message := fun hcontra => ?_
        parts := fun kind index hexisting => ?_
        filled := fun _ hcontra => ?_
        calls := fun t entry hlookup => ?_
        settled := fun _ t entry hlookup => ?_ }
    · exact absurd (hcontra.symm.trans h.reasoning.1) (by decide)
    · exact absurd (hcontra.symm.trans h.message.1) (by decide)
    · cases kind with
      | outputText => exact absurd (hexisting.symm.trans h.parts.1) (by simp)
      | refusal => exact absurd (hexisting.symm.trans h.parts.2) (by simp)
    · exact absurd (hcontra.symm.trans h.message.1) (by decide)
    · have hlookup' : s.openaiToolCalls.lookup t = some entry := hlookup
      rw [h.calls] at hlookup'
      cases hlookup'
    · have hlookup' : s.openaiToolCalls.lookup t = some entry := hlookup
      rw [h.calls] at hlookup'
      cases hlookup'

/-- A stream of which nothing has been told ends at once, and repeats nothing. -/
theorem Fresh.done {finish fatal : Option String} {s : StreamState} (h : Fresh finish fatal s) :
    ToldToEnd {} ⟨(responsesDone env s).2, (responsesDone env s).1⟩ := by
  have hkeys : sortedKeys s.openaiToolCalls = [] := by
    unfold sortedKeys
    rw [h.calls]
    exact List.mergeSort_nil
  have hflush : ∀ responseId, flushPendingResponsesToolCalls env responseId true ⟨s, []⟩ =
      ⟨s, []⟩ := by
    intro responseId
    unfold flushPendingResponsesToolCalls
    rw [hkeys]
    rfl
  have hreasoned : ∀ responseId carrier, emitReasoningDone responseId carrier ⟨s, []⟩ =
      ⟨s, []⟩ := by
    intro responseId carrier
    simp [emitReasoningDone, h.reasoning.1]
  have hpending : ∀ responseId context,
      emitPendingResponsesToolCallDoneEvents env responseId context true ⟨s, []⟩ =
        ([], ⟨s, []⟩) := by
    intro responseId context
    unfold emitPendingResponsesToolCallDoneEvents
    rw [hkeys]
    rfl
  have hmessage : ∀ responseId phase, emitResponsesMessageDone responseId phase ⟨s, []⟩ =
      ⟨s, []⟩ := by
    intro responseId phase
    simp [emitResponsesMessageDone, h.message.1]
  unfold responsesDone
  rw [if_neg (by simp [h.running])]
  unfold emitOpenaiResponsesTerminal appendDegradedTexts
  simp only [hflush, hreasoned, hpending, hmessage, List.isEmpty_nil, if_true]
  refine toldToEnd_terminalEvent (p := { context := _, carrier := _ })
    (.nil ⟨rfl, h.seq.symm, .empty fun holder => (h.board _ _ holder).1⟩) ?_ ?_ _ _
  · unfold settleReasoningOutputIndex
    rw [if_neg (by simp [h.reasoning.1])]
  · intro m hm
    obtain ⟨hopened, hdone⟩ := hm.items.eq_empty fun holder => (h.board _ _ holder).1
    refine ⟨hopened, ?_⟩
    rw [hdone]
    unfold terminalOutput
    rw [h.calls, hashWalk_empty, h.past, if_neg (by simp [h.reasoning.1])]
    simp [Slots.inOrder]

/-! ## An event -/

/-- The stream is open, with what its state has for the finish reason and the rejection. -/
def Open (env : Env) (ids : Nat → String) (finish fatal : Option String) (m : ResponsesOutput)
    (s : StreamState) : Prop :=
  (m = {} ∧ Fresh finish fatal s) ∨ ToldSoFar env ids (.streaming finish fatal) m ⟨s, []⟩

/-- Between two events the stream is open, or it is over. -/
def OpenOrEnded (env : Env) (ids : Nat → String) (finish : Option String) (m : ResponsesOutput)
    (s : StreamState) : Prop :=
  Open env ids finish none m s ∨ (m.ended = true ∧ s.responsesTerminalSent = true)

section Events

variable {finish fatal : Option String} {m : ResponsesOutput} {s : StreamState}

theorem Open.running (h : Open env ids finish fatal m s) : s.responsesTerminalSent = false := by
  rcases h with ⟨-, hfresh⟩ | htold
  · exact hfresh.running
  · exact htold.sound.running

theorem Open.refusal (h : Open env ids finish fatal m s) : s.fatalRejection = fatal := by
  rcases h with ⟨-, hfresh⟩ | htold
  · exact hfresh.fatal
  · exact htold.sound.fatal

/-- What the response is called and what it has used is not told of. -/
theorem Open.capture (h : Open env ids finish fatal m s) (messageId model : Option String)
    (usage error : Option Value) (choice : Option Nat) :
    Open env ids finish fatal m { s with
      messageId := messageId, model := model, usage := usage, openaiTerminalError := error
      openaiChoiceIndex := choice } := by
  rcases h with ⟨hm, hfresh⟩ | htold
  · exact .inl ⟨hm, { hfresh with }⟩
  · exact .inr (htold.state ⟨rfl, fun _ => rfl, fun _ => rfl, fun _ => rfl⟩ rfl
      { htold.sound with })

/-- A rejection of the stream, before it is told. -/
theorem Open.reject (h : Open env ids finish fatal m s) (message : String) (sent : Bool) :
    Open env ids (some "error") (fatal.or (some message)) m { s with
      fatalRejection := s.fatalRejection.or (some message)
      finishReason := some "error"
      finishReasonSent := sent } := by
  have hfatal : s.fatalRejection.or (some message) = fatal.or (some message) := by
    rw [h.refusal]
  rcases h with ⟨hm, hfresh⟩ | htold
  · exact .inl ⟨hm, { hfresh with finish := rfl, fatal := hfatal }⟩
  · exact .inr (htold.state ⟨rfl, fun _ => rfl, fun _ => rfl, fun _ => rfl⟩ rfl
      { htold.sound with
        finish := rfl
        fatal := hfatal
        settled := fun _ _ _ _ _ => ⟨rfl, rfl⟩ })

theorem captureError_state (chunk : Value) (s : StreamState) :
    ∃ error, captureError chunk s = { s with openaiTerminalError := error } := by
  unfold captureError
  split <;> exact ⟨_, rfl⟩

theorem Open.start (h : Open env ids finish fatal m s) (chunk : Value) :
    ToldSoFar env ids (.streaming finish fatal) m
      (startResponses (responsesChunk chunk (captureError chunk s))
        ⟨captureModel chunk (captureError chunk s), []⟩) := by
  obtain ⟨error, herror⟩ := captureError_state chunk s
  obtain ⟨model, hmodel, -⟩ := captureModel_eq chunk (captureError chunk s)
  have hcaptured : Open env ids finish fatal m (captureModel chunk (captureError chunk s)) := by
    rw [hmodel, herror]
    exact h.capture s.messageId model s.usage error s.openaiChoiceIndex
  rcases hcaptured with ⟨rfl, hfresh⟩ | htold
  · exact hfresh.start _
  · unfold startResponses
    rw [if_pos htold.sound.created]
    exact htold

/-- What has been told stays told when nothing more is. -/
theorem ToldSoFar.rest {q : Phase} {m : ResponsesOutput} (h : ToldSoFar env ids q m k) :
    Monitor.Tracks ResponsesOutput.step (fun m s => ToldSoFar env ids q m ⟨s, []⟩) m k.out
      k.state := by
  obtain ⟨m', htold, hknows⟩ := h.tracks
  exact ⟨m', htold, .nil hknows, h.sound⟩

theorem openaiChunks_single (env : Env) (chunk : Value) (s : StreamState) :
    openaiChunksToClientSse env .openAiResponses [chunk] s =
      openaiChunkToResponsesSse env chunk s := by
  show ((openaiChunkToResponsesSse env chunk s).1 ++ [], _) = _
  rw [List.append_nil]
  rfl

/-- What is read of a chunk's choice is not changed by another field. -/
theorem firstChoice_set {key : String} (hkey : key ≠ "choices") (chunk value : Value) :
    firstChoice (chunk.set key value) = firstChoice chunk := by
  unfold firstChoice Value.getArray
  rw [Value.get_set_of_ne _ _ (Ne.symm hkey)]

theorem firstChoice_openaiChunk (env : Env) (s : StreamState) (delta : Value)
    (finishReason : Option String) : firstChoice (openaiChunk env s delta finishReason) =
      some (.ofFields [("index", .nat 0), ("delta", delta),
        ("finish_reason", .ofOptionStr finishReason)]) := by
  unfold firstChoice openaiChunk
  rw [Value.getArray, Value.get_ofFields]
  rfl

/-- The chunk of a rejection has no calls, and its finish reason is the error. -/
theorem rejectOpenaiStream_chunk (env : Env) (s : StreamState) (errorType code message : String) :
    ∃ chunk, rejectOpenaiStream env s errorType code message = ([chunk], { s with
        fatalRejection := s.fatalRejection.or (some (sanitizePublicErrorMessage message))
        finishReason := some "error"
        finishReasonSent := true }) ∧
      finishReasonOf chunk = some "error" ∧ callsOf chunk = [] := by
  refine ⟨_, rfl, ?_, ?_⟩
  · unfold finishReasonOf
    rw [firstChoice_set (by decide)]
    split
    · rw [firstChoice_set (by decide), firstChoice_openaiChunk]
      simp [Value.getStr, Value.ofOptionStr, List.lookup_cons]
    · rw [firstChoice_openaiChunk]
      simp [Value.getStr, Value.ofOptionStr, List.lookup_cons]
  · unfold callsOf
    rw [firstChoice_set (by decide)]
    split
    · rw [firstChoice_set (by decide), firstChoice_openaiChunk]
      simp [Value.getArray, List.lookup_cons]
    · rw [firstChoice_openaiChunk]
      simp [Value.getArray, List.lookup_cons]

/-- **A chunk of an open stream.** -/
theorem Open.chunk (h : Open env ids finish none m s) (hids : Function.Injective ids)
    {chunk : Value} (hfits : ChunkFits ids finish chunk) :
    let output := openaiChunksToClientSse env .openAiResponses [chunk] s
    Monitor.Tracks ResponsesOutput.step (OpenOrEnded env ids ((finishReasonOf chunk).or finish)) m
      output.1 output.2 := by
  rw [openaiChunks_single]
  rcases ToldSoFar.chunk hids h.running (h.start chunk) hfits with ⟨-, htold⟩ | hended
  · exact htold.rest.update fun m' hm' => .inl (.inr hm')
  · exact hended.update fun m' hm' => .inr hm'

theorem Open.lastChunk (h : Open env ids finish fatal m s) (hids : Function.Injective ids)
    {chunk : Value} (hreason : finishReasonOf chunk = some "error") (hcalls : callsOf chunk = []) :
    let output := openaiChunksToClientSse env .openAiResponses [chunk] s
    ToldToEnd m ⟨output.2, output.1⟩ := by
  have hfits : ChunkFits ids finish chunk := by
    refine ⟨?_, fun _ => .inr (hreason ▸ ⟨rfl, rfl⟩)⟩
    rw [hcalls]
    intro tc hmem
    cases hmem
  rw [openaiChunks_single]
  rcases ToldSoFar.chunk hids h.running (h.start chunk) hfits with ⟨hnoError, -⟩ | hended
  · exact absurd hreason hnoError
  · exact hended

/-- A stream that is rejected is told to its end. -/
theorem Open.rejected (h : Open env ids finish fatal m s) (hids : Function.Injective ids)
    (errorType code message : String) :
    let refused := rejectOpenaiStream env s errorType code message
    let output := openaiChunksToClientSse env .openAiResponses refused.1 refused.2
    ToldToEnd m ⟨output.2, output.1⟩ := by
  obtain ⟨chunk, hrefused, hreason, hcalls⟩ := rejectOpenaiStream_chunk env s errorType code message
  rw [hrefused]
  exact (h.reject (sanitizePublicErrorMessage message) true).lastChunk hids hreason hcalls

/-- The stream goes on with the event as a chunk, or with the chunk of a rejection. -/
theorem Open.single (h : Open env ids finish none m s) (event : Value) :
    ∃ chunk s', ensureSingleOpenaiChoice env event s = ([chunk], s') ∧
      ((chunk = event ∧ Open env ids finish none m s') ∨
        (finishReasonOf chunk = some "error" ∧ callsOf chunk = [] ∧
          ∃ finish' fatal', Open env ids finish' fatal' m s')) := by
  have hcaptured : Open env ids finish none m (captureChunk event s) :=
    h.capture _ _ _ s.openaiTerminalError s.openaiChoiceIndex
  have hrefused : ∃ chunk s',
      rejectOpenaiMultiChoiceForNonOpenaiSink env (captureChunk event s) = ([chunk], s') ∧
      ((chunk = event ∧ Open env ids finish none m s') ∨
        (finishReasonOf chunk = some "error" ∧ callsOf chunk = [] ∧
          ∃ finish' fatal', Open env ids finish' fatal' m s')) := by
    obtain ⟨chunk, hchunk, hreason, hcalls⟩ := rejectOpenaiStream_chunk env (captureChunk event s)
      "invalid_request_error" "unsupported_openai_stream_event"
      "OpenAI streaming response with multiple choices cannot be translated losslessly."
    exact ⟨chunk, _, hchunk, .inr ⟨hreason, hcalls, _, _, hcaptured.reject _ true⟩⟩
  unfold ensureSingleOpenaiChoice
  split
  · exact ⟨event, _, rfl, .inl ⟨rfl, hcaptured⟩⟩
  · dsimp only
    split
    · exact hrefused
    · exact ⟨event, _, rfl, .inl ⟨rfl,
        hcaptured.capture _ _ _ (captureChunk event s).openaiTerminalError (some 0)⟩⟩
  · exact hrefused

theorem finishReasonOf_noChunk {event : Value} (hdone : isDone event = false)
    (hevent : openaiEventAsChunk event = none) : finishReasonOf event = none := by
  unfold openaiEventAsChunk at hevent
  rw [hdone, if_neg Bool.false_ne_true] at hevent
  have hchoices : ¬ ((event.getArray "choices").any fun choices => !choices.isEmpty) = true := by
    intro hchoices
    rw [hchoices, Bool.or_true, if_pos rfl] at hevent
    cases hevent
  unfold finishReasonOf firstChoice
  cases hfirst : event.getArray "choices" with
  | none => rfl
  | some choices =>
    cases choices with
    | nil => rfl
    | cons choice choices =>
      rw [hfirst] at hchoices
      exact absurd rfl hchoices

theorem openaiEventAsChunk_eq {event chunk : Value} (h : openaiEventAsChunk event = some chunk) :
    event = chunk := by
  unfold openaiEventAsChunk at h
  split at h
  · cases h
  · split at h
    · exact Option.some.inj h
    · cases h

/-- `[DONE]` ends a stream that is open. -/
theorem Open.done (h : Open env ids finish none m s) :
    ToldToEnd m ⟨(responsesDone env s).2, (responsesDone env s).1⟩ := by
  rcases h with ⟨rfl, hfresh⟩ | htold
  · exact hfresh.done
  · unfold responsesDone
    have hrunning : s.responsesTerminalSent = false := htold.sound.running
    rw [if_neg (by simp [hrunning])]
    obtain ⟨hflush, hadded⟩ := htold.flushAll (s.responsesResponseId s.messageId)
    exact hflush.terminal rfl rfl rfl hadded _ 0

theorem ToldToEnd.openOrEnded {k : Sink} (h : ToldToEnd m k) (finish : Option String) :
    Monitor.Tracks ResponsesOutput.step (OpenOrEnded env ids finish) m k.out k.state :=
  h.update fun _ hm => .inr hm

/-- **An event of a Chat upstream.** -/
theorem OpenOrEnded.event (h : OpenOrEnded env ids finish m s) (hids : Function.Injective ids)
    {event : Value}
    (hfits : ChunkFits ids finish event) :
    let output := translateSseEvent env .openAiChatCompletions .openAiResponses event s
    Monitor.Tracks ResponsesOutput.step (OpenOrEnded env ids ((finishReasonOf event).or finish)) m
      output.1 output.2 := by
  rcases h with hopen | ⟨hended, hsent⟩
  · unfold translateSseEvent
    rw [if_neg (by simp [hopen.refusal])]
    split
    · exact hopen.done.openOrEnded _
    · next hdone =>
      rw [if_neg (by simp), if_neg (by decide)]
      have hdone : isDone event = false := by simpa using hdone
      unfold convertSseEvent
      dsimp only
      split
      · exact (hopen.rejected hids _ _ _).openOrEnded _
      · unfold upstreamChunks
        cases hchunk : openaiEventAsChunk event with
        | none =>
          rw [finishReasonOf_noChunk hdone hchunk]
          exact .nil (.inl hopen)
        | some chunk =>
          obtain rfl := openaiEventAsChunk_eq hchunk
          obtain ⟨chunk', s', hsingle, hnext⟩ := hopen.single event
          simp only [if_neg (show ¬ UpstreamFormat.openAiResponses = .openAiChatCompletions
            by decide), hsingle]
          unfold validateOpenaiChunks
          split
          · rcases hnext with ⟨rfl, hopen'⟩ | ⟨hreason, hcalls, finish', fatal', hopen'⟩
            · exact hopen'.chunk hids hfits
            · exact (hopen'.lastChunk hids hreason hcalls).openOrEnded _
          · rcases hnext with ⟨-, hopen'⟩ | ⟨-, -, finish', fatal', hopen'⟩
            · exact (hopen'.rejected hids _ _ _).openOrEnded _
            · exact (hopen'.rejected hids _ _ _).openOrEnded _
  · have hquiet : EndsProperly s
        (translateSseEvent env .openAiChatCompletions .openAiResponses event s) :=
      translated_endsProperly env event s (by decide)
        (fun hcontra => by simp [isUpstreamError] at hcontra)
    obtain ⟨hsilent, hstill⟩ := hquiet.silent hsent
    dsimp only
    rw [hsilent]
    exact .nil (.inr ⟨hended, hstill⟩)

/-- The surroundings of the next event may be others: a call that is done was done whole. -/
theorem OpenOrEnded.envOf (h : OpenOrEnded env ids finish m s) (env' : Env) :
    OpenOrEnded env' ids finish m s := by
  rcases h with (⟨hm, hfresh⟩ | htold) | hended
  · exact .inl (.inl ⟨hm, hfresh⟩)
  · refine .inl (.inr ⟨htold.tracks.update ?_, htold.sound⟩)
    intro m' hm'
    refine ⟨hm'.running, hm'.seq,
      hm'.items.congr rfl (fun _ => rfl) (fun _ => rfl) fun holder => ?_⟩
    cases holder with
    | reasoning => rfl
    | message => rfl
    | past n => rfl
    | call t =>
      show (s.openaiToolCalls.lookup t).bind _ = (s.openaiToolCalls.lookup t).bind _
      refine congrArg _ (funext fun entry => ?_)
      unfold ToolCallState.finalItem doneItem nonReplayableField toolCallShouldBeMarkedNonReplayable
      simp
  · exact .inr hended

end Events

/-! ## A stream -/

/-- What a Chat stream has to keep to: different indices have different ids, every delta of a call
has the id of its index or none, and carries no marker (`CallDelta`), and behind a chunk with a
finish reason there is neither a delta of a call nor another finish reason. Texts, reasoning,
annotations, usage, errors and further choices may come as they like. -/
structure CallsInOrder (ids : Nat → String) (events : List Value) : Prop where
  distinct : Function.Injective ids
  named : ∀ event ∈ events, ∀ tc ∈ callsOf event, CallDelta ids tc
  finished : events.Pairwise fun event later => (finishReasonOf event).isSome = true →
    callsOf later = [] ∧ finishReasonOf later = none

theorem openOrEnded_run (hids : Function.Injective ids) (env : Env) (events : List (Env × Value)) :
    ∀ {finish : Option String} {m : ResponsesOutput} {s : StreamState},
      OpenOrEnded env ids finish m s →
      (∀ event ∈ events.map Prod.snd, ∀ tc ∈ callsOf event, CallDelta ids tc) →
      (finish.isSome = true → ∀ event ∈ events.map Prod.snd,
        callsOf event = [] ∧ finishReasonOf event = none) →
      ((events.map Prod.snd).Pairwise fun event later => (finishReasonOf event).isSome = true →
        callsOf later = [] ∧ finishReasonOf later = none) →
      let output := translatedRun .openAiChatCompletions .openAiResponses events s
      Monitor.Tracks ResponsesOutput.step (fun m s => ∃ finish, OpenOrEnded env ids finish m s) m
        output.1 output.2 := by
  induction events with
  | nil => exact fun h _ _ _ => .nil ⟨_, h⟩
  | cons event events ih =>
    intro finish m s h hnamed hlate hfinished
    obtain ⟨env', event⟩ := event
    obtain ⟨hfirst, hrest⟩ := List.pairwise_cons.mp hfinished
    have hfits : ChunkFits ids finish event := by
      have hearly : ∀ reason, finish = some reason →
          callsOf event = [] ∧ finishReasonOf event = none := by
        rintro reason rfl
        exact hlate rfl event List.mem_cons_self
      cases hreason : finish with
      | none =>
        exact ⟨fun tc htc => ⟨rfl, hnamed event List.mem_cons_self tc htc⟩, fun _ => .inl rfl⟩
      | some reason =>
        obtain ⟨hcalls, hnone⟩ := hearly reason hreason
        refine ⟨fun tc htc => ?_, fun hsome => ?_⟩
        · rw [hcalls] at htc
          cases htc
        · rw [hnone] at hsome
          cases hsome
    have hnext := ((h.envOf env').event hids hfits).update fun m' hm' => hm'.envOf env
    unfold translatedRun
    refine hnext.append ?_
    intro m' hm'
    refine ih hm' (fun later hlater => hnamed later (List.mem_cons_of_mem _ hlater)) ?_ hrest
    intro hsome later hlater
    cases hreason : finishReasonOf event with
    | some reason => exact hfirst later hlater (by rw [hreason]; rfl)
    | none =>
      rw [hreason, Option.none_or] at hsome
      exact hlate hsome later (List.mem_cons_of_mem _ hlater)

theorem translatedRun_append (upstreamFormat clientFormat : UpstreamFormat)
    (events more : List (Env × Value)) (s : StreamState) :
    translatedRun upstreamFormat clientFormat (events ++ more) s =
      let output := translatedRun upstreamFormat clientFormat events s
      let rest := translatedRun upstreamFormat clientFormat more output.2
      (output.1 ++ rest.1, rest.2) := by
  induction events generalizing s with
  | nil => rfl
  | cons event events ih =>
    obtain ⟨env, event⟩ := event
    simp only [List.cons_append, translatedRun, ih, List.append_assoc]

/-- `[DONE]`: an open stream ends with it, and one that has ended is told nothing more. -/
theorem OpenOrEnded.done {finish : Option String} {m : ResponsesOutput} {s : StreamState}
    (h : OpenOrEnded env ids finish m s) {done : Value} (hdone : isDone done = true) :
    let output := translatedRun .openAiChatCompletions .openAiResponses [(env, done)] s
    Monitor.Tracks ResponsesOutput.step (fun m _ => m.ended = true) m output.1 output.2 := by
  show Monitor.Tracks _ _ _
    ((translateSseEvent env .openAiChatCompletions .openAiResponses done s).1 ++ []) _
  rw [List.append_nil]
  rcases h with hopen | ⟨hended, hsent⟩
  · unfold translateSseEvent
    rw [if_neg (by simp [hopen.refusal]), if_pos ⟨rfl, rfl, hdone⟩]
    exact hopen.done.update fun _ hm => hm.1
  · have hquiet : EndsProperly s
        (translateSseEvent env .openAiChatCompletions .openAiResponses done s) :=
      translated_endsProperly env done s (by decide)
        (fun hcontra => by simp [isUpstreamError] at hcontra)
    rw [(hquiet.silent hsent).1]
    exact .nil hended

/-- The state that a stream of a Responses client starts with. -/
def responsesStreamStart (bridgeContext : Option Value) (responseId : Option String) :
    StreamState where
  requestScopedToolBridgeContext := bridgeContext
  responsesResponseIdOverride := responseId

/-- **A Responses client can follow every stream of a Chat upstream** whose calls are in order: the
events are numbered, each item is added under an index of its own, spoken of while it is open and
done once, and the stream ends with an event that repeats the items as they were done, or with a
failure. The state may start with any tool bridge and any id for the response. -/
theorem responses_stream_well_formed {ids : Nat → String} {events : List (Env × Value)}
    (h : CallsInOrder ids (events.map Prod.snd)) (env : Env) {done : Value}
    (hdone : isDone done = true) (bridgeContext : Option Value) (responseId : Option String) :
    ∃ m, (translatedRun .openAiChatCompletions .openAiResponses (events ++ [(env, done)])
      (responsesStreamStart bridgeContext responseId)).1.foldlM ResponsesOutput.step {} = some m ∧
        m.ended = true := by
  have hstart : OpenOrEnded env ids none {} (responsesStreamStart bridgeContext responseId) :=
    .inl (.inl ⟨rfl, ⟨rfl, rfl, rfl, rfl, rfl, ⟨rfl, rfl, rfl⟩, ⟨rfl, rfl⟩, ⟨rfl, rfl⟩, rfl, rfl⟩⟩)
  have hrun := openOrEnded_run h.distinct env events hstart h.named (fun hsome => by cases hsome)
    h.finished
  rw [translatedRun_append]
  exact hrun.append fun m hm => hm.elim fun finish hopen => hopen.done hdone

/-- Some reasoning, a text and two calls at once. -/
def twoCallsEvents : List Value :=
  [completionChunk (.ofFields [("reasoning_content", .string "Where am I?")]) .null,
    completionChunk (.ofFields [("content", .string "I will look around.")]) .null,
    completionChunk (.ofFields [("tool_calls", .array [
      .ofFields [("index", .nat 0), ("id", .string "c"), ("function", .ofFields [
        ("name", .string "look_around"), ("arguments", .string "\x7b\x7d")])],
      .ofFields [("index", .nat 1), ("id", .string "cc"), ("function", .ofFields [
        ("name", .string "listen"), ("arguments", .string "\x7b\x7d")])]])]) .null,
    completionChunk (.ofFields []) (.string "tool_calls")]

/-- The ids of the calls are of different lengths. -/
def twoCallsIds (index : Nat) : String := String.ofList (List.replicate (index + 1) 'c')

theorem twoCalls_inOrder : CallsInOrder twoCallsIds
    ((twoCallsEvents.map fun event => (Env.still, event)).map Prod.snd) where
  distinct := by
    intro index index' heq
    have hlength := congrArg (fun id : String => id.toList.length) heq
    simp only [twoCallsIds, String.toList_ofList, List.length_replicate] at hlength
    exact Nat.succ.inj hlength
  named := by
    have hall : ∀ event ∈ (twoCallsEvents.map fun event => (Env.still, event)).map Prod.snd,
        ∀ tc ∈ callsOf event, (tc.get "id" = none ∨
          tc.get "id" = some (.string (twoCallsIds (responsesToolCallIndex tc)))) ∧
            tc.get internalNonReplayableToolCallField = none := by decide +kernel
    intro event hevent tc htc
    exact ⟨(hall event hevent tc htc).1, (hall event hevent tc htc).2⟩
  finished := by decide +kernel

theorem responses_stream_well_formed_two_calls :
    ∃ m, (translatedRun .openAiChatCompletions .openAiResponses
      (twoCallsEvents.map (fun event => (Env.still, event)) ++
        [(.still, .ofFields [("_done", .bool true)])])
      (responsesStreamStart none none)).1.foldlM ResponsesOutput.step {} = some m ∧
        m.ended = true :=
  responses_stream_well_formed twoCalls_inOrder .still (by decide) none none

end LlmUniversalProxy.Streaming
