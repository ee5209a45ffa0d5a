import LlmUniversalProxy.Streaming.ResponsesOperations

/-!
# `Streaming.TerminalEvents` — the last event of a response

`responsesTerminalSent` is to be set when the client has been sent its last event, and nothing is
to be sent after that. Two functions of the sink send one (`emit_openai_responses_terminal` and
`reject_openai_responses_stream`, `openai_sink.rs` 623-868 and 882-913), and set the flag behind it;
the others are those of `Streaming.ResponsesOperations`, which send none and leave the flag alone.
All events of a response name the same response, and the last one carries the response that is kept,
if one is.

A chunk is `EndsProperly`: it may end a response that is open, and it says nothing in one that has
ended. Runs of chunks, and the events of other formats, are put together in `Streaming.TerminalOnce`.
-/

set_option autoImplicit false

namespace LlmUniversalProxy.Streaming

open Json Lib

/-- A response ends at most once, and no event comes after its end; `[DONE]` is none, and may. -/
def EndsOnce (frames : List SseFrame) : Prop :=
  frames.Pairwise fun f g => f.isTerminal = true → g = .done

theorem endsOnce_of_quiet {frames : List SseFrame} (h : ∀ f ∈ frames, f.isTerminal = false) :
    EndsOnce frames :=
  List.pairwise_iff_forall_sublist.mpr fun {f _} hsub hf => by
    rw [h f (hsub.subset List.mem_cons_self)] at hf
    cases hf

theorem EndsOnce.append {frames more : List SseFrame}
    (h : ∀ f ∈ frames, f.isTerminal = false) (hmore : EndsOnce more) :
    EndsOnce (frames ++ more) :=
  List.pairwise_append.mpr ⟨endsOnce_of_quiet h, hmore, fun f hf _ _ hterminal => by
    rw [h f hf] at hterminal
    cases hterminal⟩

theorem EndsOnce.single (f : SseFrame) : EndsOnce [f] := List.pairwise_singleton _ f

/-! ## Quiet functions -/

/-- From `k` to `k'` frames are pushed that do not end the response, and the flag is as before. -/
structure Quiet (k k' : Sink) : Prop where
  sent : k'.state.responsesTerminalSent = k.state.responsesTerminalSent
  out : ∃ more, k'.out = k.out ++ more ∧ ∀ f ∈ more, f.isTerminal = false

namespace Quiet

theorem trans {k₁ k₂ k₃ : Sink} (h : Quiet k₁ k₂) (h' : Quiet k₂ k₃) : Quiet k₁ k₃ := by
  obtain ⟨more, hmore, hquiet⟩ := h.out
  obtain ⟨more', hmore', hquiet'⟩ := h'.out
  refine ⟨h'.sent.trans h.sent, more ++ more', ?_, ?_⟩
  · rw [hmore', hmore, List.append_assoc]
  · intro f hf
    exact (List.mem_append.mp hf).elim (hquiet f) (hquiet' f)

/-- A change of the state that leaves the flag alone. -/
theorem state {k : Sink} {s : StreamState}
    (h : s.responsesTerminalSent = k.state.responsesTerminalSent) :
    Quiet k { k with state := s } := ⟨h, [], by simp, by simp⟩

end Quiet

/-! ## The end -/

/-- From `k` to `k'` frames are pushed, the last of which ends the response, and the flag is set. -/
structure Ends (k k' : Sink) : Prop where
  sent : k'.state.responsesTerminalSent = true
  out : ∃ more last, k'.out = k.out ++ (more ++ [last]) ∧ ∀ f ∈ more, f.isTerminal = false

/-- The frame is the end of a response that is complete. -/
def SseFrame.Completes (response : Value) : SseFrame → Prop
  | .event eventType fields =>
      eventType = "response.completed" ∧ fields.get "response" = some response
  | _ => False

/-- From `k` to `k'` the response is told to its end; what is kept then, if it is anything new, is
the response in the last event. -/
structure EndsKeeping (responseId : String) (k k' : Sink) : Prop where
  sent : k'.state.responsesTerminalSent = true
  override : k'.state.responsesResponseIdOverride = k.state.responsesResponseIdOverride
  out : ∃ more last, k'.out = k.out ++ (more ++ [last]) ∧
    (∀ f ∈ more, f.isTerminal = false ∧ f.BelongsTo responseId) ∧ last.BelongsTo responseId ∧
    (k'.state.responsesTerminalResponse = k.state.responsesTerminalResponse ∨
      ∃ response, k'.state.responsesTerminalResponse = some response ∧ last.Completes response)

theorem EndsKeeping.ends {responseId : String} {k k' : Sink} (h : EndsKeeping responseId k k') :
    Ends k k' := by
  obtain ⟨more, last, hmore, htold, -, -⟩ := h.out
  exact ⟨h.sent, more, last, hmore, fun f hf => (htold f hf).1⟩

namespace Emits

variable {R : StreamState → StreamState → Prop} [Framed R] {responseId : String} {k₁ k₂ k₃ : Sink}

theorem quiet (h : Emits R responseId k₁ k₂) : Quiet k₁ k₂ := by
  obtain ⟨more, hmore, htold⟩ := h.out
  exact ⟨congrArg ResponseEnding.terminalSent (Framed.ending h.kept), more, hmore,
    fun f hf => (htold f hf).1⟩

theorem endsKeeping (h : Emits R responseId k₁ k₂) (h' : EndsKeeping responseId k₂ k₃) :
    EndsKeeping responseId k₁ k₃ := by
  obtain ⟨more, hmore, htold⟩ := h.out
  obtain ⟨more', last, hmore', htold', hlast, hkept⟩ := h'.out
  have hending := Framed.ending h.kept
  have hresponse : k₂.state.responsesTerminalResponse = k₁.state.responsesTerminalResponse :=
    congrArg ResponseEnding.terminalResponse hending
  refine ⟨h'.sent, h'.override.trans (congrArg ResponseEnding.responseIdOverride hending),
    more ++ more', last, ?_, ?_, hlast, hresponse ▸ hkept⟩
  · simp [hmore', hmore, List.append_assoc]
  · intro f hf
    exact (List.mem_append.mp hf).elim (htold f) (htold' f)

end Emits

theorem settleReasoningIndex_ending (s : StreamState) :
    (settleReasoningOutputIndex s).ending = s.ending := by
  unfold settleReasoningOutputIndex
  split
  · exact (untouched_reasoningIndex s).ending
  · rfl

theorem endsKeeping_terminalEvent (env : Env) (responseId : String) (created : Nat)
    (context : TerminalContext) (carrier : Option String) (k : Sink) :
    EndsKeeping responseId k (emitTerminalEvent env responseId created context carrier k) := by
  have hsettled := settleReasoningIndex_ending k.state
  refine ⟨rfl, congrArg ResponseEnding.responseIdOverride hsettled, [], _, rfl, by simp, ?_, ?_⟩
  · refine belongsTo_emitted ?_
    simp [terminalResponse, Value.getStr_ofFields]
  · by_cases hstatus : terminalStatus k.state = .completed
    · refine .inr ⟨_, if_pos hstatus, ?_, ?_⟩
      · rw [hstatus]
        rfl
      · rw [Value.get_ofFields]
        rfl
    · exact .inl ((if_neg hstatus).trans rfl)

theorem endsKeeping_terminal (env : Env) (responseId : String) (created : Nat) (k : Sink) :
    EndsKeeping responseId k (emitOpenaiResponsesTerminal env responseId created k) :=
  ((((narrates_reasoningDone _ _ k).continues.trans (continues_pendingDone _ _ _ _ _)).trans
    (narrates_appendDegraded _ _ _ _).continues).trans
    (narrates_emitMessageDone _ _ _).continues).endsKeeping
    (endsKeeping_terminalEvent _ _ _ _ _ _)

theorem endsKeeping_finalize (env : Env) (c : ResponsesChunk) (k : Sink) :
    EndsKeeping c.responseId k (finalizeResponses env c k) :=
  (continues_flushToolCalls _ _ _ k).endsKeeping (endsKeeping_terminal _ _ _ _)

theorem endsKeeping_reject (responseId : String) (created : Nat) (code message : String) (k : Sink) :
    EndsKeeping responseId k (rejectOpenaiResponsesStream responseId created code message k) := by
  refine ⟨rfl, rfl, [], _, rfl, by simp, belongsTo_emitted ?_, .inl rfl⟩
  simp [Value.getStr_ofFields]

/-- What a chunk does: it is quiet, or it ends the response. -/
def QuietOrEnds (k k' : Sink) : Prop := Quiet k k' ∨ Ends k k'

/-- What a chunk does: it tells of the response, or it tells it to its end. -/
def ContinuesOrEnds (responseId : String) (k k' : Sink) : Prop :=
  Emits SameEnding responseId k k' ∨ EndsKeeping responseId k k'

theorem ContinuesOrEnds.quietOrEnds {responseId : String} {k k' : Sink}
    (h : ContinuesOrEnds responseId k k') : QuietOrEnds k k' := h.imp Emits.quiet EndsKeeping.ends

theorem Emits.continuesOrEnds {R : StreamState → StreamState → Prop} [Framed R]
    {responseId : String} {k₁ k₂ k₃ : Sink} (h : Emits R responseId k₁ k₂)
    (h' : ContinuesOrEnds responseId k₂ k₃) : ContinuesOrEnds responseId k₁ k₃ :=
  h'.imp h.sameEnding.trans h.endsKeeping

def tellsUsage (chunk : Value) : Bool := (chunk.get "usage").any fun usage => !usage.isNull

/-- `finish_responses`, once the usage and the finish reason of the chunk have been taken. -/
def concludeResponses (env : Env) (c : ResponsesChunk) (k : Sink) : Sink :=
  if c.finishReason = some "context_length_exceeded" ∨ c.finishReason = some "error" ∨
      c.finishReason = some "tool_error" then finalizeResponses env c k
  else
    let k := if c.finishReason = some "tool_calls" then
      (emitPendingResponsesToolCallDoneEvents env c.responseId ⟨none, false⟩ false
        (flushPendingResponsesToolCalls env c.responseId true k)).2
    else k
    if k.state.finishReason.isSome ∧ !k.state.responsesTerminalSent ∧
        (tellsUsage c.chunk ∨ !isMinimaxChunk c.chunk k.state) then finalizeResponses env c k
    else k

theorem finishResponses_eq (env : Env) (c : ResponsesChunk) (k : Sink) :
    finishResponses env c k = concludeResponses env c { k with state := { k.state with
      usage := (c.chunk.get "usage").or k.state.usage
      finishReason := c.finishReason.or k.state.finishReason } } := by
  unfold finishResponses concludeResponses tellsUsage
  cases c.chunk.get "usage" <;> rfl

theorem continuesOrEnds_finish (env : Env) (c : ResponsesChunk) (k : Sink) :
    ContinuesOrEnds c.responseId k (finishResponses env c k) := by
  rw [finishResponses_eq]
  generalize (c.chunk.get "usage").or k.state.usage = usage
  have hquiet : Emits SameEnding c.responseId k { k with state := { k.state with
      usage := usage, finishReason := c.finishReason.or k.state.finishReason } } := .state rfl
  refine hquiet.continuesOrEnds ?_
  generalize ({ k with state := { k.state with
    usage := usage, finishReason := c.finishReason.or k.state.finishReason } } : Sink) = k₁
  unfold concludeResponses
  split
  · exact .inr (endsKeeping_finalize env c k₁)
  · have htools : Continues c.responseId k₁ (if c.finishReason = some "tool_calls" then
        (emitPendingResponsesToolCallDoneEvents env c.responseId ⟨none, false⟩ false
          (flushPendingResponsesToolCalls env c.responseId true k₁)).2 else k₁) := by
      split
      · exact (continues_flushToolCalls _ _ _ k₁).trans (continues_pendingDone _ _ _ _ _)
      · exact .refl k₁
    generalize (if c.finishReason = some "tool_calls" then _ else _) = k₂ at htools ⊢
    refine htools.continuesOrEnds ?_
    dsimp only
    split
    · exact .inr (endsKeeping_finalize env c k₂)
    · exact .inl (.refl k₂)

/-- Tool-call deltas tell of the response, or their rejection ends it. -/
def ContinuesOrRejected (responseId : String) (k : Sink) : Except Sink Sink → Prop
  | .ok k' => Continues responseId k k'
  | .error k' => EndsKeeping responseId k k'

theorem Emits.continuesOrRejected {responseId : String} {k k₁ : Sink} {result : Except Sink Sink}
    (h : Continues responseId k k₁) (h' : ContinuesOrRejected responseId k₁ result) :
    ContinuesOrRejected responseId k result := by
  cases result with
  | ok k' => exact h.trans h'
  | error k' => exact h.endsKeeping h'

theorem continuesOrRejected_toolCalls (env : Env) (c : ResponsesChunk) (tcs : List Value) :
    ∀ k, ContinuesOrRejected c.responseId k (toolCallsResponses env c tcs k) := by
  induction tcs with
  | nil => exact fun k => .refl k
  | cons tc tcs ih =>
    intro k
    have hdedupe : Continues c.responseId k _ := (Emits.refl k).update (f := fun s => { s with
      openaiToolCalls := dedupeToolCallStateByCallId env s.openaiToolCalls
        (responsesToolCallIndex tc) (tc.get "id") }) ⟨rfl, rfl, id⟩
    simp only [toolCallsResponses]
    split
    · have hreserved := hdedupe.update
        (f := fun s => (responsesToolOutputIndex s (responsesToolCallIndex tc)).2)
        (steady_toolIndex _ _)
      exact hreserved.endsKeeping (endsKeeping_reject _ _ _ _ _)
    · exact (hdedupe.trans (continues_toolCall env c.responseId tc _)).continuesOrRejected (ih _)

theorem continuesOrRejected_toolCallsDelta (env : Env) (c : ResponsesChunk) (k : Sink) :
    ContinuesOrRejected c.responseId k (toolCallsDelta env c k) := by
  unfold toolCallsDelta
  split
  · exact .refl k
  · exact (narrates_emitMessageDone _ _ k).continues.continuesOrRejected
      (continuesOrRejected_toolCalls _ _ _ _)

@[simp] theorem captureError_ending (chunk : Value) (s : StreamState) :
    (captureError chunk s).ending = s.ending := (untouched_captureError chunk s).ending

@[simp] theorem captureModel_ending (chunk : Value) (s : StreamState) :
    (captureModel chunk s).ending = s.ending := by
  unfold captureModel
  split <;> rfl

/-- What a function that answers with frames and a state may do, as far as the end of the response
is concerned: nothing is sent once the response has ended; the frames end it once at the most, and
if they do, the flag says so. -/
structure EndsProperly (s : StreamState) (output : List SseFrame × StreamState) : Prop where
  silent : s.responsesTerminalSent = true → output.1 = [] ∧ output.2.responsesTerminalSent = true
  once : EndsOnce output.1
  sent : (∃ f ∈ output.1, f.isTerminal = true) → output.2.responsesTerminalSent = true

theorem EndsProperly.nothing {s s' : StreamState}
    (h : s'.responsesTerminalSent = s.responsesTerminalSent) : EndsProperly s ([], s') :=
  ⟨fun hs => ⟨rfl, h.trans hs⟩, List.Pairwise.nil, by simp⟩

/-- A sink that starts with an open response. -/
theorem EndsProperly.of_sink {s : StreamState} {k k' : Sink} (hopen : s.responsesTerminalSent = false)
    (hk : k.out = []) (h : QuietOrEnds k k') : EndsProperly s (k'.out, k'.state) := by
  refine ⟨fun hs => by simp [hopen] at hs, ?_, ?_⟩
  · cases h with
    | inl h =>
      obtain ⟨more, hmore, hquiet⟩ := h.out
      rw [hmore, hk]
      exact endsOnce_of_quiet hquiet
    | inr h =>
      obtain ⟨more, last, hmore, hquiet⟩ := h.out
      rw [hmore, hk, List.nil_append]
      exact EndsOnce.append hquiet (EndsOnce.single last)
  · cases h with
    | inl h =>
      obtain ⟨more, hmore, hquiet⟩ := h.out
      rintro ⟨f, hf, hterminal⟩
      rw [hmore, hk] at hf
      rw [hquiet f hf] at hterminal
      cases hterminal
    | inr h => exact fun _ => h.sent

/-- A chunk that comes before the response has ended tells of it, from what it captures on. -/
theorem chunk_continues (env : Env) (chunk : Value) {s : StreamState}
    (hopen : s.responsesTerminalSent = false) :
    ∃ k, openaiChunkToResponsesSse env chunk s = (k.out, k.state) ∧
      ContinuesOrEnds (responsesChunk chunk (captureError chunk s)).responseId
        ⟨captureModel chunk (captureError chunk s), []⟩ k := by
  unfold openaiChunkToResponsesSse
  rw [if_neg (by simp [hopen])]
  dsimp only
  generalize responsesChunk chunk (captureError chunk s) = c
  have htexts := ((narrates_start c ⟨captureModel chunk (captureError chunk s), []⟩).trans
    (narrates_texts env c _)).continues
  have htools := htexts.continuesOrRejected (continuesOrRejected_toolCallsDelta env c _)
  generalize toolCallsDelta env c _ = result at htools ⊢
  cases result with
  | error k' => exact ⟨k', rfl, .inr htools⟩
  | ok k' => exact ⟨_, rfl, htools.continuesOrEnds (continuesOrEnds_finish env c k')⟩

/-- **A chunk ends the response properly.** -/
theorem chunk_endsProperly (env : Env) (chunk : Value) (s : StreamState) :
    EndsProperly s (openaiChunkToResponsesSse env chunk s) := by
  by_cases hopen : s.responsesTerminalSent = false
  · obtain ⟨k, hrun, htold⟩ := chunk_continues env chunk hopen
    rw [hrun]
    refine .of_sink (k := ⟨captureModel chunk (captureError chunk s), []⟩) hopen rfl ?_
    exact htold.quietOrEnds
  · unfold openaiChunkToResponsesSse
    rw [if_pos (by simpa using hopen)]
    exact .nothing rfl

end LlmUniversalProxy.Streaming
