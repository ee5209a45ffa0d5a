import LlmUniversalProxy.Streaming.TerminalEvents

/-!
# `Streaming.TerminalResponse` — the response that a translating stream keeps

With the last event of a response that is complete, the translation keeps the response, for whoever
wants to take it. It does not look at it again: once the response has ended, an event is answered
in the same way whether it has been taken or not. Only the size of the state tells the difference.
-/

set_option autoImplicit false

namespace LlmUniversalProxy.Streaming

open Json Lib

/-! ## Without the response -/

/-- The state without the response that is kept. -/
def StreamState.forget (s : StreamState) : StreamState := { s with responsesTerminalResponse := none }

/-- An answer whose state has forgotten the response. -/
def forgetOf {α : Type} (output : α × StreamState) : α × StreamState :=
  (output.1, output.2.forget)

theorem forget_eq (s : StreamState) :
    s.forget = s.withEnding ⟨s.responsesTerminalSent, s.responsesResponseIdOverride, none⟩ := rfl

theorem forgetOf_eq {α : Type} {s : StreamState} {output : α × StreamState}
    (h : output.2.ending = s.ending) :
    withEndingOf output ⟨s.responsesTerminalSent, s.responsesResponseIdOverride, none⟩ =
      forgetOf output := by
  have hsent : output.2.responsesTerminalSent = s.responsesTerminalSent :=
    congrArg ResponseEnding.terminalSent h
  have hoverride : output.2.responsesResponseIdOverride = s.responsesResponseIdOverride :=
    congrArg ResponseEnding.responseIdOverride h
  unfold withEndingOf forgetOf
  rw [forget_eq, hsent, hoverride]

/-- The size of the state without the response. -/
theorem accumulatedBytes_forget (s : StreamState) :
    s.accumulatedBytes = s.forget.accumulatedBytes + valueLen s.responsesTerminalResponse := by
  have hforgotten : valueLen s.forget.responsesTerminalResponse = 0 := rfl
  unfold StreamState.accumulatedBytes
  rw [hforgotten]
  show _ = optionalStringLen s.messageId + optionalStringLen s.model +
    valueLen s.requestScopedToolBridgeContext + valueLen s.usage +
    optionalStringLen s.finishReason + optionalStringLen s.outputItemId +
    s.responsesOutputText.utf8ByteSize + optionalStringLen s.responsesReasoningId +
    s.responsesReasoningText.utf8ByteSize + s.openaiSeenContent.utf8ByteSize +
    s.openaiSeenRefusal.utf8ByteSize + s.openaiSeenReasoning.utf8ByteSize +
    valueLen s.openaiTerminalError + optionalStringLen s.responsesResponseIdOverride + 0 +
    sumOf (fun e => ToolCallState.accumulatedBytes e.2) s.openaiToolCalls.entries +
    sumOf (fun e => ClaudeToolUseState.accumulatedBytes e.2) s.claudeToolUses.entries +
    sumOf (fun e => ClaudeBlockState.accumulatedBytes e.2) s.claudeBlocks.entries +
    sumOf (fun e => optionalStringLen e.signature) s.claudeThinkingProvenance +
    sumOf ResponsesMessagePartState.accumulatedBytes s.responsesMessageParts +
    sumOf (fun e => e.item.jsonLen) s.responsesCompletedMessageItems + _
  omega

/-! ## An event behind the end -/

section Ended

variable (env : Env) {s : StreamState} (hsent : s.responsesTerminalSent = true)

include hsent

/-- Nothing is said behind the end of the response. -/
theorem chunksToClient_sent (chunks : List Value) :
    openaiChunksToClientSse env .openAiResponses chunks s = ([], s) := by
  induction chunks with
  | nil => rfl
  | cons chunk chunks ih =>
    have hchunk : openaiChunkToClientSse env .openAiResponses chunk s = ([], s) := by
      show openaiChunkToResponsesSse env chunk s = _
      unfold openaiChunkToResponsesSse
      rw [if_pos hsent]
    rw [openaiChunksToClientSse, hchunk]
    dsimp only
    rw [ih]
    rfl

theorem rejectedName_sent (message : String) :
    rejectPublicStreamToolName env .openAiResponses s message =
      ([], (rejectOpenaiStream env s "invalid_request_error"
        "reserved_openai_custom_bridge_prefix" message).2) := by
  have hrejected : (rejectOpenaiStream env s "invalid_request_error"
    "reserved_openai_custom_bridge_prefix" message).2.responsesTerminalSent = true := hsent
  exact chunksToClient_sent env hrejected _

/-- **An event behind the end is answered in the same way** when the response is gone. -/
theorem translateSseEvent_forget {upstreamFormat : UpstreamFormat}
    (hformat : upstreamFormat ≠ .openAiResponses) (event : Value) :
    translateSseEvent env upstreamFormat .openAiResponses event s.forget =
      forgetOf (translateSseEvent env upstreamFormat .openAiResponses event s) := by
  have hgone : s.forget.responsesTerminalSent = true := hsent
  have hfatal : s.forget.fatalRejection = s.fatalRejection := rfl
  unfold translateSseEvent
  rw [hfatal]
  split
  · rfl
  split
  · unfold responsesDone
    rw [if_pos hsent, if_pos hgone]
    rfl
  split
  · rfl
  · unfold convertSseEvent
    dsimp only
    split
    · rw [rejectedName_sent env hsent, rejectedName_sent env hgone]
      rfl
    · have hchunks := upstreamChunks_withEnding env
        ⟨s.responsesTerminalSent, s.responsesResponseIdOverride, none⟩ hformat .openAiResponses
        event s
      have hkept := upstreamChunks_ending env hformat .openAiResponses event s
      rw [← forget_eq, forgetOf_eq hkept] at hchunks
      rw [hchunks]
      generalize upstreamChunks env upstreamFormat .openAiResponses event s = read at hkept ⊢
      obtain ⟨chunks, s₁⟩ := read
      dsimp only [forgetOf] at hkept ⊢
      have hvalid := validatedChunks_withEnding env
        ⟨s₁.responsesTerminalSent, s₁.responsesResponseIdOverride, none⟩ chunks s₁
      have hkept' := validatedChunks_ending env chunks s₁
      rw [← forget_eq, forgetOf_eq hkept'] at hvalid
      rw [hvalid]
      generalize validateOpenaiChunks env chunks s₁ = valid at hkept' ⊢
      obtain ⟨valid, s₂⟩ := valid
      dsimp only [forgetOf] at hkept' ⊢
      have hsent₂ : s₂.responsesTerminalSent = true :=
        (congrArg ResponseEnding.terminalSent (hkept'.trans hkept)).trans hsent
      have hgone₂ : s₂.forget.responsesTerminalSent = true := hsent₂
      rw [chunksToClient_sent env hsent₂, chunksToClient_sent env hgone₂]

end Ended

/-! ## Events of one response -/

/-- An answer to an event, as far as the response is concerned: its frames belong to the response;
one that ends it sets the flag; and what is kept, if it is anything new, is the response in a frame
of the answer, that was open before. -/
structure OfResponse (responseId : String) (s : StreamState)
    (output : List SseFrame × StreamState) : Prop where
  override : output.2.responsesResponseIdOverride = s.responsesResponseIdOverride
  sent : s.responsesTerminalSent = true → output.2.responsesTerminalSent = true
  frames : ∀ f ∈ output.1, f.BelongsTo responseId
  terminal : (∃ f ∈ output.1, f.isTerminal = true) → output.2.responsesTerminalSent = true
  response : output.2.responsesTerminalResponse = s.responsesTerminalResponse ∨
    s.responsesTerminalSent = false ∧ output.2.responsesTerminalSent = true ∧
      ∃ response, output.2.responsesTerminalResponse = some response ∧
        ∃ f ∈ output.1, f.Completes response

namespace OfResponse

variable {responseId : String} {s s₁ s₂ : StreamState}

theorem nothing (h : s₁.ending = s.ending) : OfResponse responseId s ([], s₁) :=
  ⟨congrArg ResponseEnding.responseIdOverride h,
    fun hs => (congrArg ResponseEnding.terminalSent h).trans hs, by simp, by simp,
    .inl (congrArg ResponseEnding.terminalResponse h)⟩

/-- One answer behind another. -/
theorem append {frames more : List SseFrame} (h : OfResponse responseId s (frames, s₁))
    (h' : OfResponse responseId s₁ (more, s₂)) : OfResponse responseId s (frames ++ more, s₂) where
  override := h'.override.trans h.override
  sent := fun hs => h'.sent (h.sent hs)
  frames := fun f hf => (List.mem_append.mp hf).elim (h.frames f) (h'.frames f)
  terminal := by
    rintro ⟨f, hf, hterminal⟩
    cases List.mem_append.mp hf with
    | inl hf => exact h'.sent (h.terminal ⟨f, hf, hterminal⟩)
    | inr hf => exact h'.terminal ⟨f, hf, hterminal⟩
  response := by
    have hlater : s₁.responsesTerminalSent = false → s.responsesTerminalSent = false := by
      intro hopen
      cases hs : s.responsesTerminalSent with
      | false => rfl
      | true => exact absurd (h.sent hs) (by simp [hopen])
    rcases h'.response with hsame | ⟨hopen, hsent, response, hkept, f, hf, hcompletes⟩
    · rcases h.response with hsame' | ⟨hopen, hsent, response, hkept, f, hf, hcompletes⟩
      · exact .inl (hsame.trans hsame')
      · exact .inr ⟨hopen, h'.sent hsent, response, hsame.trans hkept, f,
          List.mem_append_left _ hf, hcompletes⟩
    · exact .inr ⟨hlater hopen, hsent, response, hkept, f, List.mem_append_right _ hf, hcompletes⟩

/-- A change of the state before the answer that leaves the end alone. -/
theorem of_ending {output : List SseFrame × StreamState} (hs : s₁.ending = s.ending)
    (h : OfResponse responseId s₁ output) : OfResponse responseId s output :=
  (OfResponse.nothing hs).append h

/-- A sink that starts with an open response. -/
theorem of_sink {k : Sink} (hopen : s.responsesTerminalSent = false)
    (h : ContinuesOrEnds responseId ⟨s, []⟩ k) : OfResponse responseId s (k.out, k.state) := by
  rcases h with h | h
  · obtain ⟨more, hmore, htold⟩ := h.out
    rw [hmore, List.nil_append]
    exact (OfResponse.nothing h.kept).append ⟨rfl, id, fun f hf => (htold f hf).2,
      fun ⟨f, hf, hterminal⟩ => absurd hterminal (by simp [(htold f hf).1]), .inl rfl⟩
  · obtain ⟨more, last, hmore, htold, hlast, hkept⟩ := h.out
    rw [hmore, List.nil_append]
    refine ⟨h.override, fun _ => h.sent, fun f hf => ?_, fun _ => h.sent, ?_⟩
    · rcases List.mem_append.mp hf with hf | hf
      · exact (htold f hf).2
      · rw [List.mem_singleton.mp hf]
        exact hlast
    · refine hkept.imp id fun ⟨response, hresponse, hcompletes⟩ =>
        ⟨hopen, h.sent, response, hresponse, last, by simp, hcompletes⟩

end OfResponse

section Response

variable (env : Env) {responseId : String} {s : StreamState}
  (hlocal : s.responsesResponseIdOverride = some responseId)

include hlocal

theorem responseId_of_override (fallback : Option String) :
    s.responsesResponseId fallback = responseId := by
  rw [StreamState.responsesResponseId, hlocal, Option.some_or, Option.getD_some]

theorem chunk_ofResponse (chunk : Value) :
    OfResponse responseId s (openaiChunkToResponsesSse env chunk s) := by
  by_cases hopen : s.responsesTerminalSent = false
  · obtain ⟨k, hrun, htold⟩ := chunk_continues env chunk hopen
    have hcaptured : (captureModel chunk (captureError chunk s)).ending = s.ending :=
      (captureModel_ending _ _).trans (captureError_ending _ _)
    have herror : (captureError chunk s).responsesResponseIdOverride = some responseId :=
      (congrArg ResponseEnding.responseIdOverride (captureError_ending chunk s)).trans hlocal
    have hid : (responsesChunk chunk (captureError chunk s)).responseId = responseId :=
      responseId_of_override herror _
    rw [hid] at htold
    rw [hrun]
    exact .of_ending hcaptured
      (.of_sink ((congrArg ResponseEnding.terminalSent hcaptured).trans hopen) htold)
  · unfold openaiChunkToResponsesSse
    rw [if_pos (by simpa using hopen)]
    exact .nothing rfl

theorem chunks_ofResponse (chunks : List Value) :
    OfResponse responseId s (openaiChunksToClientSse env .openAiResponses chunks s) := by
  induction chunks generalizing s with
  | nil => exact .nothing rfl
  | cons chunk chunks ih =>
    have hchunk := chunk_ofResponse env hlocal chunk
    exact hchunk.append (ih (hchunk.override.trans hlocal))

theorem rejectedName_ofResponse (message : String) :
    OfResponse responseId s (rejectPublicStreamToolName env .openAiResponses s message) := by
  have hrejected : (rejectOpenaiStream env s "invalid_request_error"
    "reserved_openai_custom_bridge_prefix" message).2.ending = s.ending := rfl
  exact .of_ending hrejected
    (chunks_ofResponse env ((congrArg ResponseEnding.responseIdOverride hrejected).trans hlocal) _)

theorem done_ofResponse : OfResponse responseId s (responsesDone env s) := by
  unfold responsesDone
  split
  · exact .nothing rfl
  · next hopen =>
    rw [responseId_of_override hlocal]
    exact .of_sink (by simpa using hopen)
      (.inr ((continues_flushToolCalls _ _ _ _).endsKeeping (endsKeeping_terminal _ _ _ _)))

/-- An error ends the response, and keeps nothing. -/
theorem error_ofResponse (event : Value) :
    OfResponse responseId s (anthropicErrorEventToClientSse env event .openAiResponses s) := by
  refine ⟨rfl, fun _ => rfl, fun f hf => ?_, fun _ => rfl, .inl rfl⟩
  rw [List.mem_singleton.mp hf]
  refine belongsTo_emitted ?_
  simp only [namesResponse_cons, namesResponse_nil, and_true]
  refine ⟨fun hname => absurd hname (by decide), fun _ => ?_⟩
  rw [Value.getStr_ofFields]
  exact congrArg some (responseId_of_override hlocal _)

theorem convert_ofResponse {upstreamFormat : UpstreamFormat}
    (hformat : upstreamFormat ≠ .openAiResponses) (event : Value) :
    OfResponse responseId s (convertSseEvent env upstreamFormat .openAiResponses event s) := by
  unfold convertSseEvent
  dsimp only
  split
  · exact rejectedName_ofResponse env hlocal _
  · have hending := (validatedChunks_ending env
      (upstreamChunks env upstreamFormat .openAiResponses event s).1 _).trans
        (upstreamChunks_ending env hformat .openAiResponses event s)
    exact .of_ending hending
      (chunks_ofResponse env ((congrArg ResponseEnding.responseIdOverride hending).trans hlocal) _)

/-- **An event is answered with frames of the response.** -/
theorem translateSseEvent_ofResponse {upstreamFormat : UpstreamFormat}
    (hformat : upstreamFormat ≠ .openAiResponses) (event : Value) :
    OfResponse responseId s
      (translateSseEvent env upstreamFormat .openAiResponses event s) := by
  unfold translateSseEvent
  split
  · exact .nothing rfl
  split
  · exact done_ofResponse env hlocal
  split
  · exact error_ofResponse env hlocal event
  · exact convert_ofResponse env hlocal hformat event

end Response

end LlmUniversalProxy.Streaming
