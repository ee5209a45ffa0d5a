import LlmUniversalProxy.Streaming.ResponsesUsage

/-!
# `Streaming.MessageUsage` — the usage that the end of an Anthropic message tells

An Anthropic message tells its usage with the `message_delta` that goes out together with the finish
reason (`openai_sink.rs` 1090-1113). Only the capture of a chunk changes the usage that is kept, and
only the finish chunk tells it; `chunkTells` says so for every chunk, those of a refused message
among them. A comment in the source (929-933) expects the usage of a later chunk to be told as well.
There is no event left that could carry it.
-/

set_option autoImplicit false

namespace LlmUniversalProxy.Streaming

open Json Lib Translate

/-! ## The last event but one of a message -/

/-- The usage of a `message_delta`. -/
def messageDeltaUsage : SseFrame → Option (Option Value)
  | .event eventType event =>
      if eventType = "message_delta" then some (event.get "usage") else none
  | _ => none

/-- The usage that is kept for the end of the message, whether the message has been refused, and the
usages that have been told. -/
def claudeKept (k : Sink) : (Option Value × Option String) × List (Option Value) :=
  ((k.state.usage, k.state.fatalRejection), k.out.filterMap messageDeltaUsage)

theorem claudeKept_push (k : Sink) {eventType : String} (value : Value)
    (h : eventType ≠ "message_delta") : claudeKept (k.push eventType value) = claudeKept k := by
  simp [claudeKept, messageDeltaUsage, h]

theorem claudeKept_stop (k : Sink) (index : Nat) : claudeKept (contentBlockStop k index) = claudeKept k :=
  claudeKept_push k _ (by simp)

theorem claudeKept_delta (k : Sink) (index : Nat) (delta : Value) :
    claudeKept (contentBlockDelta k index delta) = claudeKept k := claudeKept_push k _ (by simp)

theorem claudeKept_start (k : Sink) (index : Nat) (contentBlock : Value) :
    claudeKept (contentBlockStart k index contentBlock) = claudeKept k := claudeKept_push k _ (by simp)

theorem claudeKept_stops (indices : List Nat) (k : Sink) :
    claudeKept (indices.foldl contentBlockStop k) = claudeKept k := by
  induction indices generalizing k with
  | nil => rfl
  | cons index indices ih => exact (ih _).trans (claudeKept_stop k index)

theorem claudeKept_stopThinking (k : Sink) : claudeKept (stopThinkingBlockClaude k) = claudeKept k := by
  unfold stopThinkingBlockClaude
  split
  · exact claudeKept_stop k _
  · rfl

theorem claudeKept_stopText (k : Sink) : claudeKept (stopTextBlockClaude k) = claudeKept k := by
  unfold stopTextBlockClaude
  split
  · rfl
  · exact claudeKept_stop _ _

theorem claudeKept_ensureThinking (k : Sink) : claudeKept (ensureThinkingBlockClaude k) = claudeKept k := by
  unfold ensureThinkingBlockClaude
  split
  · rfl
  · exact claudeKept_start _ _ _

theorem claudeKept_ensureText (k : Sink) : claudeKept (ensureTextBlockClaude k) = claudeKept k := by
  unfold ensureTextBlockClaude
  split
  · rfl
  · exact claudeKept_start _ _ _

theorem claudeKept_startMessage (chunk choice : Value) (k : Sink) :
    claudeKept (startMessageClaude chunk choice k) = claudeKept k := by
  unfold startMessageClaude
  split
  · rfl
  · exact claudeKept_push _ _ (by simp)

theorem claudeKept_reasoning (reasoning : Option String) (k : Sink) :
    claudeKept (reasoningClaude reasoning k) = claudeKept k := by
  unfold reasoningClaude
  split
  · rfl
  · exact (claudeKept_delta _ _ _).trans ((claudeKept_ensureThinking _).trans (claudeKept_stopText k))

theorem claudeKept_content (content : Option String) (k : Sink) :
    claudeKept (contentClaude content k) = claudeKept k := by
  unfold contentClaude
  split
  · rfl
  · exact (claudeKept_delta _ _ _).trans ((claudeKept_ensureText _).trans (claudeKept_stopThinking k))

theorem claudeKept_contentDelta (delta : Value) (k : Sink) :
    claudeKept ⟨(openaiChunkContentDelta delta k.state).2, k.out⟩ = claudeKept k := by
  unfold openaiChunkContentDelta
  split <;> rfl

theorem claudeKept_toolArguments (tc : Value) (k : Sink) : claudeKept (toolArgumentsClaude tc k) = claudeKept k := by
  unfold toolArgumentsClaude
  split
  · rfl
  · split
    · rfl
    · exact claudeKept_delta _ _ _

theorem claudeKept_startToolBlock {env : Env} {tc : Value} {toolUseType : String} (k : Sink)
    (h : anthropicToolUseTypeForOpenaiToolCall env tc = .ok toolUseType) :
    ∃ k', startToolBlockClaude env tc k = .ok k' ∧ claudeKept k' = claudeKept k := by
  unfold startToolBlockClaude
  split
  · exact ⟨k, rfl, rfl⟩
  · rw [h]
    exact ⟨_, rfl, (claudeKept_start _ _ _).trans ((claudeKept_stopText _).trans (claudeKept_stopThinking k))⟩

theorem claudeKept_toolCalls {env : Env} {tcs : List Value} (k : Sink)
    (h : ∀ tc ∈ tcs, ∃ toolUseType,
      anthropicToolUseTypeForOpenaiToolCall env tc = .ok toolUseType) :
    ∃ k', toolCallsClaude env tcs k = .ok k' ∧ claudeKept k' = claudeKept k := by
  induction tcs generalizing k with
  | nil => exact ⟨k, rfl, rfl⟩
  | cons tc tcs ih =>
    obtain ⟨toolUseType, htype⟩ := h tc List.mem_cons_self
    obtain ⟨k₁, hstart, hkept⟩ := claudeKept_startToolBlock k htype
    obtain ⟨k₂, hrest, hkept'⟩ := ih (toolArgumentsClaude tc k₁)
      fun other hother => h other (List.mem_cons_of_mem _ hother)
    unfold toolCallsClaude
    rw [hstart]
    exact ⟨k₂, hrest, hkept'.trans ((claudeKept_toolArguments tc k₁).trans hkept)⟩

/-- The finish reason ends the message, and not with an error. -/
def stopsMessage (reason : String) : Bool :=
  match classifyOpenaiFinishForAnthropic reason with
  | .stopReason _ => true
  | .error _ _ => false

/-- The usage that a message tells when nothing has been kept. -/
def noUsage : Value := .ofFields [("input_tokens", .nat 0), ("output_tokens", .nat 0)]

theorem told_finish (env : Env) (finishReason : Option String) (k : Sink) :
    (finishClaude env finishReason k).out.filterMap messageDeltaUsage =
      k.out.filterMap messageDeltaUsage ++
        if finishReason.any stopsMessage then [some (k.state.usage.getD noUsage)] else [] := by
  cases finishReason with
  | none => simp [finishClaude]
  | some reason =>
    unfold finishClaude
    rw [Option.map_some, Option.any_some, stopsMessage]
    cases classifyOpenaiFinishForAnthropic reason with
    | error errorType message => simp [messageDeltaUsage, anthropicErrorEvent]
    | stopReason stopReason =>
      dsimp only
      rw [if_pos rfl]
      have hkept := (claudeKept_stops ((hashWalk env (stopTextBlockClaude
        (stopThinkingBlockClaude k)).state.toolBlockIndices).map Prod.snd) _).trans
        ((claudeKept_stopText _).trans (claudeKept_stopThinking k))
      generalize List.foldl contentBlockStop _ _ = k' at hkept ⊢
      have husage : k'.state.usage = k.state.usage := congrArg (fun p => p.1.1) hkept
      have hout : k'.out.filterMap messageDeltaUsage = k.out.filterMap messageDeltaUsage :=
        congrArg Prod.snd hkept
      simp [messageDeltaUsage, hout, husage, noUsage, List.lookup_cons]

/-- The end of a message changes nothing of what has been kept. -/
theorem kept_finish (env : Env) (finishReason : Option String) (k : Sink) :
    (claudeKept (finishClaude env finishReason k)).1 = (claudeKept k).1 := by
  unfold finishClaude
  cases finishReason.map classifyOpenaiFinishForAnthropic with
  | none => rfl
  | some finish =>
    cases finish with
    | error errorType message => rfl
    | stopReason stopReason =>
      have hkept := (claudeKept_stops ((hashWalk env (stopTextBlockClaude
        (stopThinkingBlockClaude k)).state.toolBlockIndices).map Prod.snd) _).trans
        ((claudeKept_stopText _).trans (claudeKept_stopThinking k))
      show (claudeKept (List.foldl contentBlockStop _ _)).1 = _
      exact congrArg Prod.fst hkept

/-- A chunk with a tool call that Anthropic cannot be given refuses the message. -/
def isRefused (env : Env) (chunk : Value) : Bool :=
  (chunkChoice chunk).any fun choice => (rejectedToolCall env choice).isSome

/-- A chunk is passed over behind a refusal, unless it has an error. -/
def isPassedOver (chunk : Value) (s : StreamState) : Bool :=
  s.fatalRejection.isSome && (chunk.get "error").isNone

/-- The chunk ends a message that goes on until then. -/
def endsMessage (env : Env) (chunk : Value) (s : StreamState) : Bool :=
  !isPassedOver chunk s && !isRefused env chunk && (finishReasonOf chunk).any stopsMessage

/-- What a chunk does to what is kept, and what it tells. -/
structure ChunkTells (env : Env) (chunk : Value) (s : StreamState)
    (r : List SseFrame × StreamState) : Prop where
  told : r.1.filterMap messageDeltaUsage =
    if endsMessage env chunk s then [some ((captureUsageClaude chunk s).usage.getD noUsage)] else []
  usage : r.2.usage =
    if isPassedOver chunk s then s.usage else (captureUsageClaude chunk s).usage
  refused : r.2.fatalRejection.isSome = (s.fatalRejection.isSome || isRefused env chunk)

theorem not_stopsMessage_of_early {s : StreamState} {choice : ChunkChoice} {frame : SseFrame}
    (h : earlyError s choice = some frame) :
    messageDeltaUsage frame = none ∧ choice.finishReason.any stopsMessage = false := by
  obtain ⟨errorType, message, rfl⟩ := earlyError_eq h
  refine ⟨rfl, ?_⟩
  unfold earlyError at h
  cases hreason : choice.finishReason with
  | none => rfl
  | some reason =>
    rw [hreason, Option.map_some] at h
    rw [Option.any_some, stopsMessage]
    cases hclass : classifyOpenaiFinishForAnthropic reason with
    | error errorType message => rfl
    | stopReason stopReason =>
      rw [hclass] at h
      cases h

theorem fatalRejection_capture (chunk : Value) (s : StreamState) :
    (captureUsageClaude chunk s).fatalRejection = s.fatalRejection := by
  unfold captureUsageClaude
  split <;> rfl

theorem chunkChoice_finishReason (chunk : Value) :
    (chunkChoice chunk).bind ChunkChoice.finishReason = finishReasonOf chunk := by
  unfold chunkChoice finishReasonOf firstChoice
  cases chunk.getArray "choices" with
  | none => rfl
  | some choices => cases choices <;> rfl

/-- A chunk behind a refusal that has no error. -/
theorem chunkTells_passedOver {env : Env} {chunk : Value} {s : StreamState}
    (h : isPassedOver chunk s = true) : ChunkTells env chunk s ([], s) where
  told := by rw [endsMessage, h]; rfl
  usage := by rw [if_pos h]
  refused := by rw [((Bool.and_eq_true _ _).mp h).1, Bool.true_or]

theorem chunkTells_noChoice {env : Env} {chunk : Value} {s : StreamState}
    (hheeded : isPassedOver chunk s = false) (hchoice : chunkChoice chunk = none) :
    ChunkTells env chunk s ([], captureUsageClaude chunk s) where
  told := by
    have hreason : finishReasonOf chunk = none := by
      rw [← chunkChoice_finishReason, hchoice]
      rfl
    simp [endsMessage, hreason]
  usage := by rw [hheeded, if_neg Bool.false_ne_true]
  refused := by simp [isRefused, hchoice, fatalRejection_capture]

/-- **A chunk of a message** tells the usage that is kept when it ends the message, and none
otherwise. -/
theorem chunkTells (env : Env) (chunk : Value) (s : StreamState) :
    ChunkTells env chunk s (openaiChunkToClaudeSse env chunk s) := by
  unfold openaiChunkToClaudeSse
  by_cases hover : s.fatalRejection.isSome = true ∧ (chunk.get "error").isNone = true
  · rw [if_pos hover]
    exact chunkTells_passedOver ((Bool.and_eq_true _ _).mpr hover)
  have hheeded : isPassedOver chunk s = false := by
    rw [← Bool.not_eq_true]
    exact fun h => hover ((Bool.and_eq_true _ _).mp h)
  rw [if_neg hover]
  dsimp only
  cases hchoice : chunkChoice chunk with
  | none => exact chunkTells_noChoice hheeded hchoice
  | some choice =>
    have hreason : finishReasonOf chunk = choice.finishReason := by
      rw [← chunkChoice_finishReason, hchoice]
      rfl
    have hrefused : isRefused env chunk = (rejectedToolCall env choice).isSome := by
      rw [isRefused, hchoice, Option.any_some]
    dsimp only
    have hthought : ((openaiChunkReasoningDelta choice.delta (captureUsageClaude chunk s)).2.usage,
        (openaiChunkReasoningDelta choice.delta (captureUsageClaude chunk s)).2.fatalRejection) =
        ((captureUsageClaude chunk s).usage, s.fatalRejection) := by
      rw [← fatalRejection_capture chunk s]
      unfold openaiChunkReasoningDelta
      split <;> rfl
    generalize openaiChunkReasoningDelta choice.delta (captureUsageClaude chunk s) = thought
      at hthought ⊢
    obtain ⟨husage, hfatal⟩ := Prod.mk.inj hthought
    -- a rejection or an early error is all that the chunk gives
    cases hrejected : rejectedToolCall env choice with
    | some message =>
      refine ⟨?_, ?_, ?_⟩
      · simp [endsMessage, hrefused, hrejected, rejectAnthropicStream, messageDeltaUsage,
          anthropicErrorEvent]
      · rw [hheeded, if_neg Bool.false_ne_true]
        exact husage
      · simp [hrefused, hrejected, rejectAnthropicStream, markStreamFatalRejection]
    | none =>
      dsimp only
      rw [hrejected, Option.isSome_none] at hrefused
      cases hearly : earlyError thought.2 choice with
      | some frame =>
        obtain ⟨hframe, hstops⟩ := not_stopsMessage_of_early hearly
        refine ⟨?_, ?_, ?_⟩
        · simp [endsMessage, hreason, hframe, hstops]
        · rw [hheeded, if_neg Bool.false_ne_true]
          exact husage
        · rw [hrefused, Bool.or_false]
          exact congrArg Option.isSome hfatal
      | none =>
        dsimp only
        -- up to the finish no step changes the usage, rejects the stream or sends a `message_delta`
        have hkept := (claudeKept_reasoning thought.1 _).trans
          (claudeKept_startMessage chunk choice.choice ⟨thought.2, []⟩)
        generalize reasoningClaude thought.1
          (startMessageClaude chunk choice.choice ⟨thought.2, []⟩) = k at hkept ⊢
        have hkept := (claudeKept_content (openaiChunkContentDelta choice.delta k.state).1 _).trans
          ((claudeKept_contentDelta choice.delta k).trans hkept)
        generalize contentClaude (openaiChunkContentDelta choice.delta k.state).1
          ⟨(openaiChunkContentDelta choice.delta k.state).2, k.out⟩ = k' at hkept ⊢
        obtain ⟨k₁, hloop, hcalls⟩ := claudeKept_toolCalls k' (toolUseType_of_not_rejected hrejected)
        have hkept := hcalls.trans hkept
        have hfinish := (kept_finish env choice.finishReason k₁).trans (congrArg Prod.fst hkept)
        rw [hloop]
        dsimp only
        refine ⟨?_, ?_, ?_⟩
        · have hout : k₁.out.filterMap messageDeltaUsage = [] := congrArg Prod.snd hkept
          have hkeptUsage : k₁.state.usage = thought.2.usage := congrArg (fun p => p.1.1) hkept
          rw [told_finish, hout, hkeptUsage, husage, List.nil_append, endsMessage, hheeded, hrefused,
            hreason]
          rfl
        · rw [hheeded, if_neg Bool.false_ne_true]
          exact (congrArg Prod.fst hfinish).trans husage
        · rw [hrefused, Bool.or_false]
          exact congrArg Option.isSome ((congrArg Prod.snd hfinish).trans hfatal)

theorem not_endsMessage {env : Env} {chunk : Value} {s : StreamState}
    (h : finishReasonOf chunk = none) : endsMessage env chunk s = false := by
  rw [endsMessage, h, Option.any_none, Bool.and_false]

end LlmUniversalProxy.Streaming
