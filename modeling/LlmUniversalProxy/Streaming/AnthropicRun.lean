import LlmUniversalProxy.Streaming.AnthropicSource
import LlmUniversalProxy.Streaming.Folded

/-!
# `Streaming.AnthropicRun` — a stream of Anthropic events, from its start to its end

The chunks of a run are those of its events, one behind the other. Between the start of a message
and its end, an event that is not refused leaves alone what the end of the message depends on.
-/

set_option autoImplicit false

namespace LlmUniversalProxy.Streaming

open Json Lib Translate

/-- One event more. -/
def runEvent (step : SourceStep) (k : Source) (event : Value) : Source :=
  ⟨(step event k.state).state, k.out ++ (step event k.state).out⟩

/-- The chunks of some events, and the state behind them. -/
def runEvents (step : SourceStep) (events : List Value) (k : Source) : Source :=
  events.foldl (runEvent step) k

@[simp] theorem runEvents_nil (step : SourceStep) (k : Source) : runEvents step [] k = k := rfl

@[simp] theorem runEvents_cons (step : SourceStep) (event : Value) (events : List Value)
    (k : Source) :
    runEvents step (event :: events) k = runEvents step events (runEvent step k event) := rfl

theorem runEvents_append (step : SourceStep) (xs ys : List Value) (k : Source) :
    runEvents step (xs ++ ys) k = runEvents step ys (runEvents step xs k) := List.foldl_append

/-- The middle of a message: neither its start nor its end. -/
def IsMiddle (event : Value) : Prop :=
  event.getStr "type" ≠ some "message_start" ∧ event.getStr "type" ≠ some "message_stop"

/-! ## What is kept -/

/-- What the end of a message reads is as it was, and the role is not taken back. -/
structure Kept (s s' : StreamState) : Prop where
  usage : s'.usage = s.usage
  finishReasonSent : s'.finishReasonSent = s.finishReasonSent
  role : s.openaiRoleSent = true → s'.openaiRoleSent = true

namespace Kept

theorem refl (s : StreamState) : Kept s s := ⟨rfl, rfl, id⟩

theorem trans {s₁ s₂ s₃ : StreamState} (h : Kept s₁ s₂) (h' : Kept s₂ s₃) : Kept s₁ s₃ where
  usage := h'.usage.trans h.usage
  finishReasonSent := h'.finishReasonSent.trans h.finishReasonSent
  role := h'.role ∘ h.role

theorem update {s : StreamState} {k : Source} (h : Kept s k.state) {f : StreamState → StreamState}
    (hf : ∀ t, Kept t (f t)) : Kept s (k.update f).state := h.trans (hf k.state)

end Kept

section

variable (env : Env)

theorem kept_ensureRole (k : Source) : Kept k.state (k.ensureRole env).state := by
  unfold Source.ensureRole emitOpenaiAssistantRoleIfNeeded
  split
  · exact .refl _
  · exact ⟨rfl, rfl, fun _ => rfl⟩

theorem kept_reasoning (reasoning : String) (k : Source) :
    Kept k.state (emitClaudeReasoningDelta env reasoning k).state := by
  unfold emitClaudeReasoningDelta
  split
  · exact .refl _
  · exact kept_ensureRole env k

theorem kept_updateToolUse (blockIndex : Nat) (f : ClaudeToolUseState → ClaudeToolUseState)
    (s : StreamState) : Kept s (updateToolUse blockIndex f s) := by
  unfold updateToolUse
  split
  · exact ⟨rfl, rfl, id⟩
  · exact .refl s

theorem kept_finalize (k : Source) (blockIndex : Nat) :
    Kept k.state (finalizeClaudeToolUseBlock env k blockIndex).state := by
  unfold finalizeClaudeToolUseBlock
  split
  · exact .refl _
  · split
    · exact .refl _
    · split
      · split
        · exact kept_updateToolUse _ _ _
        · refine Kept.trans ?_ (kept_updateToolUse _ _ _)
          unfold emitStructuredClaudeToolUseDelta
          split
          · exact .refl _
          · exact kept_ensureRole env k
      · exact (kept_ensureRole env k).trans (kept_updateToolUse _ _ _)

theorem kept_finalizeAll (indices : List Nat) (k : Source) :
    Kept k.state (indices.foldl (finalizeClaudeToolUseBlock env) k).state := by
  induction indices generalizing k with
  | nil => exact .refl _
  | cons index indices ih => exact (kept_finalize env k index).trans (ih _)

theorem role_ensureRole (k : Source) : (k.ensureRole env).state.openaiRoleSent = true := by
  unfold Source.ensureRole emitOpenaiAssistantRoleIfNeeded
  split
  · next h => exact h
  · rfl

theorem kept_messageStart (event : Value) (s : StreamState) :
    Kept s (messageStart env event s).state := by
  show Kept s (Source.ensureRole env ⟨_, []⟩).state
  refine Kept.trans ?_ (kept_ensureRole env _)
  exact ⟨rfl, rfl, id⟩

theorem role_messageStart (event : Value) (s : StreamState) :
    (messageStart env event s).state.openaiRoleSent = true := role_ensureRole env _

theorem rejected_ne (s : StreamState) (message : String) :
    (rejectAnthropicEvent env s message).state.fatalRejection ≠ none := by
  show s.fatalRejection.or _ ≠ none
  cases s.fatalRejection with
  | none => exact Option.some_ne_none _
  | some other => exact Option.some_ne_none _

theorem kept_thinkingStart (event block : Value) (idx : Nat) (s : StreamState) :
    Kept s (thinkingBlockStart env event block idx s).state := by
  unfold thinkingBlockStart
  refine Kept.update ?_ fun t => ⟨rfl, rfl, id⟩
  split
  · exact ⟨rfl, rfl, id⟩
  · refine Kept.trans ?_ (kept_reasoning env _ _)
    exact ⟨rfl, rfl, id⟩

theorem kept_blockStart {event : Value} {s : StreamState}
    (h : (contentBlockStarted env event s).state.fatalRejection = none) :
    Kept s (contentBlockStarted env event s).state := by
  revert h
  unfold contentBlockStarted
  dsimp only
  split <;> intro h
  · exact ⟨rfl, rfl, id⟩
  · exact kept_thinkingStart env event _ _ s
  · exact ⟨rfl, rfl, id⟩
  · exact ⟨rfl, rfl, id⟩
  · exact absurd h (rejected_ne env s _)
  · exact absurd h (rejected_ne env s _)
  · exact absurd h (rejected_ne env s _)

theorem kept_thinkingDelta {event delta : Value} {s : StreamState}
    (h : (thinkingDelta env event delta s).state.fatalRejection = none) :
    Kept s (thinkingDelta env event delta s).state := by
  revert h
  unfold thinkingDelta
  split <;> intro h
  · exact absurd h (rejected_ne env s _)
  · split
    · exact .refl s
    · split
      · exact ⟨rfl, rfl, id⟩
      · exact kept_reasoning env _ ⟨s, []⟩

theorem kept_signatureDelta {event delta : Value} {s : StreamState}
    (h : (signatureDelta env event delta s).state.fatalRejection = none) :
    Kept s (signatureDelta env event delta s).state := by
  revert h
  unfold signatureDelta
  split <;> intro h
  · exact absurd h (rejected_ne env s _)
  · split
    · exact .refl s
    · exact ⟨rfl, rfl, id⟩

theorem kept_citationsDelta {event delta : Value} {s : StreamState}
    (h : (citationsDelta env event delta s).state.fatalRejection = none) :
    Kept s (citationsDelta env event delta s).state := by
  revert h
  unfold citationsDelta
  dsimp only
  split <;> intro h
  · exact absurd h (rejected_ne env s _)
  · split
    · exact .refl s
    · refine Kept.trans ?_ (kept_ensureRole env _)
      exact ⟨rfl, rfl, id⟩

theorem kept_blockDelta {event : Value} {s : StreamState}
    (h : (contentBlockDeltaEvent env event s).state.fatalRejection = none) :
    Kept s (contentBlockDeltaEvent env event s).state := by
  revert h
  unfold contentBlockDeltaEvent
  dsimp only
  split <;> intro h
  · unfold textDelta
    split
    · exact .refl s
    · exact kept_ensureRole env ⟨s, []⟩
  · exact kept_thinkingDelta env h
  · unfold inputJsonDelta
    split
    · exact .refl s
    · exact kept_updateToolUse _ _ s
  · exact kept_signatureDelta env h
  · exact kept_citationsDelta env h
  · exact absurd h (rejected_ne env s _)
  · exact absurd h (rejected_ne env s _)

theorem kept_stopBlock (idx : Nat) (k : Source) : Kept k.state (stopBlock env idx k).state := by
  unfold stopBlock
  refine Kept.update ?_ fun t => ⟨rfl, rfl, id⟩
  split
  · exact .refl _
  · split
    · refine Kept.update ?_ fun t => ⟨rfl, rfl, id⟩
      split
      · exact .refl _
      · exact kept_reasoning env _ _
    · exact .refl _

theorem kept_blockStop (event : Value) (s : StreamState) :
    Kept s (contentBlockStopped env event s).state := by
  unfold contentBlockStopped
  refine Kept.update ?_ fun t => ⟨rfl, rfl, id⟩
  split
  · exact .refl s
  · exact (kept_finalize env ⟨s, []⟩ _).trans (kept_stopBlock env _ _)

/-- Nothing comes behind a rejection. -/
theorem accepted_before {event : Value} {s : StreamState}
    (h : (claudeEventToOpenaiChunks env event s).state.fatalRejection = none) :
    s.fatalRejection = none := by
  by_contra hs
  unfold claudeEventToOpenaiChunks at h
  rw [if_pos (Option.isSome_iff_ne_none.mpr hs)] at h
  exact hs h

theorem accepted_before_run {events : List Value} {k : Source}
    (h : (runEvents (claudeEventToOpenaiChunks env) events k).state.fatalRejection = none) :
    k.state.fatalRejection = none := by
  induction events generalizing k with
  | nil => exact h
  | cons event events ih =>
    have hnext := ih (k := runEvent (claudeEventToOpenaiChunks env) k event) h
    exact accepted_before env hnext

/-- **An event in the middle of a message leaves alone what its end reads**, the usage of a
`message_delta` apart. -/
theorem kept_event {event : Value} {s : StreamState}
    (haccepted : (claudeEventToOpenaiChunks env event s).state.fatalRejection = none)
    (hdelta : event.getStr "type" ≠ some "message_delta")
    (hstop : event.getStr "type" ≠ some "message_stop") :
    Kept s (claudeEventToOpenaiChunks env event s).state := by
  have hnot : ¬ s.fatalRejection.isSome = true := by
    rw [accepted_before env haccepted]
    exact Bool.false_ne_true
  revert haccepted
  unfold claudeEventToOpenaiChunks
  rw [if_neg hnot]
  split <;> intro haccepted
  · exact kept_messageStart env event s
  · exact kept_blockStart env haccepted
  · exact kept_blockDelta env haccepted
  · exact kept_blockStop env event s
  · next htype => exact absurd htype hdelta
  · next htype => exact absurd htype hstop
  · exact .refl s

theorem event_messageDelta {event : Value} {s : StreamState} (hs : s.fatalRejection = none)
    (htype : event.getStr "type" = some "message_delta") :
    claudeEventToOpenaiChunks env event s = ⟨messageDeltaEvent event s, []⟩ := by
  unfold claudeEventToOpenaiChunks
  simp only [hs, htype, Option.isSome_none, Bool.false_eq_true, if_false]

theorem event_messageStop {event : Value} {s : StreamState} (hs : s.fatalRejection = none)
    (htype : event.getStr "type" = some "message_stop") :
    claudeEventToOpenaiChunks env event s = messageStop env s := by
  unfold claudeEventToOpenaiChunks
  simp only [hs, htype, Option.isSome_none, Bool.false_eq_true, if_false]

end

end LlmUniversalProxy.Streaming
