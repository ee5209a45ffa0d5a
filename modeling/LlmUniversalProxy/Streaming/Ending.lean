import LlmUniversalProxy.Streaming.AnthropicSource
import LlmUniversalProxy.Streaming.Events

/-!
# `Streaming.Ending` — what a source leaves to the sink

The state is one record for both sides of the translation, but a source neither reads nor writes
the fields in which a Responses sink keeps the end of its response: with other values in these
fields it pushes the same chunks, and leaves the values as they are.
-/

set_option autoImplicit false

namespace LlmUniversalProxy.Streaming

open Json Lib

/-- What a Responses sink keeps of the end of its response. -/
structure ResponseEnding where
  terminalSent : Bool
  responseIdOverride : Option String
  terminalResponse : Option Value

namespace StreamState

def ending (s : StreamState) : ResponseEnding :=
  ⟨s.responsesTerminalSent, s.responsesResponseIdOverride, s.responsesTerminalResponse⟩

def withEnding (s : StreamState) (e : ResponseEnding) : StreamState :=
  { s with
    responsesTerminalSent := e.terminalSent
    responsesResponseIdOverride := e.responseIdOverride
    responsesTerminalResponse := e.terminalResponse }

@[simp] theorem ending_withEnding (s : StreamState) (e : ResponseEnding) :
    (s.withEnding e).ending = e := rfl

@[simp] theorem withEnding_ending (s : StreamState) : s.withEnding s.ending = s := rfl

end StreamState

namespace Source

variable (e : ResponseEnding)

def withEnding (k : Source) (e : ResponseEnding) : Source :=
  { k with state := k.state.withEnding e }

@[simp] theorem withEnding_state (k : Source) : (k.withEnding e).state = k.state.withEnding e := rfl

theorem push_withEnding (env : Env) (delta : Value) (k : Source) :
    (k.withEnding e).push env delta = (k.push env delta).withEnding e := rfl

theorem ensureRole_withEnding (env : Env) (k : Source) :
    (k.withEnding e).ensureRole env = (k.ensureRole env).withEnding e := by
  have hsent : (k.withEnding e).state.openaiRoleSent = k.state.openaiRoleSent := rfl
  unfold ensureRole emitOpenaiAssistantRoleIfNeeded
  rw [hsent]
  split <;> rfl

theorem update_withEnding {f : StreamState → StreamState}
    (hf : ∀ s : StreamState, f (s.withEnding e) = (f s).withEnding e) (k : Source) :
    (k.withEnding e).update f = (k.update f).withEnding e :=
  congrArg (Source.mk · k.out) (hf k.state)

theorem foldl_withEnding {α : Type} {f : Source → α → Source}
    (hf : ∀ k x, f (k.withEnding e) x = (f k x).withEnding e) (xs : List α) (k : Source) :
    xs.foldl f (k.withEnding e) = (xs.foldl f k).withEnding e := by
  induction xs generalizing k with
  | nil => rfl
  | cons x xs ih => exact (congrArg (xs.foldl f) (hf k x)).trans (ih _)

end Source

/-! ## The Anthropic source -/

section Anthropic

variable (env : Env) (e : ResponseEnding)

theorem reasoningDelta_withEnding (reasoning : String) (k : Source) :
    emitClaudeReasoningDelta env reasoning (k.withEnding e) =
      (emitClaudeReasoningDelta env reasoning k).withEnding e := by
  unfold emitClaudeReasoningDelta
  split
  · rfl
  · rw [Source.ensureRole_withEnding, Source.push_withEnding]

theorem structuredDelta_withEnding (toolUse : ClaudeToolUseState) (arguments : String)
    (k : Source) :
    emitStructuredClaudeToolUseDelta env toolUse arguments (k.withEnding e) =
      (emitStructuredClaudeToolUseDelta env toolUse arguments k).withEnding e := by
  unfold emitStructuredClaudeToolUseDelta
  split
  · rfl
  · rw [Source.ensureRole_withEnding]
    rfl

theorem updateToolUse_withEnding (blockIndex : Nat) (f : ClaudeToolUseState → ClaudeToolUseState)
    (s : StreamState) :
    updateToolUse blockIndex f (s.withEnding e) = (updateToolUse blockIndex f s).withEnding e := by
  have hlookup : (s.withEnding e).claudeToolUses.lookup blockIndex =
      s.claudeToolUses.lookup blockIndex := rfl
  unfold updateToolUse
  rw [hlookup]
  cases s.claudeToolUses.lookup blockIndex <;> rfl

theorem finalizeToolUse_withEnding (k : Source) (blockIndex : Nat) :
    finalizeClaudeToolUseBlock env (k.withEnding e) blockIndex =
      (finalizeClaudeToolUseBlock env k blockIndex).withEnding e := by
  have hlookup : (k.withEnding e).state.claudeToolUses.lookup blockIndex =
      k.state.claudeToolUses.lookup blockIndex := rfl
  unfold finalizeClaudeToolUseBlock
  rw [hlookup]
  cases k.state.claudeToolUses.lookup blockIndex with
  | none => rfl
  | some toolUse =>
    dsimp only
    split
    · rfl
    · split
      · split
        · exact Source.update_withEnding e (updateToolUse_withEnding e _ _) _
        · rw [structuredDelta_withEnding]
          exact Source.update_withEnding e (updateToolUse_withEnding e _ _) _
      · rw [Source.ensureRole_withEnding, Source.push_withEnding]
        exact Source.update_withEnding e (updateToolUse_withEnding e _ _) _

theorem messageStart_withEnding (event : Value) (s : StreamState) :
    messageStart env event (s.withEnding e) = (messageStart env event s).withEnding e := by
  unfold messageStart
  dsimp only
  rw [← Source.ensureRole_withEnding]
  rfl

theorem thinkingBlockStart_withEnding (event block : Value) (idx : Nat) (s : StreamState) :
    thinkingBlockStart env event block idx (s.withEnding e) =
      (thinkingBlockStart env event block idx s).withEnding e := by
  unfold thinkingBlockStart
  dsimp only
  refine (congrArg (Source.update · _) ?_).trans (Source.update_withEnding e (fun _ => rfl) _)
  split
  · rfl
  · exact reasoningDelta_withEnding env e _ ⟨setBlock idx _ s, []⟩

theorem blockStarted_withEnding (event : Value) (s : StreamState) :
    contentBlockStarted env event (s.withEnding e) =
      (contentBlockStarted env event s).withEnding e := by
  unfold contentBlockStarted
  dsimp only
  split
  · rfl
  · exact thinkingBlockStart_withEnding env e _ _ _ _
  all_goals rfl

theorem blockForDelta_withEnding (deltaType : String) (kind : ClaudeBlockKind) (kindName : String)
    (event : Value) (s : StreamState) :
    blockForDelta deltaType kind kindName event (s.withEnding e) =
      blockForDelta deltaType kind kindName event s := rfl

theorem blockDelta_withEnding (event : Value) (s : StreamState) :
    contentBlockDeltaEvent env event (s.withEnding e) =
      (contentBlockDeltaEvent env event s).withEnding e := by
  unfold contentBlockDeltaEvent
  dsimp only
  split
  · unfold textDelta
    split
    · rfl
    · exact congrArg (Source.push env _) (Source.ensureRole_withEnding e env ⟨s, []⟩)
  · unfold thinkingDelta
    rw [blockForDelta_withEnding]
    split
    · rfl
    · split
      · rfl
      · split
        · rfl
        · exact reasoningDelta_withEnding env e _ ⟨s, []⟩
  · unfold inputJsonDelta
    split
    · rfl
    · exact congrArg (Source.mk · []) (updateToolUse_withEnding e _ _ s)
  · unfold signatureDelta
    rw [blockForDelta_withEnding]
    split
    · rfl
    · split <;> rfl
  · unfold citationsDelta
    rw [blockForDelta_withEnding]
    split
    · rfl
    · dsimp only
      split
      · rfl
      · exact congrArg (Source.push env _) (Source.ensureRole_withEnding e env ⟨setBlock _ _ s, []⟩)
  · rfl
  · rfl

theorem stopBlock_withEnding (idx : Nat) (k : Source) :
    stopBlock env idx (k.withEnding e) = (stopBlock env idx k).withEnding e := by
  have hlookup : (k.withEnding e).state.claudeBlocks.lookup idx =
      k.state.claudeBlocks.lookup idx := rfl
  unfold stopBlock
  dsimp only
  rw [hlookup]
  refine (congrArg (Source.update · _) ?_).trans (Source.update_withEnding e (fun _ => rfl) _)
  cases k.state.claudeBlocks.lookup idx with
  | none => rfl
  | some block =>
    dsimp only
    split
    · split
      · rfl
      · rw [reasoningDelta_withEnding]
        rfl
    · rfl

theorem blockStopped_withEnding (event : Value) (s : StreamState) :
    contentBlockStopped env event (s.withEnding e) =
      (contentBlockStopped env event s).withEnding e := by
  unfold contentBlockStopped
  dsimp only
  refine (congrArg (Source.update · _) ?_).trans (Source.update_withEnding e (fun _ => rfl) _)
  split
  · rfl
  · exact (congrArg (stopBlock env _) (finalizeToolUse_withEnding env e ⟨s, []⟩ _)).trans
      (stopBlock_withEnding env e _ _)

theorem messageStop_withEnding (s : StreamState) :
    messageStop env (s.withEnding e) = (messageStop env s).withEnding e := by
  have hsent : (s.withEnding e).finishReasonSent = s.finishReasonSent := rfl
  unfold messageStop
  rw [hsent]
  split
  · rfl
  · have hpending := Source.foldl_withEnding e (finalizeToolUse_withEnding env e)
      (((hashWalk env s.claudeToolUses).filter fun e => !e.2.finalized).map Prod.fst) ⟨s, []⟩
    have hstart : (⟨s.withEnding e, []⟩ : Source) = (⟨s, []⟩ : Source).withEnding e := rfl
    dsimp only
    rw [show (s.withEnding e).claudeToolUses = s.claudeToolUses from rfl, hstart, hpending]
    rfl

/-- **An Anthropic event goes its way past the end of the response.** -/
theorem claudeEvent_withEnding (event : Value) (s : StreamState) :
    claudeEventToOpenaiChunks env event (s.withEnding e) =
      (claudeEventToOpenaiChunks env event s).withEnding e := by
  have hfatal : (s.withEnding e).fatalRejection = s.fatalRejection := rfl
  unfold claudeEventToOpenaiChunks
  rw [hfatal]
  split
  · rfl
  · split
    · exact messageStart_withEnding env e event s
    · exact blockStarted_withEnding env e event s
    · exact blockDelta_withEnding env e event s
    · exact blockStopped_withEnding env e event s
    · rfl
    · exact messageStop_withEnding env e s
    · rfl

end Anthropic

/-! ## The chunks of an event -/

section Chunks

variable (env : Env) (e : ResponseEnding)

/-- Frames, or chunks, and a state whose ending is another one. -/
def withEndingOf {α : Type} (output : α × StreamState) (e : ResponseEnding) : α × StreamState :=
  (output.1, output.2.withEnding e)

theorem singleChoice_withEnding (chunk : Value) (s : StreamState) :
    ensureSingleOpenaiChoice env chunk (s.withEnding e) =
      withEndingOf (ensureSingleOpenaiChoice env chunk s) e := by
  unfold ensureSingleOpenaiChoice
  dsimp only
  split
  · rfl
  · next choice _ =>
    have hindex : (captureChunk chunk (s.withEnding e)).openaiChoiceIndex =
        (captureChunk chunk s).openaiChoiceIndex := rfl
    rw [hindex]
    split <;> rfl
  · rfl

theorem upstreamChunks_withEnding {upstreamFormat : UpstreamFormat}
    (hformat : upstreamFormat ≠ .openAiResponses) (clientFormat : UpstreamFormat) (event : Value)
    (s : StreamState) :
    upstreamChunks env upstreamFormat clientFormat event (s.withEnding e) =
      withEndingOf (upstreamChunks env upstreamFormat clientFormat event s) e := by
  cases upstreamFormat with
  | anthropic =>
    exact congrArg (fun k : Source => (k.out, k.state)) (claudeEvent_withEnding env e event s)
  | openAiResponses => exact absurd rfl hformat
  | openAiChatCompletions =>
    unfold upstreamChunks
    dsimp only
    split
    · rfl
    · split
      · rfl
      · exact singleChoice_withEnding env e _ s

theorem validatedChunks_withEnding (chunks : List Value) (s : StreamState) :
    validateOpenaiChunks env chunks (s.withEnding e) =
      withEndingOf (validateOpenaiChunks env chunks s) e := by
  unfold validateOpenaiChunks
  split <;> rfl

theorem upstreamChunks_ending {upstreamFormat : UpstreamFormat}
    (hformat : upstreamFormat ≠ .openAiResponses) (clientFormat : UpstreamFormat) (event : Value)
    (s : StreamState) :
    (upstreamChunks env upstreamFormat clientFormat event s).2.ending = s.ending :=
  congrArg (fun output => output.2.ending)
    (upstreamChunks_withEnding env s.ending hformat clientFormat event s)

theorem validatedChunks_ending (chunks : List Value) (s : StreamState) :
    (validateOpenaiChunks env chunks s).2.ending = s.ending :=
  congrArg (fun output => output.2.ending) (validatedChunks_withEnding env s.ending chunks s)

end Chunks

end LlmUniversalProxy.Streaming
