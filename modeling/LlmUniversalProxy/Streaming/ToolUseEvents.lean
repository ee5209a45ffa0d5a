import LlmUniversalProxy.Streaming.AnthropicStreamed
import LlmUniversalProxy.Streaming.BlockChunks

/-!
# `Streaming.ToolUseEvents` — what an event of a message does to its tool calls

The state of a stream has an entry for each tool call, by the index of its block, until the block
stops. Most events leave the entries alone (`calls_ensureRole` and its kin), one for a delta adds to
the input that is held back, and one for the end sends the call (`finalize_claude_tool_use_block`,
`anthropic_source.rs` 60-160). The lemmas say so event by event and without a run, so that the block
of one call can be followed between the events of any others.
-/

set_option autoImplicit false

namespace LlmUniversalProxy.Streaming

open Json Lib Translate

/-! ## Tool calls that an event leaves alone -/

section

variable (env : Env)

theorem calls_ensureRole (k : Source) :
    (k.ensureRole env).state.claudeToolUses = k.state.claudeToolUses := by
  unfold Source.ensureRole emitOpenaiAssistantRoleIfNeeded
  split <;> rfl

theorem calls_reasoning (reasoning : String) (k : Source) :
    (emitClaudeReasoningDelta env reasoning k).state.claudeToolUses = k.state.claudeToolUses := by
  unfold emitClaudeReasoningDelta
  split
  · rfl
  · exact calls_ensureRole env k

theorem calls_reject (s : StreamState) (message : String) :
    (rejectAnthropicEvent env s message).state.claudeToolUses = s.claudeToolUses := rfl

theorem calls_thinkingStart (event block : Value) (idx : Nat) (s : StreamState) :
    (thinkingBlockStart env event block idx s).state.claudeToolUses = s.claudeToolUses := by
  unfold thinkingBlockStart
  dsimp only [Source.update]
  split
  · rfl
  · exact calls_reasoning env _ _

theorem calls_textDelta (delta : Value) (s : StreamState) :
    (textDelta env delta s).state.claudeToolUses = s.claudeToolUses := by
  unfold textDelta
  split
  · rfl
  · exact calls_ensureRole env _

theorem calls_thinkingDelta (event delta : Value) (s : StreamState) :
    (thinkingDelta env event delta s).state.claudeToolUses = s.claudeToolUses := by
  unfold thinkingDelta
  split
  · rfl
  · split
    · rfl
    · split
      · rfl
      · exact calls_reasoning env _ _

theorem calls_signatureDelta (event delta : Value) (s : StreamState) :
    (signatureDelta env event delta s).state.claudeToolUses = s.claudeToolUses := by
  unfold signatureDelta
  split
  · rfl
  · split <;> rfl

theorem calls_citationsDelta (event delta : Value) (s : StreamState) :
    (citationsDelta env event delta s).state.claudeToolUses = s.claudeToolUses := by
  unfold citationsDelta
  split
  · rfl
  · dsimp only
    split
    · rfl
    · exact calls_ensureRole env _

theorem calls_stopBlock (idx : Nat) (k : Source) :
    (stopBlock env idx k).state.claudeToolUses = k.state.claudeToolUses := by
  unfold stopBlock
  dsimp only [Source.update]
  split
  · rfl
  · split
    · dsimp only
      split
      · rfl
      · exact calls_reasoning env _ _
    · rfl

/-! ## Tool calls that an event changes -/

theorem lookup_updateToolUse (blockIndex index : Nat)
    (f : ClaudeToolUseState → ClaudeToolUseState) (s : StreamState) :
    (updateToolUse blockIndex f s).claudeToolUses.lookup index =
      if index = blockIndex then (s.claudeToolUses.lookup index).map f
      else s.claudeToolUses.lookup index := by
  unfold updateToolUse
  cases hlookup : s.claudeToolUses.lookup blockIndex with
  | none =>
    by_cases hindex : index = blockIndex
    · rw [if_pos hindex, hindex, hlookup]
      rfl
    · rw [if_neg hindex]
  | some toolUse =>
    show (s.claudeToolUses.insert blockIndex (f toolUse)).lookup index = _
    rw [FinMap.lookup_insert_eq]
    split
    · next hindex =>
      rw [hindex, hlookup]
      rfl
    · rfl

/-- The end of a block says nothing of another one. -/
theorem lookup_finalize_ne (k : Source) {blockIndex index : Nat} (h : index ≠ blockIndex) :
    (finalizeClaudeToolUseBlock env k blockIndex).state.claudeToolUses.lookup index =
      k.state.claudeToolUses.lookup index := by
  unfold finalizeClaudeToolUseBlock
  split
  · rfl
  · split
    · rfl
    · split
      · split
        · rw [Source.update_state, lookup_updateToolUse, if_neg h]
        · rw [Source.update_state, lookup_updateToolUse, if_neg h]
          unfold emitStructuredClaudeToolUseDelta
          split
          · rfl
          · rw [Source.pushToolCall_state, calls_ensureRole]
      · rw [Source.update_state, lookup_updateToolUse, if_neg h, Source.push_state,
          calls_ensureRole]

theorem role_finalize {k : Source} (h : k.state.openaiRoleSent = true) (index : Nat) :
    (finalizeClaudeToolUseBlock env k index).state.openaiRoleSent = true :=
  (kept_finalize env k index).role h

/-- A block that is finished stays as it is. -/
theorem finalize_done {k : Source} {index : Nat} {toolUse : ClaudeToolUseState}
    (hlookup : k.state.claudeToolUses.lookup index = some toolUse)
    (hdone : toolUse.finalized = true) : finalizeClaudeToolUseBlock env k index = k := by
  unfold finalizeClaudeToolUseBlock
  rw [hlookup]
  exact if_pos hdone

end

/-! ## The end of a block -/

def callDelta (openaiIndex : Nat) (id : Option Value) (name arguments : String) : Value :=
  .ofFields [("tool_calls", .array [.ofFields [("index", .nat openaiIndex), ("id", .ofOption id),
    ("type", .string "function"),
    ("function", .ofFields [("name", .string name), ("arguments", .string arguments)])]])]

/-- The delta of a text that stands in for a tool call. -/
def replayDelta (name raw : String) : Value :=
  .ofFields [("content", .string (anthropicToolUsePartialReplayText name raw))]

def closingDelta (serde : Serde) (toolUse : ClaudeToolUseState) : Value :=
  match structuredFinal serde toolUse with
  | some arguments => callDelta toolUse.openaiIndex toolUse.id toolUse.name arguments
  | none => replayDelta toolUse.name toolUse.arguments

theorem structuredFinal_nonempty {serde : Serde} {toolUse : ClaudeToolUseState}
    {arguments : String} (h : structuredFinal serde toolUse = some arguments) :
    arguments.isEmpty = false := by
  unfold structuredFinal at h
  split at h
  · cases h
    rfl
  · split at h
    · next hvalid =>
      cases h
      refine Bool.eq_false_iff.mpr fun hempty => ?_
      rw [String.isEmpty_iff.mp hempty] at hvalid
      exact absurd hvalid (by simp [rawJsonIsValidObjectAnthropicSource, Text.isBlank, Text.trim,
        Text.trimStartChars, Text.trimEndChars])
    · cases h

/-- A tool call of the client's that nothing has gone out for yet. -/
structure Waiting (toolUse : ClaudeToolUseState) : Prop where
  unfinished : toolUse.finalized = false
  silent : toolUse.startArgumentsEmitted = false
  plain : toolUse.proxiedToolKind = none

section

variable (env : Env) {k : Source} {index : Nat} {toolUse : ClaudeToolUseState}

theorem ensureRole_of_sent (h : k.state.openaiRoleSent = true) : k.ensureRole env = k := by
  unfold Source.ensureRole emitOpenaiAssistantRoleIfNeeded
  rw [if_pos h, List.append_nil]

theorem finalize_waiting (hlookup : k.state.claudeToolUses.lookup index = some toolUse)
    (hwaiting : Waiting toolUse) (hrole : k.state.openaiRoleSent = true) :
    (finalizeClaudeToolUseBlock env k index).out =
        k.out ++ [openaiChunk env k.state (closingDelta env.serde toolUse) none] ∧
      ∃ done, (finalizeClaudeToolUseBlock env k index).state.claudeToolUses.lookup index =
        some done ∧ done.finalized = true := by
  unfold finalizeClaudeToolUseBlock closingDelta
  rw [hlookup]
  dsimp only
  rw [if_neg (by rw [hwaiting.unfinished]; exact Bool.false_ne_true), ensureRole_of_sent env hrole]
  cases hfinal : structuredFinal env.serde toolUse with
  | none =>
    refine ⟨rfl, toolUse.finish, ?_, rfl⟩
    rw [Source.update_state, lookup_updateToolUse, if_pos rfl, Source.push_state, hlookup]
    rfl
  | some arguments =>
    dsimp only
    rw [if_neg (by rw [hwaiting.silent]; exact Bool.false_ne_true)]
    have hemit : emitStructuredClaudeToolUseDelta env toolUse arguments k =
        k.push env (callDelta toolUse.openaiIndex toolUse.id toolUse.name arguments) := by
      unfold emitStructuredClaudeToolUseDelta
      rw [structuredFinal_nonempty hfinal, if_neg Bool.false_ne_true, hwaiting.plain,
        ensureRole_of_sent env hrole]
      rfl
    rw [hemit]
    refine ⟨rfl, { toolUse.finish with arguments := arguments, startArgumentsEmitted := true }, ?_,
      rfl⟩
    rw [Source.update_state, lookup_updateToolUse, if_pos rfl, Source.push_state, hlookup]
    rfl

theorem fst_mem_closings {indices : List Nat} {k : Source} {e : Nat × Value}
    (h : e ∈ closings env indices k) : e.1 ∈ indices := by
  induction indices generalizing k with
  | nil => cases h
  | cons first rest ih =>
    rcases List.mem_append.mp h with h | h
    · obtain ⟨chunk, _, rfl⟩ := List.mem_map.mp h
      exact List.mem_cons_self
    · exact List.mem_cons_of_mem _ (ih h)

theorem closings_other {indices : List Nat} (h : index ∉ indices) (k : Source) :
    (closings env indices k).filter (fun e => e.1 = index) = [] := by
  refine List.filter_eq_nil_iff.mpr fun e he hindex => h ?_
  rw [← of_decide_eq_true hindex]
  exact fst_mem_closings env he

/-- Of the chunks that close some blocks, one is for a block that has been waiting. -/
theorem closings_waiting {indices : List Nat} (hnodup : indices.Nodup)
    (hlookup : k.state.claudeToolUses.lookup index = some toolUse) (hwaiting : Waiting toolUse)
    (hrole : k.state.openaiRoleSent = true) :
    ((closings env indices k).filter fun e => e.1 = index).map (fun e => deltaOf e.2) =
      if index ∈ indices then [closingDelta env.serde toolUse] else [] := by
  induction indices generalizing k with
  | nil => rfl
  | cons first rest ih =>
    obtain ⟨hfirst, hrest⟩ := List.nodup_cons.mp hnodup
    rw [closings, List.filter_append, List.map_append]
    by_cases hsame : index = first
    · -- The block is closed now, and does not come again.
      subst hsame
      obtain ⟨hout, _⟩ := finalize_waiting env hlookup hwaiting hrole
      rw [closings_other env hfirst, hout, List.drop_left, if_pos List.mem_cons_self]
      simp [deltaOf_openaiChunk]
    · have hnext := ih hrest ((lookup_finalize_ne env k hsame).trans hlookup)
        (role_finalize env hrole first)
      have hother : ∀ chunks : List Value,
          (chunks.map (first, ·)).filter (fun e => e.1 = index) = [] := by
        intro chunks
        refine List.filter_eq_nil_iff.mpr fun e he hindex => hsame ?_
        obtain ⟨chunk, _, rfl⟩ := List.mem_map.mp he
        exact (of_decide_eq_true hindex).symm
      rw [hnext, hother, List.map_nil, List.nil_append]
      simp only [List.mem_cons, hsame, false_or]

/-- A block that is done is not closed again. -/
theorem closings_done (indices : List Nat)
    (hlookup : k.state.claudeToolUses.lookup index = some toolUse)
    (hdone : toolUse.finalized = true) :
    (closings env indices k).filter (fun e => e.1 = index) = [] ∧
      (indices.foldl (finalizeClaudeToolUseBlock env) k).state.claudeToolUses.lookup index =
        some toolUse := by
  induction indices generalizing k with
  | nil => exact ⟨rfl, hlookup⟩
  | cons first rest ih =>
    rw [closings, List.filter_append, List.foldl_cons]
    by_cases hsame : index = first
    · subst hsame
      rw [finalize_done env hlookup hdone, List.drop_length]
      exact ih hlookup
    · obtain ⟨hrest, hkept⟩ := ih ((lookup_finalize_ne env k hsame).trans hlookup)
      refine ⟨?_, hkept⟩
      rw [hrest, List.append_nil]
      refine List.filter_eq_nil_iff.mpr fun e he hindex => hsame ?_
      obtain ⟨chunk, _, rfl⟩ := List.mem_map.mp he
      exact (of_decide_eq_true hindex).symm

end

end LlmUniversalProxy.Streaming
