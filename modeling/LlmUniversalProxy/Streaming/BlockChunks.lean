import LlmUniversalProxy.Streaming.AnthropicRun

/-!
# `Streaming.BlockChunks` — which chunks close a block of Anthropic

A chunk does not say which block it is for. `blockChunks` does, and `out_eq_blockChunks` says that
these are the chunks of the source, and that its other chunks have no tool call and no text but that
of a `text_delta`.
-/

set_option autoImplicit false

namespace LlmUniversalProxy.Streaming

open Json Lib Translate

/-! ## The chunks of a block -/

/-- The chunks with which blocks are closed, one block after the other. -/
def closings (env : Env) : List Nat → Source → List (Nat × Value)
  | [], _ => []
  | index :: rest, k =>
      ((finalizeClaudeToolUseBlock env k index).out.drop k.out.length).map (index, ·) ++
        closings env rest (finalizeClaudeToolUseBlock env k index)

def closedBlocks (env : Env) (event : Value) (s : StreamState) : List Nat :=
  if s.fatalRejection.isSome then []
  else if event.getStr "type" = some "content_block_stop" then (blockIndexOf event).toList
  else if event.getStr "type" = some "message_stop" ∧ s.finishReasonSent = false then
    ((hashWalk env s.claudeToolUses).filter fun e => !e.2.finalized).map Prod.fst
  else []

/-- The chunks of an event that close a block, with the block. -/
def blockChunks (env : Env) (event : Value) (s : StreamState) : List (Nat × Value) :=
  closings env (closedBlocks env event s) ⟨s, []⟩

theorem closedBlocks_middle (env : Env) {event : Value} {s : StreamState}
    (hblock : event.getStr "type" ≠ some "content_block_stop")
    (hmessage : event.getStr "type" ≠ some "message_stop") : closedBlocks env event s = [] := by
  unfold closedBlocks
  simp only [hblock, hmessage, false_and, if_false, ite_self]

theorem blockChunks_middle (env : Env) {event : Value} {s : StreamState}
    (hblock : event.getStr "type" ≠ some "content_block_stop")
    (hmessage : event.getStr "type" ≠ some "message_stop") : blockChunks env event s = [] := by
  unfold blockChunks
  rw [closedBlocks_middle env hblock hmessage]
  rfl

def chunksOfBlock (env : Env) (index : Nat) : List Value → StreamState → List Value
  | [], _ => []
  | event :: events, s =>
      ((blockChunks env event s).filter fun e => e.1 = index).map Prod.snd ++
        chunksOfBlock env index events (claudeEventToOpenaiChunks env event s).state

def deltaOf (chunk : Value) : Value :=
  ((((chunk.getArray "choices").getD []).head?.getD .null).get "delta").getD .null

theorem deltaOf_openaiChunk (env : Env) (s : StreamState) (delta : Value)
    (finishReason : Option String) :
    deltaOf (openaiChunk env s delta finishReason) = delta := by
  have hchoices : (openaiChunk env s delta finishReason).getArray "choices" =
      some [.ofFields [("index", .nat 0), ("delta", delta),
        ("finish_reason", .ofOptionStr finishReason)]] := by
    rw [openaiChunk, Value.getArray, Value.get_ofFields]
    rfl
  unfold deltaOf
  rw [hchoices]
  show (Value.get (.ofFields _) "delta").getD .null = delta
  rw [Value.get_ofFields]
  rfl

theorem deltaOf_set (chunk x : Value) {key : String} (h : "choices" ≠ key) :
    deltaOf (chunk.set key x) = deltaOf chunk := by
  unfold deltaOf Value.getArray
  rw [Value.get_set_of_ne chunk x h]

/-! ## The other chunks -/

/-- A chunk with no tool call, and with no text but that of a `text_delta`. -/
def IsBeside (event chunk : Value) : Prop :=
  (deltaOf chunk).get "tool_calls" = none ∧
    (((deltaOf chunk).get "content").isSome = true →
      event.getStr "type" = some "content_block_delta" ∧
        ((event.get "delta").bind (Value.getStr · "type")) = some "text_delta")

/-- The source has pushed such chunks, and no others. -/
def PushesBeside (event : Value) (k k' : Source) : Prop :=
  ∃ chunks, k'.out = k.out ++ chunks ∧ ∀ chunk ∈ chunks, IsBeside event chunk

namespace PushesBeside

variable {event : Value}

theorem refl (k : Source) : PushesBeside event k k :=
  ⟨[], (List.append_nil _).symm, fun _ h => (nomatch h)⟩

theorem trans {k₁ k₂ k₃ : Source} (h : PushesBeside event k₁ k₂) (h' : PushesBeside event k₂ k₃) :
    PushesBeside event k₁ k₃ := by
  obtain ⟨xs, hout, hall⟩ := h
  obtain ⟨ys, hout', hall'⟩ := h'
  refine ⟨xs ++ ys, by rw [hout', hout, List.append_assoc], fun chunk hchunk => ?_⟩
  rcases List.mem_append.mp hchunk with hx | hy
  · exact hall chunk hx
  · exact hall' chunk hy

theorem update {k k' : Source} (h : PushesBeside event k k') (f : StreamState → StreamState) :
    PushesBeside event k (k'.update f) := h

/-- What is pushed does not depend on the state before. -/
theorem out_congr {k₁ k₂ k' : Source} (h : PushesBeside event k₁ k') (hout : k₂.out = k₁.out) :
    PushesBeside event k₂ k' := by
  unfold PushesBeside at h ⊢
  rw [hout]
  exact h

end PushesBeside

section

variable (env : Env) {event : Value}

theorem beside_silent {s : StreamState} {fields : List (String × Value)}
    {finishReason : Option String} (hcalls : fields.lookup "tool_calls" = none)
    (hcontent : fields.lookup "content" = none) :
    IsBeside event (openaiChunk env s (.ofFields fields) finishReason) := by
  unfold IsBeside
  rw [deltaOf_openaiChunk, Value.get_ofFields, Value.get_ofFields, hcalls, hcontent]
  exact ⟨rfl, fun h => (nomatch h)⟩

theorem beside_set {chunk x : Value} {key : String} (h : IsBeside event chunk)
    (hkey : "choices" ≠ key) : IsBeside event (chunk.set key x) := by
  unfold IsBeside
  rw [deltaOf_set chunk x hkey]
  exact h

theorem pushesBeside_ensureRole (k : Source) : PushesBeside event k (k.ensureRole env) := by
  unfold Source.ensureRole emitOpenaiAssistantRoleIfNeeded
  split
  · exact ⟨[], rfl, fun _ h => (nomatch h)⟩
  · refine ⟨_, rfl, fun chunk hchunk => ?_⟩
    rw [List.mem_singleton.mp hchunk]
    exact beside_silent env rfl rfl

theorem pushesBeside_push {k : Source} {delta : Value}
    (h : IsBeside event (openaiChunk env k.state delta none)) :
    PushesBeside event k (k.push env delta) := by
  refine ⟨_, rfl, fun chunk hchunk => ?_⟩
  rw [List.mem_singleton.mp hchunk]
  exact h

theorem pushesBeside_reasoning (reasoning : String) (k : Source) :
    PushesBeside event k (emitClaudeReasoningDelta env reasoning k) := by
  unfold emitClaudeReasoningDelta
  split
  · exact .refl k
  · exact (pushesBeside_ensureRole env k).trans
      (pushesBeside_push env (beside_silent env rfl rfl))

theorem pushesBeside_reject (s : StreamState) (message : String) :
    PushesBeside event ⟨s, []⟩ (rejectAnthropicEvent env s message) := by
  unfold rejectAnthropicEvent rejectOpenaiStream markStreamFatalRejection
  refine ⟨_, rfl, fun chunk hchunk => ?_⟩
  rw [List.mem_singleton.mp hchunk]
  refine beside_set ?_ (by decide)
  dsimp only
  split
  · exact beside_set (beside_silent env rfl rfl) (by decide)
  · exact beside_silent env rfl rfl

theorem pushesBeside_thinkingStart (block : Value) (idx : Nat) (s : StreamState) :
    PushesBeside event ⟨s, []⟩ (thinkingBlockStart env event block idx s) := by
  unfold thinkingBlockStart
  refine PushesBeside.update ?_ _
  split
  · exact ⟨[], rfl, fun _ h => (nomatch h)⟩
  · exact (pushesBeside_reasoning env _ _).out_congr rfl

theorem pushesBeside_blockStart (s : StreamState) :
    PushesBeside event ⟨s, []⟩ (contentBlockStarted env event s) := by
  have hquiet : ∀ s' : StreamState, PushesBeside event ⟨s, []⟩ ⟨s', []⟩ :=
    fun s' => (PushesBeside.refl ⟨s', []⟩).out_congr rfl
  unfold contentBlockStarted
  dsimp only
  split
  · exact hquiet _
  · exact pushesBeside_thinkingStart env _ _ s
  · exact hquiet _
  · exact hquiet _
  all_goals exact pushesBeside_reject env s _

theorem pushesBeside_textDelta {delta : Value} (s : StreamState)
    (htype : event.getStr "type" = some "content_block_delta")
    (hdelta : (event.get "delta").bind (Value.getStr · "type") = some "text_delta") :
    PushesBeside event ⟨s, []⟩ (textDelta env delta s) := by
  unfold textDelta
  split
  · exact .refl _
  · refine (pushesBeside_ensureRole env _).trans (pushesBeside_push env ⟨?_, fun _ => ⟨htype, hdelta⟩⟩)
    rw [deltaOf_openaiChunk, Value.get_ofFields]
    rfl

theorem pushesBeside_thinkingDelta (delta : Value) (s : StreamState) :
    PushesBeside event ⟨s, []⟩ (thinkingDelta env event delta s) := by
  unfold thinkingDelta
  split
  · exact pushesBeside_reject env s _
  · split
    · exact .refl _
    · split
      · exact (PushesBeside.refl _).out_congr rfl
      · exact pushesBeside_reasoning env _ _

theorem pushesBeside_signatureDelta (delta : Value) (s : StreamState) :
    PushesBeside event ⟨s, []⟩ (signatureDelta env event delta s) := by
  unfold signatureDelta
  split
  · exact pushesBeside_reject env s _
  · split <;> exact (PushesBeside.refl _).out_congr rfl

theorem pushesBeside_citationsDelta (delta : Value) (s : StreamState) :
    PushesBeside event ⟨s, []⟩ (citationsDelta env event delta s) := by
  unfold citationsDelta
  dsimp only
  split
  · exact pushesBeside_reject env s _
  · split
    · exact .refl _
    · exact ((pushesBeside_ensureRole env _).trans
        (pushesBeside_push env (beside_silent env rfl rfl))).out_congr rfl

theorem pushesBeside_blockDelta (s : StreamState)
    (htype : event.getStr "type" = some "content_block_delta") :
    PushesBeside event ⟨s, []⟩ (contentBlockDeltaEvent env event s) := by
  unfold contentBlockDeltaEvent
  dsimp only
  split
  · next hdelta =>
    refine pushesBeside_textDelta env s htype ?_
    cases hget : event.get "delta" with
    | none =>
      rw [hget] at hdelta
      cases hdelta
    | some delta =>
      rw [hget] at hdelta
      exact hdelta
  · exact pushesBeside_thinkingDelta env _ s
  · unfold inputJsonDelta
    split <;> exact (PushesBeside.refl _).out_congr rfl
  · exact pushesBeside_signatureDelta env _ s
  · exact pushesBeside_citationsDelta env _ s
  all_goals exact pushesBeside_reject env s _

theorem pushesBeside_stopBlock (idx : Nat) (k : Source) :
    PushesBeside event k (stopBlock env idx k) := by
  unfold stopBlock
  refine PushesBeside.update ?_ _
  split
  · exact .refl k
  · split
    · refine PushesBeside.update ?_ _
      split
      · exact .refl k
      · exact pushesBeside_reasoning env _ k
    · exact .refl k

theorem pushesBeside_messageStart (s : StreamState) :
    PushesBeside event ⟨s, []⟩ (messageStart env event s) :=
  (pushesBeside_ensureRole env ⟨_, []⟩).out_congr rfl

/-- The end of a block only adds chunks. -/
theorem out_finalize (k : Source) (index : Nat) :
    ∃ more, (finalizeClaudeToolUseBlock env k index).out = k.out ++ more := by
  have hpushed : ∀ delta : Value, ∃ more, ((k.ensureRole env).push env delta).out = k.out ++ more :=
    fun _ => ⟨_, List.append_assoc _ _ _⟩
  unfold finalizeClaudeToolUseBlock
  split
  · exact ⟨[], (List.append_nil _).symm⟩
  · split
    · exact ⟨[], (List.append_nil _).symm⟩
    · split
      · split
        · exact ⟨[], (List.append_nil _).symm⟩
        · unfold emitStructuredClaudeToolUseDelta
          split
          · exact ⟨[], (List.append_nil _).symm⟩
          · exact hpushed _
      · exact hpushed _

theorem out_closings (indices : List Nat) (k : Source) :
    (indices.foldl (finalizeClaudeToolUseBlock env) k).out =
      k.out ++ (closings env indices k).map Prod.snd := by
  induction indices generalizing k with
  | nil => exact (List.append_nil _).symm
  | cons index rest ih =>
    obtain ⟨more, hmore⟩ := out_finalize env k index
    rw [List.foldl_cons, ih, closings, hmore, List.drop_left, List.map_append, List.map_map,
      List.append_assoc]
    congr 2
    exact (List.map_id' more).symm

/-- **What an event pushes is what closes its blocks**, and chunks with no tool call and with no
text but that of a `text_delta`. -/
theorem out_eq_blockChunks (s : StreamState) :
    ∃ chunks, (claudeEventToOpenaiChunks env event s).out =
        (blockChunks env event s).map Prod.snd ++ chunks ∧
      ∀ chunk ∈ chunks, IsBeside event chunk := by
  -- most events close no block
  have hquiet : closedBlocks env event s = [] →
      PushesBeside event ⟨s, []⟩ (claudeEventToOpenaiChunks env event s) →
      ∃ chunks, (claudeEventToOpenaiChunks env event s).out =
          (blockChunks env event s).map Prod.snd ++ chunks ∧
        ∀ chunk ∈ chunks, IsBeside event chunk := by
    intro hnone hbeside
    unfold blockChunks
    rw [hnone]
    exact hbeside
  by_cases hrejected : s.fatalRejection.isSome = true
  · refine hquiet (if_pos hrejected) ?_
    unfold claudeEventToOpenaiChunks
    rw [if_pos hrejected]
    exact .refl _
  · by_cases hblock : event.getStr "type" = some "content_block_stop"
    · unfold blockChunks closedBlocks claudeEventToOpenaiChunks contentBlockStopped
      simp only [hrejected, hblock, if_true]
      cases blockIndexOf event with
      | none => exact PushesBeside.refl ⟨s, []⟩
      | some index =>
        have hstop : PushesBeside event (finalizeClaudeToolUseBlock env ⟨s, []⟩ index)
            (stopBlock env index (finalizeClaudeToolUseBlock env ⟨s, []⟩ index)) :=
          pushesBeside_stopBlock env index _
        obtain ⟨chunks, hout, hall⟩ := hstop
        refine ⟨chunks, ?_, hall⟩
        show (stopBlock env index (finalizeClaudeToolUseBlock env ⟨s, []⟩ index)).out =
          (closings env [index] ⟨s, []⟩).map Prod.snd ++ chunks
        rw [hout]
        exact congrArg (· ++ chunks) (out_closings env [index] ⟨s, []⟩)
    · by_cases hmessage : event.getStr "type" = some "message_stop"
      · unfold blockChunks closedBlocks claudeEventToOpenaiChunks messageStop
        simp only [hrejected, hmessage, Option.some.injEq, String.reduceEq, if_false, true_and]
        cases s.finishReasonSent with
        | true => exact PushesBeside.refl ⟨s, []⟩
        | false =>
          refine ⟨[_], congrArg (· ++ [_]) (out_closings env _ ⟨s, []⟩), fun chunk hchunk => ?_⟩
          rw [List.mem_singleton.mp hchunk]
          split
          · exact beside_set (beside_silent env rfl rfl) (by decide)
          · exact beside_silent env rfl rfl
      · refine hquiet (closedBlocks_middle env hblock hmessage) ?_
        unfold claudeEventToOpenaiChunks
        rw [if_neg hrejected]
        split
        · exact pushesBeside_messageStart env s
        · exact pushesBeside_blockStart env s
        · next htype => exact pushesBeside_blockDelta env s htype
        · next htype => exact absurd htype hblock
        · exact (PushesBeside.refl _).out_congr rfl
        · next htype => exact absurd htype hmessage
        · exact .refl _

end

end LlmUniversalProxy.Streaming
