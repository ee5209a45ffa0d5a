import LlmUniversalProxy.Streaming.ClaudeOperations

/-!
# `Streaming.ClaudeChunks` — what an Anthropic client is told by the chunks of a completion

A chunk is captured, its reasoning goes out before its content and its content before its calls, and
its finish reason ends the message. `Told.chunk` has a chunk before the end and `Told.last` the one
with the finish reason. `fold_completion` is the induction over them: a client has what has been
said, or it has been told that a name cannot be passed on, and then nothing more (`Dismissed`).

The texts have to be taken as they are (`IsTakenAsIs`): a sink that cannot tell a delta from a
repetition cuts some of them, and which ones is the subject of `Streaming.IncrementalText`.
-/

set_option autoImplicit false

namespace LlmUniversalProxy.Streaming

open Json Lib Translate

/-! ## The sink, chunk by chunk -/

/-- The stream has been rejected, and the client has been told why. -/
structure Dismissed (s : StreamState) (m : FoldedMessage) (message : String) : Prop where
  rejected : s.fatalRejection.isSome = true
  error : m.error = some ("invalid_request_error", sanitizePublicErrorMessage message)

section

variable (env : Env) {s : StreamState} {m : FoldedMessage} {started : Bool} {said : Said}

theorem taken_as_is {piece seen : String} (h : IsTakenAsIs piece seen) :
    (normalizeOpenaiStreamText piece seen).1.getD "" = piece ∧
      (normalizeOpenaiStreamText piece seen).2 = seen ++ piece := by
  unfold IsTakenAsIs at h
  by_cases hempty : piece = ""
  · subst hempty
    simp [normalizeOpenaiStreamText]
  · have htaken := h hempty
    rw [htaken]
    refine ⟨rfl, ?_⟩
    unfold normalizeOpenaiStreamText at htaken ⊢
    split at htaken
    · cases htaken
    · next hnew =>
      rw [if_neg hnew]
      simp only at htaken ⊢
      split at htaken
      · cases htaken
      · rw [Option.some.inj htaken]

/-- The reasoning of a delta, as the sink takes it. -/
theorem reasoningDelta_eq {delta : Value} {reasoning refusal content : String}
    {tools : List Value} (hdelta : DeltaSays delta reasoning refusal content tools)
    (htaken : IsTakenAsIs reasoning s.openaiSeenReasoning) :
    (openaiChunkReasoningDelta delta s).1.getD "" = reasoning ∧
      (openaiChunkReasoningDelta delta s).2 =
        { s with openaiSeenReasoning := s.openaiSeenReasoning ++ reasoning } := by
  have hread : (((delta.get "reasoning_content").or (delta.get "reasoning")).bind Value.asStr).or
      (minimaxReasoningDetailsText (delta.get "reasoning_details")) =
      delta.getStr "reasoning_content" := by
    rw [hdelta.noReasoning, hdelta.noDetails, Option.or_none]
    exact Option.or_none
  have hreasoning := hdelta.reasoning
  unfold openaiChunkReasoningDelta
  rw [hread]
  cases htext : delta.getStr "reasoning_content" with
  | none =>
    rw [htext] at hreasoning
    have hempty : reasoning = "" := hreasoning.symm
    rw [hempty, String.append_empty]
    exact ⟨rfl, rfl⟩
  | some text =>
    rw [htext, Option.getD_some] at hreasoning
    subst hreasoning
    obtain ⟨hpiece, hseen⟩ := taken_as_is htaken
    refine ⟨hpiece, ?_⟩
    show { s with openaiSeenReasoning := _ } = _
    rw [hseen]

theorem contentDelta_eq {delta : Value} {reasoning refusal content : String}
    {tools : List Value} (hdelta : DeltaSays delta reasoning refusal content tools)
    (htaken : IsTakenAsIs content s.openaiSeenContent) :
    (openaiChunkContentDelta delta s).1.getD "" = content ∧
      (openaiChunkContentDelta delta s).2 =
        { s with openaiSeenContent := s.openaiSeenContent ++ content } := by
  have hcontent := hdelta.content
  unfold openaiChunkContentDelta
  cases htext : delta.getStr "content" with
  | none =>
    rw [htext] at hcontent
    have hempty : content = "" := hcontent.symm
    rw [hempty, String.append_empty]
    exact ⟨rfl, rfl⟩
  | some text =>
    rw [htext, Option.getD_some] at hcontent
    subst hcontent
    obtain ⟨hpiece, hseen⟩ := taken_as_is htaken
    refine ⟨hpiece, ?_⟩
    show { s with openaiSeenContent := _ } = _
    rw [hseen]

/-- The usage is nothing that a client is told before the end. -/
theorem Told.captureUsage {seenReasoning seenContent : String}
    (h : Told s m seenReasoning seenContent started said) (chunk : Value) :
    Told (captureUsageClaude chunk s) m seenReasoning seenContent started said := by
  unfold captureUsageClaude
  split
  · exact h.congr rfl rfl rfl rfl (Nat.le_refl _) rfl
  · exact h

/-- The parts of a chunk that is not rejected, one behind the other, up to its finish reason. -/
theorem Told.parts (h : Told s m said.reasoning said.content started said)
    (chunk choice : Value) {delta : Value} {reasoning refusal content : String} {tools : List Value}
    {calls : List SaidCall} (hdelta : DeltaSays delta reasoning refusal content tools)
    (hreasoning : IsTakenAsIs reasoning said.reasoning)
    (hcontent : IsTakenAsIs content said.content) (htools : TellsCalls said.calls tools calls)
    (hnone : reservedNameOf calls = none) (newRefusal : String) :
    ∃ k, (let reasoningDelta := openaiChunkReasoningDelta delta s
        let k := startMessageClaude chunk choice ⟨reasoningDelta.2, []⟩
        let k := reasoningClaude reasoningDelta.1 k
        let contentDelta := openaiChunkContentDelta delta k.state
        toolCallsClaude env tools
          (contentClaude contentDelta.1 { k with state := contentDelta.2 })) = .ok k ∧
      k.Tells m (said.reasoning ++ reasoning) (said.content ++ content) true
        ⟨said.reasoning ++ reasoning, newRefusal, said.content ++ content, calls⟩ := by
  have hseen := h.seenReasoning
  obtain ⟨hpiece, hstate⟩ := reasoningDelta_eq hdelta (hseen ▸ hreasoning)
  have hbegin : (⟨(openaiChunkReasoningDelta delta s).2, []⟩ : Sink).Tells m
      (said.reasoning ++ reasoning) said.content started said := by
    unfold Sink.Tells
    rw [hstate, hseen]
    exact h.seeReasoning _
  have hthought := (hbegin.start chunk choice).reasoning (openaiChunkReasoningDelta delta s).1
  rw [hpiece] at hthought
  generalize hk : reasoningClaude (openaiChunkReasoningDelta delta s).1
    (startMessageClaude chunk choice ⟨(openaiChunkReasoningDelta delta s).2, []⟩) = k at hthought
  obtain ⟨hpiece', hstate'⟩ := contentDelta_eq hdelta (hthought.seenContent ▸ hcontent)
  have hread : ({ k with state := (openaiChunkContentDelta delta k.state).2 } : Sink).Tells m
      (said.reasoning ++ reasoning) (said.content ++ content) true
      { said with reasoning := said.reasoning ++ reasoning } := by
    unfold Sink.Tells
    rw [hstate', hthought.seenContent]
    exact hthought.seeContent _
  have hspoken := hread.content (openaiChunkContentDelta delta k.state).1
  rw [hpiece'] at hspoken
  obtain ⟨k', hk', htold⟩ := Told.toolCalls env htools hspoken rfl hnone
  refine ⟨k', by simpa only [hk] using hk', ?_⟩
  exact ⟨htold.accepted, htold.seenReasoning, htold.seenContent, htold.thinking, htold.text,
    htold.tools, htold.sent, htold.waiting, htold.stopReason, htold.error⟩

/-- A rejected stream says nothing more. -/
theorem Dismissed.chunk {message : String} (h : Dismissed s m message) {chunk : Value}
    (herror : chunk.get "error" = none) : openaiChunkToClaudeSse env chunk s = ([], s) := by
  unfold openaiChunkToClaudeSse
  rw [if_pos ⟨h.rejected, by simp [herror]⟩]

/-- A rejection, as the client is told of it. -/
theorem dismissed_reject (message : String) :
    Dismissed (rejectAnthropicStream s "invalid_request_error" message).2
      ((rejectAnthropicStream s "invalid_request_error" message).1.foldl FoldedMessage.feed m)
      message := by
  refine ⟨?_, ?_⟩
  · show (s.fatalRejection.or (some _)).isSome = true
    simp
  · simp [rejectAnthropicStream, markStreamFatalRejection, anthropicErrorEvent,
      FoldedMessage.feed, errorOf, Value.getStr, List.lookup_cons]

theorem chunkChoice_eq {chunk delta : Value} {finishReason : Option String}
    (h : IsChunk chunk delta finishReason) :
    ∃ choice, chunkChoice chunk = some ⟨choice, delta, finishReason⟩ := by
  obtain ⟨choice, rest, hchoices, hdelta, hfinish⟩ := h.choice
  refine ⟨choice, ?_⟩
  unfold chunkChoice
  rw [hchoices]
  simp [hdelta, hfinish]

/-- One chunk before the end: it tells its pieces, or rejects the stream for a name. -/
theorem Told.chunk (h : Told s m said.reasoning said.content started said) {chunk delta : Value}
    {reasoning refusal content : String} {tools : List Value} {calls : List SaidCall}
    (hchunk : IsChunk chunk delta none)
    (hdelta : DeltaSays delta reasoning refusal content tools)
    (hreasoning : IsTakenAsIs reasoning said.reasoning)
    (hcontent : IsTakenAsIs content said.content) (htools : TellsCalls said.calls tools calls)
    (hbefore : reservedNameOf said.calls = none) :
    match reservedNameOf calls with
    | none => ∃ started', Told (openaiChunkToClaudeSse env chunk s).2
        ((openaiChunkToClaudeSse env chunk s).1.foldl FoldedMessage.feed m)
        (said.reasoning ++ reasoning) (said.content ++ content) started'
        ⟨said.reasoning ++ reasoning, said.refusal ++ refusal, said.content ++ content, calls⟩
    | some name => Dismissed (openaiChunkToClaudeSse env chunk s).2
        ((openaiChunkToClaudeSse env chunk s).1.foldl FoldedMessage.feed m)
        (reservedOpenaiCustomBridgePrefixMessage name) := by
  obtain ⟨choice, hchoice⟩ := chunkChoice_eq hchunk
  have haccepted : ¬ (s.fatalRejection.isSome = true ∧ (chunk.get "error").isNone = true) := by
    simp [h.accepted]
  have hrejected := rejected_of_tells env htools hbefore
  have hcaptured := h.captureUsage chunk
  have hcalls : ChunkChoice.toolCalls ⟨choice, delta, none⟩ = tools := hdelta.tools
  have hfinds : rejectedToolCall env ⟨choice, delta, none⟩ =
      (reservedNameOf calls).map reservedOpenaiCustomBridgePrefixMessage := by
    unfold rejectedToolCall
    rw [hcalls]
    exact hrejected
  unfold openaiChunkToClaudeSse
  rw [if_neg haccepted]
  simp only [hchoice, hfinds]
  cases hreserved : reservedNameOf calls with
  | some name => exact dismissed_reject _
  | none =>
    obtain ⟨k, hk, htold⟩ := hcaptured.parts env chunk choice hdelta
      hreasoning hcontent htools hreserved (said.refusal ++ refusal)
    simp only at hk
    simp only [Option.map_none, earlyError, hcalls, hk, finishClaude]
    exact ⟨true, htold⟩

theorem told_stops (indices : List Nat) (k : Sink) (m : FoldedMessage) :
    (indices.foldl contentBlockStop k).told m = k.told m := by
  induction indices generalizing k with
  | nil => rfl
  | cons index indices ih => rw [List.foldl_cons, ih, told_contentBlockStop]

theorem told_error (errorType message : String) (m : FoldedMessage) :
    m.feed (anthropicErrorEvent errorType message) =
      { m with error := some (errorType, message) } := by
  simp [anthropicErrorEvent, FoldedMessage.feed, errorOf, Value.getStr, List.lookup_cons]

/-- What a client has when a stream has come to its end. -/
def Ended (said : Said) (finishReason : String) (m : FoldedMessage) : Prop :=
  match classifyOpenaiFinishForAnthropic finishReason with
  | .stopReason reason => m.thinking = said.reasoning ∧ m.text = said.content ∧
      (∃ blocks : List Nat, blocks.length = said.calls.length ∧ m.tools = List.zipWith
        (fun block call => ⟨block, some call.id, some call.name, call.arguments⟩)
        blocks said.calls) ∧ m.stopReason = some reason ∧ m.error = none
  | .error errorType message => m.error = some (errorType, message)

theorem Told.finish {k : Sink} {seenReasoning seenContent : String}
    (h : k.Tells m seenReasoning seenContent started said) (finishReason : String) :
    Ended said finishReason ((finishClaude env (some finishReason) k).told m) := by
  unfold Ended finishClaude
  rw [Option.map_some]
  cases classifyOpenaiFinishForAnthropic finishReason with
  | stopReason reason =>
    have hclosed := (Told.stopThinking h).stopText
    obtain ⟨blocks, htools⟩ := hclosed.tools
    simp only [told_push, told_stops]
    refine ⟨hclosed.thinking, hclosed.text, ⟨blocks, htools.length, htools.tools⟩, ?_,
      hclosed.error⟩
    simp [FoldedMessage.feed, Value.getStr, List.lookup_cons]
  | error errorType message =>
    simp only [Sink.told, List.foldl_append, List.foldl_cons, List.foldl_nil]
    rw [told_error]

theorem Told.last (h : Told s m said.reasoning said.content started said) {chunk delta : Value}
    {finishReason : String} (hchunk : IsChunk chunk delta (some finishReason))
    (hdelta : DeltaSays delta "" "" "" []) (hnone : reservedNameOf said.calls = none) :
    Ended said finishReason
      ((openaiChunkToClaudeSse env chunk s).1.foldl FoldedMessage.feed m) := by
  obtain ⟨choice, hchoice⟩ := chunkChoice_eq hchunk
  have haccepted : ¬ (s.fatalRejection.isSome = true ∧ (chunk.get "error").isNone = true) := by
    simp [h.accepted]
  have hcalls : ChunkChoice.toolCalls ⟨choice, delta, some finishReason⟩ = [] := hdelta.tools
  have hfinds : rejectedToolCall env ⟨choice, delta, some finishReason⟩ = none := by
    unfold rejectedToolCall
    rw [hcalls]
    rfl
  unfold openaiChunkToClaudeSse
  rw [if_neg haccepted]
  simp only [hchoice, hfinds]
  cases hearly : earlyError (openaiChunkReasoningDelta delta (captureUsageClaude chunk s)).2
      ⟨choice, delta, some finishReason⟩ with
  | some frame =>
    unfold earlyError at hearly
    rw [Option.map_some] at hearly
    unfold Ended
    split at hearly
    · next errorType message hclass =>
      rw [Option.some.inj hclass]
      split at hearly
      · rw [← Option.some.inj hearly]
        simp only [List.foldl_cons, List.foldl_nil, told_error]
      · cases hearly
    · cases hearly
  | none =>
    obtain ⟨k, hk, htold⟩ := (h.captureUsage chunk).parts env chunk choice hdelta
      (fun hne => absurd rfl hne) (fun hne => absurd rfl hne) .nil hnone said.refusal
    rw [String.append_empty, String.append_empty] at htold
    simp only at hk
    simp only [hcalls, hk]
    exact htold.finish env finishReason

theorem usage_chunk {chunk : Value} (h : IsUsage chunk) :
    (openaiChunkToClaudeSse env chunk s).1 = [] ∧
      ((openaiChunkToClaudeSse env chunk s).2 = s ∨
        (openaiChunkToClaudeSse env chunk s).2 = captureUsageClaude chunk s) := by
  have hnone : chunkChoice chunk = none := by
    unfold chunkChoice
    have hchoices := h.noChoice
    cases hget : chunk.getArray "choices" with
    | none => rfl
    | some choices =>
      rw [hget, Option.getD_some] at hchoices
      rw [hchoices]
  unfold openaiChunkToClaudeSse
  split
  · exact ⟨rfl, .inl rfl⟩
  · simp only [hnone]
    exact ⟨trivial, .inr trivial⟩

theorem foldChunks_snoc (chunks : List Value) (chunk : Value) (p : StreamState × FoldedMessage) :
    foldChunks env (chunks ++ [chunk]) p =
      ((openaiChunkToClaudeSse env chunk (foldChunks env chunks p).1).2,
        (openaiChunkToClaudeSse env chunk (foldChunks env chunks p).1).1.foldl
          FoldedMessage.feed (foldChunks env chunks p).2) := by
  unfold foldChunks
  rw [List.foldl_append]
  rfl

/-- **The chunks before the end**: the client has what has been said, or has been told that a name
is the proxy's own. -/
theorem fold_tells {chunks : List Value} (h : Tells said chunks) :
    match reservedNameOf said.calls with
    | none => ∃ started, Told (foldChunks env chunks ({}, {})).1 (foldChunks env chunks ({}, {})).2
        said.reasoning said.content started said
    | some name => Dismissed (foldChunks env chunks ({}, {})).1
        (foldChunks env chunks ({}, {})).2 (reservedOpenaiCustomBridgePrefixMessage name) := by
  induction h with
  | nil =>
    refine ⟨false, rfl, rfl, rfl, rfl, rfl, ⟨[], rfl, List.nodup_nil, by simp, ?_, rfl⟩, rfl,
      fun _ => rfl, rfl, rfl⟩
    intro index
    rfl
  | @chunk said chunks tools chunk delta reasoning refusal content calls _ hchunk hdelta
      hreasoning hcontent htools ih =>
    rw [foldChunks_snoc]
    cases hbefore : reservedNameOf said.calls with
    | none =>
      rw [hbefore] at ih
      obtain ⟨started, htold⟩ := ih
      exact htold.chunk env hchunk hdelta hreasoning hcontent htools hbefore
    | some name =>
      rw [hbefore] at ih
      have hdismissed : Dismissed _ _ _ := ih
      rw [htools.first hbefore, hdismissed.chunk env hchunk.noError]
      exact hdismissed
  | @usage said chunks chunk _ husage ih =>
    rw [foldChunks_snoc]
    cases hbefore : reservedNameOf said.calls with
    | none =>
      rw [hbefore] at ih
      obtain ⟨started, htold⟩ := ih
      obtain ⟨hquiet, hstate⟩ :=
        usage_chunk env (s := (foldChunks env chunks ({}, {})).1) husage
      rw [hquiet]
      refine ⟨started, ?_⟩
      rcases hstate with hstate | hstate
      · rw [hstate]
        exact htold
      · rw [hstate]
        exact htold.captureUsage chunk
    | some name =>
      rw [hbefore] at ih
      have hdismissed : Dismissed _ _ _ := ih
      rw [hdismissed.chunk env husage.noError]
      exact hdismissed

/-- A usage is nothing to the client. -/
theorem fold_usage {usage : List Value} (h : ∀ chunk ∈ usage, IsUsage chunk)
    (p : StreamState × FoldedMessage) : (foldChunks env usage p).2 = p.2 := by
  induction usage generalizing p with
  | nil => rfl
  | cons chunk usage ih =>
    obtain ⟨hquiet, _⟩ := usage_chunk env (s := p.1) (h chunk List.mem_cons_self)
    refine (ih (fun other hother => h other (List.mem_cons_of_mem _ hother)) _).trans ?_
    show List.foldl _ _ _ = _
    rw [hquiet]
    rfl

/-- **All chunks of a completion.** -/
theorem fold_completion {finishReason : String} {chunks : List Value}
    (h : CutsCompletion said finishReason chunks) :
    match reservedNameOf said.calls with
    | none => Ended said finishReason (foldChunks env chunks ({}, {})).2
    | some name => (foldChunks env chunks ({}, {})).2.error = some ("invalid_request_error",
        sanitizePublicErrorMessage (reservedOpenaiCustomBridgePrefixMessage name)) := by
  obtain ⟨told, last, delta, usage, htells, hlast, hdelta, husage, rfl⟩ := h.parts
  have hsplit : foldChunks env (told ++ last :: usage) ({}, {}) =
      foldChunks env usage (foldChunks env (told ++ [last]) ({}, {})) := by
    unfold foldChunks
    rw [List.foldl_append, List.foldl_append]
    rfl
  rw [hsplit, fold_usage env husage, foldChunks_snoc]
  have htold := fold_tells env htells
  cases hreserved : reservedNameOf said.calls with
  | none =>
    rw [hreserved] at htold
    obtain ⟨started, htold⟩ := htold
    exact htold.last env hlast hdelta hreserved
  | some name =>
    rw [hreserved] at htold
    have hdismissed : Dismissed _ _ _ := htold
    rw [hdismissed.chunk env hlast.noError]
    exact hdismissed.error

end

end LlmUniversalProxy.Streaming
