import LlmUniversalProxy.Translate.ShownReasoning

/-!
# `Translate.ReasoningSuppression` — which reasoning a suppressed response still shows

An upstream that is not to echo its reasoning has two fields removed from the completion that its
response goes through (`strip_openai_completion_reasoning`, `response_protocols.rs` 131-145). A
third one, the replay of Anthropic's thinking, rides on the same message: it stays, and both of the
other formats turn it into reasoning again. A comment (126-130) calls the removal the one place that
keeps reasoning from surfacing.

`reasoning_suppressed_iff` says for which bodies nothing is left, for all nine pairs of formats. The
condition is on the body of the upstream: a replay is made of blocks that are signed or hidden, and
of items that carry such blocks in encrypted form.
-/

set_option autoImplicit false

namespace LlmUniversalProxy.Translate

open Json Lib

/-! ## A response from Anthropic -/

theorem convertsTo_fields {env : TranslationEnv} {allow : Bool}
    {bridgeContext : Option ToolBridgeContext} {content converted : Value}
    (h : ConvertsTo env allow bridgeContext content converted) :
    converted.isObject = true ∧ converted.get openaiAnthropicReasoningReplayField = none := by
  rcases h with ⟨text, _, rfl⟩ | ⟨blocks, parts, _, _, hnone, hone⟩
  · exact ⟨rfl, Value.get_ofFields _ _⟩
  · unfold ClaudeMessageParts.messages at hone
    simp only [hnone, List.isEmpty_nil, Bool.not_true, Bool.false_eq_true, if_false] at hone
    split at hone
    · rw [← List.singleton_inj.mp hone]
      refine ⟨isObject_withReasoningContent ?_, ?_⟩
      · split
        · rfl
        · exact Value.isObject_set rfl _ _
      · rw [get_withReasoningContent _ _ (by decide)]
        split
        · exact Value.get_ofFields _ _
        · exact (Value.get_set_of_ne _ _ (by decide)).trans (Value.get_ofFields _ _)
    · rw [← List.singleton_inj.mp hone]
      exact ⟨isObject_withReasoningContent rfl,
        (get_withReasoningContent _ _ (by decide)).trans (Value.get_ofFields _ _)⟩

theorem get_appendReplay {message : Value} (hobject : message.isObject = true)
    (hnone : message.get openaiAnthropicReasoningReplayField = none) (blocks : List Value) :
    (appendOpenaiMessageAnthropicReasoningReplayBlocks message blocks).get
      openaiAnthropicReasoningReplayField =
      if blocks.isEmpty then none else some (.array blocks) := by
  unfold appendOpenaiMessageAnthropicReasoningReplayBlocks
  rw [hobject, hnone]
  cases blocks with
  | nil => simpa using hnone
  | cons block blocks => simpa using Value.get_set_self hobject _ _

/-- The replay is there once a thinking block of the content is signed, or hidden. -/
theorem isEmpty_replayBlocks (content : Value) :
    (claudeReasoningReplayBlocks content).isEmpty =
      !(content.asArray.getD []).any anthropicBlockHasNonportableThinkingProvenance := by
  unfold claudeReasoningReplayBlocks
  dsimp only
  have hany : ((content.asArray.getD []).filter fun block =>
        block.getStr "type" = some "thinking").any anthropicBlockHasNonportableThinkingProvenance =
      (content.asArray.getD []).any anthropicBlockHasNonportableThinkingProvenance := by
    rw [List.any_filter]
    refine congrArg (List.any _) (funext fun block => ?_)
    simp only [anthropicBlockHasNonportableThinkingProvenance]
    cases decide (block.getStr "type" = some "thinking") <;> rfl
  rw [hany]
  cases hkept : (content.asArray.getD []).any anthropicBlockHasNonportableThinkingProvenance with
  | false => rfl
  | true =>
    rw [if_pos rfl]
    rw [← hany, List.any_eq_true] at hkept
    obtain ⟨block, hmem, _⟩ := hkept
    simpa using ⟨block, by simpa using hmem⟩

/-- The message field that a response from Anthropic replays, in the one choice of the completion,
which ends as the response did. -/
theorem replay_of_claudeResponse {env : TranslationEnv} {allow : Bool}
    {bridgeContext : Option ToolBridgeContext} {body completion : Value}
    (h : claudeResponseToOpenaiInternal env allow bridgeContext body = .ok completion) :
    ∃ choice content, choicesOf completion = [choice] ∧ body.get "content" = some content ∧
      (∃ stopReason,
        choice.getStr "finish_reason" = some (finishReasonOfStopReason stopReason)) ∧
      choiceField choice openaiAnthropicReasoningReplayField =
        if allow && (content.asArray.getD []).any
          anthropicBlockHasNonportableThinkingProvenance then
          some (.array (claudeReasoningReplayBlocks content)) else none := by
  obtain ⟨message, hmessage, h⟩ := Result.bind_ok.mp h
  cases h
  obtain ⟨content, converted, hcontent, hconverts, rfl⟩ := claudeResponseMessage_ok hmessage
  obtain ⟨hobject, hnone⟩ := convertsTo_fields hconverts
  refine ⟨_, content, choicesOf_completion .., hcontent, ⟨_, Value.getStr_ofFields _ _⟩, ?_⟩
  rw [choiceField, Value.get_ofFields]
  show (applyClaudeRefusal _ _).get openaiAnthropicReasoningReplayField = _
  rw [get_applyClaudeRefusal _ _ (by decide) (by decide)]
  cases allow with
  | false => exact hnone
  | true =>
    rw [if_pos rfl, get_appendReplay hobject hnone, isEmpty_replayBlocks]
    cases (content.asArray.getD []).any anthropicBlockHasNonportableThinkingProvenance <;> rfl

/-! ## A response from Responses -/

def itemReplayBlocks (serde : Serde) (item : Value) : List Value :=
  if isReasoningItem item then
    (responsesReasoningReplayBlocksForAnthropic serde item).getD [] else []

theorem replay_collectOutputItem {env : Env} {allow : Bool} {acc acc' : ResponsesOutputParts}
    {item : Value} (h : collectOutputItem env allow acc item = .ok acc') :
    acc'.replayBlocks =
      acc.replayBlocks ++ if allow then itemReplayBlocks env.serde item else [] := by
  obtain ⟨acc₁, h₁, h⟩ := Result.bind_ok.mp h
  obtain ⟨acc₂, h₂, h⟩ := Result.bind_ok.mp h
  cases h
  have hmessage : acc₁.replayBlocks = acc.replayBlocks := by
    unfold collectMessageItem at h₁
    split at h₁
    · cases h₁
      rfl
    · obtain ⟨_, _, rfl⟩ := Result.map_ok.mp h₁
      rfl
  have hcall : acc₂.replayBlocks = acc₁.replayBlocks := by
    obtain ⟨_, _, rfl⟩ := Result.map_ok.mp h₂
    rfl
  rw [← hmessage, ← hcall, itemReplayBlocks, isReasoningItem, collectReasoningItem]
  by_cases hreasoning : item.getStr "type" = some "reasoning"
  · simp [hreasoning]
  · simp [hreasoning]

theorem replay_collectOutput {env : Env} {allow : Bool} {output : List Value} :
    ∀ {acc parts : ResponsesOutputParts},
      output.foldlM (collectOutputItem env allow) acc = .ok parts →
      parts.replayBlocks = acc.replayBlocks ++
        if allow then output.flatMap (itemReplayBlocks env.serde) else [] := by
  induction output with
  | nil =>
    intro acc parts h
    cases h
    simp
  | cons item output ih =>
    intro acc parts h
    rw [List.foldlM_cons] at h
    obtain ⟨acc', hitem, h⟩ := Result.bind_ok.mp h
    rw [ih h, replay_collectOutputItem hitem]
    cases allow <;> simp

theorem replayBlocks_thinking {serde : Serde} {item : Value} {blocks : List Value}
    (h : responsesReasoningReplayBlocksForAnthropic serde item = some blocks) :
    blocks.any isThinkingBlock = true := by
  unfold responsesReasoningReplayBlocksForAnthropic at h
  rcases Option.or_eq_some_iff.mp h with h | ⟨_, h⟩
  · obtain ⟨hdecoded, hnonempty⟩ := Option.filter_eq_some_iff.mp h
    obtain ⟨carrier, _, hdecoded⟩ := Option.bind_eq_some_iff.mp hdecoded
    cases blocks with
    | nil => cases hnonempty
    | cons block blocks =>
      have htype : block.getStr "type" = some "thinking" := by
        unfold decodeAnthropicReasoningCarrier at hdecoded
        obtain ⟨_, _, hdecoded⟩ := Option.bind_eq_some_iff.mp hdecoded
        obtain ⟨_, _, hdecoded⟩ := Option.bind_eq_some_iff.mp hdecoded
        obtain ⟨_, _, hdecoded⟩ := Option.bind_eq_some_iff.mp hdecoded
        split at hdecoded
        · cases hdecoded
        · split at hdecoded
          · cases hdecoded
          · obtain ⟨_, _, hdecoded⟩ := Option.bind_eq_some_iff.mp hdecoded
            split at hdecoded
            · cases hdecoded
            · next hall =>
              cases hdecoded
              simpa using (List.any_eq_false.mp (Bool.eq_false_iff.mpr hall)) block
                List.mem_cons_self
      simp [isThinkingBlock, htype]
  · split at h
    · cases h
    · cases h
      simp [isThinkingBlock, unsignedThinkingBlock, Value.getStr_ofFields]

theorem any_itemReplayBlocks (serde : Serde) (output : List Value) :
    (output.flatMap (itemReplayBlocks serde)).any isThinkingBlock =
      output.any fun item => isReasoningItem item &&
        (responsesReasoningReplayBlocksForAnthropic serde item).isSome := by
  rw [List.any_flatMap]
  refine congrArg (List.any _) (funext fun item => ?_)
  unfold itemReplayBlocks
  cases isReasoningItem item with
  | false => rfl
  | true =>
    cases h : responsesReasoningReplayBlocksForAnthropic serde item with
    | none => rfl
    | some blocks => simpa using replayBlocks_thinking h

/-- The replay of the message that the items make up. -/
theorem get_message_replay (audio : Option Value) (parts : ResponsesOutputParts) :
    (parts.message audio).get openaiAnthropicReasoningReplayField =
      if parts.replayBlocks.isEmpty then none else some (.array parts.replayBlocks) := by
  rw [ResponsesOutputParts.message, Value.get_ofFields]
  simp only [List.lookup_append, lookup_optional,
    lookup_audio audio (k := openaiAnthropicReasoningReplayField) (by decide)]
  cases parts.replayBlocks <;> simp [openaiAnthropicReasoningReplayField, List.lookup_cons]

theorem getStr_message_role (audio : Option Value) (parts : ResponsesOutputParts) :
    (parts.message audio).getStr "role" = some "assistant" := by
  rw [ResponsesOutputParts.message, Value.getStr_ofFields]
  rfl

theorem endsInError_responsesFinish (body : Value) (hasToolCalls : Bool) :
    endsInError (responsesFinishReasonToOpenai body hasToolCalls) =
      endsInError (responsesFinishReasonToOpenai body false) := by
  unfold responsesFinishReasonToOpenai
  split
  · rfl
  · rfl
  · cases hasToolCalls <;> rfl

theorem completion_of_output {env : TranslationEnv} {allow : Bool} {body completion : Value}
    {output : List Value} (hbody : body.getArray "output" = some output)
    (h : responsesResponseToOpenaiImpl env allow body = .ok completion) :
    ∃ choice, choicesOf completion = [choice] ∧
      (∃ hasToolCalls, choice.getStr "finish_reason" =
        some (responsesFinishReasonToOpenai body hasToolCalls)) ∧
      (choiceField choice "role").bind Value.asStr = some "assistant" ∧
      choiceField choice openaiAnthropicReasoningReplayField =
        let blocks := if allow then output.flatMap (itemReplayBlocks env.serde) else []
        if blocks.isEmpty then none else some (.array blocks) := by
  unfold responsesResponseToOpenaiImpl at h
  rw [hbody] at h
  dsimp only at h
  split at h
  · cases h
  · obtain ⟨audio, _, h⟩ := Result.bind_ok.mp h
    obtain ⟨parts, hparts, h⟩ := Result.bind_ok.mp h
    cases h
    have hreplay := replay_collectOutput hparts
    have hfield : ∀ logprobs : Option (String × Value), (Value.ofFields
        ([("index", .nat 0), ("message", parts.message audio), ("finish_reason",
          .string (responsesFinishReasonToOpenai body (!parts.toolCalls.isEmpty)))] ++
          logprobs.toList)).get "message" = some (parts.message audio) := by
      intro logprobs
      rw [Value.get_ofFields]
      rfl
    refine ⟨_, choicesOf_completion .., ⟨!parts.toolCalls.isEmpty, ?_⟩, ?_, ?_⟩
    · rw [Value.getStr_ofFields]
      rfl
    · rw [choiceField, hfield]
      exact getStr_message_role audio parts
    · rw [choiceField, hfield, Option.bind_some, get_message_replay, hreplay]
      rfl

/-! ## The completion that a response goes through -/

theorem replayKept_upstream {env : TranslationEnv} {upstreamFormat clientFormat : UpstreamFormat}
    {bridgeContext : Option ToolBridgeContext} {body completion : Value}
    (hformat : upstreamFormat ≠ clientFormat)
    (h : upstreamResponseToOpenai env upstreamFormat clientFormat bridgeContext body =
      .ok completion) :
    replayKept clientFormat completion =
      reasoningKept env.serde upstreamFormat clientFormat body := by
  unfold upstreamResponseToOpenai at h
  -- a completion keeps its messages, the other bodies are converted, each with its own replay
  cases upstreamFormat with
  | openAiChatCompletions =>
    have hnormal : completion = normalizeOpenaiCompletionResponse body := by
      cases clientFormat <;> exact (Except.ok.inj h).symm
    rw [hnormal, replayKept_normalize]
    rfl
  | anthropic =>
    cases clientFormat with
    | anthropic => exact absurd rfl hformat
    | openAiChatCompletions =>
      obtain ⟨choice, content, hchoices, _, _, hreplay⟩ := replay_of_claudeResponse h
      simp [replayKept, hchoices, choiceKeepsReplay, hreplay, reasoningKept]
    | openAiResponses =>
      obtain ⟨choice, content, hchoices, hcontent, _, hreplay⟩ := replay_of_claudeResponse h
      simp only [replayKept, hchoices, List.any_cons, List.any_nil, Bool.or_false,
        choiceKeepsReplay, hreplay, reasoningKept, Bool.true_and, Value.getArray, hcontent,
        Option.bind_some]
      cases (content.asArray.getD []).any anthropicBlockHasNonportableThinkingProvenance <;> rfl
  | openAiResponses =>
    cases hbody : body.getArray "output" with
    | none =>
      -- a response without an output comes through as it is
      have hsame : completion = body := by
        cases clientFormat with
        | openAiResponses => exact absurd rfl hformat
        | _ =>
          simp only [responsesResponseToOpenai, responsesResponseToOpenaiForAnthropic,
            responsesResponseToOpenaiImpl, hbody] at h
          exact (Except.ok.inj h).symm
      cases clientFormat with
      | openAiResponses => exact absurd rfl hformat
      | _ => simp [reasoningKept, hbody, hsame]
    | some output =>
      cases clientFormat with
      | openAiResponses => exact absurd rfl hformat
      | openAiChatCompletions =>
        obtain ⟨choice, hchoices, _, _, hreplay⟩ := completion_of_output hbody h
        simp [replayKept, hchoices, choiceKeepsReplay, hreplay, reasoningKept, hbody]
      | anthropic =>
        obtain ⟨choice, hchoices, ⟨hasToolCalls, hfinish⟩, hrole, hreplay⟩ :=
          completion_of_output hbody h
        have hany := any_itemReplayBlocks env.serde output
        simp only [replayKept, hchoices, List.any_cons, List.any_nil, Bool.or_false,
          choiceKeepsReplay, hreplay, hrole, hfinish, Option.getD_some, if_true, decide_true,
          Bool.and_true, endsInError_responsesFinish, reasoningKept, hbody, ← hany]
        cases output.flatMap (itemReplayBlocks env.serde) <;> rfl

theorem showsReasoning_client {env : TranslationEnv} {clientFormat : UpstreamFormat}
    {bridgeContext : Option ToolBridgeContext} {completion out : Value}
    (hstripped : ReasoningStripped completion)
    (h : openaiResponseToClient env clientFormat bridgeContext completion = .ok out) :
    showsReasoning clientFormat out = replayKept clientFormat completion := by
  cases clientFormat with
  | openAiChatCompletions =>
    cases h
    exact showsReasoning_chat hstripped
  | openAiResponses => exact showsReasoning_responses hstripped h
  | anthropic =>
    unfold openaiResponseToClient at h
    dsimp only at h
    split at h
    · cases h
    · exact showsReasoning_anthropic hstripped h

/-! ## A response that is not translated -/

theorem retainItems_of_none {field : String} {body : Value} (h : body.getArray field = none)
    (keep : Value → Bool) : retainItems field keep body = body := by
  unfold retainItems
  rw [h]

theorem get_retainItems {field : String} {body : Value} {items : List Value}
    (h : body.getArray field = some items) (keep : Value → Bool) :
    (retainItems field keep body).get field = some (.array (items.filter keep)) := by
  unfold retainItems
  obtain ⟨v, hv, _⟩ := Option.bind_eq_some_iff.mp h
  rw [h]
  exact Value.get_set_self (Value.isObject_of_get hv) _ _

theorem get_of_getArray {body : Value} {field : String} {items : List Value}
    (h : body.getArray field = some items) : body.get field = some (.array items) := by
  obtain ⟨v, hv, hitems⟩ := Option.bind_eq_some_iff.mp h
  cases v with
  | array other => rw [hv, Option.some.inj hitems]
  | _ => cases hitems

/-- A content that is a single block is not stripped. -/
theorem showsReasoning_stripThinking (body : Value) :
    showsReasoning .anthropic (stripAnthropicResponseThinking body) =
      (body.get "content").any isThinkingBlock := by
  show (((Value.get (retainItems ..) "content").map blocksOf).getD []).any isThinkingBlock = _
  cases hcontent : body.getArray "content" with
  | none =>
    rw [retainItems_of_none hcontent]
    cases hget : body.get "content" with
    | none => rfl
    | some content =>
      cases content with
      | array blocks =>
        rw [Value.getArray, hget] at hcontent
        cases hcontent
      | object fields =>
        show (isThinkingBlock _ || false) = _
        exact Bool.or_false _
      | _ => rfl
  | some blocks =>
    rw [get_retainItems hcontent, get_of_getArray hcontent]
    show (blocks.filter _).any isThinkingBlock = false
    rw [List.any_filter, List.any_eq_false]
    intro block _
    simp only [isThinkingBlock]
    by_cases h₁ : block.getStr "type" = some "thinking" <;>
      by_cases h₂ : block.getStr "type" = some "redacted_thinking" <;> simp [h₁, h₂]

theorem showsReasoning_strip (serde : Serde) (format : UpstreamFormat) (body : Value) :
    showsReasoning format (stripResponseReasoning format body) =
      reasoningKept serde format format body := by
  cases format with
  | openAiChatCompletions =>
    exact (showsReasoning_chat (reasoningStripped_strip body)).trans (replayKept_strip _ body)
  | anthropic => exact showsReasoning_stripThinking body
  | openAiResponses =>
    show (((retainItems _ _ body).getArray "output").getD []).any isReasoningItem = false
    cases houtput : body.getArray "output" with
    | none =>
      rw [retainItems_of_none houtput, houtput]
      rfl
    | some output =>
      rw [Value.getArray, get_retainItems houtput]
      show (output.filter _).any isReasoningItem = false
      rw [List.any_filter, List.any_eq_false]
      intro item _
      simp [isReasoningItem]

/-! ## Main result -/

/-- **A response whose reasoning is suppressed shows none, unless the replay of Anthropic's thinking
rides on it.** -/
theorem reasoning_suppressed_iff (env : TranslationEnv)
    (upstreamFormat clientFormat : UpstreamFormat) (body out : Value)
    (context : ResponseTranslationContext) (hecho : context.reasoningEcho = some false)
    (h : translateResponseWithContext env upstreamFormat clientFormat body context = .ok out) :
    showsReasoning clientFormat out = false ↔
      reasoningKept env.serde upstreamFormat clientFormat body = false := by
  have hsuppress : context.suppressReasoning = true := by
    simp [ResponseTranslationContext.suppressReasoning, hecho]
  unfold translateResponseWithContext at h
  rw [hsuppress] at h
  split at h
  · cases h
  · split at h
    · next hformat =>
      subst hformat
      obtain ⟨_, _, rfl⟩ := Result.map_ok.mp h
      rw [if_pos rfl, showsReasoning_strip env.serde]
    · next hformat =>
      obtain ⟨completion, hcompletion, h⟩ := Result.bind_ok.mp h
      rw [if_pos rfl] at h
      rw [showsReasoning_client (reasoningStripped_strip completion) h, replayKept_strip,
        replayKept_upstream hformat hcompletion]

/-- A response of Anthropic with thinking that is signed. -/
def signedThinkingResponse : Value :=
  .ofFields [("stop_reason", .string "end_turn"), ("content", .array
    [.ofFields [("type", .string "thinking"), ("thinking", .string "a plan"),
      ("signature", .string "sig")], claudeTextBlock "an answer"])]

/-- Its thinking reaches a Responses client in the carrier. -/
theorem signed_thinking_outlasts_suppression :
    ¬ ∀ (env : TranslationEnv) (upstreamFormat clientFormat : UpstreamFormat) (body out : Value)
      (context : ResponseTranslationContext), context.reasoningEcho = some false →
      translateResponseWithContext env upstreamFormat clientFormat body context = .ok out →
      showsReasoning clientFormat out = false := by
  intro h
  have hshown : (translateResponseWithContext .still .anthropic .openAiResponses
      signedThinkingResponse { reasoningEcho := some false }).toOption.any
      (showsReasoning .openAiResponses) = true := by decide +kernel
  cases hout : translateResponseWithContext .still .anthropic .openAiResponses
      signedThinkingResponse { reasoningEcho := some false } with
  | error e =>
    rw [hout] at hshown
    cases hshown
  | ok out =>
    rw [hout] at hshown
    have hhidden := h .still .anthropic .openAiResponses signedThinkingResponse out _ rfl hout
    exact Bool.false_ne_true (hhidden.symm.trans hshown)

/-- A completion with reasoning in a field that is stripped. -/
def reasoningCompletion : Value :=
  .ofFields [("choices", .array [.ofFields [("finish_reason", .string "stop"), ("message",
    .ofFields [("role", .string "assistant"), ("content", .string "an answer"),
      ("reasoning_content", .string "a plan")])]])]

theorem reasoning_suppressed_completion :
    showsReasoning .anthropic (.ofFields [("id", .null), ("type", .string "message"),
      ("role", .string "assistant"), ("content", .array [claudeTextBlock "an answer"]),
      ("model", .null), ("stop_reason", .string "end_turn")]) = false :=
  (reasoning_suppressed_iff .still .openAiChatCompletions .anthropic reasoningCompletion _
    { reasoningEcho := some false } rfl (by decide +kernel)).mpr (by decide +kernel)

end LlmUniversalProxy.Translate
