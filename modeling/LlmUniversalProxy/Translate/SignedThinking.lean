import LlmUniversalProxy.Json.RoundTrip
import LlmUniversalProxy.Translate.ReasoningSuppression

/-!
# `Translate.SignedThinking` — signed thinking across two proxies

Responses has no place for the signatures of Anthropic's thinking, so the blocks travel in a
carrier: as JSON, in hexadecimal. Whoever makes an Anthropic response of that response finds the
blocks again, each with its signature, in the order they were in.

The carrier is `translate/internal/openai_responses.rs` 52-137. A body that ends in an error has no
message to put thinking in, so it is left out.
-/

set_option autoImplicit false

namespace LlmUniversalProxy.Translate

open Json Lib

/-! ## The carrier -/

theorem hexVal_hexDigit {n : Nat} (h : n < 16) : hexVal (hexDigit n) = some n := by
  revert n
  decide

/-- Every byte is its two digits. -/
theorem hexDecode_flatMap (bytes : List UInt8) :
    hexDecode (bytes.flatMap fun b => [hexDigit (b.toNat / 16), hexDigit (b.toNat % 16)]) =
      some bytes := by
  induction bytes with
  | nil => rfl
  | cons b bytes ih =>
    have hb : b.toNat < 256 := b.toNat_lt
    have hbyte : UInt8.ofNat (b.toNat / 16 * 16 + b.toNat % 16) = b := by
      rw [Nat.div_add_mod', UInt8.ofNat_toNat]
    rw [List.flatMap_cons, List.cons_append, List.cons_append, List.nil_append, hexDecode,
      hexVal_hexDigit (by omega), hexVal_hexDigit (by omega), ih]
    show some (UInt8.ofNat (b.toNat / 16 * 16 + b.toNat % 16) :: bytes) = _
    rw [hbyte]

theorem fromSlice_bytesOf (serde : Serde) (s : String) :
    fromSlice serde (bytesOf s) = fromStr serde s := by
  have hbytes : (⟨(bytesOf s).toArray⟩ : ByteArray) = s.toByteArray := rfl
  unfold fromSlice
  rw [hbytes]
  simp only [String.fromUTF8?, String.isValidUTF8]
  rfl

def carrierPayload (blocks : List Value) : Value :=
  .ofFields [("format", .string "anthropic-thinking-replay"), ("version", .nat 1),
    ("blocks", .array blocks)]

theorem shaped_carrierPayload {blocks : List Value} (h : ∀ block ∈ blocks, block.Shaped 126) :
    (carrierPayload blocks).Shaped 128 := by
  refine shaped_ofFields (by decide) ?_
  intro f hf
  simp only [List.mem_cons, List.not_mem_nil, or_false] at hf
  rcases hf with rfl | rfl | rfl
  · trivial
  · show 1 < UInt64.size
    decide
  · exact ⟨by decide, itemsShaped_iff.mpr h⟩

theorem floats_carrierPayload {floatText : String → Option String} {blocks : List Value}
    (h : FloatsRead floatText (itemsFloats blocks)) :
    FloatsRead floatText (carrierPayload blocks).floats := by
  refine floatsRead_ofFields ?_
  intro f hf
  simp only [List.mem_cons, List.not_mem_nil, or_false] at hf
  rcases hf with rfl | rfl | rfl
  · simp [FloatsRead, Value.floats]
  · simp [FloatsRead, Value.floats, Value.nat]
  · simpa [Value.floats] using h

/-- **What goes into a carrier comes out of it.** -/
theorem decode_encodeCarrier {serde : Serde} {blocks : List Value}
    (hshaped : ∀ block ∈ blocks, block.Shaped 126)
    (hfloats : FloatsRead serde.floatText (itemsFloats blocks))
    (hthinking : ∀ block ∈ blocks, block.getStr "type" = some "thinking") :
    decodeAnthropicReasoningCarrier serde (encodeAnthropicReasoningCarrier blocks) =
      some blocks := by
  have hread : fromStr serde (carrierPayload blocks).toJson = some (carrierPayload blocks) :=
    fromStr_toJson (shaped_carrierPayload hshaped) (floats_carrierPayload hfloats)
  have hdecoded : hexDecode (hexEncode (bytesOf (carrierPayload blocks).toJson)).toList =
      some (bytesOf (carrierPayload blocks).toJson) := by
    unfold hexEncode
    rw [String.toList_ofList, hexDecode_flatMap]
  unfold decodeAnthropicReasoningCarrier encodeAnthropicReasoningCarrier
  rw [Text.stripPrefix_append, Option.bind_eq_bind, Option.bind_some]
  show (hexDecode (hexEncode (bytesOf (carrierPayload blocks).toJson)).toList).bind _ = _
  rw [hdecoded, Option.bind_some]
  show (fromSlice serde (bytesOf (carrierPayload blocks).toJson)).bind _ = _
  rw [fromSlice_bytesOf, hread, Option.bind_some]
  simp only [carrierPayload, Value.getStr_ofFields, Value.getU64, Value.getArray,
    Value.get_ofFields]
  simpa [List.lookup_cons] using hthinking

theorem replay_of_carrier {serde : Serde} {item : Value} {blocks : List Value}
    (hcarrier : item.getStr "encrypted_content" = some (encodeAnthropicReasoningCarrier blocks))
    (hdecode : decodeAnthropicReasoningCarrier serde (encodeAnthropicReasoningCarrier blocks) =
      some blocks) (hne : blocks ≠ []) :
    responsesReasoningReplayBlocksForAnthropic serde item = some blocks := by
  unfold responsesReasoningReplayBlocksForAnthropic
  rw [hcarrier, Option.bind_some, hdecode]
  simp [hne]

/-! ## The way to Responses -/

def thinkingOf (blocks : List Value) : List Value :=
  blocks.filter fun block => block.getStr "type" = some "thinking"

/-- Two fields are removed from a message, or none: the replay stays, and so does the ending. -/
theorem choices_suppressed (suppress : Bool) (completion : Value) {choice : Value}
    (h : choicesOf completion = [choice]) :
    ∃ choice', choicesOf (if suppress then stripOpenaiCompletionReasoning completion
        else completion) = [choice'] ∧
      choiceField choice' openaiAnthropicReasoningReplayField =
        choiceField choice openaiAnthropicReasoningReplayField ∧
      choiceField choice' "role" = choiceField choice "role" ∧
      choice'.getStr "finish_reason" = choice.getStr "finish_reason" := by
  cases suppress with
  | false => exact ⟨choice, h, rfl, rfl, rfl⟩
  | true =>
    refine ⟨mapChoiceMessage
      (fun message => (message.remove "reasoning_content").remove "reasoning_details") choice,
      ?_, ?_, ?_, ?_⟩
    · rw [if_pos rfl, stripOpenaiCompletionReasoning, choicesOf_mapChoiceMessages, h]
      rfl
    · refine choiceField_mapChoiceMessage (g := id) rfl ?_ choice
      intro message _
      rw [Value.get_remove, Value.get_remove]
      rfl
    · refine choiceField_mapChoiceMessage (g := id) rfl ?_ choice
      intro message _
      rw [Value.get_remove, Value.get_remove]
      rfl
    · rw [Value.getStr, get_mapChoiceMessage _ _ (by decide)]
      rfl

/-- The reasoning item of a message with a replay carries the replay. -/
theorem carrier_reasoningItem (reasoning : Option String) (blocks : List Value) :
    ∃ item, responsesReasoningItem reasoning (some blocks) = some item ∧
      isReasoningItem item = true ∧
      item.getStr "encrypted_content" = some (encodeAnthropicReasoningCarrier blocks) := by
  refine ⟨_, by simp [responsesReasoningItem]; rfl, ?_, ?_⟩
  · simp [isReasoningItem, Value.getStr_ofFields]
  · simp [Value.getStr_ofFields, List.lookup_cons]

/-- **The replay of a message is in one reasoning item of the output**, and no other item is
reasoning. -/
theorem output_of_replay {env : TranslationEnv} {bridgeContext : Option ToolBridgeContext}
    {completion out choice : Value} {blocks : List Value}
    (hchoices : choicesOf completion = [choice])
    (hreplay : choiceField choice openaiAnthropicReasoningReplayField = some (.array blocks))
    (h : openaiResponseToResponses env bridgeContext completion = .ok out) :
    ∃ item others, out.getArray "output" = some (item :: others) ∧ isReasoningItem item = true ∧
      item.getStr "encrypted_content" = some (encodeAnthropicReasoningCarrier blocks) ∧
      others.any isReasoningItem = false := by
  obtain ⟨choice', message, audio, leading, calls, hmade⟩ := openaiResponseToResponses_ok h
  obtain rfl : choice' = choice := by simpa [hmade.choices] using hchoices
  have hmessage := hmade.said
  have hleading := hmade.front
  have hfield : openaiMessageAnthropicReasoningReplayBlocks message = some blocks := by
    simp only [choiceField, hmessage, Option.bind_some] at hreplay
    simp [openaiMessageAnthropicReasoningReplayBlocks, Value.getArray, hreplay]
  obtain ⟨item, hitem, hreasoning, hcarrier⟩ :=
    carrier_reasoningItem (openaiMessageReasoningText message) blocks
  -- the reasoning comes first, and a message may follow it
  obtain ⟨behind, hbehind, rfl⟩ : ∃ behind, behind.any isReasoningItem = false ∧
      leading = item :: behind := by
    have hform := leadingItems_ok hleading
    rw [hfield, hitem] at hform
    rcases hform with ⟨content, hform⟩ | ⟨content, hnil, -⟩ | hform
    · exact ⟨[responsesMessageItem content], by simp [isReasoningItem_messageItem], hform⟩
    · cases hnil
    · exact ⟨[], rfl, hform⟩
  refine ⟨item, behind ++ calls ++ audio.toList, ?_, hreasoning, hcarrier, ?_⟩
  · rw [hmade.output]
    rfl
  · rw [List.any_append, List.any_append, hbehind, hmade.calls_no_reasoning,
      audio_is_no_reasoning hmade.spoken]
    rfl

/-- An ending that is no error to an Anthropic client is none either by way of Responses: what
Responses has no status for goes through as a failure with a code, and the code is read back. -/
theorem endsInError_readBack {response : Value} {finishReason : String}
    (hstatus : response.getStr "status" = some (responsesStatusOfFinishReason finishReason).1)
    (hdetails : response.get "incomplete_details" =
      some (responsesStatusOfFinishReason finishReason).2.1)
    (herror : response.get "error" = some (responsesStatusOfFinishReason finishReason).2.2)
    (hend : endsInError finishReason = false) (hasToolCalls : Bool) :
    endsInError (responsesFinishReasonToOpenai response hasToolCalls) = false := by
  have hcases : responsesStatusOfFinishReason finishReason = ("completed", .null, .null) ∨
      finishReason ∈ ["length", "content_filter", "pause_turn", "context_length_exceeded", "error",
        "tool_error"] := by
    unfold responsesStatusOfFinishReason
    split <;> simp
  unfold responsesFinishReasonToOpenai
  rw [hstatus, hdetails, herror]
  rcases hcases with hcompleted | hspecial
  · rw [hcompleted]
    cases hasToolCalls <;> rfl
  · simp only [List.mem_cons, List.not_mem_nil, or_false] at hspecial
    rcases hspecial with rfl | rfl | rfl | rfl | rfl | rfl
    -- the first four are read back as they are, and the last two would be errors already
    · rfl
    · rfl
    · rfl
    · show endsInError (classifyPortableNonSuccessTerminal (some "context_length_exceeded")) = false
      decide
    · cases hend
    · cases hend

/-- The same for the body that `openai_response_to_responses` makes. -/
theorem finishReason_of_responses {env : TranslationEnv} {bridgeContext : Option ToolBridgeContext}
    {completion out choice : Value} {finishReason : String}
    (hchoices : choicesOf completion = [choice])
    (hfinish : choice.getStr "finish_reason" = some finishReason)
    (hend : endsInError finishReason = false)
    (h : openaiResponseToResponses env bridgeContext completion = .ok out) (hasToolCalls : Bool) :
    endsInError (responsesFinishReasonToOpenai out hasToolCalls) = false := by
  obtain ⟨choice', message, audio, leading, calls, hmade⟩ := openaiResponseToResponses_ok h
  obtain rfl : choice' = choice := by simpa [hmade.choices] using hchoices
  have hstatus := hmade.status
  have hdetails := hmade.details
  have herror := hmade.error
  rw [hfinish, Option.getD_some] at hstatus hdetails herror
  exact endsInError_readBack hstatus hdetails herror hend hasToolCalls

/-! ## The way back -/

theorem filter_of_no_thinking {blocks : List Value} (h : blocks.any isThinkingBlock = false) :
    thinkingOf blocks = [] := by
  rw [thinkingOf, List.filter_eq_nil_iff]
  intro block hblock hthinking
  have hno := List.any_eq_false.mp h block hblock
  simp only [isThinkingBlock, Bool.or_eq_true, not_or] at hno
  exact hno.1 hthinking

theorem thinkingOf_claudeBlocks {env : TranslationEnv} {msg : Value} {blocks : List Value}
    {out : Option (List Value)} (hrole : msg.getStr "role" = some "assistant")
    (hreplay : openaiMessageAnthropicReasoningReplayBlocks msg = some blocks)
    (hthinking : ∀ block ∈ blocks, block.getStr "type" = some "thinking") (hne : blocks ≠ [])
    (h : openaiMessageToClaudeBlocks env msg = .ok out) :
    ∃ content, out = some content ∧ thinkingOf content = blocks := by
  unfold openaiMessageToClaudeBlocks at h
  rw [hrole] at h
  simp only at h
  rw [if_neg (by decide)] at h
  obtain ⟨content, hcontent, h⟩ := Result.bind_ok.mp h
  obtain ⟨calls, hcalls, h⟩ := Result.bind_ok.mp h
  have hcalls : calls.any isThinkingBlock = false := by
    rw [List.any_eq_false]
    intro block hblock
    obtain ⟨toolCall, _, hcall⟩ := Result.exists_of_mem_mapM hcalls hblock
    simp [not_thinking_call hcall]
  have hrefusal : ((extractOpenaiRefusal msg).map claudeTextBlock).toList.any isThinkingBlock =
      false := by
    cases extractOpenaiRefusal msg with
    | none => rfl
    | some refusal => simp [not_thinking_text]
  have hleading : openaiAssistantLeadingBlocks msg =
      blocks ++ ((extractOpenaiRefusal msg).map claudeTextBlock).toList := by
    unfold openaiAssistantLeadingBlocks
    rw [hreplay]
  have hkept : thinkingOf blocks = blocks := by
    rw [thinkingOf, List.filter_eq_self]
    intro block hblock
    simpa using hthinking block hblock
  simp only [if_true] at h
  rw [hleading, if_neg (by simp [hne])] at h
  cases h
  refine ⟨_, rfl, ?_⟩
  have happend : ∀ xs ys, thinkingOf (xs ++ ys) = thinkingOf xs ++ thinkingOf ys := by
    intro xs ys
    exact List.filter_append xs ys
  rw [happend, happend, happend, hkept, filter_of_no_thinking hrefusal,
    filter_of_no_thinking (not_thinking_content hcontent), filter_of_no_thinking hcalls]
  simp

theorem thinkingOf_claudeResponse {env : TranslationEnv} {completion out choice : Value}
    {blocks : List Value} (hchoices : choicesOf completion = [choice])
    (hrole : (choiceField choice "role").bind Value.asStr = some "assistant")
    (hreplay : choiceField choice openaiAnthropicReasoningReplayField = some (.array blocks))
    {finishReason : String} (hfinish : choice.getStr "finish_reason" = some finishReason)
    (hend : endsInError finishReason = false)
    (hthinking : ∀ block ∈ blocks, block.getStr "type" = some "thinking") (hne : blocks ≠ [])
    (h : openaiResponseToClaude env completion = .ok out) :
    ∃ content, out.getArray "content" = some content ∧ thinkingOf content = blocks := by
  obtain ⟨choice', hchoice, h⟩ := Result.bind_ok.mp h
  obtain ⟨message, hmessage, h⟩ := Result.bind_ok.mp h
  obtain ⟨made, hmade, h⟩ := Result.bind_ok.mp h
  obtain rfl : choice' = choice := by
    simpa [choicesOf_of_single hchoice] using hchoices
  have hmessage := okOr_ok.mp hmessage
  simp only [choiceField, hmessage, Option.bind_some] at hrole hreplay
  have hfield : openaiMessageAnthropicReasoningReplayBlocks message = some blocks := by
    simp [openaiMessageAnthropicReasoningReplayBlocks, Value.getArray, hreplay]
  have hprepared : prepareOpenaiMessageForClaudeResponse message = message := by
    unfold prepareOpenaiMessageForClaudeResponse
    rw [hfield]
  rw [hprepared] at hmade
  obtain ⟨content, rfl, hcontent⟩ := thinkingOf_claudeBlocks hrole hfield hthinking hne hmade
  rw [hfinish, Option.getD_some] at h
  split at h
  · next hterminal => simp [endsInError, hterminal] at hend
  · cases h
    refine ⟨content, ?_, hcontent⟩
    rw [getArray_withUsage _ _ _ (by decide), Value.getArray, Value.get_ofFields]
    rfl

/-! ## There and back -/

/-- A completion that a response of another format goes through. -/
theorem translate_ok {env : TranslationEnv} {upstreamFormat clientFormat : UpstreamFormat}
    {body out : Value} {context : ResponseTranslationContext}
    (hformat : upstreamFormat ≠ clientFormat)
    (h : translateResponseWithContext env upstreamFormat clientFormat body context = .ok out) :
    ∃ completion, upstreamResponseToOpenai env upstreamFormat clientFormat
        context.requestScopedToolBridgeContext body = .ok completion ∧
      openaiResponseToClient env clientFormat context.requestScopedToolBridgeContext
        (if context.suppressReasoning then stripOpenaiCompletionReasoning completion
          else completion) = .ok out := by
  unfold translateResponseWithContext at h
  rw [if_neg hformat] at h
  split at h
  · cases h
  · obtain ⟨completion, hcompletion, h⟩ := Result.bind_ok.mp h
    exact ⟨completion, hcompletion, h⟩

/-- **Signed thinking survives the way through Responses.** An upstream's Anthropic response is
read, translated for a Responses client, and translated back for an Anthropic client by another
proxy, with tools and settings of its own. If a thinking block of the response is signed, the
thinking that arrives is the thinking that was sent: the same blocks in the same order, with all
their fields. -/
theorem signed_thinking_survives_responses (env env' : TranslationEnv) (text : String)
    (body response out : Value) (context context' : ResponseTranslationContext)
    (blocks : List Value) (hread : fromStr env.serde text = some body)
    (hblocks : body.getArray "content" = some blocks)
    (hsigned : blocks.any anthropicBlockHasNonportableThinkingProvenance = true)
    (hfloats : FloatsRead env'.serde.floatText (itemsFloats (thinkingOf blocks)))
    (hthere : translateResponseWithContext env .anthropic .openAiResponses body context =
      .ok response)
    (hback : translateResponseWithContext env' .openAiResponses .anthropic response context' =
      .ok out) :
    ∃ content, out.getArray "content" = some content ∧
      thinkingOf content = thinkingOf blocks := by
  -- the blocks of the replay are the thinking, and there is some
  have hcontent : body.get "content" = some (.array blocks) := by
    obtain ⟨v, hv, hitems⟩ := Option.bind_eq_some_iff.mp hblocks
    cases v with
    | array items =>
      cases hitems
      exact hv
    | _ => cases hitems
  have hreplayed : claudeReasoningReplayBlocks (.array blocks) = thinkingOf blocks ∧
      thinkingOf blocks ≠ [] := by
    have hne := isEmpty_replayBlocks (.array blocks)
    have hasArray : (Value.array blocks).asArray.getD [] = blocks := rfl
    rw [hasArray, hsigned] at hne
    unfold claudeReasoningReplayBlocks at hne ⊢
    dsimp only at hne ⊢
    rw [hasArray] at hne ⊢
    split at hne
    · next hany =>
      rw [if_pos hany]
      exact ⟨rfl, by simpa [thinkingOf] using hne⟩
    · cases hne
  have hthinking : ∀ block ∈ thinkingOf blocks, block.getStr "type" = some "thinking" := by
    intro block hblock
    simpa using (List.mem_filter.mp hblock).2
  have hshaped : ∀ block ∈ thinkingOf blocks, block.Shaped 126 := by
    intro block hblock
    have hitems : (Value.array blocks).Shaped 127 := shaped_get (shaped_of_fromStr hread) hcontent
    exact itemsShaped_iff.mp hitems.2 block (List.mem_filter.mp hblock).1
  -- there
  obtain ⟨completion, hcompletion, hthere⟩ := translate_ok (by decide) hthere
  obtain ⟨choice, content, hchoices, hcontent', ⟨stopReason, hstop⟩, hreplay⟩ :=
    replay_of_claudeResponse hcompletion
  obtain rfl : content = .array blocks := Option.some.inj (hcontent'.symm.trans hcontent)
  have hasArray : (Value.array blocks).asArray.getD [] = blocks := rfl
  rw [hasArray, hsigned, Bool.and_self, if_pos rfl, hreplayed.1] at hreplay
  obtain ⟨sent, hsent, hsentReplay, -, hsentFinish⟩ :=
    choices_suppressed context.suppressReasoning completion hchoices
  obtain ⟨item, others, houtput, hitem, hcarrier, hothers⟩ :=
    output_of_replay hsent (hsentReplay.trans hreplay) hthere
  have hend := finishReason_of_responses hsent (hsentFinish.trans hstop)
    (endsInError_finishReasonOfStopReason stopReason) hthere
  -- and back
  obtain ⟨completion', hcompletion', hback⟩ := translate_ok (by decide) hback
  obtain ⟨choice', hchoices', ⟨hasToolCalls, hfinish⟩, hrole, hreplay'⟩ :=
    completion_of_output houtput hcompletion'
  have hcollected : (item :: others).flatMap (itemReplayBlocks env'.serde) = thinkingOf blocks := by
    have hfirst : itemReplayBlocks env'.serde item = thinkingOf blocks := by
      unfold itemReplayBlocks
      rw [if_pos hitem, replay_of_carrier hcarrier
        (decode_encodeCarrier hshaped hfloats hthinking) hreplayed.2]
      rfl
    have hrest : others.flatMap (itemReplayBlocks env'.serde) = [] := by
      rw [List.flatMap_eq_nil_iff]
      intro other hother
      unfold itemReplayBlocks
      rw [if_neg (List.any_eq_false.mp hothers other hother)]
    rw [List.flatMap_cons, hfirst, hrest, List.append_nil]
  rw [if_pos rfl, hcollected] at hreplay'
  dsimp only at hreplay'
  rw [if_neg (by simpa using hreplayed.2)] at hreplay'
  obtain ⟨sent', hsent', hsentReplay', hsentRole', hsentFinish'⟩ :=
    choices_suppressed context'.suppressReasoning completion' hchoices'
  generalize (if context'.suppressReasoning then stripOpenaiCompletionReasoning completion'
    else completion') = completion'' at hback hsent'
  unfold openaiResponseToClient at hback
  dsimp only at hback
  split at hback
  · cases hback
  · exact thinkingOf_claudeResponse hsent' (hsentRole' ▸ hrole) (hsentReplay'.trans hreplay')
      (hsentFinish'.trans hfinish) (hend hasToolCalls) hthinking hreplayed.2 hback

def signedBlock : Value :=
  .ofFields [("type", .string "thinking"), ("thinking", .string "a plan"),
    ("signature", .string "sig")]

/-- The item that carries it. -/
def carrierItem : Value :=
  .ofFields [("type", .string "reasoning"), ("summary", .array [.ofFields
    [("type", .string "summary_text"), ("text", .string "a plan")]]),
    ("encrypted_content", .string (encodeAnthropicReasoningCarrier [signedBlock]))]

def answerItem : Value :=
  responsesMessageItem [.ofFields [("type", .string "output_text"), ("text", .string "an answer")]]

/-- What a Responses client gets of the two. -/
def signedThinkingThere : Value :=
  .ofFields [("id", .string "chatcmpl-0"), ("object", .string "response"), ("created_at", .nat 0),
    ("model", .string "claude"), ("output", .array [carrierItem, answerItem]),
    ("status", .string "completed"), ("incomplete_details", .null), ("error", .null)]

/-- And what an Anthropic client gets of that. -/
def signedThinkingBack : Value :=
  .ofFields [("id", .string "chatcmpl-0"), ("type", .string "message"),
    ("role", .string "assistant"), ("content", .array [signedBlock, claudeTextBlock "an answer"]),
    ("model", .string "claude"), ("stop_reason", .string "end_turn")]

/-- What is collected from the items. -/
def signedParts : ResponsesOutputParts :=
  { contentParts := [openaiTextPartOfOutputText
      (.ofFields [("type", .string "output_text"), ("text", .string "an answer")])]
    reasoningContent := "a plan", replayBlocks := [signedBlock] }

theorem shaped_texts {depth : Nat} (h : 1 < depth) {fields : List (String × Value)}
    (htexts : ∀ f ∈ fields, ∃ text, f.2 = .string text) : (Value.ofFields fields).Shaped depth := by
  refine shaped_ofFields h fun f hf => ?_
  obtain ⟨text, htext⟩ := htexts f hf
  rw [htext]
  trivial

theorem shaped_signedBlock {depth : Nat} (h : 1 < depth) : signedBlock.Shaped depth := by
  refine shaped_texts h ?_
  simp only [List.forall_mem_cons, List.not_mem_nil, false_imp_iff, implies_true, and_true]
  exact ⟨⟨_, rfl⟩, ⟨_, rfl⟩, ⟨_, rfl⟩⟩

theorem shaped_answerBlock : (claudeTextBlock "an answer").Shaped 126 := by
  refine shaped_texts (by decide) ?_
  simp only [List.forall_mem_cons, List.not_mem_nil, false_imp_iff, implies_true, and_true]
  exact ⟨⟨_, rfl⟩, ⟨_, rfl⟩⟩

/-- The carrier is read by what is known of carriers; to run the parser over it would take long. -/
theorem collect_signed :
    [carrierItem, answerItem].foldlM (collectOutputItem Env.still true) {} = .ok signedParts := by
  have hreplay : responsesReasoningReplayBlocksForAnthropic Env.still.serde carrierItem =
      some [signedBlock] := by
    refine replay_of_carrier rfl (decode_encodeCarrier ?_ ?_ ?_) (List.cons_ne_nil _ _)
    · intro block hblock
      cases List.mem_singleton.mp hblock
      exact shaped_signedBlock (by decide)
    · exact fun _ htext => nomatch htext
    · intro block hblock
      cases List.mem_singleton.mp hblock
      rfl
  have hcarrier : collectOutputItem Env.still true {} carrierItem =
      .ok { reasoningContent := "a plan", replayBlocks := [signedBlock] } := by
    show Except.ok (collectReasoningItem Env.still.serde true carrierItem {}) = _
    unfold collectReasoningItem
    rw [hreplay]
    rfl
  rw [List.foldlM_cons, hcarrier]
  rfl

theorem translate_signedThinkingThere :
    translateResponseWithContext .still .openAiResponses .anthropic signedThinkingThere {} =
      .ok signedThinkingBack := by
  have houtput : signedThinkingThere.getArray "output" = some [carrierItem, answerItem] := rfl
  have hportable : [carrierItem, answerItem].findSome?
      (responsesNonportableOutputItemMessage "Anthropic" true) = none := rfl
  have haudio : responsesResponseAudioToOpenaiAudio signedThinkingThere = .ok none := rfl
  have hcompletion : responsesResponseToOpenaiForAnthropic .still signedThinkingThere =
      .ok (openaiCompletion (.string "chatcmpl-0") (.nat 0) (.string "claude")
        (.ofFields [("index", .nat 0), ("message", signedParts.message none),
          ("finish_reason", .string "stop")])) := by
    unfold responsesResponseToOpenaiForAnthropic responsesResponseToOpenaiImpl
    rw [houtput]
    dsimp only
    rw [if_pos rfl, hportable]
    dsimp only
    rw [haudio, show TranslationEnv.still.toEnv = Env.still from rfl, collect_signed]
    rfl
  show (responsesResponseToOpenaiForAnthropic .still signedThinkingThere).bind
    (openaiResponseToClient .still .anthropic none) = _
  rw [hcompletion]
  rfl

theorem signed_thinking_survives_responses_plan :
    ∃ content, signedThinkingBack.getArray "content" = some content ∧
      thinkingOf content = [signedBlock] := by
  have hread : fromStr Env.still.serde signedThinkingResponse.toJson =
      some signedThinkingResponse := by
    refine fromStr_toJson ?_ (fun _ htext => nomatch htext)
    refine shaped_ofFields (by decide) ?_
    simp only [List.forall_mem_cons, List.not_mem_nil, false_imp_iff, implies_true, and_true]
    exact ⟨trivial, by decide, shaped_signedBlock (by decide), shaped_answerBlock, trivial⟩
  exact signed_thinking_survives_responses .still .still signedThinkingResponse.toJson
    signedThinkingResponse signedThinkingThere signedThinkingBack {} {} _ hread rfl (by decide)
    (fun _ htext => nomatch htext) rfl translate_signedThinkingThere

end LlmUniversalProxy.Translate
