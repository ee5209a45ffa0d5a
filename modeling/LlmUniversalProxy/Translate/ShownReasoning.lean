import LlmUniversalProxy.Lib.Result
import LlmUniversalProxy.Translate.Response

/-!
# `Translate.ShownReasoning` — the reasoning that a client finds in a translated response

A response to any client goes through a completion. `showsReasoning` is what a client of each format
would call reasoning in its body: a text field on a message of Chat, an item of Responses, a block
of Anthropic. For each of the three the module says when the translation of a completion shows some,
once the two text fields have been stripped: a Chat client never sees any, and the other two see
what has become of the replay of Anthropic's thinking, and nothing else. No call, audio or text ever
comes out as reasoning, which has to be checked for every kind of item and block that is made.
-/

set_option autoImplicit false

namespace LlmUniversalProxy.Translate

open Json Lib

/-! ## What shows reasoning -/

def choiceField (choice : Value) (field : String) : Option Value :=
  (choice.get "message").bind (Value.get · field)

/-- A block that shows Anthropic's reasoning. -/
def isThinkingBlock (block : Value) : Bool :=
  block.getStr "type" = some "thinking" || block.getStr "type" = some "redacted_thinking"

/-- The blocks of a content: an array of them, or a single one. -/
def blocksOf : Value → List Value
  | .array blocks => blocks
  | .object block => [.object block]
  | _ => []

def isReasoningItem (item : Value) : Bool := item.getStr "type" = some "reasoning"

/-- A client of this format sees reasoning in the body. -/
def showsReasoning : UpstreamFormat → Value → Bool
  | .openAiChatCompletions, body => (choicesOf body).any fun choice =>
      ["reasoning_content", "reasoning_details", openaiAnthropicReasoningReplayField].any
        fun field => (choiceField choice field).isSome
  | .openAiResponses, body => ((body.getArray "output").getD []).any isReasoningItem
  | .anthropic, body => (((body.get "content").map blocksOf).getD []).any isThinkingBlock

/-! ## What is kept -/

/-- The replay on a choice's message, as far as it reaches a client of this format. -/
def choiceKeepsReplay (clientFormat : UpstreamFormat) (choice : Value) : Bool :=
  let replay := choiceField choice openaiAnthropicReasoningReplayField
  match clientFormat with
  | .openAiChatCompletions => replay.isSome
  | .openAiResponses => (replay.bind Value.asArray).isSome
  | .anthropic => !endsInError ((choice.getStr "finish_reason").getD "stop") &&
      (choiceField choice "role").bind Value.asStr = some "assistant" &&
      ((replay.bind Value.asArray).getD []).any isThinkingBlock

def replayKept (clientFormat : UpstreamFormat) (completion : Value) : Bool :=
  (choicesOf completion).any (choiceKeepsReplay clientFormat)

/-- The bodies whose reasoning outlasts its suppression. Each case is a way past
`strip_openai_completion_reasoning` and its likes. -/
def reasoningKept (serde : Serde) (upstreamFormat clientFormat : UpstreamFormat) (body : Value) :
    Bool :=
  match upstreamFormat, clientFormat with
  | .openAiChatCompletions, clientFormat => replayKept clientFormat body
  | .anthropic, .anthropic => (body.get "content").any isThinkingBlock
  | .anthropic, .openAiChatCompletions => false
  | .anthropic, .openAiResponses =>
      ((body.getArray "content").getD []).any anthropicBlockHasNonportableThinkingProvenance
  | .openAiResponses, .openAiResponses => false
  -- a body without an output is handed on as it is, and so are its choices, if it has any
  | .openAiResponses, .openAiChatCompletions =>
      (body.getArray "output").isNone && replayKept .openAiChatCompletions body
  | .openAiResponses, .anthropic =>
      match body.getArray "output" with
      | none => replayKept .anthropic body
      | some output => !endsInError (responsesFinishReasonToOpenai body false) &&
          output.any fun item => isReasoningItem item &&
            (responsesReasoningReplayBlocksForAnthropic serde item).isSome

/-! ## The messages of a completion -/

theorem choicesOf_mapChoiceMessages (f : Value → Value) (body : Value) :
    choicesOf (mapChoiceMessages f body) = (choicesOf body).map (mapChoiceMessage f) := by
  unfold choicesOf mapChoiceMessages
  cases h : body.getArray "choices" with
  | none => simp [h]
  | some choices =>
    obtain ⟨v, hv, _⟩ := Option.bind_eq_some_iff.mp h
    simp [Value.getArray, Value.get_set_self (Value.isObject_of_get hv)]

theorem get_mapChoiceMessage (f : Value → Value) (choice : Value) {k : String}
    (h : k ≠ "message") : (mapChoiceMessage f choice).get k = choice.get k := by
  unfold mapChoiceMessage
  split
  · exact Value.get_set_of_ne choice _ h
  · rfl

/-- A field of a message, after a change of the message that says what becomes of the field. -/
theorem choiceField_mapChoiceMessage {f : Value → Value} {field : String}
    {g : Option Value → Option Value} (hg : g none = none)
    (hf : ∀ message : Value, message.isObject = true →
      (f message).get field = g (message.get field)) (choice : Value) :
    choiceField (mapChoiceMessage f choice) field = g (choiceField choice field) := by
  unfold choiceField mapChoiceMessage
  cases hm : choice.get "message" with
  | none => simp [hm, hg]
  | some message =>
    cases ho : message.isObject with
    | true =>
      simp only [Option.filter_some, ho, if_true]
      rw [Value.get_set_self (Value.isObject_of_get hm)]
      exact hf message ho
    | false =>
      have hnone : message.get field = none := by
        cases hx : message.get field with
        | none => rfl
        | some x =>
          rw [Value.isObject_of_get hx] at ho
          cases ho
      have hskip : (some message).filter Value.isObject = none := by simp [ho]
      simp only [hskip, hm, Option.bind_some, hnone, hg]

/-- A change of the messages that spares the replay and the role keeps the replay. -/
theorem replayKept_mapChoiceMessages {f : Value → Value} (clientFormat : UpstreamFormat)
    (hreplay : ∀ m : Value, m.isObject = true →
      (f m).get openaiAnthropicReasoningReplayField = m.get openaiAnthropicReasoningReplayField)
    (hrole : ∀ m : Value, m.isObject = true → (f m).get "role" = m.get "role") (body : Value) :
    replayKept clientFormat (mapChoiceMessages f body) = replayKept clientFormat body := by
  have hchoice : ∀ choice, choiceKeepsReplay clientFormat (mapChoiceMessage f choice) =
      choiceKeepsReplay clientFormat choice := by
    intro choice
    have h₁ := choiceField_mapChoiceMessage (g := id) rfl hreplay choice
    have h₂ := choiceField_mapChoiceMessage (g := id) rfl hrole choice
    have h₃ : (mapChoiceMessage f choice).getStr "finish_reason" =
        choice.getStr "finish_reason" := by
      unfold Value.getStr
      rw [get_mapChoiceMessage f choice (by decide)]
    unfold choiceKeepsReplay
    rw [h₁, h₂, h₃]
    rfl
  unfold replayKept
  rw [choicesOf_mapChoiceMessages, List.any_map]
  exact congrArg (List.any _) (funext hchoice)

theorem replayKept_strip (clientFormat : UpstreamFormat) (body : Value) :
    replayKept clientFormat (stripOpenaiCompletionReasoning body) =
      replayKept clientFormat body := by
  refine replayKept_mapChoiceMessages clientFormat ?_ ?_ body <;>
    intro m _ <;> rw [Value.get_remove, Value.get_remove] <;> rfl

theorem replayKept_normalize (clientFormat : UpstreamFormat) (body : Value) :
    replayKept clientFormat (normalizeOpenaiCompletionResponse body) =
      replayKept clientFormat body := by
  have hother : ∀ (m : Value) {k : String}, k ≠ "reasoning_content" →
      (normalizeOpenaiMessageReasoning m).get k = m.get k := by
    intro m k hk
    unfold normalizeOpenaiMessageReasoning
    split
    · rfl
    · split
      · exact Value.get_set_of_ne m _ hk
      · rfl
  exact replayKept_mapChoiceMessages clientFormat (fun m _ => hother m (by decide))
    (fun m _ => hother m (by decide)) body

/-- A choice whose message has neither of the two fields that are stripped. -/
def ReasoningStripped (completion : Value) : Prop :=
  ∀ choice ∈ choicesOf completion, choiceField choice "reasoning_content" = none ∧
    choiceField choice "reasoning_details" = none

theorem reasoningStripped_strip (body : Value) :
    ReasoningStripped (stripOpenaiCompletionReasoning body) := by
  intro choice hchoice
  rw [stripOpenaiCompletionReasoning, choicesOf_mapChoiceMessages] at hchoice
  obtain ⟨original, _, rfl⟩ := List.mem_map.mp hchoice
  constructor <;>
    exact choiceField_mapChoiceMessage (g := fun _ => none) rfl
      (fun m _ => by rw [Value.get_remove, Value.get_remove]; rfl) original

/-! ## To a Chat client -/

theorem showsReasoning_chat {completion : Value} (h : ReasoningStripped completion) :
    showsReasoning .openAiChatCompletions completion =
      replayKept .openAiChatCompletions completion := by
  unfold showsReasoning replayKept
  rw [Bool.eq_iff_iff, List.any_eq_true, List.any_eq_true]
  refine exists_congr fun choice => and_congr_right fun hchoice => ?_
  obtain ⟨h₁, h₂⟩ := h choice hchoice
  simp [h₁, h₂, choiceKeepsReplay]

/-! ## To a Responses client -/

theorem getStr_type_responsesCallItem (itemType payloadField : String) (id : Option Value)
    (name payload : String) :
    (responsesCallItem itemType payloadField id name payload).getStr "type" = some itemType := by
  rw [responsesCallItem, Value.getStr_ofFields]
  rfl

/-- A call is an item of one of two types. -/
theorem type_normalizedToolCallToResponsesItem (call : NormalizedOpenAiFamilyToolCall) :
    (normalizedToolCallToResponsesItem call).getStr "type" =
      some (if call.custom then "custom_tool_call" else "function_call") := by
  have hitem : (if call.custom then
        responsesCallItem "custom_tool_call" "input" call.id call.name call.payload
      else responsesCallItem "function_call" "arguments" call.id call.name call.payload).getStr
        "type" = some (if call.custom then "custom_tool_call" else "function_call") := by
    cases call.custom <;> exact getStr_type_responsesCallItem ..
  unfold normalizedToolCallToResponsesItem
  rw [getStr_withProxiedToolKind _ _ (by decide)]
  cases call.namespaceName with
  | some ns => exact (Value.getStr_set_of_ne _ _ (by decide)).trans hitem
  | none => exact hitem

theorem type_bridgedCallItem (serde : Serde) (bridgeContext : Option ToolBridgeContext)
    (call : NormalizedOpenAiFamilyToolCall) :
    (bridgedCallItem serde bridgeContext call).getStr "type" = some "custom_tool_call" ∨
      (bridgedCallItem serde bridgeContext call).getStr "type" = some "function_call" := by
  have hplain : (normalizedToolCallToResponsesItem call).getStr "type" = some "custom_tool_call" ∨
      (normalizedToolCallToResponsesItem call).getStr "type" = some "function_call" := by
    rw [type_normalizedToolCallToResponsesItem]
    cases call.custom
    · exact .inr rfl
    · exact .inl rfl
  unfold bridgedCallItem
  split
  · exact hplain
  · split
    · split
      · left
        rw [getStr_withProxiedToolKind _ _ (by decide), getStr_type_responsesCallItem]
      · exact hplain
    · split
      · right
        rw [getStr_withProxiedToolKind _ _ (by decide), Value.getStr_set_of_ne _ _ (by decide),
          getStr_type_responsesCallItem]
      · exact hplain

theorem call_is_no_reasoning {env : Env} {bridgeContext : Option ToolBridgeContext}
    {toolCall item : Value}
    (h : openaiToolCallToResponsesItemDecodingCustomBridge env bridgeContext toolCall = .ok item) :
    isReasoningItem item = false := by
  obtain ⟨call, hcall, h⟩ := Result.bind_ok.mp h
  cases call with
  | none =>
    cases h
    simp only [isReasoningItem, openaiToolCallToResponsesItem, hcall]
    rw [getStr_copyMarker _ _ _ (by decide), Value.getStr_ofFields]
    rfl
  | some call =>
    cases h
    unfold isReasoningItem
    rw [getStr_copyMarker _ _ _ (by decide)]
    rcases type_bridgedCallItem env.serde bridgeContext call with h | h <;> rw [h] <;> rfl

theorem isReasoningItem_messageItem (content : List Value) :
    isReasoningItem (responsesMessageItem content) = false := by
  rw [isReasoningItem, responsesMessageItem, Value.getStr_ofFields]
  rfl

/-- The audio is an item of its own type. -/
theorem audio_is_no_reasoning {message : Value} {audio : Option Value}
    (h : openaiAssistantAudioToResponsesOutputItem message = .ok audio) :
    audio.toList.any isReasoningItem = false := by
  have hitem : ∀ fields : List (String × Value),
      isReasoningItem (.ofFields (("type", .string "output_audio") :: fields)) = false := by
    intro fields
    rw [isReasoningItem, Value.getStr_ofFields]
    rfl
  unfold openaiAssistantAudioToResponsesOutputItem at h
  split at h
  · cases h
    rfl
  · cases h
    rfl
  · obtain ⟨_, _, h⟩ := Result.bind_ok.mp h
    cases hdata : (Value.object ‹_›).get "data" with
    | some data =>
      simp only [hdata] at h
      obtain ⟨_, _, h⟩ := Result.bind_ok.mp h
      cases h
      simp [hitem]
    | none =>
      simp only [hdata] at h
      cases h
      simp [hitem]
  · obtain ⟨_, _, h⟩ := Result.bind_ok.mp h
    cases h
    simp [hitem]

/-! ## A response to Responses -/

theorem choicesOf_of_single {body choice : Value} {source target field : String}
    (h : singleRequiredArrayItem (body.getArray "choices") source target field = .ok choice) :
    choicesOf body = [choice] := by
  unfold singleRequiredArrayItem at h
  split at h
  · next hitems =>
    cases h
    rw [choicesOf, hitems]
    rfl
  all_goals cases h

theorem reasoningText_of_stripped {choice message : Value}
    (hmessage : choice.get "message" = some message)
    (h : choiceField choice "reasoning_content" = none ∧
      choiceField choice "reasoning_details" = none) :
    openaiMessageReasoningText message = none := by
  simp only [choiceField, hmessage, Option.bind_some] at h
  simp [openaiMessageReasoningText, Value.getStr, h.1, h.2, reasoningDetailsToText]

theorem any_reasoningItem (replayBlocks : Option (List Value)) :
    (responsesReasoningItem none replayBlocks).toList.any isReasoningItem =
      replayBlocks.isSome := by
  cases replayBlocks with
  | none => rfl
  | some blocks =>
    simp only [responsesReasoningItem, Option.isNone_none, Option.isNone_some, Bool.and_false,
      Bool.false_eq_true, if_false, Option.toList_some, List.any_cons, List.any_nil, Bool.or_false,
      isReasoningItem, Option.isSome_some]
    rw [List.cons_append, Value.getStr_ofFields]
    rfl

/-- What may stand in front of the calls: the reasoning, a message, or both. -/
theorem leadingItems_ok {env : TranslationEnv} {choice message : Value} {audio : Option Value}
    {leading : List Value} (h : responsesLeadingItems env choice message audio = .ok leading) :
    let reasoning := (responsesReasoningItem (openaiMessageReasoningText message)
      (openaiMessageAnthropicReasoningReplayBlocks message)).toList
    (∃ content, leading = reasoning ++ [responsesMessageItem content]) ∨
      (∃ content, reasoning = [] ∧ leading = [responsesMessageItem content]) ∨
        leading = reasoning := by
  unfold responsesLeadingItems at h
  intro reasoning
  have hends : ∀ content : List Value, (if !content.isEmpty then
      pure (reasoning ++ [responsesMessageItem content])
    else if (message.get "tool_calls").isNone && reasoning.isEmpty && audio.isNone then
      pure [responsesMessageItem
        [.ofFields [("type", .string "output_text"), ("text", .string "")]]]
    else pure reasoning : Except String (List Value)) = .ok leading →
      (∃ content, leading = reasoning ++ [responsesMessageItem content]) ∨
        (∃ content, reasoning = [] ∧ leading = [responsesMessageItem content]) ∨
          leading = reasoning := by
    intro content h
    split at h
    · cases h
      exact .inl ⟨content, rfl⟩
    · split at h
      · next hempty =>
        cases h
        have hnil : reasoning = [] := by simpa using (Bool.and_eq_true_iff.mp
          (Bool.and_eq_true_iff.mp hempty).1).2
        exact .inr (.inl ⟨_, hnil, rfl⟩)
      · exact .inr (.inr (Except.ok.inj h).symm)
  obtain ⟨content, _, h⟩ := Result.bind_ok.mp h
  obtain ⟨logprobs, _, h⟩ := Result.bind_ok.mp h
  cases logprobs with
  | none => exact hends content h
  | some logprobs =>
    obtain ⟨content, _, h⟩ := Result.bind_ok.mp h
    exact hends content h

/-- What the body that `openai_response_to_responses` makes has been made from: the one choice of the
completion, its audio, the items in front of its calls, and its calls. -/
structure MadeOf (env : TranslationEnv) (bridgeContext : Option ToolBridgeContext)
    (completion out choice message : Value) (audio : Option Value) (leading calls : List Value) :
    Prop where
  choices : choicesOf completion = [choice]
  said : choice.get "message" = some message
  spoken : openaiAssistantAudioToResponsesOutputItem message = .ok audio
  front : responsesLeadingItems env choice message audio = .ok leading
  called : ((message.getArray "tool_calls").getD []).mapM
    (openaiToolCallToResponsesItemDecodingCustomBridge env.toEnv bridgeContext) = .ok calls
  output : out.getArray "output" = some (leading ++ calls ++ audio.toList)
  status : out.getStr "status" = some
    (responsesStatusOfFinishReason ((choice.getStr "finish_reason").getD "stop")).1
  details : out.get "incomplete_details" = some
    (responsesStatusOfFinishReason ((choice.getStr "finish_reason").getD "stop")).2.1
  error : out.get "error" = some
    (responsesStatusOfFinishReason ((choice.getStr "finish_reason").getD "stop")).2.2

theorem openaiResponseToResponses_ok {env : TranslationEnv}
    {bridgeContext : Option ToolBridgeContext} {completion out : Value}
    (h : openaiResponseToResponses env bridgeContext completion = .ok out) :
    ∃ choice message audio leading calls,
      MadeOf env bridgeContext completion out choice message audio leading calls := by
  obtain ⟨choice, hchoice, h⟩ := Result.bind_ok.mp h
  obtain ⟨message, hmessage, h⟩ := Result.bind_ok.mp h
  obtain ⟨audio, haudio, h⟩ := Result.bind_ok.mp h
  obtain ⟨leading, hleading, h⟩ := Result.bind_ok.mp h
  obtain ⟨calls, hcalls, h⟩ := Result.bind_ok.mp h
  cases h
  refine ⟨choice, message, audio, leading, calls, choicesOf_of_single hchoice, okOr_ok.mp hmessage,
    haudio, hleading, hcalls, ?_, ?_, ?_, ?_⟩
  · rw [getArray_withUsage _ _ _ (by decide), Value.getArray, Value.get_ofFields]
    rfl
  · rw [Value.getStr, get_withUsage _ _ _ (by decide), Value.get_ofFields]
    rfl
  · rw [get_withUsage _ _ _ (by decide), Value.get_ofFields]
    rfl
  · rw [get_withUsage _ _ _ (by decide), Value.get_ofFields]
    rfl

theorem MadeOf.calls_no_reasoning {env : TranslationEnv} {bridgeContext : Option ToolBridgeContext}
    {completion out choice message : Value} {audio : Option Value} {leading calls : List Value}
    (h : MadeOf env bridgeContext completion out choice message audio leading calls) :
    calls.any isReasoningItem = false := by
  rw [List.any_eq_false]
  intro item hitem
  obtain ⟨toolCall, _, hcall⟩ := Result.exists_of_mem_mapM h.called hitem
  simp [call_is_no_reasoning hcall]

/-- In front of the calls, only the replay is reasoning. -/
theorem any_leadingItems {env : TranslationEnv} {choice message : Value} {audio : Option Value}
    {leading : List Value} (htext : openaiMessageReasoningText message = none)
    (h : responsesLeadingItems env choice message audio = .ok leading) :
    leading.any isReasoningItem =
      (openaiMessageAnthropicReasoningReplayBlocks message).isSome := by
  have hreplay := any_reasoningItem (openaiMessageAnthropicReasoningReplayBlocks message)
  have hform := leadingItems_ok h
  rw [htext] at hform
  rcases hform with ⟨content, rfl⟩ | ⟨content, hnil, rfl⟩ | rfl
  · rw [List.any_append, hreplay]
    simp [isReasoningItem_messageItem]
  · rw [← hreplay, hnil]
    simp [isReasoningItem_messageItem]
  · exact hreplay

theorem showsReasoning_responses {env : TranslationEnv} {bridgeContext : Option ToolBridgeContext}
    {completion out : Value} (hstripped : ReasoningStripped completion)
    (h : openaiResponseToResponses env bridgeContext completion = .ok out) :
    showsReasoning .openAiResponses out = replayKept .openAiResponses completion := by
  obtain ⟨choice, message, audio, leading, calls, hmade⟩ := openaiResponseToResponses_ok h
  have htext := reasoningText_of_stripped hmade.said (hstripped choice (by simp [hmade.choices]))
  show ((out.getArray "output").getD []).any isReasoningItem = _
  rw [hmade.output, Option.getD_some, List.any_append, List.any_append,
    any_leadingItems htext hmade.front, hmade.calls_no_reasoning,
    audio_is_no_reasoning hmade.spoken]
  simp [replayKept, hmade.choices, choiceKeepsReplay, choiceField, hmade.said,
    openaiMessageAnthropicReasoningReplayBlocks, Value.getArray]

/-! ## A message to Anthropic

Thinking is what the replay says it is: the content and the calls of a message give blocks of other
types. -/

theorem not_thinking_of_type {block : Value} {blockType : String}
    (h : block.getStr "type" = some blockType) (hthinking : blockType ≠ "thinking")
    (hredacted : blockType ≠ "redacted_thinking") : isThinkingBlock block = false := by
  simp [isThinkingBlock, h, hthinking, hredacted]

theorem not_thinking_text (text : String) : isThinkingBlock (claudeTextBlock text) = false :=
  not_thinking_of_type (Value.getStr_ofFields _ _) (by decide) (by decide)

theorem not_thinking_source {blockType : String} (hthinking : blockType ≠ "thinking")
    (hredacted : blockType ≠ "redacted_thinking") (source : List (String × Value)) :
    isThinkingBlock (claudeSourceBlock blockType source) = false :=
  not_thinking_of_type (Value.getStr_ofFields _ _) hthinking hredacted

theorem not_thinking_textPart {part block : Value}
    (h : openaiTextPartToClaudeTextBlock part = .ok block) : isThinkingBlock block = false := by
  unfold openaiTextPartToClaudeTextBlock at h
  split at h
  · cases h
  · cases h
    split
    · exact not_thinking_text _
    · refine not_thinking_of_type ((Value.getStr_set_of_ne _ _ (by decide)).trans
        (Value.getStr_ofFields _ _)) (by decide) (by decide)

theorem not_thinking_imagePart {parseUrl : String → Option Url} {part block : Value}
    (h : openaiImageUrlPartToClaudeBlock parseUrl part = .ok block) :
    isThinkingBlock block = false := by
  unfold openaiImageUrlPartToClaudeBlock at h
  split at h
  · cases h
  · split at h
    · split at h
      · cases h
        exact not_thinking_source (by decide) (by decide) _
      · cases h
    · cases h
      exact not_thinking_source (by decide) (by decide) _
    all_goals cases h

theorem not_thinking_filePart {parseUrl : String → Option Url} {part block : Value}
    (h : openaiFilePartToClaudeDocumentBlock parseUrl part = .ok block) :
    isThinkingBlock block = false := by
  unfold openaiFilePartToClaudeDocumentBlock at h
  obtain ⟨_, _, h⟩ := Result.bind_ok.mp h
  split at h
  · cases h
  · obtain ⟨_, _, h⟩ := Result.bind_ok.mp h
    obtain ⟨reference, _, h⟩ := Result.bind_ok.mp h
    cases reference with
    | inlineData mimeType data =>
      dsimp only at h
      split at h
      · cases h
        exact not_thinking_source (by decide) (by decide) _
      · cases h
    | httpRemoteUrl mimeType url =>
      dsimp only at h
      split at h
      · cases h
        exact not_thinking_source (by decide) (by decide) _
      · cases h
    | providerOrLocalUri mimeType uri => cases h
    | bareBase64 mimeType data => cases h

theorem not_thinking_part {parseUrl : String → Option Url} {part block : Value}
    (h : openaiContentPartToClaudeBlock parseUrl part = .ok block) :
    isThinkingBlock block = false := by
  unfold openaiContentPartToClaudeBlock at h
  split at h
  · cases h
  · exact not_thinking_textPart h
  · cases h
    exact not_thinking_of_type (Value.getStr_ofFields _ _) (by decide) (by decide)
  · exact not_thinking_imagePart h
  · cases h
  · exact not_thinking_filePart h
  · exact not_thinking_filePart h
  · cases h

theorem not_thinking_content {parseUrl : String → Option Url} {content : Option Value}
    {blocks : List Value} (h : openaiContentToClaudeBlocks parseUrl content = .ok blocks) :
    blocks.any isThinkingBlock = false := by
  unfold openaiContentToClaudeBlocks at h
  split at h
  · cases h
    simp [not_thinking_text]
  · rw [List.any_eq_false]
    intro block hblock
    obtain ⟨part, _, hpart⟩ := Result.exists_of_mem_mapM h hblock
    simp [not_thinking_part hpart]
  · cases h
    rfl

theorem not_thinking_call {env : Env} {toolCall block : Value}
    (h : openaiToolCallToClaudeBlock env toolCall = .ok block) : isThinkingBlock block = false := by
  unfold openaiToolCallToClaudeBlock at h
  split at h
  · cases h
    exact not_thinking_text _
  · obtain ⟨blockType, htype, h⟩ := Result.bind_ok.mp h
    obtain ⟨input, _, h⟩ := Result.bind_ok.mp h
    cases h
    have huse : blockType = "server_tool_use" ∨ blockType = "tool_use" := by
      unfold anthropicToolUseTypeForOpenaiToolCall at htype
      obtain ⟨_, _, htype⟩ := Result.bind_ok.mp htype
      cases hkind : semanticToolKindFromValue env toolCall with
      | openAiCustom =>
        simp only [hkind] at htype
        cases htype
      | anthropicServerTool =>
        simp only [hkind] at htype
        obtain ⟨_, _, htype⟩ := Result.bind_ok.mp htype
        cases htype
        exact .inl rfl
      | function =>
        simp only [hkind] at htype
        obtain ⟨_, _, htype⟩ := Result.bind_ok.mp htype
        cases htype
        exact .inr rfl
    rcases huse with rfl | rfl <;>
      exact not_thinking_of_type (Value.getStr_ofFields _ _) (by decide) (by decide)

theorem any_leadingBlocks {msg : Value} (htext : openaiMessageReasoningText msg = none) :
    (openaiAssistantLeadingBlocks msg).any isThinkingBlock =
      ((openaiMessageAnthropicReasoningReplayBlocks msg).getD []).any isThinkingBlock := by
  have hrefusal : ((extractOpenaiRefusal msg).map claudeTextBlock).toList.any isThinkingBlock =
      false := by
    cases extractOpenaiRefusal msg with
    | none => rfl
    | some refusal => simp [not_thinking_text]
  unfold openaiAssistantLeadingBlocks
  rw [htext]
  dsimp only
  rw [List.any_append, hrefusal, Bool.or_false]
  cases openaiMessageAnthropicReasoningReplayBlocks msg <;> rfl

theorem any_claudeBlocks {env : TranslationEnv} {msg : Value} {blocks : Option (List Value)}
    (htext : openaiMessageReasoningText msg = none)
    (h : openaiMessageToClaudeBlocks env msg = .ok blocks) :
    (blocks.getD [claudeTextBlock ""]).any isThinkingBlock =
      (msg.getStr "role" = some "assistant" &&
        ((openaiMessageAnthropicReasoningReplayBlocks msg).getD []).any isThinkingBlock) := by
  unfold openaiMessageToClaudeBlocks at h
  split at h
  · next hrole =>
    cases h
    simp [hrole, not_thinking_text]
  · next role hrole =>
    split at h
    · next htool =>
      subst htool
      split at h
      · cases h
      · cases h
        have hresult : ∀ fields : List (String × Value),
            isThinkingBlock (.ofFields (("type", .string "tool_result") :: fields)) = false :=
          fun fields => not_thinking_of_type (Value.getStr_ofFields _ _) (by decide) (by decide)
        simp [hrole, hresult]
    · obtain ⟨content, hcontent, h⟩ := Result.bind_ok.mp h
      obtain ⟨calls, hcalls, h⟩ := Result.bind_ok.mp h
      -- neither content nor calls become thinking, so it is in the leading blocks or nowhere
      have hcalls : calls.any isThinkingBlock = false := by
        rw [List.any_eq_false]
        intro block hblock
        obtain ⟨toolCall, _, hcall⟩ := Result.exists_of_mem_mapM hcalls hblock
        simp [not_thinking_call hcall]
      have hleading : (if role = "assistant" then openaiAssistantLeadingBlocks msg else []).any
          isThinkingBlock = (msg.getStr "role" = some "assistant" &&
            ((openaiMessageAnthropicReasoningReplayBlocks msg).getD []).any isThinkingBlock) := by
        by_cases hassistant : role = "assistant"
        · simp only [hassistant, if_true, any_leadingBlocks htext, hrole, decide_true,
            Bool.true_and]
        · simp [hassistant, hrole]
      rw [← hleading]
      generalize (if role = "assistant" then openaiAssistantLeadingBlocks msg else []) = leading
        at h
      have hall : (leading ++ content ++ calls).any isThinkingBlock =
          leading.any isThinkingBlock := by
        rw [List.any_append, List.any_append, not_thinking_content hcontent, hcalls,
          Bool.or_false, Bool.or_false]
      cases hempty : (leading ++ content ++ calls).isEmpty with
      | true =>
        simp only [hempty, if_true] at h
        rw [← hall, List.isEmpty_iff.mp hempty]
        cases h
        split <;> simp [not_thinking_text]
      | false =>
        simp only [hempty, Bool.false_eq_true, if_false] at h
        cases h
        exact hall

theorem showsReasoning_anthropic {env : TranslationEnv} {completion out : Value}
    (hstripped : ReasoningStripped completion)
    (h : openaiResponseToClaude env completion = .ok out) :
    showsReasoning .anthropic out = replayKept .anthropic completion := by
  obtain ⟨choice, hchoice, h⟩ := Result.bind_ok.mp h
  obtain ⟨message, hmessage, h⟩ := Result.bind_ok.mp h
  obtain ⟨blocks, hblocks, h⟩ := Result.bind_ok.mp h
  have hchoices := choicesOf_of_single hchoice
  have hmessage := okOr_ok.mp hmessage
  have htext := reasoningText_of_stripped hmessage (hstripped choice (by simp [hchoices]))
  have hprepared : prepareOpenaiMessageForClaudeResponse message = message := by
    unfold prepareOpenaiMessageForClaudeResponse
    rw [htext]
    cases openaiMessageAnthropicReasoningReplayBlocks message <;> rfl
  rw [hprepared] at hblocks
  have hthinking := any_claudeBlocks htext hblocks
  have hkept : replayKept .anthropic completion =
      (!endsInError ((choice.getStr "finish_reason").getD "stop") &&
        (blocks.getD [claudeTextBlock ""]).any isThinkingBlock) := by
    rw [hthinking]
    simp only [replayKept, hchoices, List.any_cons, List.any_nil, Bool.or_false,
      choiceKeepsReplay, choiceField, hmessage, Option.bind_some, Value.getStr,
      openaiMessageAnthropicReasoningReplayBlocks, Value.getArray, Bool.and_assoc]
    rfl
  rw [hkept]
  split at h
  · next hterminal =>
    have hends : endsInError ((choice.getStr "finish_reason").getD "stop") = true := by
      rw [endsInError, hterminal]
    cases h
    rw [hends, showsReasoning, Value.get_ofFields]
    rfl
  · next hterminal =>
    have hends : endsInError ((choice.getStr "finish_reason").getD "stop") = false := by
      rw [endsInError, hterminal]
    cases h
    rw [hends]
    show ((((withUsage ..).get "content").map blocksOf).getD []).any isThinkingBlock = _
    rw [get_withUsage _ _ _ (by decide), Value.get_ofFields]
    rfl

end LlmUniversalProxy.Translate
