import LlmUniversalProxy.Streaming.AnthropicStreamed

/-!
# `Streaming.AnthropicAgreement` — an Anthropic message, streamed or in one piece

A message of texts and thoughts can come as a stream of events, cut anywhere, or as one body. Either
way it goes to a Chat client: the stream through `claude_event_to_openai_chunks`
(`streaming/anthropic_source.rs` 150-612), the body through `claude_response_to_openai_internal` and
`convert_claude_message_to_openai_impl` (`translate/internal.rs` 1661-1725 and 2121-2283).
`claude_stream_agrees` compares what the client has in the end: the same, but for what a stream does
by design.

- A text has gone out as content before the stop reason is known. Where that is a refusal, the body
  moves the text to `refusal` (1699-1705), and the stream has it as content.
- A stream says that tool calls ended the message only when there was one
  (`has_structured_tool_use`, 541-562); the body goes by the stop reason alone.
- Thinking that is marked as omitted is withheld from a stream (`omitted`, 210-231 and 359-363). The
  provider sends no text in such a block. A body that has some all the same passes it on.

A text that comes with the start of its block is not among these: a stream drops it, while it passes
on thinking that does. The provider starts its text blocks empty, and nothing is said here of a
stream that does not.
-/

set_option autoImplicit false

namespace LlmUniversalProxy.Streaming

open Json Lib Translate

/-! ## The message in one piece -/

def textPartsOf (blocks : List Value) : List Value :=
  blocks.filterMap fun block => if block.getStr "type" = some "text" then
    (block.getStr "text").map fun text => semanticTextPartToOpenaiValue ⟨text, []⟩ else none

/-- Texts without annotations collapse to one. -/
theorem collapse_textParts (blocks : List Value) :
    collapseOpenaiTextParts (textPartsOf blocks) = .string (textOf blocks) := by
  have hparts : textPartsOf blocks = (blocks.filterMap fun block =>
      if block.getStr "type" = some "text" then block.getStr "text" else none).map
        fun text => semanticTextPartToOpenaiValue ⟨text, []⟩ := by
    rw [List.map_filterMap]
    refine List.filterMap_congr fun block _ => ?_
    split <;> rfl
  rw [hparts, collapse_plainTexts]
  rfl

section

variable (env : TranslationEnv) (bridgeContext : Option ToolBridgeContext)

/-- What one block adds to the parts of its message, or that it keeps the message from being
converted. -/
theorem convert_block {index : Nat} {block : Value} {events : List Value}
    (h : RendersBlock index block events) :
    (¬ IsForeign block ∧ convertClaudeBlock env false bridgeContext {} block =
        .ok (some { parts := textPartsOf [block], reasoningText := thinkingOf [block] })) ∨
      IsForeign block ∧ ∀ parts,
        convertClaudeBlock env false bridgeContext {} block ≠ .ok (some parts) := by
  cases h with
  | text htype htext hcitations _ _ _ _ _ =>
    refine .inl ⟨fun hforeign => absurd (hforeign _ htype) (by decide), ?_⟩
    unfold convertClaudeBlock
    rw [htype]
    simp [semanticTextPartFromClaudeBlock, htext, hcitations, textPartsOf, htype, thinkingOf_cons]
  | thinking htype _ _ _ _ _ _ =>
    refine .inl ⟨fun hforeign => absurd (hforeign _ htype) (by decide), ?_⟩
    unfold convertClaudeBlock
    rw [htype]
    simp [textPartsOf, htype, thinkingOf_cons]
  | foreign hforeign _ _ =>
    refine .inr ⟨hforeign, fun parts hparts => ?_⟩
    unfold convertClaudeBlock at hparts
    split at hparts
    · cases hparts
    all_goals first
      | (next htype => exact absurd (hforeign _ htype) (by decide))
      | cases hparts

theorem convert_blocks {index : Nat} {blocks events : List Value}
    (h : RendersBlocks index blocks events) :
    ∀ acc : ClaudeMessageParts,
      (¬ HasForeign blocks ∧ convertClaudeBlocks env false bridgeContext acc blocks =
          .ok (some (acc.append
            { parts := textPartsOf blocks, reasoningText := thinkingOf blocks }))) ∨
        HasForeign blocks ∧ ∀ parts,
          convertClaudeBlocks env false bridgeContext acc blocks ≠ .ok (some parts) := by
  induction h with
  | nil =>
    intro acc
    refine .inl ⟨fun ⟨_, hmem, _⟩ => absurd hmem List.not_mem_nil, ?_⟩
    simp [convertClaudeBlocks, ClaudeMessageParts.append, textPartsOf]
  | @cons index block blocks events rest hblock _ ih =>
    intro acc
    rw [convertClaudeBlocks, convertClaudeBlock_append]
    rcases convert_block env bridgeContext hblock with
      ⟨hnot, hone⟩ | ⟨hforeign, hnone⟩
    · rw [hone]
      simp only [Except.map, Option.map_some]
      rcases ih (acc.append { parts := textPartsOf [block], reasoningText := thinkingOf [block] })
        with ⟨hrest, hall⟩ | ⟨hrest, hall⟩
      · refine .inl ⟨?_, ?_⟩
        · rintro ⟨other, hmem, hforeign⟩
          rcases List.mem_cons.mp hmem with rfl | hmem
          · exact hnot hforeign
          · exact hrest ⟨other, hmem, hforeign⟩
        · have hparts : textPartsOf [block] ++ textPartsOf blocks = textPartsOf (block :: blocks) :=
            List.filterMap_append.symm
          have hthinking : thinkingOf [block] ++ thinkingOf blocks =
              thinkingOf (block :: blocks) := by simp [thinkingOf_cons]
          rw [hall, ClaudeMessageParts.append_assoc]
          simp [ClaudeMessageParts.append, hparts, hthinking]
      · obtain ⟨other, hmem, hforeign⟩ := hrest
        exact .inr ⟨⟨other, List.mem_cons_of_mem _ hmem, hforeign⟩, hall⟩
    · refine .inr ⟨⟨block, List.mem_cons_self, hforeign⟩, fun parts hparts => ?_⟩
      cases hone : convertClaudeBlock env false bridgeContext {} block with
      | error e =>
        rw [hone] at hparts
        cases hparts
      | ok part =>
        cases part with
        | none =>
          rw [hone] at hparts
          cases hparts
        | some part => exact hnone part hone

/-- The assistant's message of texts and thoughts. -/
theorem messages_of_texts (blocks : List Value) :
    ({ parts := textPartsOf blocks, reasoningText := thinkingOf blocks } :
      ClaudeMessageParts).messages "assistant" =
      [withReasoningContent (thinkingOf blocks) (.ofFields [("role", .string "assistant"),
        ("content", .string (textOf blocks))])] := by
  unfold ClaudeMessageParts.messages
  have hcollapse := collapse_textParts blocks
  cases hparts : textPartsOf blocks with
  | nil =>
    have hempty : textOf blocks = "" := by
      rw [hparts] at hcollapse
      exact (Value.string.inj hcollapse).symm
    simp [hempty]
  | cons part parts =>
    rw [hparts] at hcollapse
    simp [hcollapse]

/-- The message of the completion, before its stop reason is looked at. -/
def textsMessage (blocks : List Value) : Value :=
  withReasoningContent (thinkingOf blocks) (.ofFields [("role", .string "assistant"),
    ("content", .string (textOf blocks))])

theorem get_textsMessage (blocks : List Value) {k : String} (h : k ≠ "reasoning_content") :
    (textsMessage blocks).get k =
      [("role", .string "assistant"), ("content", .string (textOf blocks))].lookup k := by
  rw [textsMessage, get_withReasoningContent _ _ h, Value.get_ofFields]

theorem reasoning_textsMessage (blocks : List Value) :
    ((textsMessage blocks).getStr "reasoning_content").getD "" = thinkingOf blocks := by
  unfold textsMessage withReasoningContent Value.getStr
  split
  · next hempty =>
    rw [Value.get_ofFields, String.isEmpty_iff.mp hempty]
    rfl
  · rw [Value.get_set_self (Value.isObject_ofFields _)]
    rfl

theorem claudeResponseMessage_texts {body : Value} {blocks : List Value}
    (hcontent : body.get "content" = some (.array blocks))
    (hconvert : convertClaudeBlocks env false bridgeContext {} blocks =
      .ok (some { parts := textPartsOf blocks, reasoningText := thinkingOf blocks })) :
    claudeResponseMessage env false bridgeContext body =
      .ok (applyClaudeRefusal ((body.getStr "stop_reason").getD "stop") (textsMessage blocks)) := by
  have hmessages : convertClaudeMessageToOpenai env false bridgeContext
      (.ofFields [("role", .string "assistant"), ("content", .array blocks)]) =
      .ok (some [textsMessage blocks]) := by
    unfold convertClaudeMessageToOpenai
    rw [Value.getStr_ofFields, Value.get_ofFields]
    show (convertClaudeBlocks env false bridgeContext {} blocks).map
      (Option.map (ClaudeMessageParts.messages (openaiRoleOfClaudeRole "assistant"))) = _
    rw [hconvert]
    show Except.ok (some (ClaudeMessageParts.messages "assistant" _)) = _
    rw [messages_of_texts]
    rfl
  have hrole : (textsMessage blocks).getStr "role" = some "assistant" := by
    rw [Value.getStr, get_textsMessage blocks (by decide)]
    rfl
  have hfind : [textsMessage blocks].find? (fun item => item.getStr "role" = some "assistant") =
      some (textsMessage blocks) := List.find?_cons_of_pos (by simp [hrole])
  exact Result.bind_ok.mpr ⟨_, okOr_ok.mpr hcontent, Result.bind_ok.mpr ⟨_, hmessages,
    Result.bind_ok.mpr ⟨_, rfl, Result.bind_ok.mpr ⟨_, okOr_ok.mpr hfind, rfl⟩⟩⟩⟩

/-- What a client reads off the message, once its stop reason has been looked at. -/
theorem read_refused (blocks : List Value) (stopReason : Option String) :
    ({ content := extractOpenaiContentText
          ((applyClaudeRefusal (stopReason.getD "stop") (textsMessage blocks)).get "content")
       reasoning := ((applyClaudeRefusal (stopReason.getD "stop")
          (textsMessage blocks)).getStr "reasoning_content").getD ""
       refusal := ((applyClaudeRefusal (stopReason.getD "stop")
          (textsMessage blocks)).getStr "refusal").getD ""
       toolCalls := (((applyClaudeRefusal (stopReason.getD "stop")
          (textsMessage blocks)).getArray "tool_calls").getD []).mapIdx FoldedCall.ofDelta
       finishReason := some (finishReasonOfStopReason (stopReason.getD "stop")) } : Folded) =
      { content := if stopReason = some "refusal" then "" else textOf blocks
        refusal := if stopReason = some "refusal" then textOf blocks else ""
        reasoning := thinkingOf blocks
        finishReason := some (finishReasonOfStopReason (stopReason.getD "stop")) } := by
  have hcontent : (textsMessage blocks).get "content" = some (.string (textOf blocks)) :=
    get_textsMessage blocks (by decide)
  have hrefusal : (textsMessage blocks).getStr "refusal" = none := by
    rw [Value.getStr, get_textsMessage blocks (by decide)]
    rfl
  have hcalls : (textsMessage blocks).get "tool_calls" = none := get_textsMessage blocks (by decide)
  have hreasoning : ((applyClaudeRefusal (stopReason.getD "stop")
      (textsMessage blocks)).getStr "reasoning_content").getD "" = thinkingOf blocks := by
    rw [Value.getStr, get_applyClaudeRefusal _ _ (by decide) (by decide)]
    exact reasoning_textsMessage blocks
  have hnocalls : (applyClaudeRefusal (stopReason.getD "stop")
      (textsMessage blocks)).getArray "tool_calls" = none := by
    rw [Value.getArray, get_applyClaudeRefusal _ _ (by decide) (by decide), hcalls]
    rfl
  rw [hreasoning, hnocalls]
  by_cases hrefused : stopReason = some "refusal"
  · subst hrefused
    have hobject : (textsMessage blocks).isObject = true :=
      isObject_withReasoningContent (Value.isObject_ofFields _)
    have hset : ∃ message : Value, message.isObject = true ∧
        (message.getStr "refusal").getD "" = textOf blocks ∧
        applyClaudeRefusal "refusal" (textsMessage blocks) = message.set "content" .null := by
      unfold applyClaudeRefusal
      rw [if_pos rfl, hcontent]
      by_cases hempty : textOf blocks = ""
      · refine ⟨textsMessage blocks, hobject, ?_, by simp [extractOpenaiContentText, hempty]⟩
        rw [hrefusal, hempty]
        rfl
      · refine ⟨(textsMessage blocks).set "refusal" (.string (textOf blocks)),
          Value.isObject_set hobject _ _, ?_, by simp [extractOpenaiContentText, hempty]⟩
        rw [Value.getStr, Value.get_set_self hobject]
        rfl
    obtain ⟨message, hmessage, htext, heq⟩ := hset
    simp only [Option.getD_some, heq, if_true, Value.get_set_self hmessage,
      Value.getStr_set_of_ne message .null (show "refusal" ≠ "content" by decide), htext]
    rfl
  · have hstop : stopReason.getD "stop" ≠ "refusal" := by
      intro heq
      cases stopReason with
      | none => exact absurd heq (by decide)
      | some reason => exact hrefused (congrArg some heq)
    simp only [applyClaudeRefusal, if_neg hstop, if_neg hrefused, hcontent, hrefusal]
    rfl

/-- The completion of a message of texts and thoughts, as a client reads it. -/
theorem completion_of_texts {body : Value} {blocks events : List Value}
    (h : RendersMessage body blocks events) :
    (¬ HasForeign blocks ∧ ∃ completion,
        claudeResponseToOpenai env bridgeContext body = .ok completion ∧
        Folded.ofCompletion completion =
          { content := if body.getStr "stop_reason" = some "refusal" then "" else textOf blocks
            refusal := if body.getStr "stop_reason" = some "refusal" then textOf blocks else ""
            reasoning := thinkingOf blocks
            finishReason :=
              some (finishReasonOfStopReason ((body.getStr "stop_reason").getD "stop")) }) ∨
      HasForeign blocks ∧ ∃ e, claudeResponseToOpenai env bridgeContext body = .error e := by
  obtain ⟨_, _, _, _, hblocks, _⟩ := h.rendered
  rcases convert_blocks env bridgeContext hblocks {} with
    ⟨hnot, hall⟩ | ⟨hforeign, hnone⟩
  · rw [ClaudeMessageParts.empty_append] at hall
    have hmessage := claudeResponseMessage_texts env bridgeContext h.content hall
    refine .inl ⟨hnot, _, Result.bind_ok.mpr ⟨_, hmessage, rfl⟩, ?_⟩
    rw [ofCompletion_single]
    exact read_refused blocks _
  · refine .inr ⟨hforeign, ?_⟩
    cases hresult : claudeResponseToOpenai env bridgeContext body with
    | error e => exact ⟨e, rfl⟩
    | ok completion =>
      obtain ⟨message, hmessage, _⟩ := Result.bind_ok.mp hresult
      obtain ⟨content, converted, hcontent, hconverts, _⟩ := claudeResponseMessage_ok hmessage
      rw [h.content] at hcontent
      rcases hconverts with ⟨text, htext, _⟩ | ⟨others, parts, hothers, hparts, _, _⟩
      · rw [← Option.some.inj hcontent] at htext
        cases htext
      · rw [← Option.some.inj hcontent] at hothers
        rw [← Value.array.inj hothers] at hparts
        exact absurd hparts (hnone parts)

end

/-! ## Main result -/

/-- The stream and the body say the same, but for what the stream does by design. -/
structure AgreesByDesign (stopReason : Option String) (blocks events : List Value)
    (streamed whole : Folded) : Prop where
  /-- All text is content in the stream. -/
  streamedText : TextsBeginEmpty events → streamed.content = textOf blocks
  streamedRefusal : streamed.refusal = ""
  /-- In the body it is the refusal if the stop reason is one, and content otherwise. -/
  wholeText : whole.content = if stopReason = some "refusal" then "" else textOf blocks
  wholeRefusal : whole.refusal = if stopReason = some "refusal" then textOf blocks else ""
  /-- Omitted thinking is not streamed. -/
  thinking : whole.reasoning = thinkingOf blocks ∧ streamed.reasoning = shownThinkingOf blocks
  /-- Tool calls that did not come do not end the message. -/
  finish : streamed.finishReason =
    if stopReason = some "tool_use" then some "stop" else whole.finishReason

/-- **An Anthropic message of texts and thoughts comes to the same, streamed or in one piece**, and
is refused by both or by neither. -/
theorem claude_stream_agrees (env : TranslationEnv) (bridgeContext : Option ToolBridgeContext)
    (body : Value) (blocks events : List Value) (h : RendersMessage body blocks events) :
    let streamed := foldEvents (claudeEventToOpenaiChunks env.toEnv) events ({}, {})
    match claudeResponseToOpenai env bridgeContext body with
    | .ok completion => streamed.1.fatalRejection = none ∧
        AgreesByDesign (body.getStr "stop_reason") blocks events streamed.2
          (Folded.ofCompletion completion)
    | .error _ => Rejected streamed := by
  intro streamed
  rcases completion_of_texts env bridgeContext h with
    ⟨hnot, completion, hok, hwhole⟩ | ⟨hforeign, e, herror⟩
  · rcases fold_message env.toEnv h with ⟨_, s, text, hs, haccepted, htext⟩ | ⟨hforeign, _⟩
    · have hstreamed : streamed = _ := hs
      rw [hok]
      show streamed.1.fatalRejection = none ∧ AgreesByDesign _ _ _ streamed.2 _
      rw [hstreamed, hwhole]
      refine ⟨haccepted, htext, rfl, rfl, rfl, ⟨rfl, rfl⟩, ?_⟩
      show some (streamedFinish _) = _
      unfold streamedFinish
      split <;> rfl
    · exact absurd hforeign hnot
  · rw [herror]
    rcases fold_message env.toEnv h with ⟨hnot, _⟩ | ⟨_, hrejected⟩
    · exact absurd hforeign hnot
    · exact hrejected

/-! ### Where the two part

Messages of one block, one for each way in which the stream and the body part. -/

/-- A message of one block, with what its stream says of the block. -/
structure OneBlock where
  block : Value
  started : Value
  delta : Value
  stopReason : String

def firstBlockEvent (eventType : String) (fields : List (String × Value)) : Value :=
  .ofFields (("type", .string eventType) :: ("index", .nat 0) :: fields)

def OneBlock.body (m : OneBlock) : Value :=
  .ofFields [("content", .array [m.block]), ("stop_reason", .string m.stopReason)]

def OneBlock.blockEvents (m : OneBlock) : List Value :=
  [firstBlockEvent "content_block_start" [("content_block", m.started)],
    firstBlockEvent "content_block_delta" [("delta", m.delta)],
    firstBlockEvent "content_block_stop" []]

def OneBlock.events (m : OneBlock) : List Value :=
  .ofFields [("type", .string "message_start")] :: (m.blockEvents ++
    [.ofFields [("type", .string "message_delta"),
      ("delta", .ofFields [("stop_reason", .string m.stopReason)])],
    .ofFields [("type", .string "message_stop")]])

def textBlock (text : String) : Value :=
  .ofFields [("type", .string "text"), ("text", .string text)]

def omittedThinkingBlock (thinking : String) : Value :=
  .ofFields [("type", .string "thinking"), ("thinking", .string thinking),
    ("display", .string "omitted")]

/-- A text of which the first part comes with the start of its block. -/
def textMessage (begun rest stopReason : String) : OneBlock where
  block := textBlock (begun ++ rest)
  started := textBlock begun
  delta := .ofFields [("type", .string "text_delta"), ("text", .string rest)]
  stopReason := stopReason

/-- Thinking that is marked as omitted, and comes all the same. -/
def omittedMessage (thinking stopReason : String) : OneBlock where
  block := omittedThinkingBlock thinking
  started := omittedThinkingBlock ""
  delta := .ofFields [("type", .string "thinking_delta"), ("thinking", .string thinking)]
  stopReason := stopReason

theorem isBlockEvent_first (eventType : String) (fields : List (String × Value)) :
    IsBlockEvent eventType 0 (firstBlockEvent eventType fields) :=
  ⟨Value.getStr_ofFields _ _,
    (congrArg (Option.bind · Value.asU64) (Value.get_ofFields _ _)).trans rfl⟩

theorem OneBlock.isBlockStart (m : OneBlock) :
    IsBlockStart 0 (firstBlockEvent "content_block_start" [("content_block", m.started)])
      m.started := ⟨isBlockEvent_first _ _, Value.get_ofFields _ _⟩

theorem OneBlock.isBlockDelta (m : OneBlock) :
    IsBlockDelta 0 (firstBlockEvent "content_block_delta" [("delta", m.delta)]) m.delta :=
  ⟨isBlockEvent_first _ _, Value.get_ofFields _ _⟩

theorem OneBlock.renders {m : OneBlock} (h : RendersBlock 0 m.block m.blockEvents) :
    RendersMessage m.body [m.block] m.events where
  content := Value.get_ofFields _ _
  rendered := by
    refine ⟨.ofFields [("type", .string "message_start")], .ofFields [("type", .string
      "message_delta"), ("delta", .ofFields [("stop_reason", .string m.stopReason)])],
      .ofFields [("type", .string "message_stop")], m.blockEvents ++ [], .cons h .nil,
      Value.getStr_ofFields _ _, Value.getStr_ofFields _ _, ?_, Value.getStr_ofFields _ _, ?_⟩
    · simp [OneBlock.body, Value.getStr_ofFields, List.lookup_cons, Value.asStr]
    · rw [List.append_nil]
      rfl

theorem textMessage_renders (begun rest stopReason : String) :
    RendersMessage (textMessage begun rest stopReason).body [textBlock (begun ++ rest)]
      (textMessage begun rest stopReason).events := by
  let m := textMessage begun rest stopReason
  have hdeltas : TextDeltas 0 [firstBlockEvent "content_block_delta" [("delta", m.delta)]]
      (rest ++ "") :=
    .text m.isBlockDelta (Value.getStr_ofFields _ _) (Value.getStr_ofFields _ _) .nil
  have hcitations : ((textBlock (begun ++ rest)).getArray "citations").getD [] = [] := by
    simp [textBlock, Value.getArray, List.lookup_cons]
  have hbegun : ((textBlock begun).getStr "text").getD "" ++ (rest ++ "") = begun ++ rest := by
    simp [textBlock, Value.getStr_ofFields, List.lookup_cons, Value.asStr]
  exact OneBlock.renders (.text (Value.getStr_ofFields _ _) (Value.getStr_ofFields _ _) hcitations
    m.isBlockStart (Value.getStr_ofFields _ _) hdeltas hbegun (isBlockEvent_first _ _))

theorem omittedMessage_renders (thinking stopReason : String) :
    RendersMessage (omittedMessage thinking stopReason).body [omittedThinkingBlock thinking]
      (omittedMessage thinking stopReason).events := by
  let m := omittedMessage thinking stopReason
  have hdeltas : ThinkingDeltas 0 [firstBlockEvent "content_block_delta" [("delta", m.delta)]]
      (thinking ++ "") :=
    .thinking m.isBlockDelta (Value.getStr_ofFields _ _) (Value.getStr_ofFields _ _) .nil
  have homitted : ∀ text, thinkingIsOmitted (omittedThinkingBlock text) = true := fun text => by
    have hstring : (Value.string text).get "display" = none := rfl
    simp [thinkingIsOmitted, omittedThinkingBlock, List.lookup_cons, hstring, Value.asStr]
  have hbegun : ((omittedThinkingBlock "").getStr "thinking").getD "" ++ (thinking ++ "") =
      ((omittedThinkingBlock thinking).getStr "thinking").getD "" := by
    simp [omittedThinkingBlock, Value.getStr_ofFields, List.lookup_cons, Value.asStr]
  exact OneBlock.renders (.thinking (Value.getStr_ofFields _ _) m.isBlockStart
    (Value.getStr_ofFields _ _) ((homitted _).trans (homitted _).symm) hdeltas hbegun
    (isBlockEvent_first _ _))

/-- A refusal of one text. -/
theorem claude_stream_agrees_refusal :
    let m := textMessage "" "I cannot" "refusal"
    let streamed := foldEvents (claudeEventToOpenaiChunks Env.still) m.events ({}, {})
    match claudeResponseToOpenai .still none m.body with
    | .ok completion => streamed.1.fatalRejection = none ∧
        AgreesByDesign (m.body.getStr "stop_reason") [textBlock "I cannot"] m.events streamed.2
          (Folded.ofCompletion completion)
    | .error _ => Rejected streamed :=
  claude_stream_agrees .still none _ _ _ (textMessage_renders "" "I cannot" "refusal")

/-- The stream and the body of this message say the same under one heading. -/
def AgreesOn {α : Type} (read : Folded → α) (m : OneBlock) : Prop :=
  ∀ completion, RendersMessage m.body [m.block] m.events →
    claudeResponseToOpenai .still none m.body = .ok completion →
    read (foldEvents (claudeEventToOpenaiChunks Env.still) m.events ({}, {})).2 =
      read (Folded.ofCompletion completion)

theorem not_agreesOn {α : Type} {read : Folded → α} {m : OneBlock} {a b : α}
    (hrenders : RendersMessage m.body [m.block] m.events)
    (hwhole : (claudeResponseToOpenai .still none m.body).toOption.map
      (fun completion => read (Folded.ofCompletion completion)) = some a)
    (hstreamed : read (foldEvents (claudeEventToOpenaiChunks Env.still) m.events ({}, {})).2 = b)
    (hne : b ≠ a) : ¬ AgreesOn read m := by
  intro h
  cases hok : claudeResponseToOpenai .still none m.body with
  | error e =>
    rw [hok] at hwhole
    cases hwhole
  | ok completion =>
    rw [hok] at hwhole
    have hread : read (Folded.ofCompletion completion) = a := Option.some.inj hwhole
    exact hne (hstreamed.symm.trans ((h completion hrenders hok).trans hread))

/-- The text of a refusal is content in the stream and a refusal in the body; tool calls that did
not come end the body and not the stream; thinking that is omitted, and text that comes with the
start of its block, are in the body and not in the stream. -/
theorem stream_parts_from_body :
    (¬ AgreesOn Folded.content (textMessage "" "no" "refusal") ∧
      ¬ AgreesOn Folded.refusal (textMessage "" "no" "refusal")) ∧
    ¬ AgreesOn Folded.finishReason (textMessage "" "hi" "tool_use") ∧
    ¬ AgreesOn Folded.reasoning (omittedMessage "a plan" "end_turn") ∧
    ¬ AgreesOn Folded.content (textMessage "a" "b" "end_turn") := by
  refine ⟨⟨?_, ?_⟩, ?_, ?_, ?_⟩
  · exact @not_agreesOn _ _ _ "" "no" (textMessage_renders _ _ _) (by decide +kernel)
      (by decide +kernel) (by decide)
  · exact @not_agreesOn _ _ _ "no" "" (textMessage_renders _ _ _) (by decide +kernel)
      (by decide +kernel) (by decide)
  · exact @not_agreesOn _ _ _ (some "tool_calls") (some "stop") (textMessage_renders _ _ _)
      (by decide +kernel) (by decide +kernel) (by decide)
  · exact @not_agreesOn _ _ _ "a plan" "" (omittedMessage_renders _ _) (by decide +kernel)
      (by decide +kernel) (by decide)
  · exact @not_agreesOn _ _ _ "ab" "b" (textMessage_renders _ _ _) (by decide +kernel)
      (by decide +kernel) (by decide)

end LlmUniversalProxy.Streaming
