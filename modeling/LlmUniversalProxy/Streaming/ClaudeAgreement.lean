import LlmUniversalProxy.Streaming.ClaudeChunks

/-!
# `Streaming.ClaudeAgreement` — a Chat completion for an Anthropic client, streamed or whole

The completion's thinking, refusal, content and calls can come as chunks, cut anywhere, or in one
body, and an Anthropic client gets events or a message. The body is converted as a whole
(`openai_response_to_claude`, `response_protocols.rs` 203); the sink picks the fields of a delta it
knows, and the refusal is not among them. `claude_client_agrees_iff` says when the client ends up
with the same.

An error in place of a message counts as the same answer when its type and its text are. The
condition is on what the completion says and on its finish reason, never on how it is cut.
-/

set_option autoImplicit false

namespace LlmUniversalProxy.Streaming

open Json Lib Translate

/-! ## The body -/

section

variable (env : Env)

def toolBlock (serde : Serde) (call : SaidCall) : Value :=
  .ofFields [("type", .string "tool_use"), ("id", .string call.id), ("name", .string call.name),
    ("input", inputOf serde call.arguments)]

theorem block_of_call {call : Value} {said : SaidCall} (h : IsCall call said)
    (harguments : ∃ value, fromStr env.serde said.arguments = some value ∧
      value.isObject = true) :
    openaiToolCallToClaudeBlock env call =
      if openaiResponsesCustomToolBridgePrefixIsReserved said.name then
        .error (reservedOpenaiCustomBridgePrefixMessage said.name)
      else .ok (toolBlock env.serde said) := by
  have hmarked : toolCallIsMarkedNonReplayable env call = false := by
    simp [toolCallIsMarkedNonReplayable, h.unmarked]
  have hname := functionName_get h.functionName
  have htype := toolUseType_of_plain env h.toIsPlainCall (.inr h.type) h.functionName hname
  unfold openaiToolCallToClaudeBlock
  rw [hmarked, if_neg (by simp), htype]
  cases hreserved : openaiResponsesCustomToolBridgePrefixIsReserved said.name with
  | true =>
    rw [Option.filter_some_pos hreserved]
    rfl
  | false =>
    have hraw : openaiToolArgumentsRaw call = some said.arguments := by
      obtain ⟨function, hfunction, htext⟩ := Option.bind_eq_some_iff.mp h.arguments
      unfold openaiToolArgumentsRaw
      rw [hfunction, Option.bind_some, Value.get_of_getStr htext]
      rfl
    have hinput : openaiToolArgumentsToStructuredValue env.serde call "Anthropic" =
        .ok (inputOf env.serde said.arguments) := by
      obtain ⟨value, hvalue, hobject⟩ := harguments
      unfold openaiToolArgumentsToStructuredValue structuredArguments inputOf
        rawJsonObjectToStructuredValue
      rw [hraw]
      simp only [hvalue, hobject, if_true, Option.getD_some]
      split <;> rfl
    rw [Option.filter_some_neg hreserved, hinput, hname, h.id]
    rfl

/-- The calls of a message become blocks, unless one has a name of the proxy's own. -/
theorem blocks_of_calls {calls : List Value} {said : List SaidCall}
    (h : List.Forall₂ IsCall calls said)
    (harguments : ∀ call ∈ said, ∃ value, fromStr env.serde call.arguments = some value ∧
      value.isObject = true) :
    calls.mapM (openaiToolCallToClaudeBlock env) =
      match reservedNameOf said with
      | none => .ok (said.map (toolBlock env.serde))
      | some name => .error (reservedOpenaiCustomBridgePrefixMessage name) := by
  induction h with
  | nil => rfl
  | @cons call c calls said hcall _ ih =>
    have hrest := ih fun other hother => harguments other (List.mem_cons_of_mem _ hother)
    rw [List.mapM_cons, block_of_call env hcall (harguments c List.mem_cons_self)]
    unfold reservedNameOf at hrest ⊢
    rw [List.map_cons, List.find?_cons]
    cases hreserved : openaiResponsesCustomToolBridgePrefixIsReserved c.name with
    | true => rfl
    | false =>
      rw [hrest]
      cases (said.map SaidCall.name).find? openaiResponsesCustomToolBridgePrefixIsReserved with
      | none => rfl
      | some name => rfl

theorem toolBlock_texts (serde : Serde) (calls : List SaidCall) :
    thinkingOf (calls.map (toolBlock serde)) = "" ∧ textOf (calls.map (toolBlock serde)) = "" ∧
      (calls.map (toolBlock serde)).filterMap toolUseOf = calls.map fun call =>
        ⟨some call.id, some call.name, inputOf serde call.arguments⟩ := by
  induction calls with
  | nil => exact ⟨rfl, rfl, rfl⟩
  | cons call calls ih =>
    obtain ⟨hthinking, htext, huses⟩ := ih
    refine ⟨?_, ?_, ?_⟩
    · rw [List.map_cons, thinkingOf_cons, hthinking]
      simp [toolBlock, Value.getStr]
    · rw [List.map_cons, textOf_cons, htext]
      simp [toolBlock, Value.getStr]
    · rw [List.map_cons, List.map_cons, List.filterMap_cons, huses]
      simp [toolUseOf, toolBlock, Value.getStr, List.lookup_cons, Value.asStr]

theorem read_textBlock (text : String) :
    textOf [claudeTextBlock text] = text ∧ thinkingOf [claudeTextBlock text] = "" ∧
      [claudeTextBlock text].filterMap toolUseOf = [] := by
  simp [textOf_cons, thinkingOf_cons, claudeTextBlock, toolUseOf, Value.getStr, List.lookup_cons]

theorem read_thinkingBlock (text : String) :
    textOf [unsignedThinkingBlock text] = "" ∧ thinkingOf [unsignedThinkingBlock text] = text ∧
      [unsignedThinkingBlock text].filterMap toolUseOf = [] := by
  simp [textOf_cons, thinkingOf_cons, unsignedThinkingBlock, toolUseOf, Value.getStr,
    List.lookup_cons]

end

/-- The message that is converted has its thinking ready for a replay; all else is as it was. -/
theorem prepared_message {message : Value} {said : Said} (h : IsMessage message said) :
    ∃ thinking, openaiAssistantLeadingBlocks (prepareOpenaiMessageForClaudeResponse message) =
        thinking ++ ((extractOpenaiRefusal message).map claudeTextBlock).toList ∧
      textOf thinking = "" ∧ thinkingOf thinking = said.reasoning ∧
      thinking.filterMap toolUseOf = [] ∧
      ∀ k, k ≠ openaiAnthropicReasoningReplayField →
        (prepareOpenaiMessageForClaudeResponse message).get k = message.get k := by
  have hreplay : openaiMessageAnthropicReasoningReplayBlocks message = none := by
    simp [openaiMessageAnthropicReasoningReplayBlocks, Value.getArray, h.noReplay]
  have htext : openaiMessageReasoningText message =
      (message.getStr "reasoning_content").filter fun text => !text.isEmpty := by
    unfold openaiMessageReasoningText
    rw [h.noDetails]
    exact Option.or_none
  have hreasoning := h.reasoning
  unfold prepareOpenaiMessageForClaudeResponse
  rw [hreplay, htext]
  cases hfilter : (message.getStr "reasoning_content").filter fun text => !text.isEmpty with
  | none =>
    rw [getD_of_filter_none hfilter] at hreasoning
    refine ⟨[], ?_, rfl, hreasoning, rfl, fun k _ => rfl⟩
    unfold openaiAssistantLeadingBlocks
    rw [hreplay, htext, hfilter]
  | some text =>
    rw [(Option.filter_eq_some_iff.mp hfilter).1, Option.getD_some] at hreasoning
    have hobject : message.isObject = true := Value.isObject_of_get (Value.get_of_getStr h.role)
    have happend : appendOpenaiMessageAnthropicReasoningReplayBlocks message
        [unsignedThinkingBlock text] =
        message.set openaiAnthropicReasoningReplayField (.array [unsignedThinkingBlock text]) := by
      unfold appendOpenaiMessageAnthropicReasoningReplayBlocks
      simp [hobject, h.noReplay]
    have hget : ∀ k, k ≠ openaiAnthropicReasoningReplayField →
        (message.set openaiAnthropicReasoningReplayField
          (.array [unsignedThinkingBlock text])).get k = message.get k :=
      fun k hk => Value.get_set_of_ne message _ hk
    obtain ⟨hempty, hthinking, hcalls⟩ := read_thinkingBlock text
    simp only [happend]
    refine ⟨[unsignedThinkingBlock text], ?_, hempty, hthinking.trans hreasoning, hcalls, hget⟩
    unfold openaiAssistantLeadingBlocks openaiMessageAnthropicReasoningReplayBlocks
      extractOpenaiRefusal Value.getStr
    rw [Value.getArray, Value.get_set_self hobject, hget _ (by decide)]
    rfl

/-- The blocks of a refusal, and those of a content. -/
theorem read_refusal {message : Value} {said : Said} (h : IsMessage message said) :
    textOf ((extractOpenaiRefusal message).map claudeTextBlock).toList = said.refusal ∧
      thinkingOf ((extractOpenaiRefusal message).map claudeTextBlock).toList = "" ∧
      ((extractOpenaiRefusal message).map claudeTextBlock).toList.filterMap toolUseOf = [] := by
  have hrefusal := h.refusal
  unfold extractOpenaiRefusal
  cases hfilter : (message.getStr "refusal").filter fun text => !text.isEmpty with
  | none =>
    rw [getD_of_filter_none hfilter] at hrefusal
    exact ⟨hrefusal, rfl, rfl⟩
  | some text =>
    rw [(Option.filter_eq_some_iff.mp hfilter).1, Option.getD_some] at hrefusal
    rw [← hrefusal]
    exact read_textBlock text

theorem read_content (parseUrl : String → Option Url) {content : Option Value} {text : String}
    (h : content = some (.string text) ∨ text = "" ∧ content.getD .null = .null) :
    ∃ blocks, openaiContentToClaudeBlocks parseUrl content = .ok blocks ∧ textOf blocks = text ∧
      thinkingOf blocks = "" ∧ blocks.filterMap toolUseOf = [] := by
  rcases h with rfl | ⟨rfl, hnull⟩
  · obtain ⟨htext, hthinking, hcalls⟩ := read_textBlock text
    exact ⟨_, rfl, htext, hthinking, hcalls⟩
  · refine ⟨[], ?_, rfl, rfl, rfl⟩
    cases content with
    | none => rfl
    | some content =>
      have hcontent : content = .null := hnull
      rw [hcontent]
      rfl

theorem blocks_of_message (env : TranslationEnv) {message : Value} {said : Said}
    (h : IsMessage message said) (harguments : ArgumentsAreObjects env.serde said) :
    match reservedNameOf said.calls with
    | none => ∃ blocks, (openaiMessageToClaudeBlocks env
          (prepareOpenaiMessageForClaudeResponse message)).map
          (fun blocks => blocks.getD [claudeTextBlock ""]) = .ok blocks ∧
        thinkingOf blocks = said.reasoning ∧ textOf blocks = said.refusal ++ said.content ∧
        blocks.filterMap toolUseOf = said.calls.map fun call =>
          ⟨some call.id, some call.name, inputOf env.serde call.arguments⟩
    | some name => openaiMessageToClaudeBlocks env
        (prepareOpenaiMessageForClaudeResponse message) =
          .error (reservedOpenaiCustomBridgePrefixMessage name) := by
  obtain ⟨thinking, hleading, htext₁, hthinking₁, huses₁, hget⟩ := prepared_message h
  obtain ⟨htext₂, hthinking₂, huses₂⟩ := read_refusal h
  obtain ⟨content, hcontent, htext₃, hthinking₃, huses₃⟩ := read_content env.parseUrl h.content
  obtain ⟨hthinking₄, htext₄, huses₄⟩ := toolBlock_texts env.serde said.calls
  have hcalls := blocks_of_calls env.toEnv h.calls harguments
  have hrole : (prepareOpenaiMessageForClaudeResponse message).getStr "role" =
      some "assistant" := by
    rw [Value.getStr, hget "role" (by decide)]
    exact h.role
  have htools : (prepareOpenaiMessageForClaudeResponse message).getArray "tool_calls" =
      message.getArray "tool_calls" := by
    rw [Value.getArray, hget "tool_calls" (by decide)]
    rfl
  unfold openaiMessageToClaudeBlocks
  rw [hrole, hleading, hget "content" (by decide), htools]
  simp only [show ("assistant" = "tool") = False by decide, if_false, if_true, hcontent]
  cases hreserved : reservedNameOf said.calls with
  | some name =>
    rw [hreserved] at hcalls
    have herror : ((message.getArray "tool_calls").getD []).mapM
        (openaiToolCallToClaudeBlock env.toEnv) =
        .error (reservedOpenaiCustomBridgePrefixMessage name) := hcalls
    show ((_ : Except String (List Value)) >>= _) = _
    rw [herror]
    rfl
  | none =>
    rw [hreserved] at hcalls
    have hok : ((message.getArray "tool_calls").getD []).mapM
        (openaiToolCallToClaudeBlock env.toEnv) =
        .ok (said.calls.map (toolBlock env.serde)) := hcalls
    generalize hblocks : thinking ++ ((extractOpenaiRefusal message).map claudeTextBlock).toList ++
      content ++ said.calls.map (toolBlock env.serde) = blocks
    have hread : thinkingOf blocks = said.reasoning ∧ textOf blocks = said.refusal ++ said.content ∧
        blocks.filterMap toolUseOf = said.calls.map fun call =>
          ⟨some call.id, some call.name, inputOf env.serde call.arguments⟩ := by
      rw [← hblocks]
      refine ⟨?_, ?_, ?_⟩
      · simp only [thinkingOf_append, hthinking₁, hthinking₂, hthinking₃, hthinking₄,
          String.append_empty]
      · simp only [textOf_append, htext₁, htext₂, htext₃, htext₄, String.append_empty,
          String.empty_append]
      · simp only [List.filterMap_append, huses₁, huses₂, huses₃, huses₄, List.nil_append]
    show ∃ blocks, Except.map _ ((_ : Except String (List Value)) >>= _) = _ ∧ _
    rw [hok]
    show ∃ found, Except.map _ (if List.isEmpty _ then _ else _) = _ ∧ _
    rw [hblocks]
    cases blocks with
    | cons block blocks => exact ⟨_, rfl, hread⟩
    | nil =>
      -- A message without anything in it is an empty text.
      refine ⟨[claudeTextBlock ""], ?_, ?_⟩
      · rw [if_pos (by simp)]
        split <;> rfl
      · obtain ⟨hthinking, htext, huses⟩ := hread
        exact ⟨hthinking, htext, huses⟩

/-! ## Main result -/

/-- The client ends up with the message that the body becomes, or with the same error. -/
def ClaudeClientAgrees (env : TranslationEnv) (body : Value) (streamed : FoldedMessage) : Prop :=
  match openaiResponseToClaude env body with
  | .error message =>
      streamed.error = some ("invalid_request_error", sanitizePublicErrorMessage message)
  | .ok answer =>
      match errorOf answer with
      | some error => streamed.error = some error
      | none => streamed.error = none ∧ streamed.answer env.serde = Answer.ofMessage answer

/-- There is no refusal, or else an error in place of a message. -/
def claudeAgreesWhen (said : Said) (finishReason : String) : Bool :=
  said.refusal.isEmpty || (reservedNameOf said.calls).isSome || endsInError finishReason

/-- What a client reads in the message that a body becomes, or in the error in its place. -/
theorem answer_ofMessage (body : Value) (usage : Value → Value) (id model : Value)
    (blocks : List Value) (stopReason : String) :
    let answer := withUsage body usage (.ofFields
      [("id", id), ("type", .string "message"), ("role", .string "assistant"),
        ("content", .array blocks), ("model", model), ("stop_reason", .string stopReason)])
    errorOf answer = none ∧ Answer.ofMessage answer =
      ⟨thinkingOf blocks, textOf blocks, blocks.filterMap toolUseOf, some stopReason⟩ := by
  intro answer
  have hget : ∀ k, k ≠ "usage" → answer.get k = Value.get (.ofFields
      [("id", id), ("type", .string "message"), ("role", .string "assistant"),
        ("content", .array blocks), ("model", model), ("stop_reason", .string stopReason)]) k :=
    fun k hk => get_withUsage body usage _ hk
  refine ⟨?_, ?_⟩
  · rw [errorOf, hget "error" (by decide), Value.get_ofFields]
    rfl
  · rw [Answer.ofMessage, Value.getArray, Value.getStr, hget "content" (by decide),
      hget "stop_reason" (by decide), Value.get_ofFields, Value.get_ofFields]
    rfl

theorem error_ofEvent (errorType message : String) :
    errorOf (.ofFields [("type", .string "error"), ("error",
      .ofFields [("type", .string errorType), ("message", .string message)])]) =
      some (errorType, message) := by
  rw [errorOf, Value.get_ofFields]
  show some (_, _) = _
  rw [Value.getStr_ofFields, Value.getStr_ofFields]
  rfl

/-- The tools of a stream that has ended, as a client reads them. -/
theorem answered_calls (serde : Serde) {calls : List SaidCall} {tools : List FoldedTool}
    (h : ∃ blocks : List Nat, blocks.length = calls.length ∧ tools = List.zipWith
      (fun block call => ⟨block, some call.id, some call.name, call.arguments⟩) blocks calls) :
    (tools.map fun tool => (⟨tool.id, tool.name, inputOf serde tool.json⟩ : ToolUse)) =
      calls.map fun call => ⟨some call.id, some call.name, inputOf serde call.arguments⟩ := by
  obtain ⟨blocks, hlength, rfl⟩ := h
  induction calls generalizing blocks with
  | nil => rw [List.zipWith_nil_right]; rfl
  | cons call calls ih =>
    cases blocks with
    | nil => cases hlength
    | cons block blocks =>
      rw [List.zipWith_cons_cons, List.map_cons, List.map_cons,
        ih blocks (Nat.succ.inj hlength)]

theorem eq_empty_of_append_eq {a b : String} (h : a ++ b = b) : a = "" := by
  have hlength := congrArg String.length h
  rw [String.length_append] at hlength
  exact String.length_eq_zero_iff.mp (by omega)

theorem claude_of_completion (env : TranslationEnv) {body : Value} {said : Said}
    {finishReason : String} (h : IsCompletion body said finishReason)
    (harguments : ArgumentsAreObjects env.serde said) :
    match reservedNameOf said.calls with
    | some name => openaiResponseToClaude env body =
        .error (reservedOpenaiCustomBridgePrefixMessage name)
    | none => ∃ answer, openaiResponseToClaude env body = .ok answer ∧
        match classifyOpenaiFinishForAnthropic finishReason with
        | .error errorType message => errorOf answer = some (errorType, message)
        | .stopReason reason => errorOf answer = none ∧ Answer.ofMessage answer =
            ⟨said.reasoning, said.refusal ++ said.content, said.calls.map fun call =>
              ⟨some call.id, some call.name, inputOf env.serde call.arguments⟩, some reason⟩ := by
  obtain ⟨choice, message, hchoices, hmessage, hfinish, hsaid⟩ := h.choice
  have hblocks := blocks_of_message env hsaid harguments
  have hsingle : singleRequiredArrayItem (body.getArray "choices") "OpenAI response" "Anthropic"
      "choices" = .ok choice := by
    rw [hchoices]
    rfl
  cases hreserved : reservedNameOf said.calls with
  | some name =>
    rw [hreserved] at hblocks
    unfold openaiResponseToClaude
    rw [hsingle]
    have herror : openaiMessageToClaudeBlocks env (prepareOpenaiMessageForClaudeResponse message) =
        .error (reservedOpenaiCustomBridgePrefixMessage name) := hblocks
    show (okOr (choice.get "message") "missing message" >>= _) = _
    rw [okOr_ok.mpr hmessage]
    show (openaiMessageToClaudeBlocks env _ >>= _) = _
    rw [herror]
    rfl
  | none =>
    rw [hreserved] at hblocks
    obtain ⟨blocks, hok, hthinking, htext, huses⟩ := hblocks
    obtain ⟨found, hfound, rfl⟩ := Result.map_ok.mp hok
    unfold openaiResponseToClaude
    simp only [hsingle, okOr_ok.mpr hmessage, hfound, hfinish, Option.getD_some, Except.bind,
      bind, pure, Except.pure]
    cases classifyOpenaiFinishForAnthropic finishReason with
    | error errorType message => exact ⟨_, rfl, error_ofEvent errorType message⟩
    | stopReason reason =>
      refine ⟨_, rfl, ?_⟩
      rw [← hthinking, ← htext, ← huses]
      exact answer_ofMessage body _ _ _ _ reason

/-- **A client gets the same from the chunks as from the body**, however they are cut, if and only
if there is no refusal, or there is an error in place of the message. -/
theorem claude_client_agrees_iff (env : TranslationEnv) {body : Value} {said : Said}
    {finishReason : String} {chunks : List Value} (hbody : IsCompletion body said finishReason)
    (harguments : ArgumentsAreObjects env.serde said)
    (hchunks : CutsCompletion said finishReason chunks) :
    ClaudeClientAgrees env body (foldChunks env.toEnv chunks ({}, {})).2 ↔
      claudeAgreesWhen said finishReason = true := by
  have hwhole := claude_of_completion env hbody harguments
  have hstreamed := fold_completion env.toEnv hchunks
  generalize (foldChunks env.toEnv chunks ({}, {})).2 = m at hstreamed
  unfold ClaudeClientAgrees claudeAgreesWhen
  cases hreserved : reservedNameOf said.calls with
  | some name =>
    rw [hreserved] at hwhole hstreamed
    have hbroken : openaiResponseToClaude env body =
        .error (reservedOpenaiCustomBridgePrefixMessage name) := hwhole
    rw [hbroken]
    exact ⟨fun _ => by simp, fun _ => hstreamed⟩
  | none =>
    rw [hreserved] at hwhole hstreamed
    obtain ⟨answer, hanswer, hread⟩ := hwhole
    have hended : Ended said finishReason m := hstreamed
    unfold Ended at hended
    rw [hanswer]
    unfold endsInError
    cases hclass : classifyOpenaiFinishForAnthropic finishReason with
    | error errorType message =>
      simp only [hclass] at hread hended
      simp only [hread]
      exact ⟨fun _ => by simp, fun _ => hended⟩
    | stopReason reason =>
      simp only [hclass] at hread hended
      obtain ⟨hnone, hmessage⟩ := hread
      obtain ⟨hthinking, htext, htools, hstop, herror⟩ := hended
      simp only [hnone, hmessage]
      -- All but the text is the same, whatever has been said.
      have huses : m.answer env.serde = ⟨said.reasoning, said.content, said.calls.map fun call =>
          ⟨some call.id, some call.name, inputOf env.serde call.arguments⟩, some reason⟩ := by
        rw [FoldedMessage.answer, hthinking, htext, hstop, answered_calls env.serde htools]
      rw [huses]
      constructor
      · rintro ⟨_, hsame⟩
        have htexts : said.content = said.refusal ++ said.content := congrArg Answer.text hsame
        simp [eq_empty_of_append_eq htexts.symm]
      · intro hempty
        have hrefusal : said.refusal = "" := by simpa using hempty
        rw [hrefusal, String.empty_append]
        exact ⟨herror, rfl⟩

/-! ### A call, and a refusal -/

/-- A body with one choice. -/
def completionBody (message : Value) (finishReason : String) : Value :=
  .ofFields [("choices", .array [.ofFields [("message", message),
    ("finish_reason", .string finishReason)]])]

theorem completionBody_isCompletion {message : Value} {said : Said} (h : IsMessage message said)
    (finishReason : String) :
    IsCompletion (completionBody message finishReason) said finishReason where
  choice := by
    refine ⟨.ofFields [("message", message), ("finish_reason", .string finishReason)], message,
      ?_, Value.get_ofFields _ _, Value.getStr_ofFields _ _, h⟩
    rw [completionBody, Value.getArray, Value.get_ofFields]
    rfl

theorem cuts_completion {said : Said} {told : List Value} (h : Tells said told)
    (finishReason : String) : CutsCompletion said finishReason
      (told ++ [completionChunk (.ofFields []) (.string finishReason)]) where
  parts := ⟨told, _, .ofFields [], [], h, completionChunk_isChunk _ _,
    ⟨rfl, rfl, rfl, rfl, rfl, rfl⟩, fun _ h => (nomatch h), rfl⟩

def lookingAround : Said := ⟨"Hm.", "", "", [⟨"call_1", "look_around", "\x7b\x7d"⟩]⟩

def lookingAroundMessage : Value :=
  .ofFields [("role", .string "assistant"), ("reasoning_content", .string "Hm."),
    ("tool_calls", .array [lookAround "\x7b\x7d"])]

theorem lookingAround_isMessage : IsMessage lookingAroundMessage lookingAround where
  role := Value.getStr_ofFields _ _
  reasoning := by rw [lookingAroundMessage, Value.getStr_ofFields]; rfl
  noDetails := Value.get_ofFields _ _
  noReplay := Value.get_ofFields _ _
  refusal := by rw [lookingAroundMessage, Value.getStr_ofFields]; rfl
  content := .inr ⟨rfl, by rw [lookingAroundMessage, Value.get_ofFields]; rfl⟩
  calls := by
    rw [lookingAroundMessage, Value.getArray, Value.get_ofFields]
    exact .cons (lookAround_isCall _) .nil

/-- The reasoning, then the call, whose arguments are cut in two. -/
def lookingAroundChunks : List Value :=
  [completionChunk (.ofFields [("reasoning_content", .string "Hm.")]) .null,
    completionChunk (.ofFields [("tool_calls", .array [lookAround "\x7b"])]) .null,
    completionChunk (.ofFields [("tool_calls", .array [moreArguments "\x7d"])]) .null]

theorem lookingAround_tells : Tells lookingAround lookingAroundChunks := by
  have hempty : ∀ seen, IsTakenAsIs "" seen := fun seen h => absurd rfl h
  have hreasoning : DeltaSays (.ofFields [("reasoning_content", .string "Hm.")]) "Hm." "" "" [] :=
    ⟨rfl, rfl, rfl, rfl, rfl, rfl⟩
  have htools : ∀ tc, DeltaSays (.ofFields [("tool_calls", .array [tc])]) "" "" "" [tc] := by
    intro tc
    refine ⟨rfl, rfl, rfl, rfl, rfl, ?_⟩
    rw [Value.getArray, Value.get_ofFields]
    rfl
  have hthought := Tells.nil.chunk (completionChunk_isChunk _ .null) hreasoning
    (fun _ => by decide +kernel) (hempty _) .nil
  have hstarted := hthought.chunk (completionChunk_isChunk _ .null) (htools _) (hempty _)
    (hempty _) (.starts (lookAround_starts "\x7b") .nil)
  exact hstarted.chunk (completionChunk_isChunk _ .null) (htools _) (hempty _) (hempty _)
    (.continues (by decide) (moreArguments_continues "\x7d") .nil)

/-- The arguments of the call are an object's text. -/
theorem lookingAround_arguments : ArgumentsAreObjects TranslationEnv.still.serde lookingAround := by
  intro call hcall
  obtain rfl := List.mem_singleton.mp hcall
  exact ⟨.object [], by decide +kernel, rfl⟩

theorem claude_client_agrees_iff_lookingAround :
    ClaudeClientAgrees .still (completionBody lookingAroundMessage "tool_calls")
        (foldChunks .still (lookingAroundChunks ++
          [completionChunk (.ofFields []) (.string "tool_calls")]) ({}, {})).2 ↔
      claudeAgreesWhen lookingAround "tool_calls" = true :=
  claude_client_agrees_iff .still
    (completionBody_isCompletion lookingAround_isMessage "tool_calls") lookingAround_arguments
    (cuts_completion lookingAround_tells "tool_calls")

def refusing : Said := ⟨"", "No.", "", []⟩

def refusingMessage : Value :=
  .ofFields [("role", .string "assistant"), ("content", .null), ("refusal", .string "No.")]

def refusingChunks : List Value :=
  [completionChunk (.ofFields [("refusal", .string "No.")]) .null]

theorem refusing_isMessage : IsMessage refusingMessage refusing where
  role := Value.getStr_ofFields _ _
  reasoning := rfl
  noDetails := Value.get_ofFields _ _
  noReplay := Value.get_ofFields _ _
  refusal := rfl
  content := .inr ⟨rfl, rfl⟩
  calls := .nil

theorem refusing_tells : Tells refusing refusingChunks :=
  Tells.nil.chunk (completionChunk_isChunk _ .null)
    (⟨rfl, rfl, rfl, rfl, rfl, rfl⟩ : DeltaSays (.ofFields [("refusal", .string "No.")]) "" "No." ""
      []) (fun h => absurd rfl h) (fun h => absurd rfl h) .nil

/-- A client that streams is not told the refusal: it gets a message without any text. -/
theorem refusal_is_not_streamed :
    ∃ (body : Value) (chunks : List Value) (said : Said), IsCompletion body said "stop" ∧
      ArgumentsAreObjects TranslationEnv.still.serde said ∧ CutsCompletion said "stop" chunks ∧
      ¬ ClaudeClientAgrees .still body (foldChunks .still chunks ({}, {})).2 := by
  have hbody := completionBody_isCompletion refusing_isMessage "stop"
  have harguments : ArgumentsAreObjects TranslationEnv.still.serde refusing :=
    fun call hcall => (nomatch hcall)
  have hchunks := cuts_completion refusing_tells "stop"
  refine ⟨_, _, refusing, hbody, harguments, hchunks, ?_⟩
  obtain ⟨answer, hanswer, hnone, hwhole⟩ := claude_of_completion .still hbody harguments
  obtain ⟨_, htext, _, _, _⟩ := fold_completion Env.still hchunks
  intro hagrees
  unfold ClaudeClientAgrees at hagrees
  simp only [hanswer, hnone, hwhole] at hagrees
  have hsame := congrArg Answer.text hagrees.2
  exact absurd (htext.symm.trans hsame) (by decide)

end LlmUniversalProxy.Streaming
