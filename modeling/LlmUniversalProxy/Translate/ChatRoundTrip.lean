import LlmUniversalProxy.Translate.ChatConversation

/-!
# `Translate.ChatRoundTrip` — conversations of Chat, to Responses and back

On the way to Responses every message of the assistant falls apart into items, and on the way back
the items are gathered again. A conversation in which every call is answered where it is made, and
in which the assistant never speaks twice in a row, comes back as it was: each message is a stretch
of items that leaves exactly that message behind (`addItems_message`).

Two messages of the assistant in a row come back as one, so the condition cannot be left out.
-/

set_option autoImplicit false

namespace LlmUniversalProxy.Translate

open Json Lib
open ResponsesHistory

/-! ## One item -/

/-- The message of the assistant that is open, once so much of it was said. -/
def openAssistantOf (text reasoning : Option String) (calls : List ChatCall) : Option Value :=
  if text.isNone && reasoning.isNone && calls.isEmpty then none
  else some (ChatMessage.assistant text reasoning calls).toValue

section

variable {h : ResponsesHistory} {text reasoning : Option String} {calls : List ChatCall}

theorem isObject_assistantWords (text reasoning : Option String) :
    (assistantWords text reasoning).isObject = true := isObject_setSome rfl _ _

theorem get_assistantWords_calls (text reasoning : Option String) :
    (assistantWords text reasoning).get "tool_calls" = none := by
  unfold assistantWords
  rw [get_setSome_of_ne (by decide)]
  simp [chatMessage, List.lookup_cons]

/-- The list of calls that is there, or is made. -/
theorem openCalls_eq (hopen : h.currentAssistant = openAssistantOf text reasoning calls) :
    (let assistant := h.currentAssistant.getD (.ofFields
        [("role", .string "assistant"), ("content", .null), ("tool_calls", .array [])])
      if (assistant.get "tool_calls").isNone then assistant.set "tool_calls" (.array [])
      else assistant) =
      (assistantWords text reasoning).set "tool_calls" (.array (calls.map ChatCall.toValue)) := by
  have hobject := isObject_assistantWords text reasoning
  have hthere : ∀ toolCalls : List Value, (((assistantWords text reasoning).set "tool_calls"
      (.array toolCalls)).get "tool_calls").isNone = false := fun toolCalls => by
    rw [Value.get_set_self hobject]
    rfl
  dsimp only
  cases calls with
  | nil =>
    by_cases hsilent : (text.isNone && reasoning.isNone) = true
    · obtain ⟨htext, hreasoning⟩ := Bool.and_eq_true_iff.mp hsilent
      rw [Option.isNone_iff_eq_none] at htext hreasoning
      subst htext hreasoning
      rw [hopen]
      rfl
    · have hwords : openAssistantOf text reasoning [] = some (assistantWords text reasoning) :=
        if_neg (by rw [List.isEmpty_nil, Bool.and_true]; exact hsilent)
      rw [hopen, hwords, Option.getD_some, get_assistantWords_calls]
      rfl
  | cons first calls =>
    have hcalls : openAssistantOf text reasoning (first :: calls) =
        some ((assistantWords text reasoning).set "tool_calls"
          (.array ((first :: calls).map ChatCall.toValue))) := if_neg (by simp)
    rw [hopen, hcalls, Option.getD_some, hthere, if_neg Bool.false_ne_true]

/-- One more call. -/
theorem withToolCall_toValue (hopen : h.currentAssistant = openAssistantOf text reasoning calls)
    (call : ChatCall) : some (h.withToolCall call.toValue) =
      openAssistantOf text reasoning (calls ++ [call]) := by
  have hlist : nonempty ((calls ++ [call]).map ChatCall.toValue) =
      some (.array (calls.map ChatCall.toValue ++ [call.toValue])) := by simp [nonempty]
  have hmore : h.withToolCall call.toValue = (assistantWords text reasoning).set "tool_calls"
      (.array (calls.map ChatCall.toValue ++ [call.toValue])) := by
    have hcalls := openCalls_eq hopen
    unfold ResponsesHistory.withToolCall
    dsimp only at hcalls ⊢
    rw [hcalls]
    exact Value.modify_set (isObject_assistantWords text reasoning) _ _ _
  rw [hmore, openAssistantOf, if_neg (by simp), ChatMessage.toValue, hlist]
  rfl

theorem addReasoning_toValue (hopen : h.currentAssistant = none) {thoughts : String}
    (hfull : thoughts.isEmpty = false) {item : Value}
    (hitem : responsesReasoningItem (some thoughts) none = some item) :
    h.addReasoning .openAiChatCompletions item =
      { h with currentAssistant := openAssistantOf none (some thoughts) [] } := by
  cases hitem
  have hsummary : responsesSummaryArrayText (.ofFields [("type", .string "reasoning"), ("summary",
      .array [.ofFields [("type", .string "summary_text"), ("text", .string thoughts)]])]) =
        thoughts := by
    simp [responsesSummaryArrayText, Value.getArray, Value.getStr, List.lookup_cons, String.join]
  unfold ResponsesHistory.addReasoning ResponsesHistory.openAssistant
  rw [hopen, if_neg (by decide)]
  simp only [Option.map_some, Option.map_none, Option.toList_some, Option.toList_none,
    List.append_nil]
  rw [hsummary, if_neg (by simp [hfull])]
  simp [openAssistantOf, ChatMessage.toValue, assistantWords, nonempty, setSome, chatMessage,
    Value.getStr, List.lookup_cons]
  rfl
theorem mapContent_spokenItem (env : TranslationEnv) (role : String) {contentType : String}
    (htype : contentType = "input_text" ∨ contentType = "output_text") (text : String) :
    (spokenItem role contentType text).getStr "role" = some role ∧
      extractResponsesRefusalText ((spokenItem role contentType text).get "content") = "" ∧
      mapResponsesContentToOpenai env.parseUrl ((spokenItem role contentType text).get "content") =
        .ok (.string text) := by
  have hcontent : (spokenItem role contentType text).get "content" = some (.array
      [.ofFields [("type", .string contentType), ("text", .string text)]]) := by
    simp [spokenItem, List.lookup_cons]
  have hrole : (spokenItem role contentType text).getStr "role" = some role := by
    simp [spokenItem, Value.getStr, List.lookup_cons]
  rw [hcontent]
  refine ⟨hrole, ?_⟩
  constructor
  · rcases htype with rfl | rfl <;> simp [extractResponsesRefusalText, Value.getStr]
  · rcases htype with rfl | rfl <;> simp [mapResponsesContentToOpenai, mapResponsesPartToOpenai,
      keepsPlainText, responsesTextPart, Value.getStr, Value.getArray, List.lookup_cons,
      String.join]

theorem itemType_reasoning {thoughts : String} {carrier : List (String × Value)} :
    responsesInputItemType (.ofFields ([("type", .string "reasoning"),
      ("summary", .array ((some thoughts).map fun text => Value.ofFields
        [("type", .string "summary_text"), ("text", .string text)]).toList)] ++ carrier)) =
      some "reasoning" := by
  simp [responsesInputItemType, Value.getStr]

theorem addText_toValue (env : TranslationEnv)
    (hopen : h.currentAssistant = openAssistantOf none reasoning []) {words : String}
    (hfull : words.isEmpty = false) (next : Option Value) :
    h.addMessage env (spokenItem "assistant" "output_text" words) next =
      .ok { h with currentAssistant := openAssistantOf (some words) reasoning [] } := by
  obtain ⟨hrole, hrefusal, hcontent⟩ :=
    mapContent_spokenItem env "assistant" (.inr rfl) words
  have hwords : h.openAssistant.set "role" (.string "assistant") =
      assistantWords none reasoning := by
    unfold ResponsesHistory.openAssistant
    rw [hopen]
    cases reasoning with
    | none => rfl
    | some thoughts => rfl
  have happend : appendOpenaiMessageContent (assistantWords none reasoning) (.string words) =
      assistantWords (some words) reasoning := by
    have hnone : ((assistantWords none reasoning).get "content").getD .null = .null := by
      cases reasoning with
      | none => rfl
      | some thoughts => rfl
    have hparts : openaiContentToSegmentParts (.string words) = [openaiTextContentPart words] := by
      rw [segmentParts_text, if_neg (by simp [hfull])]
    unfold appendOpenaiMessageContent
    rw [hparts, hnone]
    show (assistantWords none reasoning).set "content"
      (openaiSegmentPartsToContent [openaiTextContentPart words]) = _
    rw [content_textPart]
    simp only [assistantWords, setSome, chatMessage, Value.set, Value.ofFields, Value.ofOptionStr,
      List.foldr]
    cases reasoning with
    | none => rfl
    | some thoughts => rfl
  unfold ResponsesHistory.addMessage
  rw [hrole, hrefusal, hcontent]
  show Except.ok { h with currentAssistant := some (appendOpenaiMessageContent
    (h.openAssistant.set "role" (.string "assistant")) (.string words)) } = _
  rw [hwords, happend]
  rfl

/-- A text of somebody else. -/
theorem addWords_toValue (env : TranslationEnv) {role : String} (hother : role ≠ "assistant")
    (words : String) {next : Option Value}
    (hdue : (role = "user" && (assistantHasPendingToolCalls h.currentAssistant ||
      h.deferredUser.isSome || next.any responsesItemIsToolOutput)) = false) :
    h.addMessage env (spokenItem role "input_text" words) next =
      .ok (h.flushAssistant.push (chatMessage role (.string words))) := by
  obtain ⟨hrole, hrefusal, hcontent⟩ := mapContent_spokenItem env role (.inl rfl) words
  unfold ResponsesHistory.addMessage
  rw [hrole, hrefusal, hcontent]
  show (if role = "assistant" then _ else if _ then _ else _) = _
  rw [if_neg hother, if_neg (by simpa using hdue)]
  rfl

theorem get_toItem (call : ChatCall) (k : String) : call.toItem.get k =
    [("type", Value.string "function_call"), ("call_id", .string call.id),
      ("name", .string call.name), ("arguments", .string call.arguments)].lookup k :=
  Value.get_ofFields _ k

theorem normalized_toItem (env : Env) {call : ChatCall} (hpublic : PublicName call.name) :
    normalizedResponsesToolCall env call.toItem = .ok (some
      { custom := false, id := call.toItem.get "call_id", name := call.name
        payload := call.arguments, namespaceName := call.toItem.getStr "namespace"
        proxiedToolKind := call.toItem.get "proxied_tool_kind" }) := by
  have htype : call.toItem.getStr "type" = some "function_call" := by
    simp [Value.getStr, get_toItem]
  have hname : call.toItem.getStr "name" = some call.name := by
    simp [Value.getStr, get_toItem, List.lookup_cons]
  have hnamespace : ∀ ns, call.toItem.getStr "namespace" = some ns →
      openaiResponsesCustomToolBridgePrefixIsReserved ns = false := by
    simp [Value.getStr, get_toItem, List.lookup_cons]
  have harguments : call.toItem.getStr "arguments" = some call.arguments := by
    simp [Value.getStr, get_toItem, List.lookup_cons]
  exact normalized_functionCall env htype hname (by simpa using hpublic.1) hpublic.2 hnamespace
    harguments

theorem historyCall_toItem (env : Env) (entries : List (String × NamespaceBridgeContextEntry))
    {call : ChatCall} (hpublic : PublicName call.name) :
    historyCall env .openAiChatCompletions entries call.toItem =
      .ok (some (.call call.toValue)) := by
  have hflat : flattenNamespaceCall entries call.toItem = call.toItem := by
    simp [flattenNamespaceCall, isBridgedNamespaceCall, get_toItem, List.lookup_cons]
  have hunmarked : toolCallIsMarkedNonReplayable env call.toItem = false := by
    simp [toolCallIsMarkedNonReplayable, get_toItem, nonReplayableToolCallField, List.lookup_cons]
  unfold historyCall
  rw [hflat]
  refine Result.bind_ok.mpr ⟨some call.toValue,
    Result.bind_ok.mpr ⟨_, normalized_toItem env hpublic, ?_⟩, rfl⟩
  simp only [copyNonReplayableToolCallMarker, hunmarked, get_toItem, Value.getStr]
  rfl

/-- Only the open message of the assistant is another one, and which calls are known. -/
structure Speaks (h h' : ResponsesHistory) (text reasoning : Option String)
    (calls : List ChatCall) : Prop where
  messages : h'.messages = h.messages
  current : h'.currentAssistant = openAssistantOf text reasoning calls
  deferred : h'.deferredUser = h.deferredUser
  degraded : h'.degradedToolCallNameByCallId = h.degradedToolCallNameByCallId

section

variable (env : TranslationEnv) (entries : List (String × NamespaceBridgeContextEntry))

theorem addItems_cons {h h' : ResponsesHistory} {item : Value} {rest : List Value}
    (hitem : h.addItem env .openAiChatCompletions entries item rest.head? = .ok h') :
    h.addItems env .openAiChatCompletions entries (item :: rest) =
      h'.addItems env .openAiChatCompletions entries rest := by
  rw [addItems, hitem]
  rfl

theorem addItem_spokenItem (h : ResponsesHistory) (role contentType words : String)
    (next : Option Value) :
    h.addItem env .openAiChatCompletions entries (spokenItem role contentType words) next =
      h.addMessage env (spokenItem role contentType words) next := by
  have htype : responsesInputItemType (spokenItem role contentType words) = some "message" := by
    simp [responsesInputItemType, spokenItem, Value.getStr]
  unfold addItem
  rw [htype]
  rfl

theorem flushDeferred_eq_self {h : ResponsesHistory} (hdeferred : h.deferredUser = none) :
    h.flushDeferredUserAfterToolResults = h := by
  unfold flushDeferredUserAfterToolResults
  rw [hdeferred, Option.map_none, Option.toList_none, List.append_nil, ← hdeferred]

/-- The answer to a call. -/
theorem addItem_toolMessage {h : ResponsesHistory} (hdeferred : h.deferredUser = none)
    (hdegraded : h.degradedToolCallNameByCallId = []) (id text : String) (next : Option Value) :
    h.addItem env .openAiChatCompletions entries (.ofFields
        [("type", .string "function_call_output"), ("call_id", .string id),
          ("output", .string text)]) next =
      .ok (h.flushAssistant.push (ChatMessage.tool id text).toValue) := by
  generalize hitem : Value.ofFields [("type", .string "function_call_output"),
    ("call_id", .string id), ("output", .string text)] = item
  have hfields : ∀ k, item.get k = [("type", Value.string "function_call_output"),
      ("call_id", .string id), ("output", .string text)].lookup k := by
    rw [← hitem]
    exact Value.get_ofFields _
  have htype : responsesInputItemType item = some "function_call_output" := by
    simp [responsesInputItemType, Value.getStr, hfields]
  have hid : item.getStr "call_id" = some id := by simp [Value.getStr, hfields, List.lookup_cons]
  have houtput : item.get "output" = some (.string text) := by simp [hfields, List.lookup_cons]
  have hcallId : item.get "call_id" = some (.string id) := by simp [hfields, List.lookup_cons]
  have hknown : h.flushAssistant.degradedToolCallNameByCallId = [] := hdegraded
  have hchat : ∀ kind : SemanticToolKind, (decide (kind = .openAiCustom) &&
      decide (UpstreamFormat.openAiChatCompletions ≠ .openAiChatCompletions)) = false := by simp
  unfold addItem addToolOutput
  rw [htype]
  dsimp only
  rw [hid, houtput, hcallId, hknown]
  simp only [Option.bind_some, List.lookup_nil, Option.map_none, hchat]
  show Except.ok ((h.flushAssistant.push (ChatMessage.tool id text).toValue).afterOutput next) = _
  unfold afterOutput
  split
  · rfl
  · rw [flushDeferred_eq_self (by exact hdeferred)]

theorem addItems_calls {h : ResponsesHistory} {text reasoning : Option String}
    {done calls : List ChatCall} (hopen : h.currentAssistant = openAssistantOf text reasoning done)
    (hpublic : ∀ call ∈ calls, PublicName call.name) (rest : List Value) :
    ∃ h', h.addItems env .openAiChatCompletions entries (calls.map ChatCall.toItem ++ rest) =
        h'.addItems env .openAiChatCompletions entries rest ∧
      Speaks h h' text reasoning (done ++ calls) := by
  induction calls generalizing h done with
  | nil => exact ⟨h, rfl, rfl, by rw [List.append_nil]; exact hopen, rfl, rfl⟩
  | cons call calls ih =>
    have hcall := historyCall_toItem env.toEnv entries (hpublic call List.mem_cons_self)
    have hitem : ∃ kinds, h.addItem env .openAiChatCompletions entries call.toItem
        (calls.map ChatCall.toItem ++ rest).head? = .ok { h with
          currentAssistant := some (h.withToolCall call.toValue), toolKindByCallId := kinds } := by
      have htype : responsesInputItemType call.toItem = some "function_call" := by
        simp [responsesInputItemType, ChatCall.toItem, responsesCallItem, Value.getStr]
      unfold addItem addToolCall
      rw [htype, hcall]
      exact ⟨_, rfl⟩
    obtain ⟨kinds, hitem⟩ := hitem
    have hmore := withToolCall_toValue hopen call
    obtain ⟨h', hrest, hspeaks⟩ := ih (h := { h with
      currentAssistant := some (h.withToolCall call.toValue), toolKindByCallId := kinds }) hmore
        fun other hmem => hpublic other (List.mem_cons_of_mem _ hmem)
    refine ⟨h', ?_, hspeaks.messages, ?_, hspeaks.deferred, hspeaks.degraded⟩
    · rw [List.map_cons, List.cons_append, addItems_cons env entries hitem]
      exact hrest
    · rw [hspeaks.current, List.append_assoc]
      rfl

theorem addItems_assistant {h : ResponsesHistory} (hopen : h.currentAssistant = none)
    {text reasoning : Option String} {calls : List ChatCall}
    (htext : ∀ words ∈ text, words.isEmpty = false)
    (hreasoning : ∀ thoughts ∈ reasoning, thoughts.isEmpty = false)
    (hpublic : ∀ call ∈ calls, PublicName call.name) (rest : List Value) :
    ∃ h', h.addItems env .openAiChatCompletions entries
        ((ChatMessage.assistant text reasoning calls).items ++ rest) =
        h'.addItems env .openAiChatCompletions entries rest ∧ Speaks h h' text reasoning calls := by
  have hthought : ∀ behind, ∃ h₁, h.addItems env .openAiChatCompletions entries
      ((responsesReasoningItem reasoning none).toList ++ behind) =
        h₁.addItems env .openAiChatCompletions entries behind ∧ Speaks h h₁ none reasoning [] := by
    intro behind
    cases reasoning with
    | none => exact ⟨h, rfl, rfl, hopen, rfl, rfl⟩
    | some thoughts =>
      refine ⟨{ h with currentAssistant := openAssistantOf none (some thoughts) [] },
        addItems_cons env entries ?_, rfl, rfl, rfl, rfl⟩
      rw [← addReasoning_toValue hopen (hreasoning thoughts rfl) rfl]
      unfold addItem
      rw [itemType_reasoning]
      rfl
  have hspoken : ∀ h₁ : ResponsesHistory, h₁.currentAssistant = openAssistantOf none reasoning [] →
      ∀ behind, ∃ h₂, h₁.addItems env .openAiChatCompletions entries
        ((text.map (spokenItem "assistant" "output_text")).toList ++ behind) =
          h₂.addItems env .openAiChatCompletions entries behind ∧
            Speaks h₁ h₂ text reasoning [] := by
    intro h₁ hopen behind
    cases text with
    | none => exact ⟨h₁, rfl, rfl, hopen, rfl, rfl⟩
    | some words =>
      refine ⟨{ h₁ with currentAssistant := openAssistantOf (some words) reasoning [] },
        addItems_cons env entries ?_, rfl, rfl, rfl, rfl⟩
      rw [← addText_toValue env hopen (htext words rfl) behind.head?]
      exact addItem_spokenItem env entries _ _ _ _ _
  obtain ⟨h₁, hfirst, hs₁⟩ := hthought ((text.map (spokenItem "assistant" "output_text")).toList ++
    (calls.map ChatCall.toItem ++ rest))
  obtain ⟨h₂, hsecond, hs₂⟩ := hspoken h₁ hs₁.current (calls.map ChatCall.toItem ++ rest)
  obtain ⟨h₃, hthird, hs₃⟩ := addItems_calls env entries hs₂.current hpublic rest
  refine ⟨h₃, ?_, ?_, hs₃.current, ?_, ?_⟩
  · rw [ChatMessage.items, List.append_assoc, List.append_assoc, hfirst, hsecond, hthird]
  · rw [hs₃.messages, hs₂.messages, hs₁.messages]
  · rw [hs₃.deferred, hs₂.deferred, hs₁.deferred]
  · rw [hs₃.degraded, hs₂.degraded, hs₁.degraded]

end
end

/-! ### The conversation -/

/-- What was told, the open message of the assistant included. -/
def told (h : ResponsesHistory) : List Value := h.messages ++ h.currentAssistant.toList

/-- Nothing is kept back but a message of the assistant, and that only if it spoke last; while no
answer is waited for, it has no calls. -/
structure Ready (spoke : Bool) (waiting : List String) (h : ResponsesHistory) : Prop where
  deferred : h.deferredUser = none
  degraded : h.degradedToolCallNameByCallId = []
  silent : spoke = false → h.currentAssistant = none
  answered : waiting = [] → assistantHasPendingToolCalls h.currentAssistant = false

/-- Behind a message that is told at once, nothing is open. -/
theorem ready_push {h : ResponsesHistory} (hdeferred : h.deferredUser = none)
    (hdegraded : h.degradedToolCallNameByCallId = []) (message : Value) (waiting : List String) :
    Ready false waiting (h.flushAssistant.push message) ∧
      told (h.flushAssistant.push message) = told h ++ [message] :=
  ⟨⟨hdeferred, hdegraded, fun _ => rfl, fun _ => rfl⟩, List.append_nil _⟩

theorem not_output_of_mem {message : ChatMessage} (hother : ∀ id text, message ≠ .tool id text)
    {item : Value} (hmem : item ∈ message.items) : responsesItemIsToolOutput item = false := by
  cases message with
  | system text =>
    rw [List.mem_singleton.mp hmem]
    simp [responsesItemIsToolOutput, spokenItem, Value.getStr]
  | user text =>
    rw [List.mem_singleton.mp hmem]
    simp [responsesItemIsToolOutput, spokenItem, Value.getStr]
  | assistant text reasoning calls =>
    rcases List.mem_append.mp hmem with hmem | hmem
    · rcases List.mem_append.mp hmem with hmem | hmem
      · cases reasoning with
        | none => cases hmem
        | some thoughts =>
          rw [List.mem_singleton.mp hmem]
          simp [responsesItemIsToolOutput, Value.getStr]
      · cases text with
        | none => cases hmem
        | some words =>
          rw [List.mem_singleton.mp hmem]
          simp [responsesItemIsToolOutput, spokenItem, Value.getStr]
    · obtain ⟨call, -, rfl⟩ := List.mem_map.mp hmem
      simp [responsesItemIsToolOutput, ChatCall.toItem, responsesCallItem, Value.getStr]
  | tool id text => exact absurd rfl (hother id text)

theorem items_ne_nil {message : ChatMessage} (hfull : message.IsFull) : message.items ≠ [] := by
  cases message with
  | system text => simp [ChatMessage.items]
  | user text => simp [ChatMessage.items]
  | assistant text reasoning calls =>
    intro hnil
    have hcalls : calls = [] := by
      simpa [ChatMessage.items] using (List.append_eq_nil_iff.mp hnil).2
    have htext : text = none := by
      have htexts := (List.append_eq_nil_iff.mp (List.append_eq_nil_iff.mp hnil).1).2
      cases text with
      | none => rfl
      | some words => cases htexts
    exact hfull.2.2 htext hcalls
  | tool id text => simp [ChatMessage.items]

/-- Where no answer is waited for, none comes next. -/
theorem no_output_next {conversation : List ChatMessage} {spoke : Bool}
    (horderly : IsOrderly spoke [] conversation)
    (hfull : ∀ message ∈ conversation, message.IsFull) :
    (conversation.flatMap ChatMessage.items).head?.any responsesItemIsToolOutput = false := by
  cases conversation with
  | nil => rfl
  | cons message rest =>
    have hother : ∀ id text, message ≠ .tool id text := by
      rintro id text rfl
      cases horderly.1
    have hsome := items_ne_nil (hfull _ List.mem_cons_self)
    rw [List.flatMap_cons, List.head?_append_of_ne_nil _ hsome]
    cases hhead : message.items.head? with
    | none => rfl
    | some item => exact not_output_of_mem hother (List.mem_of_head? hhead)

section

variable (env : TranslationEnv) (entries : List (String × NamespaceBridgeContextEntry))

/-- **A message comes back.** Its items leave it behind, and what follows is still in order. -/
theorem addItems_message {message : ChatMessage} {rest : List ChatMessage} {spoke : Bool}
    {waiting : List String} {h : ResponsesHistory} (hready : Ready spoke waiting h)
    (horderly : IsOrderly spoke waiting (message :: rest))
    (hfull : ∀ other ∈ message :: rest, other.IsFull)
    (hpublic : ∀ call ∈ message.calls, PublicName call.name) :
    ∃ h' spoke' waiting', h.addItems env .openAiChatCompletions entries
        (message.items ++ rest.flatMap ChatMessage.items) =
        h'.addItems env .openAiChatCompletions entries (rest.flatMap ChatMessage.items) ∧
      told h' = told h ++ [message.toValue] ∧ Ready spoke' waiting' h' ∧
      IsOrderly spoke' waiting' rest := by
  cases message with
  | system text =>
    obtain ⟨hready', htold⟩ := ready_push hready.deferred hready.degraded
      (ChatMessage.system text).toValue []
    refine ⟨_, false, [], addItems_cons env entries ?_, htold, hready', horderly.2⟩
    rw [addItem_spokenItem]
    exact addWords_toValue env (by decide) text rfl
  | user text =>
    obtain ⟨rfl, hrest⟩ := horderly
    obtain ⟨hready', htold⟩ := ready_push hready.deferred hready.degraded
      (ChatMessage.user text).toValue []
    refine ⟨_, false, [], addItems_cons env entries ?_, htold, hready', hrest⟩
    rw [addItem_spokenItem]
    refine addWords_toValue env (by decide) text ?_
    -- the user's text is not put off: no call is open, and no output comes next
    have hnext := no_output_next hrest fun other hmem => hfull _ (List.mem_cons_of_mem _ hmem)
    rw [hready.answered rfl, hready.deferred]
    exact hnext
  | assistant text reasoning calls =>
    obtain ⟨rfl, rfl, hrest⟩ := horderly
    have hsays := hfull _ List.mem_cons_self
    have hopen := hready.silent rfl
    have hpublic : ∀ call ∈ calls, PublicName call.name := hpublic
    obtain ⟨h', hitems, hspeaks⟩ := addItems_assistant env entries hopen hsays.1 hsays.2.1
      hpublic (rest.flatMap ChatMessage.items)
    have hcurrent : h'.currentAssistant =
        some (ChatMessage.assistant text reasoning calls).toValue := by
      rw [hspeaks.current, openAssistantOf, if_neg]
      intro hsilent
      simp only [Bool.and_eq_true, Option.isNone_iff_eq_none, List.isEmpty_iff] at hsilent
      exact hsays.2.2 hsilent.1.1 hsilent.2
    -- the message stays open, and is told only when something else comes
    refine ⟨h', true, calls.map ChatCall.id, hitems, ?_, ⟨?_, ?_, ?_, ?_⟩, hrest⟩
    · rw [told, hspeaks.messages, hcurrent, told, hopen]
      simp
    · rw [hspeaks.deferred, hready.deferred]
    · rw [hspeaks.degraded, hready.degraded]
    · exact fun hspoke => Bool.noConfusion hspoke
    · intro hnone
      have hcalls : calls = [] := List.map_eq_nil_iff.mp hnone
      rw [hcurrent, hcalls]
      show (((assistantWords text reasoning).getArray "tool_calls").any _) = false
      rw [Value.getArray, get_assistantWords_calls]
      rfl
  | tool id text =>
    obtain ⟨hready', htold⟩ := ready_push hready.deferred hready.degraded
      (ChatMessage.tool id text).toValue (waiting.erase id)
    refine ⟨_, false, waiting.erase id, addItems_cons env entries ?_, htold, hready', horderly.2⟩
    exact addItem_toolMessage env entries hready.deferred hready.degraded id text _

/-- **The whole conversation comes back.** -/
theorem addItems_conversation {conversation : List ChatMessage} {spoke : Bool}
    {waiting : List String} {h : ResponsesHistory} (hready : Ready spoke waiting h)
    (horderly : IsOrderly spoke waiting conversation)
    (hfull : ∀ message ∈ conversation, message.IsFull)
    (hpublic : ∀ message ∈ conversation, ∀ call ∈ message.calls, PublicName call.name) :
    ∃ h', h.addItems env .openAiChatCompletions entries
        (conversation.flatMap ChatMessage.items) = .ok h' ∧
      h'.messages = told h ++ conversation.map ChatMessage.toValue := by
  induction conversation generalizing h spoke waiting with
  | nil =>
    refine ⟨_, rfl, ?_⟩
    simp [flushDeferredUserAfterToolResults, flushAssistant, hready.deferred, told]
  | cons message rest ih =>
    obtain ⟨h₁, spoke', waiting', hitems, htold, hready', hrest⟩ := addItems_message env entries
      hready horderly hfull (hpublic _ List.mem_cons_self)
    obtain ⟨h₂, hall, hmessages⟩ := ih hready' hrest
      (fun other hmem => hfull _ (List.mem_cons_of_mem _ hmem))
      fun other hmem => hpublic _ (List.mem_cons_of_mem _ hmem)
    refine ⟨h₂, ?_, ?_⟩
    · rw [List.flatMap_cons, hitems, hall]
    · rw [hmessages, htold, List.append_assoc]
      rfl

end

/-! ## What comes back is ordinary -/

theorem get_toValue_assistant (text reasoning : Option String) (calls : List ChatCall) {k : String}
    (hk : k ≠ "tool_calls") : (ChatMessage.assistant text reasoning calls).toValue.get k =
      (assistantWords text reasoning).get k := get_setSome_of_ne hk _ _

theorem calls_toValue (text reasoning : Option String) (calls : List ChatCall) :
    ((ChatMessage.assistant text reasoning calls).toValue.getArray "tool_calls").getD [] =
      calls.map ChatCall.toValue := by
  have hget : (ChatMessage.assistant text reasoning calls).toValue.get "tool_calls" =
      nonempty (calls.map ChatCall.toValue) := by
    show (setSome _ _ _).get _ = _
    rw [get_setSome_self (isObject_assistantWords text reasoning), get_assistantWords_calls,
      Option.or_none]
  rw [Value.getArray, hget]
  cases calls with
  | nil => rfl
  | cons call calls => rfl

/-- **What comes back says what was said.** -/
theorem readChatMessage_toValue {message : ChatMessage} (hfull : message.IsFull) :
    readChatMessage message.toValue = some message := by
  cases message with
  | system text =>
    have htext : text ≠ "" := by simpa [ChatMessage.IsFull] using hfull
    simp [readChatMessage, ChatMessage.toValue, chatMessage, extractOpenaiRefusal, nonemptyText,
      openaiMessageAnthropicReasoningReplayBlocks, openaiAnthropicReasoningReplayField,
      Value.getStr, Value.getArray, List.lookup_cons, htext]
  | user text =>
    have htext : text ≠ "" := by simpa [ChatMessage.IsFull] using hfull
    simp [readChatMessage, ChatMessage.toValue, chatMessage, extractOpenaiRefusal, nonemptyText,
      openaiMessageAnthropicReasoningReplayBlocks, openaiAnthropicReasoningReplayField,
      Value.getStr, Value.getArray, List.lookup_cons, htext]
  | assistant text reasoning calls =>
    have hfields : ∀ k, k ≠ "tool_calls" → k ≠ "reasoning_content" →
        (ChatMessage.assistant text reasoning calls).toValue.get k =
          [("role", Value.string "assistant"), ("content", .ofOptionStr text)].lookup k := by
      intro k hcalls hreasoning
      rw [get_toValue_assistant _ _ _ hcalls, assistantWords, get_setSome_of_ne hreasoning]
      exact Value.get_ofFields _ k
    have hreasoning : nonemptyText (ChatMessage.assistant text reasoning calls).toValue
        "reasoning_content" = reasoning := by
      rw [nonemptyText, Value.getStr, get_toValue_assistant _ _ _ (by decide), assistantWords,
        get_setSome_self rfl]
      cases reasoning with
      | none => simp [chatMessage, List.lookup_cons]
      | some thoughts =>
        have hthoughts : thoughts ≠ "" := by simpa using hfull.2.1 thoughts rfl
        simp [hthoughts]
    have hcalls : (((ChatMessage.assistant text reasoning calls).toValue.getArray
        "tool_calls").getD []).mapM readChatCall = some calls := by
      rw [calls_toValue]
      exact readChatCalls_toValue calls
    have hplain : ¬ ((extractOpenaiRefusal (ChatMessage.assistant text reasoning
        calls).toValue).isSome || (openaiMessageAnthropicReasoningReplayBlocks
          (ChatMessage.assistant text reasoning calls).toValue).isSome) = true := by
      unfold extractOpenaiRefusal openaiMessageAnthropicReasoningReplayBlocks Value.getStr
        Value.getArray openaiAnthropicReasoningReplayField
      rw [hfields _ (by decide) (by decide), hfields _ (by decide) (by decide)]
      simp [List.lookup_cons]
    have hrole : (ChatMessage.assistant text reasoning calls).toValue.getStr "role" =
        some "assistant" := by
      rw [Value.getStr, hfields _ (by decide) (by decide)]
      simp
    have hcontent : (ChatMessage.assistant text reasoning calls).toValue.get "content" =
        some (.ofOptionStr text) := by
      rw [hfields _ (by decide) (by decide)]
      simp [List.lookup_cons]
    have hread : readChatAssistant (ChatMessage.assistant text reasoning calls).toValue =
        some (.assistant text reasoning calls) := by
      refine Option.bind_eq_some_iff.mpr ⟨calls, hcalls, ?_⟩
      rw [hreasoning]
      cases text with
      | some words =>
        have hwords : words ≠ "" := by simpa using hfull.1 words rfl
        have htext : nonemptyText (ChatMessage.assistant (some words) reasoning calls).toValue
            "content" = some words := by
          rw [nonemptyText, Value.getStr, hcontent]
          simp [Value.ofOptionStr, hwords]
        rw [htext]
      | none =>
        have hsome : calls.isEmpty = false := by simpa using hfull.2.2 rfl
        rw [nonemptyText, Value.getStr, hcontent, hsome]
        rfl
    unfold readChatMessage
    rw [if_neg hplain, hrole]
    exact hread
  | tool id text =>
    have htext : text ≠ "" := by simpa [ChatMessage.IsFull] using hfull
    simp [readChatMessage, ChatMessage.toValue, ResponsesHistory.toolMessage, extractOpenaiRefusal,
      nonemptyText, openaiMessageAnthropicReasoningReplayBlocks,
      openaiAnthropicReasoningReplayField, Value.getStr, Value.getArray, List.lookup_cons, htext,
      Value.ofOption]

theorem readChatMessages_toValue {conversation : List ChatMessage}
    (hfull : ∀ message ∈ conversation, message.IsFull) :
    (conversation.map ChatMessage.toValue).mapM readChatMessage = some conversation := by
  induction conversation with
  | nil => rfl
  | cons message rest ih =>
    rw [List.map_cons, List.mapM_cons, readChatMessage_toValue (hfull _ List.mem_cons_self),
      ih fun other hmem => hfull other (List.mem_cons_of_mem _ hmem)]
    rfl

/-! ## The request -/

theorem callNames_items (env : Env) {conversation : List ChatMessage}
    (hpublic : ∀ message ∈ conversation, ∀ call ∈ message.calls, PublicName call.name) :
    (conversation.flatMap ChatMessage.items).forM (checkCallName env) = .ok () := by
  refine Result.forM_of_ok fun item hmem => ?_
  obtain ⟨message, hmessage, hitem⟩ := List.mem_flatMap.mp hmem
  have hnone : ∀ ty, item.getStr "type" = some ty → ty ≠ "function_call" →
      ty ≠ "custom_tool_call" → checkCallName env item = .ok () := by
    intro ty hty hcall hcustom
    refine Result.bind_ok.mpr ⟨none, ?_, rfl⟩
    unfold normalizedResponsesToolCall
    rw [hty]
    split
    · next heq => exact absurd (Option.some.inj heq) hcall
    · next heq => exact absurd (Option.some.inj heq) hcustom
    · rfl
  cases message with
  | system text =>
    rw [List.mem_singleton.mp hitem] at hnone ⊢
    exact hnone "message" (by simp [spokenItem, Value.getStr]) (by decide) (by decide)
  | user text =>
    rw [List.mem_singleton.mp hitem] at hnone ⊢
    exact hnone "message" (by simp [spokenItem, Value.getStr]) (by decide) (by decide)
  | assistant text reasoning calls =>
    rcases List.mem_append.mp hitem with hitem | hitem
    · rcases List.mem_append.mp hitem with hitem | hitem
      · cases reasoning with
        | none => cases hitem
        | some thoughts =>
          rw [List.mem_singleton.mp hitem] at hnone ⊢
          exact hnone "reasoning" (by simp [Value.getStr]) (by decide) (by decide)
      · cases text with
        | none => cases hitem
        | some words =>
          rw [List.mem_singleton.mp hitem] at hnone ⊢
          exact hnone "message" (by simp [spokenItem, Value.getStr]) (by decide) (by decide)
    · obtain ⟨call, hcall, rfl⟩ := List.mem_map.mp hitem
      have hname := hpublic _ hmessage call hcall
      exact Result.bind_ok.mpr ⟨_, normalized_toItem env hname, nameNotReserved_ok.mpr hname.2⟩
  | tool id text =>
    rw [List.mem_singleton.mp hitem] at hnone ⊢
    exact hnone "function_call_output" (by simp [Value.getStr]) (by decide) (by decide)

/-- **The round trip.** An ordinary conversation whose calls go by public names, in a request whose
other fields can be translated there and back, comes back as it was: message by message with the
same role, the same text, the same reasoning and the same calls. -/
theorem chat_round_trip (env : TranslationEnv) {body rest other : Value} {messages : List Value}
    {conversation : List ChatMessage} (hmessages : body.get "messages" = some (.array messages))
    (hread : messages.mapM readChatMessage = some conversation)
    (horderly : IsOrderly false [] conversation)
    (hpublic : ∀ message ∈ conversation, ∀ call ∈ message.calls, PublicName call.name)
    (hcontext : requestScopedToolBridgeContextFromBody body = none)
    (hrest : messagesToResponses env (body.set "messages" (.array [])) = .ok rest)
    (hother : responsesToMessages env .openAiChatCompletions rest = .ok other) :
    ∃ responses out back, messagesToResponses env body = .ok responses ∧
      responsesToMessages env .openAiChatCompletions responses = .ok out ∧
      out.getArray "messages" = some back ∧ back = conversation.map ChatMessage.toValue ∧
      back.mapM readChatMessage = some conversation := by
  have hfull := isFull_of_reads hread
  have hnone : ({} : ResponsesInput).HasFunctions := fun _ _ h => by cases h
  obtain ⟨loop, hloop, hadds⟩ := ResponsesInput.addMessages_read env hnone hread hpublic
  rw [← hcontext] at hloop
  obtain ⟨responses, hresponses, hinput, hsame, hinstructions⟩ :=
    messagesToResponses_rest env hmessages hrest hloop
  rw [hadds.input, List.nil_append] at hinput
  have hready : Ready false [] {} := ⟨rfl, rfl, fun _ => rfl, fun _ => rfl⟩
  obtain ⟨out, back, hout, hback, rfl⟩ := responsesToMessages_items env
    (P := fun back => back = conversation.map ChatMessage.toValue) hsame hother hinput
    (callNames_items env.toEnv hpublic) fun entries => by
      obtain ⟨h, hitems, htold⟩ := addItems_conversation env entries hready horderly hfull hpublic
      exact ⟨_, Result.map_ok.mpr ⟨h, hitems, rfl⟩, htold⟩
  refine ⟨responses, out, _, hresponses, hout, ?_, rfl, readChatMessages_toValue hfull⟩
  rw [hback, instructionMessages, Value.getStr, hinstructions]
  rfl

/-- A conversation with two calls at once. -/
def weatherConversation : List ChatMessage :=
  [.system "Be brief.", .user "Paris or Rome?",
    .assistant none (some "Look both up.") [⟨"a", "weather", "\x7b\"city\":\"Paris\"\x7d"⟩,
      ⟨"b", "weather", "\x7b\"city\":\"Rome\"\x7d"⟩],
    .tool "b" "sun", .tool "a" "rain", .assistant (some "Rome.") none []]

/-- The answers come in another order than the calls. -/
theorem chat_round_trip_weather :
    ∃ responses out back, messagesToResponses .still (.ofFields
        [("messages", .array (weatherConversation.map ChatMessage.toValue))]) = .ok responses ∧
      responsesToMessages .still .openAiChatCompletions responses = .ok out ∧
      out.getArray "messages" = some back ∧
      back = weatherConversation.map ChatMessage.toValue ∧
      back.mapM readChatMessage = some weatherConversation := by
  have hrest : messagesToResponses .still ((Value.ofFields
      [("messages", .array (weatherConversation.map ChatMessage.toValue))]).set "messages"
        (.array [])) = .ok (.ofFields [("input", .array [])]) := by rfl
  have hother : responsesToMessages .still .openAiChatCompletions
      (.ofFields [("input", .array [])]) = .ok (.ofFields [("messages", .array [])]) := by rfl
  have hmessages : (Value.ofFields [("messages", .array
      (weatherConversation.map ChatMessage.toValue))]).get "messages" =
        some (.array (weatherConversation.map ChatMessage.toValue)) := by simp
  have hpublic : ∀ message ∈ weatherConversation, ∀ call ∈ message.calls, PublicName call.name := by
    simp [weatherConversation, ChatMessage.calls, PublicName]
    decide +kernel
  refine chat_round_trip .still hmessages (by rfl) ?_ hpublic (by rfl) hrest hother
  simp [weatherConversation, IsOrderly]

/-- A call by a reserved name is refused on the way to Responses. -/
theorem reserved_call_refused :
    let conversation : List ChatMessage := [.user "hi",
      .assistant none none [⟨"a", "__llmup_custom__look", "\x7b\x7d"⟩], .tool "a" "ok"]
    IsOrderly false [] conversation ∧
      (conversation.map ChatMessage.toValue).mapM readChatMessage = some conversation ∧
      ∃ error, messagesToResponses .still (.ofFields
        [("messages", .array (conversation.map ChatMessage.toValue))]) = .error error := by
  refine ⟨?_, by rfl, _, by rfl⟩
  simp [IsOrderly]

end LlmUniversalProxy.Translate
