import LlmUniversalProxy.Streaming.ResponsesRendering

/-!
# `Streaming.ResponsesBody` — what a Chat client is told of a response in one body

`responses_response_to_openai_impl` (`openai_responses.rs` 457-590) collects the items of the output
into one message. Unlike the stream it looks at all of them first: an item that Chat has no place
for refuses the response (`passesGate`), and a call in a namespace gets its flat name (`flatName`).
`completion_of_items` says what a client reads in the completion, and when there is none.

Only items without annotations, refusals or audio are compared (`PlainItem`); the stream has events
of their own for these, and a response with any is not rendered by `RendersResponse`.
-/

set_option autoImplicit false

namespace LlmUniversalProxy.Streaming

open Json Lib Translate

/-! ## The body, item by item -/

/-- An item of a kind that the comparison is about. -/
inductive PlainItem (item : Value) : Prop
  | message (htype : item.getStr "type" = some "message")
      (hannotations : ∀ part ∈ outputTextParts item, (part.getArray "annotations").getD [] = [])
  | reasoning (htype : item.getStr "type" = some "reasoning")
  | call {callId name arguments : String} (htype : item.getStr "type" = some "function_call")
      (hcallId : item.getStr "call_id" = some callId) (hname : item.getStr "name" = some name)
      (harguments : item.getStr "arguments" = some arguments)
  | hosted {itemType : String} (htype : item.getStr "type" = some itemType)
      (hhosted : responsesHostedOutputItemType itemType = true)

theorem RendersItems.plain {index : Nat} {used : List String} {items events : List Value}
    (h : RendersItems index used items events) : ∀ item ∈ items, PlainItem item := by
  induction h with
  | nil => simp
  | quiet _ _ ih => exact ih
  | message htype hannotations _ _ _ _ ih =>
    exact List.forall_mem_cons.mpr ⟨.message htype hannotations, ih⟩
  | reasoning htype _ _ _ _ ih => exact List.forall_mem_cons.mpr ⟨.reasoning htype, ih⟩
  | call htype hcallId hname harguments _ _ _ _ _ _ _ _ _ ih =>
    exact List.forall_mem_cons.mpr ⟨.call htype hcallId hname harguments, ih⟩
  | hosted htype hhosted _ _ _ ih => exact List.forall_mem_cons.mpr ⟨.hosted htype hhosted, ih⟩

/-- The gate in front of the items lets it through. -/
def passesGate (item : Value) : Bool :=
  (responsesNonportableOutputItemMessage "OpenAI Chat Completions" false item).isNone

/-- The item can be taken into a message: logprobs are lists, and a call has a name that is its
own. -/
def convertsItem (item : Value) : Bool :=
  (item.getStr "type" ≠ some "message" || (responsesOutputTextLogprobs item).toBool) &&
    (!isCallItem item || (validateResponsesPublicToolCallItemIdentity item).toBool &&
      (item.getStr "name").any fun name => !name.isEmpty)

/-- The name of a call, with its namespace in front. -/
def flatName (item : Value) : String :=
  match item.getStr "namespace" with
  | some namespaceName => flatToolName namespaceName ((item.getStr "name").getD "")
  | none => (item.getStr "name").getD ""

/-- A call as the body gives it: under its flat name. -/
def wholeCall (index : Nat) (item : Value) : FoldedCall :=
  ⟨index, item.getStr "call_id", some (flatName item), (item.getStr "arguments").getD ""⟩

section

variable (env : Env)

theorem identity_of_call {item : Value} (htype : item.getStr "type" = some "function_call") :
    validateResponsesPublicToolCallItemIdentity item = (do
      validatePublicToolIdentityValueNotReserved (item.get "name")
      validatePublicToolIdentityValueNotReserved (item.get "namespace")) := by
  unfold validateResponsesPublicToolCallItemIdentity
  rw [htype]
  rfl

theorem kind_of_call {item : Value} (htype : item.getStr "type" = some "function_call") :
    semanticToolKindFromValue env item ≠ .openAiCustom := by
  unfold semanticToolKindFromValue
  split
  · simp
  · rw [htype]
    simp

theorem requiredToolName_ok {name : Option String} {missing found : String} :
    requiredToolName name missing = .ok found ↔ name = some found ∧ found ≠ "" ∧
      openaiResponsesCustomToolBridgePrefixIsReserved found = false := by
  unfold requiredToolName
  cases name with
  | none =>
    refine ⟨fun h => (nomatch h), fun h => (nomatch h.1)⟩
  | some name =>
    by_cases hempty : name = ""
    · have hnone : (some name).filter (fun name => !name.isEmpty) = none := by simp [hempty]
      rw [hnone]
      refine ⟨fun h => (nomatch h), fun ⟨hname, hfound, _⟩ => ?_⟩
      exact absurd ((Option.some.inj hname).symm.trans hempty) hfound
    · have hsome : (some name).filter (fun name => !name.isEmpty) = some name := by
        simp [hempty]
      rw [hsome]
      constructor
      · intro h
        obtain ⟨_, hchecked, h⟩ := Result.bind_ok.mp h
        cases h
        exact ⟨rfl, hempty, nameNotReserved_ok.mp hchecked⟩
      · rintro ⟨hname, _, hpublic⟩
        cases hname
        exact Result.bind_ok.mpr ⟨(), nameNotReserved_ok.mpr hpublic, rfl⟩

/-- The call of Chat that a call of the output becomes. -/
def chatCall (item : Value) : Value :=
  copyNonReplayableToolCallMarker env item (normalizedToolCallToOpenai
    (flattenNormalizedNamespacedToolCall
      { custom := false, id := item.get "call_id", name := (item.getStr "name").getD ""
        payload := (item.getStr "arguments").getD "", namespaceName := item.getStr "namespace"
        proxiedToolKind := item.get "proxied_tool_kind" }))

theorem strict_of_converts {item : Value} {name arguments : String}
    (htype : item.getStr "type" = some "function_call") (hname : item.getStr "name" = some name)
    (harguments : item.getStr "arguments" = some arguments) (h : convertsItem item = true) :
    responsesToolCallItemToOpenaiToolCallStrict env item = .ok (some (chatCall env item)) := by
  have hcall : isCallItem item = true := by simp [isCallItem, htype]
  have hidentity : validateResponsesPublicToolCallItemIdentity item = .ok () := by
    cases hchecked : validateResponsesPublicToolCallItemIdentity item with
    | ok _ => rfl
    | error e => simp [convertsItem, hcall, hchecked, Except.toBool] at h
  have hnonempty : name ≠ "" := by
    rintro rfl
    simp [convertsItem, hcall, hname] at h
  have hchecks := hidentity
  rw [identity_of_call htype] at hchecks
  obtain ⟨_, hpublic, _⟩ := Result.bind_ok.mp hchecks
  have hpublic := identityValue_ok.mp hpublic name hname
  have hrequired : requiredToolName (item.getStr "name")
      "OpenAI Responses tool calls require a non-empty name." = .ok name :=
    requiredToolName_ok.mpr ⟨hname, hnonempty, hpublic⟩
  have hkind := kind_of_call env htype
  have hraw : responsesToolCallInputRaw env item = some arguments := by
    unfold responsesToolCallInputRaw
    split
    · next hcustom => exact absurd hcustom hkind
    · exact harguments
  have hnormalized : normalizedResponsesToolCall env item = .ok (some
      { custom := false, id := item.get "call_id", name := (item.getStr "name").getD ""
        payload := (item.getStr "arguments").getD "", namespaceName := item.getStr "namespace"
        proxiedToolKind := item.get "proxied_tool_kind" }) := by
    unfold normalizedResponsesToolCall
    rw [htype, harguments, hname, Option.getD_some, Option.getD_some]
    refine Result.bind_ok.mpr ⟨(), hidentity, Result.bind_ok.mpr ⟨name, ?_, ?_⟩⟩
    · rw [← hname]
      exact hrequired
    · simp [hkind, hraw]
      rfl
  exact Result.bind_ok.mpr ⟨_, hnormalized, rfl⟩

/-- A call that becomes one of Chat has a name that is its own. -/
theorem converts_of_strict {item : Value} {call : Option Value}
    (htype : item.getStr "type" = some "function_call")
    (h : responsesToolCallItemToOpenaiToolCallStrict env item = .ok call) :
    convertsItem item = true := by
  obtain ⟨normalized, hnormalized, _⟩ := Result.bind_ok.mp h
  unfold normalizedResponsesToolCall at hnormalized
  rw [htype] at hnormalized
  obtain ⟨_, hidentity, hnormalized⟩ := Result.bind_ok.mp hnormalized
  obtain ⟨name, hrequired, _⟩ := Result.bind_ok.mp hnormalized
  obtain ⟨hname, hnonempty, _⟩ := requiredToolName_ok.mp hrequired
  simp [convertsItem, htype, hidentity, hname, hnonempty, Except.toBool]

/-- What a client reads off a call of Chat. -/
theorem ofDelta_chatCall {item : Value} {callId : String}
    (hcallId : item.getStr "call_id" = some callId) (index : Nat) :
    FoldedCall.ofDelta index (chatCall env item) = wholeCall index item := by
  have hid : (Value.ofOption (item.get "call_id")).asStr = some callId := by
    unfold Value.getStr at hcallId
    cases hget : item.get "call_id" with
    | none => rw [hget] at hcallId; cases hcallId
    | some value => rw [hget] at hcallId; exact hcallId
  have hfunction : ∀ name, FoldedCall.ofDelta index (openaiFunctionCall (item.get "call_id") name
      ((item.getStr "arguments").getD "")) =
      ⟨index, some callId, some name, (item.getStr "arguments").getD ""⟩ := by
    intro name
    simp [FoldedCall.ofDelta, openaiFunctionCall, Value.getStr, List.lookup_cons, hid]
  have hmarked : ∀ call : Value, FoldedCall.ofDelta index
      (copyNonReplayableToolCallMarker env item call) = FoldedCall.ofDelta index call := by
    intro call
    unfold copyNonReplayableToolCallMarker markToolCallAsNonReplayable
    split
    · split
      · exact ofDelta_set index call _ (by decide) (by decide)
      · rfl
    · rfl
  have hproxied : ∀ (kind : Option Value) (call : Value), FoldedCall.ofDelta index
      (withProxiedToolKind kind call) = FoldedCall.ofDelta index call := by
    intro kind call
    cases kind with
    | none => rfl
    | some kind => exact ofDelta_set index call kind (by decide) (by decide)
  unfold chatCall normalizedToolCallToOpenai wholeCall flatName
    flattenNormalizedNamespacedToolCall
  rw [hmarked, hproxied, hcallId]
  cases item.getStr "namespace" with
  | none => exact hfunction _
  | some namespaceName => exact hfunction _

/-! ### Collecting the items -/

/-- The items after `acc` have been collected into `parts`. -/
structure Collected (items : List Value) (acc parts : ResponsesOutputParts) : Prop where
  texts : ∀ texts : List String,
    acc.contentParts = (texts.map fun text => semanticTextPartToOpenaiValue ⟨text, []⟩) →
    parts.contentParts =
      (texts ++ items.flatMap messageTexts).map fun text => semanticTextPartToOpenaiValue ⟨text, []⟩
  reasoning : parts.reasoningContent = acc.reasoningContent ++ summariesOf items
  calls : parts.toolCalls = acc.toolCalls ++ (items.filter isCallItem).map (chatCall env)

theorem strict_of_other (item : Value) (hcall : item.getStr "type" ≠ some "function_call")
    (hcustom : item.getStr "type" ≠ some "custom_tool_call") :
    responsesToolCallItemToOpenaiToolCallStrict env item = .ok none := by
  have hnormalized : normalizedResponsesToolCall env item = .ok none := by
    unfold normalizedResponsesToolCall
    simp only
    rfl
  exact Result.bind_ok.mpr ⟨_, hnormalized, rfl⟩

theorem textParts_of_message {item : Value} (htype : item.getStr "type" = some "message")
    (hannotations : ∀ part ∈ outputTextParts item, (part.getArray "annotations").getD [] = []) :
    (outputTextParts item).map openaiTextPartOfOutputText =
      (messageTexts item).map fun text => semanticTextPartToOpenaiValue ⟨text, []⟩ := by
  unfold messageTexts
  rw [if_pos htype, List.map_map]
  refine List.map_congr_left fun part hpart => ?_
  simp [openaiTextPartOfOutputText, hannotations part hpart]

/-- The gate lets no item of a hosted tool through. -/
theorem not_passesGate_of_hosted {item : Value} {itemType : String}
    (htype : item.getStr "type" = some itemType)
    (hhosted : responsesHostedOutputItemType itemType = true) : passesGate item = false := by
  have hnot : responsesPortableOutputItemType itemType = false := by
    cases hportable : responsesPortableOutputItemType itemType with
    | false => rfl
    | true =>
      unfold responsesPortableOutputItemType at hportable
      unfold responsesHostedOutputItemType at hhosted
      simp only [List.mem_cons, List.not_mem_nil, or_false, decide_eq_true_eq]
        at hportable hhosted
      rcases hportable with rfl | rfl | rfl | rfl | rfl <;> simp at hhosted
  unfold passesGate responsesNonportableOutputItemMessage
  rw [htype, Option.bind_some]
  simp only [hnot, hhosted]
  split
  · rfl
  · split <;> rfl

theorem collect_item {item : Value} (hplain : PlainItem item) (hgate : passesGate item = true)
    (acc : ResponsesOutputParts) :
    (convertsItem item = true ∧ ∃ parts,
      collectOutputItem env false acc item = .ok parts ∧ Collected env [item] acc parts) ∨
    (convertsItem item = false ∧ ∃ e, collectOutputItem env false acc item = .error e) := by
  cases hplain with
  -- a message can fail at its logprobs only, and a call at its name or arguments
  | message htype hannotations =>
    have hcall : isCallItem item = false := by simp [isCallItem, htype]
    have hstrict := strict_of_other env item (by simp [htype]) (by simp [htype])
    cases hlogprobs : responsesOutputTextLogprobs item with
    | error e =>
      refine .inr ⟨by simp [convertsItem, htype, hcall, hlogprobs, Except.toBool], e, ?_⟩
      unfold collectOutputItem collectMessageItem
      rw [if_neg (by simp [htype]), hlogprobs]
      rfl
    | ok logprobs =>
      refine .inl ⟨by simp [convertsItem, htype, hcall, hlogprobs, Except.toBool], ?_⟩
      unfold collectOutputItem collectMessageItem collectToolCallItem collectReasoningItem
      rw [if_neg (by simp [htype]), hlogprobs, hstrict]
      refine ⟨_, rfl, ?_⟩
      simp only [htype]
      refine ⟨?_, ?_, ?_⟩
      · intro texts htexts
        simp only [List.flatMap_cons, List.flatMap_nil, List.append_nil, List.map_append,
          ← textParts_of_message htype hannotations, ← htexts]
        rfl
      · simp [summariesOf, summaryText_other item (by simp [htype])]
      · simp [hcall]
  | reasoning htype =>
    have hcall : isCallItem item = false := by simp [isCallItem, htype]
    have hstrict := strict_of_other env item (by simp [htype]) (by simp [htype])
    refine .inl ⟨by simp [convertsItem, htype, hcall], ?_⟩
    unfold collectOutputItem collectMessageItem collectToolCallItem collectReasoningItem
    rw [if_pos (by simp [htype]), hstrict]
    refine ⟨_, rfl, ?_⟩
    simp only [htype]
    refine ⟨?_, ?_, ?_⟩
    · intro texts htexts
      simpa [messageTexts_other item (by simp [htype])] using htexts
    · simp [summariesOf, summaryText, htype]
    · simp [hcall]
  | @call callId name arguments htype hcallId hname harguments =>
    have hcall : isCallItem item = true := by simp [isCallItem, htype]
    cases hconverts : convertsItem item with
    | true =>
      refine .inl ⟨rfl, ?_⟩
      unfold collectOutputItem collectMessageItem collectToolCallItem collectReasoningItem
      rw [if_pos (by simp [htype]), strict_of_converts env htype hname harguments hconverts]
      refine ⟨_, rfl, ?_⟩
      simp only [htype]
      refine ⟨?_, ?_, ?_⟩
      · intro texts htexts
        simpa [messageTexts_other item (by simp [htype])] using htexts
      · simp [summariesOf, summaryText_other item (by simp [htype])]
      · simp [hcall]
    | false =>
      refine .inr ⟨rfl, ?_⟩
      cases hstrict : responsesToolCallItemToOpenaiToolCallStrict env item with
      | ok call =>
        rw [converts_of_strict env htype hstrict] at hconverts
        cases hconverts
      | error e =>
        refine ⟨e, ?_⟩
        unfold collectOutputItem collectMessageItem collectToolCallItem
        rw [if_pos (by simp [htype]), hstrict]
        rfl
  | @hosted itemType htype hhosted =>
    rw [not_passesGate_of_hosted htype hhosted] at hgate
    cases hgate

theorem Collected.cons {item : Value} {items : List Value} {acc mid parts : ResponsesOutputParts}
    (hitem : Collected env [item] acc mid) (hitems : Collected env items mid parts) :
    Collected env (item :: items) acc parts := by
  refine ⟨?_, ?_, ?_⟩
  · intro texts htexts
    have hmid := hitem.texts texts htexts
    have hparts := hitems.texts _ hmid
    simpa using hparts
  · rw [hitems.reasoning, hitem.reasoning, String.append_assoc]
    simp [summariesOf]
  · rw [hitems.calls, hitem.calls, List.append_assoc, ← List.map_append, ← List.filter_append]
    rfl

/-- The loop over items that pass the gate. -/
theorem collect_items {items : List Value} (hplain : ∀ item ∈ items, PlainItem item)
    (hgate : ∀ item ∈ items, passesGate item = true) (acc : ResponsesOutputParts) :
    (items.all convertsItem = true ∧ ∃ parts,
      items.foldlM (collectOutputItem env false) acc = .ok parts ∧ Collected env items acc parts) ∨
    (items.all convertsItem = false ∧ ∃ e,
      items.foldlM (collectOutputItem env false) acc = .error e) := by
  induction items generalizing acc with
  | nil => exact .inl ⟨rfl, acc, rfl, ⟨fun texts h => by simpa using h, by simp [summariesOf],
      by simp⟩⟩
  | cons item items ih =>
    rw [List.all_cons, List.foldlM_cons]
    rcases collect_item env (hplain item List.mem_cons_self) (hgate item List.mem_cons_self) acc
      with ⟨hconverts, mid, hmid, hcollected⟩ | ⟨hconverts, e, herror⟩
    · rw [hconverts, Bool.true_and, hmid]
      rcases ih (fun other h => hplain other (List.mem_cons_of_mem _ h))
        (fun other h => hgate other (List.mem_cons_of_mem _ h)) mid with
        ⟨hall, parts, hparts, hrest⟩ | ⟨hall, e, herror⟩
      · exact .inl ⟨hall, parts, hparts, hcollected.cons env hrest⟩
      · exact .inr ⟨hall, e, herror⟩
    · rw [hconverts, Bool.false_and, herror]
      exact .inr ⟨rfl, e, rfl⟩

end

/-! ### The completion -/

/-- The calls of the completion. -/
def wholeCalls (items : List Value) : List FoldedCall := (items.filter isCallItem).mapIdx wholeCall

theorem PlainItem.call_id {item : Value} (h : PlainItem item) (hcall : isCallItem item = true) :
    ∃ callId name, item.getStr "call_id" = some callId ∧ item.getStr "name" = some name := by
  have htype : item.getStr "type" = some "function_call" := by simpa [isCallItem] using hcall
  cases h with
  | message hother => simp [htype] at hother
  | reasoning hother => simp [htype] at hother
  | @call callId name arguments _ hcallId hname _ => exact ⟨callId, name, hcallId, hname⟩
  | @hosted itemType hother hhosted =>
    rw [htype] at hother
    obtain rfl := Option.some.inj hother
    exact absurd hhosted (by decide)

theorem PlainItem.no_audio {item : Value} (h : PlainItem item) :
    item.getStr "type" ≠ some "output_audio" := by
  intro haudio
  cases h with
  | message htype => simp [haudio] at htype
  | reasoning htype => simp [haudio] at htype
  | call htype => simp [haudio] at htype
  | @hosted itemType htype hhosted =>
    rw [haudio] at htype
    obtain rfl := Option.some.inj htype
    exact absurd hhosted (by decide)

theorem audio_of_plain {body : Value} {items : List Value}
    (houtput : body.get "output" = some (.array items))
    (hplain : ∀ item ∈ items, PlainItem item) :
    responsesResponseAudioToOpenaiAudio body = .ok none := by
  have hnone : items.filterMap responsesOutputAudioItemToOpenaiAudio = [] := by
    rw [List.filterMap_eq_nil_iff]
    intro item hitem
    unfold responsesOutputAudioItemToOpenaiAudio
    exact if_pos (hplain item hitem).no_audio
  unfold responsesResponseAudioToOpenaiAudio
  simp only [Value.getArray, houtput, Option.bind_some, Value.asArray, Option.getD_some, hnone]

/-- **The body of a response**, as a client reads its completion. -/
theorem completion_of_items (env : TranslationEnv) {body : Value} {items : List Value}
    (houtput : body.get "output" = some (.array items))
    (hplain : ∀ item ∈ items, PlainItem item) :
    ((items.all passesGate && items.all convertsItem) = true ∧ ∃ completion,
      responsesResponseToOpenai env body = .ok completion ∧
      ∃ refusal, Folded.ofCompletion completion =
        { content := textsOf items, reasoning := summariesOf items, refusal := refusal
          toolCalls := wholeCalls items
          finishReason := some (responsesFinishReasonToOpenai body (items.any isCallItem)) }) ∨
    ((items.all passesGate && items.all convertsItem) = false ∧
      ∃ e, responsesResponseToOpenai env body = .error e) := by
  have harray : body.getArray "output" = some items := by
    rw [Value.getArray, houtput]
    rfl
  unfold responsesResponseToOpenai responsesResponseToOpenaiImpl
  rw [harray]
  simp only [Bool.false_eq_true, if_false]
  -- the gate looks at all items before any of them is converted
  cases hgate : items.findSome?
      (responsesNonportableOutputItemMessage "OpenAI Chat Completions" false) with
  | some message =>
    refine .inr ⟨?_, message, rfl⟩
    obtain ⟨item, hitem, hmessage⟩ := List.exists_of_findSome?_eq_some hgate
    have hnot : items.all passesGate = false := by
      rw [List.all_eq_false]
      exact ⟨item, hitem, by simp [passesGate, hmessage]⟩
    rw [hnot, Bool.false_and]
  | none =>
    have hpasses : ∀ item ∈ items, passesGate item = true := by
      intro item hitem
      have hitem := List.findSome?_eq_none_iff.mp hgate item hitem
      simp [passesGate, hitem]
    rw [List.all_eq_true.mpr hpasses, Bool.true_and]
    rcases collect_items env.toEnv hplain hpasses {} with
      ⟨hconverts, parts, hparts, hcollected⟩ | ⟨hconverts, e, herror⟩
    · refine .inl ⟨hconverts, _, Result.bind_ok.mpr ⟨_, audio_of_plain houtput hplain,
        Result.bind_ok.mpr ⟨parts, hparts, rfl⟩⟩, ?_⟩
      have htexts := hcollected.texts [] rfl
      have hreasoning := hcollected.reasoning
      have hcalls := hcollected.calls
      rw [List.nil_append] at htexts hcalls
      rw [String.empty_append] at hreasoning
      have hhas : (!parts.toolCalls.isEmpty) = items.any isCallItem := by
        rw [hcalls, List.isEmpty_map, Bool.eq_iff_iff]
        simp
      -- the calls of the message are numbered as they stand among the calls of the output
      have hchat : parts.toolCalls.mapIdx FoldedCall.ofDelta = wholeCalls items := by
        rw [hcalls, wholeCalls, List.mapIdx_eq_iff]
        intro i
        rw [List.getElem?_map, List.getElem?_mapIdx]
        cases hitem : (items.filter isCallItem)[i]? with
        | none => rfl
        | some item =>
          obtain ⟨hmem, hcall⟩ := List.mem_filter.mp (List.mem_of_getElem? hitem)
          obtain ⟨callId, _, hcallId, _⟩ := (hplain _ hmem).call_id hcall
          exact congrArg some (ofDelta_chatCall env.toEnv hcallId i).symm
      refine ⟨((parts.message none).getStr "refusal").getD "", ?_⟩
      rw [ofCompletion_choice]
      simp only [Value.get_ofFields, Value.getStr_ofFields, List.cons_append, List.nil_append,
        List.lookup_cons]
      show Folded.mk (extractOpenaiContentText ((parts.message none).get "content")) _ _
        (List.mapIdx _ _) _ = _
      rw [content_message none parts htexts, hhas]
      show Folded.mk _ (((parts.message none).getStr "reasoning_content").getD "") _
        (List.mapIdx _ (((parts.message none).getArray "tool_calls").getD [])) _ = _
      rw [reasoning_message, toolCalls_message, hchat, hreasoning]
      rfl
    · rw [audio_of_plain houtput hplain]
      show _ ∨ _ ∧ ∃ e, (items.foldlM (collectOutputItem env.toEnv false) {} >>= _) = _
      rw [herror]
      exact .inr ⟨hconverts, e, rfl⟩

end LlmUniversalProxy.Streaming
