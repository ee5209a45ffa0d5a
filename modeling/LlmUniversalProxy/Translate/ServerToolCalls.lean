import LlmUniversalProxy.Translate.Attestation
import LlmUniversalProxy.Translate.ShownReasoning

/-!
# `Translate.ServerToolCalls` — the calls of server tools

A call of Anthropic's is told apart by its kind, which has to come with a signature of the proxy for
the name of the tool. The conversion of a whole message signs; the one to an item of Responses makes
the item anew, and takes the kind along without the signature.

The signing is `attest_proxied_tool_kind` (`translate/internal/tools.rs` 1237-1255), the item
`normalized_tool_call_to_responses_item` (1927-1972).
-/

set_option autoImplicit false

namespace LlmUniversalProxy.Translate

open Json Lib

/-- `INTERNAL_PROXIED_TOOL_KIND_SIG_FIELD`. -/
def proxiedToolKindSigField : String := "_llmup_proxied_tool_kind_sig"

/-- There is nothing that could attest a server tool. -/
def IsUnsigned (value : Value) : Prop := value.get proxiedToolKindSigField = none

/-- A call that says of itself that it is one of a server tool. -/
def isServerToolCall (value : Value) : Bool :=
  value.getStr "proxied_tool_kind" = some "anthropic_server_tool_use"

/-- A signature that the proxy has made for some name. -/
def IsMinted (env : Env) (signature : String) : Prop :=
  ∃ name, signature = env.signature (serverToolPayload name)

/-! ## What a signature is worth -/

theorem signature_of_serverTool {env : Env} {value : Value}
    (h : semanticToolKindFromValue env value = .anthropicServerTool) :
    value.getStr proxiedToolKindSigField =
      some (env.signature (serverToolPayload ((proxiedToolKindName value).getD ""))) := by
  unfold semanticToolKindFromValue at h
  split at h
  · next hserver =>
    obtain ⟨hkind, hattested⟩ := hserver
    unfold proxiedToolKindIsAttested at hattested
    rw [if_neg (fun hne => hne hkind)] at hattested
    cases hsig : value.getStr "_llmup_proxied_tool_kind_sig" with
    | none => simp [hsig] at hattested
    | some signature =>
      rw [hsig] at hattested
      rw [proxiedToolKindSigField, hsig, of_decide_eq_true hattested]
      rfl
  · split at h <;> cases h

theorem IsUnsigned.kind {value : Value} (h : IsUnsigned value) (env : Env) :
    semanticToolKindFromValue env value ≠ .anthropicServerTool := by
  intro hkind
  have hsig := signature_of_serverTool hkind
  rw [Value.getStr, h] at hsig
  cases hsig

def customToolTypes : List String := ["custom", "custom_tool_call", "custom_tool_call_output"]

/-- What is of neither a custom tool nor a server tool is of an ordinary function. -/
theorem kind_function {env : Env} {value : Value}
    (htype : ∀ type ∈ customToolTypes, value.getStr "type" ≠ some type)
    (h : semanticToolKindFromValue env value ≠ .anthropicServerTool) :
    semanticToolKindFromValue env value = .function := by
  unfold semanticToolKindFromValue at h ⊢
  split at h
  · exact absurd rfl h
  · next hattested =>
    rw [if_neg hattested]
    split
    · next hcustom => exact absurd hcustom (htype _ (by decide))
    · next hcustom => exact absurd hcustom (htype _ (by decide))
    · next hcustom => exact absurd hcustom (htype _ (by decide))
    · rfl

/-- **A signature is worth nothing for another name.** -/
theorem kind_of_renamed {env : Env} (hcollisionFree : Function.Injective env.sha256Hex)
    {value renamed : Value} (h : semanticToolKindFromValue env value = .anthropicServerTool)
    (hsig : renamed.getStr proxiedToolKindSigField = value.getStr proxiedToolKindSigField)
    (hname : proxiedToolKindName renamed ≠ proxiedToolKindName value) :
    semanticToolKindFromValue env renamed ≠ .anthropicServerTool := by
  intro hkind
  have hsame := (signature_of_serverTool hkind).symm.trans (hsig.trans (signature_of_serverTool h))
  have hgetD := serverToolSignature_inj hcollisionFree (Option.some.inj hsame)
  -- an empty name counts as none, so that the two names differ as texts as well
  have hnonempty : ∀ v : Value, proxiedToolKindName v ≠ some "" := by
    intro v hempty
    have := (Option.filter_eq_some_iff.mp hempty).2
    simp at this
  cases hn : proxiedToolKindName renamed with
  | none =>
    cases hm : proxiedToolKindName value with
    | none => exact hname (hn.trans hm.symm)
    | some name =>
      rw [hn, hm] at hgetD
      exact hnonempty value (hm.trans (congrArg some hgetD.symm))
  | some name =>
    cases hm : proxiedToolKindName value with
    | none =>
      rw [hn, hm] at hgetD
      exact hnonempty renamed (hn.trans (congrArg some hgetD))
    | some other =>
      rw [hn, hm] at hgetD
      exact hname (hn.trans ((congrArg some hgetD).trans hm.symm))

/-- **A signature that has not been minted is worth nothing.** -/
theorem kind_of_unminted {env : Env} {value : Value}
    (h : ∀ signature, value.getStr proxiedToolKindSigField = some signature →
      ¬ IsMinted env signature) :
    semanticToolKindFromValue env value ≠ .anthropicServerTool := by
  intro hkind
  exact h _ (signature_of_serverTool hkind) ⟨_, rfl⟩

/-- Another process mints other signatures, as it has another key. -/
theorem unminted_of_key {env other : Env} (hcollisionFree : Function.Injective env.sha256Hex)
    (hdigest : other.sha256Hex = env.sha256Hex)
    (hkey : other.internalReplayMarkerKey ≠ env.internalReplayMarkerKey) {signature : String}
    (h : IsMinted other signature) : ¬ IsMinted env signature := by
  rintro ⟨name, rfl⟩
  obtain ⟨name', hsame⟩ := h
  exact hkey (signature_key_inj hcollisionFree hdigest (serverToolPayload_floats name)
    (serverToolPayload_floats name') hsame.symm)

/-! ## A whole message of Anthropic -/

theorem kind_attested (env : Env) (block : Value) :
    semanticToolKindFromValue env (openaiToolCallOfServerToolUse env block) =
      .anthropicServerTool := by
  unfold openaiToolCallOfServerToolUse attestProxiedToolKind
  generalize hcall : Value.ofFields [("id", Value.ofOption (block.get "id")),
    ("type", .string "function"), ("proxied_tool_kind", .string "anthropic_server_tool_use"),
    ("function", .ofFields [("name", .ofOption (block.get "name")),
      ("arguments", .string (((block.get "input").map Value.toJson).getD "\x7b\x7d"))])] = call
  have hkind : call.getStr "proxied_tool_kind" = some "anthropic_server_tool_use" := by
    rw [← hcall, Value.getStr_ofFields]
    rfl
  have hobject : call.isObject = true := by
    rw [← hcall]
    rfl
  rw [if_neg (by simp [hkind, hobject])]
  have hother : ∀ {k : String}, k ≠ "_llmup_proxied_tool_kind_sig" →
      ∀ x, (call.set "_llmup_proxied_tool_kind_sig" x).get k = call.get k :=
    fun h x => Value.get_set_of_ne call x h
  have hname : ∀ x, proxiedToolKindName (call.set "_llmup_proxied_tool_kind_sig" x) =
      proxiedToolKindName call := by
    intro x
    unfold proxiedToolKindName Value.getStr
    rw [hother (by decide), hother (by decide)]
  unfold semanticToolKindFromValue proxiedToolKindIsAttested
  rw [hname, Value.getStr_set_of_ne _ _ (by decide), hkind, Value.getStr,
    Value.get_set_self hobject]
  simp [Value.asStr]

def callsOfBlock (env : Env) (decodeCustomBridge : Bool) (bridgeContext : Option ToolBridgeContext)
    (block : Value) : List Value :=
  match block.getStr "type" with
  | some "tool_use" => [openaiToolCallOfToolUse block ((block.getStr "name").getD "")
      decodeCustomBridge bridgeContext]
  | some "server_tool_use" => [openaiToolCallOfServerToolUse env block]
  | _ => []

section

variable {env : TranslationEnv} {decodeCustomBridge : Bool}
  {bridgeContext : Option ToolBridgeContext}

theorem calls_of_convertBlock {block : Value} {part : ClaudeMessageParts}
    (h : convertClaudeBlock env decodeCustomBridge bridgeContext {} block = .ok (some part)) :
    part.toolCalls = callsOfBlock env.toEnv decodeCustomBridge bridgeContext block := by
  unfold convertClaudeBlock at h
  unfold callsOfBlock
  split at h
  · cases h
  · next htype =>
    obtain ⟨_, _, rfl⟩ := Option.map_eq_some_iff.mp (Except.ok.inj h)
    rw [htype]
    rfl
  · next htype =>
    obtain ⟨_, _, hpart⟩ := Result.map_ok.mp h
    cases hpart
    rw [htype]
    rfl
  · next htype =>
    obtain ⟨_, _, hpart⟩ := Result.map_ok.mp h
    cases hpart
    rw [htype]
    rfl
  · next htype =>
    obtain ⟨_, _, hpart⟩ := Result.map_ok.mp h
    cases hpart
    rw [htype]
    rfl
  · next htype =>
    obtain ⟨_, _, hpart⟩ := Result.map_ok.mp h
    cases hpart
    rw [htype]
    rfl
  · next htype =>
    cases h
    rw [htype]
    rfl
  · cases h

theorem calls_of_convertBlocks {blocks : List Value} :
    ∀ {acc parts : ClaudeMessageParts},
      convertClaudeBlocks env decodeCustomBridge bridgeContext acc blocks = .ok (some parts) →
      parts.toolCalls = acc.toolCalls ++
        blocks.flatMap (callsOfBlock env.toEnv decodeCustomBridge bridgeContext) := by
  induction blocks with
  | nil =>
    intro acc parts h
    cases h
    simp
  | cons block blocks ih =>
    intro acc parts h
    rw [convertClaudeBlocks, convertClaudeBlock_append] at h
    cases hone : convertClaudeBlock env decodeCustomBridge bridgeContext {} block with
    | error e =>
      rw [hone] at h
      cases h
    | ok part =>
      rw [hone] at h
      cases part with
      | none => cases h
      | some part =>
        rw [ih h, List.flatMap_cons, ← calls_of_convertBlock hone]
        simp [ClaudeMessageParts.append, List.append_assoc]

theorem calls_of_convertsTo {content message : Value}
    (h : ConvertsTo env decodeCustomBridge bridgeContext content message) :
    (message.getArray "tool_calls").getD [] = (content.asArray.getD []).flatMap
      (callsOfBlock env.toEnv decodeCustomBridge bridgeContext) := by
  rcases h with ⟨text, rfl, rfl⟩ | ⟨blocks, parts, rfl, hparts, hnone, hone⟩
  · simp [Value.getArray, Value.asArray, List.lookup_cons]
  · have hcalls : parts.toolCalls = blocks.flatMap
        (callsOfBlock env.toEnv decodeCustomBridge bridgeContext) :=
      (calls_of_convertBlocks hparts).trans (List.nil_append _)
    show _ = blocks.flatMap _
    rw [← hcalls]
    unfold ClaudeMessageParts.messages at hone
    simp only [hnone, List.isEmpty_nil, Bool.not_true, Bool.false_eq_true, if_false] at hone
    split at hone
    · rw [← List.singleton_inj.mp hone, Value.getArray, get_withReasoningContent _ _ (by decide)]
      split
      · rw [Value.get_ofFields]
        rfl
      · rw [Value.get_set_of_ne _ _ (by decide), Value.get_ofFields]
        rfl
    · next hempty =>
      have hcallsNil : parts.toolCalls = [] := by simpa using hempty
      rw [← List.singleton_inj.mp hone, Value.getArray, get_withReasoningContent _ _ (by decide),
        Value.get_ofFields, hcallsNil]
      rfl

end

/-- The calls of Anthropic's own are the only ones that say so. -/
theorem isServerToolCall_toolUse (block : Value) (name : String) (decodeCustomBridge : Bool)
    (bridgeContext : Option ToolBridgeContext) :
    isServerToolCall (openaiToolCallOfToolUse block name decodeCustomBridge bridgeContext) =
      false := by
  unfold openaiToolCallOfToolUse
  dsimp only
  split
  · simp [isServerToolCall, openaiCustomCall, Value.getStr, List.lookup_cons]
  · simp [isServerToolCall, Value.getStr, List.lookup_cons]

theorem kind_of_callsOfBlock {env : Env} {decodeCustomBridge : Bool}
    {bridgeContext : Option ToolBridgeContext} {block call : Value}
    (hcall : call ∈ callsOfBlock env decodeCustomBridge bridgeContext block)
    (hserver : isServerToolCall call = true) :
    semanticToolKindFromValue env call = .anthropicServerTool := by
  unfold callsOfBlock at hcall
  split at hcall
  · rw [List.mem_singleton.mp hcall, isServerToolCall_toolUse] at hserver
    cases hserver
  · rw [List.mem_singleton.mp hcall]
    exact kind_attested env block
  · cases hcall

/-! ## A whole answer -/

/-- What a whole answer carries that may come back with the next request. -/
def answerItems : UpstreamFormat → Value → List Value
  | .openAiChatCompletions, out => (choicesOf out).flatMap fun choice =>
      ((choiceField choice "tool_calls").bind Value.asArray).getD []
  | .openAiResponses, out => (out.getArray "output").getD []
  | .anthropic, out => (out.getArray "content").getD []

theorem answerItems_strip (completion : Value) :
    answerItems .openAiChatCompletions (stripOpenaiCompletionReasoning completion) =
      answerItems .openAiChatCompletions completion := by
  have hkept : ∀ choice, choiceField (mapChoiceMessage (fun message =>
      (message.remove "reasoning_content").remove "reasoning_details") choice) "tool_calls" =
        choiceField choice "tool_calls" := by
    refine choiceField_mapChoiceMessage (g := id) rfl ?_
    intro message _
    simp [Value.get_remove]
  simp only [answerItems, stripOpenaiCompletionReasoning, choicesOf_mapChoiceMessages,
    List.flatMap_map, hkept]

/-- **A whole answer to a Chat client has the calls of all the blocks.** -/
theorem answerItems_chat {env : TranslationEnv} {body out : Value}
    {context : ResponseTranslationContext}
    (h : translateResponseWithContext env .anthropic .openAiChatCompletions body context = .ok out) :
    ∃ content, body.get "content" = some content ∧
      answerItems .openAiChatCompletions out = (content.asArray.getD []).flatMap
        (callsOfBlock env.toEnv false context.requestScopedToolBridgeContext) := by
  unfold translateResponseWithContext at h
  split at h
  · cases h
  rw [if_neg (by decide)] at h
  obtain ⟨completion, hcompletion, h⟩ := Result.bind_ok.mp h
  have hout : answerItems .openAiChatCompletions out =
      answerItems .openAiChatCompletions completion := by
    rw [← Except.ok.inj h]
    split
    · exact answerItems_strip completion
    · rfl
  obtain ⟨message, hmessage, h⟩ := Result.bind_ok.mp hcompletion
  obtain ⟨content, converted, hcontent, hconverts, rfl⟩ := claudeResponseMessage_ok hmessage
  refine ⟨content, hcontent, ?_⟩
  rw [hout, ← Except.ok.inj h, answerItems, choicesOf_completion, List.flatMap_singleton,
    choiceField, Value.get_ofFields, ← calls_of_convertsTo hconverts]
  show (((applyClaudeRefusal _ _).get "tool_calls").bind Value.asArray).getD [] = _
  rw [get_applyClaudeRefusal _ _ (by decide) (by decide)]
  rfl

/-! ## Items of Responses -/

theorem unsigned_callItem {itemType payloadField : String}
    (hfield : (proxiedToolKindSigField == payloadField) = false) (id : Option Value)
    (name payload : String) : IsUnsigned (responsesCallItem itemType payloadField id name payload) := by
  rw [proxiedToolKindSigField] at hfield
  simp [IsUnsigned, responsesCallItem, proxiedToolKindSigField, List.lookup_cons, hfield]

theorem IsUnsigned.set {value : Value} (h : IsUnsigned value) {k : String}
    (hk : proxiedToolKindSigField ≠ k) (x : Value) : IsUnsigned (value.set k x) :=
  (Value.get_set_of_ne value x hk).trans h

theorem IsUnsigned.withKind {call : Value} (h : IsUnsigned call) (kind : Option Value) :
    IsUnsigned (withProxiedToolKind kind call) :=
  (get_withProxiedToolKind kind call (by decide)).trans h

theorem unsigned_toItem (call : NormalizedOpenAiFamilyToolCall) :
    IsUnsigned (normalizedToolCallToResponsesItem call) := by
  have hitem : IsUnsigned (if call.custom then
      responsesCallItem "custom_tool_call" "input" call.id call.name call.payload
    else responsesCallItem "function_call" "arguments" call.id call.name call.payload) := by
    split
    · exact unsigned_callItem (by decide) _ _ _
    · exact unsigned_callItem (by decide) _ _ _
  unfold normalizedToolCallToResponsesItem
  dsimp only
  split
  · exact (hitem.set (by decide) _).withKind _
  · exact hitem.withKind _

theorem unsigned_bridgedItem (serde : Serde) (bridgeContext : Option ToolBridgeContext)
    (call : NormalizedOpenAiFamilyToolCall) :
    IsUnsigned (bridgedCallItem serde bridgeContext call) := by
  unfold bridgedCallItem
  split
  · exact unsigned_toItem call
  split
  · split
    · exact (unsigned_callItem (by decide) _ _ _).withKind _
    · exact unsigned_toItem call
  · split
    · exact ((unsigned_callItem (by decide) _ _ _).set (by decide) _).withKind _
    · exact unsigned_toItem call

theorem unsigned_convertedCall {env : Env} {bridgeContext : Option ToolBridgeContext}
    {toolCall item : Value}
    (h : openaiToolCallToResponsesItemDecodingCustomBridge env bridgeContext toolCall = .ok item) :
    IsUnsigned item := by
  obtain ⟨call, hcall, h⟩ := Result.bind_ok.mp h
  cases call with
  | none =>
    cases h
    simp only [IsUnsigned, openaiToolCallToResponsesItem, hcall]
    rw [get_copyMarker _ _ _ (by decide), Value.get_ofFields]
    rfl
  | some call =>
    cases h
    unfold IsUnsigned
    rw [get_copyMarker _ _ _ (by decide)]
    exact unsigned_bridgedItem env.serde bridgeContext call

theorem unsigned_audioItem {message : Value} {audio : Option Value}
    (h : openaiAssistantAudioToResponsesOutputItem message = .ok audio) :
    ∀ item ∈ audio.toList, IsUnsigned item := by
  have hitem : ∀ fields : List (String × Value), fields.lookup proxiedToolKindSigField = none →
      ∀ item ∈ (some (Value.ofFields (("type", .string "output_audio") :: fields))).toList,
        IsUnsigned item := by
    intro fields hfields item hmem
    rw [proxiedToolKindSigField] at hfields
    cases List.mem_singleton.mp hmem
    simp [IsUnsigned, proxiedToolKindSigField, List.lookup_cons, hfields]
  have hoptional : ∀ (data text : Option Value), ((data.map fun data => ("data", data)).toList ++
      (text.map fun text => ("transcript", text)).toList).lookup proxiedToolKindSigField =
        none := by
    intro data text
    cases data <;> cases text <;> simp [proxiedToolKindSigField, List.lookup_cons]
  unfold openaiAssistantAudioToResponsesOutputItem at h
  split at h
  · cases h
    exact fun item hitem => (nomatch hitem)
  · cases h
    exact fun item hitem => (nomatch hitem)
  · next fields _ =>
    obtain ⟨_, _, h⟩ := Result.bind_ok.mp h
    cases hdata : (Value.object fields).get "data" with
    | some data =>
      simp only [hdata] at h
      obtain ⟨_, _, h⟩ := Result.bind_ok.mp h
      cases h
      exact hitem _ (hoptional (some data) _)
    | none =>
      simp only [hdata] at h
      cases h
      exact hitem _ (hoptional none _)
  · obtain ⟨_, _, h⟩ := Result.bind_ok.mp h
    cases h
    exact hitem _ (by simp [proxiedToolKindSigField, List.lookup_cons])

theorem unsigned_responsesMessageItem (content : List Value) :
    IsUnsigned (responsesMessageItem content) := by
  simp [IsUnsigned, responsesMessageItem, proxiedToolKindSigField, List.lookup_cons]

theorem unsigned_responsesReasoningItem (reasoning : Option String)
    (replayBlocks : Option (List Value)) :
    ∀ item ∈ (responsesReasoningItem reasoning replayBlocks).toList, IsUnsigned item := by
  intro item hitem
  unfold responsesReasoningItem at hitem
  split at hitem
  · cases hitem
  · cases List.mem_singleton.mp hitem
    cases replayBlocks <;> simp [IsUnsigned, proxiedToolKindSigField, List.lookup_cons]

theorem unsigned_leadingItems {env : TranslationEnv} {choice message : Value}
    {audio : Option Value} {leading : List Value}
    (h : responsesLeadingItems env choice message audio = .ok leading) :
    ∀ item ∈ leading, IsUnsigned item := by
  have hreasoning := unsigned_responsesReasoningItem (openaiMessageReasoningText message)
    (openaiMessageAnthropicReasoningReplayBlocks message)
  intro item hitem
  rcases leadingItems_ok h with ⟨content, rfl⟩ | ⟨content, _, rfl⟩ | rfl
  · rcases List.mem_append.mp hitem with hitem | hitem
    · exact hreasoning item hitem
    · rw [List.mem_singleton.mp hitem]
      exact unsigned_responsesMessageItem content
  · rw [List.mem_singleton.mp hitem]
    exact unsigned_responsesMessageItem content
  · exact hreasoning item hitem

/-- **No item of a whole answer is signed.** -/
theorem answerItems_unsigned {env : TranslationEnv} {body out : Value}
    {context : ResponseTranslationContext}
    (h : translateResponseWithContext env .anthropic .openAiResponses body context = .ok out) :
    ∀ item ∈ answerItems .openAiResponses out, IsUnsigned item := by
  unfold translateResponseWithContext at h
  split at h
  · cases h
  rw [if_neg (by decide)] at h
  obtain ⟨completion, _, h⟩ := Result.bind_ok.mp h
  obtain ⟨choice, message, audio, leading, calls, hmade⟩ := openaiResponseToResponses_ok h
  intro item hitem
  have hitem : item ∈ (out.getArray "output").getD [] := hitem
  rw [hmade.output, Option.getD_some] at hitem
  rcases List.mem_append.mp hitem with hitem | hitem
  · rcases List.mem_append.mp hitem with hitem | hitem
    · exact unsigned_leadingItems hmade.front item hitem
    · obtain ⟨toolCall, _, hcall⟩ := Result.exists_of_mem_mapM hmade.called hitem
      exact unsigned_convertedCall hcall
  · exact unsigned_audioItem hmade.spoken item hitem

end LlmUniversalProxy.Translate
