import LlmUniversalProxy.Translate.Attestation
import LlmUniversalProxy.Translate.BridgedTools

/-!
# `Translate.CallConversions` — calls of the history

The calls of earlier turns come back with the next request, and each way of writing them for the
upstream makes a new value: a call of Chat, one with the input of a custom tool in a wrapper, or one
under the flat name of a tool of a namespace. All of them but one copy the marker of a call that is
not to be replayed. `flattenNamespaceCall` renames the item itself, so that its marker is for another
name from then on.

The conversions are `translate/internal/tools.rs` 1669-1989.
-/

set_option autoImplicit false

namespace LlmUniversalProxy.Translate

open Json Lib

/-! ## Conversions -/

/-- `responses_tool_call_item_to_openai_tool_call`. -/
def responsesToolCallItemToOpenaiToolCall (env : Env) (item : Value) : Option Value :=
  match normalizedResponsesToolCall env item with
  | .ok (some call) =>
      some (copyNonReplayableToolCallMarker env item (normalizedToolCallToOpenai call))
  | _ => none

/-- A call for a Chat upstream that knows function tools only. -/
def bridgedOpenaiToolCall (call : NormalizedOpenAiFamilyToolCall) : Value :=
  if call.custom then
    withProxiedToolKind call.proxiedToolKind (openaiFunctionCall call.id call.name
      (openaiResponsesCustomToolBridgeArguments call.payload))
  else normalizedToolCallToOpenai call

/-- `responses_tool_call_item_to_openai_tool_call_with_request_scoped_custom_bridge_strict`. -/
def responsesToolCallItemToBridgedOpenaiToolCallStrict (env : Env) (item : Value) :
    Except String (Option Value) := do
  let call ← normalizedResponsesToolCall env item
  pure (call.map fun call => copyNonReplayableToolCallMarker env item
    (bridgedOpenaiToolCall (flattenNormalizedNamespacedToolCall call)))

/-- The inner loop of `repair_request_scoped_custom_bridge_message_tool_calls`, at one call. -/
def repairMessageToolCall (env : Env) (bridgeContext : ToolBridgeContext) (toolCall : Value) :
    Except String Value := do
  match ← normalizedOpenaiToolCall toolCall with
  | none => pure toolCall
  | some call =>
      if call.custom && call.namespaceName.isNone && expectsWrapper (some bridgeContext) call.name
      then pure (copyNonReplayableToolCallMarker env toolCall (bridgedOpenaiToolCall call))
      else pure toolCall

/-! ## The calls of `responses_to_messages` -/

/-- The upstreams that custom tools and namespaces are bridged for. -/
def bridgesTools (targetFormat : UpstreamFormat) : Bool :=
  targetFormat = .openAiChatCompletions || targetFormat = .anthropic

/-- `namespace_bridge_entries`. -/
def namespaceBridgeEntries (targetFormat : UpstreamFormat) (body : Value) :
    Except String (List (String × NamespaceBridgeContextEntry)) :=
  if bridgesTools targetFormat && (body.get "tools").isSome then
    (normalizedResponsesToolDefinitionsFromRequest body).map fun tools =>
      insertAll [] (tools.flatMap childEntries)
  else .ok []

def flatCallName (item : Value) : String :=
  flatToolName ((item.getStr "namespace").getD "") ((item.getStr "name").getD "")

def isBridgedNamespaceCall (entries : List (String × NamespaceBridgeContextEntry)) (item : Value) :
    Bool :=
  (item.get "namespace").isSome && (entries.lookup (flatCallName item)).isSome

/-- A call of a bridged namespace goes on under its flat name. -/
def flattenNamespaceCall (entries : List (String × NamespaceBridgeContextEntry)) (item : Value) :
    Value :=
  if isBridgedNamespaceCall entries item then
    (item.set "name" (.string (flatCallName item))).remove "namespace"
  else item

/-- What a call of the history becomes. -/
inductive HistoryCall where
  | text (text : String)
  | call (toolCall : Value)
  deriving DecidableEq

/-- A call in the loop of `responses_to_messages`: for an Anthropic upstream, a marked one is told
as text. -/
def historyCall (env : Env) (targetFormat : UpstreamFormat)
    (entries : List (String × NamespaceBridgeContextEntry)) (item : Value) :
    Except String (Option HistoryCall) := do
  let item := flattenNamespaceCall entries item
  if targetFormat = .anthropic && toolCallIsMarkedNonReplayable env item then
    pure (some (.text (responsesToolCallPartialReplayText env item)))
  else
    let call ← if bridgesTools targetFormat then
        responsesToolCallItemToBridgedOpenaiToolCallStrict env item
      else responsesToolCallItemToOpenaiToolCallStrict env item
    pure (call.map .call)

/-! ## Copied markers -/

/-- Nothing that a conversion writes is a marker. -/
structure IsUnmarkedObject (value : Value) : Prop where
  object : value.isObject = true
  unmarked : value.get nonReplayableToolCallField = none

theorem IsUnmarkedObject.isMarked_copy {dest : Value} (h : IsUnmarkedObject dest) (env : Env)
    (source : Value) :
    toolCallIsMarkedNonReplayable env (copyNonReplayableToolCallMarker env source dest) =
      toolCallIsMarkedNonReplayable env source :=
  Translate.isMarked_copy env source h.object h.unmarked

theorem IsUnmarkedObject.withKind {call : Value} (h : IsUnmarkedObject call)
    (kind : Option Value) : IsUnmarkedObject (withProxiedToolKind kind call) := by
  refine ⟨?_, (get_withProxiedToolKind kind call (by decide)).trans h.unmarked⟩
  cases kind with
  | none => exact h.object
  | some kind => exact Value.isObject_set h.object _ _

theorem unmarked_functionCall (id : Option Value) (name arguments : String) :
    IsUnmarkedObject (openaiFunctionCall id name arguments) :=
  ⟨rfl, by simp [openaiFunctionCall, nonReplayableToolCallField, List.lookup_cons]⟩

theorem unmarked_customCall (id : Option Value) (name input : String) :
    IsUnmarkedObject (openaiCustomCall id name input) :=
  ⟨rfl, by simp [openaiCustomCall, nonReplayableToolCallField, List.lookup_cons]⟩

theorem unmarked_toOpenai (call : NormalizedOpenAiFamilyToolCall) :
    IsUnmarkedObject (normalizedToolCallToOpenai call) := by
  unfold normalizedToolCallToOpenai
  split
  · exact (unmarked_customCall _ _ _).withKind _
  · exact (unmarked_functionCall _ _ _).withKind _

theorem unmarked_bridged (call : NormalizedOpenAiFamilyToolCall) :
    IsUnmarkedObject (bridgedOpenaiToolCall call) := by
  unfold bridgedOpenaiToolCall
  split
  · exact (unmarked_functionCall _ _ _).withKind _
  · exact unmarked_toOpenai call

theorem unmarked_callItem {itemType payloadField : String}
    (hfield : nonReplayableToolCallField ≠ payloadField) (id : Option Value)
    (name payload : String) :
    IsUnmarkedObject (responsesCallItem itemType payloadField id name payload) := by
  refine ⟨rfl, ?_⟩
  rw [nonReplayableToolCallField] at hfield
  simp [responsesCallItem, nonReplayableToolCallField, List.lookup_cons,
    beq_eq_false_iff_ne.mpr hfield]

theorem IsUnmarkedObject.set {value : Value} (h : IsUnmarkedObject value) {k : String}
    (hk : nonReplayableToolCallField ≠ k) (x : Value) : IsUnmarkedObject (value.set k x) :=
  ⟨Value.isObject_set h.object k x, (Value.get_set_of_ne value x hk).trans h.unmarked⟩

theorem unmarked_toItem (call : NormalizedOpenAiFamilyToolCall) :
    IsUnmarkedObject (normalizedToolCallToResponsesItem call) := by
  unfold normalizedToolCallToResponsesItem
  refine IsUnmarkedObject.withKind ?_ _
  have hitem : IsUnmarkedObject (if call.custom then
      responsesCallItem "custom_tool_call" "input" call.id call.name call.payload
    else responsesCallItem "function_call" "arguments" call.id call.name call.payload) := by
    split
    · exact unmarked_callItem (by decide) _ _ _
    · exact unmarked_callItem (by decide) _ _ _
  cases call.namespaceName with
  | none => exact hitem
  | some ns => exact hitem.set (by decide) _

theorem unmarked_bridgedItem (serde : Serde) (bridgeContext : Option ToolBridgeContext)
    (call : NormalizedOpenAiFamilyToolCall) :
    IsUnmarkedObject (bridgedCallItem serde bridgeContext call) := by
  unfold bridgedCallItem
  split
  · exact unmarked_toItem call
  · split
    · split
      · exact (unmarked_callItem (by decide) _ _ _).withKind _
      · exact unmarked_toItem call
    · split
      · exact ((unmarked_callItem (by decide) _ _ _).set (by decide) _).withKind _
      · exact unmarked_toItem call

/-! ## The conversions, one by one -/

section

variable {env : Env}

theorem isMarked_toCall {item call : Value}
    (h : responsesToolCallItemToOpenaiToolCall env item = some call) :
    toolCallIsMarkedNonReplayable env call = toolCallIsMarkedNonReplayable env item := by
  unfold responsesToolCallItemToOpenaiToolCall at h
  split at h
  · cases h
    exact (unmarked_toOpenai _).isMarked_copy env item
  · cases h

theorem isMarked_toCallStrict {item call : Value}
    (h : responsesToolCallItemToOpenaiToolCallStrict env item = .ok (some call)) :
    toolCallIsMarkedNonReplayable env call = toolCallIsMarkedNonReplayable env item := by
  obtain ⟨read, -, h⟩ := Result.bind_ok.mp h
  cases read with
  | none => cases h
  | some read =>
    cases h
    exact (unmarked_toOpenai _).isMarked_copy env item

theorem isMarked_toBridgedCall {item call : Value}
    (h : responsesToolCallItemToBridgedOpenaiToolCallStrict env item = .ok (some call)) :
    toolCallIsMarkedNonReplayable env call = toolCallIsMarkedNonReplayable env item := by
  obtain ⟨read, -, h⟩ := Result.bind_ok.mp h
  cases read with
  | none => cases h
  | some read =>
    cases h
    exact (unmarked_bridged _).isMarked_copy env item

theorem isMarked_toItem (toolCall : Value) :
    toolCallIsMarkedNonReplayable env (openaiToolCallToResponsesItem env toolCall) =
      toolCallIsMarkedNonReplayable env toolCall := by
  unfold openaiToolCallToResponsesItem
  refine IsUnmarkedObject.isMarked_copy ?_ env toolCall
  split
  · exact unmarked_toItem _
  · exact ⟨rfl, by simp [nonReplayableToolCallField, List.lookup_cons]⟩

theorem isMarked_toBridgedItem {bridgeContext : Option ToolBridgeContext} {toolCall item : Value}
    (h : openaiToolCallToResponsesItemDecodingCustomBridge env bridgeContext toolCall = .ok item) :
    toolCallIsMarkedNonReplayable env item = toolCallIsMarkedNonReplayable env toolCall := by
  obtain ⟨read, -, h⟩ := Result.bind_ok.mp h
  cases read with
  | none =>
    cases h
    exact isMarked_toItem toolCall
  | some read =>
    cases h
    exact (unmarked_bridgedItem _ _ _).isMarked_copy env toolCall

theorem isMarked_repaired {bridgeContext : ToolBridgeContext} {toolCall repaired : Value}
    (h : repairMessageToolCall env bridgeContext toolCall = .ok repaired) :
    toolCallIsMarkedNonReplayable env repaired = toolCallIsMarkedNonReplayable env toolCall := by
  obtain ⟨read, -, h⟩ := Result.bind_ok.mp h
  cases read with
  | none =>
    cases h
    rfl
  | some read =>
    dsimp only at h
    split at h
    · cases h
      exact (unmarked_bridged _).isMarked_copy env toolCall
    · cases h
      rfl

end

end LlmUniversalProxy.Translate
