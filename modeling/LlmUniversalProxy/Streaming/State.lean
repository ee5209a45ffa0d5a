import LlmUniversalProxy.Lib.Ledger
import LlmUniversalProxy.Lib.Utf8
import LlmUniversalProxy.Translate.ToolIdentity
import LlmUniversalProxy.UsageMapping

/-!
# `Streaming.State` — what a stream remembers between two events

One `StreamState` serves every pair of formats: the sources read and write some of its fields, the
sinks others, and a few are shared (`streaming/state.rs` 1-330). Indices and counters of what has
been sent are natural numbers: they grow by one with an event and never come near `u64::MAX`. Token
counts are not of this kind, the upstream chooses them; how they are added is in `UsageMapping`.
-/

set_option autoImplicit false

namespace LlmUniversalProxy.Streaming

open Json Lib Translate

/-! ## The bridge context of a request -/

/-- `StreamToolBridgeContextEntry`. -/
structure StreamToolBridgeContextEntry where
  stableName : String
  sourceKind : String
  transportKind : String
  wrapperField : String
  expectedCanonicalShape : String
  deriving DecidableEq, Repr

namespace StreamToolBridgeContextEntry

/-- `StreamToolBridgeContextEntry::from_value` (`streaming/state.rs` 16-43). -/
def fromValue (stableName : String) (value : Value) : Option StreamToolBridgeContextEntry :=
  if (validatePublicToolNameNotReserved stableName).toBool = false then none
  else do
    let declaredStableName ← value.getStr "stable_name"
    if declaredStableName.isEmpty ∨ declaredStableName ≠ stableName then none
    else
      let sourceKind ← value.getStr "source_kind"
      let transportKind ← value.getStr "transport_kind"
      let wrapperField ← value.getStr "wrapper_field"
      let expectedCanonicalShape ← value.getStr "expected_canonical_shape"
      if (sourceKind ≠ "custom_text" ∧ sourceKind ≠ "custom_grammar") ∨
          transportKind ≠ "function_object_wrapper" ∨ wrapperField ≠ "input" ∨
          expectedCanonicalShape ≠ "single_required_string" then none
      else some ⟨stableName, sourceKind, transportKind, wrapperField, expectedCanonicalShape⟩

/-- `StreamToolBridgeContextEntry::expects_canonical_input_wrapper`. -/
def expectsCanonicalInputWrapper (self : StreamToolBridgeContextEntry) : Bool :=
  !self.stableName.isEmpty &&
    (self.sourceKind = "custom_text" || self.sourceKind = "custom_grammar") &&
    self.transportKind = "function_object_wrapper" && self.wrapperField = "input" &&
    self.expectedCanonicalShape = "single_required_string"

end StreamToolBridgeContextEntry

/-- `StreamNamespaceBridgeContextEntry`. -/
structure StreamNamespaceBridgeContextEntry where
  namespaceName : String
  child : String
  deriving DecidableEq, Repr

/-- `StreamNamespaceBridgeContextEntry::from_value` (`streaming/state.rs` 61-75). -/
def StreamNamespaceBridgeContextEntry.fromValue (flatName : String) (value : Value) :
    Option StreamNamespaceBridgeContextEntry := do
  let namespaceName ← value.getStr "namespace"
  let child ← value.getStr "child"
  if namespaceName.isEmpty ∨ child.isEmpty then none
  else if flatName ≠ s!"{namespaceName}__{child}" then none
  else some ⟨namespaceName, child⟩

/-- `StreamToolBridgeContext`: the two maps, as their entries in key order. -/
structure StreamToolBridgeContext where
  version : Nat
  purpose : String
  entries : List (String × StreamToolBridgeContextEntry)
  namespaceEntries : List (String × StreamNamespaceBridgeContextEntry)
  deriving DecidableEq, Repr

/-- `TOOL_BRIDGE_CONTEXT_VERSION`. -/
def toolBridgeContextVersion : Nat := 3

/-- `TOOL_BRIDGE_CONTEXT_PURPOSE`. -/
def toolBridgeContextPurpose : String := "openai_responses_custom_tool_bridge"

/-- The entries of an object, each read by name and value; `none` when one cannot be read. -/
def contextEntries {α : Type} (fromValue : String → Value → Option α) (value : Option Value) :
    Option (List (String × α)) :=
  ((value.bind Value.asObject).getD []).mapM fun field =>
    (fromValue field.1 field.2).map fun entry => (field.1, entry)

namespace StreamToolBridgeContext

/-- `StreamToolBridgeContext::from_value` (`streaming/state.rs` 87-120). -/
def fromValue (value : Value) : Option StreamToolBridgeContext := do
  let version ← value.getU64 "version"
  if version ≠ toolBridgeContextVersion then none
  else
    let purpose ← value.getStr "purpose"
    if purpose ≠ toolBridgeContextPurpose then none
    else
      let entries ← contextEntries StreamToolBridgeContextEntry.fromValue (value.get "entries")
      let namespaceEntries ← contextEntries StreamNamespaceBridgeContextEntry.fromValue
        (value.get "namespace_entries")
      if entries.isEmpty ∧ namespaceEntries.isEmpty then none
      else some ⟨version, purpose, entries, namespaceEntries⟩

/-- `StreamToolBridgeContext::expects_canonical_input_wrapper`. -/
def expectsCanonicalInputWrapper (self : StreamToolBridgeContext) (name : String) : Bool :=
  self.version = toolBridgeContextVersion && self.purpose = toolBridgeContextPurpose &&
    (self.entries.lookup name).any StreamToolBridgeContextEntry.expectsCanonicalInputWrapper

/-- `StreamToolBridgeContext::namespace_bridge_split`. -/
def namespaceBridgeSplit (self : StreamToolBridgeContext) (flatName : String) :
    Option (String × String) :=
  (self.namespaceEntries.lookup flatName).map fun entry => (entry.namespaceName, entry.child)

end StreamToolBridgeContext

/-- `request_scoped_openai_custom_bridge_expects_canonical_input_wrapper_stream`. -/
def requestScopedCustomBridgeExpectsWrapperStream (bridgeContext : Option Value) (name : String) :
    Bool :=
  (bridgeContext.bind StreamToolBridgeContext.fromValue).any fun ctx =>
    ctx.expectsCanonicalInputWrapper name

/-- `request_scoped_namespace_bridge_lookup_stream`. -/
def requestScopedNamespaceBridgeLookupStream (bridgeContext : Option Value) (flatName : String) :
    Option (String × String) :=
  (bridgeContext.bind StreamToolBridgeContext.fromValue).bind fun ctx =>
    ctx.namespaceBridgeSplit flatName

/-! ## The state -/

/-- `ClaudeBlockKind`. -/
inductive ClaudeBlockKind where
  | text
  | thinking
  | toolUse
  | serverToolUse
  deriving DecidableEq, Repr

/-- `ClaudeBlockState`. -/
structure ClaudeBlockState where
  kind : Option ClaudeBlockKind := none
  thinking : String := ""
  signature : Option String := none
  annotations : List Value := []
  omitted : Bool := false

/-- `ClaudeThinkingProvenanceState`. -/
structure ClaudeThinkingProvenanceState where
  blockIndex : Nat
  signature : Option String
  omitted : Bool

/-- `ResponsesMessagePartKind`. -/
inductive ResponsesMessagePartKind where
  | outputText
  | refusal
  deriving DecidableEq, Repr

/-- `ResponsesMessagePartState`; a part is always made with a kind. -/
structure ResponsesMessagePartState where
  kind : ResponsesMessagePartKind
  text : String := ""
  annotations : List Value := []

/-- `ResponsesCompletedMessageState`. -/
structure ResponsesCompletedMessageState where
  outputIndex : Nat
  item : Value

/-- `ToolCallState`. -/
structure ToolCallState where
  index : Nat := 0
  id : Option Value := none
  name : String := ""
  arguments : String := ""
  nonReplayableMarker : Option Value := none
  customInputText : Option String := none
  customInputDone : Bool := false
  toolType : Option String := none
  proxiedToolKind : Option String := none
  namespaceName : Option String := none
  blockIndex : Option Nat := none
  responsesItemId : Option String := none
  responsesItemAdded : Bool := false
  responsesDone : Bool := false

/-- `ClaudeToolUseState`. -/
structure ClaudeToolUseState where
  openaiIndex : Nat := 0
  id : Option Value := none
  name : String := ""
  arguments : String := ""
  proxiedToolKind : Option String := none
  zeroArgCandidate : Bool := false
  sawInputJsonDelta : Bool := false
  argumentsSeededFromStart : Bool := false
  startArgumentsEmitted : Bool := false
  finalized : Bool := false

/-- `StreamState` (`streaming/state.rs` 188-241). What a stream accumulates of a response is all in
here, which is why its size has a limit. -/
structure StreamState where
  messageId : Option String := none
  model : Option String := none
  requestScopedToolBridgeContext : Option Value := none
  openaiToolCallIndex : Nat := 0
  claudeToolUseIndex : Nat := 0
  openaiToolCalls : FinMap Nat ToolCallState := ∅
  claudeToolUses : FinMap Nat ClaudeToolUseState := ∅
  claudeBlocks : FinMap Nat ClaudeBlockState := ∅
  claudeThinkingProvenance : List ClaudeThinkingProvenanceState := []
  textBlockStarted : Bool := false
  inThinkingBlock : Bool := false
  currentBlockIndex : Option Nat := none
  finishReason : Option String := none
  finishReasonSent : Bool := false
  usage : Option Value := none
  messageStartSent : Bool := false
  nextBlockIndex : Nat := 0
  thinkingBlockStarted : Bool := false
  thinkingBlockIndex : Nat := 0
  textBlockIndex : Nat := 0
  textBlockClosed : Bool := false
  fatalRejection : Option String := none
  toolBlockIndices : FinMap Nat Nat := ∅
  openaiChoiceIndex : Option Nat := none
  openaiRoleSent : Bool := false
  responsesSeq : Nat := 0
  responsesStarted : Bool := false
  outputItemId : Option String := none
  outputItemAdded : Bool := false
  responsesContentPartAdded : Bool := false
  responsesOutputText : String := ""
  responsesMessageParts : List ResponsesMessagePartState := []
  responsesCompletedMessageItems : List ResponsesCompletedMessageState := []
  responsesTextPartIndex : Option Nat := none
  responsesRefusalPartIndex : Option Nat := none
  responsesReasoningId : Option String := none
  responsesReasoningAdded : Bool := false
  responsesReasoningDone : Bool := false
  responsesReasoningText : String := ""
  responsesNextOutputIndex : Nat := 0
  responsesReasoningOutputIndex : Option Nat := none
  responsesMessageOutputIndex : Option Nat := none
  openaiSeenContent : String := ""
  openaiSeenRefusal : String := ""
  openaiSeenReasoning : String := ""
  openaiTerminalError : Option Value := none
  responsesTerminalSent : Bool := false
  responsesResponseIdOverride : Option String := none
  responsesTerminalResponse : Option Value := none

/-- The values of a hash map in the order in which it is walked. -/
def hashWalk {V : Type} (env : Env) (m : FinMap Nat V) : List (Nat × V) :=
  (env.hashOrder m.keys).filterMap fun k => (m.lookup k).map fun v => (k, v)

/-- A walk meets every entry once. -/
theorem hashWalk_perm {V : Type} (env : Env) (m : FinMap Nat V) :
    (hashWalk env m).Perm (m.entries.map fun e => (e.1, e.2)) := by
  refine ((env.hashOrder_perm m.keys).filterMap _).trans (.of_eq ?_)
  show (m.entries.map Sigma.fst).filterMap _ = _
  rw [List.filterMap_map, ← List.filterMap_eq_map]
  refine List.filterMap_congr ?_
  intro e he
  have hlookup : m.lookup e.1 = some e.2 := FinMap.mem_entries_iff.mp he
  simp [hlookup]

theorem hashWalk_empty {V : Type} (env : Env) : hashWalk env (∅ : FinMap Nat V) = [] :=
  List.perm_nil.mp (hashWalk_perm env ∅)

theorem mem_hashWalk {V : Type} {env : Env} {m : FinMap Nat V} {k : Nat} {v : V} :
    (k, v) ∈ hashWalk env m ↔ m.lookup k = some v := by
  rw [(hashWalk_perm env m).mem_iff, ← FinMap.mem_entries_iff]
  constructor
  · intro h
    obtain ⟨e, he, heq⟩ := List.mem_map.mp h
    obtain ⟨rfl, rfl⟩ := Prod.mk.inj heq
    exact he
  · intro h
    exact List.mem_map.mpr ⟨⟨k, v⟩, h, rfl⟩

/-- A walk finds the one entry that is looked for. -/
theorem find_hashWalk {V : Type} (env : Env) {m : FinMap Nat V} {p : V → Bool} {k : Nat} {v : V}
    (hlookup : m.lookup k = some v) (hp : p v = true)
    (honly : ∀ k' v', m.lookup k' = some v' → p v' = true → k' = k) :
    ((hashWalk env m).find? fun e => p e.2).map Prod.fst = some k := by
  cases hfind : (hashWalk env m).find? fun e => p e.2 with
  | none => exact absurd hp (List.find?_eq_none.mp hfind (k, v) (mem_hashWalk.mpr hlookup))
  | some e =>
    have hmem := List.mem_of_find?_eq_some hfind
    have hfound := List.find?_some hfind
    rw [Option.map_some, honly e.1 e.2 (mem_hashWalk.mp hmem) hfound]

theorem find_hashWalk_none {V : Type} (env : Env) {m : FinMap Nat V} {p : V → Bool}
    (hnone : ∀ k v, m.lookup k = some v → p v = false) :
    ((hashWalk env m).find? fun e => p e.2).map Prod.fst = none := by
  rw [Option.map_eq_none_iff, List.find?_eq_none]
  intro e he hp
  rw [hnone e.1 e.2 (mem_hashWalk.mp he)] at hp
  cases hp

/-- The keys of a hash map in increasing order (`keys().collect()`, then `sort_unstable()`). -/
def sortedKeys {V : Type} (m : FinMap Nat V) : List Nat := m.keys.mergeSort fun a b => a ≤ b

/-- `entry(key).or_insert_with(default)` and a change of the entry. -/
def updateEntry {V : Type} (m : FinMap Nat V) (key : Nat) (default : V) (f : V → V) :
    FinMap Nat V :=
  m.insert key (f ((m.lookup key).getD default))

/-! ## Sizes -/

def optionalStringLen (value : Option String) : Nat := (value.map String.utf8ByteSize).getD 0

def valueLen (value : Option Value) : Nat := (value.map Value.jsonLen).getD 0

/-- `ToolCallState::accumulated_bytes`. -/
def ToolCallState.accumulatedBytes (self : ToolCallState) : Nat :=
  valueLen self.id + self.name.utf8ByteSize + self.arguments.utf8ByteSize +
    valueLen self.nonReplayableMarker + optionalStringLen self.customInputText +
    optionalStringLen self.toolType + optionalStringLen self.proxiedToolKind +
    optionalStringLen self.responsesItemId

/-- `ClaudeToolUseState::accumulated_bytes`. -/
def ClaudeToolUseState.accumulatedBytes (self : ClaudeToolUseState) : Nat :=
  valueLen self.id + self.name.utf8ByteSize + self.arguments.utf8ByteSize +
    optionalStringLen self.proxiedToolKind

def valuesLen (values : List Value) : Nat := (values.map Value.jsonLen).foldr (· + ·) 0

/-- `ClaudeBlockState::accumulated_bytes`. -/
def ClaudeBlockState.accumulatedBytes (self : ClaudeBlockState) : Nat :=
  self.thinking.utf8ByteSize + optionalStringLen self.signature + valuesLen self.annotations

/-- `ResponsesMessagePartState::accumulated_bytes`. -/
def ResponsesMessagePartState.accumulatedBytes (self : ResponsesMessagePartState) : Nat :=
  self.text.utf8ByteSize + valuesLen self.annotations

/-- The sizes of a list's elements, added up. -/
def sumOf {α : Type} (size : α → Nat) (xs : List α) : Nat := xs.foldr (fun x n => size x + n) 0

/-- `StreamState::accumulated_bytes` (`streaming/state.rs` 546-582). -/
def StreamState.accumulatedBytes (self : StreamState) : Nat :=
  optionalStringLen self.messageId + optionalStringLen self.model +
    valueLen self.requestScopedToolBridgeContext + valueLen self.usage +
    optionalStringLen self.finishReason + optionalStringLen self.outputItemId +
    self.responsesOutputText.utf8ByteSize + optionalStringLen self.responsesReasoningId +
    self.responsesReasoningText.utf8ByteSize + self.openaiSeenContent.utf8ByteSize +
    self.openaiSeenRefusal.utf8ByteSize + self.openaiSeenReasoning.utf8ByteSize +
    valueLen self.openaiTerminalError + optionalStringLen self.responsesResponseIdOverride +
    valueLen self.responsesTerminalResponse +
    sumOf (fun e => ToolCallState.accumulatedBytes e.2) self.openaiToolCalls.entries +
    sumOf (fun e => ClaudeToolUseState.accumulatedBytes e.2) self.claudeToolUses.entries +
    sumOf (fun e => ClaudeBlockState.accumulatedBytes e.2) self.claudeBlocks.entries +
    sumOf (fun e => optionalStringLen e.signature) self.claudeThinkingProvenance +
    sumOf ResponsesMessagePartState.accumulatedBytes self.responsesMessageParts +
    sumOf (fun e => e.item.jsonLen) self.responsesCompletedMessageItems

/-! ## Tool calls -/

/-- The call with another index and the same incoming id, if there is one. -/
def existingToolCallKey (env : Env) (toolCalls : FinMap Nat ToolCallState) (tcIdx : Nat)
    (incomingId : Value) : Option Nat :=
  ((hashWalk env toolCalls).find? fun e => e.1 ≠ tcIdx ∧ e.2.id = some incomingId).map Prod.fst

/-- The entry under `tcIdx` takes over from another one what it does not have itself. -/
def ToolCallState.takeOver (entry existing : ToolCallState) : ToolCallState :=
  { entry with
    id := entry.id.or existing.id
    name := if entry.name.isEmpty then existing.name else entry.name
    arguments := if entry.arguments.isEmpty then existing.arguments else entry.arguments
    nonReplayableMarker := entry.nonReplayableMarker.or existing.nonReplayableMarker
    customInputText := entry.customInputText.or existing.customInputText
    customInputDone := entry.customInputDone || existing.customInputDone
    toolType := entry.toolType.or existing.toolType
    proxiedToolKind := entry.proxiedToolKind.or existing.proxiedToolKind
    namespaceName := entry.namespaceName.or existing.namespaceName
    blockIndex := entry.blockIndex.or existing.blockIndex
    responsesItemId := entry.responsesItemId.or existing.responsesItemId
    responsesItemAdded := entry.responsesItemAdded || existing.responsesItemAdded
    responsesDone := entry.responsesDone || existing.responsesDone }

/-- `dedupe_tool_call_state_by_call_id` (`streaming/state.rs` 276-332). Some upstreams tell a call
again under another index. The entry moves there with what it has, and the index it had is free
again. -/
def dedupeToolCallStateByCallId (env : Env) (toolCalls : FinMap Nat ToolCallState) (tcIdx : Nat)
    (incomingId : Option Value) : FinMap Nat ToolCallState :=
  match incomingId.bind (existingToolCallKey env toolCalls tcIdx) with
  | none => toolCalls
  | some existingKey =>
      match toolCalls.lookup existingKey with
      | none => toolCalls
      | some existingEntry =>
          let existing := { existingEntry with index := tcIdx }
          let toolCalls := toolCalls.erase existingKey
          match toolCalls.lookup tcIdx with
          | some entry => toolCalls.insert tcIdx (entry.takeOver existing)
          | none => toolCalls.insert tcIdx existing

/-- `MAX_SEEDED_TRIM_SCAN`. -/
def maxSeededTrimScan : Nat := 4096

/-- The first candidate of `merge_seeded_tool_arguments` that parses; a trim is a number of bytes
taken off the seed, and one that would cut a character is passed over. -/
def mergeCandidate (serde : Serde) (seed delta : String) : Option String :=
  (List.range (min seed.utf8ByteSize maxSeededTrimScan + 1)).findSome? fun trim =>
    ((Text.splitAtByte seed (seed.utf8ByteSize - trim)).map fun parts => parts.1 ++ delta).filter
      fun candidate => (fromStr serde candidate).isSome

/-- `merge_seeded_tool_arguments`. A start may bring arguments that the deltas repeat. As much is
taken off the end of the start as makes the whole a JSON text, the least that does; where nothing
does, the two are put one behind the other. -/
def mergeSeededToolArguments (serde : Serde) (seed delta : String) : String :=
  if delta.isEmpty then seed else (mergeCandidate serde seed delta).getD (seed ++ delta)

/-- `openai_stream_tool_call_type`. -/
def openaiStreamToolCallType (value : Value) : String :=
  match value.getStr "type" with
  | some "custom" | some "custom_tool_call" => "custom"
  | _ => "function"

/-- `escape_json_string_content_stream`. -/
def escapeJsonStringContentStream (value : String) : String :=
  String.ofList (escapeChars value.toList)

/-- `openai_custom_bridge_start_delta_stream`. -/
def openaiCustomBridgeStartDeltaStream (input : String) : String :=
  "\x7b\"input\":\"" ++ escapeJsonStringContentStream input

/-- `openai_custom_bridge_done_delta_stream`. -/
def openaiCustomBridgeDoneDeltaStream : String := "\"\x7d"

/-- `openai_custom_bridge_decode_arguments_stream`. -/
def openaiCustomBridgeDecodeArgumentsStream (serde : Serde) (arguments : String) :
    Option String := do
  let value ← fromStr serde arguments
  let object ← value.asObject
  if object.length ≠ 1 then none else value.getStr "input"

/-- `tool_call_state_type`. -/
def toolCallStateType (state : ToolCallState) : String := state.toolType.getD "function"

/-- `responses_tool_call_item_type`. -/
def responsesToolCallItemType (toolType : String) : String :=
  if toolType = "custom" then "custom_tool_call" else "function_call"

/-- `responses_tool_call_delta_event_type`. -/
def responsesToolCallDeltaEventType (toolType : String) : String :=
  if toolType = "custom" then "response.custom_tool_call_input.delta"
  else "response.function_call_arguments.delta"

/-- `responses_tool_call_done_event_type`. -/
def responsesToolCallDoneEventType (toolType : String) : String :=
  if toolType = "custom" then "response.custom_tool_call_input.done"
  else "response.function_call_arguments.done"

/-- `responses_tool_call_payload_field`. -/
def responsesToolCallPayloadField (toolType : String) : String :=
  if toolType = "custom" then "input" else "arguments"

/-- `responses_event_tool_call_index` (`streaming/state.rs` 763-781). -/
def responsesEventToolCallIndex (env : Env) (event : Value) (state : StreamState) : Option Nat :=
  let byItem := (event.getStr "item_id").bind fun itemId =>
    ((hashWalk env state.openaiToolCalls).find? fun e =>
      e.2.responsesItemId = some itemId).map Prod.fst
  byItem.or ((event.getU64 "output_index").bind fun outputIndex =>
    ((hashWalk env state.openaiToolCalls).find? fun e =>
      e.2.blockIndex = some outputIndex).map Prod.fst)

/-! ## Chat chunks -/

/-- `openai_chunk` (`streaming/state.rs` 482-509). -/
def openaiChunk (env : Env) (state : StreamState) (delta : Value) (finishReason : Option String) :
    Value :=
  let chunkId := match state.messageId with
    | some s => if Text.startsWith s "chatcmpl-" then s else s!"chatcmpl-{s}"
    | none => "chatcmpl-0"
  .ofFields [("id", .string chunkId), ("object", .string "chat.completion.chunk"),
    ("created", .nat env.now), ("model", .string (state.model.getD "")),
    ("choices", .array [.ofFields [("index", .nat 0), ("delta", delta),
      ("finish_reason", .ofOptionStr finishReason)]])]

/-- `emit_openai_assistant_role_if_needed`: the state, and the chunks pushed. -/
def emitOpenaiAssistantRoleIfNeeded (env : Env) (state : StreamState) :
    StreamState × List Value :=
  if state.openaiRoleSent then (state, [])
  else ({ state with openaiRoleSent := true },
    [openaiChunk env state (.ofFields [("role", .string "assistant")]) none])

/-- `mark_stream_fatal_rejection`: the message as it may be shown, and the state. -/
def markStreamFatalRejection (state : StreamState) (message : String) : String × StreamState :=
  let message := sanitizePublicErrorMessage message
  (message, { state with fatalRejection := state.fatalRejection.or (some message) })

/-- `StreamState::responses_response_id`. -/
def StreamState.responsesResponseId (self : StreamState) (fallback : Option String) : String :=
  (self.responsesResponseIdOverride.or fallback).getD "resp_0"

/-- `reject_openai_stream` (`streaming/state.rs` 638-657). -/
def rejectOpenaiStream (env : Env) (state : StreamState) (errorType code message : String) :
    List Value × StreamState :=
  let (message, state) := markStreamFatalRejection state message
  let state := { state with finishReason := some "error", finishReasonSent := true }
  let chunk := openaiChunk env state (.ofFields []) (some "error")
  let chunk := match state.usage with
    | some usage => chunk.set "usage" usage
    | none => chunk
  ([chunk.set "error" (.ofFields [("type", .string errorType), ("code", .string code),
    ("message", .string message)])], state)

end LlmUniversalProxy.Streaming
