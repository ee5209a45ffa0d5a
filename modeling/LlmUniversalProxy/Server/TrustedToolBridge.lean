import LlmUniversalProxy.Streaming.BridgeContext
import LlmUniversalProxy.Translate.BridgedTools
import LlmUniversalProxy.Translate.ToolCalls

/-!
# `Server.TrustedToolBridge` — the bridge context between request and response

The translated request carries its bridge context only as far as the server, which takes it out of
the body, reads it with types of its own, and hands it to the response, whole or streamed. So a
context is written twice and read three times on its way. This module follows it there: the name of
a bridged child, when the upstream calls it, is split into the namespace and the name that the
client declared.

The three readers are `server/proxy.rs` 79-224, `translate/internal/tools.rs` 477-653 and
`streaming/state.rs` 7-135. They refuse different things: a reserved name is let through by the
first alone.
-/

set_option autoImplicit false

namespace LlmUniversalProxy.Server

open Json Lib Streaming Translate

/-! ## The server's reader -/

/-- `TrustedToolBridgeContextEntry`. -/
structure TrustedToolBridgeContextEntry where
  stableName : String
  sourceKind : String
  transportKind : String
  wrapperField : String
  expectedCanonicalShape : String
  deriving DecidableEq, Repr

namespace TrustedToolBridgeContextEntry

/-- `TrustedToolBridgeContextEntry::from_value` (`server/proxy.rs` 88-112): the other two readers
refuse a reserved name here, this one does not. -/
def fromValue (stableName : String) (value : Value) : Option TrustedToolBridgeContextEntry := do
  let declaredStableName ← value.getStr "stable_name"
  if declaredStableName.isEmpty ∨ declaredStableName ≠ stableName then none
  else
    let sourceKind ← value.getStr "source_kind"
    let transportKind ← value.getStr "transport_kind"
    let wrapperField ← value.getStr "wrapper_field"
    let expectedCanonicalShape ← value.getStr "expected_canonical_shape"
    if sourceKind ≠ "custom_text" ∧ sourceKind ≠ "custom_grammar" ∨
        transportKind ≠ "function_object_wrapper" ∨ wrapperField ≠ "input" ∨
        expectedCanonicalShape ≠ "single_required_string" then none
    else
      some ⟨stableName, sourceKind, transportKind, wrapperField, expectedCanonicalShape⟩

/-- `TrustedToolBridgeContextEntry::to_value`. -/
def toValue (self : TrustedToolBridgeContextEntry) : Value :=
  .ofFields [("stable_name", .string self.stableName), ("source_kind", .string self.sourceKind),
    ("transport_kind", .string self.transportKind), ("wrapper_field", .string self.wrapperField),
    ("expected_canonical_shape", .string self.expectedCanonicalShape)]

end TrustedToolBridgeContextEntry

/-- `TrustedNamespaceBridgeContextEntry`. -/
structure TrustedNamespaceBridgeContextEntry where
  namespaceName : String
  child : String
  deriving DecidableEq, Repr

namespace TrustedNamespaceBridgeContextEntry

/-- `TrustedNamespaceBridgeContextEntry::from_value`. -/
def fromValue (flatName : String) (value : Value) : Option TrustedNamespaceBridgeContextEntry := do
  let namespaceName ← value.getStr "namespace"
  let child ← value.getStr "child"
  if namespaceName.isEmpty ∨ child.isEmpty then none
  else if flatName ≠ s!"{namespaceName}__{child}" then none
  else some ⟨namespaceName, child⟩

/-- `TrustedNamespaceBridgeContextEntry::to_value`. -/
def toValue (self : TrustedNamespaceBridgeContextEntry) : Value :=
  .ofFields [("namespace", .string self.namespaceName), ("child", .string self.child)]

end TrustedNamespaceBridgeContextEntry

/-- `TrustedToolBridgeContext`: the two maps, as their entries in key order. -/
structure TrustedToolBridgeContext where
  version : Nat
  purpose : String
  entries : List (String × TrustedToolBridgeContextEntry)
  namespaceEntries : List (String × TrustedNamespaceBridgeContextEntry)
  deriving DecidableEq, Repr

namespace TrustedToolBridgeContext

/-- `TrustedToolBridgeContext::from_value` (`server/proxy.rs` 165-198). -/
def fromValue (value : Value) : Option TrustedToolBridgeContext := do
  let version ← value.getU64 "version"
  if version ≠ 3 then none
  else
    let purpose ← value.getStr "purpose"
    if purpose ≠ "openai_responses_custom_tool_bridge" then none
    else
      let entries ← ToolBridgeContext.entriesFrom TrustedToolBridgeContextEntry.fromValue
        (value.get "entries")
      let namespaceEntries ← ToolBridgeContext.entriesFrom
        TrustedNamespaceBridgeContextEntry.fromValue (value.get "namespace_entries")
      if entries.isEmpty ∧ namespaceEntries.isEmpty then none
      else some ⟨version, purpose, entries, namespaceEntries⟩

/-- `TrustedToolBridgeContext::to_value`. -/
def toValue (self : TrustedToolBridgeContext) : Value :=
  .ofFields [("version", .nat self.version), ("purpose", .string self.purpose),
    ("entries", .ofFields (self.entries.map fun e => (e.1, e.2.toValue))),
    ("namespace_entries", .ofFields (self.namespaceEntries.map fun e => (e.1, e.2.toValue)))]

end TrustedToolBridgeContext

/-! ## What was written is read -/

/-- An entry of a request, as the server keeps it. -/
def TrustedToolBridgeContextEntry.ofEntry (entry : ToolBridgeContextEntry) :
    TrustedToolBridgeContextEntry :=
  ⟨entry.stableName, entry.sourceKind.asStr, "function_object_wrapper", "input",
    "single_required_string"⟩

def TrustedNamespaceBridgeContextEntry.ofEntry (entry : NamespaceBridgeContextEntry) :
    TrustedNamespaceBridgeContextEntry := ⟨entry.namespaceName, entry.child⟩

/-- The context of a request, as the server keeps it. -/
def TrustedToolBridgeContext.ofContext (ctx : ToolBridgeContext) : TrustedToolBridgeContext :=
  ⟨3, "openai_responses_custom_tool_bridge",
    ctx.entries.map fun e => (e.1, .ofEntry e.2),
    ctx.namespaceEntries.map fun e => (e.1, .ofEntry e.2)⟩

theorem trusted_fromValue_toValue {name : String} {entry : ToolBridgeContextEntry}
    (hname : name ≠ "") (hstable : entry.stableName = name) :
    TrustedToolBridgeContextEntry.fromValue name entry.toValue = some (.ofEntry entry) := by
  obtain ⟨stableName, sourceKind⟩ := entry
  obtain rfl : stableName = name := hstable
  unfold TrustedToolBridgeContextEntry.fromValue ToolBridgeContextEntry.toValue
  cases sourceKind <;>
    simp [Value.getStr, List.lookup_cons, hname, ToolBridgeSourceKind.asStr,
      TrustedToolBridgeContextEntry.ofEntry]

theorem trustedNamespace_fromValue_toValue {entry : NamespaceBridgeContextEntry}
    (hnamespace : entry.namespaceName ≠ "") (hchild : entry.child ≠ "") :
    TrustedNamespaceBridgeContextEntry.fromValue (flatToolName entry.namespaceName entry.child)
      entry.toValue = some (.ofEntry entry) := by
  unfold TrustedNamespaceBridgeContextEntry.fromValue NamespaceBridgeContextEntry.toValue
  simp [Value.getStr, List.lookup_cons, hnamespace, hchild, flatToolName,
    TrustedNamespaceBridgeContextEntry.ofEntry]

/-- The server reads what the request has written. -/
theorem trusted_of_context {ctx : ToolBridgeContext} (h : ctx.IsReadable)
    (hentries : (ctx.entries.isEmpty && ctx.namespaceEntries.isEmpty) = false) :
    TrustedToolBridgeContext.fromValue ctx.toValue = some (.ofContext ctx) := by
  have hread : ToolBridgeContext.entriesFrom TrustedToolBridgeContextEntry.fromValue _ = some _ :=
    @entriesFrom_ofFields _ _ _ ToolBridgeContextEntry.toValue .ofEntry _ h.sorted
      fun e he => trusted_fromValue_toValue (h.entry e he).1.1 (h.entry e he).2
  have hreadNamespace :
      ToolBridgeContext.entriesFrom TrustedNamespaceBridgeContextEntry.fromValue _ = some _ :=
    @entriesFrom_ofFields _ _ _ NamespaceBridgeContextEntry.toValue .ofEntry _
      h.sortedNamespace fun e he => by
        obtain ⟨hnamespace, hchild, hflat⟩ := h.namespaceEntry e he
        rw [hflat]
        exact trustedNamespace_fromValue_toValue hnamespace hchild
  have hcontext : ctx.entries = [] → ctx.namespaceEntries ≠ [] := by
    intro hnil hnil'
    simp [hnil, hnil'] at hentries
  have hversion : ctx.toValue.getU64 "version" = some 3 := by
    simp [ToolBridgeContext.toValue, Value.getU64]
  have hpurpose : ctx.toValue.getStr "purpose" = some "openai_responses_custom_tool_bridge" := by
    simp [ToolBridgeContext.toValue, Value.getStr, List.lookup_cons]
  have hget : ctx.toValue.get "entries" =
      some (.ofFields (ctx.entries.map fun e => (e.1, e.2.toValue))) := by
    simp [ToolBridgeContext.toValue, List.lookup_cons]
  have hgetNamespace : ctx.toValue.get "namespace_entries" =
      some (.ofFields (ctx.namespaceEntries.map fun e => (e.1, e.2.toValue))) := by
    simp [ToolBridgeContext.toValue, List.lookup_cons]
  unfold TrustedToolBridgeContext.fromValue
  rw [hversion, hpurpose, hget, hgetNamespace, hread, hreadNamespace]
  simpa [TrustedToolBridgeContext.ofContext] using hcontext

/-- And writes it again as it was. -/
theorem toValue_ofContext (ctx : ToolBridgeContext) :
    (TrustedToolBridgeContext.ofContext ctx).toValue = ctx.toValue := by
  unfold TrustedToolBridgeContext.toValue TrustedToolBridgeContext.ofContext
    ToolBridgeContext.toValue
  rw [List.map_map, List.map_map]
  rfl

/-! ## A bridged child comes back -/

section

variable {tools : List NormalizedOpenAiFamilyToolDef} {namespaceName child : String}

theorem item_of_child (env : Env) {ctx : ToolBridgeContext}
    (hwrapper : ctx.expectsCanonicalInputWrapper (flatToolName namespaceName child) = false)
    (hsplit : ctx.namespaceBridgeSplit (flatToolName namespaceName child) =
      some (namespaceName, child)) {toolCall : Value} {call : NormalizedOpenAiFamilyToolCall}
    (hcall : normalizedOpenaiToolCall toolCall = .ok (some call)) (hfunction : call.custom = false)
    (hname : call.name = flatToolName namespaceName child) :
    ∃ item, openaiToolCallToResponsesItemDecodingCustomBridge env (some ctx) toolCall = .ok item ∧
      item.getStr "namespace" = some namespaceName ∧ item.getStr "name" = some child := by
  have hitem : bridgedCallItem env.serde (some ctx) call = withProxiedToolKind call.proxiedToolKind
      ((responsesCallItem "function_call" "arguments" call.id child call.payload).set "namespace"
        (.string namespaceName)) := by
    unfold bridgedCallItem expectsWrapper
    rw [hname, hfunction]
    simp [hwrapper, hsplit]
  unfold openaiToolCallToResponsesItemDecodingCustomBridge
  rw [hcall]
  refine ⟨_, rfl, ?_, ?_⟩
  · rw [getStr_copyMarker _ _ _ (by decide), hitem, getStr_withProxiedToolKind _ _ (by decide)]
    exact congrArg (Option.bind · Value.asStr) (Value.get_set_self rfl _ _)
  · rw [getStr_copyMarker _ _ _ (by decide), hitem, getStr_withProxiedToolKind _ _ (by decide),
      Value.getStr_set_of_ne _ _ (by decide), responsesCallItem, Value.getStr_ofFields]
    rfl


end

/-- What becomes of a call to the child of a namespace, in a request with this context. -/
structure ComesBack (env : Env) (ctx : ToolBridgeContext) (namespaceName child : String) : Prop where
  /-- The context is written down and read back as it was, by its own reader. -/
  read : ToolBridgeContext.fromValue ctx.toValue = some ctx
  /-- The server reads it, and hands on the same value. -/
  trusted : (TrustedToolBridgeContext.fromValue ctx.toValue).map TrustedToolBridgeContext.toValue =
    some ctx.toValue
  /-- The name is split. -/
  split : ctx.namespaceBridgeSplit (flatToolName namespaceName child) = some (namespaceName, child)
  /-- The stream, which reads the value for itself, splits it too. -/
  splitStream : requestScopedNamespaceBridgeLookupStream (some ctx.toValue)
    (flatToolName namespaceName child) = some (namespaceName, child)
  /-- And does not look for a wrapper first. -/
  noWrapperStream : requestScopedCustomBridgeExpectsWrapperStream (some ctx.toValue)
    (flatToolName namespaceName child) = false
  /-- Every function call under the name becomes an item of the child. -/
  item : ∀ toolCall call, normalizedOpenaiToolCall toolCall = .ok (some call) →
    call.custom = false → call.name = flatToolName namespaceName child →
    ∃ item, openaiToolCallToResponsesItemDecodingCustomBridge env (some ctx) toolCall = .ok item ∧
      item.getStr "namespace" = some namespaceName ∧ item.getStr "name" = some child

section

variable {tools : List NormalizedOpenAiFamilyToolDef}

theorem comesBack_of_child (env : Env) (hpublic : ∀ tool ∈ tools, tool.IsPublic)
    (hnamespace : requestScopedOpenaiNamespaceBridgeConflictName tools = none)
    {namespaceName child : String} (hchild : .child namespaceName child ∈ declaredTools tools) :
    ∃ ctx, requestScopedOpenaiCustomBridgeContext tools = some ctx ∧
      ComesBack env ctx namespaceName child := by
  have hcontext := context_of_child hnamespace hchild
  have hreadable := isReadable_of_public hpublic
  have hsplit := split_of_child hnamespace hchild
  have hwrapper := noWrapper_of_child hnamespace hchild
  generalize tools.foldl ToolBridgeContext.addTool {} = ctx at *
  have hentries : (ctx.entries.isEmpty && ctx.namespaceEntries.isEmpty) = false := by
    unfold ToolBridgeContext.namespaceBridgeSplit at hsplit
    cases hnil : ctx.namespaceEntries with
    | nil =>
      rw [hnil] at hsplit
      cases hsplit
    | cons e rest => simp
  have hread := ToolBridgeContext.fromValue_toValue hreadable hentries
  refine ⟨ctx, hcontext, hread, ?_, hsplit, ?_, ?_, ?_⟩
  · rw [trusted_of_context hreadable hentries, Option.map_some, toValue_ofContext]
  · rw [namespaceSplit_stream, Option.bind_some, hread, Option.bind_some, hsplit]
  · rw [expectsWrapper_stream, Option.bind_some, hread]
    exact hwrapper
  · intro toolCall call hcall hfunction hname
    exact item_of_child env hwrapper hsplit hcall hfunction hname

/-- **Bridged names can be told apart, and lead back to what was declared.** -/
theorem bridged_names_reversible (env : Env)
    (hnormal : ∀ tool ∈ tools, ∃ value, normalizedResponsesToolDefinition value = .ok (some tool))
    (hnamespace : requestScopedOpenaiNamespaceBridgeConflictName tools = none)
    (hcustom : requestScopedOpenaiCustomBridgeConflictName tools = none) :
    (∀ a ∈ declaredTools tools, ∀ b ∈ declaredTools tools, a.flatName = b.flatName → a = b) ∧
      ∀ namespaceName child, .child namespaceName child ∈ declaredTools tools →
        ∃ ctx, requestScopedOpenaiCustomBridgeContext tools = some ctx ∧
          ComesBack env ctx namespaceName child := by
  have hpublic : ∀ tool ∈ tools, tool.IsPublic := by
    intro tool htool
    obtain ⟨value, hvalue⟩ := hnormal tool htool
    exact isPublic_of_responses hvalue
  constructor
  · intro a ha b hb heq
    exact flatName_injOn hcustom hnamespace ha hb heq
  · intro namespaceName child hchild
    exact comesBack_of_child env hpublic hnamespace hchild

/-- Two namespaces whose names overlap: `a` with `b__c` and `a__b__c` as a custom tool would be
refused, `a` with `b__c` and `a__b` with `d` are not. -/
theorem bridged_names_reversible_underscores :
    ∃ ctx, requestScopedOpenaiCustomBridgeContext
        [.namespaceOf "a" none [functionTool "b__c" (.ofFields [("name", .string "b__c")])],
          .namespaceOf "a__b" none [functionTool "d" (.ofFields [("name", .string "d")])]] =
          some ctx ∧ ComesBack .still ctx "a" "b__c" := by
  refine (bridged_names_reversible .still ?_ (by decide) (by decide)).2 "a" "b__c" (by decide)
  intro tool htool
  rcases List.mem_cons.mp htool with rfl | htool
  · exact ⟨.ofFields [("type", .string "namespace"), ("name", .string "a"), ("tools", .array
      [.ofFields [("type", .string "function"), ("name", .string "b__c")]])], by rfl⟩
  obtain rfl := List.mem_singleton.mp htool
  exact ⟨.ofFields [("type", .string "namespace"), ("name", .string "a__b"), ("tools", .array
    [.ofFields [("type", .string "function"), ("name", .string "d")]])], by rfl⟩

end

end LlmUniversalProxy.Server
