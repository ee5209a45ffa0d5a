import LlmUniversalProxy.Translate.ToolIdentity

/-!
# `Translate.ToolBridge` — the bridge context of a request

A Responses client may use custom tools, and tools in namespaces, that a Chat or Anthropic upstream
does not know. They are sent as function tools, and the context that is kept with the request says
which ones: a custom tool by its name, a tool of a namespace by the name the two are joined to.

The source is `translate/internal/tools.rs` 394-711.
-/

set_option autoImplicit false

namespace LlmUniversalProxy.Translate

open Json Lib

/-- `ToolBridgeSourceKind`. -/
inductive ToolBridgeSourceKind where
  | customText
  | customGrammar
  deriving DecidableEq, Repr

namespace ToolBridgeSourceKind

/-- `ToolBridgeSourceKind::as_str`. -/
def asStr : ToolBridgeSourceKind → String
  | customText => "custom_text"
  | customGrammar => "custom_grammar"

/-- `ToolBridgeSourceKind::from_str`. -/
def fromStr : String → Option ToolBridgeSourceKind
  | "custom_text" => some customText
  | "custom_grammar" => some customGrammar
  | _ => none

end ToolBridgeSourceKind

/-- `ToolBridgeContextEntry`. The transport, the field of the wrapper and its shape are
enumerations with one member each, so there is nothing to keep of them. -/
structure ToolBridgeContextEntry where
  stableName : String
  sourceKind : ToolBridgeSourceKind
  deriving DecidableEq, Repr

namespace ToolBridgeContextEntry

/-- `ToolBridgeContextEntry::from_value` (`translate/internal/tools.rs` 496-522). -/
def fromValue (stableName : String) (value : Value) : Option ToolBridgeContextEntry :=
  if openaiResponsesCustomToolBridgePrefixIsReserved stableName then none
  else do
    let declaredStableName ← value.getStr "stable_name"
    if declaredStableName.isEmpty || declaredStableName ≠ stableName then none
    else
      let sourceKind ← (value.getStr "source_kind").bind ToolBridgeSourceKind.fromStr
      if value.getStr "transport_kind" ≠ some "function_object_wrapper" ||
          value.getStr "wrapper_field" ≠ some "input" ||
          value.getStr "expected_canonical_shape" ≠ some "single_required_string" then none
      else some ⟨stableName, sourceKind⟩

/-- `ToolBridgeContextEntry::to_value`. -/
def toValue (self : ToolBridgeContextEntry) : Value :=
  .ofFields [("stable_name", .string self.stableName),
    ("source_kind", .string self.sourceKind.asStr),
    ("transport_kind", .string "function_object_wrapper"), ("wrapper_field", .string "input"),
    ("expected_canonical_shape", .string "single_required_string")]

end ToolBridgeContextEntry

/-- `NamespaceBridgeContextEntry`. -/
structure NamespaceBridgeContextEntry where
  namespaceName : String
  child : String
  deriving DecidableEq, Repr

/-- The name that a tool of a namespace is sent under. -/
def flatToolName (namespaceName child : String) : String := s!"{namespaceName}__{child}"

namespace NamespaceBridgeContextEntry

/-- `NamespaceBridgeContextEntry::from_value`. -/
def fromValue (flatName : String) (value : Value) : Option NamespaceBridgeContextEntry := do
  let namespaceName ← value.getStr "namespace"
  let child ← value.getStr "child"
  if namespaceName.isEmpty || child.isEmpty then none
  else if flatName ≠ flatToolName namespaceName child then none
  else some ⟨namespaceName, child⟩

/-- `NamespaceBridgeContextEntry::to_value`. -/
def toValue (self : NamespaceBridgeContextEntry) : Value :=
  .ofFields [("namespace", .string self.namespaceName), ("child", .string self.child)]

end NamespaceBridgeContextEntry

/-- `ToolBridgeContext`: the two maps, as their entries in key order. Its version and its purpose
are constants. -/
structure ToolBridgeContext where
  entries : List (String × ToolBridgeContextEntry) := []
  namespaceEntries : List (String × NamespaceBridgeContextEntry) := []
  deriving DecidableEq, Repr

namespace ToolBridgeContext

/-- The entries of an object, each read by name and value; `none` when one cannot be read. -/
def entriesFrom {α : Type} (fromValue : String → Value → Option α) (value : Option Value) :
    Option (List (String × α)) :=
  ((value.bind Value.asObject).getD []).mapM fun field =>
    (fromValue field.1 field.2).map fun entry => (field.1, entry)

/-- `ToolBridgeContext::from_value` (`translate/internal/tools.rs` 595-628). -/
def fromValue (value : Value) : Option ToolBridgeContext :=
  if value.getU64 "version" ≠ some 3 ||
      value.getStr "purpose" ≠ some "openai_responses_custom_tool_bridge" then none
  else do
    let entries ← entriesFrom ToolBridgeContextEntry.fromValue (value.get "entries")
    let namespaceEntries ← entriesFrom NamespaceBridgeContextEntry.fromValue
      (value.get "namespace_entries")
    if entries.isEmpty && namespaceEntries.isEmpty then none
    else some ⟨entries, namespaceEntries⟩

/-- `ToolBridgeContext::to_value`. -/
def toValue (self : ToolBridgeContext) : Value :=
  .ofFields [("version", .nat 3), ("purpose", .string "openai_responses_custom_tool_bridge"),
    ("entries", .ofFields (self.entries.map fun e => (e.1, e.2.toValue))),
    ("namespace_entries", .ofFields (self.namespaceEntries.map fun e => (e.1, e.2.toValue)))]

/-- `ToolBridgeContext::expects_canonical_input_wrapper`: every entry says that it does. -/
def expectsCanonicalInputWrapper (self : ToolBridgeContext) (name : String) : Bool :=
  (self.entries.lookup name).isSome

/-- `ToolBridgeContext::namespace_bridge_split`. -/
def namespaceBridgeSplit (self : ToolBridgeContext) (flatName : String) :
    Option (String × String) :=
  (self.namespaceEntries.lookup flatName).map fun entry => (entry.namespaceName, entry.child)

end ToolBridgeContext

/-- `request_scoped_tool_bridge_context_from_body`. -/
def requestScopedToolBridgeContextFromBody (body : Value) : Option ToolBridgeContext :=
  (body.get requestScopedToolBridgeContextField).bind ToolBridgeContext.fromValue

/-- `request_scoped_openai_custom_bridge_expects_canonical_input_wrapper`. -/
def expectsWrapper (bridgeContext : Option ToolBridgeContext) (name : String) : Bool :=
  bridgeContext.any fun ctx => ctx.expectsCanonicalInputWrapper name

/-- `openai_responses_custom_tool_bridge_arguments`. -/
def openaiResponsesCustomToolBridgeArguments (input : String) : String :=
  (Value.ofFields [("input", .string input)]).toJson

/-- `openai_responses_custom_tool_input_from_bridge_value`. -/
def openaiResponsesCustomToolInputFromBridgeValue (value : Value) : Option String :=
  match value with
  | .object fields => if fields.length ≠ 1 then none else value.getStr "input"
  | _ => none

/-- `openai_responses_custom_tool_input_from_bridge_arguments`, of which only the success is
used. -/
def openaiResponsesCustomToolInputFromBridgeArguments (serde : Serde) (arguments : String) :
    Option String :=
  (fromStr serde arguments).bind openaiResponsesCustomToolInputFromBridgeValue

end LlmUniversalProxy.Translate
