import LlmUniversalProxy.Translate.Response

/-!
# `Translate.ToolDefinitions` — the tools a request declares, and the names it may use

A tool definition of Chat and one of Responses are read into one form. A namespace of Responses is
kept only when all that it holds are functions. Whether a request may be taken at all is decided
over its definitions, its choice of a tool and the calls in its history: each format looks for names
in its own places, and none of them may be one of the proxy's own.

The source is `translate/internal/tools.rs` 1315-1521 and `translate/internal.rs` 885-984.
-/

set_option autoImplicit false

namespace LlmUniversalProxy.Translate

open Json Lib

/-! ## One form for both -/

/-- `NormalizedOpenAiFamilyFunctionTool`. -/
structure NormalizedOpenAiFamilyFunctionTool where
  name : String
  description : Option Value
  parameters : Option Value
  strict : Option Value

/-- `NormalizedOpenAiFamilyCustomTool`. -/
structure NormalizedOpenAiFamilyCustomTool where
  name : String
  description : Option Value
  format : Option Value

/-- `NormalizedOpenAiFamilyToolDef`. -/
inductive NormalizedOpenAiFamilyToolDef where
  | function (function : NormalizedOpenAiFamilyFunctionTool)
  | custom (custom : NormalizedOpenAiFamilyCustomTool)
  | namespaceOf (name : String) (description : Option String)
      (children : List NormalizedOpenAiFamilyFunctionTool)

/-- The function that `payload` describes under `name`. -/
def functionTool (name : String) (payload : Value) : NormalizedOpenAiFamilyFunctionTool :=
  { name := name, description := payload.get "description"
    parameters := payload.get "parameters", strict := payload.get "strict" }

/-- The custom tool that `payload` describes under `name`. -/
def customTool (name : String) (payload : Value) : NormalizedOpenAiFamilyCustomTool :=
  { name := name, description := payload.get "description", format := payload.get "format" }

/-- `openai_function_tool_payload`. -/
def openaiFunctionToolPayload (value : Value) : Option Value :=
  if value.getStr "type" ≠ some "function" then none
  else
    ((value.get "function").filter Value.isObject).or
      (if (value.get "name").isSome then some value else none)

/-- `normalized_openai_tool_definition` (`translate/internal/tools.rs` 1315-1357). -/
def normalizedOpenaiToolDefinition (tool : Value) :
    Except String (Option NormalizedOpenAiFamilyToolDef) := do
  validateOpenaiPublicToolIdentity tool
  match tool.getStr "type" with
  | some "function" =>
      match openaiFunctionToolPayload tool with
      | none => throw "OpenAI function tools require a `function` payload."
      | some payload => do
          let name ← requiredToolName (payload.getStr "name")
            "OpenAI function tools require a non-empty function name."
          pure (some (.function (functionTool name payload)))
  | some "custom" =>
      match openaiCustomToolPayload tool with
      | none => throw "OpenAI custom tools require a `custom` payload."
      | some payload => do
          let name ← requiredToolName (payload.getStr "name")
            "OpenAI custom tools require a non-empty custom name."
          pure (some (.custom (customTool name payload)))
  | _ => pure none

/-- The name of a tool of Responses: its own, or else that of the object under `field`. -/
def responsesToolName (tool : Value) (field : String) : Option String :=
  ((tool.get "name").or ((tool.get field).bind (Value.get · "name"))).bind Value.asStr

def namespaceChild (child : Value) : Except String NormalizedOpenAiFamilyFunctionTool := do
  let name ← requiredToolName (child.getStr "name")
    "OpenAI Responses namespace function tools require a non-empty name."
  pure (functionTool name child)

/-- `normalized_responses_tool_definition` (`translate/internal/tools.rs` 1359-1458). -/
def normalizedResponsesToolDefinition (tool : Value) :
    Except String (Option NormalizedOpenAiFamilyToolDef) := do
  validateResponsesPublicToolReferenceIdentity tool
  match tool.getStr "type" with
  | some "function" => do
      let name ← requiredToolName (responsesToolName tool "function")
        "OpenAI Responses function tools require a non-empty name."
      pure (some (.function (functionTool name tool)))
  | some "custom" => do
      let name ← requiredToolName (responsesToolName tool "custom")
        "OpenAI Responses custom tools require a non-empty name."
      pure (some (.custom (customTool name tool)))
  | some "namespace" => do
      let name ← requiredToolName (tool.getStr "name")
        "OpenAI Responses namespace tools require a non-empty name."
      match tool.getArray "tools" with
      | none => pure none
      | some children =>
          -- one child of another kind, and the whole namespace is dropped with a warning
          if children.all fun child => child.getStr "type" = some "function" then do
            let children ← children.mapM namespaceChild
            pure (some (.namespaceOf name (tool.getStr "description") children))
          else pure none
  | _ => pure none

/-- `openai_function_uses_canonical_custom_bridge_wrapper`. -/
def openaiFunctionUsesCanonicalCustomBridgeWrapper
    (function : NormalizedOpenAiFamilyFunctionTool) : Bool :=
  function.parameters = some (.ofFields [("type", .string "object"),
    ("properties", .ofFields [("input", .ofFields [("type", .string "string")])]),
    ("required", .array [.string "input"]), ("additionalProperties", .bool false)])

/-- A function that stands for a custom tool is taken for that tool again. -/
def unbridged (bridgeContext : Option ToolBridgeContext) :
    NormalizedOpenAiFamilyToolDef → NormalizedOpenAiFamilyToolDef
  | .function function =>
      if expectsWrapper bridgeContext function.name &&
          openaiFunctionUsesCanonicalCustomBridgeWrapper function then
        .custom { name := function.name, description := function.description, format := none }
      else .function function
  | other => other

/-- The definitions of a request, each read by `normalize`. -/
def toolDefinitions
    (normalize : Value → Except String (Option NormalizedOpenAiFamilyToolDef)) (body : Value) :
    Except String (List NormalizedOpenAiFamilyToolDef) :=
  (((body.getArray "tools").getD []).mapM normalize).map fun tools => tools.filterMap id

/-- `normalized_openai_tool_definitions_from_request_with_request_scoped_custom_bridge`. -/
def normalizedOpenaiToolDefinitionsFromRequest (body : Value)
    (bridgeContext : Option ToolBridgeContext) :
    Except String (List NormalizedOpenAiFamilyToolDef) :=
  (toolDefinitions normalizedOpenaiToolDefinition body).map fun tools =>
    tools.map (unbridged bridgeContext)

/-- `normalized_responses_tool_definitions_from_request`. -/
def normalizedResponsesToolDefinitionsFromRequest (body : Value) :
    Except String (List NormalizedOpenAiFamilyToolDef) :=
  toolDefinitions normalizedResponsesToolDefinition body

/-! ## What is read has a public name -/

/-- A name that a tool may be seen under. -/
def PublicName (name : String) : Prop :=
  name ≠ "" ∧ openaiResponsesCustomToolBridgePrefixIsReserved name = false

namespace NormalizedOpenAiFamilyToolDef

/-- The names of a definition are public, those of the children of a namespace included. -/
def IsPublic : NormalizedOpenAiFamilyToolDef → Prop
  | .function tool => PublicName tool.name
  | .custom tool => PublicName tool.name
  | .namespaceOf name _ children => PublicName name ∧ ∀ child ∈ children, PublicName child.name

end NormalizedOpenAiFamilyToolDef

theorem requiredToolName_ok {name : Option String} {missing text : String}
    (h : requiredToolName name missing = .ok text) : PublicName text := by
  unfold requiredToolName at h
  cases hname : name.filter fun name => !name.isEmpty with
  | none =>
    rw [hname] at h
    cases h
  | some found =>
    rw [hname] at h
    obtain ⟨_, hcheck, h⟩ := Result.bind_ok.mp h
    cases h
    obtain ⟨_, hempty⟩ := Option.filter_eq_some_iff.mp hname
    exact ⟨by simpa using hempty, nameNotReserved_ok.mp hcheck⟩

theorem publicName_of_child {child : Value} {function : NormalizedOpenAiFamilyFunctionTool}
    (h : namespaceChild child = .ok function) : PublicName function.name := by
  obtain ⟨name, hname, h⟩ := Result.bind_ok.mp h
  cases h
  exact requiredToolName_ok hname

theorem isPublic_of_responses {tool : Value} {read : NormalizedOpenAiFamilyToolDef}
    (h : normalizedResponsesToolDefinition tool = .ok (some read)) : read.IsPublic := by
  unfold normalizedResponsesToolDefinition at h
  obtain ⟨_, _, h⟩ := Result.bind_ok.mp h
  split at h
  · obtain ⟨name, hname, h⟩ := Result.bind_ok.mp h
    cases h
    exact requiredToolName_ok hname
  · obtain ⟨name, hname, h⟩ := Result.bind_ok.mp h
    cases h
    exact requiredToolName_ok hname
  · obtain ⟨name, hname, h⟩ := Result.bind_ok.mp h
    split at h
    · cases h
    · split at h
      · obtain ⟨functions, hfunctions, h⟩ := Result.bind_ok.mp h
        cases h
        refine ⟨requiredToolName_ok hname, ?_⟩
        intro function hmem
        obtain ⟨child, _, hchild⟩ := Result.exists_of_mem_mapM hfunctions hmem
        exact publicName_of_child hchild
      · cases h
  · cases h

/-! ## The names of a request -/

/-- `validate_openai_public_tool_choice_identity`. -/
def validateOpenaiPublicToolChoiceIdentity (choice : Value) : Except String Unit := do
  validatePublicSelectorVisibleIdentity choice
  validateOpenaiPublicToolIdentity choice
  ((selectedTools choice).getD []).forM validateOpenaiPublicToolIdentity

/-- A field is checked when it is there and is not `null`. -/
def checkField (body : Value) (field : String) (check : Value → Except String Unit) :
    Except String Unit :=
  match (body.get field).filter fun value => !value.isNull with
  | some value => check value
  | none => pure ()

/-- `validate_openai_legacy_function_definitions`: a definition is checked as a call is. -/
def validateOpenaiLegacyFunctionDefinitions (body : Value) : Except String Unit :=
  ((body.getArray "functions").getD []).forM validateOpenaiLegacyFunctionCallName

/-- `validate_openai_request_tool_names` (`internal.rs` 904-926). -/
def validateOpenaiRequestToolNames (body : Value) : Except String Unit := do
  let _ ← normalizedOpenaiToolDefinitionsFromRequest body
    (requestScopedToolBridgeContextFromBody body)
  validateOpenaiLegacyFunctionDefinitions body
  checkField body "tool_choice" validateOpenaiPublicToolChoiceIdentity
  checkField body "function_call" validateOpenaiLegacyFunctionCallName
  match body.get "allowed_tool_names" with
  | some names => validatePublicSelectorVisibleIdentity names
  | none => pure ()
  ((body.getArray "messages").getD []).forM validateOpenaiMessageToolCallNames

/-- `validate_responses_request_tool_names`. -/
def validateResponsesRequestToolNames (env : Env) (body : Value) : Except String Unit := do
  validateResponsesPublicToolMetadataIdentity body
  let _ ← normalizedResponsesToolDefinitionsFromRequest body
  checkField body "tool_choice" validateOpenaiPublicToolChoiceIdentity
  ((body.getArray "input").getD []).forM fun item => do
    let _ ← normalizedResponsesToolCall env item

/-- `validate_public_request_tool_names`. -/
def validatePublicRequestToolNames (env : Env) : UpstreamFormat → Value → Except String Unit
  | .openAiChatCompletions, body => validateOpenaiRequestToolNames body
  | .openAiResponses, body => validateResponsesRequestToolNames env body
  | .anthropic, body => validateAnthropicBodyToolNames body

end LlmUniversalProxy.Translate
