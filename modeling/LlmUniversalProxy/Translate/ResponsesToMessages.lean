import LlmUniversalProxy.Translate.OpenaiToClaude
import LlmUniversalProxy.Translate.ResponsesTranscript

/-!
# `Translate.ResponsesToMessages` — a request of Responses as one of Chat

Beside the history a request has its instructions, its tools and its controls, and each target has
the controls it shares with Responses. What becomes of the history depends on the history alone, as
long as the rest of the request can be translated.

The source is `translate/internal/openai_responses.rs` 734-1268 and 1726-1873, and `tools.rs`
321-386 and 1523-1601.
-/

set_option autoImplicit false

namespace LlmUniversalProxy.Translate

open Json Lib

/-! ## Controls -/

/-- `SharedControlProfile`. -/
structure SharedControlProfile where
  metadata : Bool := false
  user : Bool := false
  serviceTier : Bool := false
  streamIncludeObfuscation : Bool := false
  verbosity : Bool := false
  reasoningEffort : Bool := false
  promptCacheKey : Bool := false
  promptCacheRetention : Bool := false
  safetyIdentifier : Bool := false
  topLogprobs : Bool := false
  parallelToolCalls : Bool := false
  logitBias : Bool := false

/-- `shared_control_profile_for_target`. -/
def sharedControlProfileForTarget : UpstreamFormat → SharedControlProfile
  | .openAiChatCompletions => ⟨true, true, true, true, true, true, true, true, true, true, true, true⟩
  | .openAiResponses => ⟨true, true, true, true, true, true, true, true, true, true, true, false⟩
  | .anthropic => { metadata := true, parallelToolCalls := true }

/-- `insert_stream_include_obfuscation`. -/
def insertStreamIncludeObfuscation (object includeObfuscation : Value) : Value :=
  let streamOptions := (object.get "stream_options").getD (.ofFields [])
  if streamOptions.isObject then
    object.set "stream_options" (streamOptions.set "include_obfuscation" includeObfuscation)
  else object

/-! ## Tools -/

/-- `openai_named_tool_choice_name`. -/
def openaiNamedToolChoiceName (value : Value) (toolType : String) : Option String :=
  if value.getStr "type" ≠ some toolType then none
  else
    (((((value.get toolType).filter Value.isObject).bind (Value.get · "name")).or
      (value.get "name")).bind Value.asStr).filter fun name => !name.isEmpty

def openaiFunctionChoice (name : Value) : Value :=
  .ofFields [("type", .string "function"), ("function", .ofFields [("name", name)])]

def openaiCustomChoice (name : Value) : Value :=
  .ofFields [("type", .string "custom"), ("custom", .ofFields [("name", name)])]

def flatNamesOf (entries : List (String × NamespaceBridgeContextEntry)) (ns : String) :
    List String :=
  (entries.filter fun entry => entry.2.namespaceName = ns).map Prod.fst

/-- A tool that `allowed_tools` selects. -/
def convertAllowedTool (targetFormat : UpstreamFormat)
    (entries : List (String × NamespaceBridgeContextEntry)) (tool : Value) :
    Except String (List Value) :=
  let checkName : Except String Unit :=
    match tool.getStr "name" with
    | some name => validatePublicToolNameNotReserved name
    | none => pure ()
  match tool.getStr "type" with
  | some "function" =>
      match tool.get "name" with
      | some name => checkName.map fun _ => [openaiFunctionChoice name]
      | none => pure [tool]
  | some "custom" =>
      if bridgesTools targetFormat then
        match tool.getStr "name" with
        | some name => checkName.map fun _ => [openaiFunctionChoice (.string name)]
        | none => pure [tool]
      else
        match tool.get "name" with
        | some name => checkName.map fun _ => [openaiCustomChoice name]
        | none => pure [tool]
  | some "namespace" =>
      match tool.getStr "name" with
      | some ns =>
          if bridgesTools targetFormat then
            pure ((flatNamesOf entries ns).map fun flat => openaiFunctionChoice (.string flat))
          else pure [tool]
      | none => pure [tool]
  | _ => pure [tool]

/-- `responses_tool_choice_to_openai_tool_choice` (`openai_responses.rs` 1726-1873). -/
def responsesToolChoiceToOpenaiToolChoice (choice : Value) (targetFormat : UpstreamFormat)
    (entries : List (String × NamespaceBridgeContextEntry)) : Except String (Option Value) :=
  match choice with
  | .string text => pure (some (.string text))
  | choice =>
      match choice.getStr "type" with
      | some "function" =>
          match (choice.get "name").or ((choice.get "function").bind (Value.get · "name")) with
          | none => pure none
          | some name => do
              match name.asStr with
              | some name => validatePublicToolNameNotReserved name
              | none => pure ()
              pure (some (openaiFunctionChoice name))
      | some "custom" =>
          match openaiNamedToolChoiceName choice "custom" with
          | none => pure none
          | some name => do
              validatePublicToolNameNotReserved name
              pure (some (if bridgesTools targetFormat then openaiFunctionChoice (.string name)
                else openaiCustomChoice (.string name)))
      | some "allowed_tools" =>
          match choice.get "mode", choice.getArray "tools" with
          | some mode, some tools => do
              let converted ← tools.mapM (convertAllowedTool targetFormat entries)
              pure (some (.ofFields [("type", .string "allowed_tools"),
                ("allowed_tools", .ofFields [("mode", mode), ("tools", .array converted.flatten)])]))
          | _, _ => pure none
      | some "namespace" =>
          match choice.getStr "name" with
          | none => pure none
          | some ns =>
              if !bridgesTools targetFormat then pure none
              else
                match flatNamesOf entries ns with
                | [name] => do
                    validatePublicToolNameNotReserved name
                    pure (some (openaiFunctionChoice (.string name)))
                | _ => pure none
      | _ => pure none

/-- `openai_custom_tool_string_constraint_format_parts` (`translate/internal/tools.rs` 321-347). -/
def openaiCustomToolStringConstraintFormatParts (format : Option Value) :
    Option (String × String) :=
  let parts (value : Value) : Option (String × String) := do
    let syntaxName ← (value.getStr "syntax").filter fun text => !text.isEmpty
    let definition ← ((value.getStr "definition").map Text.trim).filter fun text => !text.isEmpty
    pure (syntaxName, definition)
  format.bind fun format =>
    if format.getStr "type" ≠ some "grammar" then none
    else (parts format).or ((format.get "grammar").bind parts)

/-- `openai_custom_tool_bridge_description_for_target` (`translate/internal/tools.rs` 354-386). -/
def openaiCustomToolBridgeDescriptionForTarget (targetFormat : UpstreamFormat)
    (description format : Option Value) : Option Value :=
  match openaiCustomToolStringConstraintFormatParts format with
  | none => description
  | some (syntaxName, definition) =>
      let targetLabel := translationTargetLabel targetFormat
      let bridged := (description.bind Value.asStr).getD ""
      let bridged := if bridged.isEmpty then bridged else bridged ++ "\n\n"
      some (.string (bridged ++
        s!"Bridge note: {targetLabel} receives this tool through the canonical `\x7b \"input\": " ++
        "string \x7d` wrapper. The original OpenAI custom tool constrained that single string " ++
        "input with the following format contract. " ++
        s!"{targetLabel} will not enforce it structurally, so follow it exactly.\n" ++
        s!"syntax: {syntaxName}\n" ++ definition))

/-- `normalized_tool_definition_to_openai` (`translate/internal/tools.rs` 1523-1565). -/
def normalizedToolDefinitionToOpenai : NormalizedOpenAiFamilyToolDef → Except String Value
  | .function function =>
      let payload := setSome "strict" function.strict (setSome "parameters" function.parameters
        (setSome "description" function.description (.ofFields [("name", .string function.name)])))
      .ok (.ofFields [("type", .string "function"), ("function", payload)])
  | .namespaceOf _ _ _ => .error
      "OpenAI Responses namespace tool definitions must be flattened before conversion."
  | .custom custom =>
      let payload := setSome "format" custom.format
        (setSome "description" custom.description (.ofFields [("name", .string custom.name)]))
      .ok (.ofFields [("type", .string "custom"), ("custom", payload)])

/-- The schema of the wrapper that a custom tool gets. -/
def customToolInputSchema : Value :=
  .ofFields [("type", .string "object"),
    ("properties", .ofFields [("input", .ofFields [("type", .string "string")])]),
    ("required", .array [.string "input"]), ("additionalProperties", .bool false)]

/-- `normalized_tool_definition_to_openai_with_request_scoped_custom_bridge`
(`translate/internal/tools.rs` 1567-1601). -/
def normalizedToolDefinitionToBridgedOpenai (targetFormat : UpstreamFormat) :
    NormalizedOpenAiFamilyToolDef → Except String Value
  | .custom custom =>
      let description := openaiCustomToolBridgeDescriptionForTarget targetFormat
        custom.description custom.format
      .ok (.ofFields [("type", .string "function"), ("function",
        setSome "description" description (.ofFields [("name", .string custom.name),
          ("parameters", customToolInputSchema)]))])
  | tool => normalizedToolDefinitionToOpenai tool

def flattenNamespaceTool : NormalizedOpenAiFamilyToolDef → List NormalizedOpenAiFamilyToolDef
  | .namespaceOf name _ children => children.map fun child =>
      .function { child with name := flatToolName name child.name }
  | tool => [tool]

/-- The conflicts that are looked for before tools are bridged. -/
def checkBridgeConflicts (targetFormat : UpstreamFormat)
    (tools : List NormalizedOpenAiFamilyToolDef) : Except String Unit := do
  match requestScopedOpenaiCustomBridgeConflictName tools with
  | some name => throw <| "OpenAI Responses function/custom tools using the same stable name " ++
      s!"`{name}` cannot be faithfully translated to {translationTargetLabel targetFormat}."
  | none => pure ()
  match requestScopedOpenaiNamespaceBridgeConflictName tools with
  | some name => do
      validatePublicToolNameNotReserved name
      throw <| s!"OpenAI Responses tool name `{name}` collides with a namespace bridge flattened " ++
        s!"name and cannot be faithfully translated to {translationTargetLabel targetFormat}."
  | none => pure ()

/-- The tools of the result, and the context that says how they were bridged. -/
def convertResponsesTools (targetFormat : UpstreamFormat) (body : Value) :
    Except String (List Value × Option ToolBridgeContext) := do
  if (body.get "tools").isNone then pure ([], none)
  else
    let tools ← normalizedResponsesToolDefinitionsFromRequest body
    if bridgesTools targetFormat then checkBridgeConflicts targetFormat tools
    let converted ← (tools.flatMap flattenNamespaceTool).mapM fun tool =>
      if bridgesTools targetFormat then normalizedToolDefinitionToBridgedOpenai targetFormat tool
      else normalizedToolDefinitionToOpenai tool
    pure (converted, if bridgesTools targetFormat then requestScopedOpenaiCustomBridgeContext tools
      else none)

/-! ## The request -/

/-- `validate_responses_request_for_custom_bridge` (`openai_responses.rs` 734-754). -/
def validateResponsesRequestForCustomBridge (env : Env) (body : Value) : Except String Unit := do
  validateResponsesPublicToolMetadataIdentity body
  let tools ← normalizedResponsesToolDefinitionsFromRequest body
  (functionNames tools).forM validatePublicToolNameNotReserved
  ((body.getArray "input").getD []).forM fun item => do
    match ← normalizedResponsesToolCall env item with
    | some call => if call.custom then pure () else validatePublicToolNameNotReserved call.name
    | none => pure ()

def inputItems (body : Value) : Except String (List Value) := do
  match ← okOr (body.get "input") "missing input" with
  | .string text => pure [.ofFields [("type", .string "message"), ("role", .string "user"),
      ("content", .array [.ofFields [("type", .string "input_text"), ("text", .string text)]])]]
  | .array items => pure items
  | _ => throw "input must be array or string"

def instructionMessages (body : Value) : List Value :=
  ((body.getStr "instructions").map fun text => chatMessage "system" (.string text)).toList

/-- The result of `responses_to_messages`, from the parts that can be refused. -/
def chatRequest (targetFormat : UpstreamFormat) (controls : NormalizedRequestControls)
    (body : Value) (messages : List Value) (toolChoice : Option Value) (tools : List Value)
    (bridgeContext : Option ToolBridgeContext) : Value :=
  let profile := sharedControlProfileForTarget targetFormat
  let shared (has : Bool) (value : Option Value) : Option Value := if has then value else none
  let out := Value.ofFields [("messages", .array messages)]
  let out := setSome "model" (body.get "model") out
  let out := setSome "stream" (body.get "stream") out
  let out := setSome "max_completion_tokens" (body.get "max_output_tokens") out
  let out := setSome "temperature" (body.get "temperature") out
  let out := setSome "top_p" (body.get "top_p") out
  let out := setSome "logprobs" (shared profile.topLogprobs ((controls.logprobs.filter
    fun logprobs => logprobs.enabled || logprobs.topLogprobs.isSome).map fun _ => .bool true)) out
  let out := setSome "tool_choice" toolChoice out
  let out := setSome "parallel_tool_calls"
    (shared profile.parallelToolCalls controls.parallelToolCalls) out
  let out := setSome "metadata" (shared profile.metadata controls.metadata) out
  let out := setSome "user" (shared profile.user controls.user) out
  let out := setSome "service_tier" (shared profile.serviceTier controls.serviceTier) out
  let out := match shared profile.streamIncludeObfuscation controls.streamIncludeObfuscation with
    | some includeObfuscation => insertStreamIncludeObfuscation out includeObfuscation
    | none => out
  let out := setSome "verbosity" (shared profile.verbosity controls.verbosity) out
  let out := setSome "reasoning_effort"
    (shared profile.reasoningEffort controls.reasoningEffort) out
  let out := setSome "prompt_cache_key" (shared profile.promptCacheKey controls.promptCacheKey) out
  let out := setSome "prompt_cache_retention"
    (shared profile.promptCacheRetention controls.promptCacheRetention) out
  let out := setSome "safety_identifier"
    (shared profile.safetyIdentifier controls.safetyIdentifier) out
  let out := setSome "top_logprobs" (shared profile.topLogprobs
    (controls.logprobs.bind NormalizedLogprobsControls.topLogprobs)) out
  let out := setSome "response_format"
    (controls.outputShape.map normalizedOutputShapeToOpenaiResponseFormat) out
  let out := setSome "extra_body" (shared (targetFormat = .anthropic)
    (controls.anthropicCacheControl.map fun cacheControl => .ofFields [("anthropic",
      .ofFields [("cache_control", cacheControl)])])) out
  let out := setSome "tools" (nonempty tools) out
  setSome requestScopedToolBridgeContextField (bridgeContext.map ToolBridgeContext.toValue) out

/-- The `tool_choice` of the result. -/
def convertResponsesToolChoice (targetFormat : UpstreamFormat)
    (entries : List (String × NamespaceBridgeContextEntry)) (body : Value) :
    Except String (Option Value) :=
  match body.get "tool_choice" with
  | some toolChoice => responsesToolChoiceToOpenaiToolChoice toolChoice targetFormat entries
  | none => pure none

/-- `responses_to_messages` (`openai_responses.rs` 756-1268). -/
def responsesToMessages (env : TranslationEnv) (targetFormat : UpstreamFormat) (body : Value) :
    Except String Value := do
  if bridgesTools targetFormat then validateResponsesRequestForCustomBridge env.toEnv body
  let entries ← namespaceBridgeEntries targetFormat body
  let controls ← responsesNormalizedRequestControls body
  let items ← inputItems body
  let messages ← responsesItemsToMessages env targetFormat entries items
  let toolChoice ← convertResponsesToolChoice targetFormat entries body
  let (tools, bridgeContext) ← convertResponsesTools targetFormat body
  pure (chatRequest targetFormat controls body (instructionMessages body ++ messages) toolChoice
    tools bridgeContext)

/-! ## The rest of the request -/

section

variable {body body' : Value} (hsame : ∀ k, k ≠ "input" → body.get k = body'.get k)

include hsame

theorem controls_congr :
    responsesNormalizedRequestControls body = responsesNormalizedRequestControls body' := by
  unfold responsesNormalizedRequestControls responsesNormalizedOutputShape
    validatedOpenaiExtraBodyAnthropicCacheControl openaiExtraBodyAnthropicCacheControl
    responsesNormalizedLogprobsControls responsesIncludeRequestsOutputTextLogprobs
    requestStreamIncludeObfuscation Value.getArray
  simp (disch := decide) only [hsame]

theorem toolDefinitions_congr : normalizedResponsesToolDefinitionsFromRequest body =
    normalizedResponsesToolDefinitionsFromRequest body' := by
  unfold normalizedResponsesToolDefinitionsFromRequest toolDefinitions Value.getArray
  simp (disch := decide) only [hsame]

theorem namespaceEntries_congr (targetFormat : UpstreamFormat) :
    namespaceBridgeEntries targetFormat body = namespaceBridgeEntries targetFormat body' := by
  unfold namespaceBridgeEntries
  rw [hsame "tools" (by decide), toolDefinitions_congr hsame]

theorem convertTools_congr (targetFormat : UpstreamFormat) :
    convertResponsesTools targetFormat body = convertResponsesTools targetFormat body' := by
  unfold convertResponsesTools
  rw [hsame "tools" (by decide), toolDefinitions_congr hsame]

theorem metadataIdentity_congr : validateResponsesPublicToolMetadataIdentity body =
    validateResponsesPublicToolMetadataIdentity body' := by
  unfold validateResponsesPublicToolMetadataIdentity Value.getArray
  simp (disch := decide) only [hsame]

end

/-! ## The history -/

/-- The check that one item of the input has to pass. -/
def checkCallName (env : Env) (item : Value) : Except String Unit := do
  match ← normalizedResponsesToolCall env item with
  | some call => if call.custom then pure () else validatePublicToolNameNotReserved call.name
  | none => pure ()

section

variable {targetFormat : UpstreamFormat} {controls : NormalizedRequestControls} {body : Value}
  {messages tools : List Value} {toolChoice : Option Value}
  {bridgeContext : Option ToolBridgeContext}

theorem get_insertStreamIncludeObfuscation {k : String} (h : k ≠ "stream_options")
    (object includeObfuscation : Value) :
    (insertStreamIncludeObfuscation object includeObfuscation).get k = object.get k := by
  unfold insertStreamIncludeObfuscation
  dsimp only
  split
  · exact Value.get_set_of_ne object _ h
  · rfl

theorem get_chatRequest_messages : (chatRequest targetFormat controls body messages toolChoice tools
    bridgeContext).getArray "messages" = some messages := by
  have hget : (chatRequest targetFormat controls body messages toolChoice tools
      bridgeContext).get "messages" = some (.array messages) := by
    unfold chatRequest
    iterate 10 rw [get_setSome_of_ne (by decide)]
    split
    · rw [get_insertStreamIncludeObfuscation (by decide)]
      iterate 11 rw [get_setSome_of_ne (by decide)]
      rw [Value.get_ofFields]
      rfl
    · iterate 11 rw [get_setSome_of_ne (by decide)]
      rw [Value.get_ofFields]
      rfl
  rw [Value.getArray, hget]
  rfl

end

/-- A request whose items can be translated is translated when another one is that has the same
fields, but for its input. -/
theorem responsesToMessages_items (env : TranslationEnv) {body rest other : Value}
    {items : List Value} {P : List Value → Prop}
    (hsame : ∀ k, k ≠ "input" → rest.get k = body.get k)
    (hother : responsesToMessages env .openAiChatCompletions rest = .ok other)
    (hinput : body.get "input" = some (.array items))
    (hnames : items.forM (checkCallName env.toEnv) = .ok ())
    (hitems : ∀ entries, ∃ messages,
      responsesItemsToMessages env .openAiChatCompletions entries items = .ok messages ∧ P messages) :
    ∃ out messages, responsesToMessages env .openAiChatCompletions body = .ok out ∧
      out.getArray "messages" = some (instructionMessages body ++ messages) ∧ P messages := by
  unfold responsesToMessages at hother ⊢
  obtain ⟨_, hvalid, hother⟩ := Result.bind_ok.mp hother
  obtain ⟨entries, hentries, hother⟩ := Result.bind_ok.mp hother
  obtain ⟨controls, hcontrols, hother⟩ := Result.bind_ok.mp hother
  obtain ⟨_, -, hother⟩ := Result.bind_ok.mp hother
  obtain ⟨_, -, hother⟩ := Result.bind_ok.mp hother
  obtain ⟨toolChoice, hchoice, hother⟩ := Result.bind_ok.mp hother
  obtain ⟨converted, htools, -⟩ := Result.bind_ok.mp hother
  rw [namespaceEntries_congr hsame] at hentries
  rw [controls_congr hsame] at hcontrols
  rw [convertTools_congr hsame] at htools
  have hchoice' : convertResponsesToolChoice .openAiChatCompletions entries body =
      .ok toolChoice := by
    rw [← hchoice]
    unfold convertResponsesToolChoice
    rw [hsame "tool_choice" (by decide)]
  obtain ⟨messages, hmessages, hP⟩ := hitems entries
  refine ⟨_, messages, Result.bind_ok.mpr ⟨(), ?_, Result.bind_ok.mpr ⟨entries, hentries,
    Result.bind_ok.mpr ⟨controls, hcontrols, Result.bind_ok.mpr ⟨items, ?_,
    Result.bind_ok.mpr ⟨messages, hmessages, Result.bind_ok.mpr ⟨toolChoice, hchoice',
    Result.bind_ok.mpr ⟨converted, htools, rfl⟩⟩⟩⟩⟩⟩⟩, get_chatRequest_messages, hP⟩
  · unfold validateResponsesRequestForCustomBridge at hvalid ⊢
    obtain ⟨_, hmetadata, hvalid⟩ := Result.bind_ok.mp hvalid
    obtain ⟨definitions, hdefinitions, hvalid⟩ := Result.bind_ok.mp hvalid
    obtain ⟨_, hpublic, -⟩ := Result.bind_ok.mp hvalid
    rw [metadataIdentity_congr hsame] at hmetadata
    rw [toolDefinitions_congr hsame] at hdefinitions
    have harray : (body.getArray "input").getD [] = items := by rw [Value.getArray, hinput]; rfl
    exact Result.bind_ok.mpr ⟨(), hmetadata, Result.bind_ok.mpr ⟨definitions, hdefinitions,
      Result.bind_ok.mpr ⟨(), hpublic, by rw [harray]; exact hnames⟩⟩⟩
  · unfold inputItems
    rw [hinput]
    rfl

def callItem (id : String) : Value :=
  .ofFields [("type", .string "function_call"), ("call_id", .string id), ("name", .string "look"),
    ("arguments", .string "")]

end LlmUniversalProxy.Translate
