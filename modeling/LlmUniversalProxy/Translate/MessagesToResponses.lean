import LlmUniversalProxy.Translate.ResponsesToMessages

/-!
# `Translate.MessagesToResponses` — a request of Chat as one of Responses

Here a message is taken apart: its reasoning, its text and each of its calls become items of their
own, and a tool message becomes the output of a call. The rest of the request is changed where it
stands, and what only Chat has is taken away at the end.

The source is `translate/internal/openai_responses.rs` 1519-1724 and 1875-2099.
-/

set_option autoImplicit false

namespace LlmUniversalProxy.Translate

open Json Lib

/-! ## Tools -/

def responsesFunctionTool (function : NormalizedOpenAiFamilyFunctionTool) : Value :=
  setSome "strict" function.strict (setSome "parameters" function.parameters
    (setSome "description" function.description
      (.ofFields [("type", .string "function"), ("name", .string function.name)])))

/-- `normalized_tool_definition_to_responses` (`translate/internal/tools.rs` 1603-1667), which
`normalized_tool_definition_to_responses_with_request_scoped_custom_bridge` is as well. -/
def normalizedToolDefinitionToResponses : NormalizedOpenAiFamilyToolDef → Value
  | .function function => responsesFunctionTool function
  | .custom custom => setSome "format" custom.format (setSome "description" custom.description
      (.ofFields [("type", .string "custom"), ("name", .string custom.name)]))
  | .namespaceOf name description children =>
      (setSome "description" (description.map .string)
        (.ofFields [("type", .string "namespace"), ("name", .string name)])).set "tools"
          (.array (children.map responsesFunctionTool))

def responsesNamedTool (toolType : String) (name : Value) : Value :=
  .ofFields [("type", .string toolType), ("name", name)]

/-- The choice of a function, or of the custom tool that it stands for. -/
def chosenFunction (bridgeContext : Option ToolBridgeContext) (name : Value) :
    Except String Value :=
  match name.asStr with
  | none => pure (responsesNamedTool "function" name)
  | some text => do
      validatePublicToolNameNotReserved text
      pure (responsesNamedTool
        (if expectsWrapper bridgeContext text then "custom" else "function") name)

/-- A tool that `allowed_tools` selects. -/
def chosenAllowedTool (bridgeContext : Option ToolBridgeContext) (tool : Value) :
    Except String Value :=
  match tool.getStr "type" with
  | some "function" =>
      match (tool.get "name").or ((tool.get "function").bind (Value.get · "name")) with
      | some name => chosenFunction bridgeContext name
      | none => pure tool
  | some "custom" =>
      match (tool.get "name").or ((tool.get "custom").bind (Value.get · "name")) with
      | some name => do
          match name.asStr with
          | some text => validatePublicToolNameNotReserved text
          | none => pure ()
          pure (responsesNamedTool "custom" name)
      | none => pure tool
  | _ => pure tool

/-- `openai_tool_choice_to_responses_tool_choice` (`openai_responses.rs` 1882-2000). -/
def openaiToolChoiceToResponsesToolChoice (choice : Value)
    (bridgeContext : Option ToolBridgeContext) : Except String (Option Value) :=
  match choice with
  | .string text => pure (some (.string text))
  | choice =>
      match choice.getStr "type" with
      | some "function" =>
          match (choice.get "name").or ((choice.get "function").bind (Value.get · "name")) with
          | none => pure none
          | some name => (chosenFunction bridgeContext name).map some
      | some "custom" =>
          match openaiNamedToolChoiceName choice "custom" with
          | none => pure none
          | some name => do
              validatePublicToolNameNotReserved name
              pure (some (responsesNamedTool "custom" (.string name)))
      | some "allowed_tools" =>
          let allowedTools := (choice.get "allowed_tools").filter Value.isObject
          match allowedTools.bind (Value.get · "mode"),
              allowedTools.bind (Value.getArray · "tools") with
          | some mode, some tools => do
              let converted ← tools.mapM (chosenAllowedTool bridgeContext)
              pure (some (.ofFields [("type", .string "allowed_tools"), ("mode", mode),
                ("tools", .array converted)]))
          -- a choice of a wrong form is left out, and not refused
          | _, _ => pure none
      | _ => pure none

/-- `normalized_tool_policy_to_responses_tool_choice` (`openai_responses.rs` 2002-2055). -/
def normalizedToolPolicyToResponsesToolChoice (toolPolicy : NormalizedToolPolicy)
    (restrictedToolNames : Option (List String)) (bridgeContext : Option ToolBridgeContext) :
    Value :=
  let namedTool (name : String) : Value := responsesNamedTool
    (if expectsWrapper bridgeContext name then "custom" else "function") (.string name)
  let allowedTools (mode : String) (names : List String) : Value :=
    .ofFields [("type", .string "allowed_tools"), ("mode", .string mode),
      ("tools", .array (names.map namedTool))]
  match toolPolicy, restrictedToolNames with
  | .auto, some names => allowedTools "auto" names
  | .auto, none => .string "auto"
  | .none, _ => .string "none"
  | .required, some [name] => namedTool name
  | .required, some names => allowedTools "required" names
  | .required, none => .string "required"
  | .forcedFunction name, _ => namedTool name

/-! ## Controls -/

/-- `object[field][key] = value`, in an object that is there or is made. -/
def insertInto (field key : String) (object value : Value) : Value :=
  let nested := (object.get field).getD (.ofFields [])
  if nested.isObject then object.set field (nested.set key value) else object

/-- `insert_responses_text_verbosity`. -/
def insertResponsesTextVerbosity (object verbosity : Value) : Value :=
  insertInto "text" "verbosity" object verbosity

/-- `insert_responses_reasoning_effort`. -/
def insertResponsesReasoningEffort (object reasoningEffort : Value) : Value :=
  insertInto "reasoning" "effort" object reasoningEffort

/-- `insert_responses_include_item`. -/
def insertResponsesIncludeItem (object item : Value) : Value :=
  match (object.get "include").getD (.array []) with
  | .array items => object.set "include" (.array (if item ∈ items then items else items ++ [item]))
  | _ => object

/-- A change that is made when there is a value for it. -/
def insertSome (insert : Value → Value → Value) (value : Option Value) (object : Value) : Value :=
  match value with
  | some value => insert object value
  | none => object

/-- The `tool_choice` of the result. -/
def setResponsesToolChoice (controls : NormalizedRequestControls)
    (bridgeContext : Option ToolBridgeContext) (body : Value) : Except String Value :=
  match controls.toolPolicy with
  | some toolPolicy => pure (body.set "tool_choice" (normalizedToolPolicyToResponsesToolChoice
      toolPolicy controls.restrictedToolNames bridgeContext))
  | none =>
      match body.get "tool_choice" with
      | none => pure body
      | some toolChoice => do
          match ← openaiToolChoiceToResponsesToolChoice toolChoice bridgeContext with
          | some mapped => pure (body.set "tool_choice" mapped)
          | none => pure (body.remove "tool_choice")

/-- The controls that Responses has, each in its place. -/
def setResponsesControls (controls : NormalizedRequestControls) (body : Value) : Value :=
  let body := setSome "parallel_tool_calls" controls.parallelToolCalls body
  let body := setSome "max_output_tokens"
    ((body.get "max_completion_tokens").or (body.get "max_tokens")) body
  let body := setSome "text" (controls.outputShape.map fun outputShape =>
    .ofFields [("format", normalizedOutputShapeToResponsesTextFormat outputShape)]) body
  let body := setSome "metadata" controls.metadata body
  let body := setSome "user" controls.user body
  let body := setSome "service_tier" controls.serviceTier body
  let body := insertSome insertStreamIncludeObfuscation controls.streamIncludeObfuscation body
  let body := insertSome insertResponsesTextVerbosity controls.verbosity body
  let body := insertSome insertResponsesReasoningEffort controls.reasoningEffort body
  -- Responses has no switch for logprobs: they are asked for in `include`
  let body := insertSome insertResponsesIncludeItem ((controls.logprobs.filter
    fun logprobs => logprobs.enabled || logprobs.topLogprobs.isSome).map fun _ =>
      .string "message.output_text.logprobs") body
  let body := setSome "prompt_cache_key" controls.promptCacheKey body
  let body := setSome "prompt_cache_retention" controls.promptCacheRetention body
  let body := setSome "safety_identifier" controls.safetyIdentifier body
  setSome "top_logprobs" (controls.logprobs.bind NormalizedLogprobsControls.topLogprobs) body

def chatOnlyFields : List String :=
  ["instructions", "messages", "max_completion_tokens", "max_tokens", "response_format", "stop",
    "seed", "presence_penalty", "frequency_penalty", "logprobs", "logit_bias",
    "allowed_tool_names", "verbosity", "reasoning_effort", "prediction", "web_search_options", "n",
    "store", "modalities", "audio"]

def removeChatOnlyFields (body : Value) : Value := chatOnlyFields.foldl Value.remove body

/-! ## Messages -/

/-- `semantic_tool_output_item_type`. -/
def semanticToolOutputItemType : SemanticToolKind → String
  | .openAiCustom => "custom_tool_call_output"
  | .anthropicServerTool | .function => "function_call_output"

def toolResultPart (part : Value) : Except String Value :=
  if part.getStr "type" ≠ some "text" then
    let partType := (part.getStr "type").getD "unknown"
    .error <| "OpenAI tool message content arrays can only contain text parts when translating " ++
      s!"to OpenAI Responses tool output; found `{partType}`."
  else if (part.getArray "annotations").any fun annotations => !annotations.isEmpty then
    .error <| "OpenAI tool message text-part annotations cannot be faithfully translated to " ++
      "OpenAI Responses tool output."
  else .ok (.ofFields [("type", .string "input_text"),
    ("text", (part.get "text").getD (.string ""))])

/-- `openai_tool_result_content_to_responses_output`. -/
def openaiToolResultContentToResponsesOutput : Option Value → Except String Value
  | none => .ok (.string "")
  | some (.array parts) => (parts.mapM toolResultPart).map .array
  | some other => .ok other

/-- The variables of the loop of `messages_to_responses`. -/
structure ResponsesInput where
  input : List Value := []
  toolKindByCallId : List (String × SemanticToolKind) := []

namespace ResponsesInput

/-- `input.push(item)`. -/
def push (self : ResponsesInput) (item : Value) : ResponsesInput :=
  { self with input := self.input ++ [item] }

/-- The reasoning in front of a message of the assistant. -/
def addReasoning (self : ResponsesInput) (msg : Value) : ResponsesInput :=
  let reasoning := (msg.getStr "reasoning_content").filter fun text => !text.isEmpty
  { self with
    input := self.input ++ (responsesReasoningItem reasoning
      (openaiMessageAnthropicReasoningReplayBlocks msg)).toList }

def addContent (parseUrl : String → Option Url) (self : ResponsesInput) (role : String)
    (msg : Value) : Except String ResponsesInput := do
  let content ← openaiMessageToResponsesContent parseUrl msg
    (if role = "assistant" then "output_text" else "input_text")
  pure (if content.isEmpty then self
    else self.push (.ofFields [("type", .string "message"), ("role", .string role),
      ("content", .array content)]))

/-- One call of a message. -/
def addToolCall (env : Env) (bridgeContext : Option ToolBridgeContext) (self : ResponsesInput)
    (toolCall : Value) : Except String ResponsesInput := do
  let item ← openaiToolCallToResponsesItemDecodingCustomBridge env bridgeContext toolCall
  let kinds := match item.getStr "call_id" with
    | some callId => insertSorted callId (semanticToolKindFromValue env item) self.toolKindByCallId
    | none => self.toolKindByCallId
  pure { self.push item with toolKindByCallId := kinds }

/-- A tool message. -/
def addToolResult (env : Env) (self : ResponsesInput) (msg : Value) :
    Except String ResponsesInput := do
  let kind := ((msg.getStr "tool_call_id").bind (self.toolKindByCallId.lookup ·)).getD
    (semanticToolKindFromValue env msg)
  let output ← openaiToolResultContentToResponsesOutput (msg.get "content")
  pure (self.push (.ofFields [("type", .string (semanticToolOutputItemType kind)),
    ("call_id", .ofOption (msg.get "tool_call_id")), ("output", output)]))

/-- One round of the loop. -/
def addMessage (env : TranslationEnv) (bridgeContext : Option ToolBridgeContext)
    (self : ResponsesInput) (msg : Value) : Except String ResponsesInput :=
  let role := (msg.getStr "role").getD "user"
  match role with
  | "assistant" => do
      let self ← (self.addReasoning msg).addContent env.parseUrl role msg
      ((msg.getArray "tool_calls").getD []).foldlM (addToolCall env.toEnv bridgeContext) self
  | "system" | "developer" | "user" => self.addContent env.parseUrl role msg
  | "tool" => self.addToolResult env.toEnv msg
  | _ => pure self

end ResponsesInput

/-! ## The request -/

/-- The request with its input, from there on. -/
def responsesRequest (controls : NormalizedRequestControls)
    (bridgeContext : Option ToolBridgeContext) (body : Value) : Except String Value := do
  let normalizedTools ← normalizedOpenaiToolDefinitionsFromRequest body bridgeContext
  let body := setSome "tools"
    (nonempty (normalizedTools.map normalizedToolDefinitionToResponses)) body
  let body ← setResponsesToolChoice controls bridgeContext body
  pure (removeChatOnlyFields (setResponsesControls controls body))

/-- `messages_to_responses`. -/
def messagesToResponses (env : TranslationEnv) (body : Value) : Except String Value := do
  let controls ← openaiNormalizedRequestControls body
  let bridgeContext := requestScopedToolBridgeContextFromBody body
  let messages ← okOr (body.getArray "messages") "missing messages"
  let loop ← messages.foldlM (ResponsesInput.addMessage env bridgeContext) {}
  responsesRequest controls bridgeContext (body.set "input" (.array loop.input))

/-! ## The rest of the request -/

/-- Two requests that differ in their messages and their input at most. -/
structure SameRest (a b : Value) : Prop where
  left : a.isObject = true
  right : b.isObject = true
  get : ∀ k, k ≠ "messages" → k ≠ "input" → a.get k = b.get k

namespace SameRest

variable {a b : Value}

theorem set (h : SameRest a b) (k : String) (x : Value) : SameRest (a.set k x) (b.set k x) := by
  refine ⟨Value.isObject_set h.left k x, Value.isObject_set h.right k x, fun l hm hi => ?_⟩
  by_cases hl : l = k
  · rw [hl, Value.get_set_self h.left, Value.get_set_self h.right]
  · rw [Value.get_set_of_ne a x hl, Value.get_set_of_ne b x hl]
    exact h.get l hm hi

theorem setSome (h : SameRest a b) (k : String) (x : Option Value) :
    SameRest (Translate.setSome k x a) (Translate.setSome k x b) := by
  cases x with
  | none => exact h
  | some x => exact h.set k x

theorem remove (h : SameRest a b) (k : String) : SameRest (a.remove k) (b.remove k) := by
  have hobject : ∀ v : Value, v.isObject = true → (v.remove k).isObject = true := by
    intro v hv
    cases v with
    | object fields => rfl
    | _ => cases hv
  refine ⟨hobject a h.left, hobject b h.right, fun l hm hi => ?_⟩
  rw [Value.get_remove, Value.get_remove, h.get l hm hi]

theorem removeChatOnlyFields (h : SameRest a b) :
    SameRest (Translate.removeChatOnlyFields a) (Translate.removeChatOnlyFields b) := by
  unfold Translate.removeChatOnlyFields
  generalize chatOnlyFields = fields
  induction fields generalizing a b with
  | nil => exact h
  | cons field fields ih => exact ih (h.remove field)

theorem insertInto (h : SameRest a b) {field : String} (hm : field ≠ "messages")
    (hi : field ≠ "input") (key : String) (x : Value) :
    SameRest (Translate.insertInto field key a x) (Translate.insertInto field key b x) := by
  unfold Translate.insertInto
  rw [h.get field hm hi]
  dsimp only
  split
  · exact h.set field _
  · exact h

theorem insertStreamIncludeObfuscation (h : SameRest a b) (x : Value) :
    SameRest (Translate.insertStreamIncludeObfuscation a x)
      (Translate.insertStreamIncludeObfuscation b x) :=
  insertInto h (show "stream_options" ≠ "messages" by decide) (by decide) "include_obfuscation" x

theorem insertResponsesIncludeItem (h : SameRest a b) (x : Value) :
    SameRest (Translate.insertResponsesIncludeItem a x)
      (Translate.insertResponsesIncludeItem b x) := by
  unfold Translate.insertResponsesIncludeItem
  rw [h.get "include" (by decide) (by decide)]
  split
  · exact h.set "include" _
  · exact h

theorem insertSome (h : SameRest a b) {insert : Value → Value → Value}
    (hinsert : ∀ {a b : Value}, SameRest a b → ∀ x, SameRest (insert a x) (insert b x))
    (x : Option Value) :
    SameRest (Translate.insertSome insert x a) (Translate.insertSome insert x b) := by
  cases x with
  | none => exact h
  | some x => exact hinsert h x

theorem setResponsesControls (h : SameRest a b) (controls : NormalizedRequestControls) :
    SameRest (Translate.setResponsesControls controls a)
      (Translate.setResponsesControls controls b) := by
  unfold Translate.setResponsesControls
  dsimp only
  have hparallel := h.setSome "parallel_tool_calls" controls.parallelToolCalls
  rw [hparallel.get "max_completion_tokens" (by decide) (by decide),
    hparallel.get "max_tokens" (by decide) (by decide)]
  refine setSome (setSome (setSome (setSome ?_ _ _) _ _) _ _) _ _
  refine insertSome ?_ (fun h x => h.insertResponsesIncludeItem x) _
  refine insertSome ?_ (fun h x => h.insertInto (by decide) (by decide) "effort" x) _
  refine insertSome ?_ (fun h x => h.insertInto (by decide) (by decide) "verbosity" x) _
  refine insertSome ?_ (fun h x => h.insertStreamIncludeObfuscation x) _
  exact setSome (setSome (setSome (setSome (hparallel.setSome _ _) _ _) _ _) _ _) _ _

theorem setResponsesToolChoice (h : SameRest a b) {controls : NormalizedRequestControls}
    {bridgeContext : Option ToolBridgeContext} {out : Value}
    (hout : Translate.setResponsesToolChoice controls bridgeContext a = .ok out) :
    ∃ out', Translate.setResponsesToolChoice controls bridgeContext b = .ok out' ∧
      SameRest out out' := by
  unfold Translate.setResponsesToolChoice at hout ⊢
  rw [h.get "tool_choice" (by decide) (by decide)] at hout
  cases hpolicy : controls.toolPolicy with
  | some toolPolicy =>
    rw [hpolicy] at hout
    cases hout
    exact ⟨_, rfl, h.set "tool_choice" _⟩
  | none =>
    rw [hpolicy] at hout
    cases hchoice : b.get "tool_choice" with
    | none =>
      rw [hchoice] at hout
      cases hout
      exact ⟨_, rfl, h⟩
    | some toolChoice =>
      rw [hchoice] at hout
      obtain ⟨mapped, hmapped, hout⟩ := Result.bind_ok.mp hout
      cases mapped with
      | some mapped =>
        cases hout
        exact ⟨_, Result.bind_ok.mpr ⟨_, hmapped, rfl⟩, h.set "tool_choice" _⟩
      | none =>
        cases hout
        exact ⟨_, Result.bind_ok.mpr ⟨_, hmapped, rfl⟩, h.remove "tool_choice"⟩

/-- The rest decides whether the request is translated, and what becomes of it. -/
theorem responsesRequest (h : SameRest a b) {controls : NormalizedRequestControls}
    {bridgeContext : Option ToolBridgeContext} {out : Value}
    (hout : Translate.responsesRequest controls bridgeContext a = .ok out) :
    ∃ out', Translate.responsesRequest controls bridgeContext b = .ok out' ∧ SameRest out out' := by
  obtain ⟨tools, htools, hout⟩ := Result.bind_ok.mp hout
  obtain ⟨chosen, hchosen, hout⟩ := Result.bind_ok.mp hout
  cases hout
  have htools' : normalizedOpenaiToolDefinitionsFromRequest b bridgeContext = .ok tools := by
    rw [← htools]
    unfold normalizedOpenaiToolDefinitionsFromRequest toolDefinitions Value.getArray
    rw [h.get "tools" (by decide) (by decide)]
  have hbody := h.setSome "tools" (nonempty (tools.map normalizedToolDefinitionToResponses))
  obtain ⟨chosen', hchosen', hsame⟩ := hbody.setResponsesToolChoice hchosen
  exact ⟨_, Result.bind_ok.mpr ⟨tools, htools', Result.bind_ok.mpr ⟨chosen', hchosen', rfl⟩⟩,
    (hsame.setResponsesControls controls).removeChatOnlyFields⟩

end SameRest

/-! ## What the result has -/

theorem get_removeChatOnlyFields (body : Value) (k : String) :
    (removeChatOnlyFields body).get k = if k ∈ chatOnlyFields then none else body.get k := by
  unfold removeChatOnlyFields
  induction chatOnlyFields generalizing body with
  | nil => simp
  | cons field fields ih =>
    rw [List.foldl_cons, ih, Value.get_remove]
    by_cases hk : k = field
    · simp [hk]
    · simp [hk]

theorem get_insertInto_of_ne {field k : String} (h : k ≠ field) (key : String) (object x : Value) :
    (insertInto field key object x).get k = object.get k := by
  unfold insertInto
  dsimp only
  split
  · exact Value.get_set_of_ne object _ h
  · rfl

theorem get_insertSome_of_same {insert : Value → Value → Value} {k : String}
    (hinsert : ∀ object x : Value, (insert object x).get k = object.get k) (x : Option Value)
    (object : Value) : (insertSome insert x object).get k = object.get k := by
  cases x with
  | none => rfl
  | some x => exact hinsert object x

/-- The controls leave the input alone. -/
theorem get_setResponsesControls_input (controls : NormalizedRequestControls) (body : Value) :
    (setResponsesControls controls body).get "input" = body.get "input" := by
  have hinclude : ∀ object x : Value,
      (insertResponsesIncludeItem object x).get "input" = object.get "input" := by
    intro object x
    unfold insertResponsesIncludeItem
    split
    · exact Value.get_set_of_ne object _ (by decide)
    · rfl
  unfold setResponsesControls
  dsimp only
  iterate 4 rw [get_setSome_of_ne (by decide)]
  have heffort : ∀ object x : Value,
      (insertResponsesReasoningEffort object x).get "input" = object.get "input" :=
    fun object x => get_insertInto_of_ne (by decide) "effort" object x
  have hverbosity : ∀ object x : Value,
      (insertResponsesTextVerbosity object x).get "input" = object.get "input" :=
    fun object x => get_insertInto_of_ne (by decide) "verbosity" object x
  have hobfuscation : ∀ object x : Value,
      (insertStreamIncludeObfuscation object x).get "input" = object.get "input" :=
    fun object x => get_insertStreamIncludeObfuscation (by decide) object x
  rw [get_insertSome_of_same hinclude, get_insertSome_of_same heffort,
    get_insertSome_of_same hverbosity, get_insertSome_of_same hobfuscation]
  iterate 6 rw [get_setSome_of_ne (by decide)]

theorem get_responsesRequest {controls : NormalizedRequestControls}
    {bridgeContext : Option ToolBridgeContext} {body out : Value}
    (h : responsesRequest controls bridgeContext body = .ok out) :
    out.get "input" = body.get "input" ∧ ∀ k ∈ chatOnlyFields, out.get k = none := by
  obtain ⟨tools, -, h⟩ := Result.bind_ok.mp h
  obtain ⟨chosen, hchosen, h⟩ := Result.bind_ok.mp h
  cases h
  refine ⟨?_, fun k hk => by rw [get_removeChatOnlyFields, if_pos hk]⟩
  rw [get_removeChatOnlyFields, if_neg (by decide), get_setResponsesControls_input]
  have htools : (setSome "tools" (nonempty (tools.map normalizedToolDefinitionToResponses))
      body).get "input" = body.get "input" := get_setSome_of_ne (by decide) _ _
  rw [← htools]
  unfold setResponsesToolChoice at hchosen
  split at hchosen
  · cases hchosen
    exact Value.get_set_of_ne _ _ (by decide)
  · split at hchosen
    · cases hchosen
      rfl
    · obtain ⟨mapped, -, hchosen⟩ := Result.bind_ok.mp hchosen
      cases mapped with
      | some mapped =>
        cases hchosen
        exact Value.get_set_of_ne _ _ (by decide)
      | none =>
        cases hchosen
        rw [Value.get_remove]
        rfl

/-- **A request whose messages can be translated** is translated when it is without any, and the
results differ in their input alone. -/
theorem messagesToResponses_rest (env : TranslationEnv) {body rest : Value} {messages : List Value}
    {loop : ResponsesInput} (hmessages : body.get "messages" = some (.array messages))
    (hrest : messagesToResponses env (body.set "messages" (.array [])) = .ok rest)
    (hloop : messages.foldlM
      (ResponsesInput.addMessage env (requestScopedToolBridgeContextFromBody body)) {} = .ok loop) :
    ∃ out, messagesToResponses env body = .ok out ∧ out.get "input" = some (.array loop.input) ∧
      (∀ k, k ≠ "input" → rest.get k = out.get k) ∧ out.get "instructions" = none := by
  have hobject : body.isObject = true := Value.isObject_of_get hmessages
  have hsame : ∀ k, k ≠ "messages" → (body.set "messages" (.array [])).get k = body.get k :=
    fun k hk => Value.get_set_of_ne body _ hk
  unfold messagesToResponses at hrest ⊢
  obtain ⟨controls, hcontrols, hrest⟩ := Result.bind_ok.mp hrest
  obtain ⟨none, hnone, hrest⟩ := Result.bind_ok.mp hrest
  obtain ⟨empty, hempty, hrest⟩ := Result.bind_ok.mp hrest
  have hcontrols' : openaiNormalizedRequestControls body = .ok controls := by
    rw [← hcontrols]
    unfold openaiNormalizedRequestControls openaiNormalizedToolPolicy openaiNormalizedOutputShape
      openaiLegacyAllowedToolNames openaiDeclaredFunctionTools
      validatedOpenaiExtraBodyAnthropicCacheControl openaiExtraBodyAnthropicCacheControl
      openaiNormalizedLogprobsControls requestStreamIncludeObfuscation Value.getArray
    simp (disch := decide) only [hsame]
  have hcontext : requestScopedToolBridgeContextFromBody (body.set "messages" (.array [])) =
      requestScopedToolBridgeContextFromBody body := by
    unfold requestScopedToolBridgeContextFromBody
    rw [hsame _ (by decide)]
  rw [hcontext] at hrest
  have hbodies : SameRest ((body.set "messages" (.array [])).set "input" (.array empty.input))
      (body.set "input" (.array loop.input)) := by
    refine ⟨Value.isObject_set (Value.isObject_set hobject _ _) _ _, Value.isObject_set hobject _ _,
      fun k hm hi => ?_⟩
    rw [Value.get_set_of_ne _ _ hi, Value.get_set_of_ne _ _ hi, hsame k hm]
  obtain ⟨out, hout, hsame'⟩ := hbodies.responsesRequest hrest
  obtain ⟨hinput, hgone⟩ := get_responsesRequest hout
  have hread : okOr (body.getArray "messages") "missing messages" = .ok messages := by
    rw [Value.getArray, hmessages]
    rfl
  refine ⟨out, Result.bind_ok.mpr ⟨controls, hcontrols', Result.bind_ok.mpr ⟨messages, hread,
    Result.bind_ok.mpr ⟨loop, hloop, hout⟩⟩⟩, ?_, fun k hk => ?_, hgone _ (by decide)⟩
  · rw [hinput, Value.get_set_self hobject]
  · by_cases hk' : k = "messages"
    · rw [hk', hgone _ (by decide), (get_responsesRequest hrest).2 _ (by decide)]
    · exact hsame'.get k hk' hk

end LlmUniversalProxy.Translate
