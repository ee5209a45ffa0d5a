import LlmUniversalProxy.Server.BridgeTurn
import LlmUniversalProxy.Translate.Request

/-!
# `Server.RequestProcessing` — when the bytes of a request may go through as they are

Before a request is translated it is classified: where translating it would change nothing, the
bytes of the client are sent on and the body is not built anew. The classification does not
translate; it asks, one by one, whether one of the things a translation may do would be done. So it
has its own copies of those questions, and the proxy has a second set of copies for the policy of
the route. Each copy is under its own name here, and agrees with the original.

Whether the request may be sent at all is not asked by the classification. The proxy does that on
either path: it assesses the request against the surface of the model first, and checks the names of
its tools before it sends the bytes or while it translates.

The source is `request_processing.rs`, `server/proxy.rs` 3054-3228 and `prompt_cache_controls.rs`
274-305 and 581-650.
-/

set_option autoImplicit false

namespace LlmUniversalProxy.Server

open Json Lib
open Translate (RequestTranslationPolicy PairAssessment PairTranslation
  TranslationDecision translateRequestWithPolicy validatePublicRequestToolNames)

/-! ## Controls of a body -/

/-- `responses_stateful_request_controls`. -/
def responsesStatefulRequestControls (body : Value) : List String :=
  ["previous_response_id", "conversation", "background", "store", "prompt",
    "context_management"].filter fun field =>
      if field = "background" || field = "store" then providerStateControlEnabled (body.get field)
      else (body.get field).isSome

/-- `responses_stateful_request_controls_present`. -/
def responsesStatefulRequestControlsPresent (body : Value) : Bool :=
  !(responsesStatefulRequestControls body).isEmpty

/-- `PromptCacheRequestControl`. -/
inductive PromptCacheRequestControl where
  | none
  | preserved
  | explicitExtensionMapped
  | synthesized
  | dropped
  deriving DecidableEq, Repr

/-- `openai_family_prompt_cache_top_level_fields_present`. -/
def openaiFamilyPromptCacheTopLevelFieldsPresent (body : Value) : Bool :=
  (body.get "prompt_cache_key").isSome || (body.get "prompt_cache_retention").isSome

/-- `anthropic_extra_body_openai_prompt_cache_key_present`. -/
def anthropicExtraBodyOpenaiPromptCacheKeyPresent (body : Value) : Bool :=
  (((body.get "extra_body").bind (Value.get · "openai")).bind
    (Value.get · "prompt_cache_key")).isSome

/-- `anthropic_block_cache_control_present`. -/
def anthropicBlockCacheControlPresent (block : Value) : Bool := (block.get "cache_control").isSome

/-- `anthropic_protocol_cache_control_present`. -/
def anthropicProtocolCacheControlPresent (body : Value) : Bool :=
  (body.get "cache_control").isSome ||
    (Translate.contentParts (body.get "system")).any anthropicBlockCacheControlPresent ||
    ((body.getArray "messages").getD []).any (fun message =>
      ((message.getArray "content").getD []).any anthropicBlockCacheControlPresent) ||
    ((body.getArray "tools").getD []).any anthropicBlockCacheControlPresent

/-- `classify_provider_prompt_cache_request_control` (`prompt_cache_controls.rs` 274-305). -/
def classifyProviderPromptCacheRequestControl (clientFormat upstreamFormat : UpstreamFormat)
    (body : Value) : PromptCacheRequestControl :=
  let clientOpenai := Translate.openaiFamilyFormat clientFormat
  let upstreamOpenai := Translate.openaiFamilyFormat upstreamFormat
  if (clientOpenai && !upstreamOpenai && Translate.openaiExtraBodyAnthropicCacheControlPresent body) ||
      (!clientOpenai && upstreamOpenai && anthropicExtraBodyOpenaiPromptCacheKeyPresent body) then
    .explicitExtensionMapped
  else if (clientOpenai && !upstreamOpenai && openaiFamilyPromptCacheTopLevelFieldsPresent body) ||
      (!clientOpenai && upstreamOpenai && anthropicProtocolCacheControlPresent body) then
    .dropped
  else if (clientOpenai && upstreamOpenai && openaiFamilyPromptCacheTopLevelFieldsPresent body) ||
      (!clientOpenai && !upstreamOpenai && anthropicProtocolCacheControlPresent body) then
    .preserved
  else .none

/-! ## Classification -/

/-- `RequestProcessing`. -/
inductive RequestProcessing where
  | requestTransformationNotRequired
  | requestTransformationRequired
  deriving DecidableEq, Repr

/-- `StateBridgeModifier`. -/
inductive StateBridgeModifier where
  | off
  | captureCandidate
  | expanded
  deriving DecidableEq, Repr

/-- `RequestProcessingInfo`. -/
structure RequestProcessingInfo where
  requestProcessing : RequestProcessing
  zeroTransformForwardingActive : Bool
  stateBridge : StateBridgeModifier
  providerNativePromptCache : PromptCacheRequestControl
  deriving DecidableEq, Repr

/-- `RequestProcessingInput`. -/
structure RequestProcessingInput where
  clientFormat : UpstreamFormat
  upstreamFormat : UpstreamFormat
  body : Value
  requestedModel : String
  upstreamModel : String
  stream : Bool
  forcedStream : Bool
  routePolicyRequiresBodyMutation : Bool
  stateBridge : StateBridgeModifier

/-- `openai_chat_has_instruction_roles`. -/
def openaiChatHasInstructionRoles (body : Value) : Bool :=
  (body.getArray "messages").any fun messages => messages.any fun message =>
    message.getStr "role" = some "system" || message.getStr "role" = some "developer"

/-- `openai_string_message_role_if_coalescible`. -/
def openaiStringMessageRoleIfCoalescible (message : Value) : Option String := do
  let role ← message.getStr "role"
  let _ ← message.getStr "content"
  let fields ← message.asObject
  if fields.all fun field => field.1 = "role" || field.1 = "content" then some role else none

/-- `messages.windows(2).any(..)`. -/
def anyWindow (related : Value → Value → Bool) : List Value → Bool
  | left :: right :: rest => related left right || anyWindow related (right :: rest)
  | _ => false

/-- A pair of messages under one role that can be joined. -/
def coalesciblePair (left right : Value) : Bool :=
  match openaiStringMessageRoleIfCoalescible left with
  | none => false
  | some leftRole => openaiStringMessageRoleIfCoalescible right = some leftRole

/-- `openai_chat_has_adjacent_coalescible_string_messages`. -/
def openaiChatHasAdjacentCoalescibleStringMessages (body : Value) : Bool :=
  (body.getArray "messages").any (anyWindow coalesciblePair)

/-- `responses_input_has_developer_role`. -/
def responsesInputHasDeveloperRole (body : Value) : Bool :=
  (body.getArray "input").any fun items => items.any fun item =>
    item.getStr "type" = some "message" && item.getStr "role" = some "developer"

namespace RequestProcessingInput

/-- Both sides speak Responses, neither model is named, and the provider keeps some state. -/
def nativeResponsesModelLessStateful (self : RequestProcessingInput) : Bool :=
  self.clientFormat = .openAiResponses && self.upstreamFormat = .openAiResponses &&
    Text.isBlank self.requestedModel && Text.isBlank self.upstreamModel && self.body.isObject &&
    responsesStatefulRequestControlsPresent self.body

/-- `native_responses_model_less_stateful_passthrough_without_model_insertion`. -/
def passthroughWithoutModelInsertion (self : RequestProcessingInput) : Bool :=
  self.nativeResponsesModelLessStateful && (self.body.get "model").isNone

/-- `native_responses_model_less_stateful_model_removal`. -/
def modelRemoval (self : RequestProcessingInput) : Bool :=
  self.nativeResponsesModelLessStateful && (self.body.get "model").isSome

/-- `model_body_mutation_required`. -/
def modelBodyMutationRequired (self : RequestProcessingInput) : Bool :=
  if self.passthroughWithoutModelInsertion then false
  else if self.modelRemoval then true
  else if Text.trim self.requestedModel ≠ Text.trim self.upstreamModel then true
  else self.body.isObject && self.body.getStr "model" ≠ some self.upstreamModel

/-- `same_protocol_request_mutation_required` (`request_processing.rs` 159-174). -/
def sameProtocolRequestMutationRequired (self : RequestProcessingInput) : Bool :=
  if self.clientFormat ≠ self.upstreamFormat then false
  else
    match self.clientFormat with
    | .openAiChatCompletions =>
        openaiChatHasInstructionRoles self.body ||
          openaiChatHasAdjacentCoalescibleStringMessages self.body ||
          Text.startsWith self.upstreamModel "MiniMax-"
    | .openAiResponses => self.stream && responsesInputHasDeveloperRole self.body
    | .anthropic => false

/-- `request_transformation_required`. -/
def requestTransformationRequired (self : RequestProcessingInput) : Bool :=
  self.clientFormat ≠ self.upstreamFormat || self.stateBridge ≠ .off || self.forcedStream ||
    self.modelBodyMutationRequired || self.routePolicyRequiresBodyMutation ||
    self.sameProtocolRequestMutationRequired

end RequestProcessingInput

/-- `classify_request_processing` (`request_processing.rs` 88-106). -/
def classifyRequestProcessing (input : RequestProcessingInput) : RequestProcessingInfo where
  requestProcessing :=
    if input.requestTransformationRequired then .requestTransformationRequired
    else .requestTransformationNotRequired
  zeroTransformForwardingActive := false
  stateBridge := input.stateBridge
  providerNativePromptCache := classifyProviderPromptCacheRequestControl input.clientFormat
    input.upstreamFormat input.body

/-! ## The policy of the route -/

/-- `request_body_has_explicit_output_limit`. -/
def requestBodyHasExplicitOutputLimit (targetFormat : UpstreamFormat) (body : Value) : Bool :=
  match targetFormat with
  | .anthropic => (body.get "max_tokens").isSome
  | .openAiChatCompletions =>
      (body.get "max_completion_tokens").isSome || (body.get "max_tokens").isSome
  | .openAiResponses => (body.get "max_output_tokens").isSome

/-- `request_body_has_explicit_parallel_tool_calls_preference`. -/
def requestBodyHasExplicitParallelToolCallsPreference (targetFormat : UpstreamFormat)
    (body : Value) : Bool :=
  match targetFormat with
  | .anthropic => (((body.get "tool_choice").bind
      (Value.get · "disable_parallel_tool_use")).bind Value.asBool).isSome
  | _ => ((body.get "parallel_tool_calls").bind Value.asBool).isSome

/-- `request_body_has_tool_definitions`, the same for every format. -/
def requestBodyHasToolDefinitions (body : Value) : Bool :=
  (body.getArray "tools").any fun tools => !tools.isEmpty

/-- `request_translation_policy_default_output_limit_would_apply`. -/
def defaultOutputLimitWouldApply (targetFormat : UpstreamFormat) (body : Value)
    (policy : RequestTranslationPolicy) : Bool :=
  (policy.surface.limits.bind (·.maxOutputTokens)).isSome &&
    !requestBodyHasExplicitOutputLimit targetFormat body

/-- `request_translation_policy_parallel_tool_gate_would_apply`. -/
def parallelToolGateWouldApply (targetFormat : UpstreamFormat) (body : Value)
    (policy : RequestTranslationPolicy) : Bool :=
  policy.surface.tools.bind (·.supportsParallelCalls) = some false &&
    !requestBodyHasExplicitParallelToolCallsPreference targetFormat body &&
    requestBodyHasToolDefinitions body

/-- `request_translation_policy_requires_body_mutation`. -/
def requestTranslationPolicyRequiresBodyMutation (targetFormat : UpstreamFormat) (body : Value)
    (policy : RequestTranslationPolicy) : Bool :=
  defaultOutputLimitWouldApply targetFormat body policy ||
    parallelToolGateWouldApply targetFormat body policy

/-! ## The boundary -/

/-- `classify_request_boundary_with_policy`. -/
def classifyRequestBoundaryWithPolicy (assessPair : PairAssessment)
    (clientFormat upstreamFormat : UpstreamFormat) (body : Value)
    (policy : RequestTranslationPolicy) (resolvedUpstreamModel : String) (reasoningMapped : Bool) :
    TranslationDecision :=
  Translate.decision (Translate.assessRequestTranslationWithSurface assessPair clientFormat
    upstreamFormat body policy.surface resolvedUpstreamModel reasoningMapped)

/-- `reject_internal_request_scoped_tool_bridge_context`. -/
def rejectInternalRequestScopedToolBridgeContext (body : Value) : Option String :=
  if containsInternalContextField body then
    some s!"request must not include internal-only field `{requestScopedToolBridgeContextField}`"
  else none

/-- `validate_provider_forwarding_request_boundary`. -/
def validateProviderForwardingRequestBoundary (env : Env) (format : UpstreamFormat)
    (body : Value) : Except String Unit :=
  match rejectInternalRequestScopedToolBridgeContext body with
  | some message => .error message
  | none => validatePublicRequestToolNames env format body

/-! ## What is not required changes nothing -/

theorem roleIfCoalescible_eq (message : Value) :
    openaiStringMessageRoleIfCoalescible message =
      Translate.openaiStringMessageRoleIfCoalescible message := rfl

theorem coalesciblePair_eq (left right : Value) :
    coalesciblePair left right = Translate.sameCoalescibleRole left right := by
  unfold coalesciblePair Translate.sameCoalescibleRole
  simp only [roleIfCoalescible_eq]
  cases Translate.openaiStringMessageRoleIfCoalescible left with
  | none => rfl
  | some role => rfl

theorem anyWindow_eq (messages : List Value) :
    anyWindow coalesciblePair messages =
      Translate.anyAdjacent Translate.sameCoalescibleRole messages := by
  induction messages with
  | nil => rfl
  | cons left rest ih =>
    cases rest with
    | nil => rfl
    | cons right rest => rw [anyWindow, Translate.anyAdjacent, ih, coalesciblePair_eq]

section

variable {input : RequestProcessingInput} {policy : RequestTranslationPolicy}

/-- What the classification has ruled out when it says that nothing is required. -/
structure NothingRequired (input : RequestProcessingInput) : Prop where
  sameFormat : input.clientFormat = input.upstreamFormat
  model : input.modelBodyMutationRequired = false
  route : input.routePolicyRequiresBodyMutation = false
  sameProtocol : input.sameProtocolRequestMutationRequired = false

theorem nothingRequired
    (h : (classifyRequestProcessing input).requestProcessing = .requestTransformationNotRequired) :
    NothingRequired input := by
  have hfalse : input.requestTransformationRequired = false := by
    cases hrequired : input.requestTransformationRequired with
    | false => rfl
    | true => simp [classifyRequestProcessing, hrequired] at h
  simp only [RequestProcessingInput.requestTransformationRequired, Bool.or_eq_false_iff,
    decide_eq_false_iff_not, not_not] at hfalse
  obtain ⟨⟨⟨⟨⟨hformat, _⟩, _⟩, hmodel⟩, hroute⟩, hprotocol⟩ := hfalse
  exact ⟨hformat, hmodel, hroute, hprotocol⟩

/-- The policy of the route asks for nothing that the body does not have. -/
theorem defaults_eq_self {format : UpstreamFormat} {body : Value}
    (h : requestTranslationPolicyRequiresBodyMutation format body policy = false) :
    Translate.applyRequestTranslationPolicyDefaults format policy body = body := by
  obtain ⟨hlimit, hgate⟩ := Bool.or_eq_false_iff.mp h
  unfold Translate.applyRequestTranslationPolicyDefaults
  rw [Translate.defaultOutputLimit_eq_self]
  · exact Translate.parallelToolGate_eq_self hgate
  · rcases Bool.and_eq_false_iff.mp hlimit with hnone | hexplicit
    · exact .inl (Option.not_isSome_iff_eq_none.mp (Bool.not_eq_true _ ▸ hnone))
    · rw [Bool.not_eq_false'] at hexplicit
      exact .inr hexplicit

theorem chatRepairs_eq_self {body : Value} {model : String}
    (hroles : openaiChatHasInstructionRoles body = false)
    (hpairs : openaiChatHasAdjacentCoalescibleStringMessages body = false)
    (hmodel : Text.startsWith model "MiniMax-" = false) :
    Translate.applyOpenaiCompletionCompatOverrides model
      (Translate.applyOpenaiCompletionMaximumSafeRoleRepairs body) = body := by
  rw [Translate.compatOverrides_eq_self hmodel]
  apply Translate.repairs_eq_self
  · intro messages hmessages message hmem role hrole
    have hnone : messages.any (fun message =>
        message.getStr "role" = some "system" || message.getStr "role" = some "developer") =
        false := by
      rw [openaiChatHasInstructionRoles, hmessages] at hroles
      exact hroles
    have hmessage := List.any_eq_false.mp hnone message hmem
    simpa [Translate.isInstructionRole, hrole] using hmessage
  · intro messages hmessages
    rw [openaiChatHasAdjacentCoalescibleStringMessages, hmessages] at hpairs
    rw [← anyWindow_eq]
    exact hpairs

theorem responsesRoles_eq_self {body : Value} (h : responsesInputHasDeveloperRole body = false) :
    Translate.normalizeOpenaiResponsesRoles body = body := by
  apply Translate.responsesRoles_eq_self
  intro items hitems item hmem
  rw [responsesInputHasDeveloperRole, hitems] at h
  exact Bool.eq_false_iff.mpr (List.any_eq_false.mp h item hmem)

theorem sameFormatRepairs_eq_self (h : NothingRequired input) :
    Translate.sameFormatRepairs input.clientFormat input.upstreamModel input.stream input.body =
      input.body := by
  have hprotocol := h.sameProtocol
  unfold RequestProcessingInput.sameProtocolRequestMutationRequired at hprotocol
  rw [if_neg (not_not_intro h.sameFormat)] at hprotocol
  unfold Translate.sameFormatRepairs
  cases hformat : input.clientFormat with
  | anthropic => cases input.stream <;> rfl
  | openAiChatCompletions =>
    simp only [hformat, Bool.or_eq_false_iff] at hprotocol
    obtain ⟨⟨hroles, hpairs⟩, hmodel⟩ := hprotocol
    cases input.stream <;> exact chatRepairs_eq_self hroles hpairs hmodel
  | openAiResponses =>
    simp only [hformat] at hprotocol
    cases hstream : input.stream with
    | false => rfl
    | true =>
      rw [hstream] at hprotocol
      exact responsesRoles_eq_self hprotocol

/-- Whatever the proxy checks before it sends the bytes of a request as they are. -/
def RawBytesForwarded (env : Env) (assessPair : PairAssessment) (input : RequestProcessingInput)
    (policy : RequestTranslationPolicy) (reasoningMapped : Bool) : Prop :=
  (¬ ∃ message, classifyRequestBoundaryWithPolicy assessPair input.clientFormat
    input.upstreamFormat input.body policy input.upstreamModel reasoningMapped =
      .reject message) ∧
  validateProviderForwardingRequestBoundary env input.clientFormat input.body = .ok ()

/-- Between equal formats the proxy rejects what the translation rejects, whatever the dialect. -/
theorem boundary_reject_iff {assessPair : PairAssessment} {format : UpstreamFormat} {body : Value}
    {model : String} {reasoningMapped : Bool} :
    (∃ message, classifyRequestBoundaryWithPolicy assessPair format format body policy model
      reasoningMapped = .reject message) ↔
      Translate.Rejects (Translate.assessRequestTranslationWithSurface assessPair format format body
        policy.surface model false) := by
  unfold classifyRequestBoundaryWithPolicy
  rw [Translate.decision_reject, Translate.rejects_withSurface, Translate.rejects_withSurface,
    Translate.withDialect_same, Translate.withDialect_same]

/-- The check of the names is part of the check before the bytes are sent. -/
theorem names_of_boundary {env : Env} {format : UpstreamFormat} {body : Value}
    (h : validateProviderForwardingRequestBoundary env format body = .ok ()) :
    validatePublicRequestToolNames env format body = .ok () := by
  unfold validateProviderForwardingRequestBoundary at h
  split at h
  · cases h
  · exact h

/-- What the proxy lets through as it is, the translation takes. -/
theorem accepted_of_raw {env : Env} {pair : PairTranslation} {reasoningMapped : Bool}
    (hformat : input.clientFormat = input.upstreamFormat)
    (h : RawBytesForwarded env pair.assess input policy reasoningMapped) :
    Translate.Accepted env pair input.clientFormat input.clientFormat input.upstreamModel input.body
      policy.surface := by
  obtain ⟨hboundary, hnames⟩ := h
  rw [← hformat, boundary_reject_iff] at hboundary
  exact ⟨hboundary, names_of_boundary hnames⟩

/-- A request that is taken and needs no transformation comes out as it went in. -/
theorem translate_unchanged {env : Env} {pair : PairTranslation} (hnothing : NothingRequired input)
    (hpolicy : input.routePolicyRequiresBodyMutation =
      requestTranslationPolicyRequiresBodyMutation input.upstreamFormat input.body policy)
    (haccepted : Translate.Accepted env pair input.clientFormat input.clientFormat
      input.upstreamModel input.body policy.surface) :
    translateRequestWithPolicy env pair input.clientFormat input.upstreamFormat
      input.upstreamModel input.body policy input.stream = (.ok (), input.body) := by
  have hdefaults : Translate.applyRequestTranslationPolicyDefaults input.clientFormat policy
      input.body = input.body :=
    defaults_eq_self (by rw [hnothing.sameFormat, ← hpolicy, hnothing.route])
  rw [← hnothing.sameFormat, Translate.translate_accepted haccepted,
    sameFormatRepairs_eq_self hnothing, hdefaults]

/-- A request that needs no transformation comes out of its translation unchanged, whichever way
that ends; it ends well exactly when the assessment of the boundary does not reject the request and
its tools have public names. So when the proxy sends the bytes as they are, the translation would
have ended well with the same body. -/
theorem zero_transform_is_sound (env : Env) (pair : PairTranslation)
    (input : RequestProcessingInput) (policy : RequestTranslationPolicy) (reasoningMapped : Bool)
    (hpolicy : input.routePolicyRequiresBodyMutation =
      requestTranslationPolicyRequiresBodyMutation input.upstreamFormat input.body policy)
    (h : (classifyRequestProcessing input).requestProcessing = .requestTransformationNotRequired) :
    (translateRequestWithPolicy env pair input.clientFormat input.upstreamFormat
      input.upstreamModel input.body policy input.stream).2 = input.body ∧
    ((translateRequestWithPolicy env pair input.clientFormat input.upstreamFormat
        input.upstreamModel input.body policy input.stream).1 = .ok () ↔
      (¬ ∃ message, classifyRequestBoundaryWithPolicy pair.assess input.clientFormat
        input.upstreamFormat input.body policy input.upstreamModel reasoningMapped =
          .reject message) ∧
      validatePublicRequestToolNames env input.clientFormat input.body = .ok ()) ∧
    (RawBytesForwarded env pair.assess input policy reasoningMapped →
      translateRequestWithPolicy env pair input.clientFormat input.upstreamFormat
        input.upstreamModel input.body policy input.stream = (.ok (), input.body)) := by
  have hnothing := nothingRequired h
  refine and_assoc.mp ⟨?_, fun hraw =>
    translate_unchanged hnothing hpolicy (accepted_of_raw hnothing.sameFormat hraw)⟩
  by_cases haccepted : Translate.Accepted env pair input.clientFormat input.clientFormat
    input.upstreamModel input.body policy.surface
  · rw [translate_unchanged hnothing hpolicy haccepted, ← hnothing.sameFormat, boundary_reject_iff]
    exact ⟨rfl, fun _ => haccepted, fun _ => rfl⟩
  · obtain ⟨message, htranslate⟩ := Translate.translate_refused haccepted
    rw [← hnothing.sameFormat, htranslate, boundary_reject_iff]
    exact ⟨rfl, fun herror => (nomatch herror), fun hok => absurd hok haccepted⟩

/-! ## The body that is sent -/

/-- What the proxy does to a body after its translation: the model goes in under the name it has
upstream, or is taken out where it never was named, and the proxy's own context is taken out. -/
def constructedUpstreamBody (input : RequestProcessingInput) (body : Value) : Value :=
  Value.remove (if input.nativeResponsesModelLessStateful then body.remove "model"
    else Translate.insertField "model" (.string input.upstreamModel) body)
    requestScopedToolBridgeContextField

theorem modelField_eq_self (hkeys : input.body.KeysInOrder)
    (h : input.modelBodyMutationRequired = false) :
    (if input.nativeResponsesModelLessStateful then input.body.remove "model"
      else Translate.insertField "model" (.string input.upstreamModel) input.body) =
        input.body := by
  unfold RequestProcessingInput.modelBodyMutationRequired
    RequestProcessingInput.passthroughWithoutModelInsertion
    RequestProcessingInput.modelRemoval at h
  cases hstateful : input.nativeResponsesModelLessStateful with
  | true =>
    cases hmodel : input.body.get "model" with
    | none => exact Value.remove_eq_self hmodel
    | some model => simp [hstateful, hmodel] at h
  | false =>
    simp only [hstateful, Bool.false_and, if_neg Bool.false_ne_true] at h ⊢
    unfold Translate.insertField
    cases hobject : input.body.isObject with
    | false => rfl
    | true =>
      have hmodel : input.body.getStr "model" = some input.upstreamModel := by
        split at h
        · cases h
        · simpa [hobject] using h
      exact Value.set_eq_self hkeys (Value.get_of_getStr hmodel)

theorem context_absent {body : Value} (h : containsInternalContextField body = false) :
    body.get requestScopedToolBridgeContextField = none := by
  cases body with
  | object fields =>
    induction fields with
    | nil => rfl
    | cons field fields ih =>
      obtain ⟨key, value⟩ := field
      simp only [containsInternalContextField, containsInternalContextFields, Bool.or_eq_false_iff,
        decide_eq_false_iff_not] at h
      show List.lookup _ ((key, value) :: fields) = none
      rw [List.lookup_cons, beq_eq_false_iff_ne.mpr (Ne.symm h.1.1)]
      exact ih (by rw [containsInternalContextField]; exact h.2)
  | _ => rfl

/-- The bytes that are sent as they are say what the body says that would have been built. -/
theorem raw_is_constructed {env : Env} {pair : PairTranslation} {reasoningMapped : Bool}
    (hkeys : input.body.KeysInOrder)
    (hpolicy : input.routePolicyRequiresBodyMutation =
      requestTranslationPolicyRequiresBodyMutation input.upstreamFormat input.body policy)
    (h : (classifyRequestProcessing input).requestProcessing = .requestTransformationNotRequired)
    (hraw : RawBytesForwarded env pair.assess input policy reasoningMapped) :
    constructedUpstreamBody input (translateRequestWithPolicy env pair input.clientFormat
      input.upstreamFormat input.upstreamModel input.body policy input.stream).2 = input.body := by
  have hnothing := nothingRequired h
  have hcontext : containsInternalContextField input.body = false := by
    have hboundary := hraw.2
    unfold validateProviderForwardingRequestBoundary rejectInternalRequestScopedToolBridgeContext
      at hboundary
    cases hinternal : containsInternalContextField input.body with
    | false => rfl
    | true => simp [hinternal] at hboundary
  rw [translate_unchanged hnothing hpolicy (accepted_of_raw hnothing.sameFormat hraw)]
  unfold constructedUpstreamBody
  rw [modelField_eq_self hkeys hnothing.model]
  exact Value.remove_eq_self (context_absent hcontext)

end

/-! ## Two requests that need no transformation -/

/-- A request of Chat with one message of the user, for a Chat upstream that knows the model under
the same name. -/
def oneMessageInput (content : Value) : RequestProcessingInput where
  clientFormat := .openAiChatCompletions
  upstreamFormat := .openAiChatCompletions
  body := .ofFields [("model", .string "m"), ("messages", .array [
    .ofFields [("role", .string "user"), ("content", content)]])]
  requestedModel := "m"
  upstreamModel := "m"
  stream := false
  forcedStream := false
  routePolicyRequiresBodyMutation := false
  stateBridge := .off

/-- A model that takes text only. -/
def textOnlyPolicy : RequestTranslationPolicy :=
  { surface := { modalities := some { input := some [.text] } } }

/-- Nothing is checked about two formats that differ, and nothing is converted. -/
def noPair : PairTranslation where
  assess _ _ _ _ := []
  convert _ _ _ _ _ body := (.ok (), body)

/-- A plain text goes through. -/
theorem plainText_is_forwarded :
    translateRequestWithPolicy .still noPair .openAiChatCompletions .openAiChatCompletions "m"
      (oneMessageInput (.string "hello")).body textOnlyPolicy false =
        (.ok (), (oneMessageInput (.string "hello")).body) := by
  refine (zero_transform_is_sound .still noPair (oneMessageInput (.string "hello")) textOnlyPolicy
    false rfl (by decide +kernel)).2.2 ⟨?_, rfl⟩
  have hallow : classifyRequestBoundaryWithPolicy noPair.assess .openAiChatCompletions
      .openAiChatCompletions (oneMessageInput (.string "hello")).body textOnlyPolicy "m" false =
        .allow := by decide +kernel
  rintro ⟨message, hreject⟩
  cases hallow.symm.trans hreject

def imageContent : Value :=
  .array [.ofFields [("type", .string "image_url"),
    ("image_url", .ofFields [("url", .string "https://example.com/a.png")])]]

/-- An image needs no transformation either, but it ends in an error where the model takes text
only. -/
theorem image_is_refused :
    ¬ ∀ (env : Env) (pair : PairTranslation) (input : RequestProcessingInput)
      (policy : RequestTranslationPolicy),
      input.routePolicyRequiresBodyMutation =
        requestTranslationPolicyRequiresBodyMutation input.upstreamFormat input.body policy →
      (classifyRequestProcessing input).requestProcessing = .requestTransformationNotRequired →
      translateRequestWithPolicy env pair input.clientFormat input.upstreamFormat
        input.upstreamModel input.body policy input.stream = (.ok (), input.body) := by
  intro h
  have htranslate := h .still noPair (oneMessageInput imageContent) textOnlyPolicy
    (by decide +kernel) (by decide +kernel)
  have herror : (translateRequestWithPolicy .still noPair .openAiChatCompletions
      .openAiChatCompletions "m" (oneMessageInput imageContent).body textOnlyPolicy false).1.isOk =
        false := by decide +kernel
  rw [show translateRequestWithPolicy .still noPair .openAiChatCompletions .openAiChatCompletions
    "m" (oneMessageInput imageContent).body textOnlyPolicy false =
      (.ok (), (oneMessageInput imageContent).body) from htranslate] at herror
  cases herror

end LlmUniversalProxy.Server
