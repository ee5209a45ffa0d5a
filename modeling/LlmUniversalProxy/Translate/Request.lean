import LlmUniversalProxy.Translate.Assessment
import LlmUniversalProxy.Translate.RoleRepair
import LlmUniversalProxy.Translate.ToolDefinitions

/-!
# `Translate.Request` — a request on its way to the upstream

A request that is not turned away is brought into the format of the upstream, and what the surface
of the model asks for is put in where the client said nothing. Between equal formats there is no
conversion, only the repairs of that format.

The conversion between two formats that differ is left open here: each has a module of its own, and
the checks that go with it are in `Translate.PairAssessment`. The source is `translate/internal.rs`
17-129 and 317-439.
-/

set_option autoImplicit false

namespace LlmUniversalProxy.Translate

open Json Lib
open Server (ModelSurface)

/-! ## The policy of a request -/

/-- `RequestTranslationPolicy`. -/
structure RequestTranslationPolicy where
  surface : ModelSurface := {}

namespace RequestTranslationPolicy

/-- `max_output_tokens`. -/
def maxOutputTokens (self : RequestTranslationPolicy) : Option Nat := self.surface.maxOutputTokens

/-- `disables_parallel_tool_calls`. -/
def disablesParallelToolCalls (self : RequestTranslationPolicy) : Bool :=
  self.surface.disablesParallelToolCalls

end RequestTranslationPolicy

/-- `request_body_has_explicit_output_limit`. -/
def requestBodyHasExplicitOutputLimit (targetFormat : UpstreamFormat) (body : Value) : Bool :=
  match targetFormat with
  | .anthropic => (body.get "max_tokens").isSome
  | .openAiChatCompletions =>
      (body.get "max_completion_tokens").isSome || (body.get "max_tokens").isSome
  | .openAiResponses => (body.get "max_output_tokens").isSome

/-- `request_body_has_explicit_parallel_tool_calls_preference`. -/
def requestBodyHasExplicitParallelToolCallsPreference (targetFormat : UpstreamFormat)
    (body : Value) : Bool :=
  match targetFormat with
  | .anthropic => (disableParallelToolUse body).isSome
  | _ => ((body.get "parallel_tool_calls").bind Value.asBool).isSome

/-- `request_body_has_tool_definitions`, the same for every format. -/
def requestBodyHasToolDefinitions (body : Value) : Bool :=
  (body.getArray "tools").any fun tools => !tools.isEmpty

def outputLimitField : UpstreamFormat → String
  | .anthropic => "max_tokens"
  | .openAiChatCompletions => "max_completion_tokens"
  | .openAiResponses => "max_output_tokens"

/-- `apply_request_translation_policy_default_output_limit` (`internal.rs` 326-358). -/
def applyRequestTranslationPolicyDefaultOutputLimit (targetFormat : UpstreamFormat)
    (policy : RequestTranslationPolicy) (body : Value) : Value :=
  match policy.maxOutputTokens with
  | none => body
  | some maxOutputTokens =>
      if requestBodyHasExplicitOutputLimit targetFormat body then body
      else insertField (outputLimitField targetFormat) (.nat maxOutputTokens) body

/-- The choice of a tool, with parallel use turned off where nothing is said about it. -/
def withoutParallelToolUse (toolChoice : Value) : Value :=
  if toolChoice.getStr "type" = some "none" then toolChoice
  else entryOrInsert toolChoice "disable_parallel_tool_use" (.bool true)

/-- `apply_request_translation_policy_parallel_tool_gate` (`internal.rs` 360-396). -/
def applyRequestTranslationPolicyParallelToolGate (targetFormat : UpstreamFormat)
    (policy : RequestTranslationPolicy) (body : Value) : Value :=
  if !policy.disablesParallelToolCalls ||
      requestBodyHasExplicitParallelToolCallsPreference targetFormat body ||
      !requestBodyHasToolDefinitions body then body
  else
    match targetFormat with
    | .anthropic =>
        (entryOrInsert body "tool_choice" (.ofFields [("type", .string "auto")])).modify
          "tool_choice" withoutParallelToolUse
    | _ => insertField "parallel_tool_calls" (.bool false) body

/-- `apply_request_translation_policy_defaults`. -/
def applyRequestTranslationPolicyDefaults (targetFormat : UpstreamFormat)
    (policy : RequestTranslationPolicy) (body : Value) : Value :=
  applyRequestTranslationPolicyParallelToolGate targetFormat policy
    (applyRequestTranslationPolicyDefaultOutputLimit targetFormat policy body)

/-! ## Translation -/

/-- What is done for two formats that differ: the checks, and the conversion of the body, which may
fail halfway. -/
structure PairTranslation where
  assess : PairAssessment
  convert : UpstreamFormat → UpstreamFormat → String → RequestTranslationPolicy → Bool → Value →
    Except String Unit × Value

/-- The repairs of `translate_request_with_policy` between equal formats. -/
def sameFormatRepairs (format : UpstreamFormat) (model : String) (stream : Bool) (body : Value) :
    Value :=
  let body :=
    if stream && format ≠ .openAiChatCompletions then
      normalizeOpenaiRolesForCompatibility format body
    else body
  if format = .openAiChatCompletions then
    applyOpenaiCompletionCompatOverrides model (applyOpenaiCompletionMaximumSafeRoleRepairs body)
  else body

/-- `translate_request_with_policy` (`internal.rs` 67-129): how it ended, and what became of the
body. -/
def translateRequestWithPolicy (env : Env) (pair : PairTranslation)
    (clientFormat upstreamFormat : UpstreamFormat) (model : String) (body : Value)
    (policy : RequestTranslationPolicy) (stream : Bool) : Except String Unit × Value :=
  match decision (assessRequestTranslationWithSurface pair.assess clientFormat upstreamFormat body
      policy.surface model false) with
  | .reject message => (.error message, body)
  | _ =>
      match validatePublicRequestToolNames env clientFormat body with
      | .error message => (.error message, body)
      | .ok _ =>
          if clientFormat = upstreamFormat then
            (.ok (), applyRequestTranslationPolicyDefaults upstreamFormat policy
              (sameFormatRepairs clientFormat model stream body))
          else pair.convert clientFormat upstreamFormat model policy stream body

/-- A request is taken when nothing rejects it and its tools go by names they may have. -/
def Accepted (env : Env) (pair : PairTranslation) (clientFormat upstreamFormat : UpstreamFormat)
    (model : String) (body : Value) (surface : ModelSurface) : Prop :=
  ¬ Rejects (assessRequestTranslationWithSurface pair.assess clientFormat upstreamFormat body surface
      model false) ∧
    validatePublicRequestToolNames env clientFormat body = .ok ()

section

variable {env : Env} {pair : PairTranslation} {format : UpstreamFormat} {model : String}
  {body : Value} {policy : RequestTranslationPolicy} {stream : Bool}

/-- Between equal formats a request that is taken comes out with the repairs and the defaults. -/
theorem translate_accepted (h : Accepted env pair format format model body policy.surface) :
    translateRequestWithPolicy env pair format format model body policy stream =
      (.ok (), applyRequestTranslationPolicyDefaults format policy
        (sameFormatRepairs format model stream body)) := by
  obtain ⟨hassess, hnames⟩ := h
  unfold translateRequestWithPolicy
  rw [hnames]
  split
  · next message hmessage => exact absurd (decision_reject.mp ⟨message, hmessage⟩) hassess
  · exact if_pos rfl

/-- Between equal formats a request that is not taken ends in an error, its body untouched. -/
theorem translate_refused (h : ¬ Accepted env pair format format model body policy.surface) :
    ∃ message, translateRequestWithPolicy env pair format format model body policy stream =
      (.error message, body) := by
  unfold translateRequestWithPolicy
  split
  · next message _ => exact ⟨message, rfl⟩
  · next hallowed =>
    cases hnames : validatePublicRequestToolNames env format body with
    | error message => exact ⟨message, rfl⟩
    | ok _ =>
      refine absurd ⟨?_, hnames⟩ h
      intro hrejects
      obtain ⟨message, hmessage⟩ := decision_reject.mpr hrejects
      exact hallowed message hmessage

theorem defaultOutputLimit_eq_self
    (h : policy.maxOutputTokens = none ∨ requestBodyHasExplicitOutputLimit format body = true) :
    applyRequestTranslationPolicyDefaultOutputLimit format policy body = body := by
  unfold applyRequestTranslationPolicyDefaultOutputLimit
  rcases h with h | h
  · rw [h]
  · rw [h]
    cases policy.maxOutputTokens with
    | none => rfl
    | some maxOutputTokens => rfl

theorem parallelToolGate_eq_self
    (h : (policy.disablesParallelToolCalls &&
      !requestBodyHasExplicitParallelToolCallsPreference format body &&
      requestBodyHasToolDefinitions body) = false) :
    applyRequestTranslationPolicyParallelToolGate format policy body = body := by
  unfold applyRequestTranslationPolicyParallelToolGate
  refine if_pos ?_
  cases hdisables : policy.disablesParallelToolCalls with
  | false => rfl
  | true =>
    cases hexplicit : requestBodyHasExplicitParallelToolCallsPreference format body with
    | true => rfl
    | false =>
      rw [hdisables, hexplicit] at h
      simpa using h

end

end LlmUniversalProxy.Translate
