import LlmUniversalProxy.Translate.ClaudeToOpenai

/-!
# `Translate.CacheExtensions` — prompt-cache controls between formats

Each format has its own way to ask for prompt caching, and the proxy does not guess what one of them
would mean in another. A client says under `extra_body` what it wants for a format that is not its
own: `extra_body.anthropic.cache_control` from OpenAI, `extra_body.openai` from Anthropic. So between
two formats that differ, a request is turned away

- when it asks for cached content of Gemini, which nothing here speaks,
- when what it says under `extra_body` is not of the form the target takes,
- when it comes from OpenAI for Anthropic and has a `cache_control` in one of the places that only
  Anthropic knows. All of those places are named in the text of the rejection.

These are `assess_openai_family_prompt_cache_extensions`, `assess_anthropic_prompt_cache_extensions`
and `openai_known_cache_control_paths` (`translate/internal/assessment.rs` 81-229). The extension that
is for another target than the one it has, which equal formats look at too, is in
`Translate.Assessment`.
-/

set_option autoImplicit false

namespace LlmUniversalProxy.Translate

open Json Lib

/-! ## Texts for issues -/

/-- Names in backquotes, separated by commas. -/
def quotedNames (names : List String) : String :=
  ", ".intercalate (names.map fun name => s!"`{name}`")

/-- The rejection that a check gives a text for. -/
def rejectFor (message : Option String) : List TranslationIssue := message.toList.map .reject

/-- The rejection of a validation that fails. -/
def rejectError {α : Type} (result : Except String α) : List TranslationIssue :=
  match result with
  | .error message => [.reject message]
  | .ok _ => []

def warnAbout (names : List String) (message : String → String) : List TranslationIssue :=
  if names.isEmpty then [] else [.warning (message (quotedNames names))]

theorem rejects_rejectFor {message : Option String} :
    Rejects (rejectFor message) ↔ message.isSome = true := by
  cases message with
  | none => exact ⟨fun h => absurd h not_rejects_nil, fun h => (nomatch h)⟩
  | some message => exact ⟨fun _ => rfl, fun _ => ⟨message, List.mem_singleton_self _⟩⟩

theorem rejects_rejectError {α : Type} {result : Except String α} :
    Rejects (rejectError result) ↔ ∃ message, result = .error message := by
  cases result with
  | error message => exact ⟨fun _ => ⟨message, rfl⟩, fun _ => ⟨message, List.mem_singleton_self _⟩⟩
  | ok value => exact ⟨fun h => absurd h not_rejects_nil, fun ⟨_, h⟩ => (nomatch h)⟩

theorem rejects_singleton {message : String} : Rejects [.reject message] :=
  ⟨message, List.mem_singleton_self _⟩

theorem rejects_ite {p : Prop} [Decidable p] {issues : List TranslationIssue} :
    Rejects (if p then issues else []) ↔ p ∧ Rejects issues := by
  split
  · next hp => exact ⟨fun h => ⟨hp, h⟩, fun h => h.2⟩
  · next hp => exact ⟨fun h => absurd h not_rejects_nil, fun h => absurd h.1 hp⟩

theorem rejects_unless {p : Prop} [Decidable p] {issues : List TranslationIssue} :
    Rejects (if p then [] else issues) ↔ ¬ p ∧ Rejects issues := by
  rw [← ite_not]
  exact rejects_ite

theorem not_rejects_warnings {issues : List TranslationIssue}
    (h : ∀ issue ∈ issues, ∃ message, issue = .warning message) : ¬ Rejects issues := by
  rintro ⟨message, hmem⟩
  obtain ⟨text, htext⟩ := h _ hmem
  cases htext

theorem not_rejects_warning (message : String) : ¬ Rejects [.warning message] :=
  not_rejects_warnings fun _ h => ⟨message, List.mem_singleton.mp h⟩

theorem not_rejects_map_warning (messages : List String) : ¬ Rejects (messages.map .warning) :=
  not_rejects_warnings fun _ h =>
    (List.mem_map.mp h).imp fun _ hmessage => hmessage.2.symm

theorem not_rejects_warnAbout (names : List String) (message : String → String) :
    ¬ Rejects (warnAbout names message) := by
  unfold warnAbout
  split
  · exact not_rejects_nil
  · exact not_rejects_warning _

/-! ## Cache controls of blocks -/

/-- The paths of the values in a list that have a `cache_control`. -/
def cacheControlPaths (base : String) (values : List Value) : List String :=
  values.zipIdx.filterMap fun (value, index) =>
    if (value.get "cache_control").isSome then some s!"{base}[{index}].cache_control" else none

/-- `collect_content_position_cache_control_paths`. -/
def contentPositionCacheControlPaths (content : Option Value) (base : String) : List String :=
  match content with
  | some (.array parts) => cacheControlPaths base parts
  | some (.object fields) =>
      if ((Value.object fields).get "cache_control").isSome then [s!"{base}.cache_control"] else []
  | _ => []

def messageCacheControlPaths (message : Value) (base : String) : List String :=
  contentPositionCacheControlPaths (message.get "content") s!"{base}.content" ++
    (if message.getStr "role" = some "assistant" then
      cacheControlPaths s!"{base}.tool_calls" ((message.getArray "tool_calls").getD [])
    else []) ++
    (if message.getStr "role" = some "tool" && (message.get "cache_control").isSome then
      [s!"{base}.cache_control"]
    else [])

def inputItemCacheControlPaths (item : Value) (base : String) : List String :=
  (if responsesInputItemType item = some "message" then
      contentPositionCacheControlPaths (item.get "content") s!"{base}.content"
    else []) ++
    (match responsesInputItemType item with
      | some "function_call" | some "function_call_output" =>
          if (item.get "cache_control").isSome then [s!"{base}.cache_control"] else []
      | _ => [])

/-- `openai_known_cache_control_paths` (`translate/internal/assessment.rs` 136-197). -/
def openaiKnownCacheControlPaths (clientFormat : UpstreamFormat) (body : Value) : List String :=
  match clientFormat with
  | .openAiChatCompletions =>
      cacheControlPaths "tools" ((body.getArray "tools").getD []) ++
        ((body.getArray "messages").getD []).zipIdx.flatMap fun (message, index) =>
          messageCacheControlPaths message s!"messages[{index}]"
  | .openAiResponses =>
      cacheControlPaths "tools" ((body.getArray "tools").getD []) ++
        ((body.getArray "input").getD []).zipIdx.flatMap fun (item, index) =>
          inputItemCacheControlPaths item s!"input[{index}]"
  | .anthropic => []

/-! ## The checks -/

/-- `openai_extra_body_google_cached_content`. -/
def openaiExtraBodyGoogleCachedContent (body : Value) : Option Value :=
  ((body.get "extra_body").bind (Value.get · "google")).bind fun google =>
    (google.get "cached_content").or (google.get "cachedContent")

/-- `assess_openai_family_prompt_cache_extensions` (`translate/internal/assessment.rs` 81-119). -/
def assessOpenaiFamilyPromptCacheExtensions (clientFormat upstreamFormat : UpstreamFormat)
    (body : Value) : List TranslationIssue :=
  if openaiFamilyFormat clientFormat && clientFormat ≠ upstreamFormat then
    (if (openaiExtraBodyGoogleCachedContent body).isSome then
      [.reject <| "extra_body.google.cached_content requires Gemini cache scope and cannot be " ++
        s!"translated to {translationTargetLabel upstreamFormat}; the proxy does not map Gemini " ++
        "cached content"]
    else []) ++
    (if upstreamFormat = .anthropic && openaiExtraBodyAnthropicCacheControlPresent body then
      rejectError (validatedOpenaiExtraBodyAnthropicCacheControl body)
    else []) ++
    (if upstreamFormat = .anthropic && !(openaiKnownCacheControlPaths clientFormat body).isEmpty then
      [.reject <| "OpenAI block-level/provider `cache_control` is not supported on translated " ++
        "Anthropic paths; use `extra_body.anthropic.cache_control` for top-level Anthropic cache " ++
        s!"control instead of {quotedNames (openaiKnownCacheControlPaths clientFormat body)}"]
    else [])
  else []

/-- `assess_anthropic_prompt_cache_extensions`. -/
def assessAnthropicPromptCacheExtensions (clientFormat upstreamFormat : UpstreamFormat)
    (body : Value) : List TranslationIssue :=
  if clientFormat = .anthropic && openaiFamilyFormat upstreamFormat then
    -- `validate_anthropic_extra_body_openai_controls`
    rejectError (validatedAnthropicExtraBodyOpenaiControls body)
  else []

end LlmUniversalProxy.Translate
