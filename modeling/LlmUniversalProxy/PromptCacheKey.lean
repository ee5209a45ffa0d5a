import LlmUniversalProxy.Formats
import LlmUniversalProxy.Json.Canonical
import LlmUniversalProxy.Lib.Digest
import LlmUniversalProxy.Lib.Text
import Mathlib.Data.List.Basic

/-!
# `PromptCacheKey` — a cache key for prompts that begin the same

Where a client sets no cache key, the proxy makes one up for an upstream of the OpenAI family. It is
a digest of what a conversation keeps from turn to turn: the instructions in front, the tools and a
few settings. So it has to be another one when any of these changes, and the same when the
conversation goes on.

The source is `prompt_cache_controls.rs` 320-579. SHA-256 is a parameter, and a key shows 32 digits
of it only. So the keys are told apart as far as these digits do it; that the texts under the digest
are told apart holds without a condition.
-/

set_option autoImplicit false

namespace LlmUniversalProxy

open Json Lib

/-- `OpenAiFamilyPromptCacheKeySynthesisContext`. -/
structure PromptCacheKeyContext where
  namespaceName : String
  upstreamName : String
  upstreamModel : String
  upstreamFormat : UpstreamFormat
  deriving DecidableEq, Repr

/-- `OpenAiFamilyPromptCacheKeySynthesis`. -/
structure PromptCacheKeySynthesis where
  key : String
  keyFingerprint : String
  deriving DecidableEq, Repr

/-- `PROMPT_CACHE_SYNTHESIS_VERSION`. -/
def promptCacheSynthesisVersion : String := "v1"

/-- `PROMPT_CACHE_SYNTHESIS_SCHEMA`. -/
def promptCacheSynthesisSchema : String := "llmup.openai_family_prompt_cache_static_prefix.v1"

/-- `openai_family_format`. -/
def openaiFamilyFormat : UpstreamFormat → Bool
  | .openAiChatCompletions => true
  | .openAiResponses => true
  | .anthropic => false

/-- `openai_family_provider_state_control_present`. -/
def openaiFamilyProviderStateControlPresent (body : Value) : Bool :=
  ["previous_response_id", "conversation", "prompt"].any fun field => (body.get field).isSome

/-! ## The instructions in front -/

/-- `Iterator::map_while`. -/
def mapWhile {α β : Type} (f : α → Option β) : List α → List β
  | [] => []
  | x :: xs =>
      match f x with
      | some y => y :: mapWhile f xs
      | none => []

/-- `openai_chat_explicit_static_instruction_message`. -/
def openaiChatExplicitStaticInstructionMessage (message : Value) : Bool :=
  message.getStr "role" = some "system" || message.getStr "role" = some "developer"

/-- `openai_chat_compatibility_instruction` (`prompt_cache_controls.rs` 509-521). -/
def openaiChatCompatibilityInstruction (message : Value) : Option Value :=
  if message.getStr "role" ≠ some "user" then none
  else do
    let content ← message.getStr "content"
    let label ← ["System instructions:\n", "Developer instructions:\n"].find?
      fun label => Text.startsWith content label
    some (.ofFields
      [("role", .string (if Text.startsWith label "Developer" then "developer" else "system")),
        ("content", .string ((Text.stripPrefix content label).getD content))])

/-- `openai_chat_static_instructions` (`prompt_cache_controls.rs` 474-492). -/
def openaiChatStaticInstructions (body : Value) : Value :=
  match body.getArray "messages" with
  | none => .array []
  | some messages =>
      let instructionMessages := messages.takeWhile openaiChatExplicitStaticInstructionMessage
      if !instructionMessages.isEmpty then .array instructionMessages
      else .array (mapWhile openaiChatCompatibilityInstruction messages)

/-- `openai_responses_static_instruction_item`. -/
def openaiResponsesStaticInstructionItem (item : Value) : Bool :=
  item.getStr "type" = some "message" &&
    (item.getStr "role" = some "system" || item.getStr "role" = some "developer")

/-- The arm of `static_prefix_instructions` for Responses. -/
def openaiResponsesStaticInstructions (body : Value) : Value :=
  let instructions := (body.get "instructions").toList.map (("instructions", ·))
  let staticItems := ((body.getArray "input").getD []).takeWhile openaiResponsesStaticInstructionItem
  let inputStaticMessages :=
    if staticItems.isEmpty then [] else [("input_static_messages", Value.array staticItems)]
  .ofFields (instructions ++ inputStaticMessages)

mutual

/-- `value_without_anthropic_cache_control`. -/
def valueWithoutAnthropicCacheControl : Value → Value
  | .array items => .array (itemsWithoutAnthropicCacheControl items)
  | .object fields => .object (fieldsWithoutAnthropicCacheControl fields)
  | scalar => scalar

def itemsWithoutAnthropicCacheControl : List Value → List Value
  | [] => []
  | v :: rest => valueWithoutAnthropicCacheControl v :: itemsWithoutAnthropicCacheControl rest

def fieldsWithoutAnthropicCacheControl : List (String × Value) → List (String × Value)
  | [] => []
  | (k, v) :: rest =>
      if k = "cache_control" then fieldsWithoutAnthropicCacheControl rest
      else insertSorted k (valueWithoutAnthropicCacheControl v)
        (fieldsWithoutAnthropicCacheControl rest)

end

/-- `anthropic_static_instructions`. -/
def anthropicStaticInstructions (body : Value) : Value :=
  .ofFields ((body.get "system").toList.map fun system =>
    ("system", valueWithoutAnthropicCacheControl system))

/-- `static_prefix_instructions`. -/
def staticPrefixInstructions (instructionFormat : UpstreamFormat) (body : Value) : Value :=
  match instructionFormat with
  | .openAiChatCompletions => openaiChatStaticInstructions body
  | .openAiResponses => openaiResponsesStaticInstructions body
  | .anthropic => anthropicStaticInstructions body

/-! ## The key -/

/-- The fields that `openai_family_static_config` keeps. -/
def staticConfigFields : UpstreamFormat → List String
  | .openAiChatCompletions =>
      ["response_format", "tool_choice", "parallel_tool_calls", "reasoning_effort"]
  | .openAiResponses => ["text", "tool_choice", "parallel_tool_calls", "reasoning"]
  | .anthropic => []

/-- `openai_family_static_config`. -/
def openaiFamilyStaticConfig (upstreamFormat : UpstreamFormat) (body : Value) : Value :=
  .ofFields ((staticConfigFields upstreamFormat).filterMap fun field =>
    (body.get field).map ((field, ·)))

/-- How `openai_family_static_prefix` names the protocol of an upstream. -/
def openaiFamilyProtocol : UpstreamFormat → Option String
  | .openAiChatCompletions => some "openai_chat_completions"
  | .openAiResponses => some "openai_responses"
  | .anthropic => none

/-- `openai_family_static_prefix` (`prompt_cache_controls.rs` 388-412). -/
def openaiFamilyStaticPrefix (context : PromptCacheKeyContext) (instructionFormat : UpstreamFormat)
    (instructionBody upstreamBody : Value) : Option Value :=
  if upstreamBody.isObject then
    (openaiFamilyProtocol context.upstreamFormat).map fun protocol => .ofFields
      [("schema", .string promptCacheSynthesisSchema),
        ("namespace", .string context.namespaceName), ("upstream", .string context.upstreamName),
        ("model", .string context.upstreamModel), ("protocol", .string protocol),
        ("version", .string promptCacheSynthesisVersion),
        ("instructions", staticPrefixInstructions instructionFormat instructionBody),
        ("tools", (upstreamBody.get "tools").getD (.array [])),
        ("static_config", openaiFamilyStaticConfig context.upstreamFormat upstreamBody)]
  else none

/-- `scoped_fingerprint`. -/
def scopedFingerprint (sha256Hex : List UInt8 → String) (scope value : String) (hexChars : Nat) :
    String :=
  String.ofList ((sha256Hex (bytesOf "llmup.provider_prompt_cache." ++ bytesOf scope ++ [0] ++
    bytesOf value)).toList.take hexChars)

/-- `synthesize_openai_family_prompt_cache_key_from_source` (`prompt_cache_controls.rs` 320-332):
the key, and the body with it. -/
def synthesizeOpenaiFamilyPromptCacheKeyFromSource (sha256Hex : List UInt8 → String)
    (context : PromptCacheKeyContext) (sourceFormat : UpstreamFormat)
    (sourceBody upstreamBody : Value) : Option (PromptCacheKeySynthesis × Value) :=
  if !openaiFamilyFormat context.upstreamFormat then none
  else if (upstreamBody.get "prompt_cache_key").isSome then none
  else if openaiFamilyProviderStateControlPresent upstreamBody then none
  else
    (openaiFamilyStaticPrefix context sourceFormat sourceBody upstreamBody).map fun staticPrefix =>
      let canonicalStaticPrefix := canonicalJson staticPrefix
      let namespaceFp := scopedFingerprint sha256Hex "namespace" context.namespaceName 16
      let upstreamFp := scopedFingerprint sha256Hex "upstream" context.upstreamName 16
      let modelFp := scopedFingerprint sha256Hex "model" context.upstreamModel 16
      let staticPrefixFp := scopedFingerprint sha256Hex "static_prefix" canonicalStaticPrefix 32
      let key := "llmup:" ++ promptCacheSynthesisVersion ++ ":" ++ namespaceFp ++ ":" ++
        upstreamFp ++ ":" ++ modelFp ++ ":" ++ staticPrefixFp
      (⟨key, scopedFingerprint sha256Hex "synthesized_key_debug" key 12⟩,
        upstreamBody.set "prompt_cache_key" (.string key))

/-! ## Separation -/

theorem mem_of_mem_mapWhile {α β : Type} {f : α → Option β} {xs : List α} {y : β}
    (h : y ∈ mapWhile f xs) : ∃ x, f x = some y := by
  induction xs with
  | nil => cases h
  | cons x xs ih =>
    unfold mapWhile at h
    cases hx : f x with
    | none =>
      rw [hx] at h
      cases h
    | some z =>
      rw [hx] at h
      rcases List.mem_cons.mp h with rfl | h
      · exact ⟨x, hx⟩
      · exact ih h

theorem proper_compatibilityInstruction {message instruction : Value}
    (h : openaiChatCompatibilityInstruction message = some instruction) : instruction.Proper := by
  unfold openaiChatCompatibilityInstruction at h
  split at h
  · cases h
  · obtain ⟨content, -, hlabel⟩ := Option.bind_eq_some_iff.mp h
    obtain ⟨label, -, hvalue⟩ := Option.bind_eq_some_iff.mp hlabel
    obtain rfl := Option.some.inj hvalue
    refine proper_ofFields fun f hf => ?_
    simp only [List.mem_cons, List.not_mem_nil, or_false] at hf
    rcases hf with rfl | rfl
    · exact proper_string _
    · exact proper_string _

theorem proper_staticInstructions_chat {body : Value} (h : body.Proper) :
    (openaiChatStaticInstructions body).Proper := by
  unfold openaiChatStaticInstructions
  cases hmessages : body.getArray "messages" with
  | none => exact proper_array nofun
  | some messages =>
    dsimp only
    split
    · refine proper_array fun v hv => ?_
      exact proper_of_mem_items (proper_getArray h hmessages) ((List.takeWhile_subset _) hv)
    · refine proper_array fun v hv => ?_
      obtain ⟨message, hmessage⟩ := mem_of_mem_mapWhile hv
      exact proper_compatibilityInstruction hmessage

mutual

theorem proper_withoutCacheControl : ∀ {v : Value}, v.Proper →
    (valueWithoutAnthropicCacheControl v).Proper
  | .null, h => h
  | .bool _, h => h
  | .number _, h => h
  | .string _, h => h
  | .array _, h => proper_itemsWithoutCacheControl h
  | .object _, h => proper_fieldsWithoutCacheControl h

theorem proper_itemsWithoutCacheControl : ∀ {items : List Value}, (Value.array items).Proper →
    (Value.array (itemsWithoutAnthropicCacheControl items)).Proper
  | [], h => h
  | _ :: _, h => proper_array fun v hv => by
    have hrest := proper_itemsWithoutCacheControl (proper_item h).2
    rcases List.mem_cons.mp hv with rfl | hv
    · exact proper_withoutCacheControl (proper_item h).1
    · exact proper_of_mem_items hrest hv

theorem proper_fieldsWithoutCacheControl : ∀ {fields : List (String × Value)},
    (Value.object fields).Proper →
      (Value.object (fieldsWithoutAnthropicCacheControl fields)).Proper
  | [], h => h
  | (_, _) :: _, h => proper_object fun f hf => by
    have hrest := proper_fieldsWithoutCacheControl (proper_field h).2
    rw [fieldsWithoutAnthropicCacheControl] at hf
    split at hf
    · exact proper_of_mem_fields hrest hf
    · rcases mem_insertSorted hf with rfl | hf
      · exact proper_withoutCacheControl (proper_field h).1
      · exact proper_of_mem_fields hrest hf

end

theorem proper_staticPrefixInstructions {instructionFormat : UpstreamFormat} {body : Value}
    (h : body.Proper) : (staticPrefixInstructions instructionFormat body).Proper := by
  cases instructionFormat with
  | openAiChatCompletions => exact proper_staticInstructions_chat h
  | openAiResponses =>
    refine proper_ofFields fun f hf => ?_
    rcases List.mem_append.mp hf with hf | hf
    · obtain ⟨instructions, hinstructions, rfl⟩ := List.mem_map.mp hf
      exact proper_get h (Option.mem_toList.mp hinstructions)
    · split at hf
      · cases hf
      · obtain rfl := List.mem_singleton.mp hf
        refine proper_array fun v hv => ?_
        have hv := (List.takeWhile_subset _) hv
        cases hinput : body.getArray "input" with
        | none =>
          rw [hinput] at hv
          cases hv
        | some items =>
          rw [hinput] at hv
          exact proper_of_mem_items (proper_getArray h hinput) hv
  | anthropic =>
    refine proper_ofFields fun f hf => ?_
    obtain ⟨system, hsystem, rfl⟩ := List.mem_map.mp hf
    exact proper_withoutCacheControl (proper_get h (Option.mem_toList.mp hsystem))

theorem proper_staticPrefix {context : PromptCacheKeyContext} {sourceFormat : UpstreamFormat}
    {sourceBody upstreamBody staticPrefix : Value} (hsource : sourceBody.Proper)
    (hupstream : upstreamBody.Proper)
    (h : openaiFamilyStaticPrefix context sourceFormat sourceBody upstreamBody =
      some staticPrefix) : staticPrefix.Proper := by
  unfold openaiFamilyStaticPrefix at h
  split at h
  · obtain ⟨protocol, -, rfl⟩ := Option.map_eq_some_iff.mp h
    refine proper_ofFields fun f hf => ?_
    simp only [List.mem_cons, List.not_mem_nil, or_false] at hf
    rcases hf with rfl | rfl | rfl | rfl | rfl | rfl | rfl | rfl | rfl
    · exact proper_string _
    · exact proper_string _
    · exact proper_string _
    · exact proper_string _
    · exact proper_string _
    · exact proper_string _
    · exact proper_staticPrefixInstructions hsource
    · cases htools : upstreamBody.get "tools" with
      | none => exact proper_array nofun
      | some tools => exact proper_get hupstream htools
    · refine proper_ofFields fun f hf => ?_
      obtain ⟨field, -, hfield⟩ := List.mem_filterMap.mp hf
      obtain ⟨value, hvalue, rfl⟩ := Option.map_eq_some_iff.mp hfield
      exact proper_get hupstream hvalue
  · cases h

/-- A key that is made is made of a static prefix. -/
theorem synthesize_some {sha256Hex : List UInt8 → String} {context : PromptCacheKeyContext}
    {sourceFormat : UpstreamFormat} {sourceBody upstreamBody : Value}
    {result : PromptCacheKeySynthesis × Value}
    (h : synthesizeOpenaiFamilyPromptCacheKeyFromSource sha256Hex context sourceFormat sourceBody
      upstreamBody = some result) :
    ∃ staticPrefix, openaiFamilyStaticPrefix context sourceFormat sourceBody upstreamBody =
        some staticPrefix ∧
      result.1.key = "llmup:" ++ promptCacheSynthesisVersion ++ ":" ++
        scopedFingerprint sha256Hex "namespace" context.namespaceName 16 ++ ":" ++
        scopedFingerprint sha256Hex "upstream" context.upstreamName 16 ++ ":" ++
        scopedFingerprint sha256Hex "model" context.upstreamModel 16 ++ ":" ++
        scopedFingerprint sha256Hex "static_prefix" (canonicalJson staticPrefix) 32 := by
  unfold synthesizeOpenaiFamilyPromptCacheKeyFromSource at h
  split at h
  · cases h
  split at h
  · cases h
  split at h
  · cases h
  · obtain ⟨staticPrefix, hprefix, rfl⟩ := Option.map_eq_some_iff.mp h
    exact ⟨staticPrefix, hprefix, rfl⟩

/-! ## Stability -/

def conversationField : UpstreamFormat → String
  | .openAiChatCompletions => "messages"
  | .openAiResponses => "input"
  | .anthropic => "messages"

/-- A body whose conversation goes on. -/
def extended (format : UpstreamFormat) (body : Value) (more : List Value) : Value :=
  match body.getArray (conversationField format) with
  | some items => body.set (conversationField format) (.array (items ++ more))
  | none => body

/-- The messages or items in front that are static instructions. -/
def leadingStaticInstructions (format : UpstreamFormat) (items : List Value) : List Value :=
  match format with
  | .openAiChatCompletions =>
      let explicit := items.takeWhile openaiChatExplicitStaticInstructionMessage
      if !explicit.isEmpty then explicit
      else items.takeWhile fun message => (openaiChatCompatibilityInstruction message).isSome
  | .openAiResponses => items.takeWhile openaiResponsesStaticInstructionItem
  | .anthropic => []

/-- A conversation with something in it behind the static instructions. -/
def HasTurn (format : UpstreamFormat) (body : Value) : Prop :=
  ∃ items, body.getArray (conversationField format) = some items ∧
    (leadingStaticInstructions format items).length < items.length

theorem get_extended {format : UpstreamFormat} {field : String}
    (h : field ≠ conversationField format) (body : Value) (more : List Value) :
    (extended format body more).get field = body.get field := by
  unfold extended
  cases body.getArray (conversationField format) with
  | none => rfl
  | some items => exact Value.get_set_of_ne body _ h

theorem isObject_extended (format : UpstreamFormat) (body : Value) (more : List Value) :
    (extended format body more).isObject = body.isObject := by
  unfold extended
  cases hitems : body.getArray (conversationField format) with
  | none => rfl
  | some items =>
    obtain ⟨value, hvalue, -⟩ := Option.bind_eq_some_iff.mp hitems
    have hobject := Value.isObject_of_get hvalue
    rw [hobject]
    exact Value.isObject_set hobject _ _

theorem getArray_extended {format : UpstreamFormat} {body : Value} {items : List Value}
    (h : body.getArray (conversationField format) = some items) (more : List Value) :
    (extended format body more).getArray (conversationField format) = some (items ++ more) := by
  obtain ⟨value, hvalue, -⟩ := Option.bind_eq_some_iff.mp h
  unfold extended
  rw [h]
  unfold Value.getArray
  rw [Value.get_set_self (Value.isObject_of_get hvalue)]
  rfl

/-- A front that has come to its end does not grow. -/
theorem takeWhile_append_of_lt {α : Type} {p : α → Bool} {xs : List α}
    (h : (xs.takeWhile p).length < xs.length) (ys : List α) :
    (xs ++ ys).takeWhile p = xs.takeWhile p := by
  rw [List.takeWhile_append, if_neg (Nat.ne_of_lt h)]

theorem mapWhile_append_of_lt {α β : Type} {f : α → Option β} {xs : List α}
    (h : (xs.takeWhile fun x => (f x).isSome).length < xs.length) (ys : List α) :
    mapWhile f (xs ++ ys) = mapWhile f xs := by
  induction xs with
  | nil => cases h
  | cons x xs ih =>
    rw [List.cons_append, mapWhile, mapWhile]
    cases hx : f x with
    | none => rfl
    | some y =>
      rw [List.takeWhile_cons_of_pos (by rw [hx]; rfl), List.length_cons, List.length_cons,
        Nat.add_lt_add_iff_right] at h
      exact congrArg (y :: ·) (ih h)

theorem openaiChatStaticInstructions_extended {body : Value} (more : List Value)
    (h : HasTurn .openAiChatCompletions body) :
    openaiChatStaticInstructions (extended .openAiChatCompletions body more) =
      openaiChatStaticInstructions body := by
  obtain ⟨messages, hmessages, hturn⟩ := h
  have hextended := getArray_extended hmessages more
  have hmessages : body.getArray "messages" = some messages := hmessages
  have hextended : (extended .openAiChatCompletions body more).getArray "messages" =
      some (messages ++ more) := hextended
  unfold openaiChatStaticInstructions
  rw [hmessages, hextended]
  unfold leadingStaticInstructions at hturn
  dsimp only at hturn ⊢
  have hexplicit : (messages.takeWhile openaiChatExplicitStaticInstructionMessage).length <
      messages.length := by
    split at hturn
    · exact hturn
    · next hempty =>
      rw [Bool.not_eq_true, Bool.not_eq_false', List.isEmpty_iff] at hempty
      rw [hempty]
      exact Nat.zero_lt_of_lt hturn
  rw [takeWhile_append_of_lt hexplicit]
  split
  · rfl
  · next hempty =>
    rw [if_neg hempty] at hturn
    rw [mapWhile_append_of_lt hturn]

theorem openaiResponsesStaticInstructions_extended {body : Value} (more : List Value)
    (h : HasTurn .openAiResponses body) :
    openaiResponsesStaticInstructions (extended .openAiResponses body more) =
      openaiResponsesStaticInstructions body := by
  obtain ⟨items, hitems, hturn⟩ := h
  have hextended := getArray_extended hitems more
  have hitems : body.getArray "input" = some items := hitems
  have hextended : (extended .openAiResponses body more).getArray "input" =
      some (items ++ more) := hextended
  unfold openaiResponsesStaticInstructions
  rw [hitems, hextended, get_extended (by decide), Option.getD_some, Option.getD_some,
    takeWhile_append_of_lt hturn]

theorem staticPrefixInstructions_extended {format : UpstreamFormat} {body : Value}
    (more : List Value) (h : HasTurn format body) :
    staticPrefixInstructions format (extended format body more) =
      staticPrefixInstructions format body := by
  cases format with
  | openAiChatCompletions => exact openaiChatStaticInstructions_extended more h
  | openAiResponses => exact openaiResponsesStaticInstructions_extended more h
  | anthropic =>
    show anthropicStaticInstructions _ = anthropicStaticInstructions _
    unfold anthropicStaticInstructions
    rw [get_extended (by decide)]

theorem openaiFamilyStaticConfig_extended (format : UpstreamFormat) (body : Value)
    (more : List Value) :
    openaiFamilyStaticConfig format (extended format body more) =
      openaiFamilyStaticConfig format body := by
  unfold openaiFamilyStaticConfig
  refine congrArg Value.ofFields (List.filterMap_congr fun field hfield => ?_)
  have hne : field ≠ conversationField format := by
    rintro rfl
    revert hfield
    cases format <;> decide
  rw [get_extended hne]

/-- **The key of a conversation that goes on is the key that it had.** -/
theorem synthesize_extended (sha256Hex : List UInt8 → String) (context : PromptCacheKeyContext)
    {sourceFormat : UpstreamFormat} {sourceBody : Value} (upstreamBody : Value)
    (more upstreamMore : List Value) (h : HasTurn sourceFormat sourceBody) :
    (synthesizeOpenaiFamilyPromptCacheKeyFromSource sha256Hex context sourceFormat
        (extended sourceFormat sourceBody more)
        (extended context.upstreamFormat upstreamBody upstreamMore)).map Prod.fst =
      (synthesizeOpenaiFamilyPromptCacheKeyFromSource sha256Hex context sourceFormat sourceBody
        upstreamBody).map Prod.fst := by
  have hget {field : String} (hchat : field ≠ "messages") (hresponses : field ≠ "input") :
      (extended context.upstreamFormat upstreamBody upstreamMore).get field =
        upstreamBody.get field := by
    refine get_extended ?_ _ _
    cases context.upstreamFormat with
    | openAiChatCompletions => exact hchat
    | openAiResponses => exact hresponses
    | anthropic => exact hchat
  have hstate : openaiFamilyProviderStateControlPresent
        (extended context.upstreamFormat upstreamBody upstreamMore) =
      openaiFamilyProviderStateControlPresent upstreamBody := by
    unfold openaiFamilyProviderStateControlPresent
    simp only [List.any_cons, List.any_nil]
    rw [hget (by decide) (by decide), hget (by decide) (by decide), hget (by decide) (by decide)]
  have hstaticPrefix : openaiFamilyStaticPrefix context sourceFormat
        (extended sourceFormat sourceBody more)
        (extended context.upstreamFormat upstreamBody upstreamMore) =
      openaiFamilyStaticPrefix context sourceFormat sourceBody upstreamBody := by
    unfold openaiFamilyStaticPrefix
    rw [isObject_extended, staticPrefixInstructions_extended more h, hget (by decide) (by decide),
      openaiFamilyStaticConfig_extended]
  unfold synthesizeOpenaiFamilyPromptCacheKeyFromSource
  rw [hget (by decide) (by decide), hstate, hstaticPrefix]
  split
  · rfl
  split
  · rfl
  split
  · rfl
  · rw [Option.map_map, Option.map_map]
    rfl

/-- **A key for each static prefix, that lasts.** The texts that are digested for two requests are
equal just if their static prefixes are, up to the order of keys; so are the keys, where the digest
does not collide. And a conversation that has come to a turn keeps its key whatever follows. -/
theorem prompt_cache_key_exact (sha256Hex : List UInt8 → String) (context : PromptCacheKeyContext)
    (sourceFormat : UpstreamFormat) :
    (∀ {source upstream source' upstream' : Value} {result result' : PromptCacheKeySynthesis × Value},
      source.Proper → upstream.Proper → source'.Proper → upstream'.Proper →
      synthesizeOpenaiFamilyPromptCacheKeyFromSource sha256Hex context sourceFormat source upstream =
        some result →
      synthesizeOpenaiFamilyPromptCacheKeyFromSource sha256Hex context sourceFormat source' upstream' =
        some result' →
      ∃ staticPrefix staticPrefix',
        openaiFamilyStaticPrefix context sourceFormat source upstream = some staticPrefix ∧
        openaiFamilyStaticPrefix context sourceFormat source' upstream' = some staticPrefix' ∧
        (canonicalJson staticPrefix = canonicalJson staticPrefix' ↔
          SameJson staticPrefix staticPrefix') ∧
        ((scopedFingerprint sha256Hex "static_prefix" (canonicalJson staticPrefix) 32 =
            scopedFingerprint sha256Hex "static_prefix" (canonicalJson staticPrefix') 32 →
          canonicalJson staticPrefix = canonicalJson staticPrefix') →
          (result.1.key = result'.1.key ↔ SameJson staticPrefix staticPrefix'))) ∧
    ∀ {source : Value} (upstream : Value) (more upstreamMore : List Value),
      HasTurn sourceFormat source →
      (synthesizeOpenaiFamilyPromptCacheKeyFromSource sha256Hex context sourceFormat
          (extended sourceFormat source more)
          (extended context.upstreamFormat upstream upstreamMore)).map Prod.fst =
        (synthesizeOpenaiFamilyPromptCacheKeyFromSource sha256Hex context sourceFormat source
          upstream).map Prod.fst := by
  refine ⟨?_, fun upstream more upstreamMore h =>
    synthesize_extended sha256Hex context upstream more upstreamMore h⟩
  intro source upstream source' upstream' result result' hsource hupstream hsource' hupstream'
    hresult hresult'
  obtain ⟨staticPrefix, hprefix, hkey⟩ := synthesize_some hresult
  obtain ⟨staticPrefix', hprefix', hkey'⟩ := synthesize_some hresult'
  have htext := canonicalJson_eq_iff (proper_staticPrefix hsource hupstream hprefix)
    (proper_staticPrefix hsource' hupstream' hprefix')
  refine ⟨staticPrefix, staticPrefix', hprefix, hprefix', htext, fun hcollision => ?_⟩
  -- the keys differ in the fingerprint of the static prefix alone
  rw [hkey, hkey', String.append_right_inj, ← htext]
  constructor
  · exact hcollision
  · intro h
    rw [h]

def chatContext : PromptCacheKeyContext := ⟨"default", "openai", "gpt", .openAiChatCompletions⟩

/-- A conversation behind one instruction, whose message has its fields in this order. -/
def shortConversation (instruction : List (String × Value)) : Value := .ofFields
  [("messages", .array [.ofFields instruction,
    .ofFields [("role", .string "user"), ("content", .string "hi")]])]

def beBrief : Value :=
  shortConversation [("role", .string "system"), ("content", .string "be brief")]

def beBriefReordered : Value :=
  shortConversation [("content", .string "be brief"), ("role", .string "system")]

def beLong : Value := shortConversation [("role", .string "system"), ("content", .string "be long")]

def staticPrefixOf (conversation : Value) : Value :=
  (openaiFamilyStaticPrefix chatContext .openAiChatCompletions conversation conversation).getD .null

def staticInput (staticPrefix : Value) : List UInt8 :=
  bytesOf "llmup.provider_prompt_cache." ++ bytesOf "static_prefix" ++ [0] ++
    bytesOf (canonicalJson staticPrefix)

/-- SHA-256 on two inputs, where its values have been worked out elsewhere. -/
def sampleDigest (bytes : List UInt8) : String :=
  if bytes = staticInput (staticPrefixOf beBrief) then
    "59644540c40cc4540833b3cd4ab3f648c83b84daae4c7ceb382677facbeb066a"
  else if bytes = staticInput (staticPrefixOf beLong) then
    "1f26e2b6e8a330058923eda851878dea0787e878bb363daa4f4b5802a43a3ba0"
  else hexEncode bytes

def keyOf (conversation : Value) : Option String :=
  (synthesizeOpenaiFamilyPromptCacheKeyFromSource sampleDigest chatContext .openAiChatCompletions
    conversation conversation).map fun result => result.1.key

theorem proper_shortConversation {name name' text text' : String} :
    (shortConversation [(name, .string text), (name', .string text')]).Proper := by
  refine proper_ofFields fun field hfield => ?_
  rw [List.mem_singleton.mp hfield]
  refine proper_array fun message hmem => ?_
  rcases List.mem_pair.mp hmem with rfl | rfl <;>
    refine proper_ofFields fun field hfield => ?_ <;>
    rcases List.mem_pair.mp hfield with rfl | rfl <;> exact proper_string _

theorem proper_staticPrefixOf {conversation : Value} (h : conversation.Proper) :
    (staticPrefixOf conversation).Proper := by
  unfold staticPrefixOf
  cases hprefix : openaiFamilyStaticPrefix chatContext .openAiChatCompletions conversation
      conversation with
  | none => nofun
  | some staticPrefix => exact proper_staticPrefix h h hprefix

/-- The two instructions make two texts. -/
theorem canonicalJson_beBrief_ne :
    canonicalJson (staticPrefixOf beBrief) ≠ canonicalJson (staticPrefixOf beLong) := by
  intro htext
  have hsame := (canonicalJson_eq_iff (proper_staticPrefixOf proper_shortConversation)
    (proper_staticPrefixOf proper_shortConversation)).mp htext
  exact absurd hsame.inKeyOrder_eq (by decide +kernel)

/-- And the digest tells them apart. -/
theorem fingerprint_beBrief_ne :
    scopedFingerprint sampleDigest "static_prefix" (canonicalJson (staticPrefixOf beBrief)) 32 ≠
      scopedFingerprint sampleDigest "static_prefix" (canonicalJson (staticPrefixOf beLong)) 32 := by
  have hinput : staticInput (staticPrefixOf beLong) ≠ staticInput (staticPrefixOf beBrief) :=
    fun hsame => canonicalJson_beBrief_ne
      (bytesOf_injective (List.append_cancel_left hsame)).symm
  show String.ofList ((sampleDigest (staticInput (staticPrefixOf beBrief))).toList.take 32) ≠
    String.ofList ((sampleDigest (staticInput (staticPrefixOf beLong))).toList.take 32)
  rw [sampleDigest, if_pos rfl, sampleDigest, if_neg hinput, if_pos rfl]
  decide

/-- Another instruction gives another key, and the same one in another order the same key; and the
key is there a message later. -/
theorem short_conversations_keyed :
    keyOf beBrief ≠ keyOf beLong ∧ keyOf beBrief = keyOf beBriefReordered ∧
      (synthesizeOpenaiFamilyPromptCacheKeyFromSource sampleDigest chatContext
          .openAiChatCompletions (extended .openAiChatCompletions beBrief [.string "later"])
          (extended .openAiChatCompletions beBrief [])).map Prod.fst =
        (synthesizeOpenaiFamilyPromptCacheKeyFromSource sampleDigest chatContext
          .openAiChatCompletions beBrief beBrief).map Prod.fst := by
  have hexact := prompt_cache_key_exact sampleDigest chatContext .openAiChatCompletions
  -- two keys are equal just if the prefixes are, where the digest tells the texts apart
  have hkeys : ∀ conversation other : Value, conversation.Proper → other.Proper →
      (keyOf conversation).isSome = true → (keyOf other).isSome = true →
      (scopedFingerprint sampleDigest "static_prefix"
          (canonicalJson (staticPrefixOf conversation)) 32 =
        scopedFingerprint sampleDigest "static_prefix" (canonicalJson (staticPrefixOf other)) 32 →
          canonicalJson (staticPrefixOf conversation) = canonicalJson (staticPrefixOf other)) →
      (keyOf conversation = keyOf other ↔
        SameJson (staticPrefixOf conversation) (staticPrefixOf other)) := by
    intro conversation other hproper hproper' hkey hkey' hcollision
    obtain ⟨result, hresult⟩ := Option.isSome_iff_exists.mp ((Option.isSome_map ..).symm.trans hkey)
    obtain ⟨result', hresult'⟩ :=
      Option.isSome_iff_exists.mp ((Option.isSome_map ..).symm.trans hkey')
    obtain ⟨staticPrefix, staticPrefix', hprefix, hprefix', -, hequal⟩ :=
      hexact.1 hproper hproper hproper' hproper' hresult hresult'
    simp only [keyOf, staticPrefixOf, hresult, hresult', hprefix, hprefix', Option.map_some,
      Option.getD_some, Option.some.injEq] at hcollision ⊢
    exact hequal hcollision
  refine ⟨fun hsame => ?_, ?_, ?_⟩
  · have hbrief := (hkeys _ _ proper_shortConversation proper_shortConversation (by decide +kernel)
      (by decide +kernel) fun hcontra => absurd hcontra fingerprint_beBrief_ne).mp hsame
    exact absurd hbrief.inKeyOrder_eq (by decide +kernel)
  · have hsame : SameJson (staticPrefixOf beBrief) (staticPrefixOf beBriefReordered) :=
      sameJson_of_inKeyOrder (by decide +kernel)
    have htext := (canonicalJson_eq_iff (proper_staticPrefixOf proper_shortConversation)
      (proper_staticPrefixOf proper_shortConversation)).mpr hsame
    exact (hkeys _ _ proper_shortConversation proper_shortConversation (by decide +kernel)
      (by decide +kernel) fun _ => htext).mpr hsame
  · exact hexact.2 _ _ _ ⟨_, rfl, by decide +kernel⟩

end LlmUniversalProxy
