import LlmUniversalProxy.Lib.U64
import LlmUniversalProxy.Translate.Content

/-!
# `UsageMapping` — a usage in the terms of another format

Six places of the proxy translate a usage by adding its counts up: two from Anthropic, where the
tokens read from a cache or written to it are prompt tokens (`translate/internal.rs` 1726-1775 for a
body, `streaming/anthropic_source.rs` 563-602 for the last chunk of a stream), two from Responses and
two to it (`openai_responses.rs` 2191-2300, `streaming/state.rs` 659-756). They differ in the names
of the fields, in what they keep of the details, and in what they copy over.

A mapping is split here into the counts that it adds and the value that it writes them to. The counts
come from the upstream as they are, each of them any `u64`, and the code adds them with a plain `+`.
What that gives depends on the build, so the addition is a parameter: with overflow checks a sum that
does not fit is a panic, and without them it wraps around. The release profile turns no checks on
(`Cargo.toml` 49-52), and the modules that run whole streams and responses read the mappings so.

The seventh mapping, to the usage of an Anthropic stream, adds nothing.
-/

set_option autoImplicit false

namespace LlmUniversalProxy

open Json Lib Translate

/-! ## Fields that are copied -/

/-- `copy_unknown_usage_fields`. -/
def copyUnknownUsageFields (source : List (String × Value)) (target : Value)
    (reservedKeys : List String) : Value :=
  source.foldl (fun target field =>
    if field.1 ∈ reservedKeys ∨ (target.get field.1).isSome then target
    else target.set field.1 field.2) target

/-- `clone_usage_details_object_stream`. -/
def cloneUsageDetailsObjectStream (details : Option Value) : Option Value := do
  let details ← details
  let object ← details.asObject
  if object.isEmpty then none else some details

/-- `target[key] = details`, when there are some. -/
def setDetails (target : Value) (key : String) (details : Option Value) : Value :=
  match cloneUsageDetailsObjectStream details with
  | some details => target.set key details
  | none => target

/-! ## What the mappings add -/

/-- Prompt, completion and total. -/
structure UsageCounts where
  prompt : Nat
  completion : Nat
  total : Nat
  deriving DecidableEq, Repr

/-- The numbers that a usage gives: what is no `u64` counts as nothing. -/
def tokensOf (usage : Value) (field : String) : Nat := (usage.getU64 field).getD 0

/-- A count that may have either of two names. -/
def tokensOfEither (usage : Value) (a b : String) : Nat :=
  (((usage.get a).or (usage.get b)).bind Value.asU64).getD 0

section

variable {m : Type → Type} [Monad m] (add : Nat → Nat → m Nat)

/-- The counts of an Anthropic usage, all of them added. -/
def claudeUsageCounts (usage : Value) : m UsageCounts := do
  let input ← add (tokensOf usage "input_tokens") (tokensOf usage "cache_read_input_tokens")
  let prompt ← add input (tokensOf usage "cache_creation_input_tokens")
  let total ← add prompt (tokensOf usage "output_tokens")
  pure ⟨prompt, tokensOf usage "output_tokens", total⟩

/-- The counts of an OpenAI usage: `unwrap_or` takes the sum also when there is a total. -/
def openaiUsageCounts (usage : Value) (prompt completion : Nat) : m UsageCounts := do
  let sum ← add prompt completion
  pure ⟨prompt, completion, (usage.getU64 "total_tokens").getD sum⟩

def responsesUsageCounts (usage : Value) : m UsageCounts :=
  openaiUsageCounts add usage (tokensOfEither usage "input_tokens" "prompt_tokens")
    (tokensOfEither usage "output_tokens" "completion_tokens")

def chatUsageCounts (usage : Value) : m UsageCounts :=
  openaiUsageCounts add usage (tokensOf usage "prompt_tokens") (tokensOf usage "completion_tokens")

end

/-! ## Where they are written to -/

/-- The three fields, under the names of the target. -/
def countFields (promptField completionField : String) (counts : UsageCounts) : Value :=
  .ofFields [(promptField, .nat counts.prompt), (completionField, .nat counts.completion),
    ("total_tokens", .nat counts.total)]

/-- The two fields on the prompt cache, when they are not zero. -/
def withCacheTokens (usage json : Value) : Value :=
  let cacheRead := tokensOf usage "cache_read_input_tokens"
  let cacheCreation := tokensOf usage "cache_creation_input_tokens"
  let json := if cacheRead > 0 then json.set "cache_read_input_tokens" (.nat cacheRead) else json
  if cacheCreation > 0 then json.set "cache_creation_input_tokens" (.nat cacheCreation) else json

/-- One of the mappings of a usage to another format that adds counts up. -/
inductive UsageMapping where
  /-- In `claude_response_to_openai_internal`. -/
  | claudeResponse
  /-- In `claude_event_to_openai_chunks`. -/
  | claudeStream
  /-- `responses_usage_to_openai_usage`. -/
  | responses
  /-- `responses_usage_to_openai_usage_stream`. -/
  | responsesStream
  /-- `openai_usage_to_responses_usage`. -/
  | openai
  /-- `openai_usage_to_responses_usage_stream`. -/
  | openaiStream
  deriving DecidableEq, Repr

namespace UsageMapping

/-- The fields that the counts of a prompt and of a completion are written to. -/
def fields : UsageMapping → String × String
  | openai | openaiStream => ("input_tokens", "output_tokens")
  | _ => ("prompt_tokens", "completion_tokens")

/-- What is added up, in the order of the code. -/
def counts {m : Type → Type} [Monad m] (add : Nat → Nat → m Nat) :
    UsageMapping → Value → m UsageCounts
  | claudeResponse | claudeStream => claudeUsageCounts add
  | responses | responsesStream => responsesUsageCounts add
  | openai | openaiStream => chatUsageCounts add

/-- The mapped usage. Every mapping writes its counts and details first and then copies what it does
not know; which names count as known is each one's own list. -/
def write (usage : Value) (counts : UsageCounts) : UsageMapping → Value
  -- the prompt of Anthropic leaves the cache tokens out: they are in the counts, and have fields
  | claudeResponse =>
      copyRemainingUsageFields usage
        (withCacheTokens usage (countFields "prompt_tokens" "completion_tokens" counts))
        ["input_tokens", "output_tokens", "cache_read_input_tokens", "cache_creation_input_tokens"]
  -- nothing is reserved here: a field of the source is only kept out by one that is there
  | claudeStream =>
      copyUnknownUsageFields (usage.asObject.getD [])
        (withCacheTokens usage (countFields "prompt_tokens" "completion_tokens" counts)) []
  | responses =>
      let mapped := setUsageDetails (countFields "prompt_tokens" "completion_tokens" counts)
        "prompt_tokens_details"
        ((usage.get "input_tokens_details").or (usage.get "prompt_tokens_details"))
      let mapped := setUsageDetails mapped "completion_tokens_details"
        ((usage.get "output_tokens_details").or (usage.get "completion_tokens_details"))
      copyRemainingUsageFields usage mapped ["input_tokens", "prompt_tokens", "output_tokens",
        "completion_tokens", "total_tokens", "input_tokens_details", "prompt_tokens_details",
        "output_tokens_details", "completion_tokens_details"]
  | responsesStream =>
      let mapped := setDetails (countFields "prompt_tokens" "completion_tokens" counts)
        "prompt_tokens_details"
        ((usage.get "input_tokens_details").or (usage.get "prompt_tokens_details"))
      let mapped := setDetails mapped "completion_tokens_details"
        ((usage.get "output_tokens_details").or (usage.get "completion_tokens_details"))
      copyUnknownUsageFields (usage.asObject.getD []) mapped ["input_tokens", "prompt_tokens",
        "output_tokens", "completion_tokens", "total_tokens", "input_tokens_details",
        "prompt_tokens_details", "output_tokens_details", "completion_tokens_details"]
  | openai =>
      let mapped := setUsageDetails (countFields "input_tokens" "output_tokens" counts)
        "input_tokens_details" (usage.get "prompt_tokens_details")
      let mapped :=
        setUsageDetails mapped "output_tokens_details" (usage.get "completion_tokens_details")
      copyRemainingUsageFields usage mapped ["prompt_tokens", "completion_tokens", "total_tokens",
        "prompt_tokens_details", "completion_tokens_details"]
  | openaiStream =>
      let mapped := setDetails (countFields "input_tokens" "output_tokens" counts)
        "input_tokens_details" (usage.get "prompt_tokens_details")
      let mapped :=
        setDetails mapped "output_tokens_details" (usage.get "completion_tokens_details")
      copyUnknownUsageFields (usage.asObject.getD []) mapped ["prompt_tokens", "completion_tokens",
        "total_tokens", "prompt_tokens_details", "completion_tokens_details"]

/-- The mapping as it runs in either build; `none` is a panic. -/
def run (checks : Bool) (mapping : UsageMapping) (usage : Value) : Option Value :=
  (mapping.counts (addU64 checks) usage).map fun counts => mapping.write usage counts

def wrappedCounts (mapping : UsageMapping) (usage : Value) : UsageCounts :=
  Id.run (mapping.counts (fun a b => pure (wrappingAdd a b)) usage)

/-- The mapping in a build without overflow checks. -/
def wrapped (mapping : UsageMapping) (usage : Value) : Value :=
  mapping.write usage (mapping.wrappedCounts usage)

end UsageMapping

/-! ## The mappings by their names -/

/-- The usage of a completion that `claude_response_to_openai_internal` makes of a body. -/
def claudeResponseUsageToOpenaiUsage (usage : Value) : Value :=
  UsageMapping.claudeResponse.wrapped usage

/-- The usage of the last chunk that `claude_event_to_openai_chunks` makes of a `message_stop`. -/
def claudeUsageToOpenaiUsage (usage : Value) : Value := UsageMapping.claudeStream.wrapped usage

/-- `responses_usage_to_openai_usage`. -/
def responsesUsageToOpenaiUsage (usage : Value) : Value := UsageMapping.responses.wrapped usage

/-- `responses_usage_to_openai_usage_stream`. -/
def responsesUsageToOpenaiUsageStream (usage : Value) : Value :=
  UsageMapping.responsesStream.wrapped usage

/-- `openai_usage_to_responses_usage`. -/
def openaiUsageToResponsesUsage (usage : Value) : Value := UsageMapping.openai.wrapped usage

/-- `openai_usage_to_responses_usage_stream`. -/
def openaiUsageToResponsesUsageStream (usage : Value) : Value :=
  UsageMapping.openaiStream.wrapped usage

/-- `openai_usage_to_anthropic_usage_stream`. -/
def openaiUsageToAnthropicUsageStream (usage : Value) : Value :=
  .ofFields [("input_tokens", .nat (tokensOf usage "prompt_tokens")),
    ("output_tokens", .nat (tokensOf usage "completion_tokens"))]

/-! ## The fields of a mapped usage -/

/-- What is there is not copied over. -/
theorem get_copy {keep : Value → String × Value → Prop}
    [∀ target field, Decidable (keep target field)]
    (hkeep : ∀ target field, (target.get field.1).isSome = true → keep target field) {k : String}
    {x : Value} (fields : List (String × Value)) {target : Value} (hx : target.get k = some x) :
    (fields.foldl (fun target field =>
      if keep target field then target else target.set field.1 field.2) target).get k = some x := by
  induction fields generalizing target with
  | nil => exact hx
  | cons field fields ih =>
    rw [List.foldl_cons]
    split
    · exact ih hx
    · next hnot =>
      refine ih ?_
      have hne : k ≠ field.1 := by
        rintro rfl
        refine hnot (hkeep target field ?_)
        rw [hx]
        rfl
      rw [Value.get_set_of_ne target field.2 hne, hx]

section

variable {target : Value} {k : String} {x : Value}

theorem get_copyRemaining (source : Value) (consumedFields : List String)
    (hx : target.get k = some x) :
    (copyRemainingUsageFields source target consumedFields).get k = some x := by
  unfold copyRemainingUsageFields
  split
  · exact hx
  · exact get_copy (fun _ _ h => Bool.or_eq_true_iff.mpr (.inr h)) _ hx

theorem get_copyUnknown (source : List (String × Value)) (reservedKeys : List String)
    (hx : target.get k = some x) : (copyUnknownUsageFields source target reservedKeys).get k =
      some x := get_copy (fun _ _ h => .inr h) source hx

theorem get_setUsageDetails {key : String} (hkey : k ≠ key) (details : Option Value) :
    (setUsageDetails target key details).get k = target.get k := by
  unfold setUsageDetails
  split
  · split
    · rfl
    · exact Value.get_set_of_ne target _ hkey
  · rfl

theorem get_setDetails {key : String} (hkey : k ≠ key) (details : Option Value) :
    (setDetails target key details).get k = target.get k := by
  unfold setDetails
  split
  · exact Value.get_set_of_ne target _ hkey
  · rfl

theorem get_withCacheTokens (usage : Value) (hread : k ≠ "cache_read_input_tokens")
    (hcreation : k ≠ "cache_creation_input_tokens") :
    (withCacheTokens usage target).get k = target.get k := by
  unfold withCacheTokens
  dsimp only
  split
  · rw [Value.get_set_of_ne _ _ hcreation]
    split
    · exact Value.get_set_of_ne _ _ hread
    · rfl
  · split
    · exact Value.get_set_of_ne _ _ hread
    · rfl

end

/-- A field that the mappings write nothing but a count to. -/
def IsCountField (k : String) : Prop :=
  k ≠ "cache_read_input_tokens" ∧ k ≠ "cache_creation_input_tokens" ∧
    k ≠ "prompt_tokens_details" ∧ k ≠ "completion_tokens_details" ∧
    k ≠ "input_tokens_details" ∧ k ≠ "output_tokens_details"

theorem get_write (mapping : UsageMapping) (usage : Value) (counts : UsageCounts) {k : String}
    {n : Nat} (hk : IsCountField k)
    (hn : (countFields mapping.fields.1 mapping.fields.2 counts).get k = some (.nat n)) :
    (mapping.write usage counts).get k = some (.nat n) := by
  obtain ⟨hread, hcreation, hprompt, hcompletion, hinput, houtput⟩ := hk
  cases mapping with
  | claudeResponse =>
    exact get_copyRemaining usage _ ((get_withCacheTokens usage hread hcreation).trans hn)
  | claudeStream =>
    exact get_copyUnknown _ _ ((get_withCacheTokens usage hread hcreation).trans hn)
  | responses =>
    refine get_copyRemaining usage _ ?_
    rw [get_setUsageDetails hcompletion, get_setUsageDetails hprompt]
    exact hn
  | responsesStream =>
    refine get_copyUnknown _ _ ?_
    rw [get_setDetails hcompletion, get_setDetails hprompt]
    exact hn
  | openai =>
    refine get_copyRemaining usage _ ?_
    rw [get_setUsageDetails houtput, get_setUsageDetails hinput]
    exact hn
  | openaiStream =>
    refine get_copyUnknown _ _ ?_
    rw [get_setDetails houtput, get_setDetails hinput]
    exact hn

/-- The three counts stand in the mapped usage, whatever is added to it. -/
theorem counts_of_write (mapping : UsageMapping) (usage : Value) (counts : UsageCounts) :
    (mapping.write usage counts).getU64 mapping.fields.1 = some counts.prompt ∧
      (mapping.write usage counts).getU64 mapping.fields.2 = some counts.completion ∧
      (mapping.write usage counts).getU64 "total_tokens" = some counts.total := by
  have hget {k : String} {n : Nat} (hk : IsCountField k)
      (hn : (countFields mapping.fields.1 mapping.fields.2 counts).get k = some (.nat n)) :
      (mapping.write usage counts).getU64 k = some n := by
    unfold Value.getU64
    rw [get_write mapping usage counts hk hn]
    rfl
  refine ⟨hget ?_ ?_, hget ?_ ?_, hget ?_ ?_⟩
  all_goals cases mapping <;> simp [IsCountField, countFields, UsageMapping.fields, List.lookup_cons]

end LlmUniversalProxy
