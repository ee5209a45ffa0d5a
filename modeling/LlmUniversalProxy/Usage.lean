import LlmUniversalProxy.UsageMapping

/-!
# `Usage` — when the counts of a usage are translated exactly

The mappings of `UsageMapping` and the reader of the hooks, `NormalizedUsage::from_client_body`
(`hooks.rs` 315-409), add up counts that an upstream may choose freely, in 64 bits. This module says
what the sums are meant to be, over the natural numbers, and for which usages the code computes
them: exactly when they fit. Where one does not, a build with overflow checks panics and one without
tells a wrong count.

A total that the usage gives is passed on and not checked against its parts. The sum is computed
even then (`unwrap_or` is not lazy), which matters to a build with checks only; the hooks compute it
lazily (`or_else`).
-/

set_option autoImplicit false

namespace LlmUniversalProxy

open Json Lib Translate

namespace UsageMapping

/-- The counts that are meant: what was given as the total, or the sum. -/
def exact (usage : Value) : UsageMapping → UsageCounts
  | claudeResponse | claudeStream =>
      let prompt := tokensOf usage "input_tokens" + tokensOf usage "cache_read_input_tokens" +
        tokensOf usage "cache_creation_input_tokens"
      ⟨prompt, tokensOf usage "output_tokens", prompt + tokensOf usage "output_tokens"⟩
  | responses | responsesStream =>
      let prompt := tokensOfEither usage "input_tokens" "prompt_tokens"
      let completion := tokensOfEither usage "output_tokens" "completion_tokens"
      ⟨prompt, completion, (usage.getU64 "total_tokens").getD (prompt + completion)⟩
  | openai | openaiStream =>
      let prompt := tokensOf usage "prompt_tokens"
      let completion := tokensOf usage "completion_tokens"
      ⟨prompt, completion, (usage.getU64 "total_tokens").getD (prompt + completion)⟩

/-- The mapping returns, with the counts that are meant. -/
def IsExact (checks : Bool) (mapping : UsageMapping) (usage : Value) : Prop :=
  ∃ result, mapping.run checks usage = some result ∧
    result.getU64 mapping.fields.1 = some (mapping.exact usage).prompt ∧
    result.getU64 mapping.fields.2 = some (mapping.exact usage).completion ∧
    result.getU64 "total_tokens" = some (mapping.exact usage).total

/-- What is added up is a `u64`. A sum that is not used may wrap around, unless that is checked. -/
def Fits (checks : Bool) (usage : Value) : UsageMapping → Prop
  | claudeResponse | claudeStream =>
      tokensOf usage "input_tokens" + tokensOf usage "cache_read_input_tokens" +
        tokensOf usage "cache_creation_input_tokens" + tokensOf usage "output_tokens" ≤ u64Max
  | responses | responsesStream =>
      tokensOfEither usage "input_tokens" "prompt_tokens" +
          tokensOfEither usage "output_tokens" "completion_tokens" ≤ u64Max ∨
        checks = false ∧ (usage.getU64 "total_tokens").isSome
  | openai | openaiStream =>
      tokensOf usage "prompt_tokens" + tokensOf usage "completion_tokens" ≤ u64Max ∨
        checks = false ∧ (usage.getU64 "total_tokens").isSome

instance (checks : Bool) (usage : Value) : (mapping : UsageMapping) →
    Decidable (mapping.Fits checks usage)
  | claudeResponse | claudeStream => inferInstanceAs (Decidable (_ ≤ _))
  | responses | responsesStream => inferInstanceAs (Decidable (_ ∨ _))
  | openai | openaiStream => inferInstanceAs (Decidable (_ ∨ _))

end UsageMapping

/-! ## The sums -/

section

variable {checks : Bool} {usage : Value}

theorem claudeUsageCounts_iff {counts : UsageCounts}
    (hexact : counts = UsageMapping.exact usage .claudeResponse) :
    claudeUsageCounts (addU64 checks) usage = some counts ↔
      UsageMapping.Fits checks usage .claudeResponse := by
  subst hexact
  unfold UsageMapping.Fits UsageMapping.exact claudeUsageCounts
  generalize tokensOf usage "input_tokens" = input
  generalize tokensOf usage "cache_read_input_tokens" = cacheRead
  generalize tokensOf usage "cache_creation_input_tokens" = cacheCreation
  generalize tokensOf usage "output_tokens" = output
  constructor
  · intro h
    obtain ⟨first, -, h⟩ := Option.bind_eq_some_iff.mp h
    obtain ⟨prompt, -, h⟩ := Option.bind_eq_some_iff.mp h
    obtain ⟨total, htotal, h⟩ := Option.bind_eq_some_iff.mp h
    cases h
    exact addU64_le htotal
  · intro h
    have hprompt : input + cacheRead + cacheCreation ≤ u64Max := Nat.le_of_add_right_le h
    have hfirst : input + cacheRead ≤ u64Max := Nat.le_of_add_right_le hprompt
    simp [addU64_of_le hfirst, addU64_of_le hprompt, addU64_of_le h]

theorem openaiUsageCounts_iff {prompt completion : Nat} :
    openaiUsageCounts (addU64 checks) usage prompt completion =
        some ⟨prompt, completion, (usage.getU64 "total_tokens").getD (prompt + completion)⟩ ↔
      prompt + completion ≤ u64Max ∨ checks = false ∧ (usage.getU64 "total_tokens").isSome := by
  unfold openaiUsageCounts
  constructor
  · intro h
    obtain ⟨sum, hsum, h⟩ := Option.bind_eq_some_iff.mp h
    cases hexplicit : usage.getU64 "total_tokens" with
    | none =>
      rw [hexplicit] at h
      cases h
      exact .inl (addU64_le hsum)
    | some total =>
      cases checks with
      | false => exact .inr ⟨rfl, rfl⟩
      | true => exact .inl (addU64_checked_iff.mp hsum).1
  · rintro (hle | ⟨rfl, hexplicit⟩)
    · rw [addU64_of_le hle]
      rfl
    · obtain ⟨total, htotal⟩ := Option.isSome_iff_exists.mp hexplicit
      obtain ⟨sum, hsum⟩ := addU64_unchecked prompt completion
      rw [hsum, htotal]
      rfl

theorem counts_iff (mapping : UsageMapping) :
    mapping.counts (addU64 checks) usage = some (mapping.exact usage) ↔ mapping.Fits checks usage := by
  cases mapping with
  | claudeResponse => exact claudeUsageCounts_iff rfl
  | claudeStream => exact claudeUsageCounts_iff rfl
  | responses => exact openaiUsageCounts_iff
  | responsesStream => exact openaiUsageCounts_iff
  | openai => exact openaiUsageCounts_iff
  | openaiStream => exact openaiUsageCounts_iff

end

/-- **A mapping is exact if and only if its sums fit.** -/
theorem isExact_iff (checks : Bool) (mapping : UsageMapping) (usage : Value) :
    mapping.IsExact checks usage ↔ mapping.Fits checks usage := by
  rw [← counts_iff]
  unfold UsageMapping.IsExact UsageMapping.run
  constructor
  · rintro ⟨result, hresult, hprompt, hcompletion, htotal⟩
    obtain ⟨counts, hcounts, rfl⟩ := Option.map_eq_some_iff.mp hresult
    obtain ⟨hp, hc, ht⟩ := counts_of_write mapping usage counts
    rw [hcounts]
    have hp' := Option.some.inj (hp.symm.trans hprompt)
    have hc' := Option.some.inj (hc.symm.trans hcompletion)
    have ht' := Option.some.inj (ht.symm.trans htotal)
    cases counts
    simp only at hp' hc' ht'
    rw [hp', hc', ht']
  · intro hcounts
    rw [hcounts]
    exact ⟨_, rfl, counts_of_write mapping usage _⟩

/-! ## The usage that the hooks are told -/

/-- `NormalizedUsage`. -/
structure NormalizedUsage where
  inputTokens : Option Nat
  outputTokens : Option Nat
  totalTokens : Option Nat
  cachedInputTokens : Option Nat
  reasoningTokens : Option Nat
  cacheCreationInputTokens : Option Nat
  cacheReadInputTokens : Option Nat
  deriving DecidableEq, Repr

/-- The sum of two counts, if both are there; the outer `none` is a panic. -/
def addCounts (checks : Bool) : Option Nat → Option Nat → Option (Option Nat)
  | some input, some output => (addU64 checks input output).map some
  | _, _ => some none

/-- `or_else`: the sum is taken only when there is no total. -/
def totalOrSum (checks : Bool) (total input output : Option Nat) : Option (Option Nat) :=
  if total.isSome then some total else addCounts checks input output

def detailTokens (usage : Value) (details field : String) : Option Nat :=
  (usage.get details).bind (Value.getU64 · field)

/-- `NormalizedUsage::from_client_body` (`hooks.rs` 315-409); `none` is a panic. -/
def NormalizedUsage.fromClientBody (checks : Bool) (format : UpstreamFormat) (body : Value) :
    Option NormalizedUsage :=
  let usage := (body.get "usage").getD .null
  match format with
  | .openAiChatCompletions => do
      let total ← totalOrSum checks (usage.getU64 "total_tokens") (usage.getU64 "prompt_tokens")
        (usage.getU64 "completion_tokens")
      pure
        { inputTokens := usage.getU64 "prompt_tokens"
          outputTokens := usage.getU64 "completion_tokens"
          totalTokens := total
          cachedInputTokens := (detailTokens usage "prompt_tokens_details" "cached_tokens").or
            (usage.getU64 "cache_read_input_tokens")
          reasoningTokens := detailTokens usage "completion_tokens_details" "reasoning_tokens"
          cacheCreationInputTokens := usage.getU64 "cache_creation_input_tokens"
          cacheReadInputTokens := usage.getU64 "cache_read_input_tokens" }
  | .openAiResponses => do
      let total ← totalOrSum checks (usage.getU64 "total_tokens") (usage.getU64 "input_tokens")
        (usage.getU64 "output_tokens")
      pure
        { inputTokens := usage.getU64 "input_tokens"
          outputTokens := usage.getU64 "output_tokens"
          totalTokens := total
          cachedInputTokens := detailTokens usage "input_tokens_details" "cached_tokens"
          reasoningTokens := detailTokens usage "output_tokens_details" "reasoning_tokens"
          cacheCreationInputTokens := usage.getU64 "cache_creation_input_tokens"
          cacheReadInputTokens := usage.getU64 "cache_read_input_tokens" }
  | .anthropic => do
      let total ← addCounts checks (usage.getU64 "input_tokens") (usage.getU64 "output_tokens")
      pure
        { inputTokens := usage.getU64 "input_tokens"
          outputTokens := usage.getU64 "output_tokens"
          totalTokens := total
          cachedInputTokens := usage.getU64 "cache_read_input_tokens"
          reasoningTokens := none
          cacheCreationInputTokens := usage.getU64 "cache_creation_input_tokens"
          cacheReadInputTokens := usage.getU64 "cache_read_input_tokens" }

namespace NormalizedUsage

/-- The fields that the counts of a format are read from. -/
def fields : UpstreamFormat → String × String
  | .openAiChatCompletions => ("prompt_tokens", "completion_tokens")
  | .openAiResponses | .anthropic => ("input_tokens", "output_tokens")

/-- The total that a body gives. Anthropic's has none. -/
def explicitTotal (format : UpstreamFormat) (usage : Value) : Option Nat :=
  match format with
  | .anthropic => none
  | _ => usage.getU64 "total_tokens"

/-- The usage of a body is read, and its total is the one it gives, or else the sum of its counts
when it gives both. -/
def IsExact (checks : Bool) (format : UpstreamFormat) (body : Value) : Prop :=
  let usage := (body.get "usage").getD .null
  ∃ result, fromClientBody checks format body = some result ∧
    result.inputTokens = usage.getU64 (fields format).1 ∧
    result.outputTokens = usage.getU64 (fields format).2 ∧
    result.totalTokens = (explicitTotal format usage).or
      (result.inputTokens.bind fun input => result.outputTokens.map (input + ·))

/-- A sum that is taken is a `u64`. -/
def Fits (format : UpstreamFormat) (body : Value) : Prop :=
  let usage := (body.get "usage").getD .null
  explicitTotal format usage = none →
    ∀ input ∈ usage.getU64 (fields format).1, ∀ output ∈ usage.getU64 (fields format).2,
      input + output ≤ u64Max

end NormalizedUsage

section

variable {checks : Bool}

theorem addCounts_iff {input output : Option Nat} :
    addCounts checks input output = some (input.bind fun input => output.map (input + ·)) ↔
      ∀ i ∈ input, ∀ o ∈ output, i + o ≤ u64Max := by
  cases input with
  | none => simp [addCounts]
  | some i =>
    cases output with
    | none => simp [addCounts]
    | some o =>
      simp only [addCounts, Option.bind_some, Option.map_some, Option.mem_some_iff, forall_eq']
      constructor
      · intro h
        obtain ⟨sum, hsum, heq⟩ := Option.map_eq_some_iff.mp h
        cases heq
        exact addU64_le hsum
      · intro h
        rw [addU64_of_le h]
        rfl

theorem totalOrSum_iff {total input output : Option Nat} :
    totalOrSum checks total input output =
        some (total.or (input.bind fun input => output.map (input + ·))) ↔
      (total = none → ∀ i ∈ input, ∀ o ∈ output, i + o ≤ u64Max) := by
  cases total with
  | none =>
    rw [Option.none_or, ← @addCounts_iff checks]
    simp [totalOrSum]
  | some t => simp [totalOrSum]

/-- The total is all that is computed: the rest is read. -/
theorem exact_iff_total {total : Option (Option Nat)} {write : Option Nat → NormalizedUsage}
    {input output explicit : Option Nat} (hinput : ∀ t, (write t).inputTokens = input)
    (houtput : ∀ t, (write t).outputTokens = output) (htotal : ∀ t, (write t).totalTokens = t) :
    (∃ result, (total.bind fun t => some (write t)) = some result ∧ result.inputTokens = input ∧
        result.outputTokens = output ∧ result.totalTokens = explicit.or
          (result.inputTokens.bind fun input => result.outputTokens.map (input + ·))) ↔
      total = some (explicit.or (input.bind fun input => output.map (input + ·))) := by
  constructor
  · rintro ⟨result, hresult, -, -, heq⟩
    obtain ⟨t, rfl, h⟩ := Option.bind_eq_some_iff.mp hresult
    cases h
    rw [htotal, hinput, houtput] at heq
    rw [heq]
  · intro h
    refine ⟨_, by rw [h]; rfl, hinput _, houtput _, ?_⟩
    rw [htotal, hinput, houtput]

/-- **The usage for the hooks is exact if and only if the sum that is taken fits.** -/
theorem normalized_iff (format : UpstreamFormat) (body : Value) :
    NormalizedUsage.IsExact checks format body ↔ NormalizedUsage.Fits format body := by
  cases format with
  | openAiChatCompletions =>
    exact Iff.trans (exact_iff_total (fun _ => rfl) (fun _ => rfl) fun _ => rfl) totalOrSum_iff
  | openAiResponses =>
    exact Iff.trans (exact_iff_total (fun _ => rfl) (fun _ => rfl) fun _ => rfl) totalOrSum_iff
  | anthropic =>
    refine Iff.trans (exact_iff_total (fun _ => rfl) (fun _ => rfl) fun _ => rfl) ?_
    exact addCounts_iff.trans ⟨fun h _ => h, fun h => h rfl⟩

end

/-! ## All mappings -/

/-- **When the counts of a usage are translated exactly.** A mapping that adds is exact if and only
if its sums fit; the one to Anthropic adds nothing, and always is. -/
theorem usage_exact_iff (checks : Bool) (usage : Value) :
    (∀ mapping : UsageMapping, mapping.IsExact checks usage ↔ mapping.Fits checks usage) ∧
      (∀ format body,
        NormalizedUsage.IsExact checks format body ↔ NormalizedUsage.Fits format body) ∧
      (openaiUsageToAnthropicUsageStream usage).getU64 "input_tokens" =
        some (tokensOf usage "prompt_tokens") ∧
      (openaiUsageToAnthropicUsageStream usage).getU64 "output_tokens" =
        some (tokensOf usage "completion_tokens") := by
  refine ⟨fun mapping => isExact_iff checks mapping usage, fun format body =>
    normalized_iff format body, ?_, ?_⟩
  · simp [openaiUsageToAnthropicUsageStream, Value.getU64, tokensOf]
  · simp [openaiUsageToAnthropicUsageStream, Value.getU64, tokensOf, List.lookup_cons]

/-- A usage that no mapping to OpenAI can add up, with checks or without: the prompt is as large as
a count can be, and one token was generated. -/
theorem usage_overflows :
    let usage := Value.ofFields [("input_tokens", .nat u64Max), ("output_tokens", .nat 1)]
    (¬ UsageMapping.claudeResponse.IsExact true usage ∧
      ¬ UsageMapping.claudeResponse.IsExact false usage) ∧
    ¬ UsageMapping.responses.IsExact true usage ∧ ¬ UsageMapping.responses.IsExact false usage := by
  dsimp only
  rw [isExact_iff, isExact_iff, isExact_iff, isExact_iff]
  decide

end LlmUniversalProxy
