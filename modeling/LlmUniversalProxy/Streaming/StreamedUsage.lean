import LlmUniversalProxy.Streaming.MessageUsage
import LlmUniversalProxy.Usage

/-!
# `Streaming.StreamedUsage` — usage behind the finish reason

A Chat stream that is asked for its usage sends it in a chunk of its own, behind the one with the
finish reason. The sink for Anthropic ends the message at the finish reason, and so does the one for
Responses unless the model is one that is known to send its usage late. What they report is what
they have been told until then.

`late_usage_told_iff` is about the counts: a client is told those of the last chunk if and only if
the last usage up to the finish chunk has the same, or for Responses the end could wait. A client
that is not told any, because its stream was refused or rejected, is not compared.
-/

set_option autoImplicit false

namespace LlmUniversalProxy.Streaming

open Json Lib Translate

/-! ## A whole stream -/

/-- The last usage that is among the chunks; a `null` counts as one. -/
def lastUsage (chunks : List (Env × Value)) : Option Value :=
  (chunks.filterMap fun chunk => chunk.2.get "usage").getLast?

theorem lastUsage_cons (chunk : Env × Value) (chunks : List (Env × Value)) :
    lastUsage (chunk :: chunks) = (lastUsage chunks).or (chunk.2.get "usage") := by
  unfold lastUsage
  rw [List.filterMap_cons]
  cases chunk.2.get "usage" with
  | none => rw [Option.or_none]
  | some usage =>
    rw [List.getLast?_cons]
    cases (chunks.filterMap fun chunk => chunk.2.get "usage").getLast? <;> rfl

theorem lastUsage_concat (chunks : List (Env × Value)) (chunk : Env × Value) :
    lastUsage (chunks ++ [chunk]) = (chunk.2.get "usage").or (lastUsage chunks) := by
  induction chunks with
  | nil => cases h : chunk.2.get "usage" <;> simp [lastUsage, h]
  | cons first chunks ih =>
    rw [List.cons_append, lastUsage_cons, ih, lastUsage_cons, Option.or_assoc]

/-- The model of a stream is the first that is named. -/
def firstModel (chunks : List (Env × Value)) : Option String :=
  chunks.findSome? fun chunk => modelOf chunk.2

/-- The chunks of a response, one after the other; each comes with its own surroundings. -/
def responsesRun : List (Env × Value) → StreamState → List SseFrame × StreamState
  | [], s => ([], s)
  | (env, chunk) :: chunks, s =>
      let (out, s) := openaiChunkToResponsesSse env chunk s
      let (rest, s) := responsesRun chunks s
      (out ++ rest, s)

theorem responsesRun_append (before after : List (Env × Value)) (s : StreamState) :
    responsesRun (before ++ after) s =
      ((responsesRun before s).1 ++ (responsesRun after (responsesRun before s).2).1,
        (responsesRun after (responsesRun before s).2).2) := by
  induction before generalizing s with
  | nil => rfl
  | cons first before ih =>
    obtain ⟨env, chunk⟩ := first
    simp [responsesRun, ih]

theorem claudeRun_append (before after : List (Env × Value)) (s : StreamState) :
    claudeRun (before ++ after) s =
      ((claudeRun before s).1 ++ (claudeRun after (claudeRun before s).2).1,
        (claudeRun after (claudeRun before s).2).2) := by
  induction before generalizing s with
  | nil => rfl
  | cons first before ih =>
    obtain ⟨env, chunk⟩ := first
    simp [claudeRun, ih]

/-- The chunks that a message takes: behind a refusal, only those with an error. -/
def heededFrom : Bool → List (Env × Value) → List (Env × Value)
  | _, [] => []
  | refused, chunk :: chunks =>
      let rest := heededFrom (refused || isRefused chunk.1 chunk.2) chunks
      if refused && (chunk.2.get "error").isNone then rest else chunk :: rest

theorem heededFrom_append (refused : Bool) (before after : List (Env × Value)) :
    heededFrom refused (before ++ after) = heededFrom refused before ++
      heededFrom (refused || before.any fun chunk => isRefused chunk.1 chunk.2) after := by
  induction before generalizing refused with
  | nil => simp [heededFrom]
  | cons chunk before ih =>
    rw [List.cons_append]
    simp only [heededFrom, ih, List.any_cons, Bool.or_assoc]
    split
    · rfl
    · rw [List.cons_append]

theorem usage_capture (chunk : Value) (s : StreamState) :
    (captureUsageClaude chunk s).usage =
      ((chunk.get "usage").map openaiUsageToAnthropicUsageStream).or s.usage := by
  unfold captureUsageClaude
  cases chunk.get "usage" <;> rfl

theorem claudeRun_kept (chunks : List (Env × Value)) (s : StreamState) :
    (claudeRun chunks s).2.usage = ((lastUsage (heededFrom s.fatalRejection.isSome chunks)).map
        openaiUsageToAnthropicUsageStream).or s.usage ∧
      (claudeRun chunks s).2.fatalRejection.isSome =
        (s.fatalRejection.isSome || chunks.any fun chunk => isRefused chunk.1 chunk.2) := by
  induction chunks generalizing s with
  | nil => simp [claudeRun, heededFrom, lastUsage]
  | cons first chunks ih =>
    obtain ⟨env, chunk⟩ := first
    have htells := chunkTells env chunk s
    obtain ⟨husage, hrefused⟩ := ih (openaiChunkToClaudeSse env chunk s).2
    simp only [claudeRun, heededFrom]
    rw [husage, hrefused, htells.usage, htells.refused, isPassedOver, List.any_cons, Bool.or_assoc]
    refine ⟨?_, rfl⟩
    split
    · rfl
    · rw [lastUsage_cons, Option.map_or, usage_capture, Option.or_assoc]

/-- A stream as `stream_options.include_usage` has it: the chunks without a finish reason, the one
with it, and one with nothing but the usage. -/
structure UsageStream where
  before : List (Env × Value)
  finish : Env × Value
  last : Env × Value
  /-- The usage of the last chunk. -/
  usage : Value
  /-- The surroundings of the `[DONE]`. -/
  done : Env
  unfinished : ∀ chunk ∈ before, finishReasonOf chunk.2 = none
  finishes : (finishReasonOf finish.2).isSome = true
  alone : last.2.getArray "choices" = some []
  told : last.2.get "usage" = some usage
  real : usage.isNull = false

def chatTokens (usage : Value) : UsageCounts := UsageMapping.openaiStream.exact usage

def anthropicTokens (usage : Value) : Option (Nat × Nat) := do
  let input ← usage.getU64 "input_tokens"
  let output ← usage.getU64 "output_tokens"
  pure (input, output)

/-- Those that a usage of the Responses API has. -/
def responsesTokens (usage : Value) : Option UsageCounts := do
  let input ← usage.getU64 "input_tokens"
  let output ← usage.getU64 "output_tokens"
  let total ← usage.getU64 "total_tokens"
  pure ⟨input, output, total⟩

/-- A Chat usage that comes to these counts, its total given or added up in 64 bits. -/
def ComesTo (counts : UsageCounts) (usage : Value) : Prop :=
  tokensOf usage "prompt_tokens" = counts.prompt ∧
    tokensOf usage "completion_tokens" = counts.completion ∧
    (usage.getU64 "total_tokens").getD (wrappingAdd counts.prompt counts.completion) = counts.total

theorem responsesTokens_of_mapped (counts : UsageCounts) (usage : Value) :
    responsesTokens (openaiUsageToResponsesUsageStream usage) = some counts ↔
      ComesTo counts usage := by
  obtain ⟨hinput, houtput, htotal⟩ :=
    counts_of_write .openaiStream usage (UsageMapping.openaiStream.wrappedCounts usage)
  simp only [UsageMapping.fields] at hinput houtput
  unfold responsesTokens openaiUsageToResponsesUsageStream UsageMapping.wrapped ComesTo
  rw [hinput, houtput, htotal]
  show some (UsageMapping.openaiStream.wrappedCounts usage) = some counts ↔ _
  have hwrapped : UsageMapping.openaiStream.wrappedCounts usage =
      ⟨tokensOf usage "prompt_tokens", tokensOf usage "completion_tokens",
        (usage.getU64 "total_tokens").getD (wrappingAdd (tokensOf usage "prompt_tokens")
          (tokensOf usage "completion_tokens"))⟩ := rfl
  rw [Option.some_inj, hwrapped]
  constructor
  · rintro rfl
    exact ⟨rfl, rfl, rfl⟩
  · rintro ⟨hprompt, hcompletion, htotal⟩
    rw [hprompt, hcompletion, htotal]

/-- What a message tells of a usage, or of none. -/
theorem anthropicTokens_of_mapped (usage : Option Value) :
    anthropicTokens ((usage.map openaiUsageToAnthropicUsageStream).getD noUsage) =
      some (tokensOf (usage.getD .null) "prompt_tokens",
        tokensOf (usage.getD .null) "completion_tokens") := by
  cases usage with
  | none => rfl
  | some usage =>
    simp [anthropicTokens, openaiUsageToAnthropicUsageStream, Value.getU64, List.lookup_cons]

def EndTells (usage : Option Value) (frames : List SseFrame) : Prop :=
  (∃ f ∈ frames, f.isTerminal = true) ∧
    ∀ f ∈ frames, f.isTerminal = true → responseUsage f = usage

theorem EndsTelling.endTells {usage : Option Value} {s : StreamState} {k : Sink}
    (h : EndsTelling usage ⟨s, []⟩ k) : EndTells usage k.out := by
  obtain ⟨more, last, hout, hquiet, hlast, husage⟩ := h.out
  rw [hout, List.nil_append]
  refine ⟨⟨last, by simp, hlast⟩, ?_⟩
  intro f hf hterminal
  rcases List.mem_append.mp hf with hf | hf
  · rw [hquiet f hf] at hterminal
    cases hterminal
  · rw [List.mem_singleton.mp hf]
    exact husage

theorem EndTells.behind {usage : Option Value} {before frames : List SseFrame}
    (h : EndTells usage frames) (hbefore : ∀ f ∈ before, f.isTerminal = false) :
    EndTells usage (before ++ frames) := by
  obtain ⟨⟨last, hmem, hlast⟩, htells⟩ := h
  refine ⟨⟨last, List.mem_append_right _ hmem, hlast⟩, ?_⟩
  intro f hf hterminal
  rcases List.mem_append.mp hf with hf | hf
  · rw [hbefore f hf] at hterminal
    cases hterminal
  · exact htells f hf hterminal

theorem Quiet.frames {s : StreamState} {k : Sink} (h : Quiet ⟨s, []⟩ k) :
    ∀ f ∈ k.out, f.isTerminal = false := by
  obtain ⟨more, hmore, hquiet⟩ := h.out
  rw [hmore, List.nil_append]
  exact hquiet

/-- Behind its end, a response is told nothing more. -/
theorem responsesRun_sent {chunks : List (Env × Value)} {s : StreamState}
    (h : s.responsesTerminalSent = true) :
    (responsesRun chunks s).1 = [] ∧ (responsesRun chunks s).2.responsesTerminalSent = true := by
  induction chunks generalizing s with
  | nil => exact ⟨rfl, h⟩
  | cons first chunks ih =>
    obtain ⟨env, chunk⟩ := first
    obtain ⟨hnone, hsent⟩ := (chunk_endsProperly env chunk s).silent h
    obtain ⟨hrest, hsent'⟩ := ih hsent
    simp [responsesRun, hnone, hrest, hsent']

def isRejected (chunk : Value) : Bool := (callsOf chunk).any namesReserved

theorem responsesRun_unfinished {chunks : List (Env × Value)} {s : StreamState}
    (hchunks : ∀ chunk ∈ chunks, finishReasonOf chunk.2 = none)
    (hopen : s.responsesTerminalSent = false) (hs : s.finishReason = none) :
    (chunks.any (fun chunk => isRejected chunk.2) = true ∧
        (responsesRun chunks s).2.responsesTerminalSent = true ∧
        EndTells (some .null) (responsesRun chunks s).1) ∨
      (chunks.any (fun chunk => isRejected chunk.2) = false ∧
        (responsesRun chunks s).2.responsesTerminalSent = false ∧
        (responsesRun chunks s).2.usage = (lastUsage chunks).or s.usage ∧
        (responsesRun chunks s).2.model = s.model.or (firstModel chunks) ∧
        ∀ f ∈ (responsesRun chunks s).1, f.isTerminal = false) := by
  induction chunks generalizing s with
  | nil => exact .inr ⟨rfl, hopen, rfl, by simp [responsesRun, firstModel], fun f hf => (nomatch hf)⟩
  | cons first chunks ih =>
    obtain ⟨env, chunk⟩ := first
    have hunfinished := hchunks _ List.mem_cons_self
    have hlater := fun later hlater => hchunks later (List.mem_cons_of_mem _ hlater)
    simp only [responsesRun, List.any_cons]
    have houtcome := responsesOutcome env chunk hopen
    generalize openaiChunkToResponsesSse env chunk s = r at houtcome ⊢
    cases houtcome with
    | @rejected k hname hends =>
      obtain ⟨hnone, hsent⟩ := @responsesRun_sent chunks _ hends.sent
      rw [hnone, List.append_nil]
      exact .inl ⟨by rw [isRejected, hname, Bool.true_or], hsent, hends.endTells⟩
    | @ended k hname hlast hends =>
      have hnot : endsWithChunk chunk s = false := by
        simp [endsWithChunk, errorFinish, finishReasonAfter, hunfinished, hs]
      rw [hnot] at hlast
      cases hlast
    | @goesOn k hname hlast hquiet husage hmodel hfinish =>
      have hfinish : k.state.finishReason = none := by
        rw [hfinish, finishReasonAfter, hunfinished, hs]
        rfl
      rw [isRejected, hname, Bool.false_or]
      rcases ih hlater (hquiet.sent.trans hopen) hfinish with
        ⟨hany, hsent, htells⟩ | ⟨hany, hunsent, hlater, hlaterModel, hnone⟩
      · exact .inl ⟨hany, hsent, htells.behind hquiet.frames⟩
      · refine .inr ⟨hany, hunsent, ?_, ?_, ?_⟩
        · rw [hlater, husage, lastUsage_cons, Option.or_assoc]
          rfl
        · rw [hlaterModel, hmodel, Option.or_assoc, firstModel, firstModel, List.findSome?_cons]
          cases modelOf chunk <;> rfl
        intro f hf
        exact (List.mem_append.mp hf).elim (hquiet.frames f) (hnone f)

namespace UsageStream

/-- The state of a new stream, but for what the request brings. -/
def start (bridgeContext : Option Value) (responseId : Option String) : StreamState where
  requestScopedToolBridgeContext := bridgeContext
  responsesResponseIdOverride := responseId

variable (self : UsageStream) (s : StreamState)

def chunks : List (Env × Value) := self.before ++ [self.finish, self.last]

/-- The frames for a client of the Responses API. -/
def responsesSent : List SseFrame :=
  let r := responsesRun self.chunks s
  r.1 ++ (responsesDone self.done r.2).1

/-- The usages that an Anthropic client is told with a `message_delta`; `[DONE]` adds none. -/
def anthropicTold : List (Option Value) :=
  (claudeRun self.chunks s).1.filterMap messageDeltaUsage

def isRejected : Bool :=
  (self.before ++ [self.finish]).any fun chunk => Streaming.isRejected chunk.2

def upToFinish : List (Env × Value) := self.before ++ [self.finish]

/-- A message with a `message_delta` at its end: it goes on until the finish chunk, is not refused
with it, and its finish reason is no error. -/
def endsMessage : Bool :=
  !(self.before.any (fun chunk => isRefused chunk.1 chunk.2) &&
      (self.finish.2.get "error").isNone) &&
    !isRefused self.finish.1 self.finish.2 && (finishReasonOf self.finish.2).any stopsMessage

/-- The response does not wait for the usage: its finish reason is an error, the finish chunk has a
usage itself, or the model is not one that sends its usage late. -/
def endsAtFinish : Bool :=
  errorFinish self.finish.2 || tellsUsage self.finish.2 ||
    !((self.finish.2.getStr "model").or (firstModel self.upToFinish)).any fun model =>
      Text.startsWith model "MiniMax-"

/-- The usage that the end of a response tells, if no call ends it early. -/
def lastTold : Option Value :=
  if self.endsAtFinish then lastUsage self.upToFinish else some self.usage

/-- The usage that the end of a response tells. -/
def responsesTold : Option Value :=
  if self.isRejected then some .null else self.lastTold.map openaiUsageToResponsesUsageStream

theorem endsAtFinish_eq {s : StreamState} (hmodel : s.model = firstModel self.before) :
    endsWithChunk self.finish.2 s = self.endsAtFinish := by
  have hreason : (finishReasonAfter self.finish.2 s).isSome = true := by
    rw [finishReasonAfter, Option.isSome_or, self.finishes, Bool.true_or]
  have hnamed : (captureModel self.finish.2 s).model = firstModel self.upToFinish := by
    rw [model_captureModel, hmodel, upToFinish, firstModel, firstModel, List.findSome?_append]
    cases h : modelOf self.finish.2 <;> simp [h]
  unfold endsWithChunk endsAtFinish isMinimaxChunk
  rw [hreason, Bool.true_and, hnamed, Bool.or_assoc]

/-- Nothing comes behind the end. -/
theorem responsesSent_of_sent {chunks : List (Env × Value)} {s : StreamState}
    (h : s.responsesTerminalSent = true) (done : Env) :
    (responsesRun chunks s).1 ++ (responsesDone done (responsesRun chunks s).2).1 = [] := by
  obtain ⟨hnone, hsent⟩ := @responsesRun_sent chunks _ h
  rw [hnone, List.nil_append, responsesDone, if_pos hsent]

/-- The chunk behind the finish reason has no calls, and its usage ends the response. -/
theorem last_ends {s : StreamState} (hopen : s.responsesTerminalSent = false)
    (hfinish : s.finishReason.isSome = true) :
    EndTells (some (openaiUsageToResponsesUsageStream self.usage))
        (openaiChunkToResponsesSse self.last.1 self.last.2 s).1 ∧
      (openaiChunkToResponsesSse self.last.1 self.last.2 s).2.responsesTerminalSent = true := by
  have hchoice : firstChoice self.last.2 = none := by
    rw [firstChoice, self.alone]
    rfl
  have hcalls : (callsOf self.last.2).any namesReserved = false := by
    rw [callsOf, hchoice]
    rfl
  have hlast : endsWithChunk self.last.2 s = true := by
    have hreason : finishReasonOf self.last.2 = none := by
      rw [finishReasonOf, hchoice]
      rfl
    simp [endsWithChunk, finishReasonAfter, hreason, hfinish, tellsUsage, self.told, self.real]
  have houtcome := responsesOutcome self.last.1 self.last.2 hopen
  generalize openaiChunkToResponsesSse self.last.1 self.last.2 s = r at houtcome ⊢
  cases houtcome with
  | rejected hname hends =>
    rw [hcalls] at hname
    cases hname
  | ended hname hlast hends =>
    have husage : usageAfter self.last.2 s = some self.usage := by
      rw [usageAfter, self.told]
      rfl
    rw [husage] at hends
    exact ⟨hends.endTells, hends.sent⟩
  | goesOn hname hnot =>
    rw [hlast] at hnot
    cases hnot

/-- **What the end of a response tells.** -/
theorem responses_told (hopen : s.responsesTerminalSent = false) (hs : s.finishReason = none)
    (husage : s.usage = none) (hmodel : s.model = none) :
    EndTells self.responsesTold (self.responsesSent s) := by
  unfold responsesSent responsesTold isRejected chunks
  rw [List.any_append, responsesRun_append]
  rcases responsesRun_unfinished self.unfinished hopen hs with
    ⟨hany, hsent, htells⟩ | ⟨hany, hunsent, hkept, hnamed, hnone⟩
  · -- a call before the finish reason has ended the stream
    rw [hany, Bool.true_or, if_pos rfl]
    dsimp only
    rw [List.append_assoc, responsesSent_of_sent hsent, List.append_nil]
    exact htells
  rw [husage, Option.or_none] at hkept
  rw [hmodel, Option.none_or] at hnamed
  rw [hany, Bool.false_or]
  dsimp only
  rw [List.append_assoc]
  generalize (responsesRun self.before s).2 = atFinish at hunsent hkept hnamed ⊢
  refine EndTells.behind ?_ hnone
  simp only [List.any_cons, List.any_nil, Bool.or_false]
  rw [responsesRun]
  dsimp only
  rw [List.append_assoc]
  -- the finish chunk: it is rejected, it ends the response, or the end is put off to the usage
  -- chunk
  have houtcome := responsesOutcome self.finish.1 self.finish.2 hunsent
  have hends := self.endsAtFinish_eq hnamed
  generalize openaiChunkToResponsesSse self.finish.1 self.finish.2 atFinish = r at houtcome ⊢
  cases houtcome with
  | rejected hname hends =>
    rw [responsesSent_of_sent hends.sent, List.append_nil, Streaming.isRejected, hname,
      if_pos rfl]
    exact hends.endTells
  | ended hname hlast htells =>
    rw [responsesSent_of_sent htells.sent, List.append_nil, Streaming.isRejected, hname,
      if_neg (by simp), lastTold, ← hends, if_pos hlast, upToFinish, lastUsage_concat, ← hkept]
    exact htells.endTells
  | @goesOn k hname hlast hquiet husage hmodel hfinish =>
    rw [Streaming.isRejected, hname, if_neg (by simp), lastTold, ← hends, hlast,
      if_neg (by simp)]
    refine EndTells.behind ?_ hquiet.frames
    have hreason : k.state.finishReason.isSome = true := by
      rw [hfinish, finishReasonAfter, Option.isSome_or, self.finishes, Bool.true_or]
    obtain ⟨htells, hsent⟩ := self.last_ends (hquiet.sent.trans hunsent) hreason
    rw [responsesRun]
    dsimp only
    rw [List.append_assoc, responsesSent_of_sent hsent, List.append_nil]
    exact htells

/-- The usage that the chunks leave with a message. -/
def keptUsage : Option Value := lastUsage (heededFrom false self.upToFinish)

theorem claudeRun_unfinished {chunks : List (Env × Value)} {s : StreamState}
    (hchunks : ∀ chunk ∈ chunks, finishReasonOf chunk.2 = none) :
    (claudeRun chunks s).1.filterMap messageDeltaUsage = [] := by
  induction chunks generalizing s with
  | nil => rfl
  | cons first chunks ih =>
    obtain ⟨env, chunk⟩ := first
    have hnot := @not_endsMessage env chunk s (hchunks _ List.mem_cons_self)
    simp only [claudeRun, List.filterMap_append, (chunkTells env chunk s).told, hnot,
      ih fun later hlater => hchunks later (List.mem_cons_of_mem _ hlater)]
    rfl

/-- **What the end of a message tells.** -/
theorem anthropic_told (hs : s.fatalRejection = none) (husage : s.usage = none) :
    self.anthropicTold s = if self.endsMessage then
      [some ((self.keptUsage.map openaiUsageToAnthropicUsageStream).getD noUsage)] else [] := by
  have hlast : finishReasonOf self.last.2 = none := by
    rw [finishReasonOf, firstChoice, self.alone]
    rfl
  obtain ⟨hkept, hrefused⟩ := claudeRun_kept self.before s
  rw [hs, Option.isSome_none, Bool.false_or] at hrefused
  rw [hs, Option.isSome_none, husage, Option.or_none] at hkept
  have hends : Streaming.endsMessage self.finish.1 self.finish.2 (claudeRun self.before s).2 =
      self.endsMessage := by
    unfold Streaming.endsMessage endsMessage isPassedOver
    rw [hrefused]
  unfold anthropicTold chunks
  rw [claudeRun_append, List.filterMap_append, claudeRun_unfinished self.unfinished,
    List.nil_append]
  simp only [claudeRun, List.filterMap_append, (chunkTells _ _ _).told, not_endsMessage hlast,
    hends, Bool.false_eq_true, if_false, List.append_nil]
  cases h : self.endsMessage with
  | false => rfl
  | true =>
    rw [if_pos rfl, if_pos rfl, usage_capture, hkept, ← Option.map_or]
    have hheeded : heededFrom false self.upToFinish =
        heededFrom false self.before ++ [self.finish] := by
      have hnot : ((self.before.any fun chunk => isRefused chunk.1 chunk.2) &&
          (self.finish.2.get "error").isNone) = false := by
        rw [endsMessage, Bool.and_assoc, Bool.and_eq_true, Bool.not_eq_true'] at h
        exact h.1
      rw [upToFinish, heededFrom_append, Bool.false_or]
      simp only [heededFrom, hnot, Bool.false_eq_true, if_false]
    rw [keptUsage, hheeded, lastUsage_concat]

/-- An Anthropic client is told the counts of the last chunk wherever it is told any. -/
def TellsAnthropic : Prop :=
  ∀ usage ∈ self.anthropicTold s, usage.bind anthropicTokens =
    some ((chatTokens self.usage).prompt, (chatTokens self.usage).completion)

/-- The response ends, and a client of the Responses API is told the counts of the last chunk. -/
def TellsResponses : Prop :=
  (∃ f ∈ self.responsesSent s, f.isTerminal = true) ∧
    ∀ f ∈ self.responsesSent s, f.isTerminal = true →
      (responseUsage f).bind responsesTokens = some (chatTokens self.usage)

theorem tellsResponses_iff (hopen : s.responsesTerminalSent = false) (hs : s.finishReason = none)
    (husage : s.usage = none) (hmodel : s.model = none) :
    self.TellsResponses s ↔
      self.responsesTold.bind responsesTokens = some (chatTokens self.usage) := by
  obtain ⟨⟨f, hf, hterminal⟩, htells⟩ := self.responses_told s hopen hs husage hmodel
  constructor
  · intro h
    rw [← htells f hf hterminal]
    exact h.2 f hf hterminal
  · intro h
    refine ⟨⟨f, hf, hterminal⟩, ?_⟩
    intro g hg hlast
    rw [htells g hg hlast]
    exact h

end UsageStream

/-- **The usage behind the finish reason reaches the client** only if it was known before. A message
that ends with a `message_delta` tells the last usage that has come up to the finish chunk, or
nothing. So does a response that no call ends early, unless its end is put off until the usage is
there; its total may have to be added up. -/
theorem late_usage_told_iff (bridgeContext : Option Value) (responseId : Option String)
    (stream : UsageStream) :
    let s := UsageStream.start bridgeContext responseId
    (stream.TellsAnthropic s ↔
      (stream.endsMessage = true →
        tokensOf (stream.keptUsage.getD .null) "prompt_tokens" =
            tokensOf stream.usage "prompt_tokens" ∧
          tokensOf (stream.keptUsage.getD .null) "completion_tokens" =
            tokensOf stream.usage "completion_tokens")) ∧
    (stream.TellsResponses s ↔
      stream.isRejected = false ∧
        ∃ usage, stream.lastTold = some usage ∧ ComesTo (chatTokens stream.usage) usage) := by
  intro s
  constructor
  · rw [UsageStream.TellsAnthropic, stream.anthropic_told s rfl rfl]
    cases stream.endsMessage with
    | false => simp
    | true =>
      rw [if_pos rfl]
      simp only [List.mem_singleton, forall_eq, Option.bind_some, anthropicTokens_of_mapped,
        Option.some_inj, Prod.mk.injEq, forall_const]
      rfl
  · rw [stream.tellsResponses_iff s rfl rfl rfl rfl, UsageStream.responsesTold]
    cases stream.isRejected with
    | true => exact iff_of_false (by rintro ⟨⟩) (by rintro ⟨⟨⟩, _⟩)
    | false =>
      rw [if_neg (by simp)]
      cases stream.lastTold with
      | none => exact iff_of_false (by rintro ⟨⟩) (by rintro ⟨-, usage, ⟨⟩, -⟩)
      | some usage =>
        rw [Option.map_some, Option.bind_some, responsesTokens_of_mapped]
        simp

/-- An answer with its usage behind the finish reason. -/
def lateUsage : UsageStream where
  before := [chatChunk (.ofFields [("content", .string "hi")]) none]
  finish := chatChunk (.ofFields []) (some "stop")
  last := (.still, .ofFields [("choices", .array []), ("usage", .ofFields [
    ("prompt_tokens", .nat 3), ("completion_tokens", .nat 2), ("total_tokens", .nat 5)])])
  usage := .ofFields [("prompt_tokens", .nat 3), ("completion_tokens", .nat 2),
    ("total_tokens", .nat 5)]
  done := .still
  unfinished := by decide +kernel
  finishes := by decide +kernel
  alone := by decide +kernel
  told := by decide +kernel
  real := rfl

/-- The message ends with no tokens at all, and the response without a usage. -/
theorem late_usage_is_lost :
    ¬ lateUsage.TellsAnthropic (UsageStream.start none none) ∧
      ¬ lateUsage.TellsResponses (UsageStream.start none none) := by
  constructor
  · intro h
    have htold : lateUsage.anthropicTold (UsageStream.start none none) = [some noUsage] := by decide +kernel
    have htokens := h (some noUsage) (by rw [htold]; exact List.mem_singleton_self _)
    exact absurd htokens (by decide)
  · rw [lateUsage.tellsResponses_iff _ rfl rfl rfl rfl]
    have htold : lateUsage.responsesTold = none := by decide +kernel
    rw [htold]
    rintro ⟨⟩

end LlmUniversalProxy.Streaming
