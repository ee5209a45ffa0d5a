import LlmUniversalProxy.Streaming.AnthropicRun

/-!
# `Streaming.AnthropicUsage` — the usage of an Anthropic message, streamed or in one piece

The counts of a message come in pieces: some with its start, and more with every `message_delta`. A
count holds until it is reported anew. The stream remembers the usage of the last `message_delta`
as a whole, and nothing of the usage that comes with the start (`streaming/anthropic_source.rs`
170-186 and 520-531), so that it tells less than the message in one piece where the last
`message_delta` leaves something out.

Both paths add in 64 bits, and here they do so without overflow checks. Counts that are left out may
therefore still come to nothing: the sum of the prompt tokens is only known modulo `2^64`.
-/

set_option autoImplicit false

namespace LlmUniversalProxy.Streaming

open Json Lib Translate

/-! ## What is reported -/

/-- The counts of an Anthropic usage. -/
def tokenFields : List String :=
  ["input_tokens", "output_tokens", "cache_read_input_tokens", "cache_creation_input_tokens"]

/-- The usage that a `message_delta` brings. -/
def deltaUsage (event : Value) : Option Value :=
  if event.getStr "type" = some "message_delta" then event.get "usage" else none

def startUsage (event : Value) : Option Value :=
  if event.getStr "type" = some "message_start" then
    (event.get "message").bind (Value.get · "usage")
  else none

def reportedUsages (events : List Value) : List Value :=
  events.filterMap fun event => (startUsage event).or (deltaUsage event)

/-- The usage of the last `message_delta` that has one. -/
def lastDeltaUsage (events : List Value) : Option Value := (events.filterMap deltaUsage).getLast?

def latestTokens (usages : List Value) (field : String) : Option Nat :=
  (usages.filterMap (Value.getU64 · field)).getLast?

/-- The usage of a message in one piece: it has one if any was reported, and of every count what was
reported last. -/
structure TellsUsage (events : List Value) (body : Value) : Prop where
  present : (body.get "usage").isSome = true ↔ reportedUsages events ≠ []
  counts : ∀ usage, body.get "usage" = some usage → ∀ field ∈ tokenFields,
    usage.getU64 field = latestTokens (reportedUsages events) field

def tokenCounts (usage : Value) : List (Option Nat) :=
  [usage.getU64 "prompt_tokens", usage.getU64 "completion_tokens", usage.getU64 "total_tokens"]

/-- Two results with the same counts, or with no usage. -/
def SameUsage (streamed whole : Value) : Prop :=
  (streamed.get "usage").map tokenCounts = (whole.get "usage").map tokenCounts

/-- What was last reported of a count that this usage leaves out. -/
def leftOut (usages : List Value) (usage : Value) (field : String) : Nat :=
  if (usage.getU64 field).isSome then 0 else (latestTokens usages field).getD 0

/-- What was reported is in the last `message_delta` with a usage: it leaves out no output tokens,
and no prompt tokens that a sum of 64 bits would show. -/
def UsageCarried (events : List Value) : Prop :=
  reportedUsages events ≠ [] → ∃ usage, lastDeltaUsage events = some usage ∧
    leftOut (reportedUsages events) usage "output_tokens" = 0 ∧
    (leftOut (reportedUsages events) usage "input_tokens" +
      leftOut (reportedUsages events) usage "cache_read_input_tokens" +
      leftOut (reportedUsages events) usage "cache_creation_input_tokens") % (u64Max + 1) = 0

/-! ## Counts -/

def promptOf (tokens : String → Nat) : Nat :=
  wrappingAdd (wrappingAdd (tokens "input_tokens") (tokens "cache_read_input_tokens"))
    (tokens "cache_creation_input_tokens")

/-- The counts that come of these tokens. -/
def countsOf (tokens : String → Nat) : List (Option Nat) :=
  [some (promptOf tokens), some (tokens "output_tokens"),
    some (wrappingAdd (promptOf tokens) (tokens "output_tokens"))]

theorem tokenCounts_streamed (usage : Value) :
    tokenCounts (claudeUsageToOpenaiUsage usage) = countsOf (tokensOf usage) := by
  obtain ⟨hprompt, hcompletion, htotal⟩ := counts_of_write .claudeStream usage
    (UsageMapping.claudeStream.wrappedCounts usage)
  simp only [UsageMapping.fields] at hprompt hcompletion
  unfold tokenCounts claudeUsageToOpenaiUsage UsageMapping.wrapped
  rw [hprompt, hcompletion, htotal]
  rfl

theorem tokenCounts_whole (usage : Value) :
    tokenCounts (claudeResponseUsageToOpenaiUsage usage) = countsOf (tokensOf usage) := by
  obtain ⟨hprompt, hcompletion, htotal⟩ := counts_of_write .claudeResponse usage
    (UsageMapping.claudeResponse.wrappedCounts usage)
  simp only [UsageMapping.fields] at hprompt hcompletion
  unfold tokenCounts claudeResponseUsageToOpenaiUsage UsageMapping.wrapped
  rw [hprompt, hcompletion, htotal]
  rfl

/-- A sum of 64 bits does not depend on where it wraps around. -/
theorem promptOf_eq (tokens : String → Nat) :
    promptOf tokens = (tokens "input_tokens" + tokens "cache_read_input_tokens" +
      tokens "cache_creation_input_tokens") % (u64Max + 1) := by
  unfold promptOf wrappingAdd
  rw [Nat.mod_add_mod]

theorem countsOf_eq_iff {tokens others : String → Nat} :
    countsOf tokens = countsOf others ↔
      promptOf tokens = promptOf others ∧ tokens "output_tokens" = others "output_tokens" := by
  unfold countsOf
  constructor
  · intro h
    injection h with hprompt h
    injection h with houtput _
    exact ⟨Option.some.inj hprompt, Option.some.inj houtput⟩
  · rintro ⟨hprompt, houtput⟩
    rw [hprompt, houtput]

/-! ## The state along a stream -/

section

variable (env : Env)

theorem deltaUsage_none {event : Value} (h : event.getStr "type" ≠ some "message_delta") :
    deltaUsage event = none := if_neg h

/-- An event of the middle: only a `message_delta` brings usage, and it brings its own. -/
theorem usage_event {event : Value} {s : StreamState}
    (haccepted : (claudeEventToOpenaiChunks env event s).state.fatalRejection = none)
    (hevent : IsMiddle event) :
    (claudeEventToOpenaiChunks env event s).state.usage = (deltaUsage event).or s.usage ∧
      (claudeEventToOpenaiChunks env event s).state.finishReasonSent = s.finishReasonSent := by
  by_cases hdelta : event.getStr "type" = some "message_delta"
  · rw [event_messageDelta env (accepted_before env haccepted) hdelta, deltaUsage, if_pos hdelta]
    exact ⟨rfl, rfl⟩
  · have hkept := kept_event env haccepted hdelta hevent.2
    rw [deltaUsage_none hdelta]
    exact ⟨hkept.usage, hkept.finishReasonSent⟩

/-- Along the middle of a message, the usage in the state is the last one that came. -/
theorem usage_run {events : List Value} (hevents : ∀ event ∈ events, IsMiddle event) {k : Source}
    (haccepted : (runEvents (claudeEventToOpenaiChunks env) events k).state.fatalRejection = none) :
    (runEvents (claudeEventToOpenaiChunks env) events k).state.usage =
        (lastDeltaUsage events).or k.state.usage ∧
      (runEvents (claudeEventToOpenaiChunks env) events k).state.finishReasonSent =
        k.state.finishReasonSent := by
  induction events generalizing k with
  | nil => exact ⟨rfl, rfl⟩
  | cons event events ih =>
    have hnext : (claudeEventToOpenaiChunks env event k.state).state.fatalRejection = none :=
      accepted_before_run env (k := runEvent _ k event) haccepted
    obtain ⟨husage, hsent⟩ := usage_event env hnext (hevents event List.mem_cons_self)
    obtain ⟨hrest, hrestSent⟩ := ih (fun other hother => hevents other
      (List.mem_cons_of_mem _ hother)) (k := runEvent _ k event) haccepted
    refine ⟨?_, hrestSent.trans hsent⟩
    rw [runEvents_cons, hrest]
    show _ = (lastDeltaUsage (event :: events)).or k.state.usage
    have hstate : (runEvent (claudeEventToOpenaiChunks env) k event).state.usage =
        (deltaUsage event).or k.state.usage := husage
    rw [hstate]
    unfold lastDeltaUsage
    rw [List.filterMap_cons]
    cases deltaUsage event with
    | none => rfl
    | some usage =>
      rw [List.getLast?_cons]
      cases (events.filterMap deltaUsage).getLast? <;> rfl

theorem last_chunk {event : Value} {s : StreamState} (hs : s.fatalRejection = none)
    (hsent : s.finishReasonSent = false) (htype : event.getStr "type" = some "message_stop") :
    ∃ last, (claudeEventToOpenaiChunks env event s).out.getLast? = some last ∧
      last.get "usage" = s.usage.map claudeUsageToOpenaiUsage := by
  rw [event_messageStop env hs htype]
  unfold messageStop
  rw [hsent, if_neg Bool.false_ne_true]
  dsimp only
  rw [List.getLast?_append_of_ne_nil _ (List.cons_ne_nil _ _), List.getLast?_singleton]
  refine ⟨_, rfl, ?_⟩
  have hkept := (kept_finalizeAll env (((hashWalk env s.claudeToolUses).filter fun e =>
    !e.2.finalized).map Prod.fst) ⟨s, []⟩).usage
  rw [hkept]
  cases s.usage with
  | none =>
    show (openaiChunk env _ _ _).get "usage" = none
    rw [openaiChunk, Value.get_ofFields]
    rfl
  | some usage =>
    show (Value.set (openaiChunk env _ _ _) "usage" _).get "usage" = _
    rw [openaiChunk, Value.get_set_ofFields, if_pos rfl]
    rfl

end

/-- The last chunk of a message has the usage of its last `message_delta`. -/
theorem last_of_run (env : Env) {start stop : Value} {middle : List Value}
    (hstart : start.getStr "type" = some "message_start")
    (hmiddle : ∀ event ∈ middle, IsMiddle event)
    (hstop : stop.getStr "type" = some "message_stop")
    (haccepted : (runEvents (claudeEventToOpenaiChunks env) (start :: middle)
      ⟨{}, []⟩).state.fatalRejection = none) :
    ∃ last, (runEvents (claudeEventToOpenaiChunks env) (start :: (middle ++ [stop]))
        ⟨{}, []⟩).out.getLast? = some last ∧
      last.get "usage" = (lastDeltaUsage middle).map claudeUsageToOpenaiUsage := by
  have hbegun : (claudeEventToOpenaiChunks env start {}).state.fatalRejection = none :=
    accepted_before_run env (k := runEvent _ ⟨{}, []⟩ start) haccepted
  have hkept : Kept {} (claudeEventToOpenaiChunks env start {}).state :=
    kept_event env hbegun (by rw [hstart]; decide) (by rw [hstart]; decide)
  obtain ⟨husage, hsent⟩ := usage_run env hmiddle (k := runEvent _ ⟨{}, []⟩ start) haccepted
  obtain ⟨last, hlast, hchunk⟩ := last_chunk env haccepted (hsent.trans hkept.finishReasonSent) hstop
  have hbefore : (runEvent (claudeEventToOpenaiChunks env) ⟨{}, []⟩ start).state.usage = none :=
    hkept.usage
  refine ⟨last, ?_, ?_⟩
  · rw [runEvents_cons, runEvents_append, runEvents_cons, runEvents_nil]
    show (_ ++ (claudeEventToOpenaiChunks env stop _).out).getLast? = _
    rw [List.getLast?_append]
    have hout : (claudeEventToOpenaiChunks env stop (runEvents (claudeEventToOpenaiChunks env)
        middle (runEvent (claudeEventToOpenaiChunks env) ⟨{}, []⟩ start)).state).out.getLast? =
          some last := hlast
    rw [hout]
    rfl
  · rw [hchunk]
    show ((runEvents (claudeEventToOpenaiChunks env) middle
      (runEvent (claudeEventToOpenaiChunks env) ⟨{}, []⟩ start)).state.usage).map _ = _
    rw [husage, hbefore, Option.or_none]

/-! ## Main result -/

theorem latestTokens_concat (usages : List Value) (usage : Value) (field : String) :
    latestTokens (usages ++ [usage]) field =
      (usage.getU64 field).or (latestTokens usages field) := by
  unfold latestTokens
  rw [List.filterMap_append]
  cases h : usage.getU64 field with
  | none => simp [h]
  | some tokens => simp [h]

/-- What the last usage says of a count holds; what it leaves out comes on top. -/
theorem latest_of_last {usages : List Value} {usage : Value}
    (hlast : usages.getLast? = some usage) (field : String) :
    (latestTokens usages field).getD 0 = tokensOf usage field + leftOut usages usage field := by
  obtain ⟨before, rfl⟩ := List.getLast?_eq_some_iff.mp hlast
  unfold leftOut tokensOf
  cases h : usage.getU64 field with
  | none => simp
  | some tokens => simp [latestTokens_concat, h]

/-- The counts of a message agree with those of its last usage if and only if nothing is left out
that counts. -/
theorem countsOf_last_iff {usages : List Value} {usage : Value} {tokens : String → Nat}
    (hlast : usages.getLast? = some usage)
    (htokens : ∀ field ∈ tokenFields, tokens field = (latestTokens usages field).getD 0) :
    countsOf (tokensOf usage) = countsOf tokens ↔
      leftOut usages usage "output_tokens" = 0 ∧
      (leftOut usages usage "input_tokens" + leftOut usages usage "cache_read_input_tokens" +
        leftOut usages usage "cache_creation_input_tokens") % (u64Max + 1) = 0 := by
  have hsum : ∀ field ∈ tokenFields,
      tokens field = tokensOf usage field + leftOut usages usage field :=
    fun field hfield => (htokens field hfield).trans (latest_of_last hlast field)
  rw [countsOf_eq_iff, promptOf_eq, promptOf_eq, hsum "input_tokens" (by decide),
    hsum "output_tokens" (by decide), hsum "cache_read_input_tokens" (by decide),
    hsum "cache_creation_input_tokens" (by decide)]
  unfold u64Max
  omega

section

variable (env : TranslationEnv) {start stop : Value} {middle : List Value}

theorem reportedUsages_eq (hstart : start.getStr "type" = some "message_start")
    (hmiddle : ∀ event ∈ middle, IsMiddle event) :
    reportedUsages (start :: middle) = (startUsage start).toList ++ middle.filterMap deltaUsage := by
  have hdelta : deltaUsage start = none := by
    refine deltaUsage_none ?_
    rw [hstart]
    decide
  have hrest : middle.filterMap (fun event => (startUsage event).or (deltaUsage event)) =
      middle.filterMap deltaUsage := by
    refine List.filterMap_congr fun event hevent => ?_
    rw [startUsage, if_neg (hmiddle event hevent).1, Option.none_or]
  unfold reportedUsages
  rw [List.filterMap_cons, hdelta, Option.or_none, hrest]
  cases startUsage start <;> rfl

theorem lastDeltaUsage_cons (hstart : start.getStr "type" = some "message_start") :
    lastDeltaUsage (start :: middle) = lastDeltaUsage middle := by
  unfold lastDeltaUsage
  rw [List.filterMap_cons, deltaUsage_none (by rw [hstart]; decide)]

theorem usage_of_whole {bridgeContext : Option ToolBridgeContext} {body whole : Value}
    (h : claudeResponseToOpenai env bridgeContext body = .ok whole) :
    whole.get "usage" = (body.get "usage").map claudeResponseUsageToOpenaiUsage := by
  obtain ⟨message, _, hwhole⟩ := Result.bind_ok.mp h
  cases hwhole
  unfold withUsage
  cases body.get "usage" with
  | none =>
    show (openaiCompletion _ _ _ _).get "usage" = none
    rw [openaiCompletion, Value.get_ofFields]
    rfl
  | some usage =>
    show (Value.set (openaiCompletion _ _ _ _) "usage" _).get "usage" = _
    rw [openaiCompletion, Value.get_set_ofFields, if_pos rfl]
    rfl

/-- **The usage of an Anthropic message comes to the same, streamed or in one piece**, if and only
if the last `message_delta` with a usage carries all that has been reported. -/
theorem streamed_usage_iff {bridgeContext : Option ToolBridgeContext} {body whole : Value}
    (hstart : start.getStr "type" = some "message_start")
    (hmiddle : ∀ event ∈ middle, IsMiddle event)
    (hstop : stop.getStr "type" = some "message_stop")
    (haccepted : (runEvents (claudeEventToOpenaiChunks env.toEnv) (start :: middle)
      ⟨{}, []⟩).state.fatalRejection = none)
    (hbody : TellsUsage (start :: middle) body)
    (hwhole : claudeResponseToOpenai env bridgeContext body = .ok whole) :
    ∃ last, (runEvents (claudeEventToOpenaiChunks env.toEnv) (start :: (middle ++ [stop]))
        ⟨{}, []⟩).out.getLast? = some last ∧
      (SameUsage last whole ↔ UsageCarried (start :: middle)) := by
  obtain ⟨last, hlast, hchunk⟩ := last_of_run env.toEnv hstart hmiddle hstop haccepted
  refine ⟨last, hlast, ?_⟩
  unfold SameUsage
  rw [hchunk, usage_of_whole env hwhole, Option.map_map, Option.map_map]
  by_cases hnone : reportedUsages (start :: middle) = []
  · -- Nothing is reported, and neither side has a usage.
    have hbodyNone : body.get "usage" = none := by
      rw [← Option.not_isSome_iff_eq_none, hbody.present]
      exact fun h => h hnone
    have hdeltas : lastDeltaUsage middle = none := by
      rw [reportedUsages_eq hstart hmiddle] at hnone
      unfold lastDeltaUsage
      rw [(List.append_eq_nil_iff.mp hnone).2]
      rfl
    rw [hbodyNone, hdeltas]
    exact ⟨fun _ h => absurd hnone h, fun _ => rfl⟩
  · obtain ⟨whole, hwhole⟩ := Option.isSome_iff_exists.mp (hbody.present.mpr hnone)
    have hcounts := hbody.counts whole hwhole
    rw [hwhole]
    unfold UsageCarried
    rw [lastDeltaUsage_cons hstart]
    cases hlast : lastDeltaUsage middle with
    | none =>
      refine ⟨fun h => (nomatch h), fun h => ?_⟩
      obtain ⟨usage, husage, _⟩ := h hnone
      cases husage
    | some usage =>
      have htokens : ∀ field ∈ tokenFields, tokensOf whole field =
          (latestTokens (reportedUsages (start :: middle)) field).getD 0 := by
        intro field hfield
        rw [tokensOf, hcounts field hfield]
      have hends : (reportedUsages (start :: middle)).getLast? = some usage := by
        rw [reportedUsages_eq hstart hmiddle, List.getLast?_append]
        unfold lastDeltaUsage at hlast
        rw [hlast]
        rfl
      have hstreamed : (some usage).map (tokenCounts ∘ claudeUsageToOpenaiUsage) =
          some (countsOf (tokensOf usage)) := congrArg some (tokenCounts_streamed usage)
      have hbodied : (some whole).map (tokenCounts ∘ claudeResponseUsageToOpenaiUsage) =
          some (countsOf (tokensOf whole)) := congrArg some (tokenCounts_whole whole)
      rw [hstreamed, hbodied, Option.some_inj, countsOf_last_iff hends htokens]
      constructor
      · exact fun hnothing _ => ⟨usage, rfl, hnothing⟩
      · intro hcarried
        obtain ⟨usage', husage, hnothing⟩ := hcarried hnone
        cases husage
        exact hnothing

end

/-! ### A message that announces its input at its start -/

/-- A `message_start` with these counts. -/
def startWithUsage (counts : List (String × Value)) : Value :=
  .ofFields [("type", .string "message_start"),
    ("message", .ofFields [("id", .string "msg_1"), ("usage", .ofFields counts)])]

/-- A `message_delta` with these counts. -/
def deltaWithUsage (counts : List (String × Value)) : Value :=
  .ofFields [("type", .string "message_delta"),
    ("delta", .ofFields [("stop_reason", .string "end_turn")]), ("usage", .ofFields counts)]

def plainStop : Value := .ofFields [("type", .string "message_stop")]

/-- A message in one piece, with these counts. -/
def bodyWithUsage (counts : List (String × Value)) : Value :=
  .ofFields [("content", .string "Hello."), ("usage", .ofFields counts)]

def announcedInput : List (String × Value) := [("input_tokens", .nat 10), ("output_tokens", .nat 1)]

def countedOutput : List (String × Value) := [("output_tokens", .nat 5)]

def completeCounts : List (String × Value) := [("input_tokens", .nat 10), ("output_tokens", .nat 5)]

theorem announced_middle : ∀ event ∈ [deltaWithUsage countedOutput], IsMiddle event := by
  intro event hevent
  rw [List.mem_singleton.mp hevent]
  exact ⟨by decide +kernel, by decide +kernel⟩

theorem announced_accepted : (runEvents (claudeEventToOpenaiChunks Env.still)
    [startWithUsage announcedInput, deltaWithUsage countedOutput]
      ⟨{}, []⟩).state.fatalRejection = none := by decide +kernel

theorem announced_body : TellsUsage [startWithUsage announcedInput, deltaWithUsage countedOutput]
    (bodyWithUsage completeCounts) where
  present := by decide +kernel
  counts := by
    intro usage husage field hfield
    have hbody : (bodyWithUsage completeCounts).get "usage" = some (.ofFields completeCounts) := by
      decide +kernel
    rw [hbody] at husage
    cases husage
    revert field
    decide +kernel

theorem announced_whole : ∃ whole, claudeResponseToOpenai TranslationEnv.still none
    (bodyWithUsage completeCounts) = .ok whole := ⟨_, rfl⟩

theorem streamed_usage_iff_announced :
    ∃ last whole, claudeResponseToOpenai TranslationEnv.still none
        (bodyWithUsage completeCounts) = .ok whole ∧
      (runEvents (claudeEventToOpenaiChunks Env.still) [startWithUsage announcedInput,
        deltaWithUsage countedOutput, plainStop] ⟨{}, []⟩).out.getLast? = some last ∧
      (SameUsage last whole ↔
        UsageCarried [startWithUsage announcedInput, deltaWithUsage countedOutput]) := by
  obtain ⟨whole, hwhole⟩ := announced_whole
  obtain ⟨last, hlast, hiff⟩ := streamed_usage_iff TranslationEnv.still
    (by decide +kernel : (startWithUsage announcedInput).getStr "type" = some "message_start")
    announced_middle (by decide +kernel : plainStop.getStr "type" = some "message_stop")
    announced_accepted announced_body hwhole
  exact ⟨last, whole, hwhole, hlast, hiff⟩

/-- The tokens that were announced with the start are lost. -/
theorem announced_input_is_lost :
    ¬ ∀ (env : TranslationEnv) (bridgeContext : Option ToolBridgeContext)
      (start stop body whole last : Value) (middle : List Value),
      start.getStr "type" = some "message_start" → (∀ event ∈ middle, IsMiddle event) →
      stop.getStr "type" = some "message_stop" →
      (runEvents (claudeEventToOpenaiChunks env.toEnv) (start :: middle)
        ⟨{}, []⟩).state.fatalRejection = none →
      TellsUsage (start :: middle) body →
      claudeResponseToOpenai env bridgeContext body = .ok whole →
      (runEvents (claudeEventToOpenaiChunks env.toEnv) (start :: (middle ++ [stop]))
        ⟨{}, []⟩).out.getLast? = some last →
      SameUsage last whole := by
  intro hsame
  have hstart : (startWithUsage announcedInput).getStr "type" = some "message_start" := by
    decide +kernel
  have hstop : plainStop.getStr "type" = some "message_stop" := by decide +kernel
  obtain ⟨whole, hwhole⟩ := announced_whole
  obtain ⟨last, hlast, hchunk⟩ := last_of_run Env.still hstart announced_middle hstop
    announced_accepted
  have h := hsame TranslationEnv.still none _ _ _ whole last _ hstart announced_middle hstop
    announced_accepted announced_body hwhole hlast
  unfold SameUsage at h
  rw [hchunk, usage_of_whole TranslationEnv.still hwhole] at h
  revert h
  decide +kernel

end LlmUniversalProxy.Streaming
