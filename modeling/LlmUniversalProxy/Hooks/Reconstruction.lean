import LlmUniversalProxy.Hooks.CompletionReplay
import LlmUniversalProxy.Hooks.MessageReplay

/-!
# `Hooks.Reconstruction` — when a stream comes out as the message it tells

The hooks are told the body of a stream and its bill, both put together from the events. A response
comes out as it is: its last event holds it all. Of a Chat completion the reasoning is lost, and of
an Anthropic message the signatures that come in deltas, and the usage that is not said again at the
end. `response_reconstructed_iff` says that nothing else is lost, however the message is cut.

The conditions speak of the message that is told and of nothing that an accumulator has computed.
Sums are made in 64 bits, as in `Usage`.
-/

set_option autoImplicit false

namespace LlmUniversalProxy.Hooks

open Json Lib Streaming Translate
open ResponsesAccumulator (markedItem)

/-! ## What has to be told in the right place -/

/-- The blocks start with the signatures they have, and none of them has the field that the pieces
of an input are kept in. -/
def BlocksSigned (message : Value) (events : List Value) : Prop :=
  ∀ index block, ((message.getArray "content").getD [])[index]? = some block →
    SignedAtStart index block events ∧ block.get "input_json_raw" = none

/-- The last `message_delta` with a usage says all that any usage said. Where there is none, no
tokens are counted. -/
def UsageRepeated (events : List Value) : Prop :=
  match lastDeltaUsage events with
  | some usage => ∀ reported ∈ reportedUsages events, ∀ k,
      (given reported k).isSome = true → (given usage k).isSome = true
  | none => ∀ reported ∈ reportedUsages events,
      reported.getU64 "input_tokens" = none ∧ reported.getU64 "output_tokens" = none

/-- The stream tells the message in the places that the accumulators look at. -/
def ToldInPlace : UpstreamFormat → Value → List Value → Prop
  | .anthropic, message, events => BlocksSigned message events ∧ UsageRepeated events
  | .openAiChatCompletions, message, _ =>
      saidText (completionMessage message) "reasoning_content" = "" ∧
        ∀ call ∈ completionCalls message, call.getStr "type" = some "function"
  | .openAiResponses, _, _ => True

/-! ## The bill -/

theorem getU64_of_given (usage : Value) (k : String) :
    usage.getU64 k = (given usage k).bind Value.asU64 := by
  unfold Value.getU64 given
  cases hget : usage.get k with
  | none => rfl
  | some value =>
    cases value with
    | null => rfl
    | _ => rfl

theorem getU64_usage (body : Value) (k : String) :
    ((body.get "usage").getD .null).getU64 k = (usageField body k).bind Value.asU64 := by
  unfold usageField
  cases body.get "usage" with
  | none => rfl
  | some usage => exact getU64_of_given usage k

/-- The total that the usage of a body is read with; the outer `none` is a panic. -/
def readTotal (checks : Bool) (format : UpstreamFormat) (body : Value) : Option (Option Nat) :=
  let usage := (body.get "usage").getD .null
  let input := usage.getU64 (NormalizedUsage.fields format).1
  let output := usage.getU64 (NormalizedUsage.fields format).2
  match format with
  | .anthropic => addCounts checks input output
  | _ => totalOrSum checks (usage.getU64 "total_tokens") input output

theorem billed_fromClientBody (checks : Bool) (format : UpstreamFormat) (body : Value) :
    billed (NormalizedUsage.fromClientBody checks format body) =
      (readTotal checks format body).map fun _ =>
        (((body.get "usage").getD .null).getU64 (NormalizedUsage.fields format).1,
          ((body.get "usage").getD .null).getU64 (NormalizedUsage.fields format).2) := by
  have hbind : ∀ (total : Option (Option Nat)) (write : Option Nat → NormalizedUsage)
      (input output : Option Nat), (∀ t, (write t).inputTokens = input) →
      (∀ t, (write t).outputTokens = output) →
      billed (total.bind fun t => some (write t)) = total.map fun _ => (input, output) := by
    intro total write input output hinput houtput
    cases total with
    | none => rfl
    | some t =>
      show some ((write t).inputTokens, (write t).outputTokens) = _
      rw [hinput, houtput]
      rfl
  cases format with
  | openAiChatCompletions => exact hbind _ _ _ _ (fun _ => rfl) fun _ => rfl
  | openAiResponses => exact hbind _ _ _ _ (fun _ => rfl) fun _ => rfl
  | anthropic => exact hbind _ _ _ _ (fun _ => rfl) fun _ => rfl

theorem billed_congr {body message : Value} (h : SameBodyUsage body message) (checks : Bool)
    (format : UpstreamFormat) : billed (NormalizedUsage.fromClientBody checks format body) =
      billed (NormalizedUsage.fromClientBody checks format message) := by
  have hget : ∀ k, ((body.get "usage").getD .null).getU64 k =
      ((message.get "usage").getD .null).getU64 k := by
    intro k
    rw [getU64_usage, getU64_usage, h k]
  rw [billed_fromClientBody, billed_fromClientBody]
  unfold readTotal
  simp only [hget]

/-- A usage that is kept is billed as the one of the message, where it says the same. -/
theorem billed_finalUsage {accumulator : ClientSseAccumulator} {message : Value}
    (h : ∀ k, usageField message k = accumulator.usage.bind (given · k)) (checks : Bool) :
    billed (accumulator.finalUsage checks) =
      billed (NormalizedUsage.fromClientBody checks accumulator.format message) := by
  unfold ClientSseAccumulator.finalUsage
  cases husage : accumulator.usage with
  | some usage =>
    refine billed_congr (fun k => ?_) checks accumulator.format
    rw [h, husage]
    unfold usageField
    rw [Value.get_ofFields]
    rfl
  | none =>
    have hsame : SameBodyUsage .null message := by
      intro k
      rw [h, husage]
      rfl
    rw [← billed_congr hsame]
    cases accumulator.format <;> rfl

/-! ## Chat Completions -/

theorem completion_iff {env : Env} {checks : Bool} {message : Value} {events : List Value}
    (h : TellsCompletion message (events.filter fun event => !isDone event)) :
    Reconstructed env checks .openAiChatCompletions message events ↔
      ToldInPlace .openAiChatCompletions message events := by
  obtain ⟨after, hafter, hcollects⟩ := run_openAi env.serde events {}
  have hcontent : saidText (completionMessage (after.finalBody env)) "content" =
      saidText (completionMessage message) "content" := by
    unfold saidText
    rw [completionMessage_finalBody, getStr_shownMessage env after (by decide)]
    show after.content = _
    rw [hcollects.content, String.empty_append]
    exact h.content.symm
  have hreasoning : saidText (completionMessage (after.finalBody env)) "reasoning_content" = "" := by
    unfold saidText
    rw [completionMessage_finalBody, getStr_shownMessage env after (by decide)]
    rfl
  have hfinish : completionFinish (after.finalBody env) = completionFinish message := by
    obtain ⟨reason, hreason, hlast⟩ := h.finish
    rw [completionFinish_finalBody, hcollects.finishReason, hlast, hreason]
    rfl
  have husage : ∀ k, usageField message k = after.usage.bind (given · k) := by
    intro k
    rw [hcollects.usage, Option.or_none]
    exact h.usage k
  have hsameUsage : SameBodyUsage (after.finalBody env) message := by
    intro k
    rw [husage]
    unfold usageField
    rw [get_finalBody_usage]
  obtain ⟨entry, hentries, hholds⟩ := entries_told h.calls
  have hcalls : List.Forall₂ SameCall (completionCalls (after.finalBody env))
      (completionCalls message) ↔
      ∀ call ∈ completionCalls message, call.getStr "type" = some "function" := by
    rw [completionCalls_finalBody]
    exact shownCalls_iff (hcollects.toolCalls.trans hentries) hholds
  constructor
  · rintro ⟨accumulator, hrun, hsame, _⟩
    rw [show ClientSseAccumulator.new .openAiChatCompletions = .openAiChatCompletions {} from rfl,
      hafter] at hrun
    cases hrun
    exact ⟨hsame.reasoning.symm.trans hreasoning, hcalls.mp hsame.calls⟩
  · rintro ⟨hsilent, hfunctions⟩
    refine ⟨_, hafter, ⟨hcontent, hreasoning.trans hsilent.symm, hcalls.mpr hfunctions, hfinish,
      hsameUsage⟩, ?_⟩
    exact billed_finalUsage husage checks

/-! ## Responses -/

theorem run_responses (serde : Serde) (events : List Value) : ∀ self : ResponsesAccumulator,
    (ClientSseAccumulator.responses self).run serde events true =
      some (.responses (events.foldl (fun self event => self.onEvent event true) self)) := by
  induction events with
  | nil => exact fun _ => rfl
  | cons event events ih => exact fun self => ih (self.onEvent event true)

theorem responses_unchanged (events : List Value) : ∀ self : ResponsesAccumulator,
    (∀ event ∈ events, isResponsesTerminal event = false) →
      (events.foldl (fun self event => self.onEvent event true) self).finalResponse =
        self.finalResponse ∧
      (events.foldl (fun self event => self.onEvent event true) self).usage = self.usage := by
  induction events with
  | nil => exact fun _ _ => ⟨rfl, rfl⟩
  | cons event events ih =>
    intro self h
    have hevent : (self.onEvent event true).finalResponse = self.finalResponse ∧
        (self.onEvent event true).usage = self.usage := by
      unfold ResponsesAccumulator.onEvent
      dsimp only
      rw [h event List.mem_cons_self]
      cases event.get "response" <;> exact ⟨rfl, rfl⟩
    obtain ⟨hresponse, husage⟩ :=
      ih (self.onEvent event true) fun other hother => h other (List.mem_cons_of_mem _ hother)
    exact ⟨hresponse.trans hevent.1, husage.trans hevent.2⟩

theorem markedItem_same (env : Env) (item : Value) : SameItem (markedItem env item) item := by
  intro k hk
  unfold markedItem
  dsimp only
  split
  · exact get_marked hk
  · rfl

theorem forall₂_map_left {α : Type} {R : α → α → Prop} {f : α → α} (h : ∀ a, R (f a) a)
    (as : List α) : List.Forall₂ R (as.map f) as := by
  induction as with
  | nil => exact .nil
  | cons a as ih => exact .cons (h a) ih

theorem finalBody_same (env : Env) {self : ResponsesAccumulator} {message : Value}
    (h : self.finalResponse = some message) : SameResponse (self.finalBody env) message := by
  have hrefl : SameResponse message message :=
    ⟨⟨rfl, List.forall₂_same.mpr fun _ _ _ _ => rfl⟩, fun _ _ => rfl⟩
  unfold ResponsesAccumulator.finalBody
  rw [h]
  dsimp only
  rw [Option.getD_some]
  split
  · cases houtput : message.getArray "output" with
    | none => exact hrefl
    | some output =>
      dsimp only
      have hobject : message.isObject = true := by
        obtain ⟨value, hget, _⟩ := Option.bind_eq_some_iff.mp houtput
        exact Value.isObject_of_get hget
      have hmarked : (message.set "output" (.array (output.map (markedItem env)))).getArray
          "output" = some (output.map (markedItem env)) := by
        unfold Value.getArray
        rw [Value.get_set_self hobject]
        rfl
      refine ⟨?_, fun k hk => Value.get_set_of_ne _ _ hk⟩
      rw [hmarked, houtput]
      exact ⟨rfl, forall₂_map_left (markedItem_same env) output⟩
  · exact hrefl

theorem response_same {env : Env} {checks : Bool} {message : Value} {events : List Value}
    (h : TellsResponse message events) :
    Reconstructed env checks .openAiResponses message events := by
  obtain ⟨before, terminal, after, rfl, hterminal, hmessage, hothers⟩ := h
  refine ⟨_, run_responses env.serde _ {}, ?_⟩
  have hkept : ∀ self : ResponsesAccumulator,
      (self.onEvent terminal true).finalResponse = some message ∧
        (self.onEvent terminal true).usage = message.get "usage" := by
    intro self
    unfold ResponsesAccumulator.onEvent
    dsimp only
    rw [hmessage, hterminal]
    exact ⟨rfl, rfl⟩
  rw [List.foldl_append, List.foldl_cons]
  obtain ⟨hresponse, husage⟩ := responses_unchanged after _ fun event hevent =>
    hothers event (List.mem_append_right _ hevent)
  refine ⟨finalBody_same env (hresponse.trans (hkept _).1), billed_finalUsage (fun k => ?_) checks⟩
  exact congrArg (fun usage => Option.bind usage (given · k)) (husage.trans (hkept _).2).symm

/-! ## Anthropic -/

section

variable {serde : Serde} {message start started stop : Value}
  {blocks blockEvents messageDeltas : List Value}

theorem reported_amongBlocks {events : List Value} (h : ∀ event ∈ events, IsAmongBlocks event) :
    reportedUsages events = [] ∧ events.filterMap deltaUsage = [] := by
  have hnone : ∀ event ∈ events, startUsage event = none ∧ deltaUsage event = none := by
    intro event hevent
    have htype : event.getStr "type" ≠ some "message_start" ∧
        event.getStr "type" ≠ some "message_delta" := by
      rcases h event hevent with hping | ⟨_, htype | htype | htype⟩
      · rw [of_decide_eq_true hping]
        decide
      · rw [htype]
        decide
      · rw [htype]
        decide
      · rw [htype]
        decide
    exact ⟨if_neg htype.1, if_neg htype.2⟩
  constructor
  · refine List.filterMap_eq_nil_iff.mpr fun event hevent => ?_
    rw [(hnone event hevent).1, (hnone event hevent).2]
    rfl
  · exact List.filterMap_eq_nil_iff.mpr fun event hevent => (hnone event hevent).2

theorem reported_deltas {events : List Value} (h : ∀ event ∈ events, IsAmongDeltas event) :
    reportedUsages events = events.filterMap deltaUsage := by
  refine List.filterMap_congr fun event hevent => ?_
  have htype : event.getStr "type" ≠ some "message_start" := by
    rcases h event hevent with hping | htype
    · rw [of_decide_eq_true hping]
      decide
    · rw [htype]
      decide
  rw [show startUsage event = none from if_neg htype, Option.none_or]

/-- The usage that a message is told with: that of its start, and those of its deltas. -/
theorem reported_tells
    (h : TellsMessage serde message blocks start started blockEvents messageDeltas stop) :
    reportedUsages (start :: (blockEvents ++ (messageDeltas ++ [stop]))) =
        (started.get "usage").toList ++ messageDeltas.filterMap deltaUsage ∧
      reportedUsages (start :: messageDeltas) =
        (started.get "usage").toList ++ messageDeltas.filterMap deltaUsage ∧
      lastDeltaUsage (start :: (blockEvents ++ (messageDeltas ++ [stop]))) =
        lastDeltaUsage messageDeltas := by
  have hstart : startUsage start = started.get "usage" ∧ deltaUsage start = none := by
    unfold startUsage deltaUsage
    rw [if_pos h.startType, h.holds, if_neg (by rw [h.startType]; decide)]
    exact ⟨rfl, rfl⟩
  have hstop : startUsage stop = none ∧ deltaUsage stop = none :=
    ⟨if_neg (by rw [h.stopType]; decide), if_neg (by rw [h.stopType]; decide)⟩
  have hcons : ∀ events, reportedUsages (start :: events) =
      (started.get "usage").toList ++ reportedUsages events := by
    intro events
    unfold reportedUsages
    rw [List.filterMap_cons, hstart.1, hstart.2, Option.or_none]
    cases started.get "usage" <;> rfl
  have hblocks := reported_amongBlocks (isAmongBlocks_of_tells h.told)
  have hdeltas := reported_deltas h.deltas
  refine ⟨?_, by rw [hcons, hdeltas], ?_⟩
  · rw [hcons]
    unfold reportedUsages at hblocks hdeltas ⊢
    rw [List.filterMap_append, List.filterMap_append, hblocks.1, hdeltas, List.filterMap_cons,
      hstop.1, hstop.2]
    simp
  · unfold lastDeltaUsage
    rw [List.filterMap_cons, hstart.2]
    dsimp only
    rw [List.filterMap_append, List.filterMap_append, hblocks.2, List.filterMap_cons, hstop.2]
    simp

theorem signedAtStart_tells
    (h : TellsMessage serde message blocks start started blockEvents messageDeltas stop)
    (index : Nat) (block : Value) :
    SignedAtStart index block (start :: (blockEvents ++ (messageDeltas ++ [stop]))) ↔
      SignedAtStart index block blockEvents := by
  constructor
  · intro hsigned event hevent
    exact hsigned event (List.mem_cons_of_mem _ (List.mem_append_left _ hevent))
  · intro hsigned event hevent other hother
    have htype := hother.1.1
    rcases List.mem_cons.mp hevent with rfl | hevent
    · rw [h.startType] at htype
      exact absurd htype (by decide)
    · rcases List.mem_append.mp hevent with hevent | hevent
      · exact hsigned event hevent other hother
      · rcases List.mem_append.mp hevent with hevent | hevent
        · rcases h.deltas event hevent with hping | hdelta
          · rw [of_decide_eq_true hping] at htype
            exact absurd htype (by decide)
          · rw [hdelta] at htype
            exact absurd htype (by decide)
        · rw [List.mem_singleton.mp hevent, h.stopType] at htype
          exact absurd htype (by decide)

end

/-- The last of these that is there is the last one just when it leaves out nothing. -/
theorem getLast?_filterMap_iff {usages : List Value} {usage : Value} (k : String) :
    given usage k = ((usages ++ [usage]).filterMap (given · k)).getLast? ↔
      ∀ reported ∈ usages ++ [usage], (given reported k).isSome = true →
        (given usage k).isSome = true := by
  rw [List.filterMap_append, List.getLast?_append]
  cases hgiven : given usage k with
  | some value => simp [hgiven]
  | none =>
    rw [List.filterMap_cons, hgiven]
    simp only [List.filterMap_nil, List.getLast?_nil, Option.none_or]
    rw [eq_comm, List.getLast?_eq_none_iff, List.filterMap_eq_nil_iff]
    constructor
    · intro hnone reported hreported
      rcases List.mem_append.mp hreported with hreported | hreported
      · rw [hnone reported hreported]
        exact nofun
      · rw [List.mem_singleton.mp hreported, hgiven]
        exact nofun
    · intro hleft reported hreported
      rw [← Option.not_isSome_iff_eq_none]
      intro hsome
      exact absurd (hleft reported (List.mem_append_left _ hreported) hsome) (by simp)

/-- Where no usage is kept, no tokens are billed; that is right where the message counts none. -/
theorem billed_nothing (checks : Bool) (message : Value) :
    (some (none, none) = billed (NormalizedUsage.fromClientBody checks .anthropic message)) ↔
      ((message.get "usage").getD .null).getU64 "input_tokens" = none ∧
        ((message.get "usage").getD .null).getU64 "output_tokens" = none := by
  rw [billed_fromClientBody, eq_comm, Option.map_eq_some_iff]
  constructor
  · rintro ⟨_, _, heq⟩
    exact Prod.mk.inj heq
  · rintro ⟨hinput, houtput⟩
    refine ⟨none, ?_, Prod.ext hinput houtput⟩
    show addCounts checks _ _ = some none
    rw [show ((message.get "usage").getD .null).getU64 (NormalizedUsage.fields .anthropic).1 = none
      from hinput]
    rfl

/-- The usage comes out, and is billed, just when it is said again at the end. -/
theorem usage_iff {serde : Serde} {message start started stop : Value}
    {blocks blockEvents messageDeltas content : List Value} {accumulator : AnthropicAccumulator}
    {stopReason : Option String}
    (h : TellsMessage serde message blocks start started blockEvents messageDeltas stop)
    (hholds : Holds accumulator content stopReason
      ((lastDeltaUsage messageDeltas).or (started.get "usage")) (lastDeltaUsage messageDeltas))
    (checks : Bool) :
    (SameBodyUsage accumulator.message message ∧
      billed ((ClientSseAccumulator.anthropic accumulator).finalUsage checks) =
        billed (NormalizedUsage.fromClientBody checks .anthropic message)) ↔
      UsageRepeated (start :: (blockEvents ++ (messageDeltas ++ [stop]))) := by
  obtain ⟨hreported, hshort, hlast⟩ := reported_tells h
  have hmessage := h.usage
  rw [hshort] at hmessage
  unfold UsageRepeated
  rw [hlast, hreported]
  have hkept : (ClientSseAccumulator.anthropic accumulator).usage = lastDeltaUsage messageDeltas :=
    hholds.kept
  cases husage : lastDeltaUsage messageDeltas with
  -- the body has the last usage, the message what was last reported of each count
  | some usage =>
    rw [husage] at hkept
    obtain ⟨before, hbefore⟩ := List.getLast?_eq_some_iff.mp husage
    rw [hbefore, ← List.append_assoc] at hmessage ⊢
    have hbody : ∀ k, usageField accumulator.message k = given usage k := by
      intro k
      unfold usageField
      rw [hholds.told, husage]
      rfl
    have hsame : SameBodyUsage accumulator.message message ↔
        ∀ reported ∈ (started.get "usage").toList ++ before ++ [usage], ∀ k,
          (given reported k).isSome = true → (given usage k).isSome = true := by
      constructor
      · intro hsame reported hmem k
        have hk := hsame k
        rw [hbody, hmessage] at hk
        exact (getLast?_filterMap_iff k).mp hk reported hmem
      · intro hrepeated k
        rw [hbody, hmessage]
        exact (getLast?_filterMap_iff k).mpr fun reported hmem => hrepeated reported hmem k
    rw [hsame]
    refine and_iff_left_of_imp fun hrepeated => billed_finalUsage (fun k => ?_) checks
    rw [hkept, ← hsame.mpr hrepeated k, hbody]
    rfl
  -- the body has the usage of the start, but nothing is billed for it
  | none =>
    rw [husage] at hkept
    rw [List.getLast?_eq_none_iff.mp husage, List.append_nil] at hmessage ⊢
    have hsame : SameBodyUsage accumulator.message message := by
      intro k
      rw [hmessage]
      unfold usageField
      rw [hholds.told, husage, Option.none_or]
      cases started.get "usage" with
      | none => rfl
      | some usage =>
        show given usage k = ([usage].filterMap (given · k)).getLast?
        cases hgiven : given usage k <;> simp [hgiven]
    have hcount : ∀ k, ((message.get "usage").getD .null).getU64 k = none ↔
        ∀ reported ∈ (started.get "usage").toList, reported.getU64 k = none := by
      intro k
      rw [getU64_usage, ← hsame k, ← getU64_usage, hholds.told, husage, Option.none_or]
      cases started.get "usage" with
      | none => exact iff_of_true rfl nofun
      | some usage => simp
    have hbill : billed ((ClientSseAccumulator.anthropic accumulator).finalUsage checks) =
        some (none, none) := by
      unfold ClientSseAccumulator.finalUsage
      rw [hkept]
      rfl
    rw [hbill, billed_nothing, hcount, hcount]
    exact ⟨fun ⟨_, hinput, houtput⟩ reported hmem => ⟨hinput reported hmem, houtput reported hmem⟩,
      fun hnone => ⟨hsame, fun reported hmem => (hnone reported hmem).1,
        fun reported hmem => (hnone reported hmem).2⟩⟩

theorem message_iff {env : Env} {checks : Bool} {message start started stop : Value}
    {blocks blockEvents messageDeltas : List Value}
    (h : TellsMessage env.serde message blocks start started blockEvents messageDeltas stop) :
    Reconstructed env checks .anthropic message
        (start :: (blockEvents ++ (messageDeltas ++ [stop]))) ↔
      ToldInPlace .anthropic message (start :: (blockEvents ++ (messageDeltas ++ [stop]))) := by
  obtain ⟨accumulator, content, hreplay, hcontent, hholds⟩ := replay_tells h
  have hrun : (ClientSseAccumulator.new .anthropic).run env.serde
      (start :: (blockEvents ++ (messageDeltas ++ [stop]))) true = some (.anthropic accumulator) := by
    show (ClientSseAccumulator.anthropic {}).run _ _ _ = _
    rw [run_anthropic, hreplay]
    rfl
  have hbody : (ClientSseAccumulator.anthropic accumulator).finalResponseBody env =
      accumulator.message := by
    show accumulator.error.getD accumulator.message = _
    rw [hholds.error]
    rfl
  -- the content is the message's just when no signature comes late; the usage is a matter of its
  -- own
  have hblocks : List.Forall₂ SameFields (content.map (finishedBlock env.serde)) blocks ↔
      BlocksSigned message (start :: (blockEvents ++ (messageDeltas ++ [stop]))) := by
    obtain ⟨content', hcontent', hiff⟩ := content_iff h.told
    cases hcontent.symm.trans hcontent'
    rw [hiff]
    unfold BlocksSigned
    rw [h.content]
    refine forall_congr' fun index => forall_congr' fun block => forall_congr' fun _ => ?_
    rw [signedAtStart_tells h]
  have hsame : SameMessage accumulator.message message ↔
      BlocksSigned message (start :: (blockEvents ++ (messageDeltas ++ [stop]))) ∧
        SameBodyUsage accumulator.message message := by
    have hbodyBlocks : accumulator.message.getArray "content" =
        some (content.map (finishedBlock env.serde)) := by
      unfold Value.getArray
      rw [hholds.content]
      rfl
    rw [← hblocks]
    constructor
    · rintro ⟨⟨bodyBlocks, messageBlocks, hbodies, hmessages, hall⟩, _, husage⟩
      cases hbodyBlocks.symm.trans hbodies
      cases h.content.symm.trans hmessages
      exact ⟨hall, husage⟩
    · rintro ⟨hall, husage⟩
      exact ⟨⟨_, _, hbodyBlocks, h.content, hall⟩, hholds.stopReason, husage⟩
  show _ ↔ BlocksSigned message _ ∧ UsageRepeated _
  rw [← usage_iff h hholds checks, ← and_assoc, ← hsame]
  constructor
  · rintro ⟨other, hother, hbodySame, hbill⟩
    cases hrun.symm.trans hother
    rw [hbody] at hbodySame
    exact ⟨hbodySame, hbill⟩
  · rintro ⟨hbodySame, hbill⟩
    refine ⟨_, hrun, ?_, hbill⟩
    rw [hbody]
    exact hbodySame

/-! ## A message, told in two ways -/

def signedThinking : Value := .ofFields [("type", .string "thinking"), ("thinking", .string "Hm."),
  ("signature", .string "EqQB")]

def signedMessage : Value := .ofFields [("content", .array [signedThinking]),
  ("stop_reason", .string "end_turn"),
  ("usage", .ofFields [("input_tokens", .nat 25), ("output_tokens", .nat 15)])]

/-- The thinking as it starts, with its signature or still without. -/
def thinkingStart (late : Bool) : Value := .ofFields [("type", .string "thinking"),
  ("thinking", .string ""), ("signature", .string (if late then "" else "EqQB"))]

/-- The thinking in two pieces, and what is behind it. -/
def thinkingDeltas (late : Bool) : List Value :=
  [.ofFields [("type", .string "thinking_delta"), ("thinking", .string "H")],
    .ofFields [("type", .string "thinking_delta"), ("thinking", .string "m.")],
    .ofFields [("type", .string "signature_delta"),
      ("signature", .string (if late then "EqQB" else ""))]]

/-- The usage at the end: it says the input again, or only the output. -/
def endUsage (late : Bool) : Value :=
  if late then .ofFields [("output_tokens", .nat 15)]
  else .ofFields [("input_tokens", .nat 25), ("output_tokens", .nat 15)]

/-- The events of the message. As the API sends them, the signature comes late, and the end does not
say again how long the input was. -/
def signedEvents (late : Bool) : List Value :=
  let blockEvent := fun (eventType k : String) (x : Value) =>
    Value.ofFields [("type", .string eventType), ("index", .nat 0), (k, x)]
  .ofFields [("type", .string "message_start"), ("message", .ofFields
      [("usage", .ofFields [("input_tokens", .nat 25), ("output_tokens", .nat 1)])])] ::
    (blockEvent "content_block_start" "content_block" (thinkingStart late) ::
        ((thinkingDeltas late).map (blockEvent "content_block_delta" "delta") ++
          [blockEvent "content_block_stop" "content_block" .null]) ++
      [.ofFields [("type", .string "message_delta"),
          ("delta", .ofFields [("stop_reason", .string "end_turn")]), ("usage", endUsage late)],
        .ofFields [("type", .string "message_stop")]])

theorem signedThinking_told (late : Bool) :
    ToldBlock Env.still.serde signedThinking (thinkingStart late) (thinkingDeltas late) := by
  have hrest : ∀ k ∉ grownFields, signedThinking.get k = (thinkingStart late).get k := by
    intro k hk
    simp only [grownFields, List.mem_cons, List.not_mem_nil, or_false, not_or] at hk
    unfold signedThinking thinkingStart
    rw [Value.get_ofFields, Value.get_ofFields]
    simp [List.lookup_cons, beq_eq_false_iff_ne.mpr hk.2.1, beq_eq_false_iff_ne.mpr hk.2.2.1]
  cases late with
  | false => exact ⟨rfl, by decide, by decide, by decide, by decide, by decide, hrest⟩
  | true => exact ⟨rfl, by decide, by decide, by decide, by decide, by decide, hrest⟩

theorem given_ofFields {fields : List (String × Value)} {k : String} (hinput : k ≠ "input_tokens")
    (houtput : k ≠ "output_tokens")
    (hfields : ∀ field ∈ fields, field.1 = "input_tokens" ∨ field.1 = "output_tokens") :
    given (.ofFields fields) k = none := by
  have hnone : fields.lookup k = none := by
    refine List.lookup_eq_none_iff.mpr fun field hfield => bne_iff_ne.mpr ?_
    rintro rfl
    exact (hfields field hfield).elim hinput houtput
  unfold given
  rw [Value.get_ofFields, hnone]
  rfl

theorem signedUsage_told (late : Bool) (k : String) : usageField signedMessage k =
    ([.ofFields [("input_tokens", .nat 25), ("output_tokens", .nat 1)], endUsage late].filterMap
      (given · k)).getLast? := by
  by_cases hinput : k = "input_tokens"
  · subst hinput
    cases late <;> decide
  · by_cases houtput : k = "output_tokens"
    · subst houtput
      cases late <;> decide
    · have hend : given (endUsage late) k = none := by
        cases late with
        | false => exact given_ofFields hinput houtput (by decide)
        | true => exact given_ofFields hinput houtput (by decide)
      rw [List.filterMap_cons, given_ofFields hinput houtput (by decide), List.filterMap_cons, hend]
      exact given_ofFields hinput houtput (by decide)

theorem signedEvents_render (late : Bool) :
    Renders Env.still.serde .anthropic signedMessage (signedEvents late) := by
  refine ⟨_, _, _, _ :: (_ ++ [_]), [_], _, rfl, rfl, rfl, rfl, rfl, ⟨?_, ?_⟩, ?_, rfl, ?_, ?_⟩
  · intro event hevent
    refine .inr ⟨0, by decide, ?_⟩
    revert hevent event
    cases late <;> decide
  · intro index block hblock
    cases index with
    | zero =>
      cases hblock
      cases late with
      | false =>
        exact ⟨_, _, _, _, _, rfl, ⟨⟨rfl, rfl⟩, rfl⟩, .cons ⟨⟨rfl, rfl⟩, rfl⟩
          (.cons ⟨⟨rfl, rfl⟩, rfl⟩ (.cons ⟨⟨rfl, rfl⟩, rfl⟩ .nil)), ⟨rfl, rfl⟩,
          signedThinking_told false⟩
      | true =>
        exact ⟨_, _, _, _, _, rfl, ⟨⟨rfl, rfl⟩, rfl⟩, .cons ⟨⟨rfl, rfl⟩, rfl⟩
          (.cons ⟨⟨rfl, rfl⟩, rfl⟩ (.cons ⟨⟨rfl, rfl⟩, rfl⟩ .nil)), ⟨rfl, rfl⟩,
          signedThinking_told true⟩
    | succ index => cases hblock
  · intro event hevent
    rw [List.mem_singleton.mp hevent]
    cases late <;> exact .inr rfl
  · cases late <;> decide
  · cases late with
    | false => exact signedUsage_told false
    | true => exact signedUsage_told true

theorem signedEvents_signed : BlocksSigned signedMessage (signedEvents false) := by
  have hstarts : ∀ event ∈ signedEvents false,
      event.getStr "type" = some "content_block_start" →
        (event.get "content_block").bind (Value.get · "signature") =
          signedThinking.get "signature" := by decide
  intro index block hblock
  cases index with
  | zero =>
    cases hblock
    refine ⟨fun event hevent started hstarted => ?_, rfl⟩
    have hthis := hstarts event hevent hstarted.1.1
    rwa [hstarted.2] at hthis
  | succ index => cases hblock

theorem signedEvents_repeated : UsageRepeated (signedEvents false) := by
  show ∀ reported ∈ reportedUsages (signedEvents false), ∀ k, _ → _
  intro reported hreported k hgiven
  have hcounts : k = "input_tokens" ∨ k = "output_tokens" := by
    by_contra hother
    rw [not_or] at hother
    have hnone : given reported k = none := by
      have hreports : reportedUsages (signedEvents false) =
        [.ofFields [("input_tokens", .nat 25), ("output_tokens", .nat 1)], endUsage false] := rfl
      rw [hreports] at hreported
      rcases List.mem_cons.mp hreported with rfl | hreported
      · exact given_ofFields hother.1 hother.2 (by decide)
      · rw [List.mem_singleton.mp hreported]
        exact given_ofFields hother.1 hother.2 (by decide)
    rw [hnone] at hgiven
    cases hgiven
  rcases hcounts with rfl | rfl
  · decide
  · decide

/-! ## All APIs -/

/-- **When a streamed response comes out as the message it tells.** It does just when the stream
says everything in the places that the accumulators look at. -/
theorem response_reconstructed_iff (env : Env) (checks : Bool) (format : UpstreamFormat)
    (message : Value) (events : List Value) (h : Renders env.serde format message events) :
    Reconstructed env checks format message events ↔ ToldInPlace format message events := by
  cases format with
  | openAiChatCompletions => exact completion_iff h
  | openAiResponses => exact iff_of_true (response_same h) trivial
  | anthropic =>
    obtain ⟨blocks, start, started, blockEvents, messageDeltas, stop, rfl, htells⟩ := h
    exact message_iff htells

/-- The message comes out where its signature is there from the start, and all of its usage is there
at the end. -/
theorem response_reconstructed_in_place :
    Reconstructed Env.still true .anthropic signedMessage (signedEvents false) :=
  (response_reconstructed_iff Env.still true .anthropic signedMessage (signedEvents false)
    (signedEvents_render false)).mpr ⟨signedEvents_signed, signedEvents_repeated⟩

/-- As the API sends it, it does not: the tokens of its input are not billed. -/
theorem response_not_reconstructed :
    ¬ ∀ (env : Env) (checks : Bool) (format : UpstreamFormat) (message : Value)
      (events : List Value), Renders env.serde format message events →
        Reconstructed env checks format message events := by
  intro h
  obtain ⟨accumulator, hrun, _, hbill⟩ :=
    h Env.still true .anthropic signedMessage (signedEvents true) (signedEvents_render true)
  have hbilled : ((ClientSseAccumulator.new .anthropic).run Env.still.serde (signedEvents true)
      true).map (fun accumulator => billed (accumulator.finalUsage true)) =
        some (some (none, some 15)) := by decide +kernel
  rw [hrun, Option.map_some, hbill] at hbilled
  exact absurd hbilled (by decide +kernel)

end LlmUniversalProxy.Hooks
