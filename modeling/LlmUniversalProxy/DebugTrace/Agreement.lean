import LlmUniversalProxy.DebugTrace.Summary
import LlmUniversalProxy.Hooks.Accumulators

/-!
# `DebugTrace.Agreement` — two observers, event by event

The observer of the hooks and the summary of the debug trace are told of the same events. The copies
of the detectors say the same of an event, and so do the two observers of all the events so far:
whether the stream is over, and how.

The copies of the detectors are `hooks.rs` 176-288 and `debug_trace.rs` 742-839.
-/

set_option autoImplicit false

namespace LlmUniversalProxy.DebugTrace

open Json Lib
open Hooks (ProtocolTerminal ProtocolTerminalKind isDone doneTerminal
  ClientSseAccumulator OpenAiChatCompletionsAccumulator ResponsesAccumulator AnthropicAccumulator)

/-! ## The detectors -/

theorem openaiProtocolTerminal_eq (event : Value) :
    openaiProtocolTerminal event = Hooks.openaiProtocolTerminal event := by
  unfold openaiProtocolTerminal Hooks.openaiProtocolTerminal
  cases event.get "error" with
  | some error => rfl
  | none =>
    cases (event.getArray "choices").bind List.head? with
    | none => rfl
    | some choice =>
      cases hreason : choice.getStr "finish_reason" with
      | none => simp [hreason]
      | some finishReason =>
        simp only [hreason, Option.bind_eq_bind, Option.bind_some]
        split
        · rfl
        split
        · rfl
        · rfl

theorem responsesProtocolTerminal_eq (event : Value) :
    responsesProtocolTerminal event = Hooks.responsesProtocolTerminal event := rfl

theorem anthropicProtocolTerminal_eq (event : Value) (lastStopReason : Option String) :
    anthropicProtocolTerminal event lastStopReason =
      Hooks.anthropicProtocolTerminal event lastStopReason := by
  unfold anthropicProtocolTerminal Hooks.anthropicProtocolTerminal
  by_cases herror : event.getStr "type" = some "error"
  · rw [herror]
    rfl
  by_cases hstop : event.getStr "type" = some "message_stop"
  · simp only [hstop]
    by_cases hreason : lastStopReason.getD "" ∈ ["max_tokens", "pause_turn", "refusal"]
    · have hne : (lastStopReason.getD "").isEmpty = false := by
        rw [Bool.eq_false_iff]
        intro hempty
        rw [String.isEmpty_iff.mp hempty] at hreason
        exact absurd hreason (by decide)
      rw [if_pos hreason, if_pos hreason, hne]
      rfl
    rw [if_neg hreason, if_neg hreason]
    by_cases hfailed : lastStopReason.getD "" = "model_context_window_exceeded"
    · rw [if_pos hfailed, if_pos hfailed, hfailed]
      rfl
    · rw [if_neg hfailed, if_neg hfailed]
      rfl
  · generalize event.getStr "type" = type at herror hstop
    cases type with
    | none => rfl
    | some type =>
      simp

/-! ## The observers -/

/-- The observer and the summary say the same: of the end of the stream, and of the stop reason that
the end will be judged by. -/
def SaySame : ClientSseAccumulator → ResponseSummary → Prop
  | .openAiChatCompletions accumulator, summary =>
      accumulator.protocolTerminal = summary.protocolTerminal
  | .responses accumulator, summary => accumulator.protocolTerminal = summary.protocolTerminal
  | .anthropic accumulator, summary =>
      accumulator.protocolTerminal = summary.protocolTerminal ∧
        accumulator.lastStopReason = summary.finishReason

theorem SaySame.protocolTerminal {accumulator : ClientSseAccumulator} {summary : ResponseSummary}
    (h : SaySame accumulator summary) :
    accumulator.protocolTerminal = summary.protocolTerminal := by
  cases accumulator with
  | openAiChatCompletions accumulator => exact h
  | responses accumulator => exact h
  | anthropic accumulator => exact h.1

theorem saySame_new (format : UpstreamFormat) (maxTextChars : Nat) :
    SaySame (.new format) (.new maxTextChars) := by
  cases format with
  | anthropic => exact ⟨rfl, rfl⟩
  | openAiChatCompletions => rfl
  | openAiResponses => rfl

theorem protocolTerminal_accumulateOpenaiCompletionEvent (event : Value)
    (summary : ResponseSummary) :
    (accumulateOpenaiCompletionEvent event summary).protocolTerminal =
      if isDone event then summary.protocolTerminal.or (some doneTerminal)
      else (openaiProtocolTerminal event).or summary.protocolTerminal := by
  unfold accumulateOpenaiCompletionEvent
  by_cases hdone : isDone event = true
  · have hdebug : (event.get "_done").bind Value.asBool = some true := of_decide_eq_true hdone
    rw [if_pos hdone, if_pos hdebug]
    rfl
  · have hdebug : ¬ (event.get "_done").bind Value.asBool = some true :=
      fun hdebug => hdone (decide_eq_true hdebug)
    rw [if_neg hdone, if_neg hdebug]
    dsimp only
    cases (event.getArray "choices").bind List.head? with
    | none => rfl
    | some choice =>
      dsimp only
      rw [ResponseSummary.protocolTerminal_takeChoice]

theorem openai_saySame (accumulator : OpenAiChatCompletionsAccumulator) (summary : ResponseSummary)
    (event : Value) (h : accumulator.protocolTerminal = summary.protocolTerminal) :
    (accumulator.onEvent event false).protocolTerminal =
      (accumulateOpenaiCompletionEvent event summary).protocolTerminal := by
  rw [protocolTerminal_accumulateOpenaiCompletionEvent, openaiProtocolTerminal_eq, ← h]
  unfold OpenAiChatCompletionsAccumulator.onEvent
  split
  · rfl
  · dsimp only
    cases (event.getArray "choices").bind List.head? with
    | none => rfl
    | some choice => rfl

/-- The detector finds an end in just the events of these types. -/
theorem responsesProtocolTerminal_none {event : Value}
    (hcompleted : (event.getStr "type").getD "" ≠ "response.completed")
    (hincomplete : (event.getStr "type").getD "" ≠ "response.incomplete")
    (hfailed : (event.getStr "type").getD "" ≠ "response.failed") :
    responsesProtocolTerminal event = none := by
  unfold responsesProtocolTerminal
  split
  · next htype => exact absurd (by rw [htype]; rfl) hcompleted
  · next htype => exact absurd (by rw [htype]; rfl) hincomplete
  · next htype => exact absurd (by rw [htype]; rfl) hfailed
  · rfl

theorem getStr_of_getD {event : Value} {ty : String} (hne : ty ≠ "")
    (h : (event.getStr "type").getD "" = ty) : event.getStr "type" = some ty := by
  cases htype : event.getStr "type" with
  | none =>
    rw [htype] at h
    exact absurd h.symm hne
  | some other =>
    rw [htype] at h
    exact congrArg some h

theorem protocolTerminal_accumulateResponsesEvent (event : Value) (summary : ResponseSummary) :
    (accumulateResponsesEvent event summary).protocolTerminal =
      (responsesProtocolTerminal event).or summary.protocolTerminal := by
  have hend {ty : String} (hty : ty ≠ "") (hsome : event.getStr "type" = some ty →
      (responsesProtocolTerminal event).isSome) (htype : (event.getStr "type").getD "" = ty) :
      (summary.takeResponsesEnd ty event).protocolTerminal =
        (responsesProtocolTerminal event).or summary.protocolTerminal := by
    obtain ⟨terminal, hterminal⟩ := Option.isSome_iff_exists.mp (hsome (getStr_of_getD hty htype))
    unfold ResponseSummary.takeResponsesEnd
    dsimp only
    rw [hterminal]
    rfl
  have hother (hcompleted : (event.getStr "type").getD "" ≠ "response.completed")
      (hincomplete : (event.getStr "type").getD "" ≠ "response.incomplete")
      (hfailed : (event.getStr "type").getD "" ≠ "response.failed") :
      summary.protocolTerminal = (responsesProtocolTerminal event).or summary.protocolTerminal := by
    rw [responsesProtocolTerminal_none hcompleted hincomplete hfailed]
    rfl
  unfold accumulateResponsesEvent
  split
  · next htype =>
    rw [(ResponseSummary.sameEnd_pushText _ _).1]
    exact hother (by rw [htype]; decide) (by rw [htype]; decide) (by rw [htype]; decide)
  · next htype =>
    rw [(ResponseSummary.sameEnd_pushReasoning _ _).1]
    exact hother (by rw [htype]; decide) (by rw [htype]; decide) (by rw [htype]; decide)
  · next htype =>
    rw [(ResponseSummary.sameEnd_pushToolCall _ _).1]
    exact hother (by rw [htype]; decide) (by rw [htype]; decide) (by rw [htype]; decide)
  · next htype =>
    refine hend (by decide) (fun htype => ?_) htype
    unfold responsesProtocolTerminal
    rw [htype]
    rfl
  · next htype =>
    refine hend (by decide) (fun htype => ?_) htype
    unfold responsesProtocolTerminal
    rw [htype]
    rfl
  · next htype =>
    refine hend (by decide) (fun htype => ?_) htype
    unfold responsesProtocolTerminal
    rw [htype]
    rfl
  · next hcompleted hincomplete hfailed => exact hother hcompleted hincomplete hfailed

theorem responses_saySame (accumulator : ResponsesAccumulator) (summary : ResponseSummary)
    (event : Value) (h : accumulator.protocolTerminal = summary.protocolTerminal) :
    (accumulator.onEvent event false).protocolTerminal =
      (accumulateResponsesEvent event summary).protocolTerminal := by
  rw [protocolTerminal_accumulateResponsesEvent, responsesProtocolTerminal_eq, ← h]
  unfold ResponsesAccumulator.onEvent
  dsimp only
  cases event.get "response" with
  | none => rfl
  | some response =>
    dsimp only
    split <;> rfl

/-- What `message_delta` says of the stop reason is all that the observer takes from the events,
when there is no body to put together. -/
theorem take_uncaptured (accumulator : AnthropicAccumulator) (serde : Serde) (event : Value) :
    ∃ taken, accumulator.take serde event false = some taken ∧
      taken.protocolTerminal = accumulator.protocolTerminal ∧
      taken.lastStopReason = if event.getStr "type" = some "message_delta" then
        ((event.get "delta").bind (Value.getStr · "stop_reason")).or accumulator.lastStopReason
      else accumulator.lastStopReason := by
  unfold AnthropicAccumulator.take
  split
  · next htype => exact ⟨accumulator, rfl, rfl, by rw [htype, if_neg (by decide)]⟩
  · next htype => exact ⟨accumulator, rfl, rfl, by rw [htype, if_neg (by decide)]⟩
  · next htype => exact ⟨accumulator, rfl, rfl, by rw [htype, if_neg (by decide)]⟩
  · next htype => exact ⟨accumulator, rfl, rfl, by rw [htype, if_neg (by decide)]⟩
  · next htype =>
    rw [htype, if_pos rfl]
    unfold AnthropicAccumulator.messageDelta AnthropicAccumulator.takeStopReason
    cases (event.get "delta").bind (Value.getStr · "stop_reason") with
    | none =>
      unfold AnthropicAccumulator.takeUsage
      cases event.get "usage" with
      | none => exact ⟨_, rfl, rfl, rfl⟩
      | some usage => exact ⟨_, rfl, rfl, rfl⟩
    | some stopReason =>
      unfold AnthropicAccumulator.takeUsage
      cases event.get "usage" with
      | none => exact ⟨_, rfl, rfl, rfl⟩
      | some usage => exact ⟨_, rfl, rfl, rfl⟩
  · next htype => exact ⟨accumulator, rfl, rfl, by rw [htype, if_neg (by decide)]⟩
  · next hdelta _ => exact ⟨accumulator, rfl, rfl, (if_neg hdelta).symm⟩

theorem anthropicProtocolTerminal_none {event : Value} {lastStopReason : Option String}
    (herror : (event.getStr "type").getD "" ≠ "error")
    (hstop : (event.getStr "type").getD "" ≠ "message_stop") :
    anthropicProtocolTerminal event lastStopReason = none := by
  unfold anthropicProtocolTerminal
  split
  · next htype => exact absurd (by rw [htype]; rfl) herror
  · next htype => exact absurd (by rw [htype]; rfl) hstop
  · rfl

theorem anthropicProtocolTerminal_isSome {event : Value} (lastStopReason : Option String)
    (h : event.getStr "type" = some "error" ∨ event.getStr "type" = some "message_stop") :
    (anthropicProtocolTerminal event lastStopReason).isSome := by
  unfold anthropicProtocolTerminal
  rcases h with htype | htype
  · rw [htype]
    rfl
  · rw [htype]
    rfl

theorem accumulateClaudeEvent_end (event : Value) (summary : ResponseSummary) :
    (accumulateClaudeEvent event summary).finishReason =
        (if event.getStr "type" = some "message_delta" then
          ((event.get "delta").bind (Value.getStr · "stop_reason")).or summary.finishReason
        else summary.finishReason) ∧
      (accumulateClaudeEvent event summary).protocolTerminal =
        (anthropicProtocolTerminal event (accumulateClaudeEvent event summary).finishReason).or
          summary.protocolTerminal := by
  -- an event that ends nothing, and one that ends the stream
  have hsame {s : ResponseSummary} (hs : s.SameEnd summary)
      (hdelta : (event.getStr "type").getD "" ≠ "message_delta")
      (herror : (event.getStr "type").getD "" ≠ "error")
      (hstop : (event.getStr "type").getD "" ≠ "message_stop") :
      s.finishReason = (if event.getStr "type" = some "message_delta" then
          ((event.get "delta").bind (Value.getStr · "stop_reason")).or summary.finishReason
        else summary.finishReason) ∧
        s.protocolTerminal = (anthropicProtocolTerminal event s.finishReason).or
          summary.protocolTerminal := by
    rw [if_neg fun htype => hdelta (by rw [htype]; rfl), anthropicProtocolTerminal_none herror hstop]
    exact ⟨hs.2, hs.1⟩
  have hend {ty : String} (hty : ty = "error" ∨ ty = "message_stop")
      (htype : (event.getStr "type").getD "" = ty) :
      (event.getStr "type" ≠ some "message_delta") ∧
        anthropicProtocolTerminal event summary.finishReason =
          (anthropicProtocolTerminal event summary.finishReason).or summary.protocolTerminal := by
    have htype : event.getStr "type" = some ty :=
      getStr_of_getD (by rcases hty with rfl | rfl <;> decide) htype
    have hends : event.getStr "type" = some "error" ∨
        event.getStr "type" = some "message_stop" := by
      rcases hty with rfl | rfl
      · exact .inl htype
      · exact .inr htype
    obtain ⟨terminal, hterminal⟩ := Option.isSome_iff_exists.mp
      (anthropicProtocolTerminal_isSome summary.finishReason hends)
    rw [hterminal, htype]
    refine ⟨fun hdelta => ?_, rfl⟩
    rcases hty with rfl | rfl
    · exact absurd hdelta (by decide)
    · exact absurd hdelta (by decide)
  unfold accumulateClaudeEvent
  split
  · next htype =>
    refine hsame ?_ (by rw [htype]; decide) (by rw [htype]; decide) (by rw [htype]; decide)
    cases event.get "delta" with
    | none => exact ⟨rfl, rfl⟩
    | some delta => exact ResponseSummary.sameEnd_takeBlockDelta summary delta
  · next htype =>
    rw [if_pos (getStr_of_getD (by decide) htype),
      anthropicProtocolTerminal_none (by rw [htype]; decide) (by rw [htype]; decide)]
    exact ⟨rfl, rfl⟩
  · next htype =>
    obtain ⟨hdelta, hterminal⟩ := hend (.inr rfl) htype
    rw [if_neg hdelta]
    exact ⟨rfl, hterminal⟩
  · next htype =>
    obtain ⟨hdelta, hterminal⟩ := hend (.inl rfl) htype
    rw [if_neg hdelta]
    exact ⟨rfl, hterminal⟩
  · next hdelta hstop herror => exact hsame ⟨rfl, rfl⟩ hdelta herror hstop

theorem anthropic_saySame (accumulator : AnthropicAccumulator) (summary : ResponseSummary)
    (serde : Serde) (event : Value)
    (hterminal : accumulator.protocolTerminal = summary.protocolTerminal)
    (hreason : accumulator.lastStopReason = summary.finishReason) :
    ∃ next, accumulator.onEvent serde event false = some next ∧
      next.protocolTerminal = (accumulateClaudeEvent event summary).protocolTerminal ∧
      next.lastStopReason = (accumulateClaudeEvent event summary).finishReason := by
  obtain ⟨taken, htake, hsame, hlast⟩ := take_uncaptured accumulator serde event
  obtain ⟨hfinish, hend⟩ := accumulateClaudeEvent_end event summary
  have hlast : taken.lastStopReason = (accumulateClaudeEvent event summary).finishReason := by
    rw [hlast, hfinish, hreason]
  refine ⟨{ taken with protocolTerminal := (Hooks.anthropicProtocolTerminal event
    taken.lastStopReason).or taken.protocolTerminal }, ?_, ?_, hlast⟩
  · unfold AnthropicAccumulator.onEvent
    rw [htake, Option.map_some]
  · rw [hend, anthropicProtocolTerminal_eq, ← hlast, ← hterminal, ← hsame]

/-- **An event keeps the observers in agreement**, and the observer does not panic on it. -/
theorem SaySame.step {accumulator : ClientSseAccumulator} {summary : ResponseSummary}
    (h : SaySame accumulator summary) (serde : Serde) (event : Value) :
    ∃ next, accumulator.onEvent serde event false = some next ∧ next.format = accumulator.format ∧
      SaySame next (accumulateEvent accumulator.format event summary) := by
  cases accumulator with
  | openAiChatCompletions accumulator =>
    exact ⟨_, rfl, rfl, openai_saySame accumulator summary event h⟩
  | responses accumulator => exact ⟨_, rfl, rfl, responses_saySame accumulator summary event h⟩
  | anthropic accumulator =>
    obtain ⟨next, hnext, hsame⟩ := anthropic_saySame accumulator summary serde event h.1 h.2
    refine ⟨.anthropic next, ?_, rfl, hsame⟩
    show (accumulator.onEvent serde event false).map _ = _
    rw [hnext]
    rfl

/-- **Any number of events.** -/
theorem SaySame.run {accumulator : ClientSseAccumulator} {summary : ResponseSummary}
    (h : SaySame accumulator summary) (serde : Serde) (events : List Value) :
    ∃ last, accumulator.run serde events false = some last ∧
      SaySame last (events.foldl (fun summary event =>
        accumulateEvent accumulator.format event summary) summary) := by
  induction events generalizing accumulator summary with
  | nil => exact ⟨accumulator, rfl, h⟩
  | cons event events ih =>
    obtain ⟨next, hnext, hformat, hsame⟩ := h.step serde event
    obtain ⟨last, hlast, hend⟩ := ih hsame
    rw [hformat] at hend
    refine ⟨last, ?_, hend⟩
    show (accumulator.onEvent serde event false).bind (·.run serde events false) = some last
    rw [hnext]
    exact hlast

end LlmUniversalProxy.DebugTrace
