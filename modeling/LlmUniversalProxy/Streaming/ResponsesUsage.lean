import LlmUniversalProxy.Streaming.CallChunks
import LlmUniversalProxy.Streaming.ClaudeProtocol

/-!
# `Streaming.ResponsesUsage` — the usage that the end of a Responses stream tells

A response tells its usage once, with the event that ends it, and that may be sent before the usage
has come. What the event tells is what has been settled until then: the usage, the model and the
finish reason that earlier chunks have left in the state (`Settled`). No operation of the sink touches
these but the capture at the start of a chunk and the step that reads its finish reason.
`responsesOutcome` is what a chunk comes to in the end: it is rejected, it ends the response with this
usage, or the response goes on.
-/

set_option autoImplicit false

namespace LlmUniversalProxy.Streaming

open Json Lib Translate

/-! ## The last event of a response -/

def responseUsage : SseFrame → Option Value
  | .event _ event => (event.get "response").bind (Value.get · "usage")
  | _ => none

/-- From `k` to `k'` frames are pushed, the last of which ends the response with this usage. -/
structure EndsTelling (usage : Option Value) (k k' : Sink) : Prop where
  sent : k'.state.responsesTerminalSent = true
  out : ∃ more last, k'.out = k.out ++ (more ++ [last]) ∧ (∀ f ∈ more, f.isTerminal = false) ∧
    last.isTerminal = true ∧ responseUsage last = usage

theorem Quiet.endsTelling {usage : Option Value} {k₁ k₂ k₃ : Sink} (h : Quiet k₁ k₂)
    (h' : EndsTelling usage k₂ k₃) : EndsTelling usage k₁ k₃ := by
  obtain ⟨more, hmore, hquiet⟩ := h.out
  obtain ⟨more', last, hmore', hquiet', hlast, husage⟩ := h'.out
  refine ⟨h'.sent, more ++ more', last, ?_, ?_, hlast, husage⟩
  · simp [hmore', hmore, List.append_assoc]
  · intro f hf
    exact (List.mem_append.mp hf).elim (hquiet f) (hquiet' f)

/-- The usage that is told in the end is as it was before. -/
theorem Emits.endsTelling {responseId : String} {k₁ k₂ k₃ : Sink} {f : Value → Value}
    (h : Emits Steady responseId k₁ k₂) (h' : EndsTelling (k₂.state.usage.map f) k₂ k₃) :
    EndsTelling (k₁.state.usage.map f) k₁ k₃ := by
  rw [h.kept.usage] at h'
  exact h.quiet.endsTelling h'

theorem endsTelling_terminalEvent (env : Env) (responseId : String) (created : Nat)
    (context : TerminalContext) (carrier : Option String) (k : Sink) :
    EndsTelling (k.state.usage.map openaiUsageToResponsesUsageStream) k
      (emitTerminalEvent env responseId created context carrier k) := by
  refine ⟨rfl, [], _, rfl, by simp, ?_, ?_⟩
  · show isTerminalType (terminalStatus k.state).eventType = true
    generalize terminalStatus k.state = status
    cases status <;> decide
  simp only [responseUsage, Value.get_ofFields, List.lookup_cons]
  show (terminalResponse env responseId created context carrier k.state).get "usage" = _
  unfold terminalResponse
  rw [Value.get_ofFields]
  cases k.state.usage <;> rfl

theorem endsTelling_terminal (env : Env) (responseId : String) (created : Nat) (k : Sink) :
    EndsTelling (k.state.usage.map openaiUsageToResponsesUsageStream) k
      (emitOpenaiResponsesTerminal env responseId created k) :=
  ((((narrates_reasoningDone _ _ k).continues.trans (continues_pendingDone _ _ _ _ _)).trans
    (narrates_appendDegraded _ _ _ _).continues).trans
    (narrates_emitMessageDone _ _ _).continues).endsTelling (endsTelling_terminalEvent _ _ _ _ _ _)

theorem endsTelling_finalize (env : Env) (c : ResponsesChunk) (k : Sink) :
    EndsTelling (k.state.usage.map openaiUsageToResponsesUsageStream) k
      (finalizeResponses env c k) :=
  (continues_flushToolCalls env c.responseId true k).endsTelling (endsTelling_terminal _ _ _ _)

theorem endsTelling_reject (responseId : String) (created : Nat) (code message : String) (k : Sink) :
    EndsTelling (some .null) k
      (rejectOpenaiResponsesStream responseId created code message k) := by
  refine ⟨rfl, [], _, rfl, by simp, ?_, ?_⟩
  · show isTerminalType "response.failed" = true
    decide
  · simp [responseUsage, List.lookup_cons]

/-! ## A chunk with tool calls -/

/-- A tool-call delta with a name that ends the stream. -/
def namesReserved (tc : Value) : Bool :=
  (toolCallFunctionField tc "name").any fun name =>
    (validatePublicToolNameNotReserved name).toBool = false

/-- The loop over the tool-call deltas runs through, or stops at a reserved name. -/
theorem toolCallsResponses_cases (env : Env) (c : ResponsesChunk) (tcs : List Value) (k : Sink) :
    (tcs.any namesReserved = true ∧ ∃ k', toolCallsResponses env c tcs k = .error k' ∧
        EndsTelling (some .null) k k') ∨
      (tcs.any namesReserved = false ∧ ∃ k', toolCallsResponses env c tcs k = .ok k' ∧
        Continues c.responseId k k') := by
  induction tcs generalizing k with
  | nil => exact .inr ⟨rfl, k, rfl, .refl k⟩
  | cons tc tcs ih =>
    have hdedupe : Continues c.responseId k _ := (Emits.refl k).update (f := fun s => { s with
      openaiToolCalls := dedupeToolCallStateByCallId env s.openaiToolCalls
        (responsesToolCallIndex tc) (tc.get "id") }) ⟨rfl, rfl, id⟩
    simp only [toolCallsResponses]
    rw [List.any_cons]
    split
    · next message hname =>
      have hreserved : namesReserved tc = true := by
        obtain ⟨name, hfield, hmessage⟩ := Option.map_eq_some_iff.mp hname
        rw [namesReserved, hfield, Option.any_some, hmessage]
        rfl
      rw [hreserved]
      refine .inl ⟨rfl, _, rfl, ?_⟩
      exact (hdedupe.update (f := fun s => (responsesToolOutputIndex s
        (responsesToolCallIndex tc)).2) (steady_toolIndex _ _)).quiet.endsTelling
        (endsTelling_reject _ _ _ _ _)
    · next hname =>
      have hplain : namesReserved tc = false := by
        unfold namesReserved
        cases hfield : toolCallFunctionField tc "name" with
        | none => rfl
        | some name =>
          rw [Option.any_some]
          cases hvalid : validatePublicToolNameNotReserved name with
          | ok _ => rfl
          | error message =>
            rw [hfield, Option.map_some, hvalid] at hname
            exact absurd rfl (hname message)
      rw [hplain, Bool.false_or]
      have htold := hdedupe.trans (continues_toolCall env c.responseId tc _)
      rcases ih _ with ⟨hany, k', hk', hends⟩ | ⟨hany, k', hk', htold'⟩
      · exact .inl ⟨hany, k', hk', htold.quiet.endsTelling hends⟩
      · exact .inr ⟨hany, k', hk', htold.trans htold'⟩

theorem toolCallsDelta_cases (env : Env) (c : ResponsesChunk) (k : Sink) :
    (((c.delta.getArray "tool_calls").getD []).any namesReserved = true ∧
        ∃ k', toolCallsDelta env c k = .error k' ∧ EndsTelling (some .null) k k') ∨
      (((c.delta.getArray "tool_calls").getD []).any namesReserved = false ∧
        ∃ k', toolCallsDelta env c k = .ok k' ∧ Continues c.responseId k k') := by
  unfold toolCallsDelta
  cases c.delta.getArray "tool_calls" with
  | none => exact .inr ⟨rfl, k, rfl, .refl k⟩
  | some tcs =>
    have htold := (narrates_emitMessageDone c.responseId (some "commentary") k).continues
    rcases toolCallsResponses_cases env c tcs
        (emitResponsesMessageDone c.responseId (some "commentary") k) with
      ⟨hany, k', hk', hends⟩ | ⟨hany, k', hk', htold'⟩
    · exact .inl ⟨hany, k', hk', htold.quiet.endsTelling hends⟩
    · exact .inr ⟨hany, k', hk', htold.trans htold'⟩

/-! ## A chunk -/

/-- A finish reason that ends the response whatever else there is to come. -/
def errorFinish (chunk : Value) : Bool :=
  finishReasonOf chunk = some "context_length_exceeded" || finishReasonOf chunk = some "error" ||
    finishReasonOf chunk = some "tool_error"

def modelOf (chunk : Value) : Option String :=
  (((firstChoice chunk).bind (Value.get · "model")).or (chunk.get "model")).bind Value.asStr

/-- The usage and the finish reason, once the chunk has been taken. -/
def usageAfter (chunk : Value) (s : StreamState) : Option Value := (chunk.get "usage").or s.usage

def finishReasonAfter (chunk : Value) (s : StreamState) : Option String :=
  (finishReasonOf chunk).or s.finishReason

def endsWithChunk (chunk : Value) (s : StreamState) : Bool :=
  errorFinish chunk || (finishReasonAfter chunk s).isSome &&
    (tellsUsage chunk || !isMinimaxChunk chunk (captureModel chunk s))

/-- The chunk ends the response, or leaves it open with what it has settled. -/
theorem conclude_cases (env : Env) (c : ResponsesChunk) (k : Sink)
    (hopen : k.state.responsesTerminalSent = false) :
    let error := c.finishReason = some "context_length_exceeded" ∨
      c.finishReason = some "error" ∨ c.finishReason = some "tool_error"
    let last := error ∨ k.state.finishReason.isSome = true ∧
      (tellsUsage c.chunk = true ∨ isMinimaxChunk c.chunk k.state = false)
    (last → EndsTelling (k.state.usage.map openaiUsageToResponsesUsageStream) k
      (concludeResponses env c k)) ∧
    (¬ last → Continues c.responseId k (concludeResponses env c k)) := by
  dsimp only
  unfold concludeResponses
  by_cases herror : c.finishReason = some "context_length_exceeded" ∨
    c.finishReason = some "error" ∨ c.finishReason = some "tool_error"
  · rw [if_pos herror]
    exact ⟨fun _ => endsTelling_finalize env c k, fun hnot => absurd (.inl herror) hnot⟩
  rw [if_neg herror]
  have htold : Continues c.responseId k (if c.finishReason = some "tool_calls" then
      (emitPendingResponsesToolCallDoneEvents env c.responseId ⟨none, false⟩ false
        (flushPendingResponsesToolCalls env c.responseId true k)).2 else k) := by
    split
    · exact (continues_flushToolCalls _ _ _ k).trans (continues_pendingDone _ _ _ _ _)
    · exact .refl k
  generalize (if c.finishReason = some "tool_calls" then _ else _) = k₁ at htold ⊢
  have hminimax : isMinimaxChunk c.chunk k₁.state = isMinimaxChunk c.chunk k.state := by
    unfold isMinimaxChunk
    rw [htold.kept.model]
  have hunsent : k₁.state.responsesTerminalSent = false := htold.kept.sent.trans hopen
  dsimp only
  rw [htold.kept.finishReason, hunsent, hminimax]
  simp only [herror, false_or]
  constructor
  · intro hlast
    rw [if_pos ⟨hlast.1, by simp, hlast.2.imp_right fun h => by rw [h]; rfl⟩]
    exact htold.endsTelling (endsTelling_finalize env c k₁)
  · intro hnot
    rw [if_neg fun h => hnot ⟨h.1, h.2.2.imp_right fun h => by simpa using h⟩]
    exact htold

/-- What a chunk comes to: it is rejected for the name of a call, ends the response with the usage
that it has been told of until then, or leaves it open. -/
inductive ResponsesOutcome (chunk : Value) (s : StreamState) :
    List SseFrame × StreamState → Prop
  | rejected {k : Sink} (hname : (callsOf chunk).any namesReserved = true)
      (hends : EndsTelling (some .null) ⟨s, []⟩ k) : ResponsesOutcome chunk s (k.out, k.state)
  | ended {k : Sink} (hname : (callsOf chunk).any namesReserved = false)
      (hlast : endsWithChunk chunk s = true)
      (hends : EndsTelling ((usageAfter chunk s).map openaiUsageToResponsesUsageStream)
        ⟨s, []⟩ k) : ResponsesOutcome chunk s (k.out, k.state)
  | goesOn {k : Sink} (hname : (callsOf chunk).any namesReserved = false)
      (hlast : endsWithChunk chunk s = false) (hquiet : Quiet ⟨s, []⟩ k)
      (husage : k.state.usage = usageAfter chunk s)
      (hmodel : k.state.model = s.model.or (modelOf chunk))
      (hfinish : k.state.finishReason = finishReasonAfter chunk s) :
      ResponsesOutcome chunk s (k.out, k.state)

theorem model_captureModel (chunk : Value) (s : StreamState) :
    (captureModel chunk s).model = s.model.or (modelOf chunk) := by
  unfold captureModel modelOf
  cases h : s.model with
  | none => rfl
  | some model => simp [h]

theorem captured_eq (chunk : Value) (s : StreamState) :
    (captureModel chunk (captureError chunk s)).usage = s.usage ∧
      (captureModel chunk (captureError chunk s)).model = (captureModel chunk s).model ∧
      (captureModel chunk (captureError chunk s)).finishReason = s.finishReason := by
  have herror := untouched_captureError chunk s
  obtain ⟨model, hmodel, _⟩ := captureModel_eq chunk (captureError chunk s)
  refine ⟨?_, ?_, ?_⟩
  · rw [hmodel]
    exact herror.usage
  · rw [model_captureModel, model_captureModel, herror.model]
  · rw [hmodel]
    exact herror.finishReason

/-- **A chunk of a response.** -/
theorem responsesOutcome (env : Env) (chunk : Value) {s : StreamState}
    (hopen : s.responsesTerminalSent = false) :
    ResponsesOutcome chunk s (openaiChunkToResponsesSse env chunk s) := by
  unfold openaiChunkToResponsesSse
  rw [if_neg (by simp [hopen])]
  dsimp only
  generalize hc : responsesChunk chunk (captureError chunk s) = c
  have hcalls : (c.delta.getArray "tool_calls").getD [] = callsOf chunk := by rw [← hc]; rfl
  have hchunk : c.chunk = chunk := by rw [← hc]; rfl
  have hreason : c.finishReason = finishReasonOf chunk := by rw [← hc]; rfl
  have hquiet : Quiet ⟨s, []⟩ ⟨captureModel chunk (captureError chunk s), []⟩ :=
    .state (congrArg ResponseEnding.terminalSent
      ((captureModel_ending _ _).trans (captureError_ending _ _)))
  obtain ⟨husage, hmodel, hfinish⟩ := captured_eq chunk s
  have htold := ((narrates_start c ⟨captureModel chunk (captureError chunk s), []⟩).trans
    (narrates_texts env c _)).continues
  generalize textsResponses env c (startResponses c
    ⟨captureModel chunk (captureError chunk s), []⟩) = k at htold ⊢
  -- a reserved name ends the response here; else the calls are told, and the state keeps its ending
  rcases toolCallsDelta_cases env c k with ⟨hname, k', hk', hends⟩ | ⟨hname, k', hk', htold'⟩
  · rw [hk']
    exact .rejected (hcalls ▸ hname) ((hquiet.trans htold.quiet).endsTelling hends)
  rw [hk']
  dsimp only
  have htold := htold.trans htold'
  have hquiet := hquiet.trans htold.quiet
  have husage := htold.kept.usage.trans husage
  have hmodel := htold.kept.model.trans hmodel
  have hfinish := htold.kept.finishReason.trans hfinish
  rw [finishResponses_eq, hchunk, hreason, husage, hfinish]
  have hdone : Quiet k' { k' with state := { k'.state with
      usage := usageAfter chunk s, finishReason := finishReasonAfter chunk s } } := .state rfl
  have hquiet := hquiet.trans hdone
  have hconclude := conclude_cases env c { k' with state := { k'.state with
    usage := usageAfter chunk s, finishReason := finishReasonAfter chunk s } }
    (hquiet.sent.trans hopen)
  dsimp only at hconclude
  rw [hchunk, hreason] at hconclude
  -- the model that counts is the one that has been captured, and nothing since has changed it
  have hminimax : isMinimaxChunk chunk { k'.state with
      usage := usageAfter chunk s, finishReason := finishReasonAfter chunk s } =
      isMinimaxChunk chunk (captureModel chunk s) := by
    unfold isMinimaxChunk
    rw [← hmodel]
  rw [hminimax] at hconclude
  obtain ⟨hlast, hnotLast⟩ := hconclude
  cases hends : endsWithChunk chunk s with
  | true =>
    refine .ended (hcalls ▸ hname) hends (hquiet.endsTelling (hlast ?_))
    simpa [endsWithChunk, errorFinish, or_assoc] using hends
  | false =>
    have hgoes := hnotLast (by
      rw [← Bool.not_eq_true] at hends
      simpa [endsWithChunk, errorFinish, or_assoc] using hends)
    exact .goesOn (hcalls ▸ hname) hends (hquiet.trans hgoes.quiet) hgoes.kept.usage
      (hgoes.kept.model.trans (hmodel.trans (model_captureModel chunk s))) hgoes.kept.finishReason

end LlmUniversalProxy.Streaming
