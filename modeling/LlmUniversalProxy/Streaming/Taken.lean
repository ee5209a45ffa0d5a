import LlmUniversalProxy.Streaming.Capturable

/-!
# `Streaming.Taken` — a translating stream from which the response has been taken

It goes on as it would have with the response, as far as the size of its state allows: the response
counts among what is accumulated, and a stream that keeps it may grow too large where the other one
does not.

`Overfull` is the one thing that tells them apart: the stream that keeps its response has been
closed by the limit on state.
-/

set_option autoImplicit false

namespace LlmUniversalProxy.Streaming

open Json Lib

/-- The stream without the response that is kept. -/
def SseStream.forget (st : SseStream) : SseStream := { st with state := st.state.forget }

theorem forget_of_none {st : SseStream} (h : st.state.responsesTerminalResponse = none) :
    st.forget = st := by
  have hstate : st.state.forget = st.state := by
    rw [StreamState.forget, ← h]
  rw [SseStream.forget, hstate]

/-- `take_terminal_response`. -/
def SseStream.takeTerminalResponse (st : SseStream) : Option Value × SseStream :=
  (if st.captureDisqualified then none else st.state.responsesTerminalResponse, st.forget)

/-- The stream is closed, and its state is above `max_accumulated_stream_state_bytes`; without the
response that it keeps it would be within. What closed it is not said: it may have been this limit
(`streaming/stream.rs` 1096-1105), or the end of the upstream. -/
structure Overfull (st : SseStream) : Prop where
  closed : st.closeAfterOutput = true
  large : st.resourceLimits.maxAccumulatedStreamStateBytes < st.state.accumulatedBytes
  small : st.state.forget.accumulatedBytes ≤ st.resourceLimits.maxAccumulatedStreamStateBytes

/-- A stream from which the response has been taken goes on as the other one, or that one is
overfull. -/
def ForgotOrOverfull (st taken : SseStream) : Prop := taken = st.forget ∨ Overfull st

theorem closeIfFatal_forget (st : SseStream) :
    closeIfFatal st.forget = ((closeIfFatal st).1.forget, (closeIfFatal st).2) := by
  unfold closeIfFatal
  split <;> split
  · rfl
  · next hfatal hnot => exact absurd hfatal hnot
  · next hnot hfatal => exact absurd hfatal hnot
  · rfl

section Forget

variable (env : Env) {responseId : String} {st : SseStream} (hserving : Serving responseId st)

include hserving

theorem limit_forget (limit : StreamResourceLimit) :
    st.forget.rejectStreamResourceLimit env limit =
      (st.rejectStreamResourceLimit env limit).forget := by
  have hresponses : Streaming.rejectStreamResourceLimit env st.clientFormat st.state.forget limit =
      forgetOf (Streaming.rejectStreamResourceLimit env st.clientFormat st.state limit) := by
    rw [hserving.client]
    rfl
  unfold SseStream.rejectStreamResourceLimit SseStream.forget SseStream.extend
  dsimp only
  rw [hresponses]
  rfl

theorem tooLarge_forget : ForgotOrOverfull (st.rejectIfStateTooLarge env)
    (st.forget.rejectIfStateTooLarge env) := by
  have hempty : Serving responseId { st with outputQueue := [] } :=
    ⟨hserving.client, hserving.override⟩
  have hsize := accumulatedBytes_forget st.state
  unfold SseStream.rejectIfStateTooLarge
  by_cases hsmall : st.state.forget.accumulatedBytes ≤
      st.resourceLimits.maxAccumulatedStreamStateBytes
  · rw [if_neg (show ¬st.forget.state.accumulatedBytes >
      st.forget.resourceLimits.maxAccumulatedStreamStateBytes from Nat.not_lt.mpr hsmall)]
    split
    · next hlarge =>
      -- The rejection adds nothing that is counted.
      have hrejected := fun format : UpstreamFormat => show format = .openAiResponses →
          (Streaming.rejectStreamResourceLimit env format st.state
            .stateTooLarge).2.accumulatedBytes = st.state.accumulatedBytes ∧
          (Streaming.rejectStreamResourceLimit env format st.state
            .stateTooLarge).2.forget.accumulatedBytes = st.state.forget.accumulatedBytes from
        fun h => by rw [h]; exact ⟨rfl, rfl⟩
      obtain ⟨hbytes, hforgotten⟩ := hrejected st.clientFormat hserving.client
      exact .inr ⟨rfl, Nat.lt_of_lt_of_eq hlarge hbytes.symm, hforgotten ▸ hsmall⟩
    · exact .inl rfl
  · have hlarge : st.state.accumulatedBytes > st.resourceLimits.maxAccumulatedStreamStateBytes := by
      omega
    rw [if_pos hlarge, if_pos (show st.forget.state.accumulatedBytes >
      st.forget.resourceLimits.maxAccumulatedStreamStateBytes from Nat.lt_of_not_le hsmall)]
    exact .inl (limit_forget env hempty .stateTooLarge)

variable (hsent : st.state.responsesTerminalSent = true)

include hsent

theorem translateFrame_forget {upstreamFormat : UpstreamFormat}
    (hformat : upstreamFormat ≠ .openAiResponses) (frame : List UInt8) (event : Option Value) :
    translateFrame upstreamFormat env frame event st.forget =
      ((translateFrame upstreamFormat env frame event st).1.forget,
        (translateFrame upstreamFormat env frame event st).2) := by
  have hregister : st.forget.registerSseEventOrReject env =
      (st.registerSseEventOrReject env).forget := by
    have hregistered : Serving responseId st.registerSseEvent :=
      ⟨hserving.client, hserving.override⟩
    unfold SseStream.registerSseEventOrReject
    dsimp only
    split <;> split
    · exact limit_forget env hregistered .maxEvents
    · next hmany hfew => exact absurd hmany hfew
    · next hfew hmany => exact absurd hmany hfew
    · rfl
  have hserves := register_serves env hserving
  have hserving' := hserving.after hserves
  have hsent' := hserves.sent hsent
  unfold translateFrame
  dsimp only
  rw [hregister]
  generalize st.registerSseEventOrReject env = next at hserving' hsent' ⊢
  have hclosed : next.forget.closeAfterOutput = next.closeAfterOutput := rfl
  -- A frame that must not be seen is answered with nothing, behind the end.
  have hreject : ∀ disqualified, ({ next.forget with captureDisqualified := disqualified }.rejectFrame
      env internalArtifactErrorMessage) = ({ next with captureDisqualified := disqualified }.rejectFrame
        env internalArtifactErrorMessage).forget := by
    intro disqualified
    unfold SseStream.rejectFrame SseStream.forget SseStream.extend
    dsimp only
    have hgone : next.state.forget.responsesTerminalSent = true := hsent'
    rw [hserving'.client, rejectedName_sent env hsent', rejectedName_sent env hgone]
    rfl
  rw [hclosed]
  split
  · rfl
  split
  · exact Prod.ext (hreject true) rfl
  · cases event with
    | some event =>
      have hevent := translateSseEvent_forget env hsent' hformat event
      rw [← hserving'.client] at hevent
      dsimp only
      rw [show translateSseEvent env upstreamFormat next.forget.clientFormat event next.forget.state =
        _ from hevent]
      exact closeIfFatal_forget (next.extend _)
    | none =>
      dsimp only
      split <;> split
      · exact Prod.ext (hreject true) rfl
      · exact Prod.ext (hreject true) rfl
      · rfl
      · rfl

theorem handleFrame_forget {upstreamFormat : UpstreamFormat}
    (hformat : upstreamFormat ≠ .openAiResponses) (frame : List UInt8) (event : Option Value) :
    ForgotOrOverfull (handleFrame (translateFrame upstreamFormat) env frame event st)
      (handleFrame (translateFrame upstreamFormat) env frame event st.forget) := by
  have hframe := translateFrame_forget env hserving hsent hformat frame event
  have hserves := translateFrame_serves env hserving hformat frame event
  unfold handleFrame
  rw [hframe]
  dsimp only
  split
  · exact tooLarge_forget env (hserving.after hserves)
  · exact .inl rfl

end Forget

theorem pushLoop_closed (handle : FrameHandler) (surroundings : Nat → Env) (fuel : Nat)
    {chunk : List UInt8} {st : SseStream} (h : st.closeAfterOutput = true) :
    pushLoop handle surroundings fuel chunk st = st := by
  cases fuel with
  | zero => rfl
  | succ fuel => rw [pushLoop, h, Bool.or_true, if_pos rfl]

/-- An overfull stream yields what waits, and ends. -/
theorem Overfull.pollNext {kind : StreamKind} {surroundings : Nat → Env} {st : SseStream}
    (h : Overfull st) (answers : List (Option Upstream)) :
    Overfull (st.pollNext kind surroundings answers).stream := by
  unfold SseStream.pollNext
  cases st.outputQueue with
  | cons frame rest => exact ⟨h.closed, h.large, h.small⟩
  | nil =>
    simp only [h.closed, if_true]
    exact h

/-- The response has come to its end. -/
structure Answered (responseId : String) (st : SseStream) : Prop extends Serving responseId st where
  sent : st.state.responsesTerminalSent = true

theorem Answered.after {responseId : String} {st st' : SseStream} (h : Answered responseId st)
    (hserves : Serves responseId st st') : Answered responseId st' :=
  ⟨h.toServing.after hserves, hserves.sent h.sent⟩

section ForgetLoops

variable {upstreamFormat : UpstreamFormat} (hformat : upstreamFormat ≠ .openAiResponses)
  (surroundings : Nat → Env) {responseId : String}

include hformat

theorem drainLoop_forget (fuel : Nat) : ∀ {st : SseStream} (consumed : Nat),
    Answered responseId st →
    let drained := drainLoop (translateFrame upstreamFormat) surroundings fuel st consumed
    drainLoop (translateFrame upstreamFormat) surroundings fuel st.forget consumed =
        (drained.1.forget, drained.2) ∨ Overfull drained.1 := by
  induction fuel with
  | zero => exact fun _ _ => .inl rfl
  | succ fuel ih =>
    intro st consumed h
    simp only [drainLoop]
    have hsame : st.forget.buffer = st.buffer ∧ st.forget.eventsSeen = st.eventsSeen := ⟨rfl, rfl⟩
    rw [hsame.1, hsame.2]
    split
    · exact .inl rfl
    · next frame event frameEnd _ =>
      have hframe := handleFrame_forget (surroundings st.eventsSeen) h.toServing h.sent hformat frame
        event
      have hserves := handleFrame_serves (surroundings st.eventsSeen) h.toServing hformat frame event
      have hanswered := h.after hserves
      generalize handleFrame (translateFrame upstreamFormat) (surroundings st.eventsSeen) frame event
        st = next at hframe hanswered ⊢
      rcases hframe with hforgot | hover
      · rw [hforgot]
        show (if next.closeAfterOutput = true then _ else _) = _ ∨ _
        split
        · exact .inl rfl
        · exact ih _ hanswered
      · rw [if_pos hover.closed]
        exact .inr hover

theorem drainFrames_forget {st : SseStream} (h : Answered responseId st) :
    ForgotOrOverfull (drainFrames (translateFrame upstreamFormat) surroundings st)
      (drainFrames (translateFrame upstreamFormat) surroundings st.forget) := by
  have hloop := drainLoop_forget hformat surroundings (st.buffer.length + 1) 0 h
  unfold drainFrames
  dsimp only at hloop ⊢
  refine hloop.imp (fun hforgot => ?_) fun hover => ⟨hover.closed, hover.large, hover.small⟩
  rw [show st.forget.buffer = st.buffer from rfl, hforgot]
  rfl

theorem pushLoop_forget (fuel : Nat) : ∀ (chunk : List UInt8) {st : SseStream},
    Answered responseId st →
    ForgotOrOverfull (pushLoop (translateFrame upstreamFormat) surroundings fuel chunk st)
      (pushLoop (translateFrame upstreamFormat) surroundings fuel chunk st.forget) := by
  have hgoes := goesWith_serves hformat surroundings responseId
  induction fuel with
  | zero => exact fun _ _ _ => .inl rfl
  | succ fuel ih =>
    intro chunk st h
    -- what the loop asks of the stream does not depend on the response that is kept
    have hdone : (chunk.isEmpty || st.forget.closeAfterOutput) =
        (chunk.isEmpty || st.closeAfterOutput) := rfl
    have hroom : st.forget.resourceLimits.maxSseFrameBytes - st.forget.buffer.length =
        st.resourceLimits.maxSseFrameBytes - st.buffer.length := rfl
    rw [pushLoop, pushLoop, hdone, hroom]
    split
    · exact .inl rfl
    · next hmore =>
      have hopen : st.closeAfterOutput = false := by
        rw [Bool.or_eq_true, not_or, Bool.not_eq_true, Bool.not_eq_true] at hmore
        exact hmore.2
      generalize st.resourceLimits.maxSseFrameBytes - st.buffer.length = remaining
      dsimp only
      split
      · exact .inl (limit_forget _ h.toServing .sseFrameTooLarge)
      · have hslice : Answered responseId { st with buffer := st.buffer ++ chunk.take remaining } :=
          ⟨⟨h.client, h.override⟩, h.sent⟩
        have hdrained := drainFrames_forget hformat surroundings hslice
        have hserves := @GoesWith.drainFrames _ _ _ hgoes
          { st with buffer := st.buffer ++ chunk.take remaining } hopen hslice.toServing
        have hanswered := hslice.after hserves
        have hsame : ({ st.forget with buffer := st.forget.buffer ++ chunk.take remaining } :
            SseStream) = ({ st with buffer := st.buffer ++ chunk.take remaining } :
              SseStream).forget := rfl
        dsimp only at hsame
        rw [hsame]
        dsimp only [StreamKind.handle] at hanswered
        generalize drainFrames (translateFrame upstreamFormat) surroundings
          { st with buffer := st.buffer ++ chunk.take remaining } = next at hdrained hanswered ⊢
        rcases hdrained with hforgot | hover
        · rw [hforgot]
          have hfull : (!next.forget.closeAfterOutput && decide (next.forget.buffer.length =
              next.forget.resourceLimits.maxSseFrameBytes)) = (!next.closeAfterOutput &&
                decide (next.buffer.length = next.resourceLimits.maxSseFrameBytes)) := rfl
          rw [hfull]
          split
          · have hlimit : rejectOversizedSseFrame surroundings next.forget =
                (rejectOversizedSseFrame surroundings next).forget :=
              limit_forget _ hanswered.toServing .sseFrameTooLarge
            rw [hlimit]
            exact ih _ (hanswered.after (limit_serves _ hanswered.toServing _))
          · exact ih _ hanswered
        · -- A stream that is closed takes nothing more.
          rw [hover.closed, Bool.not_true, Bool.false_and, if_neg Bool.false_ne_true,
            pushLoop_closed _ _ _ hover.closed]
          exact .inr hover

theorem poll_forget (upstream : Upstream) {st : SseStream} (h : Answered responseId st) :
    ForgotOrOverfull (st.poll (.translating upstreamFormat) surroundings upstream)
      (st.forget.poll (.translating upstreamFormat) surroundings upstream) := by
  cases upstream with
  | expired timer => exact .inl (limit_forget _ h.toServing timer.limit)
  | chunk bytes => exact pushLoop_forget hformat surroundings _ bytes h
  | failed => exact .inl rfl
  | ended =>
    refine (drainFrames_forget hformat surroundings h).imp (fun hforgot => ?_) fun hover =>
      ⟨hover.closed, hover.large, hover.small⟩
    show StreamKind.finish (.translating upstreamFormat) (drainFrames (translateFrame upstreamFormat)
      surroundings st.forget) = _
    rw [hforgot]
    rfl

/-- **A call of `poll_next` returns the same** once the response has been taken, unless the stream is
overfull then. -/
theorem pollNext_forget (answers : List (Option Upstream)) : ∀ {st : SseStream},
    Answered responseId st →
    let result := st.pollNext (.translating upstreamFormat) surroundings answers
    let taken := st.forget.pollNext (.translating upstreamFormat) surroundings answers
    (taken.polled = result.polled ∧ taken.rest = result.rest ∧
        taken.stream = result.stream.forget) ∨ Overfull result.stream := by
  have hgoes := goesWith_serves hformat surroundings responseId
  induction answers with
  | nil =>
    intro st h
    dsimp only
    unfold SseStream.pollNext
    rw [show st.forget.outputQueue = st.outputQueue from rfl,
      show st.forget.closeAfterOutput = st.closeAfterOutput from rfl]
    cases st.outputQueue with
    | cons frame rest => exact .inl ⟨rfl, rfl, rfl⟩
    | nil =>
      dsimp only
      split <;> exact .inl ⟨rfl, rfl, rfl⟩
  | cons answer answers ih =>
    intro st h
    dsimp only
    unfold SseStream.pollNext
    rw [show st.forget.outputQueue = st.outputQueue from rfl,
      show st.forget.closeAfterOutput = st.closeAfterOutput from rfl]
    cases st.outputQueue with
    | cons frame rest => exact .inl ⟨rfl, rfl, rfl⟩
    | nil =>
      dsimp only
      split
      · exact .inl ⟨rfl, rfl, rfl⟩
      · next hclosed =>
        have hopen : st.closeAfterOutput = false := by simpa using hclosed
        -- The answer is polled, and the rest of the call is one from there.
        have hmore : ∀ upstream,
            let result := (st.poll (.translating upstreamFormat) surroundings upstream).pollNext
              (.translating upstreamFormat) surroundings answers
            let taken := (st.forget.poll (.translating upstreamFormat) surroundings upstream).pollNext
              (.translating upstreamFormat) surroundings answers
            (taken.polled = result.polled ∧ taken.rest = result.rest ∧
                taken.stream = result.stream.forget) ∨ Overfull result.stream := by
          intro upstream
          have hanswered := h.after (hgoes.poll upstream hopen h.toServing)
          rcases poll_forget hformat surroundings upstream h with hforgot | hover
          · rw [hforgot]
            exact ih hanswered
          · exact .inr (hover.pollNext answers)
        cases answer with
        | none => exact .inl ⟨rfl, rfl, rfl⟩
        | some upstream =>
          cases upstream with
          | failed => exact .inl ⟨rfl, rfl, rfl⟩
          | chunk bytes => exact hmore (.chunk bytes)
          | expired timer => exact hmore (.expired timer)
          | ended =>
            dsimp only
            rcases poll_forget hformat surroundings .ended h with hforgot | hover
            · rw [hforgot, show ∀ st : SseStream, st.forget.outputQueue = st.outputQueue from
                fun _ => rfl]
              cases (st.poll (.translating upstreamFormat) surroundings .ended).outputQueue with
              | cons frame rest => exact .inl ⟨rfl, rfl, rfl⟩
              | nil => exact .inl ⟨rfl, rfl, rfl⟩
            · refine .inr ?_
              cases (st.poll (.translating upstreamFormat) surroundings .ended).outputQueue with
              | cons frame rest => exact ⟨hover.closed, hover.large, hover.small⟩
              | nil => exact hover

end ForgetLoops

/-! ## Behind whoever takes the response -/

/-- A stream of this response: what is kept is kept behind the end. -/
structure Keeping (responseId : String) (st : SseStream) : Prop extends Serving responseId st where
  kept : st.state.responsesTerminalResponse.isSome = true → st.state.responsesTerminalSent = true

/-- `inner` is the stream, or what it is once the response has been taken. -/
def TakenFrom (responseId : String) (st inner : SseStream) : Prop :=
  inner = st ∨ Answered responseId st ∧ inner = st.forget

theorem TakenFrom.take {responseId : String} {st inner : SseStream} (h : TakenFrom responseId st inner)
    (hkeeping : Keeping responseId st) : TakenFrom responseId st inner.forget := by
  rcases h with rfl | ⟨hanswered, rfl⟩
  · cases hkept : inner.state.responsesTerminalResponse with
    | none => exact .inl (forget_of_none hkept)
    | some response =>
      exact .inr ⟨⟨hkeeping.toServing, hkeeping.kept (by rw [hkept]; rfl)⟩, rfl⟩
  · exact .inr ⟨hanswered, rfl⟩

section Calls

variable {upstreamFormat : UpstreamFormat} (hformat : upstreamFormat ≠ .openAiResponses)
  (surroundings : Nat → Env) {responseId : String}

include hformat

theorem Keeping.pollNext {st : SseStream} (h : Keeping responseId st)
    (answers : List (Option Upstream)) : Keeping responseId
      (st.pollNext (.translating upstreamFormat) surroundings answers).stream := by
  obtain ⟨asked, hasked, hpolled⟩ :=
    (goesWith_serves hformat surroundings responseId).pollNext answers st
  have hserves := hasked h.toServing
  have hafter : Keeping responseId asked := by
    refine ⟨h.toServing.after hserves, fun hkept => ?_⟩
    rcases hserves.kept with hsame | hsent
    · rw [hsame] at hkept
      exact hserves.sent (h.kept hkept)
    · exact hsent
  rcases hpolled with ⟨frame, rest, -, -, hstream⟩ | ⟨-, -, hstream⟩
  · rw [hstream]
    exact ⟨⟨hafter.client, hafter.override⟩, hafter.kept⟩
  · rw [hstream]
    exact hafter

theorem Answered.pollNext {st : SseStream} (h : Answered responseId st)
    (answers : List (Option Upstream)) : Answered responseId
      (st.pollNext (.translating upstreamFormat) surroundings answers).stream := by
  obtain ⟨asked, hasked, hpolled⟩ :=
    (goesWith_serves hformat surroundings responseId).pollNext answers st
  have hafter := h.after (hasked h.toServing)
  rcases hpolled with ⟨frame, rest, -, -, hstream⟩ | ⟨-, -, hstream⟩
  · rw [hstream]
    exact ⟨⟨hafter.client, hafter.override⟩, hafter.sent⟩
  · rw [hstream]
    exact hafter

/-- A call returns the same, and leaves the same but for the response. -/
theorem TakenFrom.pollNext {st inner : SseStream} (h : TakenFrom responseId st inner)
    (answers : List (Option Upstream)) :
    let result := st.pollNext (.translating upstreamFormat) surroundings answers
    let taken := inner.pollNext (.translating upstreamFormat) surroundings answers
    (taken.polled = result.polled ∧ taken.rest = result.rest ∧
        TakenFrom responseId result.stream taken.stream) ∨ Overfull result.stream := by
  rcases h with rfl | ⟨hanswered, rfl⟩
  · exact .inl ⟨rfl, rfl, .inl rfl⟩
  · exact (pollNext_forget hformat surroundings answers hanswered).imp_left
      fun ⟨hpolled, hrest, hstream⟩ =>
        ⟨hpolled, hrest, .inr ⟨hanswered.pollNext hformat surroundings answers, hstream⟩⟩

end Calls

/-- What is overfull stays so. -/
theorem Overfull.polls {kind : StreamKind} {surroundings : Nat → Env} (n : Nat) :
    ∀ {answers : List (Option Upstream)} {st : SseStream}, Overfull st →
      Overfull (st.polls kind surroundings n answers).2 := by
  induction n with
  | zero => exact fun h => h
  | succ n ih => exact fun h => ih (h.pollNext _)

end LlmUniversalProxy.Streaming
