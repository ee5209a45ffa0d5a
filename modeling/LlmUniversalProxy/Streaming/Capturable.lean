import LlmUniversalProxy.Streaming.Passthrough
import LlmUniversalProxy.Streaming.PollNext
import LlmUniversalProxy.Streaming.TerminalResponse

/-!
# `Streaming.Capturable` — a translating stream, as its capture sees it

Two things of a stream matter to whoever takes the response that it keeps. Its frames belong to one
response, and a response that is kept is in a frame that waits. And as long as the stream is not
disqualified it has neither been closed nor met a frame that it could not read.

The response is taken by `take_terminal_response` (`streaming/stream.rs` 1068-1074).
-/

set_option autoImplicit false

namespace LlmUniversalProxy.Streaming

open Json Lib

/-! ## One response -/

/-- From `st` to `st'` the stream serves one response: unless it is disqualified then, it has
answered. -/
structure Serves (responseId : String) (st st' : SseStream) : Prop where
  client : st'.clientFormat = st.clientFormat
  override : st'.state.responsesResponseIdOverride = st.state.responsesResponseIdOverride
  disqualified : st.captureDisqualified = true → st'.captureDisqualified = true
  sent : st.state.responsesTerminalSent = true → st'.state.responsesTerminalSent = true
  kept : st'.state.responsesTerminalResponse = st.state.responsesTerminalResponse ∨
    st'.state.responsesTerminalSent = true
  frames : ∀ f ∈ st'.outputQueue, f ∈ st.outputQueue ∨ f.BelongsTo responseId
  answered : st'.captureDisqualified = true ∨ ∃ more, st'.outputQueue = st.outputQueue ++ more ∧
    OfResponse responseId st.state (more, st'.state)

namespace Serves

variable {responseId : String} {st st₁ st₂ : SseStream}

theorem of_answer {more : List SseFrame} (hclient : st₁.clientFormat = st.clientFormat)
    (hdisqualified : st.captureDisqualified = true → st₁.captureDisqualified = true)
    (hqueue : st₁.outputQueue = st.outputQueue ++ more)
    (h : OfResponse responseId st.state (more, st₁.state)) : Serves responseId st st₁ where
  client := hclient
  override := h.override
  disqualified := hdisqualified
  sent := h.sent
  kept := h.response.imp_right fun hnew => hnew.2.1
  frames := fun f hf => by
    rw [hqueue] at hf
    exact (List.mem_append.mp hf).imp_right (h.frames f)
  answered := .inr ⟨more, hqueue, h⟩

theorem same (hclient : st₁.clientFormat = st.clientFormat) (hstate : st₁.state = st.state)
    (hdisqualified : st.captureDisqualified = true → st₁.captureDisqualified = true)
    (hqueue : st₁.outputQueue = st.outputQueue) : Serves responseId st st₁ :=
  .of_answer hclient hdisqualified (hqueue.trans (List.append_nil _).symm)
    (.nothing (congrArg StreamState.ending hstate))

theorem trans (h : Serves responseId st st₁) (h' : Serves responseId st₁ st₂) :
    Serves responseId st st₂ where
  client := h'.client.trans h.client
  override := h'.override.trans h.override
  disqualified := h'.disqualified ∘ h.disqualified
  sent := h'.sent ∘ h.sent
  kept := by
    rcases h'.kept with hsame | hsent
    · exact h.kept.imp hsame.trans h'.sent
    · exact .inr hsent
  frames := fun f hf => (h'.frames f hf).elim (h.frames f) .inr
  answered := by
    rcases h'.answered with hdisqualified | ⟨more', hqueue', hanswer'⟩
    · exact .inl hdisqualified
    · rcases h.answered with hdisqualified | ⟨more, hqueue, hanswer⟩
      · exact .inl (h'.disqualified hdisqualified)
      · exact .inr ⟨more ++ more', by rw [hqueue', hqueue, List.append_assoc],
          hanswer.append hanswer'⟩

end Serves

/-- The stream speaks to a Responses client, of this response. -/
structure Serving (responseId : String) (st : SseStream) : Prop where
  client : st.clientFormat = .openAiResponses
  override : st.state.responsesResponseIdOverride = some responseId

theorem Serving.after {responseId : String} {st st' : SseStream} (h : Serving responseId st)
    (hserves : Serves responseId st st') : Serving responseId st' :=
  ⟨hserves.client.trans h.client, hserves.override.trans h.override⟩

section Frames

variable (env : Env) {responseId : String} {st : SseStream} (hserving : Serving responseId st)

include hserving

theorem limit_serves (limit : StreamResourceLimit) :
    Serves responseId st (st.rejectStreamResourceLimit env limit) := by
  refine .of_answer rfl (fun _ => rfl) rfl ?_
  show OfResponse responseId st.state
    (Streaming.rejectStreamResourceLimit env st.clientFormat st.state limit)
  rw [hserving.client]
  exact error_ofResponse env hserving.override _

theorem register_serves : Serves responseId st (st.registerSseEventOrReject env) := by
  have hregister : Serves responseId st st.registerSseEvent := .same rfl rfl id rfl
  unfold SseStream.registerSseEventOrReject
  dsimp only
  split
  · exact hregister.trans (limit_serves env (hserving.after hregister) _)
  · exact hregister

/-- A state that is too large throws away what waits. -/
theorem tooLarge_serves : Serves responseId st (st.rejectIfStateTooLarge env) := by
  unfold SseStream.rejectIfStateTooLarge
  split
  · have hempty : Serving responseId { st with outputQueue := [] } :=
      ⟨hserving.client, hserving.override⟩
    have hlimit := limit_serves env hempty .stateTooLarge
    exact ⟨hlimit.client, hlimit.override, fun _ => rfl, hlimit.sent, hlimit.kept,
      fun f hf => .inr ((hlimit.frames f hf).elim (fun hf => absurd hf List.not_mem_nil) id),
      .inl rfl⟩
  · exact .same rfl rfl id rfl

/-- A frame that must not be seen disqualifies the stream. -/
theorem rejectedFrame_serves (message : String) :
    Serves responseId st
      ({ st with captureDisqualified := true }.rejectFrame env message) := by
  refine .of_answer rfl (fun _ => rfl) rfl ?_
  show OfResponse responseId st.state
    (rejectPublicStreamToolName env st.clientFormat st.state message)
  rw [hserving.client]
  exact rejectedName_ofResponse env hserving.override _

theorem event_serves {upstreamFormat : UpstreamFormat} (hformat : upstreamFormat ≠ .openAiResponses)
    (event : Value) :
    Serves responseId st (closeIfFatal (st.extend
      (translateSseEvent env upstreamFormat st.clientFormat event st.state))).1 := by
  have hanswer := translateSseEvent_ofResponse env hserving.override hformat event
  rw [← hserving.client] at hanswer
  have hevent : Serves responseId st (st.extend
      (translateSseEvent env upstreamFormat st.clientFormat event st.state)) :=
    .of_answer rfl id rfl hanswer
  unfold closeIfFatal
  split
  · exact hevent.trans (.same rfl rfl (fun _ => rfl) rfl)
  · exact hevent

theorem translateFrame_serves {upstreamFormat : UpstreamFormat}
    (hformat : upstreamFormat ≠ .openAiResponses) (frame : List UInt8) (event : Option Value) :
    Serves responseId st (translateFrame upstreamFormat env frame event st).1 := by
  have hregister := register_serves env hserving
  have hserving' := hserving.after hregister
  unfold translateFrame
  dsimp only
  generalize st.registerSseEventOrReject env = next at hregister hserving' ⊢
  split
  · exact hregister
  split
  · exact hregister.trans (rejectedFrame_serves env hserving' _)
  · cases event with
    | some event => exact hregister.trans (event_serves env hserving' hformat event)
    | none =>
      dsimp only
      split <;> split
      · exact hregister.trans (rejectedFrame_serves env hserving' _)
      · exact hregister.trans (rejectedFrame_serves env hserving' _)
      · exact hregister.trans (.same rfl rfl (fun _ => rfl) rfl)
      · exact hregister

theorem handleFrame_serves {upstreamFormat : UpstreamFormat}
    (hformat : upstreamFormat ≠ .openAiResponses) (frame : List UInt8) (event : Option Value) :
    Serves responseId st (handleFrame (translateFrame upstreamFormat) env frame event st) := by
  have hframe := translateFrame_serves env hserving hformat frame event
  unfold handleFrame
  dsimp only
  split
  · exact hframe.trans (tooLarge_serves env (hserving.after hframe))
  · exact hframe

end Frames

/-- **Whatever happens to the stream, it goes on serving the response.** -/
theorem goesWith_serves {upstreamFormat : UpstreamFormat}
    (hformat : upstreamFormat ≠ .openAiResponses) (surroundings : Nat → Env) (responseId : String) :
    GoesWith (.translating upstreamFormat) surroundings fun st st' =>
      Serving responseId st → Serves responseId st st' where
  refl := fun _ _ => .same rfl rfl id rfl
  trans := fun h h' hserving => (h hserving).trans (h' (hserving.after (h hserving)))
  buffer := fun _ _ _ => .same rfl rfl id rfl
  frame := fun frame event _ _ hserving => handleFrame_serves _ hserving hformat frame event
  limit := fun limit _ _ _ hserving => limit_serves _ hserving limit
  finish := fun _ _ => .same rfl rfl (fun h => by simp [StreamKind.finish, h]) rfl

/-! ## What disqualifies -/

/-- The frame has no data, or its data can be read. -/
def Decodable (serde : Serde) (frame : List UInt8) : Prop :=
  sseFrameHasNonemptyNonDoneData frame = true → (parseSseEventJson serde frame).isSome = true

/-- The stream is open and has rejected nothing. -/
structure Untroubled (st : SseStream) : Prop where
  opened : st.closeAfterOutput = false
  unrejected : st.state.fatalRejection = none

/-- The stream is untroubled, has handled the frames of the bytes, all of which it could read, and
keeps the rest. -/
structure Intact (serde : Serde) (bytes : List UInt8) (st : SseStream) : Prop extends
    Untroubled st where
  buffer : st.buffer = restOf bytes
  decodable : ∀ frame ∈ framesOf bytes, Decodable serde frame

def IntactOrNot (serde : Serde) (bytes : List UInt8) (st : SseStream) : Prop :=
  st.captureDisqualified = true ∨ Intact serde bytes st

/-- The stream goes on from where it was. -/
theorem Intact.append {serde : Serde} {bytes more : List UInt8} {st st' : SseStream}
    (h : Intact serde bytes st) (h' : Intact serde (st.buffer ++ more) st') :
    Intact serde (bytes ++ more) st' := by
  refine ⟨h'.toUntroubled, ?_, fun frame hframe => ?_⟩
  · rw [h'.buffer, restOf_append bytes, h.buffer]
  · rw [framesOf_append] at hframe
    refine (List.mem_append.mp hframe).elim (h.decodable frame) fun hframe => ?_
    rw [← h.buffer] at hframe
    exact h'.decodable frame hframe

section Intact

variable {upstreamFormat : UpstreamFormat}

/-- A frame disqualifies the stream, or it could be read. -/
theorem translateFrame_intact (env : Env) (frame : List UInt8) (event : Option Value)
    {st : SseStream} (h : Untroubled st) :
    let next := (translateFrame upstreamFormat env frame event st).1
    next.captureDisqualified = true ∨
      Untroubled next ∧ (sseFrameHasNonemptyNonDoneData frame = true → event.isSome = true) := by
  have hregister : (st.registerSseEventOrReject env).captureDisqualified = true ∧
      (st.registerSseEventOrReject env).closeAfterOutput = true ∨
      Untroubled (st.registerSseEventOrReject env) := by
    unfold SseStream.registerSseEventOrReject
    dsimp only
    split
    · exact .inl ⟨rfl, rfl⟩
    · exact .inr ⟨h.opened, h.unrejected⟩
  unfold translateFrame
  dsimp only
  generalize st.registerSseEventOrReject env = next at hregister ⊢
  rcases hregister with ⟨hmany, hclosed⟩ | hnext
  · rw [if_pos hclosed]
    exact .inl hmany
  · rw [if_neg (by simp [hnext.opened])]
    split
    · exact .inl rfl
    · cases event with
      | some event =>
        unfold closeIfFatal
        dsimp only
        split
        · exact .inl rfl
        · next hfatal => exact .inr ⟨⟨hnext.opened, by simpa using hfatal⟩, fun _ => rfl⟩
      | none =>
        dsimp only
        split <;> split
        · exact .inl rfl
        · exact .inl rfl
        · exact .inl rfl
        · next _ hempty => exact .inr ⟨hnext, fun hdata => absurd hdata hempty⟩

theorem handleFrame_intact (env : Env) (frame : List UInt8) (event : Option Value)
    {st : SseStream} (h : Untroubled st) :
    let next := handleFrame (translateFrame upstreamFormat) env frame event st
    next.captureDisqualified = true ∨
      Untroubled next ∧ (sseFrameHasNonemptyNonDoneData frame = true → event.isSome = true) := by
  have hframe := @translateFrame_intact upstreamFormat env frame event st h
  unfold handleFrame
  dsimp only at hframe ⊢
  split
  · unfold SseStream.rejectIfStateTooLarge
    split
    · exact .inl rfl
    · exact hframe
  · exact hframe

variable {serde : Serde} {surroundings : Nat → Env} (hserde : ∀ n, (surroundings n).serde = serde)
  (hformat : upstreamFormat ≠ .openAiResponses) {responseId : String}

include hserde hformat

theorem drainLoop_intact (fuel : Nat) : ∀ {st : SseStream} (consumed : Nat),
    Serving responseId st → Untroubled st → (st.buffer.drop consumed).length < fuel →
    let drained := drainLoop (translateFrame upstreamFormat) surroundings fuel st consumed
    drained.1.captureDisqualified = true ∨ Untroubled drained.1 ∧
      drained.1.buffer.drop drained.2 = restOf (st.buffer.drop consumed) ∧
      ∀ frame ∈ framesOf (st.buffer.drop consumed), Decodable serde frame := by
  induction fuel with
  | zero => exact fun _ _ _ hfuel => absurd hfuel (Nat.not_lt_zero _)
  | succ fuel ih =>
    intro st consumed hserving huntroubled hfuel
    simp only [drainLoop, dropSsePrefix_eq, readOneSseFrame_eq, hserde]
    cases hend : sseFrameEnd (st.buffer.drop consumed) with
    | none =>
      have hcut := Framing.cutAll_none hend
      simp only [Option.map_none]
      refine .inr ⟨huntroubled, ?_, ?_⟩
      · rw [restOf, hcut]
      · simp [framesOf, hcut]
    | some n =>
      have hcut := Framing.cutAll_some sseScanner.findsEnd hend
      have hpos := sseScanner.pos hend
      have hle := sseScanner.le hend
      generalize hfirst : (st.buffer.drop consumed).take n = first at hcut
      rw [List.drop_drop] at hcut
      have hrestOf : restOf (st.buffer.drop consumed) = restOf (st.buffer.drop (consumed + n)) :=
        (congrArg Prod.snd hcut).trans rfl
      have hframesOf : framesOf (st.buffer.drop consumed) =
          first :: framesOf (st.buffer.drop (consumed + n)) :=
        (congrArg Prod.fst hcut).trans rfl
      simp only [Option.map_some, hfirst]
      have hframe := @handleFrame_intact upstreamFormat (surroundings st.eventsSeen) first
        (parseSseEventJson serde first) st huntroubled
      have hserves := handleFrame_serves (surroundings st.eventsSeen) hserving hformat first
        (parseSseEventJson serde first)
      have hkeeps := KeepsBuffer.handleFrame (.translating upstreamFormat)
        (surroundings st.eventsSeen) first (parseSseEventJson serde first) st
      dsimp only [StreamKind.handle] at hframe hserves hkeeps
      generalize handleFrame (translateFrame upstreamFormat) (surroundings st.eventsSeen) first
        (parseSseEventJson serde first) st = next at hframe hserves hkeeps ⊢
      -- once disqualified, always so: the loop goes on, but nothing is captured any more
      rcases hframe with hdisqualified | ⟨hnext, hread⟩
      · split
        · exact .inl hdisqualified
        · next hclosed =>
          exact .inl (((goesWith_serves hformat surroundings responseId).drainLoop fuel next _
            (by simpa using hclosed) (hserving.after hserves)).disqualified hdisqualified)
      · rw [if_neg (by simp [hnext.opened])]
        have hbuffer := hkeeps.buffer hnext.opened
        have hshorter : (next.buffer.drop (consumed + n)).length < fuel := by
          rw [hbuffer, List.length_drop]
          rw [List.length_drop] at hfuel hle
          omega
        have hrest := ih _ (hserving.after hserves) hnext hshorter
        rw [hbuffer] at hrest
        rw [hrestOf, hframesOf]
        refine hrest.imp_right fun hrest => ⟨hrest.1, hrest.2.1, ?_⟩
        exact fun frame hmem =>
          (List.mem_cons.mp hmem).elim (fun h => h ▸ hread) (hrest.2.2 frame)

theorem drainFrames_intact {st : SseStream} (hserving : Serving responseId st)
    (h : Untroubled st) :
    IntactOrNot serde st.buffer (drainFrames (translateFrame upstreamFormat) surroundings st) := by
  have hloop := drainLoop_intact hserde hformat (st.buffer.length + 1) 0 hserving h
    (Nat.lt_succ_self _)
  unfold drainFrames
  dsimp only at hloop ⊢
  rw [dropSsePrefix_eq]
  exact hloop.imp_right fun ⟨hafter, hbuffer, hframes⟩ =>
    ⟨⟨hafter.opened, hafter.unrejected⟩, hbuffer, hframes⟩

theorem pushLoop_intact (fuel : Nat) : ∀ {chunk : List UInt8} {bytes : List UInt8} {st : SseStream},
    Serving responseId st → Intact serde bytes st → chunk.length < fuel →
    IntactOrNot serde (bytes ++ chunk)
      (pushLoop (translateFrame upstreamFormat) surroundings fuel chunk st) := by
  have hgoes := goesWith_serves hformat surroundings responseId
  induction fuel with
  | zero => exact fun _ _ hfuel => absurd hfuel (Nat.not_lt_zero _)
  | succ fuel ih =>
    intro chunk bytes st hserving hintact hfuel
    rw [pushLoop]
    cases hchunk : chunk with
    | nil =>
      rw [List.append_nil]
      exact .inr hintact
    | cons b more =>
      rw [← hchunk]
      have hmore : (chunk.isEmpty || st.closeAfterOutput) = false := by
        rw [hchunk, hintact.opened]
        rfl
      generalize hremaining : st.resourceLimits.maxSseFrameBytes - st.buffer.length = remaining
      simp only [hmore, Bool.false_eq_true, if_false]
      split
      · exact .inl rfl
      · next hroom =>
        have hserving' : Serving responseId { st with buffer := st.buffer ++ chunk.take remaining } :=
          ⟨hserving.client, hserving.override⟩
        have hdrained := drainFrames_intact hserde hformat hserving'
          ⟨hintact.opened, hintact.unrejected⟩
        have hserves := @GoesWith.drainFrames _ _ _ hgoes
          { st with buffer := st.buffer ++ chunk.take remaining } hintact.opened hserving'
        have hnext := hserving'.after hserves
        dsimp only [StreamKind.handle] at hdrained hserves hnext
        generalize drainFrames (translateFrame upstreamFormat) surroundings
          { st with buffer := st.buffer ++ chunk.take remaining } = next at hdrained hserves hnext ⊢
        have hshorter : (chunk.drop remaining).length < fuel := by
          have hlong : 0 < chunk.length := hchunk ▸ Nat.zero_lt_succ _
          rw [List.length_drop]
          omega
        have hdisqualified : ∀ {st : SseStream}, Serving responseId st →
            st.captureDisqualified = true → IntactOrNot serde (bytes ++ chunk)
              (pushLoop (translateFrame upstreamFormat) surroundings fuel
                (chunk.drop remaining) st) := fun hserving h =>
          .inl ((hgoes.pushLoop fuel _ _ hserving).disqualified h)
        split
        · -- The frame fills the buffer.
          exact hdisqualified (hnext.after (limit_serves _ hnext _)) rfl
        · rcases hdrained with hdrained | hdrained
          · exact hdisqualified hnext hdrained
          · have hrest := ih hnext (hintact.append hdrained) hshorter
            rwa [List.append_assoc, List.take_append_drop] at hrest

omit hserde in
theorem pollNext_disqualified {answers : List (Option Upstream)} {st : SseStream}
    (hserving : Serving responseId st) (h : st.captureDisqualified = true) :
    (st.pollNext (.translating upstreamFormat) surroundings
      answers).stream.captureDisqualified = true := by
  obtain ⟨asked, hasked, hpolled⟩ :=
    (goesWith_serves hformat surroundings responseId).pollNext answers st
  have hstill := (hasked hserving).disqualified h
  rcases hpolled with ⟨frame, rest, -, -, hstream⟩ | ⟨-, -, hstream⟩
  · rw [hstream]
    exact hstill
  · rw [hstream]
    exact hstill

/-- **A call of `poll_next` disqualifies the stream, or comes to a stop, or has read nothing but
chunks, with frames that it could read.** -/
theorem pollNext_intact (answers : List (Option Upstream)) : ∀ {bytes : List UInt8}
    {st : SseStream}, Serving responseId st → IntactOrNot serde bytes st →
    let result := st.pollNext (.translating upstreamFormat) surroundings answers
    result.stream.captureDisqualified = true ∨ result.polled.isStop = true ∨
      Intact serde (bytes ++ chunkBytes (result.asked.map .inl)) result.stream ∧
        ∀ upstream ∈ result.asked, ∃ chunk, upstream = .chunk chunk := by
  -- Where nothing is asked, the stream is as intact as before.
  have hsame : ∀ {bytes : List UInt8} {st : SseStream}, Intact serde bytes st →
      ∀ rest, Intact serde (bytes ++ chunkBytes []) { st with outputQueue := rest } ∧
        ∀ upstream ∈ ([] : List Upstream), ∃ chunk, upstream = .chunk chunk := fun h rest => by
    rw [show chunkBytes [] = [] from rfl, List.append_nil]
    exact ⟨⟨⟨h.opened, h.unrejected⟩, h.buffer, h.decodable⟩, by simp⟩
  induction answers with
  | nil =>
    intro bytes st hserving h
    dsimp only
    rcases h with h | h
    · exact .inl (pollNext_disqualified hformat hserving h)
    · unfold SseStream.pollNext
      cases hqueue : st.outputQueue with
      | cons frame rest => exact .inr (.inr (hsame h rest))
      | nil =>
        simp only [h.opened, Bool.false_eq_true, if_false]
        exact .inr (.inr (hsame h st.outputQueue))
  | cons answer answers ih =>
    intro bytes st hserving h
    dsimp only
    rcases h with h | h
    · exact .inl (pollNext_disqualified hformat hserving h)
    · unfold SseStream.pollNext
      cases hqueue : st.outputQueue with
      | cons frame rest => exact .inr (.inr (hsame h rest))
      | nil =>
        have hpoll := fun upstream =>
          hserving.after ((goesWith_serves hformat surroundings responseId).poll upstream
            h.opened hserving)
        simp only [h.opened, Bool.false_eq_true, if_false]
        cases answer with
        | none => exact .inr (.inr (hsame h st.outputQueue))
        | some upstream =>
          cases upstream with
          | failed => exact .inr (.inl rfl)
          | ended =>
            -- What is left of the buffer is not a frame, so that nothing comes of it.
            have hnone : sseFrameEnd st.buffer = none := h.buffer ▸ (framesOf_longest bytes).2
            have hdrained : (st.poll (.translating upstreamFormat) surroundings
                .ended).outputQueue = [] := by
              simp only [SseStream.poll, StreamKind.finish, drainFrames, drainLoop,
                dropSsePrefix_eq, readOneSseFrame_eq, List.drop_zero, hnone, Option.map_none]
              exact hqueue
            rw [hdrained]
            exact .inr (.inl rfl)
          | expired timer => exact .inl (pollNext_disqualified hformat (hpoll (.expired timer)) rfl)
          | chunk more =>
            have hnext := ih (hpoll (.chunk more))
              (pushLoop_intact hserde hformat (more.length + 1) hserving h (Nat.lt_succ_self _))
            refine hnext.imp_right fun hnext => hnext.imp_right fun hnext => ⟨?_, ?_⟩
            · have hintact := hnext.1
              rw [List.append_assoc] at hintact
              exact hintact
            · exact List.forall_mem_cons.mpr ⟨⟨more, rfl⟩, hnext.2⟩

end Intact

end LlmUniversalProxy.Streaming
