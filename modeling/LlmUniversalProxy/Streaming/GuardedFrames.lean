import LlmUniversalProxy.Streaming.PollLoop

/-!
# `Streaming.GuardedFrames` — what the handling of a frame keeps

The limits of a stream are enforced in several places (`stream.rs` 626-770 and 1076-1210): a frame
is counted before it is looked at, the buffer is filled under a limit, and the state is measured
behind a frame. A stream that has broken one of them clears its buffer and closes, with an error
behind what is queued; one whose state is too large drops the queue first. `Follows` is what all the
others keep. The two kinds of stream differ in what they make of a frame, not in this.
-/

set_option autoImplicit false

namespace LlmUniversalProxy.Streaming

open Json Lib

/-! ## Handling a frame -/

/-- What the handling of a frame keeps: the limits, the count of the events, and the queue in front
of what it adds. The buffer stays unless a limit clears it. -/
structure Follows (st next : SseStream) : Prop where
  limits : next.resourceLimits = st.resourceLimits
  events : next.eventsSeen = st.eventsSeen
  buffer : next.buffer = st.buffer ∨ next.buffer = []
  queue : st.outputQueue <+: next.outputQueue

namespace Follows

theorem refl (st : SseStream) : Follows st st := ⟨rfl, rfl, .inl rfl, List.prefix_rfl⟩

theorem trans {st₁ st₂ st₃ : SseStream} (h : Follows st₁ st₂) (h' : Follows st₂ st₃) :
    Follows st₁ st₃ := by
  refine ⟨h'.limits.trans h.limits, h'.events.trans h.events, ?_, h.queue.trans h'.queue⟩
  rcases h'.buffer with hsame | hcleared
  · rw [hsame]
    exact h.buffer
  · exact .inr hcleared

theorem rejectLimit (env : Env) (limit : StreamResourceLimit) (st : SseStream) :
    Follows st (st.rejectStreamResourceLimit env limit) :=
  ⟨rfl, rfl, .inr rfl, List.prefix_append _ _⟩

theorem rejectFrame (env : Env) (message : String) (st : SseStream) :
    Follows st (st.rejectFrame env message) :=
  ⟨rfl, rfl, .inl rfl, List.prefix_append _ _⟩

theorem extend (output : List SseFrame × StreamState) (st : SseStream) :
    Follows st (st.extend output) :=
  ⟨rfl, rfl, .inl rfl, List.prefix_append _ _⟩

theorem closeIfFatal (st : SseStream) : Follows st (closeIfFatal st).1 := by
  unfold Streaming.closeIfFatal
  split
  · exact ⟨rfl, rfl, .inl rfl, List.prefix_rfl⟩
  · exact refl st

theorem register (env : Env) (st : SseStream) :
    Follows st.registerSseEvent (st.registerSseEventOrReject env) := by
  simp only [SseStream.registerSseEventOrReject]
  split
  · exact rejectLimit env .maxEvents _
  · exact refl _

theorem handle (kind : StreamKind) (env : Env) (frame : List UInt8) (event : Option Value)
    (st : SseStream) : Follows st.registerSseEvent (kind.handle env frame event st).1 := by
  have hregister := register env st
  cases kind with
  | translating upstreamFormat =>
    simp only [StreamKind.handle, translateFrame]
    generalize st.registerSseEventOrReject env = next at hregister ⊢
    split
    · exact hregister
    · refine hregister.trans ?_
      split
      · exact ⟨rfl, rfl, .inl rfl, List.prefix_append _ _⟩
      · cases event with
        | none =>
          simp only
          split <;> split <;> exact ⟨rfl, rfl, .inl rfl, by simp [SseStream.rejectFrame,
            SseStream.extend]⟩
        | some event => exact (extend _ next).trans (closeIfFatal _)
  | guarding =>
    simp only [StreamKind.handle, guardFrame]
    generalize st.registerSseEventOrReject env = next at hregister ⊢
    split
    · exact hregister
    · refine hregister.trans ?_
      split
      · exact rejectFrame env _ next
      · cases event with
        | none =>
          simp only
          split
          · exact rejectFrame env _ next
          · exact extend _ next
        | some event =>
          simp only
          split
          · exact extend _ next
          · split
            · exact rejectFrame env _ next
            · exact extend _ next

end Follows

section Handling

variable (kind : StreamKind) (env : Env) (frame : List UInt8) (event : Option Value)
  (st : SseStream)

/-- A frame that does not make the state too large is handled without the check. -/
theorem handleFrame_fits
    (h : frameOverflows kind.handle env frame event st = false) :
    handleFrame kind.handle env frame event st = (kind.handle env frame event st).1 := by
  simp only [frameOverflows] at h
  simp only [handleFrame, SseStream.rejectIfStateTooLarge]
  split
  · next hchecked =>
    rw [hchecked, Bool.true_and, decide_eq_false_iff_not] at h
    rw [if_neg h]
  · rfl

/-- A frame that makes the state too large leaves the rejection alone in the queue. -/
theorem handleFrame_overflows
    (h : frameOverflows kind.handle env frame event st = true) :
    handleFrame kind.handle env frame event st =
      { (kind.handle env frame event st).1 with
        outputQueue := [] }.rejectStreamResourceLimit env .stateTooLarge := by
  simp only [frameOverflows, Bool.and_eq_true, decide_eq_true_eq] at h
  simp only [handleFrame, SseStream.rejectIfStateTooLarge, h.1, if_true]
  rw [if_pos h.2]

theorem handleFrame_limits :
    (handleFrame kind.handle env frame event st).resourceLimits = st.resourceLimits :=
  (KeepsBuffer.handleFrame kind env frame event st).limits

theorem handleFrame_events :
    (handleFrame kind.handle env frame event st).eventsSeen = st.registerSseEvent.eventsSeen := by
  have hfollows := Follows.handle kind env frame event st
  cases h : frameOverflows kind.handle env frame event st with
  | true =>
    rw [handleFrame_overflows kind env frame event st h]
    exact hfollows.events
  | false =>
    rw [handleFrame_fits kind env frame event st h]
    exact hfollows.events

theorem handleFrame_buffer :
    (handleFrame kind.handle env frame event st).buffer = st.buffer ∨
      (handleFrame kind.handle env frame event st).buffer = [] := by
  cases h : frameOverflows kind.handle env frame event st with
  | true =>
    rw [handleFrame_overflows kind env frame event st h]
    exact .inr rfl
  | false =>
    rw [handleFrame_fits kind env frame event st h]
    exact (Follows.handle kind env frame event st).buffer

/-- The queue after a frame, from what the step says it did. -/
theorem handleFrame_queue :
    (handleFrame kind.handle env frame event st).outputQueue =
      match frameChange kind.handle env frame event st with
      | .appended frames => st.outputQueue ++ frames
      | .replaced frames => frames := by
  simp only [frameChange]
  cases h : frameOverflows kind.handle env frame event st with
  | true => rfl
  | false =>
    rw [handleFrame_fits kind env frame event st h]
    obtain ⟨frames, hframes⟩ := (Follows.handle kind env frame event st).queue
    have hqueue : st.registerSseEvent.outputQueue = st.outputQueue := rfl
    rw [hqueue] at hframes
    simp [← hframes]

/-- A frame that is one too many closes the stream. -/
theorem closed_of_refused
    (h : (st.registerSseEventOrReject env).closeAfterOutput = true) :
    (handleFrame kind.handle env frame event st).closeAfterOutput = true := by
  have hhandle : kind.handle env frame event st = (st.registerSseEventOrReject env, false) := by
    cases kind with
    | translating upstreamFormat => simp only [StreamKind.handle, translateFrame, h, if_true]
    | guarding => simp only [StreamKind.handle, guardFrame, h, if_true]
  simp only [handleFrame, hhandle, Bool.false_eq_true, if_false, h]

end Handling

/-- A stream that is open stays so for a frame unless it is one too many. -/
theorem register_open_iff (env : Env) {st : SseStream} (hopen : st.closeAfterOutput = false) :
    (st.registerSseEventOrReject env).closeAfterOutput = false ↔
      st.registerSseEvent.eventsSeen ≤ st.resourceLimits.streamMaxEvents := by
  have hlimits : st.registerSseEvent.resourceLimits = st.resourceLimits := rfl
  simp only [SseStream.registerSseEventOrReject, hlimits]
  split
  · next hover =>
    constructor
    · intro h
      cases h
    · intro h
      omega
  · next hover =>
    constructor
    · intro _
      omega
    · intro _
      exact hopen

/-! ## The buffer -/

/-- What holds between any two steps of `poll_next`. -/
structure Polling.Inv (limits : ResourceLimits) (p : Polling) : Prop where
  configured : p.stream.resourceLimits = limits
  buffer : p.stream.buffer.length ≤ limits.maxSseFrameBytes
  position : p.outputPos ≤ p.stream.outputQueue.length
  draining : ∀ {consumed : Nat} {rest : Option (List UInt8)},
    p.point = .draining consumed rest → p.stream.closeAfterOutput = false

section Steps

variable {kind : StreamKind} {surroundings : Nat → Env} {limits : ResourceLimits}
  {p q : Polling} {action : PollAction}

theorem Polling.Inv.rejectLimit (hp : p.Inv limits) (limit : StreamResourceLimit)
    {point : PollPoint}
    (hpoint : ∀ {consumed : Nat} {rest : Option (List UInt8)}, point ≠ .draining consumed rest) :
    (p.rejectLimit surroundings limit point).Inv limits where
  configured := hp.configured
  buffer := Nat.zero_le _
  position := by
    have h := hp.position
    simp only [Polling.rejectLimit, SseStream.rejectStreamResourceLimit, SseStream.extend,
      List.length_append]
    omega
  draining h := absurd h hpoint

theorem Polling.Inv.step (hp : p.Inv limits) (hstep : Polling.Step kind surroundings p action q) :
    q.Inv limits := by
  cases hstep with
  | yielded hpoint h =>
    obtain ⟨hlt, -⟩ := List.getElem?_eq_some_iff.mp h
    simp only [Polling.yieldNext]
    split
    · exact ⟨hp.configured, hp.buffer, Nat.le_refl _, fun hd => by simp [hpoint] at hd⟩
    · exact ⟨hp.configured, hp.buffer, hlt, fun hd => by simp [hpoint] at hd⟩
  | expired timer => exact hp.rejectLimit timer.limit (by simp)
  | chunk bytes => exact ⟨hp.configured, hp.buffer, hp.position, fun hd => by simp at hd⟩
  | failed => exact hp
  | ended hpoint hqueue hopen => exact ⟨hp.configured, hp.buffer, hp.position, fun _ => hopen⟩
  | pushed => exact ⟨hp.configured, hp.buffer, hp.position, fun hd => by simp at hd⟩
  | full => exact hp.rejectLimit .sseFrameTooLarge (by simp)
  -- at most the room that is left is taken, so the buffer stays within its limit
  | @sliced rest hpoint hrest hopen h =>
    refine ⟨hp.configured, ?_, hp.position, fun _ => hopen⟩
    have hbuffer := hp.buffer
    simp only [Polling.remaining, hp.configured] at h ⊢
    rw [List.length_append, List.length_take]
    omega
  -- a frame leaves the buffer as it is, or clears it
  | @took consumed frameEnd rest frame event hpoint h =>
    refine ⟨(handleFrame_limits kind _ frame event p.stream).trans hp.configured, ?_, ?_, ?_⟩
    · rcases handleFrame_buffer kind (p.env surroundings) frame event p.stream with hsame | hcleared
      · simp only [Polling.afterFrame, hsame]
        exact hp.buffer
      · simp [Polling.afterFrame, hcleared]
    · have hposition := hp.position
      have hqueue := handleFrame_queue kind (p.env surroundings) frame event p.stream
      simp only [Polling.afterFrame]
      split
      · exact Nat.zero_le _
      · next hfits =>
        simp only [frameChange, hfits, Bool.false_eq_true, if_false] at hqueue
        rw [hqueue, List.length_append]
        omega
    · intro consumed' rest' hd
      simp only [Polling.afterFrame] at hd ⊢
      split at hd
      · cases hd
      · next hopen => simpa using hopen
  | exhausted => exact ⟨hp.configured, hp.buffer, hp.position, fun hd => by simp at hd⟩
  | compacted =>
    refine ⟨hp.configured, ?_, hp.position, fun hd => by simp at hd⟩
    rw [dropSsePrefix_eq, List.length_drop]
    exact Nat.le_trans (Nat.sub_le _ _) hp.buffer
  | fits => exact ⟨hp.configured, hp.buffer, hp.position, fun hd => by simp at hd⟩
  | filled => exact hp.rejectLimit .sseFrameTooLarge (by simp)
  | finished =>
    cases kind with
    | translating => exact ⟨hp.configured, Nat.zero_le _, hp.position, fun hd => by simp at hd⟩
    | guarding => exact ⟨hp.configured, hp.buffer, hp.position, fun hd => by simp at hd⟩

end Steps

end LlmUniversalProxy.Streaming
