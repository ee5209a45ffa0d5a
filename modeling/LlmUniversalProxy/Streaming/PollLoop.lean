import LlmUniversalProxy.Streaming.ChunkReader

/-!
# `Streaming.PollLoop` — `poll_next`, one step at a time

`SseStream.poll` says what a whole round of `poll_next` comes to. Here are the states the round goes
through: the chunk that is sliced, the frames that are read behind an offset, the compaction after
them, and the queue with its read position. `poll_runs` puts the two together: a round of
`SseStream.poll` is a run of these steps.

The source is `streaming/stream.rs` 656-819 and 1117-1260, cut where a loop goes round or a value is
kept for the next round.
-/

set_option autoImplicit false

namespace LlmUniversalProxy.Streaming

open Json Lib

/-! ## What a frame does to the queue -/

/-- What a step does to the queue of frames. -/
inductive QueueChange where
  | appended (frames : List SseFrame)
  | replaced (frames : List SseFrame)

/-- Whether a frame makes the state too large. -/
def frameOverflows (handle : FrameHandler) (env : Env) (frame : List UInt8) (event : Option Value)
    (st : SseStream) : Bool :=
  let (next, checked) := handle env frame event st
  checked && decide
    (next.state.accumulatedBytes > next.resourceLimits.maxAccumulatedStreamStateBytes)

/-- What a frame does to the queue: a state that is too large throws it away. -/
def frameChange (handle : FrameHandler) (env : Env) (frame : List UInt8) (event : Option Value)
    (st : SseStream) : QueueChange :=
  let next := handleFrame handle env frame event st
  if frameOverflows handle env frame event st then .replaced next.outputQueue
  else .appended (next.outputQueue.drop st.outputQueue.length)

/-- The frames of a limit's rejection. -/
def limitFrames (env : Env) (limit : StreamResourceLimit) (st : SseStream) : List SseFrame :=
  (rejectStreamResourceLimit env st.clientFormat st.state limit).1

/-! ## States -/

/-- Where `poll_next` stands. -/
inductive PollPoint where
  /-- At the head of its loop. -/
  | loopHead
  /-- In the loop of `push_chunk_with_frame_limit`; `rest` is the chunk from `offset` on. -/
  | pushing (rest : List UInt8)
  /-- In the loop over the frames, with `consumed` bytes of the buffer behind it. The chunk goes on
  with `rest`; there is none when the upstream has ended. -/
  | draining (consumed : Nat) (rest : Option (List UInt8))
  /-- Behind that loop. -/
  | compacting (consumed : Nat) (rest : Option (List UInt8))
  /-- Behind the compaction. -/
  | drained (rest : Option (List UInt8))
  deriving DecidableEq

/-- A stream within `poll_next`. Here `stream.outputQueue` is the whole queue, and what stands
before `outputPos` in it has been yielded. -/
structure Polling where
  stream : SseStream
  outputPos : Nat := 0
  point : PollPoint := .loopHead

/-- What `poll_next` does in one step. -/
inductive PollAction where
  | yielded (frame : SseFrame)
  /-- The timers and the upstream are asked; an expired timer queues the `frames` of its limit. -/
  | polled (upstream : Upstream) (frames : List SseFrame)
  /-- The buffer takes a slice of the chunk. -/
  | sliced (bytes : List UInt8)
  /-- A frame is read off the buffer; `admitted` when it is not one too many. -/
  | took (frame : List UInt8) (admitted : Bool) (change : QueueChange)
  /-- The buffer is full. -/
  | oversized (frames : List SseFrame)
  | moved

namespace Polling

/-- What is queued and has not been yielded. -/
def pending (p : Polling) : List SseFrame := p.stream.outputQueue.drop p.outputPos

/-- The position moves on; behind the last frame the queue is emptied. -/
def yieldNext (p : Polling) : Polling :=
  if p.outputPos + 1 ≥ p.stream.outputQueue.length then
    { p with stream := { p.stream with outputQueue := [] }, outputPos := 0 }
  else { p with outputPos := p.outputPos + 1 }

def remaining (p : Polling) : Nat :=
  p.stream.resourceLimits.maxSseFrameBytes - p.stream.buffer.length

/-- The buffer has no space left: `self.buffer.len() == max_sse_frame_bytes`. -/
def IsFull (p : Polling) : Prop :=
  p.stream.closeAfterOutput = false ∧
    p.stream.buffer.length = p.stream.resourceLimits.maxSseFrameBytes

section Machine

variable (kind : StreamKind) (surroundings : Nat → Env)

def env (p : Polling) : Env := surroundings p.stream.eventsSeen

/-- A frame of the buffer has been read and is handled. -/
def afterFrame (frame : List UInt8) (event : Option Value) (consumed : Nat)
    (rest : Option (List UInt8)) (p : Polling) : Polling :=
  let next := handleFrame kind.handle (p.env surroundings) frame event p.stream
  { stream := next
    outputPos := if frameOverflows kind.handle (p.env surroundings) frame event p.stream then 0
      else p.outputPos
    point := if next.closeAfterOutput then .compacting consumed rest
      else .draining consumed rest }

/-- A limit is exceeded outside of the loop over the frames. -/
def rejectLimit (limit : StreamResourceLimit) (point : PollPoint) (p : Polling) : Polling :=
  { p with
    stream := p.stream.rejectStreamResourceLimit (p.env surroundings) limit
    point := point }

/-- The steps of `poll_next`. -/
inductive Step : Polling → PollAction → Polling → Prop
  | yielded {p : Polling} {frame : SseFrame} (hpoint : p.point = .loopHead)
      (h : p.stream.outputQueue[p.outputPos]? = some frame) : Step p (.yielded frame) p.yieldNext
  | expired {p : Polling} (timer : StreamTimer) (hpoint : p.point = .loopHead)
      (hqueue : p.stream.outputQueue.length ≤ p.outputPos)
      (hopen : p.stream.closeAfterOutput = false) :
      Step p (.polled (.expired timer) (limitFrames (p.env surroundings) timer.limit p.stream))
        (p.rejectLimit surroundings timer.limit .loopHead)
  | chunk {p : Polling} (bytes : List UInt8) (hpoint : p.point = .loopHead)
      (hqueue : p.stream.outputQueue.length ≤ p.outputPos)
      (hopen : p.stream.closeAfterOutput = false) :
      Step p (.polled (.chunk bytes) []) { p with point := .pushing bytes }
  | failed {p : Polling} (hpoint : p.point = .loopHead)
      (hqueue : p.stream.outputQueue.length ≤ p.outputPos)
      (hopen : p.stream.closeAfterOutput = false) : Step p (.polled .failed []) p
  | ended {p : Polling} (hpoint : p.point = .loopHead)
      (hqueue : p.stream.outputQueue.length ≤ p.outputPos)
      (hopen : p.stream.closeAfterOutput = false) :
      Step p (.polled .ended []) { p with point := .draining 0 none }
  | pushed {p : Polling} {rest : List UInt8} (hpoint : p.point = .pushing rest)
      (h : rest = [] ∨ p.stream.closeAfterOutput = true) :
      Step p .moved { p with point := .loopHead }
  | full {p : Polling} {rest : List UInt8} (hpoint : p.point = .pushing rest) (hrest : rest ≠ [])
      (hopen : p.stream.closeAfterOutput = false) (h : p.remaining = 0) :
      Step p (.oversized (limitFrames (p.env surroundings) .sseFrameTooLarge p.stream))
        (p.rejectLimit surroundings .sseFrameTooLarge .loopHead)
  | sliced {p : Polling} {rest : List UInt8} (hpoint : p.point = .pushing rest) (hrest : rest ≠ [])
      (hopen : p.stream.closeAfterOutput = false) (h : p.remaining ≠ 0) :
      Step p (.sliced (rest.take p.remaining))
        { p with
          stream := { p.stream with buffer := p.stream.buffer ++ rest.take p.remaining }
          point := .draining 0 (some (rest.drop p.remaining)) }
  | took {p : Polling} {consumed frameEnd : Nat} {rest : Option (List UInt8)}
      {frame : List UInt8} {event : Option Value} (hpoint : p.point = .draining consumed rest)
      (h : readOneSseFrame (p.env surroundings).serde (dropSsePrefix p.stream.buffer consumed) =
        some (frame, event, frameEnd)) :
      Step p (.took frame
          (!(p.stream.registerSseEventOrReject (p.env surroundings)).closeAfterOutput)
          (frameChange kind.handle (p.env surroundings) frame event p.stream))
        (p.afterFrame kind surroundings frame event (consumed + frameEnd) rest)
  | exhausted {p : Polling} {consumed : Nat} {rest : Option (List UInt8)}
      (hpoint : p.point = .draining consumed rest)
      (h : readOneSseFrame (p.env surroundings).serde (dropSsePrefix p.stream.buffer consumed) =
        none) : Step p .moved { p with point := .compacting consumed rest }
  | compacted {p : Polling} {consumed : Nat} {rest : Option (List UInt8)}
      (hpoint : p.point = .compacting consumed rest) :
      Step p .moved
        { p with
          stream := { p.stream with buffer := dropSsePrefix p.stream.buffer consumed }
          point := .drained rest }
  | fits {p : Polling} {rest : List UInt8} (hpoint : p.point = .drained (some rest))
      (h : ¬p.IsFull) : Step p .moved { p with point := .pushing rest }
  | filled {p : Polling} {rest : List UInt8} (hpoint : p.point = .drained (some rest))
      (h : p.IsFull) :
      Step p (.oversized (limitFrames (p.env surroundings) .sseFrameTooLarge p.stream))
        (p.rejectLimit surroundings .sseFrameTooLarge (.pushing rest))
  | finished {p : Polling} (hpoint : p.point = .drained none) :
      Step p .moved { p with stream := kind.finish p.stream, point := .loopHead }

end Machine

end Polling

/-! ## What is seen of a run -/

namespace PollAction

/-- The step asks the upstream or its timers, or goes on with what came from there. -/
def takesInput : PollAction → Bool
  | .polled _ _ | .sliced _ | .took _ _ _ => true
  | _ => false

/-- The step belongs to a loop inside of a round. -/
def isInternal : PollAction → Bool
  | .yielded _ | .polled _ _ => false
  | _ => true

/-- The step belongs to the loop over the frames, or is between it and the next slice. -/
def isDraining : PollAction → Bool
  | .took _ _ _ | .moved => true
  | _ => false

/-- The frames the step queues behind those that wait already. -/
def queued : PollAction → List SseFrame
  | .polled _ frames | .oversized frames | .took _ _ (.appended frames) => frames
  | _ => []

/-- The queue is replaced, by a state that is too large. -/
def replaces : PollAction → Bool
  | .took _ _ (.replaced _) => true
  | _ => false

def yieldedFrame : PollAction → Option SseFrame
  | .yielded frame => some frame
  | _ => none

def takenFrame : PollAction → Option (List UInt8)
  | .took frame _ _ => some frame
  | _ => none

/-- The frames that were not one too many. -/
def admittedFrame : PollAction → Option (List UInt8)
  | .took frame true _ => some frame
  | _ => none

end PollAction

/-- A stream that nothing has been read by. -/
def SseStream.fresh (clientFormat : UpstreamFormat) (limits : ResourceLimits)
    (state : StreamState) : SseStream :=
  { clientFormat := clientFormat, resourceLimits := limits, state := state }

/-! ## A round is a run -/

section Round

variable {kind : StreamKind} {surroundings : Nat → Env}

/-- The steps inside of a round lead from one state to the other. -/
def Polling.Reaches (kind : StreamKind) (surroundings : Nat → Env) (p q : Polling) : Prop :=
  ∃ actions, Run (Polling.Step kind surroundings) p actions q ∧
    ∀ action ∈ actions, action.isInternal = true

theorem Polling.Reaches.refl (p : Polling) : Polling.Reaches kind surroundings p p :=
  ⟨[], .nil p, fun _ hmem => by cases hmem⟩

theorem Polling.Reaches.cons {p q r : Polling} {action : PollAction}
    (hstep : Polling.Step kind surroundings p action q) (hinternal : action.isInternal = true)
    (hreaches : Polling.Reaches kind surroundings q r) : Polling.Reaches kind surroundings p r := by
  obtain ⟨actions, hrun, hactions⟩ := hreaches
  refine ⟨action :: actions, .cons hstep hrun, fun other hmem => ?_⟩
  rcases List.mem_cons.mp hmem with rfl | hmem
  · exact hinternal
  · exact hactions other hmem

theorem Polling.Reaches.trans {p q r : Polling} (h : Polling.Reaches kind surroundings p q)
    (h' : Polling.Reaches kind surroundings q r) : Polling.Reaches kind surroundings p r := by
  obtain ⟨actions, hrun, hactions⟩ := h
  induction hrun generalizing r with
  | nil => exact h'
  | snoc _ hlast ih =>
    exact ih (h'.cons hlast (hactions _ (by simp))) fun action hmem =>
      hactions action (List.mem_append_left _ hmem)

theorem Polling.afterFrame_start (frame : List UInt8) (event : Option Value) (consumed : Nat)
    (rest : Option (List UInt8)) (st : SseStream) (point : PollPoint) :
    (Polling.mk st 0 point).afterFrame kind surroundings frame event consumed rest =
      ⟨handleFrame kind.handle (surroundings st.eventsSeen) frame event st, 0,
        if (handleFrame kind.handle (surroundings st.eventsSeen) frame event st).closeAfterOutput
        then .compacting consumed rest else .draining consumed rest⟩ := by
  exact congrArg (fun pos => Polling.mk _ pos _) (ite_self 0)

/-- The loop over the frames. -/
theorem drainLoop_reaches (rest : Option (List UInt8)) (fuel : Nat) :
    ∀ (st : SseStream) (consumed : Nat), st.closeAfterOutput = false →
    (dropSsePrefix st.buffer consumed).length < fuel →
    Polling.Reaches kind surroundings ⟨st, 0, .draining consumed rest⟩
      ⟨(drainLoop kind.handle surroundings fuel st consumed).1, 0,
        .compacting (drainLoop kind.handle surroundings fuel st consumed).2 rest⟩ := by
  induction fuel with
  | zero => exact fun st consumed _ h => absurd h (Nat.not_lt_zero _)
  | succ fuel ih =>
    intro st consumed hopen hfuel
    cases hread : readOneSseFrame (surroundings st.eventsSeen).serde
        (dropSsePrefix st.buffer consumed) with
    | none =>
      have hloop : drainLoop kind.handle surroundings (fuel + 1) st consumed = (st, consumed) := by
        simp only [drainLoop, hread]
      rw [hloop]
      exact .cons (.exhausted rfl hread) rfl (.refl _)
    | some read =>
      obtain ⟨frame, event, frameEnd⟩ := read
      have htook : Polling.Step kind surroundings ⟨st, 0, .draining consumed rest⟩ _ _ :=
        .took rfl hread
      rw [Polling.afterFrame_start] at htook
      refine .cons htook rfl ?_
      simp only [drainLoop, hread]
      -- the loop goes on unless the frame has closed the stream
      by_cases hclosed : (handleFrame kind.handle (surroundings st.eventsSeen) frame event
          st).closeAfterOutput = true
      · simp only [hclosed, if_true]
        exact .refl _
      · have hopen' := Bool.eq_false_iff.mpr hclosed
        simp only [hopen', Bool.false_eq_true, if_false]
        refine ih _ _ hopen' ?_
        have hbuffer := (KeepsBuffer.handleFrame kind (surroundings st.eventsSeen) frame event
          st).buffer hopen'
        rw [readOneSseFrame_eq] at hread
        obtain ⟨n, hn, hframe⟩ := Option.map_eq_some_iff.mp hread
        obtain rfl : n = frameEnd := congrArg (fun t => t.2.2) hframe
        have hend := sseFrameEnd_le hn
        simp only [hbuffer, dropSsePrefix_eq, List.length_drop] at hfuel hend ⊢
        omega

/-- `drain_translated_frames` and `drain_validated_frames`. -/
theorem drainFrames_reaches (rest : Option (List UInt8)) (st : SseStream)
    (hopen : st.closeAfterOutput = false) :
    Polling.Reaches kind surroundings ⟨st, 0, .draining 0 rest⟩
      ⟨drainFrames kind.handle surroundings st, 0, .drained rest⟩ := by
  refine (drainLoop_reaches rest (st.buffer.length + 1) st 0 hopen ?_).trans
    (.cons (.compacted rfl) rfl (.refl _))
  simp [dropSsePrefix_eq]

/-- `push_chunk_with_frame_limit`. -/
theorem pushLoop_reaches (fuel : Nat) : ∀ (chunk : List UInt8) (st : SseStream),
    chunk.length < fuel →
    Polling.Reaches kind surroundings ⟨st, 0, .pushing chunk⟩
      ⟨pushLoop kind.handle surroundings fuel chunk st, 0, .loopHead⟩ := by
  induction fuel with
  | zero => exact fun chunk st h => absurd h (Nat.not_lt_zero _)
  | succ fuel ih =>
    intro chunk st hfuel
    simp only [pushLoop]
    cases hdone : chunk.isEmpty || st.closeAfterOutput with
    | true =>
      have hstop : chunk = [] ∨ st.closeAfterOutput = true := by
        simpa [List.isEmpty_iff] using hdone
      exact .cons (.pushed rfl hstop) rfl (.refl _)
    | false =>
      obtain ⟨hchunk, hopen⟩ : chunk ≠ [] ∧ st.closeAfterOutput = false := by
        simpa [List.isEmpty_iff] using hdone
      simp only [Bool.false_eq_true, if_false]
      by_cases hfull : st.resourceLimits.maxSseFrameBytes - st.buffer.length = 0
      · rw [if_pos hfull]
        exact .cons (.full rfl hchunk hopen hfull) rfl (.refl _)
      · rw [if_neg hfull]
        have hlength : 0 < chunk.length := List.length_pos_iff.mpr hchunk
        have hslice : Polling.Step kind surroundings ⟨st, 0, .pushing chunk⟩ _ _ :=
          .sliced rfl hchunk hopen hfull
        have hremaining : (Polling.mk st 0 (.pushing chunk)).remaining =
          st.resourceLimits.maxSseFrameBytes - st.buffer.length := rfl
        rw [hremaining] at hslice
        generalize st.resourceLimits.maxSseFrameBytes - st.buffer.length = remaining at hfull hslice ⊢
        refine .cons hslice rfl ((drainFrames_reaches (some (chunk.drop remaining))
          { st with buffer := st.buffer ++ chunk.take remaining } hopen).trans ?_)
        generalize drainFrames kind.handle surroundings
          { st with buffer := st.buffer ++ chunk.take remaining } = drained
        have hshorter : (chunk.drop remaining).length < fuel := by
          rw [List.length_drop]
          omega
        by_cases hoversized : drained.closeAfterOutput = false ∧
            drained.buffer.length = drained.resourceLimits.maxSseFrameBytes
        · rw [if_pos (by simpa using hoversized)]
          exact .cons (.filled rfl hoversized) rfl (ih _ _ hshorter)
        · rw [if_neg (by simpa using hoversized)]
          exact .cons (.fits rfl hoversized) rfl (ih _ _ hshorter)

/-- **A round of `poll_next` is a run of its steps**: the upstream is asked, and the steps inside
lead to where `SseStream.poll` says. -/
theorem poll_runs {st : SseStream} (hqueue : st.outputQueue = [])
    (hopen : st.closeAfterOutput = false) (upstream : Upstream) :
    ∃ frames p, Polling.Step kind surroundings ⟨st, 0, .loopHead⟩ (.polled upstream frames) p ∧
      Polling.Reaches kind surroundings p ⟨st.poll kind surroundings upstream, 0, .loopHead⟩ := by
  have hnone : (Polling.mk st 0 .loopHead).stream.outputQueue.length ≤ 0 := by simp [hqueue]
  cases upstream with
  | expired timer => exact ⟨_, _, .expired timer rfl hnone hopen, .refl _⟩
  | chunk bytes =>
    exact ⟨_, _, .chunk bytes rfl hnone hopen,
      pushLoop_reaches (bytes.length + 1) bytes st (Nat.lt_succ_self _)⟩
  | failed => exact ⟨_, _, .failed rfl hnone hopen, .refl _⟩
  | ended =>
    exact ⟨_, _, .ended rfl hnone hopen,
      (drainFrames_reaches none st hopen).trans (.cons (.finished rfl) rfl (.refl _))⟩

end Round

end LlmUniversalProxy.Streaming
