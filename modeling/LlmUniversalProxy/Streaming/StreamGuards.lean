import LlmUniversalProxy.Streaming.GuardedFrames

/-!
# `Streaming.StreamGuards` — what the limits of a stream keep

The invariants of `poll_next` over all runs of its steps: the buffer stays within a frame's limit,
the frames that are handled within the limit on events, a stream that is closed asks for nothing
more, the queue is yielded in order, and the loops inside of a round end.

One invariant has a limit of its own: the count of events is a `usize`, and stops at the maximum of
that type. Where the limit on events is that maximum, nothing is ever too many, so the bound on the
frames is asked for below it only. `usize::MAX` is a limit the configuration accepts.
-/

set_option autoImplicit false

namespace LlmUniversalProxy.Streaming

open Json Lib

section Steps

variable {kind : StreamKind} {surroundings : Nat → Env} {limits : ResourceLimits}
  {p q : Polling} {action : PollAction}

/-! ## The events -/

/-- The largest `usize`, at which the event counter stops. -/
def usizeMax : Nat := UInt64.size - 1

/-- The counter of a stream that is open says how many frames were admitted, up to where it stops;
and no more were than are allowed, unless that is the number it stops at. -/
structure Polling.Counted (limits : ResourceLimits) (actions : List PollAction) (p : Polling) :
    Prop where
  seen : p.stream.closeAfterOutput = false →
    p.stream.eventsSeen = min (actions.filterMap PollAction.admittedFrame).length usizeMax
  admitted : limits.streamMaxEvents < usizeMax →
    (actions.filterMap PollAction.admittedFrame).length ≤ limits.streamMaxEvents

/-- A step that admits no frame, and opens nothing, keeps the count. -/
theorem Polling.Counted.keep {actions : List PollAction} (hp : p.Counted limits actions)
    (haction : action.admittedFrame = none)
    (hopen : q.stream.closeAfterOutput = false → p.stream.closeAfterOutput = false)
    (hseen : q.stream.eventsSeen = p.stream.eventsSeen) :
    q.Counted limits (actions ++ [action]) := by
  have hsame : (actions ++ [action]).filterMap PollAction.admittedFrame =
      actions.filterMap PollAction.admittedFrame := by
    rw [List.filterMap_append, List.filterMap_cons, haction]
    simp
  refine ⟨fun h => ?_, fun h => ?_⟩
  · rw [hsame, hseen]
    exact hp.seen (hopen h)
  · rw [hsame]
    exact hp.admitted h

theorem Polling.Counted.step {actions : List PollAction} (hp : p.Counted limits actions)
    (hinv : p.Inv limits) (hstep : Polling.Step kind surroundings p action q) :
    q.Counted limits (actions ++ [action]) := by
  cases hstep with
  | yielded =>
    refine hp.keep rfl ?_ ?_ <;> simp only [Polling.yieldNext] <;> split <;> first | exact id | rfl
  | expired => exact hp.keep rfl (fun h => by cases h) rfl
  | chunk | failed | ended | pushed | sliced | exhausted | compacted | fits =>
    exact hp.keep rfl id rfl
  | full => exact hp.keep rfl (fun h => by cases h) rfl
  | filled => exact hp.keep rfl (fun h => by cases h) rfl
  | finished => cases kind <;> exact hp.keep rfl id rfl
  | @took consumed frameEnd rest frame event hpoint h =>
    have hopen := hinv.draining hpoint
    have hseen := hp.seen hopen
    have hevents := handleFrame_events kind (p.env surroundings) frame event p.stream
    cases hregister : (p.stream.registerSseEventOrReject (p.env surroundings)).closeAfterOutput with
    | true =>
      have hclosed := closed_of_refused kind (p.env surroundings) frame event p.stream hregister
      have hnone : (actions ++ [PollAction.took frame (!true)
          (frameChange kind.handle (p.env surroundings) frame event p.stream)]).filterMap
            PollAction.admittedFrame = actions.filterMap PollAction.admittedFrame := by
        simp [List.filterMap_append, PollAction.admittedFrame]
      refine ⟨fun h => ?_, fun h => ?_⟩
      · simp only [Polling.afterFrame, hclosed] at h
        cases h
      · rw [hnone]
        exact hp.admitted h
    | false =>
      have hle := (register_open_iff (p.env surroundings) hopen).mp hregister
      have hone : ((actions ++ [PollAction.took frame (!false)
          (frameChange kind.handle (p.env surroundings) frame event p.stream)]).filterMap
            PollAction.admittedFrame).length =
          (actions.filterMap PollAction.admittedFrame).length + 1 := by
        simp [List.filterMap_append, PollAction.admittedFrame]
      have hregistered : p.stream.registerSseEvent.eventsSeen =
          min (p.stream.eventsSeen + 1) usizeMax := rfl
      rw [hregistered, hseen, hinv.configured] at hle
      refine ⟨fun _ => ?_, fun h => ?_⟩
      · rw [hone]
        simp only [Polling.afterFrame, hevents, hregistered, hseen]
        omega
      · rw [hone]
        omega

/-! ## A stream that is closed -/

/-- A stream that is closed stays so, and asks for nothing more. -/
theorem Polling.Inv.closed_step (hp : p.Inv limits) (hclosed : p.stream.closeAfterOutput = true)
    (hstep : Polling.Step kind surroundings p action q) :
    q.stream.closeAfterOutput = true ∧ action.takesInput = false := by
  have hnot : p.stream.closeAfterOutput ≠ false := by simp [hclosed]
  cases hstep with
  | yielded =>
    refine ⟨?_, rfl⟩
    simp only [Polling.yieldNext]
    split <;> exact hclosed
  | expired timer hpoint hqueue hopen => exact absurd hopen hnot
  | chunk bytes hpoint hqueue hopen => exact absurd hopen hnot
  | failed hpoint hqueue hopen => exact absurd hopen hnot
  | ended hpoint hqueue hopen => exact absurd hopen hnot
  | pushed | exhausted | compacted | fits => exact ⟨hclosed, rfl⟩
  | full hpoint hrest hopen => exact absurd hopen hnot
  | sliced hpoint hrest hopen => exact absurd hopen hnot
  | took hpoint => exact absurd (hp.draining hpoint) hnot
  | filled => exact ⟨rfl, rfl⟩
  | finished => cases kind <;> exact ⟨hclosed, rfl⟩

theorem Polling.Inv.closed_run {actions : List PollAction} (hp : p.Inv limits)
    (hclosed : p.stream.closeAfterOutput = true)
    (hrun : Run (Polling.Step kind surroundings) p actions q) :
    ∀ action ∈ actions, action.takesInput = false := by
  refine (hrun.invariant_history (I := fun actions q => q.Inv limits ∧
    q.stream.closeAfterOutput = true ∧ ∀ action ∈ actions, action.takesInput = false)
    ⟨hp, hclosed, by simp⟩ ?_).2.2
  intro actions q r action ⟨hq, hclosed, hactions⟩ hstep
  obtain ⟨hclosed', haction⟩ := hq.closed_step hclosed hstep
  refine ⟨hq.step hstep, hclosed', fun other hmem => ?_⟩
  rcases List.mem_append.mp hmem with hmem | hmem
  · exact hactions other hmem
  · rw [List.mem_singleton.mp hmem]
    exact haction

/-! ## The queue -/

/-- A step yields what waits first, or queues behind what waits; only a state that is too large
throws the queue away. -/
theorem Polling.Inv.pending_step (hp : p.Inv limits)
    (hstep : Polling.Step kind surroundings p action q) (hkeeps : action.replaces = false) :
    p.pending ++ action.queued = action.yieldedFrame.toList ++ q.pending := by
  have hposition := hp.position
  cases hstep with
  | @yielded frame hpoint h =>
    obtain ⟨hlt, hframe⟩ := List.getElem?_eq_some_iff.mp h
    simp only [PollAction.queued, List.append_nil, PollAction.yieldedFrame, Option.toList_some,
      Polling.pending, Polling.yieldNext]
    rw [List.drop_eq_getElem_cons hlt, hframe]
    split
    · rw [List.drop_eq_nil_of_le (by omega)]
      rfl
    · rfl
  | expired | full | filled =>
    simp [Polling.pending, Polling.rejectLimit, SseStream.rejectStreamResourceLimit,
      SseStream.extend, PollAction.queued, PollAction.yieldedFrame, limitFrames,
      List.drop_append_of_le_length hposition]
  | chunk | failed | ended | pushed | sliced | exhausted | compacted | fits =>
    simp [Polling.pending, PollAction.queued, PollAction.yieldedFrame]
  | finished =>
    cases kind <;>
      simp [Polling.pending, StreamKind.finish, PollAction.queued, PollAction.yieldedFrame]
  | @took consumed frameEnd rest frame event hpoint h =>
    have hqueue := handleFrame_queue kind (p.env surroundings) frame event p.stream
    simp only [Polling.pending, Polling.afterFrame]
    cases hoverflows : frameOverflows kind.handle (p.env surroundings) frame event p.stream with
    | true =>
      simp [PollAction.replaces, frameChange, hoverflows] at hkeeps
    | false =>
      simp only [frameChange, hoverflows, Bool.false_eq_true, if_false] at hqueue ⊢
      simp only [PollAction.queued, PollAction.yieldedFrame, Option.toList_none, List.nil_append]
      rw [hqueue, List.drop_append_of_le_length hposition]
      simp

/-- A state that is too large leaves its rejection alone in the queue. -/
theorem Polling.replaced_step {frame : List UInt8} {admitted : Bool} {frames : List SseFrame}
    (hstep : Polling.Step kind surroundings p (.took frame admitted (.replaced frames)) q) :
    q.pending = frames ∧ q.stream.closeAfterOutput = true := by
  generalize htaken : PollAction.took frame admitted (.replaced frames) = action at hstep
  cases hstep with
  | @took consumed frameEnd rest frame' event hpoint h =>
    injection htaken with hframe _ hchange
    subst hframe
    have hqueue := handleFrame_queue kind (p.env surroundings) frame event p.stream
    rw [← hchange] at hqueue
    cases hoverflows : frameOverflows kind.handle (p.env surroundings) frame event p.stream with
    | true =>
      have hclosed := congrArg SseStream.closeAfterOutput
        (handleFrame_overflows kind (p.env surroundings) frame event p.stream hoverflows)
      simp only [Polling.pending, Polling.afterFrame, hoverflows, if_true, List.drop_zero]
      exact ⟨hqueue, hclosed⟩
    | false =>
      simp [frameChange, hoverflows] at hchange
  | _ => cases htaken

theorem Polling.Inv.pending_run {actions : List PollAction} (hp : p.Inv limits)
    (hrun : Run (Polling.Step kind surroundings) p actions q) :
    (∀ action ∈ actions, action.replaces = false) →
    p.pending ++ actions.flatMap PollAction.queued =
      actions.filterMap PollAction.yieldedFrame ++ q.pending := by
  refine (hrun.invariant_history (I := fun actions q => q.Inv limits ∧
    ((∀ action ∈ actions, action.replaces = false) →
      p.pending ++ actions.flatMap PollAction.queued =
        actions.filterMap PollAction.yieldedFrame ++ q.pending)) ⟨hp, by simp⟩ ?_).2
  intro actions q r action ⟨hq, ih⟩ hstep
  refine ⟨hq.step hstep, fun hkeeps => ?_⟩
  have hlast := hq.pending_step hstep (hkeeps action (by simp))
  have hbefore := ih fun other hmem => hkeeps other (List.mem_append_left _ hmem)
  have hone : [action].filterMap PollAction.yieldedFrame = action.yieldedFrame.toList := by
    cases h : action.yieldedFrame <;> simp [h]
  rw [List.flatMap_append, List.filterMap_append, hone, ← List.append_assoc, hbefore,
    List.append_assoc, List.append_assoc, ← hlast]
  simp

/-- What waits is yielded when the stream is polled often enough. -/
theorem Polling.yields_pending (frames : List SseFrame) : ∀ {p : Polling},
    p.point = .loopHead → p.pending = frames →
    ∃ q, Run (Polling.Step kind surroundings) p (frames.map .yielded) q ∧ q.pending = [] := by
  induction frames with
  | nil => exact fun {p} _ hpending => ⟨p, .nil p, hpending⟩
  | cons frame frames ih =>
    intro p hpoint hpending
    have hnext : p.stream.outputQueue[p.outputPos]? = some frame := by
      have hhead := congrArg List.head? hpending
      simpa [Polling.pending, List.head?_drop] using hhead
    have hrest : p.yieldNext.pending = frames := by
      have htail := congrArg List.tail hpending
      simp only [Polling.pending, List.tail_drop, List.tail_cons] at htail
      simp only [Polling.pending, Polling.yieldNext]
      split
      · next hlast =>
        rw [List.drop_eq_nil_of_le (by omega)] at htail
        simpa using htail
      · exact htail
    have hhead : p.yieldNext.point = .loopHead := by
      simp only [Polling.yieldNext]
      split <;> exact hpoint
    obtain ⟨q, hrun, hq⟩ := ih hhead hrest
    exact ⟨q, .cons (.yielded hpoint hnext) hrun, hq⟩

/-! ## The loops inside of a round -/

/-- What is left to do of a chunk once the buffer is drained. -/
def Polling.later (limits : ResourceLimits) : Option (List UInt8) → Nat
  | none => 0
  | some rest => 1 + rest.length * (limits.maxSseFrameBytes + 5)

/-- What is left to do until `poll_next` is back at the head of its loop. -/
def Polling.work (limits : ResourceLimits) (p : Polling) : Nat :=
  match p.point with
  | .loopHead => 0
  | .pushing rest => Polling.later limits (some rest)
  | .draining consumed rest =>
      3 + (p.stream.buffer.length - consumed) + Polling.later limits rest
  | .compacting _ rest => 2 + Polling.later limits rest
  | .drained rest => 1 + Polling.later limits rest

theorem readOneSseFrame_some {serde : Serde} {buffer frame : List UInt8} {event : Option Value}
    {frameEnd : Nat} (h : readOneSseFrame serde buffer = some (frame, event, frameEnd)) :
    frame = buffer.take frameEnd ∧ 0 < frameEnd ∧ frameEnd ≤ buffer.length := by
  rw [readOneSseFrame_eq] at h
  obtain ⟨n, hn, hread⟩ := Option.map_eq_some_iff.mp h
  injection hread with hframe hrest
  injection hrest with _ hend
  have hbounds := sseFrameEnd_le hn
  rw [← hframe, ← hend]
  exact ⟨rfl, by omega, hbounds.2⟩

/-- Every step inside of a round has less to do behind it. -/
theorem Polling.Inv.work_step (hp : p.Inv limits)
    (hstep : Polling.Step kind surroundings p action q) (hinternal : action.isInternal = true) :
    q.work limits < p.work limits := by
  cases hstep with
  | yielded | expired | chunk | failed | ended => cases hinternal
  | @pushed rest hpoint h =>
    simp only [Polling.work, hpoint, Polling.later]
    omega
  | @full rest hpoint =>
    simp only [Polling.work, hpoint, Polling.later, Polling.rejectLimit]
    omega
  | @sliced rest hpoint hrest hopen h =>
    have hbuffer := hp.buffer
    have hlength : 0 < rest.length := List.length_pos_iff.mpr hrest
    simp only [Polling.remaining, hp.configured] at h
    simp only [Polling.work, hpoint, Polling.later, Polling.remaining, hp.configured,
      List.length_append, List.length_take, List.length_drop, Nat.sub_zero]
    generalize limits.maxSseFrameBytes = limit at *
    -- one byte of the chunk less pays for the round over the buffer
    have hless : (rest.length - (limit - p.stream.buffer.length)) * (limit + 5) + (limit + 5) ≤
        rest.length * (limit + 5) := by
      rw [← Nat.succ_mul]
      exact Nat.mul_le_mul_right _ (by omega)
    omega
  | @took consumed frameEnd rest frame event hpoint h =>
    obtain ⟨-, hpos, hle⟩ := readOneSseFrame_some h
    rw [dropSsePrefix_eq, List.length_drop] at hle
    simp only [Polling.work, hpoint, Polling.afterFrame]
    cases hclosed : (handleFrame kind.handle (p.env surroundings) frame event
        p.stream).closeAfterOutput with
    | true =>
      simp only [if_true]
      omega
    | false =>
      have hbuffer := (KeepsBuffer.handleFrame kind (p.env surroundings) frame event
        p.stream).buffer hclosed
      simp only [Bool.false_eq_true, if_false, hbuffer]
      omega
  | exhausted hpoint =>
    simp only [Polling.work, hpoint]
    omega
  | compacted hpoint =>
    simp only [Polling.work, hpoint]
    omega
  | fits hpoint =>
    simp only [Polling.work, hpoint]
    omega
  | filled hpoint =>
    simp only [Polling.work, hpoint, Polling.rejectLimit]
    omega
  | finished hpoint =>
    simp only [Polling.work, hpoint, Polling.later]
    omega

theorem Polling.Inv.work_run {actions : List PollAction} (hp : p.Inv limits)
    (hrun : Run (Polling.Step kind surroundings) p actions q) :
    (∀ action ∈ actions, action.isInternal = true) →
    actions.length + q.work limits ≤ p.work limits := by
  refine (hrun.invariant_history (I := fun actions q => q.Inv limits ∧
    ((∀ action ∈ actions, action.isInternal = true) →
      actions.length + q.work limits ≤ p.work limits)) ⟨hp, by simp⟩ ?_).2
  intro actions q r action ⟨hq, ih⟩ hstep
  refine ⟨hq.step hstep, fun hinternal => ?_⟩
  have hlast := hq.work_step hstep (hinternal action (by simp))
  have hbefore := ih fun other hmem => hinternal other (List.mem_append_left _ hmem)
  rw [List.length_append, List.length_singleton]
  omega

/-- Inside of a round there is always a next step. -/
theorem Polling.progress (hpoint : p.point ≠ .loopHead) :
    ∃ action q, Polling.Step kind surroundings p action q ∧ action.isInternal = true := by
  cases hp : p.point with
  | loopHead => exact absurd hp hpoint
  | pushing rest =>
    by_cases hstop : rest = [] ∨ p.stream.closeAfterOutput = true
    · exact ⟨_, _, .pushed hp hstop, rfl⟩
    · obtain ⟨hrest, hclosed⟩ := not_or.mp hstop
      have hopen := Bool.eq_false_iff.mpr hclosed
      by_cases hfull : p.remaining = 0
      · exact ⟨_, _, .full hp hrest hopen hfull, rfl⟩
      · exact ⟨_, _, .sliced hp hrest hopen hfull, rfl⟩
  | draining consumed rest =>
    cases hread : readOneSseFrame (p.env surroundings).serde
        (dropSsePrefix p.stream.buffer consumed) with
    | none => exact ⟨_, _, .exhausted hp hread, rfl⟩
    | some read => exact ⟨_, _, .took hp hread, rfl⟩
  | compacting consumed rest => exact ⟨_, _, .compacted hp, rfl⟩
  | drained rest =>
    cases rest with
    | none => exact ⟨_, _, .finished hp, rfl⟩
    | some rest =>
      by_cases hfull : p.IsFull
      · exact ⟨_, _, .filled hp hfull, rfl⟩
      · exact ⟨_, _, .fits hp hfull, rfl⟩

/-- A round comes to its end. -/
theorem Polling.Inv.returns {p : Polling} (hp : p.Inv limits) :
    ∃ q, Polling.Reaches kind surroundings p q ∧ q.point = .loopHead := by
  by_cases hpoint : p.point = .loopHead
  · exact ⟨p, .refl p, hpoint⟩
  · obtain ⟨action, q, hstep, hinternal⟩ : ∃ action q,
        Polling.Step kind surroundings p action q ∧ action.isInternal = true :=
      Polling.progress hpoint
    have hless := hp.work_step hstep hinternal
    obtain ⟨r, hreaches, hr⟩ := Polling.Inv.returns (p := q) (hp.step hstep)
    exact ⟨r, hreaches.cons hstep hinternal, hr⟩
  termination_by p.work limits

/-- What the loop over the frames has done of a buffer: the frames that were read are what stood in
front of `consumed`, unless a limit has cleared the buffer. -/
def Polling.Consumes (buffer : List UInt8) (actions : List PollAction) (p : Polling) : Prop :=
  let taken := (actions.filterMap PollAction.takenFrame).flatten
  let cleared := p.stream.closeAfterOutput = true ∧ p.stream.buffer = []
  match p.point with
  | .draining consumed _ => taken = buffer.take consumed ∧ p.stream.buffer = buffer
  | .compacting consumed _ =>
      taken = buffer.take consumed ∧ p.stream.buffer = buffer ∨ cleared
  | .drained _ => taken ++ p.stream.buffer = buffer ∨ cleared
  | _ => True

theorem Polling.Inv.consumes_step {buffer : List UInt8} {actions : List PollAction}
    (hconsumes : p.Consumes buffer actions)
    (hstep : Polling.Step kind surroundings p action q) (hdraining : action.isDraining = true) :
    q.Consumes buffer (actions ++ [action]) := by
  have hmoved : (actions ++ [PollAction.moved]).filterMap PollAction.takenFrame =
      actions.filterMap PollAction.takenFrame := by
    simp [List.filterMap_append, PollAction.takenFrame]
  cases hstep with
  | yielded | expired | chunk | failed | ended | full | sliced | filled => cases hdraining
  | pushed => trivial
  | @took consumed frameEnd rest frame event hpoint h =>
    obtain ⟨hframe, -, hle⟩ := readOneSseFrame_some h
    simp only [Polling.Consumes, hpoint] at hconsumes
    obtain ⟨htaken, hbuffer⟩ := hconsumes
    rw [dropSsePrefix_eq, hbuffer] at hframe hle
    have hmore : ((actions ++ [PollAction.took frame
        (!(p.stream.registerSseEventOrReject (p.env surroundings)).closeAfterOutput)
        (frameChange kind.handle (p.env surroundings) frame event p.stream)]).filterMap
          PollAction.takenFrame).flatten = buffer.take (consumed + frameEnd) := by
      rw [List.filterMap_append, List.flatten_append, htaken, List.take_add, hframe]
      simp [PollAction.takenFrame]
    simp only [Polling.Consumes, Polling.afterFrame]
    cases hclosed : (handleFrame kind.handle (p.env surroundings) frame event
        p.stream).closeAfterOutput with
    | true =>
      simp only [if_true]
      rcases handleFrame_buffer kind (p.env surroundings) frame event p.stream with hsame | hcleared
      · exact .inl ⟨hmore, hsame.trans hbuffer⟩
      · exact .inr ⟨trivial, hcleared⟩
    | false =>
      simp only [Bool.false_eq_true, if_false]
      exact ⟨hmore, ((KeepsBuffer.handleFrame kind (p.env surroundings) frame event
        p.stream).buffer hclosed).trans hbuffer⟩
  | exhausted hpoint =>
    simp only [Polling.Consumes, hpoint] at hconsumes ⊢
    rw [hmoved]
    exact .inl hconsumes
  | @compacted consumed rest hpoint =>
    simp only [Polling.Consumes, hpoint] at hconsumes ⊢
    rw [hmoved, dropSsePrefix_eq]
    rcases hconsumes with ⟨htaken, hbuffer⟩ | ⟨hclosed, hcleared⟩
    · refine .inl ?_
      rw [htaken, hbuffer, List.take_append_drop]
    · exact .inr ⟨hclosed, by rw [hcleared, List.drop_nil]⟩
  | fits => trivial
  | finished => cases kind <;> trivial

theorem Polling.consumes_run {actions : List PollAction} {rest : Option (List UInt8)}
    (hpoint : p.point = .draining 0 rest)
    (hrun : Run (Polling.Step kind surroundings) p actions q) :
    (∀ action ∈ actions, action.isDraining = true) →
    q.Consumes p.stream.buffer actions := by
  refine hrun.invariant_history (I := fun actions q =>
    (∀ action ∈ actions, action.isDraining = true) → q.Consumes p.stream.buffer actions) ?_ ?_
  · intro _
    simp [Polling.Consumes, hpoint]
  · intro actions q r action ih hstep hdraining
    exact Polling.Inv.consumes_step
      (ih fun other hmem => hdraining other (List.mem_append_left _ hmem)) hstep
      (hdraining action (by simp))

end Steps

/-! ## All of it -/

/-- What a stream guards, wherever `poll_next` stands after the steps `actions`. -/
structure Guarded (kind : StreamKind) (surroundings : Nat → Env) (limits : ResourceLimits)
    (actions : List PollAction) (p : Polling) : Prop where
  /-- The buffer holds no more than a frame may be long. -/
  buffer : p.stream.buffer.length ≤ limits.maxSseFrameBytes
  /-- No more frames are handled than are allowed. -/
  events : limits.streamMaxEvents < usizeMax →
    (actions.filterMap PollAction.admittedFrame).length ≤ limits.streamMaxEvents
  /-- A stream that is to be closed goes on with no input. -/
  closed : p.stream.closeAfterOutput = true → ∀ more q,
    Run (Polling.Step kind surroundings) p more q → ∀ action ∈ more, action.takesInput = false
  /-- As long as no state is too large, what waits and what is queued comes out in order, each frame
  once; what has not come out waits still. -/
  queue : ∀ more q, Run (Polling.Step kind surroundings) p more q →
    (∀ action ∈ more, action.replaces = false) →
    p.pending ++ more.flatMap PollAction.queued =
      more.filterMap PollAction.yieldedFrame ++ q.pending
  /-- A state that is too large puts its rejection in the place of the queue, and is the last. -/
  replaced : ∀ frame admitted frames q,
    Polling.Step kind surroundings p (.took frame admitted (.replaced frames)) q →
    q.pending = frames ∧ q.stream.closeAfterOutput = true
  /-- What waits is yielded when the stream is polled. -/
  yields : p.point = .loopHead → ∃ q,
    Run (Polling.Step kind surroundings) p (p.pending.map .yielded) q ∧ q.pending = []
  /-- The loops inside of a round end, however they go. -/
  ends : ∃ bound, ∀ more q, Run (Polling.Step kind surroundings) p more q →
    (∀ action ∈ more, action.isInternal = true) → more.length ≤ bound
  /-- And they do not get stuck before the round is over. -/
  returns : ∃ q, Polling.Reaches kind surroundings p q ∧ q.point = .loopHead
  /-- The loop over the frames takes off the buffer what it has read, and nothing else, unless a
  limit clears the buffer. -/
  removed : ∀ rest more q, p.point = .draining 0 rest →
    Run (Polling.Step kind surroundings) p more q →
    (∀ action ∈ more, action.isDraining = true) → q.point = .drained rest →
    (more.filterMap PollAction.takenFrame).flatten ++ q.stream.buffer = p.stream.buffer ∨
      q.stream.closeAfterOutput = true ∧ q.stream.buffer = []

theorem inv_fresh (clientFormat : UpstreamFormat) (limits : ResourceLimits)
    (state : StreamState) :
    (Polling.mk (.fresh clientFormat limits state) 0 .loopHead).Inv limits :=
  ⟨rfl, Nat.zero_le _, Nat.le_refl _, fun h => by cases h⟩

theorem counted_fresh (clientFormat : UpstreamFormat) (limits : ResourceLimits)
    (state : StreamState) :
    (Polling.mk (.fresh clientFormat limits state) 0 .loopHead).Counted limits [] :=
  ⟨fun _ => rfl, fun _ => Nat.zero_le _⟩

/-- **The guards of a stream**, of either kind, after any steps of `poll_next`. -/
theorem stream_guards {kind : StreamKind} {surroundings : Nat → Env}
    {clientFormat : UpstreamFormat} {limits : ResourceLimits} {state : StreamState}
    {actions : List PollAction} {p : Polling}
    (hrun : Run (Polling.Step kind surroundings) ⟨.fresh clientFormat limits state, 0, .loopHead⟩
      actions p) : Guarded kind surroundings limits actions p := by
  obtain ⟨hinv, hcounted⟩ : p.Inv limits ∧ p.Counted limits actions := by
    refine hrun.invariant_history (I := fun actions p => p.Inv limits ∧ p.Counted limits actions)
      ⟨inv_fresh clientFormat limits state, counted_fresh clientFormat limits state⟩ ?_
    intro actions p q action ⟨hinv, hcounted⟩ hstep
    exact ⟨hinv.step hstep, hcounted.step hinv hstep⟩
  exact {
    buffer := hinv.buffer
    events := hcounted.admitted
    closed := fun hclosed more q hmore => hinv.closed_run hclosed hmore
    queue := fun more q hmore => hinv.pending_run hmore
    replaced := fun frame admitted frames q hstep => Polling.replaced_step hstep
    yields := fun hpoint => Polling.yields_pending p.pending hpoint rfl
    ends := ⟨p.work limits, fun more q hmore hinternal =>
      Nat.le_trans (Nat.le_add_right _ _) (hinv.work_run hmore hinternal)⟩
    returns := hinv.returns
    removed := fun rest more q hpoint hmore hdraining hdrained => by
      have hconsumes := Polling.consumes_run hpoint hmore hdraining
      simpa only [Polling.Consumes, hdrained] using hconsumes }

/-! ## Where the counter stops -/

/-- The limits of a stream of short frames. -/
def blankLimits (streamMaxEvents : Nat) : ResourceLimits := ⟨3, streamMaxEvents, 100⟩

/-- A guarding stream that has seen `seen` events. -/
def blankStream (streamMaxEvents seen : Nat) (buffer : List UInt8) (queue : List SseFrame) :
    SseStream where
  buffer := buffer
  clientFormat := .openAiChatCompletions
  resourceLimits := blankLimits streamMaxEvents
  eventsSeen := seen
  outputQueue := queue

/-- The steps for an empty frame. -/
def blankFrameActions : List PollAction :=
  [.polled (.chunk [lf, lf]) [], .sliced [lf, lf],
    .took [lf, lf] true (.appended [.raw [lf, lf]]), .moved, .moved, .moved, .moved,
    .yielded (.raw [lf, lf])]

section BlankFrames

variable {streamMaxEvents seen : Nat}

theorem register_blankStream (hmax : min (seen + 1) usizeMax ≤ streamMaxEvents)
    (buffer : List UInt8) :
    (blankStream streamMaxEvents seen buffer []).registerSseEventOrReject .still =
      blankStream streamMaxEvents (min (seen + 1) usizeMax) buffer [] :=
  if_neg (Nat.not_lt.mpr hmax)

theorem handle_blankFrame (hmax : min (seen + 1) usizeMax ≤ streamMaxEvents)
    (buffer : List UInt8) :
    guardFrame .still [lf, lf] none (blankStream streamMaxEvents seen buffer []) =
      (blankStream streamMaxEvents (min (seen + 1) usizeMax) buffer [.raw [lf, lf]], false) := by
  have hname : (sseFrameEventType [lf, lf]).any containsInternalArtifactText = false := by
    decide +kernel
  have hartifact : sseFrameContainsInternalArtifact [lf, lf] = false := by decide +kernel
  simp only [guardFrame, register_blankStream hmax, hname, hartifact, Bool.false_eq_true, if_false]
  rfl

theorem took_blankFrame (hmax : min (seen + 1) usizeMax ≤ streamMaxEvents) :
    Polling.Step .guarding (fun _ => .still)
      ⟨blankStream streamMaxEvents seen [lf, lf] [], 0, .draining 0 (some [])⟩
      (.took [lf, lf] true (.appended [.raw [lf, lf]]))
      ⟨blankStream streamMaxEvents (min (seen + 1) usizeMax) [lf, lf] [.raw [lf, lf]], 0,
        .draining 2 (some [])⟩ := by
  have hhandled := handle_blankFrame hmax [lf, lf]
  have hframe : handleFrame guardFrame .still [lf, lf] none
        (blankStream streamMaxEvents seen [lf, lf] []) =
      blankStream streamMaxEvents (min (seen + 1) usizeMax) [lf, lf] [.raw [lf, lf]] := by
    simp only [handleFrame, hhandled, Bool.false_eq_true, if_false]
  have hfits : frameOverflows guardFrame .still [lf, lf] none
      (blankStream streamMaxEvents seen [lf, lf] []) = false := by
    simp only [frameOverflows, hhandled, Bool.false_and]
  have hread : readOneSseFrame Env.still.serde (dropSsePrefix [lf, lf] 0) =
      some ([lf, lf], none, 2) := by decide +kernel
  have htook : Polling.Step .guarding (fun _ => .still)
      ⟨blankStream streamMaxEvents seen [lf, lf] [], 0, .draining 0 (some [])⟩ _ _ :=
    .took rfl hread
  simp only [Polling.env, register_blankStream hmax, frameChange, StreamKind.handle, hframe, hfits,
    Polling.afterFrame, Bool.false_eq_true, if_false] at htook
  exact htook

/-- An empty frame is read and passed on. -/
theorem blankFrame_run (hmax : min (seen + 1) usizeMax ≤ streamMaxEvents) :
    Run (Polling.Step .guarding fun _ => .still)
      ⟨blankStream streamMaxEvents seen [] [], 0, .loopHead⟩ blankFrameActions
      ⟨blankStream streamMaxEvents (min (seen + 1) usizeMax) [] [], 0, .loopHead⟩ := by
  have hslice : Polling.Step .guarding (fun _ => .still)
      ⟨blankStream streamMaxEvents seen [] [], 0, .pushing [lf, lf]⟩ (.sliced [lf, lf])
      ⟨blankStream streamMaxEvents seen [lf, lf] [], 0, .draining 0 (some [])⟩ :=
    Polling.Step.sliced (p := ⟨blankStream streamMaxEvents seen [] [], 0, .pushing [lf, lf]⟩) rfl
      (List.cons_ne_nil _ _) rfl (show 3 - 0 ≠ 0 by decide)
  refine .cons (.chunk [lf, lf] rfl (Nat.le_refl _) rfl) ?_
  refine .cons hslice ?_
  refine .cons (took_blankFrame hmax) ?_
  refine .cons (.exhausted rfl rfl) ?_
  refine .cons (.compacted rfl) ?_
  refine .cons (.fits rfl fun h => absurd (show 0 = 3 from h.2) (by decide)) ?_
  refine .cons (.pushed rfl (.inl rfl)) ?_
  exact .cons (.yielded rfl rfl) (.nil _)

/-- `n` empty frames are read and passed on, as long as the counter is below its limit, or stops
there. -/
theorem blankFrames_run {n : Nat} (hmax : min n usizeMax ≤ streamMaxEvents) : ∃ actions,
    Run (Polling.Step .guarding fun _ => .still)
      ⟨blankStream streamMaxEvents 0 [] [], 0, .loopHead⟩ actions
      ⟨blankStream streamMaxEvents (min n usizeMax) [] [], 0, .loopHead⟩ ∧
    (actions.filterMap PollAction.admittedFrame).length = n := by
  induction n with
  | zero => exact ⟨[], .nil _, rfl⟩
  | succ n ih =>
    have hseen : min (min n usizeMax + 1) usizeMax = min (n + 1) usizeMax := by omega
    obtain ⟨actions, hrun, hcount⟩ := ih (by omega)
    have hroom : min (min n usizeMax + 1) usizeMax ≤ streamMaxEvents := by omega
    have hnext := blankFrame_run hroom
    rw [hseen] at hnext
    refine ⟨actions ++ blankFrameActions, hrun.append hnext, ?_⟩
    rw [List.filterMap_append, List.length_append, hcount]
    rfl

end BlankFrames

/-- Two empty frames, which are as many as are allowed. -/
theorem stream_guards_blankFrames : ∃ actions p,
    Guarded .guarding (fun _ => .still) (blankLimits 2) actions p ∧
      (actions.filterMap PollAction.admittedFrame).length = (blankLimits 2).streamMaxEvents := by
  obtain ⟨actions, hrun, hcount⟩ := blankFrames_run (show min 2 usizeMax ≤ 2 by decide)
  exact ⟨actions, _, stream_guards hrun, hcount⟩

/-- A count that is allowed to be as large as it can be never is too large: there are runs with any
number of frames. -/
theorem events_unlimited : ∃ actions p,
    Run (Polling.Step .guarding fun _ => .still)
      ⟨.fresh .openAiChatCompletions (blankLimits usizeMax) {}, 0, .loopHead⟩ actions p ∧
    (blankLimits usizeMax).streamMaxEvents <
      (actions.filterMap PollAction.admittedFrame).length := by
  obtain ⟨actions, hrun, hcount⟩ := blankFrames_run (Nat.min_le_right (usizeMax + 1) usizeMax)
  exact ⟨actions, _, hrun, hcount ▸ Nat.lt_succ_self _⟩

end LlmUniversalProxy.Streaming
