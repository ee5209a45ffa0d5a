import LlmUniversalProxy.Streaming.ChunkReader

/-!
# `Streaming.Chunking` — how the upstream is cut into chunks makes no difference

A stream reads frames off chunks (`Streaming.ChunkReader`): the scanner for blank lines does not
change its mind, and neither of the two streams looks at its buffer when it handles a frame. What a
stream yields between two chunks makes no difference either, as long as no state grows too large:
that rejection throws away what is still queued, and how much that is depends on the chunks.

The two streams share their loop and little else, so the argument is made once, for a stream with a
way to handle a frame that does not look at the buffer, and used for both.
-/

set_option autoImplicit false

namespace LlmUniversalProxy.Streaming

open Json Lib

/-! ## The queue -/

/-- The stream with more frames in front of its queue. -/
def SseStream.behind (queue : List SseFrame) (st : SseStream) : SseStream :=
  { st with outputQueue := queue ++ st.outputQueue }

section Queue

variable (queue : List SseFrame)

theorem extend_behind (st : SseStream) (output : List SseFrame × StreamState) :
    (st.behind queue).extend output = (st.extend output).behind queue := by
  simp [SseStream.extend, SseStream.behind]

theorem rejectLimit_behind (env : Env) (limit : StreamResourceLimit) (st : SseStream) :
    (st.behind queue).rejectStreamResourceLimit env limit =
      (st.rejectStreamResourceLimit env limit).behind queue := by
  simp [SseStream.rejectStreamResourceLimit, SseStream.extend, SseStream.behind]

theorem rejectFrame_behind (env : Env) (message : String) (st : SseStream) :
    (st.behind queue).rejectFrame env message = (st.rejectFrame env message).behind queue := by
  simp [SseStream.rejectFrame, SseStream.extend, SseStream.behind]

theorem register_behind (env : Env) (st : SseStream) :
    (st.behind queue).registerSseEventOrReject env =
      (st.registerSseEventOrReject env).behind queue := by
  by_cases hover :
      st.registerSseEvent.eventsSeen > st.registerSseEvent.resourceLimits.streamMaxEvents
  · have hst : st.registerSseEventOrReject env =
      st.registerSseEvent.rejectStreamResourceLimit env .maxEvents := if_pos hover
    rw [hst, ← rejectLimit_behind]
    exact if_pos hover
  · have hst : st.registerSseEventOrReject env = st.registerSseEvent := if_neg hover
    rw [hst]
    exact if_neg hover

theorem closeIfFatal_behind (st : SseStream) :
    closeIfFatal (st.behind queue) = ((closeIfFatal st).1.behind queue, (closeIfFatal st).2) := by
  by_cases hfatal : st.state.fatalRejection.isSome = true
  · have hst : closeIfFatal st =
      ({ st with captureDisqualified := true, closeAfterOutput := true }, false) := if_pos hfatal
    rw [hst]
    exact if_pos hfatal
  · have hst : closeIfFatal st = (st, true) := if_neg hfatal
    rw [hst]
    exact if_neg hfatal

@[simp] theorem behind_closed (st : SseStream) :
    (st.behind queue).closeAfterOutput = st.closeAfterOutput := rfl

@[simp] theorem behind_clientFormat (st : SseStream) :
    (st.behind queue).clientFormat = st.clientFormat := rfl

@[simp] theorem behind_state (st : SseStream) : (st.behind queue).state = st.state := rfl

/-- What a stream does with a frame does not depend on what is queued already. -/
theorem handle_behind (kind : StreamKind) (env : Env) (frame : List UInt8) (event : Option Value)
    (st : SseStream) :
    kind.handle env frame event (st.behind queue) =
      ((kind.handle env frame event st).1.behind queue, (kind.handle env frame event st).2) := by
  cases kind with
  | translating upstreamFormat =>
    simp only [StreamKind.handle, translateFrame, register_behind]
    generalize st.registerSseEventOrReject env = next
    cases hclosed : next.closeAfterOutput with
    | true => simp [hclosed]
    | false =>
      cases hname : (sseFrameEventType frame).any containsInternalArtifactText with
      | true =>
        simp only [behind_closed, hclosed, Bool.false_eq_true, if_false, if_true,
          ← rejectFrame_behind]
        rfl
      | false =>
        simp only [behind_closed, hclosed, Bool.false_eq_true, if_false]
        cases event with
        | none =>
          simp only
          cases hleaks : sseFrameContainsInternalArtifact frame with
          | true =>
            simp only [if_true, ← rejectFrame_behind]
            split <;> rfl
          | false =>
            simp only [Bool.false_eq_true, if_false]
            split <;> rfl
        | some event =>
          simp only [behind_clientFormat, behind_state, extend_behind, closeIfFatal_behind]
  | guarding =>
    simp only [StreamKind.handle, guardFrame, register_behind]
    generalize st.registerSseEventOrReject env = next
    cases hclosed : next.closeAfterOutput with
    | true => simp [hclosed]
    | false =>
      cases hname : (sseFrameEventType frame).any containsInternalArtifactText with
      | true =>
        simp only [behind_closed, hclosed, Bool.false_eq_true, if_false, if_true,
          ← rejectFrame_behind]
      | false =>
        simp only [behind_closed, hclosed, Bool.false_eq_true, if_false, behind_state,
          behind_clientFormat, extend_behind, rejectFrame_behind]
        cases event with
        | none =>
          simp only
          split <;> rfl
        | some event =>
          simp only
          generalize validatePublicStreamResponseEventToolNames next.clientFormat _ = names
          split
          · rfl
          · generalize (if isDone (sanitizePublicStreamErrorEvent event) = true then _
              else _ : Except String Unit) = names
            cases names <;> rfl

end Queue

/-! ## A byte and the queue -/

section Byte

variable (kind : StreamKind) (surroundings : Nat → Env) (limit : Nat)

/-- The accumulated-state limit does not reject what the handler made of a frame. -/
def StateFits (frame : List UInt8) (st : SseStream) : Prop :=
  let env := surroundings st.eventsSeen
  let handled := kind.handle env frame (parseSseEventJson env.serde frame) st
  handled.2 = true →
    handled.1.state.accumulatedBytes ≤ handled.1.resourceLimits.maxAccumulatedStreamStateBytes

instance (frame : List UInt8) (st : SseStream) :
    Decidable (StateFits kind surroundings frame st) :=
  inferInstanceAs (Decidable (_ → _))

/-- The accumulated-state limit does not fire while a reader takes the bytes one by one. -/
def AllFit : List UInt8 → List UInt8 × SseStream → Prop
  | [], _ => True
  | b :: bytes, p =>
      (p.2.closeAfterOutput = false → ∀ n ∈ sseFrameEnd (p.1 ++ [b]),
        StateFits kind surroundings ((p.1 ++ [b]).take n) p.2) ∧
      AllFit bytes ((sseReader kind surroundings limit).feed p b)

instance decidableAllFit : ∀ (bytes : List UInt8) (p : List UInt8 × SseStream),
    Decidable (AllFit kind surroundings limit bytes p)
  | [], _ => .isTrue trivial
  | b :: bytes, p =>
      have := decidableAllFit bytes ((sseReader kind surroundings limit).feed p b)
      inferInstanceAs (Decidable ((_ → _) ∧ _))

variable {kind surroundings limit} {queue : List SseFrame} {p : List UInt8 × SseStream}

theorem AllFit.of_append {bytes more : List UInt8} :
    ∀ {p : List UInt8 × SseStream}, AllFit kind surroundings limit (bytes ++ more) p →
      AllFit kind surroundings limit more
        (bytes.foldl (sseReader kind surroundings limit).feed p) := by
  induction bytes with
  | nil => exact fun h => h
  | cons b bytes ih => exact fun h => ih h.2

theorem AllFit.left {bytes more : List UInt8} :
    ∀ {p : List UInt8 × SseStream}, AllFit kind surroundings limit (bytes ++ more) p →
      AllFit kind surroundings limit bytes p := by
  induction bytes with
  | nil => exact fun _ => trivial
  | cons b bytes ih => exact fun h => ⟨h.1, ih h.2⟩

theorem stateFits_behind {frame : List UInt8} {st : SseStream} :
    StateFits kind surroundings frame (st.behind queue) ↔
      StateFits kind surroundings frame st := by
  simp only [StateFits, handle_behind]
  exact Iff.rfl

theorem handleCore_behind {frame : List UInt8} {st : SseStream}
    (hfits : StateFits kind surroundings frame st) :
    handleCore kind surroundings frame (st.behind queue) =
      (handleCore kind surroundings frame st).behind queue := by
  have hfits' : StateFits kind surroundings frame (st.behind queue) := stateFits_behind.mpr hfits
  simp only [StateFits] at hfits hfits'
  have hseen : (st.behind queue).eventsSeen = st.eventsSeen := rfl
  simp only [handleCore, handleFrame, handle_behind, hseen] at hfits hfits' ⊢
  split
  · next hchecked =>
    have hst : ∀ {st' : SseStream}, st'.state.accumulatedBytes ≤
        st'.resourceLimits.maxAccumulatedStreamStateBytes → st'.rejectIfStateTooLarge
          (surroundings st.eventsSeen) = st' := fun hle => if_neg (Nat.not_lt.mpr hle)
    rw [hst (hfits hchecked), hst (hfits' hchecked)]
    rfl
  · rfl

/-- The reader with more frames in front of its owner's queue. -/
def readerBehind (queue : List SseFrame) (p : List UInt8 × SseStream) : List UInt8 × SseStream :=
  (p.1, p.2.behind queue)

theorem gather_behind {b : UInt8}
    (hfits : p.2.closeAfterOutput = false → ∀ n, sseFrameEnd (p.1 ++ [b]) = some n →
      StateFits kind surroundings ((p.1 ++ [b]).take n) p.2) :
    (sseReader kind surroundings limit).gather (readerBehind queue p) b =
      readerBehind queue ((sseReader kind surroundings limit).gather p b) := by
  cases hclosed : p.2.closeAfterOutput with
  | true =>
    rw [Framing.Reader.gather_closed (R := sseReader kind surroundings limit) hclosed]
    exact Framing.Reader.gather_closed (R := sseReader kind surroundings limit) hclosed
  | false =>
    cases hend : sseFrameEnd (p.1 ++ [b]) with
    | none =>
      rw [Framing.Reader.gather_none (R := sseReader kind surroundings limit) hclosed hend]
      exact Framing.Reader.gather_none (R := sseReader kind surroundings limit) hclosed hend
    | some n =>
      rw [Framing.Reader.gather_some (R := sseReader kind surroundings limit) hclosed hend]
      have hbehind := Framing.Reader.gather_some (R := sseReader kind surroundings limit)
        (p := readerBehind queue p) hclosed hend
      rw [hbehind]
      exact Prod.ext rfl (handleCore_behind (hfits hclosed n hend))

theorem check_behind :
    (sseReader kind surroundings limit).check (readerBehind queue p) =
      readerBehind queue ((sseReader kind surroundings limit).check p) := by
  by_cases hfull : (!(sseReader kind surroundings limit).closed p.2 &&
      p.1.length = (sseReader kind surroundings limit).limit) = true
  · have hp : (sseReader kind surroundings limit).check p =
      (p.1, (sseReader kind surroundings limit).oversized p.2) := if_pos hfull
    rw [hp]
    refine (if_pos hfull).trans (Prod.ext rfl ?_)
    exact congrArg SseStream.core (rejectLimit_behind queue _ _ p.2)
  · have hp : (sseReader kind surroundings limit).check p = p := if_neg hfull
    rw [hp]
    exact if_neg hfull

/-- **Bytes do to a stream what they do to one with nothing queued**, and leave what was queued in
front. -/
theorem foldl_feed_behind (bytes : List UInt8) : ∀ {p : List UInt8 × SseStream},
    AllFit kind surroundings limit bytes (readerBehind queue p) →
    bytes.foldl (sseReader kind surroundings limit).feed (readerBehind queue p) =
      readerBehind queue (bytes.foldl (sseReader kind surroundings limit).feed p) := by
  induction bytes with
  | nil => exact fun _ => rfl
  | cons b bytes ih =>
    intro p hfit
    have hgather : (sseReader kind surroundings limit).gather (readerBehind queue p) b =
        readerBehind queue ((sseReader kind surroundings limit).gather p b) :=
      gather_behind fun hopen n hend => stateFits_behind.mp (hfit.1 hopen n hend)
    have hfeed : (sseReader kind surroundings limit).feed (readerBehind queue p) b =
        readerBehind queue ((sseReader kind surroundings limit).feed p b) := by
      rw [Framing.Reader.feed, hgather, check_behind]
      rfl
    have hrest := hfit.2
    rw [hfeed] at hrest
    rw [List.foldl_cons, List.foldl_cons, hfeed, ih hrest]

/-! ## Runs over chunks -/

/-- The bytes of the chunks among the labels of a run. -/
def chunkBytes (labels : List (Upstream ⊕ SseFrame)) : List UInt8 :=
  labels.flatMap fun
    | .inl (.chunk bytes) => bytes
    | _ => []

/-- A stream has read a byte string, in chunks that are cut somehow, and everything queued has
been yielded. A stream that is closed does not ask for the rest. -/
structure HasRead (kind : StreamKind) (surroundings : Nat → Env) (st : SseStream)
    (bytes : List UInt8) (labels : List (Upstream ⊕ SseFrame)) (st' : SseStream) : Prop where
  run : Run (SseStream.Step kind surroundings) st labels st'
  chunks : ∀ upstream, .inl upstream ∈ labels → ∃ chunk, upstream = .chunk chunk
  yielded : st'.outputQueue = []
  polled : ∃ rest, chunkBytes labels ++ rest = bytes ∧
    (st'.closeAfterOutput = false → rest = [])

variable {st st' : SseStream}

/-- **A run over chunks is the reader's run over their bytes**: the owner's queue is what has been
yielded and what is queued still. -/
theorem run_reads {labels : List (Upstream ⊕ SseFrame)} {bytes : List UInt8}
    (hbuffer : st.buffer = []) (hlimit : st.resourceLimits.maxSseFrameBytes = limit)
    (hpos : 0 < limit)
    (hfit : AllFit kind surroundings limit bytes ([], st.core))
    (hrun : Run (SseStream.Step kind surroundings) st labels st') :
    (∀ upstream, .inl upstream ∈ labels → ∃ chunk, upstream = .chunk chunk) →
    chunkBytes labels <+: bytes →
    st'.resourceLimits.maxSseFrameBytes = limit ∧
      Reads (st'.behind (yieldedFrames labels))
        ((chunkBytes labels).foldl (sseReader kind surroundings limit).feed ([], st.core)) := by
  refine hrun.invariant_history (I := fun labels t =>
    (∀ upstream, .inl upstream ∈ labels → ∃ chunk, upstream = .chunk chunk) →
    chunkBytes labels <+: bytes → t.resourceLimits.maxSseFrameBytes = limit ∧
      Reads (t.behind (yieldedFrames labels))
        ((chunkBytes labels).foldl (sseReader kind surroundings limit).feed ([], st.core))) ?_ ?_
  · exact fun _ _ => ⟨hlimit, rfl, fun _ => hbuffer⟩
  · intro labels t u label ih hstep hchunks hbytes
    have hchunks' : ∀ upstream, .inl upstream ∈ labels → ∃ chunk, upstream = .chunk chunk :=
      fun upstream hmem => hchunks upstream (List.mem_append_left _ hmem)
    have hsplit : chunkBytes (labels ++ [label]) = chunkBytes labels ++ chunkBytes [label] :=
      List.flatMap_append
    obtain ⟨ht, hreads⟩ := ih hchunks' ((List.prefix_append _ _).trans (hsplit ▸ hbytes))
    cases hstep with
    | @yielded frame rest hqueue =>
      have hnone : chunkBytes [.inr frame] = [] := rfl
      have hsame : ({ t with outputQueue := rest } : SseStream).behind
          (yieldedFrames (labels ++ [.inr frame])) = t.behind (yieldedFrames labels) := by
        simp [SseStream.behind, yieldedFrames, hqueue]
      rw [hsplit, hnone, List.append_nil, hsame]
      exact ⟨ht, hreads⟩
    | polled upstream hqueue hopen =>
      obtain ⟨chunk, rfl⟩ := hchunks upstream (List.mem_append_right _ (List.mem_singleton_self _))
      have hchunk : chunkBytes [.inl (.chunk chunk)] = chunk := List.append_nil chunk
      have hnone : yieldedFrames (labels ++ [.inl (.chunk chunk)]) = yieldedFrames labels := by
        simp [yieldedFrames, List.filterMap_cons]
      rw [hchunk] at hsplit
      rw [hsplit, hnone, List.foldl_append]
      -- the reader has come to where the stream is
      have hreader : (chunkBytes labels).foldl (sseReader kind surroundings limit).feed
          ([], st.core) = readerBehind (yieldedFrames labels) (t.buffer, t.core) :=
        Prod.ext (hreads.buffer hopen).symm hreads.core.symm
      have hwaiting : (sseReader kind surroundings limit).Waiting (t.buffer, t.core) := by
        have hstart : (sseReader kind surroundings limit).Waiting ([], st.core) :=
          fun _ => ⟨rfl, hpos⟩
        have hthere := hstart.foldl_feed (chunkBytes labels)
        rw [hreader] at hthere
        exact hthere
      obtain ⟨hpush, hlimits⟩ := pushLoop_reads kind surroundings limit (chunk.length + 1) chunk t
        (t.buffer, t.core) (Reads.refl t) ht
      have hfeed := hpush.agree (Framing.Reader.push_feed _ hwaiting (Nat.lt_succ_self _))
      refine ⟨(congrArg _ hlimits).trans ht, ?_⟩
      have hfits : AllFit kind surroundings limit chunk
          (readerBehind (yieldedFrames labels) (t.buffer, t.core)) := by
        obtain ⟨rest, rfl⟩ := hbytes
        rw [hsplit] at hfit
        exact hreader ▸ hfit.left.of_append
      rw [hreader, foldl_feed_behind chunk hfits]
      exact ⟨congrArg (SseStream.behind (yieldedFrames labels)) hfeed.core, hfeed.buffer⟩

/-- What a stream has become once it has read all there is. -/
theorem HasRead.reads {labels : List (Upstream ⊕ SseFrame)} {bytes : List UInt8}
    (hbuffer : st.buffer = []) (hpos : 0 < st.resourceLimits.maxSseFrameBytes)
    (hfit : AllFit kind surroundings st.resourceLimits.maxSseFrameBytes bytes ([], st.core))
    (hread : HasRead kind surroundings st bytes labels st') :
    Reads (st'.behind (yieldedFrames labels))
      (bytes.foldl (sseReader kind surroundings st.resourceLimits.maxSseFrameBytes).feed
        ([], st.core)) := by
  obtain ⟨rest, hrest, hclosed⟩ := hread.polled
  have hreads := (run_reads hbuffer rfl hpos hfit hread.run hread.chunks ⟨rest, hrest⟩).2
  rw [← hrest, List.foldl_append]
  cases hst : st'.closeAfterOutput with
  | false =>
    rw [hclosed hst]
    exact hreads
  | true =>
    rw [Framing.Reader.foldl_feed_closed
      (R := sseReader kind surroundings st.resourceLimits.maxSseFrameBytes) rest]
    · exact hreads
    · exact (congrArg SseStream.closeAfterOutput hreads.core.symm).trans hst

end Byte

theorem run_yields {kind : StreamKind} {surroundings : Nat → Env} (queue : List SseFrame) :
    ∀ {st : SseStream}, st.outputQueue = queue → Run (SseStream.Step kind surroundings) st
      (queue.map .inr) { st with outputQueue := [] } := by
  induction queue with
  | nil =>
    rintro ⟨⟩ rfl
    exact .nil _
  | cons frame rest ih => exact fun h => .cons (.yielded h) (ih rfl)

/-- **How the upstream is cut into chunks makes no difference** to what a stream yields and to what
it is afterwards, but for the buffer that a closed stream may still hold. -/
theorem chunking_makes_no_difference {kind : StreamKind} {surroundings : Nat → Env}
    {st st₁ st₂ : SseStream} {bytes : List UInt8} {labels₁ labels₂ : List (Upstream ⊕ SseFrame)}
    (hbuffer : st.buffer = []) (hpos : 0 < st.resourceLimits.maxSseFrameBytes)
    (hfit : AllFit kind surroundings st.resourceLimits.maxSseFrameBytes bytes ([], st.core))
    (hread₁ : HasRead kind surroundings st bytes labels₁ st₁)
    (hread₂ : HasRead kind surroundings st bytes labels₂ st₂) :
    yieldedFrames labels₁ = yieldedFrames labels₂ ∧
      st₁.closeAfterOutput = st₂.closeAfterOutput ∧
      (st₁.closeAfterOutput = false → st₁.buffer = st₂.buffer) := by
  have h₁ := hread₁.reads hbuffer hpos hfit
  have h₂ := hread₂.reads hbuffer hpos hfit
  have hcore := h₁.core.trans h₂.core.symm
  have hqueue := congrArg SseStream.outputQueue hcore
  have hclosed := congrArg SseStream.closeAfterOutput hcore
  simp only [SseStream.core, behind_closed] at hclosed
  refine ⟨?_, hclosed, fun hopen => ?_⟩
  · simpa [SseStream.core, SseStream.behind, hread₁.yielded, hread₂.yielded] using hqueue
  · exact (h₁.buffer hopen).trans (h₂.buffer (hclosed ▸ hopen)).symm

/-- A guarding stream that nothing has been read by. -/
def SseStream.guardStart : SseStream :=
  { clientFormat := .openAiChatCompletions, resourceLimits := ⟨100, 5, 1000⟩ }

def commentFrame : List UInt8 := bytesOf ": ok\n\n"

def pingFrame : List UInt8 := bytesOf "event: ping\n\n"

/-- The two frames, read at once, and read in two pieces of which the first ends between the two
line feeds that end the comment. -/
theorem chunking_cut_boundary :
    yieldedFrames [.inl (.chunk (commentFrame ++ pingFrame)), .inr (.raw commentFrame),
        .inr (.raw pingFrame)] =
      yieldedFrames [.inl (.chunk (bytesOf ": ok\n")), .inl (.chunk (lf :: pingFrame)),
        .inr (.raw commentFrame), .inr (.raw pingFrame)] := by
  have hwhole : HasRead .guarding (fun _ => .still) .guardStart (commentFrame ++ pingFrame)
      [.inl (.chunk (commentFrame ++ pingFrame)), .inr (.raw commentFrame), .inr (.raw pingFrame)]
      { SseStream.guardStart with eventsSeen := 2 } := {
    run := .cons (.polled _ rfl rfl)
      (run_yields [.raw commentFrame, .raw pingFrame] (by decide +kernel))
    chunks := by simp
    yielded := rfl
    polled := ⟨[], rfl, fun _ => rfl⟩ }
  have hcut : HasRead .guarding (fun _ => .still) .guardStart (commentFrame ++ pingFrame)
      [.inl (.chunk (bytesOf ": ok\n")), .inl (.chunk (lf :: pingFrame)), .inr (.raw commentFrame),
        .inr (.raw pingFrame)]
      { SseStream.guardStart with eventsSeen := 2 } := {
    run := .cons (.polled _ rfl rfl) (.cons (.polled _ (by decide +kernel) (by decide +kernel))
      (run_yields [.raw commentFrame, .raw pingFrame] (by decide +kernel)))
    chunks := by simp
    yielded := rfl
    polled := ⟨[], rfl, fun _ => rfl⟩ }
  exact (chunking_makes_no_difference rfl (by decide) (by decide +kernel) hwhole hcut).1

/-- A frame that must not be seen, and one byte behind it. -/
def rejectedAndMore : List UInt8 := bytesOf "event: __llmup_custom__\n\n" ++ [lf]

/-- The byte behind a frame that must not be seen stays in the buffer when it came in the same
chunk; the closed stream does not ask for it when it comes by itself. -/
theorem chunking_leaves_buffers :
    ∃ (labels₁ labels₂ : List (Upstream ⊕ SseFrame)) (st₁ st₂ : SseStream),
      HasRead .guarding (fun _ => .still) .guardStart rejectedAndMore labels₁ st₁ ∧
      HasRead .guarding (fun _ => .still) .guardStart rejectedAndMore labels₂ st₂ ∧
      AllFit .guarding (fun _ => .still) 100 rejectedAndMore ([], SseStream.guardStart.core) ∧
      st₁.buffer ≠ st₂.buffer := by
  let whole := SseStream.guardStart.poll .guarding (fun _ => .still) (.chunk rejectedAndMore)
  let cut := SseStream.guardStart.poll .guarding (fun _ => .still)
    (.chunk (rejectedAndMore.take 25))
  refine ⟨.inl (.chunk rejectedAndMore) :: whole.outputQueue.map .inr,
    .inl (.chunk (rejectedAndMore.take 25)) :: cut.outputQueue.map .inr,
    { whole with outputQueue := [] }, { cut with outputQueue := [] }, ?_, ?_, ?_, ?_⟩
  · refine ⟨.cons (.polled _ rfl rfl) (run_yields _ rfl), by simp, rfl, ⟨[], ?_, fun _ => rfl⟩⟩
    simp [chunkBytes, List.flatMap_map]
  · refine ⟨.cons (.polled _ rfl rfl) (run_yields _ rfl), by simp, rfl,
      ⟨rejectedAndMore.drop 25, ?_, fun hopen => ?_⟩⟩
    · simp [chunkBytes, List.flatMap_eq_nil_iff.mpr]
    · have hclosed : cut.closeAfterOutput = true := by decide +kernel
      rw [hclosed] at hopen
      cases hopen
  · decide +kernel
  · decide +kernel

end LlmUniversalProxy.Streaming
