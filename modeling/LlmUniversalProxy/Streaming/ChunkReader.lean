import LlmUniversalProxy.Lib.Framing
import LlmUniversalProxy.Lib.Run
import LlmUniversalProxy.Streaming.Stream

/-!
# `Streaming.ChunkReader` — the reader of frames, and the bytes that come to it

`sse_frame_end` looks for a blank line (`wire.rs` 42-59), `take_one_sse_frame` cuts the frame off
the buffer, and `push_chunk_with_frame_limit` fills the buffer only as far as a frame may go
(`stream.rs` 1170-1194). None of them is about one chunk: a blank line that has been found stays
where it is when more bytes come behind it, and a byte that completes none finds none later. That is
what `Lib.Framing` asks of a reader, and these are the lemmas that it is instantiated with.
-/

set_option autoImplicit false

namespace LlmUniversalProxy.Streaming

open Json Lib

/-! ## The scanner -/

theorem sseFrameEnd_cons (b : UInt8) (rest : List UInt8) :
    sseFrameEnd (b :: rest) =
      if [lf, lf] <+: b :: rest then some 2
      else if [cr, lf, cr, lf] <+: b :: rest then some 4
      else (sseFrameEnd rest).map (· + 1) := by
  simp only [sseFrameEnd, List.isPrefixOf_iff_prefix]

theorem sseFrameEnd_le {xs : List UInt8} : ∀ {n : Nat}, sseFrameEnd xs = some n →
    2 ≤ n ∧ n ≤ xs.length := by
  induction xs with
  | nil => exact fun h => by cases h
  | cons b rest ih =>
    intro n h
    rw [sseFrameEnd_cons] at h
    split at h
    · next hlf =>
      cases h
      exact ⟨by omega, hlf.length_le⟩
    · split at h
      · next hcr =>
        cases h
        exact ⟨by omega, hcr.length_le⟩
      · obtain ⟨m, hm, rfl⟩ := Option.map_eq_some_iff.mp h
        have hrest := ih hm
        simp only [List.length_cons]
        omega

/-- The first blank line begins where it did when more comes behind it: a longer one that begins
earlier would go through it. -/
theorem not_crlf_of_frame {b : UInt8} {rest ys : List UInt8} {m : Nat}
    (hm : sseFrameEnd rest = some m) (hcr : ¬[cr, lf, cr, lf] <+: b :: rest) :
    ¬[cr, lf, cr, lf] <+: b :: rest ++ ys := by
  intro hlong
  by_cases hlen : 3 ≤ rest.length
  · exact hcr (List.prefix_of_prefix_length_le hlong (List.prefix_append _ _) (by simpa using hlen))
  · rcases rest with _ | ⟨c, _ | ⟨d, _ | ⟨e, rest⟩⟩⟩
    · cases hm
    · simp [sseFrameEnd, List.isPrefixOf] at hm
    · simp only [List.cons_append, List.nil_append, List.cons_prefix_cons] at hlong
      obtain ⟨-, rfl, rfl, -⟩ := hlong
      revert hm
      simp [sseFrameEnd, List.isPrefixOf, lf, cr]
    · simp only [List.length_cons] at hlen
      omega

theorem sseFrameEnd_append {xs : List UInt8} (ys : List UInt8) : ∀ {n : Nat},
    sseFrameEnd xs = some n → sseFrameEnd (xs ++ ys) = some n := by
  induction xs with
  | nil => exact fun h => by cases h
  | cons b rest ih =>
    intro n h
    rw [List.cons_append, sseFrameEnd_cons, ← List.cons_append]
    rw [sseFrameEnd_cons] at h
    split at h
    · next hlf =>
      rw [if_pos (hlf.trans (List.prefix_append _ _))]
      exact h
    · next hlf =>
      have hlf' : 1 ≤ rest.length → ¬[lf, lf] <+: b :: rest ++ ys := fun hlen hlong =>
        hlf (List.prefix_of_prefix_length_le hlong (List.prefix_append _ _) (by simpa using hlen))
      split at h
      · next hcr =>
        have hlen := hcr.length_le
        simp only [List.length_cons, List.length_nil] at hlen
        rw [if_neg (hlf' (by omega)), if_pos (hcr.trans (List.prefix_append _ _))]
        exact h
      · next hcr =>
        obtain ⟨m, hm, rfl⟩ := Option.map_eq_some_iff.mp h
        have hrest := sseFrameEnd_le hm
        rw [if_neg (hlf' (by omega)), if_neg (not_crlf_of_frame hm hcr), ih hm]
        rfl

theorem sseFrameEnd_take {xs : List UInt8} : ∀ {n : Nat},
    sseFrameEnd xs = some n → sseFrameEnd (xs.take n) = some n := by
  induction xs with
  | nil => exact fun h => by cases h
  | cons b rest ih =>
    intro n h
    obtain ⟨hn, hle⟩ := sseFrameEnd_le h
    obtain ⟨m, rfl⟩ : ∃ m, n = m + 1 := ⟨n - 1, by omega⟩
    have hshorter : b :: rest.take m <+: b :: rest := List.take_prefix (m + 1) (b :: rest)
    rw [List.take_succ_cons, sseFrameEnd_cons]
    rw [sseFrameEnd_cons] at h
    split at h
    · next hlf =>
      cases h
      rw [if_pos (List.prefix_of_prefix_length_le hlf hshorter (by
        simp only [List.length_cons, List.length_nil, List.length_take] at hle ⊢
        omega))]
    · next hlf =>
      rw [if_neg fun hlf' => hlf (hlf'.trans hshorter)]
      split at h
      · next hcr =>
        cases h
        rw [if_pos (List.prefix_of_prefix_length_le hcr hshorter (by
        simp only [List.length_cons, List.length_nil, List.length_take] at hle ⊢
        omega))]
      · next hcr =>
        obtain ⟨k, hk, hkm⟩ := Option.map_eq_some_iff.mp h
        obtain rfl : k = m := by omega
        rw [if_neg fun hcr' => hcr (hcr'.trans hshorter), ih hk]
        rfl

def sseScanner : Framing.Scanner UInt8 where
  frameEnd := sseFrameEnd
  pos := fun h => Nat.lt_of_lt_of_le (by decide) (sseFrameEnd_le h).1
  le := fun h => (sseFrameEnd_le h).2
  append := fun ys h => sseFrameEnd_append ys h
  take := sseFrameEnd_take

/-! ## The buffer -/

def SseStream.core (st : SseStream) : SseStream := { st with buffer := [] }

def SameCore (st st' : SseStream) : Prop := ∃ buffer, st' = { st with buffer := buffer }

theorem SameCore.core {st st' : SseStream} (h : SameCore st st') : st'.core = st.core := by
  obtain ⟨_, rfl⟩ := h
  rfl

theorem sameCore_core (st : SseStream) : SameCore st st.core := ⟨[], rfl⟩

theorem sameCore_register (env : Env) {st st' : SseStream} (h : SameCore st st') :
    SameCore (st.registerSseEventOrReject env) (st'.registerSseEventOrReject env) := by
  obtain ⟨buffer, rfl⟩ := h
  by_cases hover :
      st.registerSseEvent.eventsSeen > st.registerSseEvent.resourceLimits.streamMaxEvents
  · have hst : st.registerSseEventOrReject env =
      st.registerSseEvent.rejectStreamResourceLimit env .maxEvents := if_pos hover
    rw [hst]
    exact ⟨[], if_pos hover⟩
  · have hst : st.registerSseEventOrReject env = st.registerSseEvent := if_neg hover
    rw [hst]
    exact ⟨buffer, if_neg hover⟩

theorem sameCore_check (env : Env) {st st' : SseStream} (h : SameCore st st') :
    SameCore (st.rejectIfStateTooLarge env) (st'.rejectIfStateTooLarge env) := by
  obtain ⟨buffer, rfl⟩ := h
  by_cases hlarge : st.state.accumulatedBytes > st.resourceLimits.maxAccumulatedStreamStateBytes
  · have hst : st.rejectIfStateTooLarge env =
      { st with outputQueue := [] }.rejectStreamResourceLimit env .stateTooLarge := if_pos hlarge
    rw [hst]
    exact ⟨[], if_pos hlarge⟩
  · have hst : st.rejectIfStateTooLarge env = st := if_neg hlarge
    rw [hst]
    exact ⟨buffer, if_neg hlarge⟩

theorem sameCore_closeIfFatal {st st' : SseStream} (h : SameCore st st') :
    SameCore (closeIfFatal st).1 (closeIfFatal st').1 ∧
      (closeIfFatal st').2 = (closeIfFatal st).2 := by
  obtain ⟨buffer, rfl⟩ := h
  unfold closeIfFatal
  split <;> exact ⟨⟨buffer, rfl⟩, rfl⟩

theorem sameCore_handle (kind : StreamKind) (env : Env) (frame : List UInt8)
    (event : Option Value) {st st' : SseStream} (h : SameCore st st') :
    SameCore (kind.handle env frame event st).1 (kind.handle env frame event st').1 ∧
      (kind.handle env frame event st').2 = (kind.handle env frame event st).2 := by
  cases kind with
  | translating upstreamFormat =>
    simp only [StreamKind.handle, translateFrame]
    obtain ⟨buffer, hnext⟩ := sameCore_register env h
    generalize st.registerSseEventOrReject env = next at hnext ⊢
    generalize st'.registerSseEventOrReject env = next' at hnext ⊢
    subst hnext
    split
    · exact ⟨⟨buffer, rfl⟩, rfl⟩
    · split
      · exact ⟨⟨buffer, rfl⟩, rfl⟩
      · cases event with
        | none =>
          simp only
          split <;> split <;> exact ⟨⟨buffer, rfl⟩, rfl⟩
        | some event =>
          exact sameCore_closeIfFatal ⟨buffer, rfl⟩
  | guarding =>
    simp only [StreamKind.handle, guardFrame]
    obtain ⟨buffer, hnext⟩ := sameCore_register env h
    generalize st.registerSseEventOrReject env = next at hnext ⊢
    generalize st'.registerSseEventOrReject env = next' at hnext ⊢
    subst hnext
    split
    · exact ⟨⟨buffer, rfl⟩, rfl⟩
    · split
      · exact ⟨⟨buffer, rfl⟩, rfl⟩
      · cases event with
        | none =>
          simp only
          split <;> exact ⟨⟨buffer, rfl⟩, rfl⟩
        | some event =>
          simp only
          split
          · exact ⟨⟨buffer, rfl⟩, rfl⟩
          · split <;> exact ⟨⟨buffer, rfl⟩, rfl⟩

theorem sameCore_handleFrame (kind : StreamKind) (env : Env) (frame : List UInt8)
    (event : Option Value) {st st' : SseStream} (h : SameCore st st') :
    SameCore (handleFrame kind.handle env frame event st)
      (handleFrame kind.handle env frame event st') := by
  obtain ⟨hnext, hchecked⟩ := sameCore_handle kind env frame event h
  simp only [handleFrame, hchecked]
  split
  · exact sameCore_check env hnext
  · exact hnext

/-- A stream that stays open keeps its buffer, and every stream its limits. -/
structure KeepsBuffer (st st' : SseStream) : Prop where
  limits : st'.resourceLimits = st.resourceLimits
  buffer : st'.closeAfterOutput = false → st'.buffer = st.buffer

namespace KeepsBuffer

theorem same {st st' : SseStream} (hlimits : st'.resourceLimits = st.resourceLimits)
    (hbuffer : st'.buffer = st.buffer) : KeepsBuffer st st' := ⟨hlimits, fun _ => hbuffer⟩

theorem closed {st st' : SseStream} (hlimits : st'.resourceLimits = st.resourceLimits)
    (hclosed : st'.closeAfterOutput = true) : KeepsBuffer st st' :=
  ⟨hlimits, fun hopen => by rw [hclosed] at hopen; cases hopen⟩

theorem trans {st₁ st₂ st₃ : SseStream} (h : KeepsBuffer st₁ st₂) (h' : KeepsBuffer st₂ st₃)
    (hopen : st₃.closeAfterOutput = false → st₂.closeAfterOutput = false) :
    KeepsBuffer st₁ st₃ :=
  ⟨h'.limits.trans h.limits, fun hst => (h'.buffer hst).trans (h.buffer (hopen hst))⟩

theorem register (env : Env) (st : SseStream) :
    KeepsBuffer st (st.registerSseEventOrReject env) := by
  simp only [SseStream.registerSseEventOrReject]
  split
  · exact .closed rfl rfl
  · exact .same rfl rfl

theorem check (env : Env) (st : SseStream) : KeepsBuffer st (st.rejectIfStateTooLarge env) := by
  unfold SseStream.rejectIfStateTooLarge
  split
  · exact .closed rfl rfl
  · exact .same rfl rfl

theorem handle (kind : StreamKind) (env : Env) (frame : List UInt8) (event : Option Value)
    (st : SseStream) : KeepsBuffer st (kind.handle env frame event st).1 := by
  have hregister := register env st
  cases kind with
  | translating upstreamFormat =>
    simp only [StreamKind.handle, translateFrame]
    generalize st.registerSseEventOrReject env = next at hregister ⊢
    split
    · exact hregister
    · next hopen =>
      have hafter : ∀ {st' : SseStream}, KeepsBuffer next st' → KeepsBuffer st st' :=
        fun h => hregister.trans h fun _ => by simpa using hopen
      split
      · exact hafter (.closed rfl rfl)
      · cases event with
        | none =>
          simp only
          split <;> split <;> first | exact hafter (.closed rfl rfl) | exact hafter (.same rfl rfl)
        | some event =>
          simp only [closeIfFatal]
          split
          · exact hafter (.closed rfl rfl)
          · exact hafter (.same rfl rfl)
  | guarding =>
    simp only [StreamKind.handle, guardFrame]
    generalize st.registerSseEventOrReject env = next at hregister ⊢
    split
    · exact hregister
    · next hopen =>
      have hafter : ∀ {st' : SseStream}, KeepsBuffer next st' → KeepsBuffer st st' :=
        fun h => hregister.trans h fun _ => by simpa using hopen
      split
      · exact hafter (.closed rfl rfl)
      · cases event with
        | none =>
          simp only
          split
          · exact hafter (.closed rfl rfl)
          · exact hafter (.same rfl rfl)
        | some event =>
          simp only
          split
          · exact hafter (.same rfl rfl)
          · split
            · exact hafter (.closed rfl rfl)
            · exact hafter (.same rfl rfl)

theorem handleFrame (kind : StreamKind) (env : Env) (frame : List UInt8) (event : Option Value)
    (st : SseStream) : KeepsBuffer st (Streaming.handleFrame kind.handle env frame event st) := by
  have hhandle := handle kind env frame event st
  simp only [Streaming.handleFrame]
  split
  · refine hhandle.trans (check env _) fun hopen => ?_
    unfold SseStream.rejectIfStateTooLarge at hopen
    split at hopen
    · cases hopen
    · exact hopen
  · exact hhandle

end KeepsBuffer

/-! ## The reader inside a stream -/

/-- A frame of the buffer and the check behind it, by a stream that has no buffer itself. -/
def handleCore (kind : StreamKind) (surroundings : Nat → Env) (frame : List UInt8)
    (st : SseStream) : SseStream :=
  let env := surroundings st.eventsSeen
  (handleFrame kind.handle env frame (parseSseEventJson env.serde frame) st).core

/-- The reader that a stream is, with the stream's other fields for its owner. -/
def sseReader (kind : StreamKind) (surroundings : Nat → Env) (limit : Nat) :
    Framing.Reader UInt8 SseStream where
  scanner := sseScanner
  limit := limit
  handle := handleCore kind surroundings
  oversized := fun st => (rejectOversizedSseFrame surroundings st).core
  closed := SseStream.closeAfterOutput
  oversized_closed := fun _ => rfl

section Reader

variable (kind : StreamKind) (surroundings : Nat → Env) (limit : Nat)

/-- A stream, as its reader: the buffer and the rest; a closed stream's buffer does not count. -/
structure Reads (st : SseStream) (p : List UInt8 × SseStream) : Prop where
  core : st.core = p.2
  buffer : st.closeAfterOutput = false → st.buffer = p.1

theorem Reads.refl (st : SseStream) : Reads st (st.buffer, st.core) := ⟨rfl, fun _ => rfl⟩

theorem Reads.agree {kind : StreamKind} {surroundings : Nat → Env} {limit : Nat}
    {st : SseStream} {p q : List UInt8 × SseStream} (h : Reads st p)
    (hpq : (sseReader kind surroundings limit).Agree p q) : Reads st q :=
  ⟨h.core.trans hpq.1, fun hopen => (h.buffer hopen).trans (hpq.2 (by
    rw [← h.core]
    exact hopen))⟩

theorem dropSsePrefix_eq (buffer : List UInt8) (consumed : Nat) :
    dropSsePrefix buffer consumed = buffer.drop consumed := by
  unfold dropSsePrefix
  by_cases h : consumed ≤ buffer.length
  · rw [Nat.min_eq_left h]
  · rw [Nat.min_eq_right (by omega), List.drop_length, List.drop_eq_nil_of_le (by omega)]

theorem readOneSseFrame_eq (serde : Serde) (buffer : List UInt8) :
    readOneSseFrame serde buffer = (sseFrameEnd buffer).map fun n =>
      (buffer.take n, parseSseEventJson serde (buffer.take n), n) := rfl

/-- Handling a frame with a buffer and without one. -/
theorem handleFrame_core (frame : List UInt8) (st : SseStream) :
    (handleFrame kind.handle (surroundings st.eventsSeen) frame
      (parseSseEventJson (surroundings st.eventsSeen).serde frame) st).core =
      handleCore kind surroundings frame st.core :=
  (sameCore_handleFrame kind _ frame _ (sameCore_core st)).core.symm

/-- The loop over the frames is the reader's, but for the offset that it keeps instead of taking
off what it has read. -/
theorem drainLoop_reads (fuel : Nat) : ∀ (st : SseStream) (consumed : Nat),
    st.closeAfterOutput = false →
    let (st', consumed') := drainLoop kind.handle surroundings fuel st consumed
    let p := (sseReader kind surroundings limit).drain fuel (st.buffer.drop consumed, st.core)
    st'.core = p.2 ∧ st'.resourceLimits = st.resourceLimits ∧
      (st'.closeAfterOutput = false → st'.buffer.drop consumed' = p.1) := by
  induction fuel with
  | zero => exact fun st consumed _ => ⟨rfl, rfl, fun _ => rfl⟩
  | succ fuel ih =>
    intro st consumed hopen
    simp only [drainLoop, Framing.Reader.drain, dropSsePrefix_eq, readOneSseFrame_eq]
    show _ ∧ _ ∧ _
    cases hframe : sseFrameEnd (st.buffer.drop consumed) with
    | none =>
      have hscan : (sseReader kind surroundings limit).scanner.frameEnd
          (st.buffer.drop consumed) = none := hframe
      simp [hscan]
    | some n =>
      have hscan : (sseReader kind surroundings limit).scanner.frameEnd
          (st.buffer.drop consumed) = some n := hframe
      simp only [hscan, Option.map_some]
      have hcore := handleFrame_core kind surroundings ((st.buffer.drop consumed).take n) st
      have hkeeps := KeepsBuffer.handleFrame kind (surroundings st.eventsSeen)
        ((st.buffer.drop consumed).take n) (parseSseEventJson (surroundings st.eventsSeen).serde
          ((st.buffer.drop consumed).take n)) st
      generalize handleFrame kind.handle _ _ _ st = next at hcore hkeeps ⊢
      have hclosed : (sseReader kind surroundings limit).closed
          ((sseReader kind surroundings limit).handle ((st.buffer.drop consumed).take n)
            st.core) = next.closeAfterOutput := by
        show (handleCore kind surroundings _ st.core).closeAfterOutput = _
        rw [← hcore]
        rfl
      have hhandle : (sseReader kind surroundings limit).handle
          ((st.buffer.drop consumed).take n) st.core = next.core := hcore.symm
      rw [hclosed, hhandle]
      cases hnext : next.closeAfterOutput with
      | true => exact ⟨rfl, hkeeps.limits, fun h => by simp [hnext] at h⟩
      | false =>
        have hrest := ih next (consumed + n) hnext
        rw [hkeeps.buffer hnext, ← List.drop_drop] at hrest
        exact ⟨hrest.1, hrest.2.1.trans hkeeps.limits, hrest.2.2⟩

theorem drainFrames_reads (fuel : Nat) (st : SseStream) (hopen : st.closeAfterOutput = false)
    (hfuel : fuel = st.buffer.length + 1) :
    Reads (drainFrames kind.handle surroundings st)
        ((sseReader kind surroundings limit).drain fuel (st.buffer, st.core)) ∧
      (drainFrames kind.handle surroundings st).resourceLimits = st.resourceLimits := by
  subst hfuel
  obtain ⟨hcore, hlimits, hbuffer⟩ :=
    drainLoop_reads kind surroundings limit (st.buffer.length + 1) st 0 hopen
  refine ⟨⟨?_, ?_⟩, hlimits⟩
  · rw [List.drop_zero] at hcore
    exact hcore
  · intro hstill
    rw [List.drop_zero] at hbuffer
    simp only [drainFrames, dropSsePrefix_eq]
    exact hbuffer hstill

/-- A full buffer. -/
theorem reads_check {st : SseStream} {p : List UInt8 × SseStream} (h : Reads st p)
    (hlimit : st.resourceLimits.maxSseFrameBytes = limit) :
    Reads (if !st.closeAfterOutput && st.buffer.length = st.resourceLimits.maxSseFrameBytes then
        rejectOversizedSseFrame surroundings st else st)
      ((sseReader kind surroundings limit).check p) := by
  have hclosed : (sseReader kind surroundings limit).closed p.2 = st.closeAfterOutput := by
    rw [← h.core]
    rfl
  unfold Framing.Reader.check
  rw [hclosed, hlimit, show (sseReader kind surroundings limit).limit = limit from rfl]
  cases hst : st.closeAfterOutput with
  | true => simpa using h
  | false =>
    rw [h.buffer hst]
    split
    · refine ⟨?_, fun hopen => by cases hopen⟩
      rw [← h.core]
      rfl
    · exact h

/-- **A stream takes a chunk as its reader does.** -/
theorem pushLoop_reads (fuel : Nat) : ∀ (chunk : List UInt8) (st : SseStream)
    (p : List UInt8 × SseStream), Reads st p → st.resourceLimits.maxSseFrameBytes = limit →
    Reads (pushLoop kind.handle surroundings fuel chunk st)
        ((sseReader kind surroundings limit).push fuel chunk p) ∧
      (pushLoop kind.handle surroundings fuel chunk st).resourceLimits = st.resourceLimits := by
  induction fuel with
  | zero => exact fun chunk st p h _ => ⟨h, rfl⟩
  | succ fuel ih =>
    intro chunk st p h hlimit
    have hclosed : (sseReader kind surroundings limit).closed p.2 = st.closeAfterOutput := by
      rw [← h.core]
      rfl
    simp only [pushLoop, Framing.Reader.push, hclosed]
    split
    · exact ⟨h, rfl⟩
    · next hmore =>
      have hopen : st.closeAfterOutput = false := by simp_all
      rw [hlimit, h.buffer hopen, show (sseReader kind surroundings limit).limit = limit from rfl]
      split
      · refine ⟨⟨?_, fun hopen => by cases hopen⟩, rfl⟩
        rw [← h.core]
        rfl
      · obtain ⟨hdrain, hlimits⟩ := drainFrames_reads kind surroundings limit _
          { st with buffer := p.1 ++ chunk.take (limit - p.1.length) } hopen rfl
        have hcore : ({ st with
            buffer := p.1 ++ chunk.take (limit - p.1.length) } : SseStream).core = p.2 := h.core
        rw [hcore, List.length_append] at hdrain
        generalize drainFrames kind.handle surroundings _ = next at hdrain hlimits ⊢
        have hcheck := reads_check kind surroundings limit hdrain (by rw [hlimits]; exact hlimit)
        have hrest := ih (chunk.drop (limit - p.1.length)) _ _ hcheck
        refine ⟨(hrest ?_).1, (hrest ?_).2.trans ?_⟩
        all_goals split
        all_goals first | exact hlimits | exact (congrArg _ hlimits).trans hlimit

end Reader

end LlmUniversalProxy.Streaming
