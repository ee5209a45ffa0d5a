import LlmUniversalProxy.Streaming.Chunking
import LlmUniversalProxy.Streaming.Innocent
import LlmUniversalProxy.Streaming.PollLoop
import LlmUniversalProxy.Streaming.WireRoundTrip

/-!
# `Streaming.Passthrough` — a guarding stream lets innocent frames through

The frames of a same-format stream go out as they came, one by one, if nothing in them is the
proxy's own. The exception are error events: they are sanitised even so, and one with a blank text
in it is written anew with the generic message in the text's place. `Took` says what a stream has
done with the bytes that it has been given, and `guard_transparent` when this is nothing.

The guarding stream is `streaming/stream.rs` 515-819.
-/

set_option autoImplicit false

namespace LlmUniversalProxy.Streaming

open Json Lib

/-! ## A frame -/

/-- Neither the text of the frame nor what its event says mentions the proxy's own names. -/
structure Innocent (serde : Serde) (frame : List UInt8) : Prop where
  text : sseFrameContainsInternalArtifact frame = false
  event : ∀ event ∈ parseSseEventJson serde frame, mentionsArtifact event = false

instance (serde : Serde) (frame : List UInt8) : Decidable (Innocent serde frame) :=
  decidable_of_iff (sseFrameContainsInternalArtifact frame = false ∧
    ∀ event ∈ parseSseEventJson serde frame, mentionsArtifact event = false)
    ⟨fun h => ⟨h.1, h.2⟩, fun h => ⟨h.text, h.event⟩⟩

/-- What goes out for an innocent frame. -/
def passedFrame (serde : Serde) (frame : List UInt8) : SseFrame :=
  match parseSseEventJson serde frame with
  | none => .raw frame
  | some event =>
      if isDone event then .raw frame
      else passFrame frame event (sanitizePublicStreamErrorEvent event)

/-- The event of a frame that is written anew: an error with a blank text in it. -/
def rewrittenEvent (serde : Serde) (frame : List UInt8) : Option Value :=
  (parseSseEventJson serde frame).filter fun event =>
    !isDone event && streamEventIsPublicError event && hasBlankString event

theorem linesFrom_break (line cs : List Char) : ∃ first,
    linesFrom line ('\n' :: cs) = first :: linesFrom [] cs ∧ first <+: line.reverse := by
  cases line with
  | nil => exact ⟨[], rfl, List.prefix_rfl⟩
  | cons c before =>
    by_cases hc : c = '\r'
    · subst hc
      refine ⟨before.reverse, rfl, ?_⟩
      rw [List.reverse_cons]
      exact List.prefix_append _ _
    · refine ⟨(c :: before).reverse, ?_, List.prefix_rfl⟩
      rw [linesFrom]
      intro other heq
      exact hc (List.cons_eq_cons.mp heq).1

/-- The lines of a text are parts of it, without line feeds. -/
theorem mem_linesFrom {cs : List Char} : ∀ {line : List Char} {l : List Char}, '\n' ∉ line →
    l ∈ linesFrom line cs → l <:+: line.reverse ++ cs ∧ '\n' ∉ l := by
  induction cs with
  | nil =>
    intro line l hline hl
    rw [linesFrom] at hl
    split at hl
    · cases hl
    · rw [List.mem_singleton.mp hl, List.append_nil]
      exact ⟨List.infix_rfl, by simpa using hline⟩
  | cons c cs ih =>
    intro line l hline hl
    by_cases hc : c = '\n'
    · subst hc
      obtain ⟨first, hfirst, hahead⟩ := linesFrom_break line cs
      rw [hfirst] at hl
      rcases List.mem_cons.mp hl with rfl | hl
      · exact ⟨(hahead.trans (List.prefix_append _ _)).isInfix,
          fun hmem => hline (List.mem_reverse.mp (hahead.subset hmem))⟩
      · obtain ⟨hinside, hlf⟩ := ih List.not_mem_nil hl
        refine ⟨hinside.trans ?_, hlf⟩
        rw [List.reverse_nil, List.nil_append, List.append_cons]
        exact (List.suffix_append _ _).isInfix
    · have hstep : linesFrom line (c :: cs) = linesFrom (c :: line) cs := by
        rw [linesFrom]
        exact hc
      rw [hstep] at hl
      have hmore := ih (by simp [Ne.symm hc, hline]) hl
      rwa [List.reverse_cons, List.append_assoc, List.singleton_append] at hmore

theorem fieldValue_suffix {name line value : String} (h : fieldValue name line = some value) :
    value.toList <:+ line.toList := by
  obtain ⟨behind, hbehind, rfl⟩ := Option.map_eq_some_iff.mp h
  refine List.IsSuffix.trans ?_ (Text.stripPrefix_suffix hbehind)
  cases hblank : Text.stripPrefix behind " " with
  | none => exact List.suffix_rfl
  | some rest => exact Text.stripPrefix_suffix hblank

/-- The type of an event is a part of the frame's text, and fits on a line. -/
theorem sseFrameEventType_part {frame : List UInt8} {eventType : String}
    (h : sseFrameEventType frame = some eventType) :
    eventType.toList <:+: Utf8.fromUtf8Lossy frame ∧ KeepsEnd eventType := by
  obtain ⟨line, hline, hvalue⟩ := List.exists_of_findSome?_eq_some h
  obtain ⟨cs, hcs, rfl⟩ := List.mem_map.mp hline
  obtain ⟨hinside, hlf⟩ := mem_linesFrom List.not_mem_nil hcs
  obtain ⟨value, hfield, rfl⟩ := Option.map_eq_some_iff.mp (Option.filter_eq_some_iff.mp hvalue).1
  have hpart := (Text.trim_infix value).trans (fieldValue_suffix hfield).isInfix
  rw [String.toList_ofList] at hpart
  exact ⟨hpart.trans hinside, fun hmem => hlf (hpart.subset hmem), Text.getLast?_trim (by decide)⟩

namespace Innocent

variable {serde : Serde} {frame : List UInt8}

theorem eventType (h : Innocent serde frame) :
    (sseFrameEventType frame).any containsInternalArtifactText = false := by
  cases htype : sseFrameEventType frame with
  | none => rfl
  | some eventType =>
    rw [Option.any_some, Bool.eq_false_iff]
    intro hmentions
    have hpart := (sseFrameEventType_part htype).1
    have htext : sseFrameContainsInternalArtifact frame = true := by
      unfold sseFrameContainsInternalArtifact containsInternalArtifactText
      rw [containsInternalArtifactText, Bool.or_eq_true] at hmentions
      rw [Bool.or_eq_true]
      rw [← String.toList_ofList (l := Utf8.fromUtf8Lossy frame)] at hpart
      exact hmentions.imp (Text.contains_of_infix hpart) (Text.contains_of_infix hpart)
    rw [h.text] at htext
    cases htext

/-- **An innocent frame is let through**, and nothing but the count of the events changes. -/
theorem guardFrame_passes (h : Innocent serde frame) {env : Env} (henv : env.serde = serde)
    {st : SseStream} (hroom : st.eventsSeen < st.resourceLimits.streamMaxEvents)
    (hopen : st.closeAfterOutput = false)
    (hsize : st.state.accumulatedBytes ≤ st.resourceLimits.maxAccumulatedStreamStateBytes) :
    handleFrame guardFrame env frame (parseSseEventJson env.serde frame) st =
      { st with
        eventsSeen := st.registerSseEvent.eventsSeen
        outputQueue := st.outputQueue ++ [passedFrame serde frame] } := by
  have hregister : st.registerSseEventOrReject env = st.registerSseEvent := by
    refine if_neg ?_
    simp only [SseStream.registerSseEvent]
    omega
  have hsmall {next : SseStream} (hstate : next.state = st.state)
      (hlimits : next.resourceLimits = st.resourceLimits) : next.rejectIfStateTooLarge env = next :=
    if_neg (by rw [hstate, hlimits]; omega)
  have hstill : st.registerSseEvent.closeAfterOutput = false := hopen
  subst henv
  unfold handleFrame guardFrame passedFrame
  simp only [hregister, hstill, h.eventType, h.text, Bool.false_eq_true, if_false]
  cases hevent : parseSseEventJson env.serde frame with
  | none => rfl
  | some event =>
    cases hdone : isDone event with
    | true => simp [hdone, SseStream.extend, SseStream.registerSseEvent]
    | false =>
      have hpublic := publicEvent_innocent st.registerSseEvent.clientFormat
        (mentionsArtifact_publicEvent (h.event event hevent))
      simp only [hdone, Bool.false_and, Bool.false_eq_true, if_false, hpublic, ite_self]
      exact hsmall rfl rfl

end Innocent

/-! ## The bytes of a stream -/

def framesOf (bytes : List UInt8) : List (List UInt8) := (Framing.cutAll sseFrameEnd bytes).1

/-- What is behind them. -/
def restOf (bytes : List UInt8) : List UInt8 := (Framing.cutAll sseFrameEnd bytes).2

theorem framesOf_append (bytes more : List UInt8) :
    framesOf (bytes ++ more) = framesOf bytes ++ framesOf (restOf bytes ++ more) := by
  have hcut := congrArg Prod.fst (Framing.cutAll_append sseScanner bytes more)
  exact hcut

theorem restOf_append (bytes more : List UInt8) :
    restOf (bytes ++ more) = restOf (restOf bytes ++ more) := by
  have hcut := congrArg Prod.snd (Framing.cutAll_append sseScanner bytes more)
  exact hcut

/-- The complete frames make up the longest prefix of the bytes that ends with a frame: behind it no
other frame ends. -/
theorem framesOf_longest (bytes : List UInt8) :
    (framesOf bytes).flatten ++ restOf bytes = bytes ∧ sseFrameEnd (restOf bytes) = none :=
  ⟨Framing.flatten_cutAll sseScanner.findsEnd bytes, Framing.cutAll_rest sseScanner.findsEnd bytes⟩

/-- A stream has room for the bytes: for every frame, for what is behind the last one, and for as
many events as there are frames. -/
structure WithinLimits (limits : ResourceLimits) (bytes : List UInt8) : Prop where
  frames : ∀ frame ∈ framesOf bytes, frame.length ≤ limits.maxSseFrameBytes
  rest : (restOf bytes).length < limits.maxSseFrameBytes
  events : (framesOf bytes).length ≤ limits.streamMaxEvents

/-- What a stream that is at `seen` events lets through. -/
structure Passes (serde : Serde) (limits : ResourceLimits) (seen : Nat) (bytes : List UInt8) :
    Prop where
  frames : ∀ frame ∈ framesOf bytes, frame.length ≤ limits.maxSseFrameBytes
  rest : (restOf bytes).length < limits.maxSseFrameBytes
  events : seen + (framesOf bytes).length ≤ limits.streamMaxEvents
  innocent : ∀ frame ∈ framesOf bytes, Innocent serde frame

namespace Passes

variable {serde : Serde} {limits : ResourceLimits} {seen : Nat} {bytes more : List UInt8}

theorem left (h : Passes serde limits seen (bytes ++ more)) : Passes serde limits seen bytes := by
  have hframes := framesOf_append bytes more
  refine ⟨fun frame hframe => h.frames frame ?_, ?_, ?_, fun frame hframe => h.innocent frame ?_⟩
  · rw [hframes]
    exact List.mem_append_left _ hframe
  · exact Framing.length_rest_lt sseScanner h.frames h.rest
  · have hevents := h.events
    rw [hframes, List.length_append] at hevents
    omega
  · rw [hframes]
    exact List.mem_append_left _ hframe

theorem right (h : Passes serde limits seen (bytes ++ more)) {seen' : Nat}
    (hseen : seen' ≤ seen + (framesOf bytes).length) :
    Passes serde limits seen' (restOf bytes ++ more) := by
  have hframes := framesOf_append bytes more
  refine ⟨fun frame hframe => h.frames frame ?_, ?_, ?_, fun frame hframe => h.innocent frame ?_⟩
  · rw [hframes]
    exact List.mem_append_right _ hframe
  · have hrest := h.rest
    rwa [restOf_append] at hrest
  · have hevents := h.events
    rw [hframes, List.length_append] at hevents
    omega
  · rw [hframes]
    exact List.mem_append_right _ hframe

end Passes

/-! ## The loops -/

/-- A stream has let the frames of the bytes through and keeps the rest. -/
def Took (serde : Serde) (bytes : List UInt8) (st st' : SseStream) : Prop :=
  ∃ seen ≤ st.eventsSeen + (framesOf bytes).length, st' = { st with
    buffer := restOf bytes
    eventsSeen := seen
    outputQueue := st.outputQueue ++ (framesOf bytes).map (passedFrame serde) }

/-- A stream that is open, and whose state is small. -/
structure Ready (st : SseStream) : Prop where
  opened : st.closeAfterOutput = false
  small : st.state.accumulatedBytes ≤ st.resourceLimits.maxAccumulatedStreamStateBytes

theorem Took.ready {serde : Serde} {bytes : List UInt8} {st st' : SseStream}
    (h : Took serde bytes st st') (hready : Ready st) : Ready st' := by
  obtain ⟨_, _, rfl⟩ := h
  exact ⟨hready.opened, hready.small⟩

theorem Took.trans {serde : Serde} {bytes more : List UInt8} {st₁ st₂ st₃ : SseStream}
    (h : Took serde bytes st₁ st₂) (h' : Took serde (restOf bytes ++ more) st₂ st₃) :
    Took serde (bytes ++ more) st₁ st₃ := by
  obtain ⟨seen, hseen, rfl⟩ := h
  obtain ⟨seen', hseen', rfl⟩ := h'
  refine ⟨seen', ?_, ?_⟩
  · rw [framesOf_append, List.length_append]
    dsimp only at hseen'
    omega
  · rw [framesOf_append bytes more, restOf_append bytes more, List.map_append, ← List.append_assoc]

section Loops

variable {serde : Serde} {surroundings : Nat → Env} (hserde : ∀ n, (surroundings n).serde = serde)

include hserde

theorem drainLoop_took (fuel : Nat) : ∀ {st : SseStream} {consumed : Nat}, Ready st →
    (st.buffer.drop consumed).length < fuel →
    Passes serde st.resourceLimits st.eventsSeen (st.buffer.drop consumed) →
    ∃ consumed' seen, seen ≤ st.eventsSeen + (framesOf (st.buffer.drop consumed)).length ∧
      st.buffer.drop consumed' = restOf (st.buffer.drop consumed) ∧
      drainLoop guardFrame surroundings fuel st consumed = ({ st with
        eventsSeen := seen
        outputQueue := st.outputQueue ++
          (framesOf (st.buffer.drop consumed)).map (passedFrame serde) }, consumed') := by
  -- the fuel is more than the bytes that are left, and every frame takes at least one of them
  induction fuel with
  | zero => exact fun _ hfuel => absurd hfuel (Nat.not_lt_zero _)
  | succ fuel ih =>
    intro st consumed hready hfuel hpasses
    rw [drainLoop, dropSsePrefix_eq, readOneSseFrame_eq]
    cases hend : sseFrameEnd (st.buffer.drop consumed) with
    | none =>
      have hcut := Framing.cutAll_none hend
      refine ⟨consumed, st.eventsSeen, Nat.le_add_right _ _, ?_, ?_⟩
      · rw [restOf, hcut]
      · simp [framesOf, hcut]
    | some n =>
      have hcut := Framing.cutAll_some sseScanner.findsEnd hend
      have hpos := sseScanner.pos hend
      generalize hfirst : (st.buffer.drop consumed).take n = first at hcut
      rw [List.drop_drop] at hcut
      have hframes : framesOf (st.buffer.drop consumed) =
          first :: framesOf (st.buffer.drop (consumed + n)) :=
        (congrArg Prod.fst hcut).trans rfl
      have hrest : restOf (st.buffer.drop consumed) =
          restOf (st.buffer.drop (consumed + n)) :=
        (congrArg Prod.snd hcut).trans rfl
      have hevents := hpasses.events
      rw [hframes, List.length_cons] at hevents
      -- the first frame passes, and what is said of all frames holds of the others
      have hinnocent := hpasses.innocent first (hframes ▸ List.mem_cons_self)
      have hpassed := hinnocent.guardFrame_passes (hserde st.eventsSeen)
        (by omega) hready.opened hready.small
      have hseen : st.registerSseEvent.eventsSeen ≤ st.eventsSeen + 1 := Nat.min_le_left _ _
      have hnext : Passes serde st.resourceLimits st.registerSseEvent.eventsSeen
          (st.buffer.drop (consumed + n)) := by
        refine ⟨fun frame hframe => hpasses.frames frame ?_, ?_, by omega,
          fun frame hframe => hpasses.innocent frame ?_⟩
        · exact hframes ▸ List.mem_cons_of_mem _ hframe
        · exact hrest ▸ hpasses.rest
        · exact hframes ▸ List.mem_cons_of_mem _ hframe
      have hle := sseScanner.le hend
      have hshorter : (st.buffer.drop (consumed + n)).length < fuel := by
        rw [List.length_drop] at hfuel hle ⊢
        omega
      obtain ⟨consumed', seen, hseen', hleft, hloop⟩ := @ih { st with
          eventsSeen := st.registerSseEvent.eventsSeen
          outputQueue := st.outputQueue ++ [passedFrame serde first] } _
        ⟨hready.opened, hready.small⟩ hshorter hnext
      refine ⟨consumed', seen, ?_, hleft.trans hrest.symm, ?_⟩
      · rw [hframes, List.length_cons]
        dsimp only at hseen'
        omega
      · simp only [Option.map_some, hfirst, hpassed, hready.opened, Bool.false_eq_true, if_false]
        simp only [hready.opened] at hloop
        rw [hloop, hframes, List.map_cons, List.append_assoc, List.singleton_append]

theorem drainFrames_took {st : SseStream} (hready : Ready st)
    (hpasses : Passes serde st.resourceLimits st.eventsSeen st.buffer) :
    Took serde st.buffer st (drainFrames guardFrame surroundings st) := by
  have hall : Passes serde st.resourceLimits st.eventsSeen (st.buffer.drop 0) := hpasses
  obtain ⟨consumed, seen, hseen, hrest, hloop⟩ :=
    drainLoop_took hserde (st.buffer.length + 1) hready (Nat.lt_succ_self _) hall
  rw [List.drop_zero] at hrest
  refine ⟨seen, hseen, ?_⟩
  rw [drainFrames, hloop]
  simp only [dropSsePrefix_eq, hrest, List.drop_zero]

theorem pushLoop_took (fuel : Nat) : ∀ {chunk : List UInt8} {st : SseStream}, Ready st →
    chunk.length < fuel → sseFrameEnd st.buffer = none →
    st.buffer.length < st.resourceLimits.maxSseFrameBytes →
    Passes serde st.resourceLimits st.eventsSeen (st.buffer ++ chunk) →
    Took serde (st.buffer ++ chunk) st (pushLoop guardFrame surroundings fuel chunk st) := by
  induction fuel with
  | zero => exact fun _ hfuel => absurd hfuel (Nat.not_lt_zero _)
  | succ fuel ih =>
    intro chunk st hready hfuel hnone hroom hpasses
    rw [pushLoop]
    cases hchunk : chunk with
    | nil =>
      have hcut := Framing.cutAll_none hnone
      rw [List.append_nil]
      refine ⟨st.eventsSeen, Nat.le_add_right _ _, ?_⟩
      simp [framesOf, restOf, hcut]
    | cons b bytes =>
      rw [← hchunk]
      have hmore : (chunk.isEmpty || st.closeAfterOutput) = false := by
        rw [hchunk, hready.opened]
        rfl
      generalize hremaining : st.resourceLimits.maxSseFrameBytes - st.buffer.length = remaining
      have hne : remaining ≠ 0 := by omega
      simp only [hmore, Bool.false_eq_true, if_false, if_neg hne]
      -- the loop takes as much of the chunk as there is room for, and that is at least one byte
      have hsplit : st.buffer ++ chunk =
          (st.buffer ++ chunk.take remaining) ++ chunk.drop remaining := by
        rw [List.append_assoc, List.take_append_drop]
      rw [hsplit] at hpasses ⊢
      generalize hslice : st.buffer ++ chunk.take remaining = slice at hpasses ⊢
      have hslice' : Ready { st with buffer := slice } := ⟨hready.opened, hready.small⟩
      have htook := drainFrames_took hserde hslice' hpasses.left
      generalize drainFrames guardFrame surroundings { st with buffer := slice } = next at htook ⊢
      have hready' : Ready next := htook.ready ⟨hready.opened, hready.small⟩
      obtain ⟨seen, hseen, rfl⟩ := htook
      dsimp only at hseen hready' ⊢
      have hshort := hpasses.left.rest
      -- what is left of the slice is shorter than the limit, as every rest of these bytes is
      have hfits : (!st.closeAfterOutput &&
          decide ((restOf slice).length = st.resourceLimits.maxSseFrameBytes)) = false := by
        rw [hready.opened, Bool.not_false, Bool.true_and, decide_eq_false_iff_not]
        omega
      rw [hfits]
      simp only [Bool.false_eq_true, if_false]
      have hshorter : (chunk.drop remaining).length < fuel := by
        have hlong : 0 < chunk.length := hchunk ▸ Nat.zero_lt_succ _
        rw [List.length_drop]
        omega
      have hloop := ih hready' hshorter (framesOf_longest slice).2 hshort (hpasses.right hseen)
      have htook : Took serde slice { st with buffer := slice } { st with
          buffer := restOf slice
          eventsSeen := seen
          outputQueue := st.outputQueue ++ (framesOf slice).map (passedFrame serde) } :=
        ⟨seen, hseen, rfl⟩
      exact htook.trans hloop

end Loops

/-! ## Runs -/

/-- The frames of what has come are let through, in order, and the rest is kept. -/
structure HasPassed (serde : Serde) (limits : ResourceLimits)
    (labels : List (Upstream ⊕ SseFrame)) (st : SseStream) : Prop where
  opened : st.closeAfterOutput = false
  state : st.state.accumulatedBytes = 0
  limits : st.resourceLimits = limits
  buffer : st.buffer = restOf (chunkBytes labels)
  events : st.eventsSeen ≤ (framesOf (chunkBytes labels)).length
  frames : yieldedFrames labels ++ st.outputQueue =
    (framesOf (chunkBytes labels)).map (passedFrame serde)

theorem HasPassed.ready {serde : Serde} {limits : ResourceLimits}
    {labels : List (Upstream ⊕ SseFrame)} {st : SseStream} (h : HasPassed serde limits labels st) :
    Ready st := ⟨h.opened, h.state ▸ Nat.zero_le _⟩

theorem restOf_restOf (bytes : List UInt8) : framesOf (restOf bytes) = [] ∧
    restOf (restOf bytes) = restOf bytes := by
  have hcut := Framing.cutAll_none (framesOf_longest bytes).2
  exact ⟨congrArg Prod.fst hcut, (congrArg Prod.snd hcut).trans rfl⟩

/-- What a guarding stream does with anything but a timer. -/
theorem HasPassed.polled {serde : Serde} {surroundings : Nat → Env}
    (hserde : ∀ n, (surroundings n).serde = serde) {limits : ResourceLimits}
    {labels : List (Upstream ⊕ SseFrame)} {st : SseStream} {upstream : Upstream}
    (h : HasPassed serde limits labels st) (htimers : ∀ timer, upstream ≠ .expired timer)
    (hpasses : Passes serde limits 0 (chunkBytes (labels ++ [.inl upstream]))) :
    HasPassed serde limits (labels ++ [.inl upstream])
      (st.poll .guarding surroundings upstream) := by
  have hbytes : chunkBytes (labels ++ [.inl upstream]) =
      chunkBytes labels ++ chunkBytes [.inl upstream] := List.flatMap_append
  have hyielded : yieldedFrames (labels ++ [.inl upstream]) = yieldedFrames labels := by
    simp [yieldedFrames, List.filterMap_cons]
  rw [hbytes] at hpasses
  have hseen : st.eventsSeen ≤ 0 + (framesOf (chunkBytes labels)).length := by
    have hevents := h.events
    omega
  have hmore := hpasses.right hseen
  -- In all cases the stream takes what is new, if anything is.
  suffices htook : Took serde (st.buffer ++ chunkBytes [.inl upstream]) st
      (st.poll .guarding surroundings upstream) by
    have hready := htook.ready h.ready
    obtain ⟨seen, hseen, hst⟩ := htook
    rw [hst] at hready ⊢
    rw [h.buffer] at hseen
    refine ⟨hready.opened, h.state, h.limits, ?_, ?_, ?_⟩
    · rw [hbytes, restOf_append (chunkBytes labels), h.buffer]
    · have hevents := h.events
      rw [hbytes, framesOf_append (chunkBytes labels), List.length_append]
      exact Nat.le_trans hseen (Nat.add_le_add_right hevents _)
    · rw [hyielded, hbytes, framesOf_append (chunkBytes labels), List.map_append, ← h.frames,
        h.buffer, List.append_assoc]
  have hkept : Took serde st.buffer st st := by
    refine ⟨st.eventsSeen, Nat.le_add_right _ _, ?_⟩
    rw [h.buffer, (restOf_restOf _).1, (restOf_restOf _).2, List.map_nil, List.append_nil,
      ← h.buffer]
  rw [← h.buffer, ← h.limits] at hmore
  cases upstream with
  | expired timer => exact absurd rfl (htimers timer)
  | failed =>
    rw [show chunkBytes [.inl .failed] = [] from rfl, List.append_nil]
    exact hkept
  | ended =>
    rw [show chunkBytes [.inl .ended] = [] from rfl, List.append_nil] at hmore ⊢
    exact drainFrames_took hserde h.ready hmore
  | chunk bytes =>
    rw [show chunkBytes [.inl (.chunk bytes)] = bytes from List.append_nil bytes] at hmore ⊢
    have hnone : sseFrameEnd st.buffer = none := h.buffer ▸ (framesOf_longest _).2
    refine pushLoop_took hserde _ h.ready (Nat.lt_succ_self _) hnone ?_ hmore
    rw [h.limits, h.buffer]
    exact hpasses.left.rest

/-- **A run lets the frames through**, whatever the chunks and the errors of the upstream are. -/
theorem run_passes {serde : Serde} {surroundings : Nat → Env}
    (hserde : ∀ n, (surroundings n).serde = serde) {format : UpstreamFormat}
    {limits : ResourceLimits} {labels : List (Upstream ⊕ SseFrame)} {st : SseStream}
    (hrun : Run (SseStream.Step .guarding surroundings) (.fresh format limits {}) labels st) :
    (∀ timer, .inl (.expired timer) ∉ labels) → Passes serde limits 0 (chunkBytes labels) →
      HasPassed serde limits labels st := by
  refine hrun.invariant_history (I := fun labels t => (∀ timer, .inl (.expired timer) ∉ labels) →
    Passes serde limits 0 (chunkBytes labels) → HasPassed serde limits labels t) ?_ ?_
  · exact fun _ _ => ⟨rfl, rfl, rfl, rfl, Nat.zero_le _, rfl⟩
  · intro labels t u label ih hstep htimers hpasses
    have hbytes : chunkBytes (labels ++ [label]) = chunkBytes labels ++ chunkBytes [label] :=
      List.flatMap_append
    have hbefore := ih (fun timer hmem => htimers timer (List.mem_append_left _ hmem))
      (hbytes ▸ hpasses).left
    cases hstep with
    | @yielded frame rest hqueue =>
      have hnone : chunkBytes (labels ++ [.inr frame]) = chunkBytes labels := by
        rw [hbytes]
        exact List.append_nil _
      refine ⟨hbefore.opened, hbefore.state, hbefore.limits, ?_, ?_, ?_⟩
      · rw [hnone, ← hbefore.buffer]
      · rw [hnone]
        exact hbefore.events
      · rw [hnone, ← hbefore.frames, hqueue]
        simp [yieldedFrames]
    | polled upstream _ _ =>
      refine hbefore.polled hserde (fun timer heq => ?_) hpasses
      exact htimers timer (List.mem_append_right _ (by rw [heq]; exact List.mem_singleton_self _))

/-! ## What comes out -/

section Out

variable {serde : Serde} {frame : List UInt8}

/-- A frame whose event is not written anew goes out as it came. -/
theorem passedFrame_raw (hinnocent : Innocent serde frame)
    (hsame : rewrittenEvent serde frame = none) : passedFrame serde frame = .raw frame := by
  unfold passedFrame
  cases hevent : parseSseEventJson serde frame with
  | none => rfl
  | some event =>
    rw [rewrittenEvent, hevent, Option.filter_eq_none_iff] at hsame
    have hsame := hsame event rfl
    cases hdone : isDone event with
    | true => simp [hdone]
    | false =>
      have hclean := hinnocent.event event hevent
      have hunchanged : sanitizePublicStreamErrorEvent event = event := by
        unfold sanitizePublicStreamErrorEvent
        split
        · next herror =>
          rw [hdone, herror] at hsame
          exact (sanitize_eq_self_iff hclean).mpr (by simpa using hsame)
        · rfl
      simp only [hdone, Bool.false_eq_true, if_false, passFrame, hinnocent.text, hunchanged,
        Bool.not_false, decide_true, Bool.and_self, if_true]

/-- An event that is written anew is another event. -/
theorem passedFrame_rewritten (hinnocent : Innocent serde frame) {event : Value}
    (hrewritten : rewrittenEvent serde frame = some event) :
    sanitizePublicStreamErrorEvent event ≠ event ∧ passedFrame serde frame =
      canonicalSseFrame (sseFrameEventType frame) (sanitizePublicStreamErrorEvent event) := by
  obtain ⟨hevent, hkind⟩ := Option.filter_eq_some_iff.mp hrewritten
  simp only [Bool.and_eq_true, Bool.not_eq_true'] at hkind
  obtain ⟨⟨hdone, herror⟩, hblank⟩ := hkind
  have hchanged : sanitizePublicStreamErrorEvent event ≠ event := by
    unfold sanitizePublicStreamErrorEvent
    rw [herror, if_pos rfl, Ne, sanitize_eq_self_iff (hinnocent.event event hevent), hblank]
    exact nofun
  refine ⟨hchanged, ?_⟩
  unfold passedFrame
  rw [hevent]
  simp only [hdone, Bool.false_eq_true, if_false, passFrame, hchanged, decide_false, Bool.and_false]

/-- Every frame that goes out is one frame for its reader, too. -/
theorem sseFrameEnd_passedFrame (hinnocent : Innocent serde frame)
    (hframe : sseFrameEnd frame = some frame.length)
    (hreads : ∀ event ∈ rewrittenEvent serde frame,
      ReadsBack serde (sanitizePublicStreamErrorEvent event)) :
    sseFrameEnd (passedFrame serde frame).bytes = some (passedFrame serde frame).bytes.length := by
  cases hrewritten : rewrittenEvent serde frame with
  | none =>
    rw [passedFrame_raw hinnocent hrewritten]
    exact hframe
  | some event =>
    rw [(passedFrame_rewritten hinnocent hrewritten).2]
    have hread := hreads event hrewritten
    unfold canonicalSseFrame
    split
    · decide
    · exact sseFrameEnd_formatSse (fun text htype => (sseFrameEventType_part htype).2) hread

/-- A frame that is written anew does not go out as it came. -/
theorem passedFrame_ne (hinnocent : Innocent serde frame) {event : Value}
    (hrewritten : rewrittenEvent serde frame = some event)
    (hread : ReadsBack serde (sanitizePublicStreamErrorEvent event)) :
    (passedFrame serde frame).bytes ≠ frame := by
  obtain ⟨hchanged, hpassed⟩ := passedFrame_rewritten hinnocent hrewritten
  obtain ⟨hevent, hkind⟩ := Option.filter_eq_some_iff.mp hrewritten
  rw [hpassed]
  intro hsame
  rw [← hsame] at hevent
  unfold canonicalSseFrame at hevent
  split at hevent
  · have hdone : isDone event = true := by
      have hmarker : parseSseEventJson serde SseFrame.done.bytes =
          some (.ofFields [("_done", .bool true)]) := rfl
      rw [hmarker] at hevent
      cases hevent
      rfl
    rw [hdone] at hkind
    cases hkind
  · have hback := parseSseEventJson_frame
      (fun text (htype : text ∈ sseFrameEventType frame) => (sseFrameEventType_part htype).2) hread
    exact hchanged (Option.some.inj (hback.symm.trans hevent))

end Out

theorem flatten_map_bytes {serde : Serde} {frames : List (List UInt8)}
    (hinnocent : ∀ frame ∈ frames, Innocent serde frame)
    (hframes : ∀ frame ∈ frames, sseFrameEnd frame = some frame.length)
    (hreads : ∀ frame ∈ frames, ∀ event ∈ rewrittenEvent serde frame,
      ReadsBack serde (sanitizePublicStreamErrorEvent event)) :
    ((frames.map (passedFrame serde)).flatMap SseFrame.bytes = frames.flatten) ↔
      ∀ frame ∈ frames, rewrittenEvent serde frame = none := by
  constructor
  · -- Both sides are cut into the same frames.
    intro hsame
    have hflat : (frames.map (passedFrame serde)).flatMap SseFrame.bytes =
        (frames.map fun frame => (passedFrame serde frame).bytes).flatten := by
      rw [List.flatMap_map, List.flatMap_def]
    rw [hflat] at hsame
    have hout : ∀ f ∈ frames.map fun frame => (passedFrame serde frame).bytes,
        sseFrameEnd f = some f.length := by
      intro f hf
      obtain ⟨frame, hframe, rfl⟩ := List.mem_map.mp hf
      exact sseFrameEnd_passedFrame (hinnocent frame hframe) (hframes frame hframe)
        (hreads frame hframe)
    have hcut := Framing.cutAll_flatten sseScanner hout
    rw [hsame] at hcut
    have hlists := congrArg Prod.fst ((Framing.cutAll_flatten sseScanner hframes).symm.trans hcut)
    intro frame hframe
    cases hrewritten : rewrittenEvent serde frame with
    | none => rfl
    | some event =>
      have hmap : frames.map (fun frame => (passedFrame serde frame).bytes) = frames.map id := by
        rw [List.map_id]
        exact hlists.symm
      exact absurd (List.map_inj_left.mp hmap frame hframe)
        (passedFrame_ne (hinnocent frame hframe) hrewritten (hreads frame hframe event hrewritten))
  · intro hsame
    have hraw : frames.map (passedFrame serde) = frames.map .raw := List.map_congr_left
      fun frame hframe => passedFrame_raw (hinnocent frame hframe) (hsame frame hframe)
    rw [hraw, List.flatMap_map]
    exact List.flatMap_id

/-- **Same-format passthrough is transparent** for the frames that mention nothing of the proxy's
own: what goes out are the complete frames that have come in, byte for byte, exactly if none of
them is an error event with a blank text in it. -/
theorem guard_transparent {serde : Serde} {surroundings : Nat → Env}
    (hserde : ∀ n, (surroundings n).serde = serde) {format : UpstreamFormat}
    {limits : ResourceLimits} {labels : List (Upstream ⊕ SseFrame)} {st : SseStream}
    (hrun : Run (SseStream.Step .guarding surroundings) (.fresh format limits {}) labels st)
    (htimers : ∀ timer, .inl (.expired timer) ∉ labels) (hyielded : st.outputQueue = [])
    (hlimits : WithinLimits limits (chunkBytes labels))
    (hinnocent : ∀ frame ∈ framesOf (chunkBytes labels), Innocent serde frame)
    (hreads : ∀ frame ∈ framesOf (chunkBytes labels), ∀ event ∈ rewrittenEvent serde frame,
      ReadsBack serde (sanitizePublicStreamErrorEvent event)) :
    (yieldedFrames labels).flatMap SseFrame.bytes = (framesOf (chunkBytes labels)).flatten ↔
      ∀ frame ∈ framesOf (chunkBytes labels), rewrittenEvent serde frame = none := by
  have hpassed := run_passes hserde hrun htimers
    ⟨hlimits.frames, hlimits.rest, by rw [Nat.zero_add]; exact hlimits.events, hinnocent⟩
  have hframes := hpassed.frames
  rw [hyielded, List.append_nil] at hframes
  rw [hframes]
  exact flatten_map_bytes hinnocent (fun _ => Framing.frameEnd_of_mem_cutAll sseScanner) hreads

/-- A comment, a frame that is not JSON, and the end marker with carriage returns. -/
def plainFrames : List UInt8 := bytesOf ": ping\n\ndata: oops\n\ndata: [DONE]\r\n\r\n"

/-- The run in which a guarding stream takes the bytes at once and yields all that is queued. -/
def guardLabels (limits : ResourceLimits) (bytes : List UInt8) : List (Upstream ⊕ SseFrame) :=
  .inl (.chunk bytes) ::
    ((SseStream.fresh .openAiChatCompletions limits {}).poll .guarding (fun _ => .still)
      (.chunk bytes)).outputQueue.map .inr

theorem guardLabels_run (limits : ResourceLimits) (bytes : List UInt8) :
    ∃ st, Run (SseStream.Step .guarding fun _ => .still) (.fresh .openAiChatCompletions limits {})
        (guardLabels limits bytes) st ∧ st.outputQueue = [] ∧
      (∀ timer, .inl (.expired timer) ∉ guardLabels limits bytes) ∧
      chunkBytes (guardLabels limits bytes) = bytes :=
  ⟨_, .cons (.polled _ rfl rfl) (run_yields _ rfl), rfl, by simp [guardLabels],
    by simp [guardLabels, chunkBytes, List.flatMap_map]⟩

/-- All three go out as they came. -/
theorem guard_transparent_plain :
    (yieldedFrames (guardLabels ⟨100, 5, 1000⟩ plainFrames)).flatMap SseFrame.bytes =
      plainFrames := by
  obtain ⟨st, hrun, hyielded, htimers, hbytes⟩ := guardLabels_run ⟨100, 5, 1000⟩ plainFrames
  have hnone : ∀ frame ∈ framesOf plainFrames, rewrittenEvent Env.still.serde frame = none := by
    decide +kernel
  have hall : (framesOf plainFrames).flatten = plainFrames := by decide +kernel
  have hserde (n : Nat) : ((fun _ : Nat => Env.still) n).serde = Env.still.serde := rfl
  have htransparent := guard_transparent hserde hrun htimers
    hyielded (hbytes ▸ ⟨by decide +kernel, by decide +kernel, by decide +kernel⟩)
    (hbytes ▸ by decide +kernel)
    (fun frame hframe event hevent => by
      rw [hnone frame (hbytes ▸ hframe)] at hevent
      cases hevent)
  rw [hbytes, hall] at htransparent
  exact htransparent.mpr hnone

/-- An error that names no parameter. -/
def blankParam : List UInt8 := bytesOf "data: \x7b\"error\":\x7b\"message\":\"boom\",\"param\":\"\"\x7d\x7d\n\n"

/-- The empty text in it does not come through. -/
theorem blankParam_is_rewritten : ∃ labels st,
    Run (SseStream.Step .guarding fun _ => .still)
        (.fresh .openAiChatCompletions ⟨100, 5, 1000⟩ {}) labels st ∧
      (∀ timer, .inl (.expired timer) ∉ labels) ∧ st.outputQueue = [] ∧
      WithinLimits ⟨100, 5, 1000⟩ (chunkBytes labels) ∧
      (∀ frame ∈ framesOf (chunkBytes labels), Innocent Env.still.serde frame) ∧
      (yieldedFrames labels).flatMap SseFrame.bytes ≠ (framesOf (chunkBytes labels)).flatten := by
  obtain ⟨st, hrun, hyielded, htimers, hbytes⟩ := guardLabels_run ⟨100, 5, 1000⟩ blankParam
  refine ⟨_, st, hrun, htimers, hyielded, ?_, ?_, ?_⟩
  · rw [hbytes]
    exact ⟨by decide +kernel, by decide +kernel, by decide +kernel⟩
  · rw [hbytes]
    decide +kernel
  · rw [hbytes]
    decide +kernel

end LlmUniversalProxy.Streaming
