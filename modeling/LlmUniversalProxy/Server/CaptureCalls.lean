import LlmUniversalProxy.Server.CaptureStream

/-!
# `Server.CaptureCalls` — what every call of the capturing stream keeps

A capture goes through three phases (`CapturePhase`). Before the commit the stream `Capturable`: it
is intact, it keeps no response, and nothing has been returned that ends one. In the commit the last
frame is held back. Behind it, or where there will be none, frames are only passed on. One lemma for
each way out of `poll_next` says to which phase it leads, `pollNext_capturing` puts them together,
and `polls_capturing` is the induction over the calls.

A translating stream that is disqualified (its upstream fails, a limit is broken, a frame cannot be
read) gives out no response any more, so nothing is ever held back for a commit that will not come.
-/

set_option autoImplicit false

namespace LlmUniversalProxy.Server

open Json Lib Streaming

/-! ## What a call keeps -/

/-- The stream may still be captured: it is intact and keeps no response, and as long as the response
is open, nothing has been said that ends it. -/
structure Capturable (serde : Serde) (history : List CaptureEvent) (inner : SseStream) : Prop where
  intact : Intact serde (bytesAsked history) inner
  chunks : ∀ upstream ∈ askedOf history, ∃ chunk, upstream = .chunk chunk
  nothingKept : inner.state.responsesTerminalResponse = none
  unended : inner.state.responsesTerminalSent = true ∨
    NoEnd history ∧ ∀ frame ∈ inner.outputQueue, frame.isTerminal = false

/-- Before the commit, in it, and behind it or when there will be none. -/
inductive CapturePhase (serde : Serde) (localId : String) (history : List CaptureEvent)
    (st : ConversationStateBridgeCaptureStream) : Prop
  | waiting (candidate : BridgeCaptureCandidate) (hcandidate : st.candidate = some candidate)
      (hlocal : candidate.localResponseId = some localId) (hcommit : st.commit = none)
      (hstart : NoStart history)
      (hinner : st.inner.captureDisqualified = true ∨ Capturable serde history st.inner)
  | committing (commit : BridgeCommit) (frame : SseFrame) (hcandidate : st.candidate = none)
      (hlocal : commit.candidate.localResponseId = some localId) (hcommit : st.commit = some commit)
      (hheld : st.pendingAfterCommit = some frame) (hframe : frame.BelongsTo localId)
      (hend : NoEnd history)
      (hstart : ∀ inner commit', .started inner commit' ∈ history → commit' = commit)
  | finished (hcandidate : st.candidate = none) (hcommit : st.commit = none)
      (hstart : ∀ inner commit, .started inner commit ∈ history →
        ∃ moment, .committed commit moment ∈ history)

/-- What every call keeps. -/
structure Capturing (serde : Serde) (localId : String) (history : List CaptureEvent)
    (st : ConversationStateBridgeCaptureStream) : Prop where
  serving : Serving localId st.inner
  waits : ∀ frame ∈ st.inner.outputQueue, frame.BelongsTo localId
  safe : SafelyCaptured serde localId history
  phase : CapturePhase serde localId history st

section Calls

variable {upstreamFormat : UpstreamFormat} {surroundings : Nat → Env} {serde : Serde}
  (hserde : ∀ n, (surroundings n).serde = serde) (hformat : upstreamFormat ≠ .openAiResponses)
  {localId : String} {history : List CaptureEvent}

include hserde hformat

/-- A call of the translating stream, before a commit has been started: the stream is disqualified,
or it comes to a stop, or it may still be captured, or it keeps a response whose end has not been
returned. -/
theorem capturable_call {st : SseStream} (hserving : Serving localId st)
    (h : st.captureDisqualified = true ∨ Capturable serde history st)
    (answers : List (Option Upstream)) :
    let result := st.pollNext (.translating upstreamFormat) surroundings answers
    let asked := history ++ result.asked.map .asked
    result.stream.captureDisqualified = true ∨ result.polled.isStop = true ∨
      Untroubled result.stream ∧ ReadWell serde asked ∧
        (Capturable serde (asked ++ [.returned result.polled]) result.stream ∨ NoEnd asked ∧
          ∃ frame response, result.polled = .frame frame ∧
            result.stream.state.responsesTerminalResponse = some response) := by
  have hcall := (goesWith_serves hformat surroundings localId).pollNext answers st
  have hintact : IntactOrNot serde (bytesAsked history) st := h.imp_right Capturable.intact
  have hread := pollNext_intact hserde hformat answers hserving hintact
  have hdisqualified := @pollNext_disqualified _ surroundings hformat _ answers _ hserving
  dsimp only at hread ⊢
  generalize st.pollNext (.translating upstreamFormat) surroundings answers = result
    at hcall hread hdisqualified ⊢
  rcases h with h | h
  · exact .inl (hdisqualified h)
  rcases hread with hread | hstop | ⟨hintact, hchunks⟩
  · exact .inl hread
  · exact .inr (.inl hstop)
  rw [← bytesAsked_asked] at hintact
  have hchunks' : ∀ upstream ∈ askedOf (history ++ result.asked.map .asked),
      ∃ chunk, upstream = .chunk chunk := by
    rw [askedOf_asked]
    exact fun upstream hmem => (List.mem_append.mp hmem).elim (h.chunks upstream) (hchunks upstream)
  obtain ⟨asked, hasked, hpolled⟩ := hcall
  have hserves := hasked hserving
  rcases hserves.answered with hout | ⟨more, hqueue, hanswer⟩
  · refine .inl ?_
    rcases hpolled with ⟨frame, rest, -, -, hstream⟩ | ⟨-, -, hstream⟩
    · rw [hstream]
      exact hout
    · rw [hstream]
      exact hout
  refine .inr (.inr ⟨hintact.toUntroubled, ⟨hchunks', hintact.decodable⟩, ?_⟩)
  -- As long as the response is open, no frame ends it.
  have hopen : asked.state.responsesTerminalSent = true ∨
      NoEnd history ∧ ∀ frame ∈ asked.outputQueue, frame.isTerminal = false := by
    by_cases hsent : asked.state.responsesTerminalSent = true
    · exact .inl hsent
    · rcases h.unended with hbefore | ⟨hnoend, hnone⟩
      · exact .inl (hserves.sent hbefore)
      · refine .inr ⟨hnoend, fun frame hmem => ?_⟩
        rw [hqueue] at hmem
        rcases List.mem_append.mp hmem with hmem | hmem
        · exact hnone frame hmem
        · exact Bool.eq_false_iff.mpr fun hterminal => hsent (hanswer.terminal ⟨frame, hmem, hterminal⟩)
  rcases hanswer.response with hsame | ⟨hstill, hsent, response, hkept, frame, hframe, -⟩
  · -- No response is kept.
    have hnone : asked.state.responsesTerminalResponse = none := hsame.trans h.nothingKept
    refine .inl ⟨by rwa [bytesAsked_returned], by rwa [askedOf_returned], ?_, ?_⟩
    · rcases hpolled with ⟨frame, rest, -, -, hstream⟩ | ⟨-, -, hstream⟩
      · rw [hstream]
        exact hnone
      · rw [hstream]
        exact hnone
    · rcases hpolled with ⟨frame, rest, hqueue', hframe, hstream⟩ | ⟨hqueue', hnoframe, hstream⟩
      · rw [hstream, hframe]
        refine hopen.imp_right fun ⟨hnoend, hterminal⟩ => ?_
        rw [hqueue'] at hterminal
        refine ⟨((noEnd_asked _).mpr hnoend).returned fun frame' h => ?_,
          fun frame' h => hterminal frame' (List.mem_cons_of_mem _ h)⟩
        rw [← Polled.frame.inj h]
        exact hterminal frame List.mem_cons_self
      · rw [hstream]
        exact hopen.imp_right fun ⟨hnoend, hterminal⟩ =>
          ⟨((noEnd_asked _).mpr hnoend).returned fun frame h => absurd h (hnoframe frame), hterminal⟩
  · -- A response that is new is in a frame that waits, so that a frame is returned.
    refine .inr ⟨?_, ?_⟩
    · rcases h.unended with hbefore | ⟨hnoend, -⟩
      · rw [hbefore] at hstill
        cases hstill
      · exact (noEnd_asked _).mpr hnoend
    · rcases hpolled with ⟨first, rest, -, hfirst, hstream⟩ | ⟨hqueue', -, -⟩
      · exact ⟨first, response, hfirst, by rw [hstream]; exact hkept⟩
      · rw [hqueue'] at hqueue
        rw [(List.append_eq_nil_iff.mp hqueue.symm).2] at hframe
        cases hframe

omit hserde in
/-- A call of the translating stream returns a frame of the response, and leaves such frames. -/
theorem frames_call {st : SseStream} (hserving : Serving localId st)
    (hwaits : ∀ frame ∈ st.outputQueue, frame.BelongsTo localId)
    (answers : List (Option Upstream)) :
    let result := st.pollNext (.translating upstreamFormat) surroundings answers
    Serving localId result.stream ∧
      (∀ frame ∈ result.stream.outputQueue, frame.BelongsTo localId) ∧
      ∀ frame, result.polled = .frame frame → frame.BelongsTo localId := by
  obtain ⟨asked, hasked, hpolled⟩ :=
    (goesWith_serves hformat surroundings localId).pollNext answers st
  have hserves := hasked hserving
  have hframes : ∀ frame ∈ asked.outputQueue, frame.BelongsTo localId := fun frame hmem =>
    (hserves.frames frame hmem).elim (hwaits frame) id
  have hafter := hserving.after hserves
  dsimp only
  generalize st.pollNext (.translating upstreamFormat) surroundings answers = result at hpolled ⊢
  rcases hpolled with ⟨frame, rest, hqueue, hframe, hstream⟩ | ⟨-, hnoframe, hstream⟩
  · rw [hqueue] at hframes
    rw [hstream, hframe]
    exact ⟨⟨hafter.client, hafter.override⟩, fun _ h => hframes _ (List.mem_cons_of_mem _ h),
      fun _ h => Polled.frame.inj h ▸ hframes _ List.mem_cons_self⟩
  · rw [hstream]
    exact ⟨hafter, hframes, fun frame h => absurd h (hnoframe frame)⟩

omit hserde hformat in
/-- A commit that has been started comes to its end, or waits. -/
theorem pollCommit_capturing {st : ConversationStateBridgeCaptureStream} {commit : BridgeCommit}
    {frame : SseFrame} (hserving : Serving localId st.inner)
    (hwaits : ∀ frame ∈ st.inner.outputQueue, frame.BelongsTo localId)
    (hsafe : SafelyCaptured serde localId history) (hcandidate : st.candidate = none)
    (hlocal : commit.candidate.localResponseId = some localId)
    (hheld : st.pendingAfterCommit = some frame) (hframe : frame.BelongsTo localId)
    (hend : NoEnd history)
    (hstart : ∀ inner commit', .started inner commit' ∈ history → commit' = commit)
    (moment : Option StoreMoment) :
    let polled := st.pollCommit moment commit
    Capturing serde localId (history ++ polled.1 ++ [.returned polled.2.1]) polled.2.2 := by
  unfold ConversationStateBridgeCaptureStream.pollCommit
  cases moment with
  | none =>
    dsimp only
    rw [List.append_nil]
    refine ⟨hserving, hwaits, hsafe.returned (fun _ h => by cases h),
      .committing commit frame hcandidate hlocal rfl hheld hframe
        (hend.returned fun _ h => by cases h) fun inner commit' hmem => ?_⟩
    exact hstart inner commit' (by simpa using hmem)
  | some moment =>
    have hcommitted : ∀ inner commit', .started inner commit' ∈ history ++
        [.committed commit moment] → ∃ moment', .committed commit' moment' ∈ history ++
          [CaptureEvent.committed commit moment] := by
      intro inner commit' hmem
      rw [hstart inner commit' (by simpa using hmem)]
      exact ⟨moment, by simp⟩
    dsimp only
    rw [hheld]
    refine ⟨hserving, hwaits, (hsafe.committed hlocal moment).returned fun frame' h => ?_,
      .finished hcandidate rfl fun inner commit' hmem => ?_⟩
    · rw [← Polled.frame.inj h]
      exact ⟨hframe, fun _ => hcommitted⟩
    · obtain ⟨moment', hmoment⟩ := hcommitted inner commit' (by simpa using hmem)
      exact ⟨moment', List.mem_append_left _ hmoment⟩

omit hserde hformat in
/-- Behind the commit, and where there will be none, the frames are only passed on. -/
theorem finished_capturing {inner : SseStream} {asked : List Upstream} {polled : Polled}
    {st : ConversationStateBridgeCaptureStream} (hsafe : SafelyCaptured serde localId history)
    (hframes : Serving localId inner ∧ (∀ frame ∈ inner.outputQueue, frame.BelongsTo localId) ∧
      ∀ frame, polled = .frame frame → frame.BelongsTo localId)
    (hstart : ∀ inner commit, .started inner commit ∈ history →
      ∃ moment, .committed commit moment ∈ history)
    (hinner : st.inner = inner) (hcandidate : st.candidate = none) (hcommit : st.commit = none) :
    Capturing serde localId (history ++ asked.map .asked ++ [.returned polled]) st := by
  subst hinner
  have hcommitted : ∀ inner commit, .started inner commit ∈ history ++ asked.map .asked →
      ∃ moment, .committed commit moment ∈ history ++ asked.map CaptureEvent.asked := by
    intro inner commit hmem
    obtain ⟨moment, hmoment⟩ := hstart inner commit (by simpa using hmem)
    exact ⟨moment, List.mem_append_left _ hmoment⟩
  refine ⟨hframes.1, hframes.2.1, (hsafe.asked asked).returned fun frame hframe =>
    ⟨hframes.2.2 frame hframe, fun _ => hcommitted⟩, .finished hcandidate hcommit ?_⟩
  intro inner commit hmem
  obtain ⟨moment, hmoment⟩ := hcommitted inner commit (by simpa using hmem)
  exact ⟨moment, List.mem_append_left _ hmoment⟩

omit hserde hformat in
theorem pollNext_done {st : ConversationStateBridgeCaptureStream} {moment : Option StoreMoment}
    {answers : List (Option Upstream)} (hcommit : st.commit = none) (hdone : st.done = true) :
    st.pollNext upstreamFormat surroundings moment answers = ⟨[], .ended, st, answers⟩ := by
  unfold ConversationStateBridgeCaptureStream.pollNext
  rw [hcommit]
  exact if_pos hdone

omit hserde hformat in
theorem done_capturing {st : ConversationStateBridgeCaptureStream}
    (h : Capturing serde localId history st) (hcommit : st.commit = none) :
    Capturing serde localId (history ++ [.returned .ended]) st := by
  refine ⟨h.serving, h.waits, h.safe.returned (fun _ h => by cases h), ?_⟩
  cases h.phase with
  | committing _ _ _ _ hcommit' => rw [hcommit'] at hcommit; cases hcommit
  | finished hcandidate _ hstart =>
    refine .finished hcandidate hcommit fun inner commit hmem => ?_
    obtain ⟨moment, hmoment⟩ := hstart inner commit (by simpa using hmem)
    exact ⟨moment, List.mem_append_left _ hmoment⟩
  | waiting candidate hcandidate hlocal _ hstart hinner =>
    refine .waiting candidate hcandidate hlocal hcommit ((noStart_returned _).mpr hstart)
      (hinner.imp_right fun hinner => ⟨?_, ?_, hinner.nothingKept, ?_⟩)
    · rw [bytesAsked_returned]
      exact hinner.intact
    · rw [askedOf_returned]
      exact hinner.chunks
    · exact hinner.unended.imp_right fun ⟨hnoend, hterminal⟩ =>
        ⟨hnoend.returned (fun _ h => by cases h), hterminal⟩

omit hserde in
/-- A call where there is no candidate: what the translating stream returns is passed on. -/
theorem finished_call {st : ConversationStateBridgeCaptureStream}
    (h : Capturing serde localId history st) (hcommit : st.commit = none)
    (hdone : st.done ≠ true) (hcandidate : st.candidate = none)
    (hstart : ∀ inner commit, .started inner commit ∈ history →
      ∃ moment, .committed commit moment ∈ history)
    (moment : Option StoreMoment) (answers : List (Option Upstream)) :
    let result := st.pollNext upstreamFormat surroundings moment answers
    Capturing serde localId (history ++ result.events ++ [.returned result.polled])
      result.stream := by
  have hframes := @frames_call _ surroundings hformat _ _ h.serving h.waits answers
  unfold ConversationStateBridgeCaptureStream.pollNext
  rw [hcommit]
  dsimp only at hframes ⊢
  rw [if_neg hdone, hcandidate]
  generalize st.inner.pollNext (.translating upstreamFormat) surroundings answers = result
    at hframes ⊢
  cases hpolled : result.polled <;> rw [hpolled] at hframes <;>
    exact finished_capturing h.safe hframes hstart rfl rfl rfl

omit hserde hformat in
/-- A frame of the response is returned before a commit has been started. -/
theorem frame_safe {asked : List Upstream} {frame : SseFrame}
    (hsafe : SafelyCaptured serde localId history) (hstart : NoStart history)
    (hbelongs : frame.BelongsTo localId) :
    SafelyCaptured serde localId
      (history ++ asked.map .asked ++ [.returned (.frame frame)]) := by
  refine (hsafe.asked asked).returned fun frame' hframe => ?_
  rw [← Polled.frame.inj hframe]
  exact ⟨hbelongs, fun _ inner commit hmem => absurd hmem ((noStart_asked asked).mpr hstart _ _)⟩

omit hserde hformat in
/-- The response is taken with the frame that ends it, and its commit is started. -/
theorem started_capturing {inner : SseStream} {asked : List Upstream} {frame : SseFrame}
    {candidate : BridgeCaptureCandidate} {response : Value} {done : Bool}
    (hsafe : SafelyCaptured serde localId history) (hstart : NoStart history)
    (hlocal : candidate.localResponseId = some localId)
    (hframes : Serving localId inner ∧ (∀ frame ∈ inner.outputQueue, frame.BelongsTo localId) ∧
      ∀ frame', Polled.frame frame = .frame frame' → frame'.BelongsTo localId)
    (huntroubled : Untroubled inner) (hread : ReadWell serde (history ++ asked.map .asked))
    (hnoend : NoEnd (history ++ asked.map .asked)) (moment : Option StoreMoment) :
    let polled := ConversationStateBridgeCaptureStream.pollCommit moment ⟨candidate, response⟩
      ⟨inner.forget, none, none, some frame, done⟩
    Capturing serde localId (history ++ (asked.map .asked ++
      .started inner ⟨candidate, response⟩ :: polled.1) ++ [.returned polled.2.1]) polled.2.2 := by
  have hstart' := (noStart_asked asked).mpr hstart
  have hstarted := @SafelyCaptured.snoc _ _ _ (hsafe.asked asked)
    (.started inner ⟨candidate, response⟩) (fun _ _ hevent => by
      rw [← (CaptureEvent.started.inj hevent).1]
      exact ⟨hstart', hnoend, huntroubled, hread⟩)
    (fun _ _ hevent => by cases hevent) (fun _ hevent => by cases hevent)
  have hcapturing := @pollCommit_capturing _ _ _
    ⟨inner.forget, none, none, some frame, done⟩ ⟨candidate, response⟩ _
    ⟨hframes.1.client, hframes.1.override⟩ hframes.2.1 hstarted rfl hlocal rfl
    (hframes.2.2 frame rfl) (by simpa [NoEnd] using hnoend) ?_ moment
  · simpa using hcapturing
  · intro inner commit hmem
    rcases List.mem_append.mp hmem with hmem | hmem
    · exact absurd hmem (hstart' inner commit)
    · exact (CaptureEvent.started.inj (List.mem_singleton.mp hmem)).2

theorem waiting_call {st : ConversationStateBridgeCaptureStream}
    {candidate : BridgeCaptureCandidate} (h : Capturing serde localId history st)
    (hcommit : st.commit = none) (hdone : st.done ≠ true) (hcandidate : st.candidate = some candidate)
    (hlocal : candidate.localResponseId = some localId) (hstart : NoStart history)
    (hinner : st.inner.captureDisqualified = true ∨ Capturable serde history st.inner)
    (moment : Option StoreMoment) (answers : List (Option Upstream)) :
    let result := st.pollNext upstreamFormat surroundings moment answers
    Capturing serde localId (history ++ result.events ++ [.returned result.polled])
      result.stream := by
  have hframes := @frames_call _ surroundings hformat _ _ h.serving h.waits answers
  have hcall := capturable_call hserde hformat h.serving hinner answers
  unfold ConversationStateBridgeCaptureStream.pollNext
  rw [hcommit]
  dsimp only at hframes hcall ⊢
  rw [if_neg hdone, hcandidate]
  generalize st.inner.pollNext (.translating upstreamFormat) surroundings answers = result
    at hframes hcall ⊢
  have hstart' := (noStart_asked result.asked).mpr hstart
  cases hpolled : result.polled with
  | pending =>
    rw [hpolled] at hframes hcall
    refine ⟨hframes.1, hframes.2.1, (h.safe.asked _).returned (fun _ h => by cases h),
      .waiting candidate rfl hlocal rfl ((noStart_returned _).mpr hstart') ?_⟩
    refine hcall.imp_right fun hcall => ?_
    rcases hcall with hstop | ⟨-, -, hcapturable | ⟨-, frame, _, hframe, -⟩⟩
    · cases hstop
    · exact hcapturable
    · cases hframe
  | failed | ended =>
    rw [hpolled] at hframes
    exact finished_capturing h.safe hframes (fun inner commit hmem =>
      absurd hmem (hstart inner commit)) rfl rfl rfl
  | frame frame =>
    rw [hpolled] at hframes hcall
    have hreturned := @frame_safe _ _ _ result.asked _ h.safe hstart (hframes.2.2 frame rfl)
    dsimp only [SseStream.takeTerminalResponse]
    by_cases hout : result.stream.captureDisqualified = true
    · rw [if_pos hout]
      exact ⟨⟨hframes.1.client, hframes.1.override⟩, hframes.2.1, hreturned,
        .waiting candidate rfl hlocal rfl ((noStart_returned _).mpr hstart') (.inl hout)⟩
    · rw [if_neg hout]
      rcases hcall with hcall | hstop | ⟨huntroubled, hread, hcall⟩
      · exact absurd hcall hout
      · cases hstop
      · rcases hcall with hcapturable | ⟨hnoend, _, response, -, hkept⟩
        · rw [hcapturable.nothingKept, forget_of_none hcapturable.nothingKept]
          exact ⟨hframes.1, hframes.2.1, hreturned, .waiting candidate rfl hlocal rfl
            ((noStart_returned _).mpr hstart') (.inr hcapturable)⟩
        · rw [hkept]
          exact started_capturing h.safe hstart hlocal hframes huntroubled hread hnoend moment

/-- **What a call keeps.** -/
theorem pollNext_capturing {st : ConversationStateBridgeCaptureStream}
    (h : Capturing serde localId history st) (moment : Option StoreMoment)
    (answers : List (Option Upstream)) :
    let result := st.pollNext upstreamFormat surroundings moment answers
    Capturing serde localId (history ++ result.events ++ [.returned result.polled])
      result.stream := by
  cases h.phase with
  | committing commit frame hcandidate hlocal hcommit hheld hframe hend hstart =>
    unfold ConversationStateBridgeCaptureStream.pollNext
    rw [hcommit]
    exact pollCommit_capturing h.serving h.waits h.safe hcandidate hlocal hheld hframe hend hstart
      moment
  | waiting candidate hcandidate hlocal hcommit hstart hinner =>
    by_cases hdone : st.done = true
    · rw [pollNext_done hcommit hdone]
      simpa using done_capturing h hcommit
    · exact waiting_call hserde hformat h hcommit hdone hcandidate hlocal hstart hinner moment
        answers
  | finished hcandidate hcommit hstart =>
    by_cases hdone : st.done = true
    · rw [pollNext_done hcommit hdone]
      simpa using done_capturing h hcommit
    · exact finished_call hformat h hcommit hdone hcandidate hstart moment answers

/-- **What all calls keep.** -/
theorem polls_capturing (schedule : List (Option StoreMoment)) : ∀ {history : List CaptureEvent}
    {answers : List (Option Upstream)} {st : ConversationStateBridgeCaptureStream},
    Capturing serde localId history st →
    let polled := st.polls upstreamFormat surroundings schedule answers
    Capturing serde localId (history ++ polled.1) polled.2 := by
  induction schedule with
  | nil => exact fun h => by simpa [ConversationStateBridgeCaptureStream.polls] using h
  | cons moment schedule ih =>
    intro history answers st h
    have hnext := @ih _ (st.pollNext upstreamFormat surroundings moment answers).rest _
      (pollNext_capturing hserde hformat h moment answers)
    simpa [ConversationStateBridgeCaptureStream.polls] using hnext

end Calls

end LlmUniversalProxy.Server
