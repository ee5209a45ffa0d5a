import LlmUniversalProxy.Server.CaptureCalls

/-!
# `Server.BridgeCapture` — a captured stream beside the one that is not

A streamed answer that may be continued later is stored when it is complete: with the first frame
that the translating stream yields once it keeps the last response, the response is taken and a
commit is started, and the frame is held back until the commit is through. The commit waits for the
store, and others change the store meanwhile.

`polls_alongside` runs the translating stream beside the capturing one, on the same answers: the
items are the same, and come later at most. They part in two places only. The capturing stream asks
no more behind an error or an end, where the other may have a frame left; and the response that the
other keeps counts against its limit on state, so it may become overfull where this one does not.
-/

set_option autoImplicit false

namespace LlmUniversalProxy.Server

open Json Lib Streaming

/-! ## Beside the translating stream -/

section Beside

variable {upstreamFormat : UpstreamFormat} {surroundings : Nat → Env}

theorem returnedOf_pollNext (moment : Option StoreMoment) (answers : List (Option Upstream))
    (st : ConversationStateBridgeCaptureStream) :
    returnedOf (st.pollNext upstreamFormat surroundings moment answers).events = [] := by
  have hasked : ∀ asked : List Upstream, returnedOf (asked.map .asked) = [] := by
    simp [returnedOf]
  have hcommit : ∀ commit (st : ConversationStateBridgeCaptureStream),
      returnedOf (st.pollCommit moment commit).1 = [] := by
    intro commit st
    unfold ConversationStateBridgeCaptureStream.pollCommit
    cases moment with
    | none => rfl
    | some moment => cases st.pendingAfterCommit <;> rfl
  unfold ConversationStateBridgeCaptureStream.pollNext
  cases st.commit with
  | some commit => exact hcommit commit st
  | none =>
    dsimp only
    split
    · rfl
    · cases (st.inner.pollNext (.translating upstreamFormat) surroundings answers).polled with
      | pending => exact hasked _
      | failed => exact hasked _
      | ended => exact hasked _
      | frame frame =>
        cases st.candidate with
        | none => exact hasked _
        | some candidate =>
          dsimp only
          split
          · exact hasked _
          · dsimp only
            have hstarted : ∀ xs ys, returnedOf (xs ++ ys) = returnedOf xs ++ returnedOf ys :=
              fun _ _ => List.filterMap_append
            rw [hstarted, hasked, List.nil_append]
            exact hcommit _ _

theorem returnedOf_polls (moment : Option StoreMoment) (schedule : List (Option StoreMoment))
    (answers : List (Option Upstream)) (st : ConversationStateBridgeCaptureStream) :
    let result := st.pollNext upstreamFormat surroundings moment answers
    returnedOf (st.polls upstreamFormat surroundings (moment :: schedule) answers).1 =
      result.polled :: returnedOf
        (result.stream.polls upstreamFormat surroundings schedule result.rest).1 := by
  have hevents := @returnedOf_pollNext upstreamFormat surroundings moment answers st
  show List.filterMap _ (_ ++ _) = _
  rw [List.filterMap_append, show List.filterMap _ _ = [] from hevents]
  rfl

/-- What is returned behind a stop. -/
theorem polls_done (schedule : List (Option StoreMoment)) : ∀ (answers : List (Option Upstream))
    {st : ConversationStateBridgeCaptureStream}, st.commit = none → st.done = true →
    returnedOf (st.polls upstreamFormat surroundings schedule answers).1 =
      List.replicate schedule.length .ended := by
  induction schedule with
  | nil => exact fun _ _ _ _ => rfl
  | cons moment schedule ih =>
    intro answers st hcommit hdone
    have hcall : st.pollNext upstreamFormat surroundings moment answers =
        ⟨[], .ended, st, answers⟩ := by
      unfold ConversationStateBridgeCaptureStream.pollNext
      simp only [hcommit, hdone, if_true]
    have hrest := ih answers hcommit hdone
    unfold ConversationStateBridgeCaptureStream.polls
    rw [hcall]
    exact congrArg (Polled.ended :: ·) hrest

theorem pollNext_stop {moment : Option StoreMoment} {answers : List (Option Upstream)}
    {st : ConversationStateBridgeCaptureStream}
    (h : (st.pollNext upstreamFormat surroundings moment answers).polled.isStop = true) :
    (st.pollNext upstreamFormat surroundings moment answers).stream.commit = none ∧
      (st.pollNext upstreamFormat surroundings moment answers).stream.done = true := by
  have hcommit : ∀ commit (st : ConversationStateBridgeCaptureStream),
      (st.pollCommit moment commit).2.1.isStop = true →
        (st.pollCommit moment commit).2.2.commit = none ∧
          (st.pollCommit moment commit).2.2.done = true := by
    intro commit st
    unfold ConversationStateBridgeCaptureStream.pollCommit
    cases moment with
    | none => exact fun h => by cases h
    | some moment =>
      cases st.pendingAfterCommit with
      | none => exact fun _ => ⟨rfl, rfl⟩
      | some frame => exact fun h => by cases h
  revert h
  unfold ConversationStateBridgeCaptureStream.pollNext
  cases hnone : st.commit with
  | some commit => exact hcommit commit st
  | none =>
    dsimp only
    split
    · next hdone => exact fun _ => ⟨hnone, hdone⟩
    · cases (st.inner.pollNext (.translating upstreamFormat) surroundings answers).polled with
      | pending => exact fun h => by cases h
      | failed => exact fun _ => ⟨rfl, rfl⟩
      | ended => exact fun _ => ⟨rfl, rfl⟩
      | frame frame =>
        cases st.candidate with
        | none => exact fun h => by cases h
        | some candidate =>
          dsimp only
          split
          · exact fun h => by cases h
          · exact hcommit _ _

theorem polls_stops (schedule : List (Option StoreMoment)) : ∀ (answers : List (Option Upstream))
    (st : ConversationStateBridgeCaptureStream), ∃ behind,
    let items := itemsOf (returnedOf
      (st.polls upstreamFormat surroundings schedule answers).1)
    items = throughStop items ++ List.replicate behind .ended := by
  induction schedule with
  | nil => exact fun _ _ => ⟨0, rfl⟩
  | cons moment schedule ih =>
    intro answers st
    have hstop := @pollNext_stop upstreamFormat surroundings moment answers st
    rw [returnedOf_polls]
    dsimp only
    generalize st.pollNext upstreamFormat surroundings moment answers = result at hstop ⊢
    cases hpolled : result.polled.isStop with
    | true =>
      obtain ⟨hcommit, hdone⟩ := hstop hpolled
      have hitem : result.polled.isItem = true := Polled.isItem_of_isStop hpolled
      refine ⟨schedule.length, ?_⟩
      rw [polls_done schedule result.rest hcommit hdone, itemsOf_cons, if_pos hitem, throughStop,
        if_pos hpolled, List.singleton_append, itemsOf,
        List.filter_eq_self.mpr fun polled hmem => by rw [List.eq_of_mem_replicate hmem]; rfl]
    | false =>
      obtain ⟨behind, hbehind⟩ := ih result.rest result.stream
      refine ⟨behind, ?_⟩
      rw [itemsOf_cons]
      split
      · rw [throughStop, hpolled, if_neg Bool.false_ne_true, List.cons_append]
        exact congrArg _ hbehind
      · exact hbehind

/-- The two streams, side by side: before the response is taken; when its commit waits, so that the
translating stream is a call behind; and afterwards. -/
inductive Alongside (upstreamFormat : UpstreamFormat) (surroundings : Nat → Env) (localId : String)
    (translating : SseStream) (answers : List (Option Upstream))
    (st : ConversationStateBridgeCaptureStream) : List (Option Upstream) → Prop
  | waiting (hcommit : st.commit = none) (hopen : st.done = false)
      (hcandidate : st.candidate.isSome = true)
      (hinner : TakenFrom localId translating st.inner) :
      Alongside upstreamFormat surroundings localId translating answers st answers
  | committing (commit : BridgeCommit) (frame : SseFrame) (hcommit : st.commit = some commit)
      (hcandidate : st.candidate = none) (hopen : st.done = false)
      (hheld : st.pendingAfterCommit = some frame)
      (hframe : (translating.pollNext (.translating upstreamFormat) surroundings
        answers).polled = .frame frame)
      (hinner : TakenFrom localId (translating.pollNext (.translating upstreamFormat) surroundings
        answers).stream st.inner) :
      Alongside upstreamFormat surroundings localId translating answers st
        (translating.pollNext (.translating upstreamFormat) surroundings answers).rest
  | passing (hcommit : st.commit = none) (hopen : st.done = false) (hcandidate : st.candidate = none)
      (hinner : TakenFrom localId translating st.inner) :
      Alongside upstreamFormat surroundings localId translating answers st answers

/-- A call of the one, and none or one of the other. -/
theorem pollNext_alongside (hformat : upstreamFormat ≠ .openAiResponses) {localId : String}
    {translating : SseStream} {answers rest : List (Option Upstream)}
    {st : ConversationStateBridgeCaptureStream} (hkeeping : Keeping localId translating)
    (h : Alongside upstreamFormat surroundings localId translating answers st rest)
    (moment : Option StoreMoment) :
    let result := translating.pollNext (.translating upstreamFormat) surroundings answers
    let captured := st.pollNext upstreamFormat surroundings moment rest
    (captured.polled = result.polled ∧ (captured.polled.isStop = true ∨
        Alongside upstreamFormat surroundings localId result.stream result.rest captured.stream
          captured.rest)) ∨
      (moment = none ∧ captured.polled = .pending ∧
        Alongside upstreamFormat surroundings localId translating answers captured.stream
          captured.rest) ∨ Overfull result.stream := by
  have hkeeping' := hkeeping.pollNext hformat surroundings answers
  dsimp only
  unfold ConversationStateBridgeCaptureStream.pollNext
  -- where the capture is: with a commit, past it, or before the terminal response
  cases h with
  | committing commit frame hcommit hcandidate hopen hheld hframe hinner =>
    rw [hcommit]
    unfold ConversationStateBridgeCaptureStream.pollCommit
    cases moment with
    | none =>
      exact .inr (.inl ⟨rfl, rfl, .committing commit frame rfl hcandidate hopen hheld hframe hinner⟩)
    | some moment =>
      dsimp only
      rw [hheld]
      exact .inl ⟨hframe.symm, .inr (.passing rfl hopen hcandidate hinner)⟩
  | passing hcommit hopen hcandidate hinner =>
    -- the inner stream goes along with the other, unless it has become too large
    rcases hinner.pollNext hformat surroundings answers with ⟨hpolled, hrest, htaken⟩ | hover
    · simp only [hcommit, hcandidate, hopen, Bool.false_eq_true, if_false]
      generalize st.inner.pollNext (.translating upstreamFormat) surroundings answers = taken
        at hpolled hrest htaken ⊢
      rw [← hpolled, ← hrest]
      refine .inl ?_
      cases taken.polled with
      | frame frame => exact ⟨rfl, .inr (.passing rfl rfl rfl htaken)⟩
      | pending => exact ⟨rfl, .inr (.passing rfl rfl rfl htaken)⟩
      | failed => exact ⟨rfl, .inl rfl⟩
      | ended => exact ⟨rfl, .inl rfl⟩
    · exact .inr (.inr hover)
  | waiting hcommit hopen hcandidate hinner =>
    obtain ⟨candidate, hcandidate⟩ := Option.isSome_iff_exists.mp hcandidate
    rcases hinner.pollNext hformat surroundings answers with ⟨hpolled, hrest, htaken⟩ | hover
    · simp only [hcommit, hcandidate, hopen, Bool.false_eq_true, if_false]
      have hleft := htaken.take hkeeping'
      have hbehind : ∀ frame : SseFrame,
          (translating.pollNext (.translating upstreamFormat) surroundings answers).polled =
            .frame frame → ∀ commit : BridgeCommit,
          Alongside upstreamFormat surroundings localId translating answers
            ⟨(st.inner.pollNext (.translating upstreamFormat) surroundings
              answers).stream.forget, none, some commit, some frame, false⟩
            (st.inner.pollNext (.translating upstreamFormat) surroundings answers).rest := by
        intro frame hframe commit
        rw [hrest]
        exact .committing commit frame rfl rfl rfl rfl hframe hleft
      generalize st.inner.pollNext (.translating upstreamFormat) surroundings answers = taken
        at hpolled hrest htaken hleft hbehind ⊢
      rw [← hpolled] at hbehind
      rw [← hpolled, ← hrest]
      cases hcalled : taken.polled with
      | pending => exact .inl ⟨rfl, .inr (.waiting rfl rfl rfl htaken)⟩
      | failed => exact .inl ⟨rfl, .inl rfl⟩
      | ended => exact .inl ⟨rfl, .inl rfl⟩
      | frame frame =>
        dsimp only [SseStream.takeTerminalResponse]
        generalize (if taken.stream.captureDisqualified = true then none
          else taken.stream.state.responsesTerminalResponse) = kept
        cases kept with
        | none => exact .inl ⟨rfl, .inr (.waiting rfl rfl rfl hleft)⟩
        | some response =>
          unfold ConversationStateBridgeCaptureStream.pollCommit
          cases moment with
          | none => exact .inr (.inl ⟨rfl, rfl, hbehind frame hcalled ⟨candidate, response⟩⟩)
          | some moment => exact .inl ⟨rfl, .inr (.passing rfl rfl rfl hleft)⟩
    · exact .inr (.inr hover)

/-- **The items are the translating stream's**, up to a stop, unless that one becomes overfull. -/
theorem polls_alongside (hformat : upstreamFormat ≠ .openAiResponses) {localId : String}
    (schedule : List (Option StoreMoment)) : ∀ {translating : SseStream}
    {answers rest : List (Option Upstream)} {st : ConversationStateBridgeCaptureStream},
    Keeping localId translating →
    Alongside upstreamFormat surroundings localId translating answers st rest →
    ∃ n ≤ schedule.length, schedule.countP Option.isSome ≤ n ∧
      let translated := translating.polls (.translating upstreamFormat) surroundings n answers
      throughStop (itemsOf (returnedOf (st.polls upstreamFormat surroundings schedule rest).1)) =
        throughStop (itemsOf translated.1) ∨ Overfull translated.2 := by
  induction schedule with
  | nil => exact fun _ _ => ⟨0, Nat.le_refl _, Nat.le_refl _, .inl rfl⟩
  | cons moment schedule ih =>
    intro translating answers rest st hkeeping halong
    have hcall := pollNext_alongside hformat hkeeping halong moment
    have hkeeping' := hkeeping.pollNext hformat surroundings answers
    have hcount : (moment :: schedule).countP Option.isSome ≤ schedule.length + 1 :=
      List.countP_le_length
    rw [returnedOf_polls]
    dsimp only at hcall ⊢
    generalize st.pollNext upstreamFormat surroundings moment rest = captured at hcall ⊢
    rcases hcall with ⟨hpolled, hstop | halong'⟩ | ⟨rfl, hpending, halong'⟩ | hover
    · -- Both streams come to a stop.
      refine ⟨schedule.length + 1, Nat.le_refl _, hcount, .inl ?_⟩
      rw [SseStream.polls]
      dsimp only
      have hitem := Polled.isItem_of_isStop hstop
      rw [hpolled] at hstop hitem
      rw [hpolled, itemsOf_cons, itemsOf_cons, if_pos hitem, if_pos hitem, throughStop, throughStop,
        if_pos hstop, if_pos hstop]
    · obtain ⟨n, hle, hmoments, hitems⟩ := ih hkeeping' halong'
      refine ⟨n + 1, Nat.succ_le_succ hle, ?_, ?_⟩
      · rw [List.countP_cons]
        split <;> omega
      · rw [SseStream.polls]
        dsimp only at hitems ⊢
        refine hitems.imp_left fun hitems => ?_
        rw [hpolled, itemsOf_cons, itemsOf_cons]
        split
        · rw [throughStop, throughStop, hitems]
        · exact hitems
    · -- The commit waits.
      obtain ⟨n, hle, hmoments, hitems⟩ := ih hkeeping halong'
      refine ⟨n, Nat.le_succ_of_le hle, by simpa using hmoments, ?_⟩
      rw [hpending]
      exact hitems
    · exact ⟨schedule.length + 1, Nat.le_refl _, hcount, .inr (hover.polls schedule.length)⟩

end Beside

/-! ## The capture of a turn -/

/-- A turn that is streamed and captured is a Responses client's, goes to another format, and has an
id of its own. -/
theorem prepare_streamed {turn : BridgeTurn} {preloaded : Option StoredBridgeResponse}
    {preparation : BridgePreparation} {body : Value} {candidate : BridgeCaptureCandidate}
    (hstream : turn.stream = true) (h : turn.prepare preloaded = .ok (preparation, body))
    (hcandidate : preparation.captureCandidate = some candidate) :
    turn.clientFormat = .openAiResponses ∧ turn.upstreamFormat ≠ .openAiResponses ∧
      candidate.localResponseId = some (mintResponseId turn.uuid) := by
  have hlocal : ∀ items debugTrace, (turn.candidate items debugTrace).captureCandidate =
      some candidate → candidate.localResponseId = some (mintResponseId turn.uuid) := by
    intro items debugTrace h
    unfold BridgeTurn.candidate at h
    rw [if_pos hstream] at h
    split at h
    · cases h
    · cases h
      rfl
  unfold BridgeTurn.prepare at h
  simp only at h
  split at h
  · cases h
    cases hcandidate
  · next hformats =>
    rw [not_or, not_not] at hformats
    refine ⟨hformats.1, hformats.2, ?_⟩
    split at h
    · cases h
    split at h
    · cases h
    cases preloaded with
    | some previous =>
      obtain ⟨current, -, h⟩ := Result.bind_ok.mp h
      obtain ⟨_, -, h⟩ := Result.bind_ok.mp h
      obtain ⟨expanded, -, h⟩ := Result.bind_ok.mp h
      cases h
      exact hlocal _ _ hcandidate
    | none =>
      simp only at h
      split at h
      · cases h
        cases hcandidate
      split at h
      · split at h
        · cases h
          cases hcandidate
        · cases h
          exact hlocal _ _ hcandidate
      · cases h
        cases hcandidate

def translatingStream (turn : BridgeTurn) (limits : ResourceLimits) (bridgeContext : Option Value)
    (candidate : BridgeCaptureCandidate) : SseStream :=
  .fresh turn.clientFormat limits {
    requestScopedToolBridgeContext := bridgeContext
    responsesResponseIdOverride := candidate.localResponseId }

/-- **A stream that is captured** yields what the translating stream yields, up to the end or an
error of the upstream, and afterwards nothing but the end; it commits at most once, when nothing has
gone wrong and before it yields the end of the response; and what it stores is under the id that its
events name. The translating stream by itself keeps the response, and may be overfull for that. -/
theorem capture_safe {turn : BridgeTurn} {preloaded : Option StoredBridgeResponse}
    {preparation : BridgePreparation} {body : Value} {candidate : BridgeCaptureCandidate}
    (hstream : turn.stream = true) (hprepare : turn.prepare preloaded = .ok (preparation, body))
    (hcandidate : preparation.captureCandidate = some candidate) (limits : ResourceLimits)
    (bridgeContext : Option Value) {serde : Serde} {surroundings : Nat → Env}
    (hserde : ∀ n, (surroundings n).serde = serde) (schedule : List (Option StoreMoment))
    (answers : List (Option Upstream)) :
    let translating := translatingStream turn limits bridgeContext candidate
    let history := ((ConversationStateBridgeCaptureStream.new translating candidate).polls
      turn.upstreamFormat surroundings schedule answers).1
    let items := itemsOf (returnedOf history)
    (∃ localId, candidate.localResponseId = some localId ∧ SafelyCaptured serde localId history) ∧
    (∃ behind, items = throughStop items ++ List.replicate behind .ended) ∧
    ∃ n ≤ schedule.length, schedule.countP Option.isSome ≤ n ∧
      let translated := translating.polls (.translating turn.upstreamFormat) surroundings n answers
      throughStop items = throughStop (itemsOf translated.1) ∨ Overfull translated.2 := by
  obtain ⟨hclient, hformat, hlocal⟩ := prepare_streamed hstream hprepare hcandidate
  have hserving : Serving (mintResponseId turn.uuid)
      (translatingStream turn limits bridgeContext candidate) := ⟨hclient, hlocal⟩
  have hintact : Intact serde [] (translatingStream turn limits bridgeContext candidate) :=
    ⟨⟨rfl, rfl⟩, rfl, by simp [framesOf, Framing.cutAll, Framing.cut]⟩
  have hcapturing : Capturing serde (mintResponseId turn.uuid) []
      (.new (translatingStream turn limits bridgeContext candidate) candidate) :=
    ⟨hserving, by simp [ConversationStateBridgeCaptureStream.new, translatingStream,
      SseStream.fresh], .nil, .waiting candidate rfl hlocal rfl (by simp [NoStart])
        (.inr ⟨hintact, by simp [askedOf], rfl, .inr ⟨by simp [NoEnd], by
          simp [ConversationStateBridgeCaptureStream.new, translatingStream, SseStream.fresh]⟩⟩)⟩
  have hkeeping : Keeping (mintResponseId turn.uuid)
      (translatingStream turn limits bridgeContext candidate) := ⟨hserving, fun h => by cases h⟩
  refine ⟨⟨_, hlocal, ?_⟩, polls_stops schedule answers _,
    polls_alongside hformat schedule hkeeping (.waiting rfl rfl rfl (.inl rfl))⟩
  have hall := (@polls_capturing _ _ _ hserde hformat _ schedule _ answers _ hcapturing).safe
  rwa [List.nil_append] at hall

/-- A first turn that says "hi", and is to be streamed. -/
def streamedTurn : BridgeTurn := { sampleTurn with stream := true }

def streamedCandidate : BridgeCaptureCandidate :=
  { sampleCandidate with localResponseId := some "resp_llmup_1" }

def streamedLimits : ResourceLimits := ⟨4096, 64, 65536⟩

def streamedCapture : ConversationStateBridgeCaptureStream :=
  .new (translatingStream streamedTurn streamedLimits none streamedCandidate) streamedCandidate

def streamedMoment : StoreMoment := ⟨.empty, 0, "2"⟩

/-- The upstream says that the answer is complete; the commit waits for the store. -/
theorem capture_safe_streamed :
    let answers := [some (Upstream.chunk (bytesOf "data: [DONE]\n\n")), some .ended]
    let history := (streamedCapture.polls .openAiChatCompletions (fun _ => .still)
      [none, some streamedMoment, none] answers).1
    (∃ localId, streamedCandidate.localResponseId = some localId ∧
      SafelyCaptured Env.still.serde localId history) ∧
    (∃ behind, itemsOf (returnedOf history) =
      throughStop (itemsOf (returnedOf history)) ++ List.replicate behind .ended) ∧
    ∃ n ≤ 3, 1 ≤ n ∧
      let translated := (translatingStream streamedTurn streamedLimits none streamedCandidate).polls
        (.translating .openAiChatCompletions) (fun _ => .still) n answers
      throughStop (itemsOf (returnedOf history)) = throughStop (itemsOf translated.1) ∨
        Overfull translated.2 :=
  @capture_safe streamedTurn none ⟨some streamedCandidate, some (.captureCandidate 1 4096)⟩
    (.ofFields [("input", .string "hi")]) streamedCandidate rfl (by decide +kernel) rfl
    streamedLimits none _ _ (fun _ => rfl) _ _

/-- An error of the upstream, and nothing more for a while. -/
def failedAndIdle : List (Option Upstream) := [some .failed, some (.expired .idle)]

/-- The end of the answer, and a block of thinking behind it. -/
def thinkingBehindTheEnd : List (Option Upstream) :=
  [some (.chunk (bytesOf "data: \x7b\"type\":\"message_stop\"\x7d\n\n")),
    some (.chunk (bytesOf ("data: \x7b\"type\":\"content_block_start\",\"index\":0," ++
      "\"content_block\":\x7b\"type\":\"thinking\",\"thinking\":\"\",\"signature\":\"abcd\"\x7d\x7d\n\n")))]

/-- The stream of an Anthropic turn, whose state has room for the response and for little more. -/
def tightStream : SseStream :=
  translatingStream { streamedTurn with upstreamFormat := .anthropic } ⟨4096, 64, 167⟩ none
    streamedCandidate

/-- Behind an error of the upstream the translating stream still has something to say, and so it has
when the response that it keeps makes its state too large. -/
theorem capture_yields_less :
    itemsOf (returnedOf (streamedCapture.polls .openAiChatCompletions (fun _ => .still)
          (List.replicate 2 (some streamedMoment)) failedAndIdle).1) ≠
        itemsOf ((translatingStream streamedTurn streamedLimits none streamedCandidate).polls
          (.translating .openAiChatCompletions) (fun _ => .still) 2 failedAndIdle).1 ∧
      itemsOf (returnedOf ((ConversationStateBridgeCaptureStream.new tightStream
          streamedCandidate).polls .anthropic (fun _ => .still)
          (List.replicate 5 (some streamedMoment)) thinkingBehindTheEnd).1) ≠
        itemsOf (tightStream.polls (.translating .anthropic) (fun _ => .still) 5
          thinkingBehindTheEnd).1 := by
  refine ⟨by decide +kernel, by decide +kernel⟩

end LlmUniversalProxy.Server
