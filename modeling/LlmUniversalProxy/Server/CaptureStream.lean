import LlmUniversalProxy.Server.BridgeReplay
import LlmUniversalProxy.Streaming.Taken

/-!
# `Server.CaptureStream` — the stream that captures a conversation, and its history

`ConversationStateBridgeCaptureStream` (`proxy.rs` 255-380) wraps the translating stream of a turn.
Its `poll_next` is modelled with all that it waits for made explicit: the answers of the upstream
and the timers, and the moment at which the store lets the commit have its turn. A commit that has
been started is polled by later calls, so one run is a list of calls, and a history is what has
happened in them.

`SafelyCaptured` is about the history alone: a commit is started once at most, and on a stream that
has met no limit; a frame that ends the response waits for it; and what it leaves in the store is
under the id that the client is told.
-/

set_option autoImplicit false

namespace LlmUniversalProxy.Server

open Json Lib Streaming

/-! ## The stream -/

/-- A `BridgeCommitFuture`, by the arguments of `commit_conversation_state_bridge_capture`. -/
structure BridgeCommit where
  candidate : BridgeCaptureCandidate
  response : Value

/-- The store when it is a commit's turn, the clock, and what a fresh id would be drawn from. -/
structure StoreMoment where
  store : StoreInner
  now : Nat
  uuid : String

/-- What a commit gives back, and leaves in the store. -/
def BridgeCommit.run (serde : Serde) (moment : StoreMoment) (commit : BridgeCommit) :
    Except String (Option String) × Value × StoreInner :=
  commitConversationStateBridgeCapture serde moment.store moment.now moment.uuid commit.candidate
    commit.response

/-- `ConversationStateBridgeCaptureStream`. -/
structure ConversationStateBridgeCaptureStream where
  inner : SseStream
  candidate : Option BridgeCaptureCandidate
  commit : Option BridgeCommit := none
  pendingAfterCommit : Option SseFrame := none
  done : Bool := false

/-- What happens in the calls of `poll_next`: the upstream and the timers are asked, a commit is
started with the response of the translating stream, it comes to its end, and a call returns. -/
inductive CaptureEvent where
  | asked (upstream : Upstream)
  | started (inner : SseStream) (commit : BridgeCommit)
  | committed (commit : BridgeCommit) (moment : StoreMoment)
  | returned (polled : Polled)

/-- A call of `poll_next`: what happens in it, what it returns, the stream behind it, and the
answers that are still to come. -/
structure CaptureResult where
  events : List CaptureEvent
  polled : Polled
  stream : ConversationStateBridgeCaptureStream
  rest : List (Option Upstream)

namespace ConversationStateBridgeCaptureStream

/-- `ConversationStateBridgeCaptureStream::new`. -/
def new (inner : SseStream) (candidate : BridgeCaptureCandidate) :
    ConversationStateBridgeCaptureStream := { inner := inner, candidate := some candidate }

/-- The commit is polled: it waits for the store, or it is its turn. With it comes what is returned,
and the stream behind it. -/
def pollCommit (moment : Option StoreMoment) (commit : BridgeCommit)
    (st : ConversationStateBridgeCaptureStream) :
    List CaptureEvent × Polled × ConversationStateBridgeCaptureStream :=
  match moment with
  | none => ([], .pending, { st with commit := some commit })
  | some moment =>
      match st.pendingAfterCommit with
      | none => ([.committed commit moment], .ended, { st with commit := none, done := true })
      | some frame =>
          ([.committed commit moment], .frame frame,
            { st with commit := none, pendingAfterCommit := none })

section Poll

variable (upstreamFormat : UpstreamFormat) (surroundings : Nat → Env)

/-- `poll_next` (`server/proxy.rs` 288-351). A call polls a commit once at most; without a `moment`
it is pending. -/
def pollNext (moment : Option StoreMoment) (answers : List (Option Upstream))
    (st : ConversationStateBridgeCaptureStream) : CaptureResult :=
  match st.commit with
  | some commit =>
      let (events, polled, st) := st.pollCommit moment commit
      ⟨events, polled, st, answers⟩
  | none =>
      -- `done` is only asked when no commit is running: the frame it holds back goes out first
      if st.done then ⟨[], .ended, st, answers⟩
      else
        let result := st.inner.pollNext (.translating upstreamFormat) surroundings answers
        let asked := result.asked.map .asked
        match result.polled with
        | .frame frame =>
            match st.candidate with
            | none => ⟨asked, .frame frame, { st with inner := result.stream }, result.rest⟩
            | some candidate =>
                match result.stream.takeTerminalResponse with
                | (none, inner) => ⟨asked, .frame frame, { st with inner := inner }, result.rest⟩
                -- the terminal frame is held back until the commit is done
                | (some response, inner) =>
                    let commit : BridgeCommit := ⟨candidate, response⟩
                    let (events, polled, st) := pollCommit moment commit { st with
                      inner := inner
                      candidate := none
                      pendingAfterCommit := some frame }
                    ⟨asked ++ .started result.stream commit :: events, polled, st, result.rest⟩
        | .pending => ⟨asked, .pending, { st with inner := result.stream }, result.rest⟩
        -- without a terminal response nothing is stored, and the candidate is dropped
        | .failed | .ended =>
            ⟨asked, result.polled,
              { st with inner := result.stream, candidate := none, done := true }, result.rest⟩

/-- A call for every entry of the schedule: what happens in them, and the stream behind them. -/
def polls : List (Option StoreMoment) → List (Option Upstream) →
    ConversationStateBridgeCaptureStream →
      List CaptureEvent × ConversationStateBridgeCaptureStream
  | [], _, st => ([], st)
  | moment :: schedule, answers, st =>
      let result := st.pollNext upstreamFormat surroundings moment answers
      let (events, last) := polls schedule result.rest result.stream
      (result.events ++ .returned result.polled :: events, last)

end Poll

end ConversationStateBridgeCaptureStream

/-! ## What has happened -/

/-- What the upstream and the timers have answered. -/
def askedOf (history : List CaptureEvent) : List Upstream :=
  history.filterMap fun
    | .asked upstream => some upstream
    | _ => none

/-- The bytes that have come. -/
def bytesAsked (history : List CaptureEvent) : List UInt8 :=
  chunkBytes ((askedOf history).map .inl)

/-- What the calls have returned. -/
def returnedOf (history : List CaptureEvent) : List Polled :=
  history.filterMap fun
    | .returned polled => some polled
    | _ => none

def CaptureEvent.isStarted : CaptureEvent → Bool
  | .started .. => true
  | _ => false

/-- The upstream has neither failed nor been too slow, and there was no frame that could not be
read. -/
structure ReadWell (serde : Serde) (history : List CaptureEvent) : Prop where
  chunks : ∀ upstream ∈ askedOf history, ∃ chunk, upstream = .chunk chunk
  decodable : ∀ frame ∈ framesOf (bytesAsked history), Decodable serde frame

/-- What the capture of a stream promises about what has happened. -/
structure SafelyCaptured (serde : Serde) (localId : String) (history : List CaptureEvent) :
    Prop where
  /-- A commit is started at most once. -/
  once : history.countP CaptureEvent.isStarted ≤ 1
  /-- When it is started, the stream has rejected nothing and met no limit, and has read well. -/
  untroubled : ∀ before inner commit after, history = before ++ .started inner commit :: after →
    Untroubled inner ∧ ReadWell serde before
  /-- A commit has come to its end before a frame that ends the response is returned. -/
  finished : ∀ before frame after, history = before ++ .returned (.frame frame) :: after →
    frame.isTerminal = true → ∀ inner commit, .started inner commit ∈ history →
      ∃ moment, .committed commit moment ∈ before
  /-- What a commit leaves in the store was there before, or is under the id of the response. -/
  stored : ∀ commit moment, .committed commit moment ∈ history → ∀ id entry,
    (commit.run serde moment).2.2.responses.lookup id = some entry →
      moment.store.responses.lookup id = some entry ∨ id = localId
  /-- All events that are returned name this id. -/
  named : ∀ frame, .returned (.frame frame) ∈ history → frame.BelongsTo localId

def NoStart (history : List CaptureEvent) : Prop :=
  ∀ inner commit, .started inner commit ∉ history

/-- Nothing that has been returned ends the response. -/
def NoEnd (history : List CaptureEvent) : Prop :=
  ∀ frame, .returned (.frame frame) ∈ history → frame.isTerminal = false

/-- The last event, and those before. -/
theorem snoc_eq_split {α : Type} {xs before after : List α} {x y : α}
    (h : xs ++ [y] = before ++ x :: after) :
    (before = xs ∧ x = y) ∨ ∃ rest, after = rest ++ [y] ∧ xs = before ++ x :: rest := by
  rcases List.eq_nil_or_concat after with rfl | ⟨rest, last, rfl⟩
  · obtain ⟨hxs, hy⟩ := List.append_inj' h rfl
    exact .inl ⟨hxs.symm, (List.singleton_inj.mp hy).symm⟩
  · rw [List.concat_eq_append, ← List.cons_append, ← List.append_assoc] at h
    obtain ⟨hxs, hy⟩ := List.append_inj' h rfl
    exact .inr ⟨rest, by rw [List.concat_eq_append, List.singleton_inj.mp hy], hxs⟩

/-- A commit of a streamed answer stores it under the id that was minted for it. -/
theorem lookup_commit_local {serde : Serde} {moment : StoreMoment} {commit : BridgeCommit}
    {localId id : String} {entry : StoredBridgeResponse}
    (hlocal : commit.candidate.localResponseId = some localId)
    (h : (commit.run serde moment).2.2.responses.lookup id = some entry) :
    moment.store.responses.lookup id = some entry ∨ id = localId := by
  unfold BridgeCommit.run commitConversationStateBridgeCapture at h
  split at h
  · exact .inl h
  split at h
  · exact .inl h
  split at h
  · exact .inl h
  · next items _ _ =>
    have hput : (putCapture moment.store moment.now moment.uuid commit.candidate
        items).2.responses.lookup id = some entry := by
      split at h
      · next hres => rw [hres]; exact h
      · next hres => rw [hres]; exact h
    unfold putCapture at hput
    rw [hlocal] at hput
    refine (lookup_putWithId hput).imp_right fun ⟨hid, _⟩ => ?_
    rcases moment.store.putWithId_cases moment.now localId
      (captureEntry moment.now commit.candidate items) commit.candidate.ttlSeconds
      commit.candidate.maxBytes with ⟨message, hres⟩ | ⟨message, hres⟩ | ⟨-, -, hres⟩
    · rw [hres] at hid
      cases hid
    · rw [hres] at hid
      cases hid
    · rw [hres] at hid
      exact (Except.ok.inj hid).symm

namespace SafelyCaptured

variable {serde : Serde} {localId : String} {history : List CaptureEvent}

theorem nil : SafelyCaptured serde localId [] where
  once := Nat.zero_le _
  untroubled := by simp
  finished := by simp
  stored := by simp
  named := by simp

/-- One event more. -/
theorem snoc (h : SafelyCaptured serde localId history) {event : CaptureEvent}
    (hstarted : ∀ inner commit, event = .started inner commit →
      NoStart history ∧ NoEnd history ∧ Untroubled inner ∧ ReadWell serde history)
    (hcommitted : ∀ commit moment, event = .committed commit moment →
      commit.candidate.localResponseId = some localId)
    (hframe : ∀ frame, event = .returned (.frame frame) → frame.BelongsTo localId ∧
      (frame.isTerminal = true → ∀ inner commit, .started inner commit ∈ history →
        ∃ moment, .committed commit moment ∈ history)) :
    SafelyCaptured serde localId (history ++ [event]) where
  once := by
    rw [List.countP_append, List.countP_singleton]
    split
    -- a start counts once: there was none before it
    · next hevent =>
      cases event with
      | started inner commit =>
        have hnone : history.countP CaptureEvent.isStarted = 0 := by
          rw [List.countP_eq_zero]
          intro other hother hstart
          cases other with
          | started inner' commit' => exact (hstarted inner commit rfl).1 inner' commit' hother
          | _ => cases hstart
        omega
      | _ => cases hevent
    · exact h.once
  untroubled := by
    intro before inner commit after hsplit
    rcases snoc_eq_split hsplit with ⟨rfl, hevent⟩ | ⟨rest, -, hhistory⟩
    · exact (hstarted inner commit hevent.symm).2.2
    · exact h.untroubled before inner commit rest hhistory
  finished := by
    intro before frame after hsplit hterminal inner commit hmem
    rcases snoc_eq_split hsplit with ⟨rfl, hevent⟩ | ⟨rest, -, hhistory⟩
    · refine (hframe frame hevent.symm).2 hterminal inner commit ?_
      refine (List.mem_append.mp hmem).resolve_right fun hlast => ?_
      rw [← hevent] at hlast
      cases List.mem_singleton.mp hlast
    · rcases List.mem_append.mp hmem with hmem | hlast
      · exact h.finished before frame rest hhistory hterminal inner commit hmem
      · -- A commit that is started now comes before any end.
        have hopen := (hstarted inner commit (List.mem_singleton.mp hlast).symm).2.1 frame
          (hhistory ▸ by simp)
        rw [hopen] at hterminal
        cases hterminal
  stored := by
    intro commit moment hmem id entry hentry
    rcases List.mem_append.mp hmem with hmem | hlast
    · exact h.stored commit moment hmem id entry hentry
    · exact lookup_commit_local (hcommitted commit moment (List.mem_singleton.mp hlast).symm) hentry
  named := by
    intro frame hmem
    rcases List.mem_append.mp hmem with hmem | hlast
    · exact h.named frame hmem
    · exact (hframe frame (List.mem_singleton.mp hlast).symm).1

/-- Asking starts nothing. -/
theorem asked (h : SafelyCaptured serde localId history) (asked : List Upstream) :
    SafelyCaptured serde localId (history ++ asked.map .asked) := by
  induction asked generalizing history with
  | nil => rwa [List.map_nil, List.append_nil]
  | cons upstream asked ih =>
    rw [List.map_cons, ← List.singleton_append, ← List.append_assoc]
    exact ih (h.snoc (fun _ _ h => by cases h) (fun _ _ h => by cases h) fun _ h => by cases h)

theorem returned (h : SafelyCaptured serde localId history) {polled : Polled}
    (hframe : ∀ frame, polled = .frame frame → frame.BelongsTo localId ∧
      (frame.isTerminal = true → ∀ inner commit, .started inner commit ∈ history →
        ∃ moment, .committed commit moment ∈ history)) :
    SafelyCaptured serde localId (history ++ [.returned polled]) :=
  h.snoc (fun _ _ h => by cases h) (fun _ _ h => by cases h) fun frame h =>
    hframe frame (CaptureEvent.returned.inj h)

theorem committed (h : SafelyCaptured serde localId history) {commit : BridgeCommit}
    (hlocal : commit.candidate.localResponseId = some localId) (moment : StoreMoment) :
    SafelyCaptured serde localId (history ++ [.committed commit moment]) :=
  h.snoc (fun _ _ h => by cases h) (fun _ _ h => (CaptureEvent.committed.inj h).1 ▸ hlocal)
    fun _ h => by cases h

end SafelyCaptured

section History

variable {history : List CaptureEvent} (asked : List Upstream) (polled : Polled)

@[simp] theorem noStart_asked : NoStart (history ++ asked.map .asked) ↔ NoStart history := by
  simp [NoStart]

@[simp] theorem noStart_returned : NoStart (history ++ [.returned polled]) ↔ NoStart history := by
  simp [NoStart]

@[simp] theorem noEnd_asked : NoEnd (history ++ asked.map .asked) ↔ NoEnd history := by
  simp [NoEnd]

theorem NoEnd.returned {polled : Polled} (h : NoEnd history)
    (hframe : ∀ frame, polled = .frame frame → frame.isTerminal = false) :
    NoEnd (history ++ [.returned polled]) := by
  intro frame hmem
  rcases List.mem_append.mp hmem with hmem | hlast
  · exact h frame hmem
  · exact hframe frame (CaptureEvent.returned.inj (List.mem_singleton.mp hlast)).symm

@[simp] theorem askedOf_asked : askedOf (history ++ asked.map .asked) = askedOf history ++ asked := by
  simp [askedOf, List.filterMap_append, List.filterMap_map]

@[simp] theorem askedOf_returned : askedOf (history ++ [.returned polled]) = askedOf history := by
  simp [askedOf, List.filterMap_append]

@[simp] theorem bytesAsked_asked : bytesAsked (history ++ asked.map .asked) =
    bytesAsked history ++ chunkBytes (asked.map .inl) := by
  simp [bytesAsked, chunkBytes]

@[simp] theorem bytesAsked_returned :
    bytesAsked (history ++ [.returned polled]) = bytesAsked history := by
  simp [bytesAsked]

end History

end LlmUniversalProxy.Server
