import LlmUniversalProxy.Lib.Run
import LlmUniversalProxy.Streaming.Stream

/-!
# `Streaming.PollNext` — the calls of `poll_next`

A call of `poll_next` asks the timers and the upstream until there is something to return, or until
there is nothing to be had from them. Here are the calls one by one, what they return, and what is
left for the next one.

What a round of asking does to a stream is made up of what frames and limits do to it, so that a
relation between streams that holds for these holds for the round.

The source is `streaming/stream.rs` 777-819 and 1212-1260.
-/

set_option autoImplicit false

namespace LlmUniversalProxy.Streaming

open Json Lib

/-! ## Rounds -/

/-- A relation that goes with the frames and the limits of a stream, and does not see the buffer. -/
structure GoesWith (kind : StreamKind) (surroundings : Nat → Env)
    (R : SseStream → SseStream → Prop) : Prop where
  refl : ∀ st, R st st
  trans : ∀ {st₁ st₂ st₃}, R st₁ st₂ → R st₂ st₃ → R st₁ st₃
  buffer : ∀ (st : SseStream) (buffer : List UInt8), R st { st with buffer := buffer }
  frame : ∀ (frame : List UInt8) (event : Option Value) (st : SseStream),
    st.closeAfterOutput = false →
      R st (handleFrame kind.handle (surroundings st.eventsSeen) frame event st)
  limit : ∀ (limit : StreamResourceLimit) (st : SseStream), st.closeAfterOutput = false →
    limit ≠ .stateTooLarge → R st (st.rejectStreamResourceLimit (surroundings st.eventsSeen) limit)
  finish : ∀ st, R st (kind.finish st)

namespace GoesWith

variable {kind : StreamKind} {surroundings : Nat → Env} {R : SseStream → SseStream → Prop}

theorem drainLoop (h : GoesWith kind surroundings R) (fuel : Nat) : ∀ (st : SseStream)
    (consumed : Nat), st.closeAfterOutput = false →
      R st (drainLoop kind.handle surroundings fuel st consumed).1 := by
  induction fuel with
  | zero => exact fun st _ _ => h.refl st
  | succ fuel ih =>
    intro st consumed hopen
    simp only [Streaming.drainLoop]
    split
    · exact h.refl st
    · next frame event frameEnd _ =>
      have hframe := h.frame frame event st hopen
      split
      · exact hframe
      · next hclosed => exact h.trans hframe (ih _ _ (by simpa using hclosed))

theorem drainFrames (h : GoesWith kind surroundings R) {st : SseStream}
    (hopen : st.closeAfterOutput = false) : R st (drainFrames kind.handle surroundings st) := by
  unfold Streaming.drainFrames
  exact h.trans (h.drainLoop (st.buffer.length + 1) st 0 hopen) (h.buffer _ _)

theorem pushLoop (h : GoesWith kind surroundings R) (fuel : Nat) : ∀ (chunk : List UInt8)
    (st : SseStream), R st (pushLoop kind.handle surroundings fuel chunk st) := by
  induction fuel with
  | zero => exact fun _ st => h.refl st
  | succ fuel ih =>
    intro chunk st
    simp only [Streaming.pushLoop]
    split
    · exact h.refl st
    · next hmore =>
      have hopen : st.closeAfterOutput = false := by
        rw [Bool.or_eq_true, not_or, Bool.not_eq_true, Bool.not_eq_true] at hmore
        exact hmore.2
      split
      · exact h.limit _ _ hopen (by decide)
      · generalize hslice : chunk.take (st.resourceLimits.maxSseFrameBytes - st.buffer.length) = slice
        have hopen' : ({ st with buffer := st.buffer ++ slice } : SseStream).closeAfterOutput =
            false := hopen
        have hnext := h.trans (h.buffer st (st.buffer ++ slice)) (h.drainFrames hopen')
        generalize Streaming.drainFrames kind.handle surroundings
          { st with buffer := st.buffer ++ slice } = next at hnext ⊢
        refine h.trans (h.trans hnext ?_) (ih _ _)
        split
        · next hfull =>
          simp only [Bool.and_eq_true, Bool.not_eq_true'] at hfull
          exact h.limit _ _ hfull.1 (by decide)
        · exact h.refl next

theorem poll (h : GoesWith kind surroundings R) (upstream : Upstream) {st : SseStream}
    (hopen : st.closeAfterOutput = false) : R st (st.poll kind surroundings upstream) := by
  cases upstream with
  | expired timer => cases timer <;> exact h.limit _ _ hopen (by decide)
  | chunk bytes => exact h.pushLoop _ bytes st
  | failed => exact h.refl st
  | ended => exact h.trans (h.drainFrames hopen) (h.finish _)

end GoesWith

/-! ## Calls -/

/-- What a call of `poll_next` returns. -/
inductive Polled where
  | pending
  | frame (frame : SseFrame)
  | failed
  | ended
  deriving DecidableEq

namespace Polled

/-- The stream has come to its end, or to an error. -/
def isStop : Polled → Bool
  | failed | ended => true
  | pending | frame _ => false

/-- What a caller gets to see: a call that is pending is made again. -/
def isItem (self : Polled) : Bool := self ≠ pending

theorem isItem_of_isStop {polled : Polled} (h : polled.isStop = true) : polled.isItem = true := by
  cases polled with
  | failed => rfl
  | ended => rfl
  | pending => cases h
  | frame frame => rfl

end Polled

/-- A call of `poll_next`: what it returns, the stream behind it, what it has been answered, and
the answers that are still to come. -/
structure PollResult where
  polled : Polled
  stream : SseStream
  asked : List Upstream
  rest : List (Option Upstream)

section Calls

variable (kind : StreamKind) (surroundings : Nat → Env)

/-- `poll_next` (`streaming/stream.rs` 777-819, 1212-1260). The timers and the upstream give the
answers in order; `none` is a `Poll::Pending`, and so is everything behind the last one. -/
def SseStream.pollNext : List (Option Upstream) → SseStream → PollResult
  | answers, st =>
      match st.outputQueue with
      | frame :: rest => ⟨.frame frame, { st with outputQueue := rest }, [], answers⟩
      | [] =>
          if st.closeAfterOutput then ⟨.ended, st, [], answers⟩
          else
            match answers with
            | [] => ⟨.pending, st, [], []⟩
            | none :: answers => ⟨.pending, st, [], answers⟩
            -- the error of the upstream is handed on, and the stream is not closed by it
            | some .failed :: answers => ⟨.failed, st, [.failed], answers⟩
            | some .ended :: answers =>
                let st := st.poll kind surroundings .ended
                match st.outputQueue with
                | frame :: rest => ⟨.frame frame, { st with outputQueue := rest }, [.ended], answers⟩
                | [] => ⟨.ended, st, [.ended], answers⟩
            -- an answer may bring no frame, so the loop asks again
            | some upstream :: answers =>
                let result := pollNext answers (st.poll kind surroundings upstream)
                { result with asked := upstream :: result.asked }

/-- That many calls: what they return, and the stream behind them. -/
def SseStream.polls : Nat → List (Option Upstream) → SseStream → List Polled × SseStream
  | 0, _, st => ([], st)
  | n + 1, answers, st =>
      let result := st.pollNext kind surroundings answers
      let (polled, st) := polls n result.rest result.stream
      (result.polled :: polled, st)

end Calls

/-- A call that returns a frame takes the first one that waits; another call leaves none behind. -/
theorem GoesWith.pollNext {kind : StreamKind} {surroundings : Nat → Env}
    {R : SseStream → SseStream → Prop} (h : GoesWith kind surroundings R)
    (answers : List (Option Upstream)) : ∀ st : SseStream,
    ∃ asked, R st asked ∧
      ((∃ frame rest, asked.outputQueue = frame :: rest ∧
          (st.pollNext kind surroundings answers).polled = .frame frame ∧
          (st.pollNext kind surroundings answers).stream = { asked with outputQueue := rest }) ∨
        asked.outputQueue = [] ∧
          (∀ frame, (st.pollNext kind surroundings answers).polled ≠ .frame frame) ∧
          (st.pollNext kind surroundings answers).stream = asked) := by
  induction answers with
  | nil =>
    intro st
    refine ⟨st, h.refl st, ?_⟩
    unfold SseStream.pollNext
    cases hqueue : st.outputQueue with
    | cons frame rest => exact .inl ⟨frame, rest, rfl, rfl, rfl⟩
    | nil =>
      dsimp only
      split <;> exact .inr ⟨rfl, by simp, rfl⟩
  | cons answer answers ih =>
    intro st
    unfold SseStream.pollNext
    cases hqueue : st.outputQueue with
    | cons frame rest => exact ⟨st, h.refl st, .inl ⟨frame, rest, hqueue, rfl, rfl⟩⟩
    | nil =>
      dsimp only
      split
      · exact ⟨st, h.refl st, .inr ⟨hqueue, by simp, rfl⟩⟩
      · next hclosed =>
        have hopen : st.closeAfterOutput = false := by simpa using hclosed
        -- The answer is polled, and the rest of the call is one from there.
        have hmore : ∀ upstream, R st (st.poll kind surroundings upstream) := fun upstream =>
          h.poll upstream hopen
        cases answer with
        | none => exact ⟨st, h.refl st, .inr ⟨hqueue, by simp, rfl⟩⟩
        | some upstream =>
          cases upstream with
          | failed => exact ⟨st, h.refl st, .inr ⟨hqueue, by simp, rfl⟩⟩
          | ended =>
            refine ⟨_, hmore .ended, ?_⟩
            dsimp only
            cases hqueue' : (st.poll kind surroundings .ended).outputQueue with
            | cons frame rest => exact .inl ⟨frame, rest, rfl, rfl, rfl⟩
            | nil => exact .inr ⟨rfl, by simp, rfl⟩
          | chunk bytes =>
            obtain ⟨asked, hasked, hpolled⟩ := ih (st.poll kind surroundings (.chunk bytes))
            exact ⟨asked, h.trans (hmore _) hasked, hpolled⟩
          | expired timer =>
            obtain ⟨asked, hasked, hpolled⟩ := ih (st.poll kind surroundings (.expired timer))
            exact ⟨asked, h.trans (hmore _) hasked, hpolled⟩

/-- What a reader sees of the calls. -/
def itemsOf (polled : List Polled) : List Polled := polled.filter Polled.isItem

theorem itemsOf_cons (polled : Polled) (rest : List Polled) :
    itemsOf (polled :: rest) = if polled.isItem then polled :: itemsOf rest else itemsOf rest :=
  List.filter_cons

/-- The items up to the end, or up to an error, with it. -/
def throughStop : List Polled → List Polled
  | [] => []
  | polled :: rest => if polled.isStop then [polled] else polled :: throughStop rest

end LlmUniversalProxy.Streaming
