import LlmUniversalProxy.Server.Telemetry

/-!
# `Server.TrackedBody` — a streamed body and its tracker

The tracker of a streamed request goes with the body. The body is polled until it ends, fails or is
cancelled, and may be polled on behind that; at last it is dropped, which can happen at any time.
Whatever happens, the tracker is finished once, and by what happened first.

The source is `server/tracked_body.rs` 9-120.
-/

set_option autoImplicit false

namespace LlmUniversalProxy.Server

/-- What a poll of a body comes upon, or its drop. The inner stream is only polled when the
downstream has not been cancelled. -/
inductive BodyEvent where
  | cancelled
  | item
  | failed
  | ended
  | pending
  | dropped
  deriving DecidableEq, Repr

/-- `TrackedBodyStream`: its tracker, as long as it has one, and the status of the response. -/
structure TrackedBodyStream where
  tracker : Option Nat
  status : Nat

namespace TrackedBodyStream

/-- How the tracker is finished by an event, if it is. -/
def outcome (status : Nat) : BodyEvent → Option (RequestOutcome × Nat)
  | .cancelled => some (.cancelled, 499)
  | .dropped => some (.cancelled, 499)
  | .failed => some (.error, 502)
  | .ended => some (if 200 ≤ status ∧ status < 400 then .success else .error, status)
  | .item => none
  | .pending => none

def finishCall (id durationMs : Nat) : RequestOutcome × Nat → TrackerCall
  | (.success, status) => .finishSuccess id status durationMs
  | (.error, status) => .finishError id status durationMs
  | (.cancelled, _) => .finishCancelled id durationMs

/-- `TrackedBodyStream::poll_next`, or its `drop`: the calls on the tracker, which is dropped when
it has been finished. -/
def poll (self : TrackedBodyStream) (durationMs : Nat) (event : BodyEvent) :
    List TrackerCall × TrackedBodyStream :=
  match self.tracker, outcome self.status event with
  | some id, some outcome =>
      ([finishCall id durationMs outcome, .drop id durationMs], { self with tracker := none })
  | _, _ => ([], self)

def calls (durationMs : Nat) : List BodyEvent → TrackedBodyStream → List TrackerCall
  | [], _ => []
  | event :: events, self =>
      (self.poll durationMs event).1 ++ calls durationMs events (self.poll durationMs event).2

/-- A body without a tracker makes no calls. -/
theorem calls_none (durationMs : Nat) (events : List BodyEvent) (status : Nat) :
    calls durationMs events ⟨none, status⟩ = [] := by
  induction events with
  | nil => rfl
  | cons event events ih => exact ih

theorem finish_finishCall (id durationMs : Nat) (outcome : RequestOutcome) (status : Nat)
    (hstatus : outcome = .cancelled → status = 499) :
    (finishCall id durationMs (outcome, status)).finish = some ⟨id, outcome, status⟩ := by
  cases outcome with
  | success => rfl
  | error => rfl
  | cancelled => rw [hstatus rfl]; rfl

theorem cancelled_status {status : Nat} {event : BodyEvent} {o : RequestOutcome} {s : Nat}
    (h : outcome status event = some (o, s)) : o = .cancelled → s = 499 := by
  rintro rfl
  cases event with
  | ended =>
    simp only [outcome] at h
    split at h
    · cases h
    · cases h
  | cancelled => exact (Prod.mk.inj (Option.some.inj h)).2.symm
  | dropped => exact (Prod.mk.inj (Option.some.inj h)).2.symm
  | failed => cases h
  | item => cases h
  | pending => cases h

/-- **A body finishes its tracker once**, by the first of its events that decides, and gives it no
upstream. -/
theorem finishes_calls (durationMs id status : Nat) (events : List BodyEvent) :
    finishes (calls durationMs events ⟨some id, status⟩) =
      ((events.findSome? (outcome status)).map fun o => Finish.mk id o.1 o.2).toList ∧
    ∀ call ∈ calls durationMs events ⟨some id, status⟩, ∀ w : Telemetry,
      w.AssignsUnfinished call := by
  induction events with
  | nil => exact ⟨rfl, fun call hcall => by cases hcall⟩
  | cons event events ih =>
    rw [List.findSome?_cons]
    unfold calls poll
    cases hevent : outcome status event with
    | none =>
      simp only [List.nil_append]
      exact ih
    | some o =>
      obtain ⟨o, s⟩ := o
      simp only [calls_none, List.append_nil]
      have hfinish := finish_finishCall id durationMs o s (cancelled_status hevent)
      constructor
      · have hdrop : (TrackerCall.drop id durationMs).finish = some ⟨id, .cancelled, 499⟩ := rfl
        simp [finishes, addFinish, hfinish, hdrop]
      · intro call hcall w
        rcases List.mem_cons.mp hcall with rfl | hcall
        · cases o <;> trivial
        · rw [List.mem_singleton.mp hcall]
          trivial

end TrackedBodyStream
end LlmUniversalProxy.Server
