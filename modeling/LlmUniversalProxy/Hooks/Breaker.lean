import LlmUniversalProxy.Lib.U64
import Mathlib.Data.List.Basic

/-!
# `Hooks.Breaker` — when a hook is left alone

A hook that does not answer is left alone for a while. The breaker counts failures of each kind of
hook in a row; when there are too many it opens, and no attempt is made until the cooldown is over.
The first attempt after that starts the count again.

The clock is monotone. An instant and a span of time are numbers of nanoseconds.

The source is `hooks.rs` 714-815 and 1036-1048. Each of the two kinds of hook has a breaker of its
own, which is why one that fails does not close off the other.
-/

set_option autoImplicit false

namespace LlmUniversalProxy.Hooks

open Lib

/-- `HookKind`. -/
inductive HookKind where
  | exchange
  | usage
  deriving DecidableEq, Repr

/-- What `HookRuntime` is configured with, as far as the breaker and the counter look at it. -/
structure HookRuntime where
  maxPendingBytes : Nat
  failureThreshold : Nat
  cooldown : Nat
  maxPendingBytes_le : maxPendingBytes ≤ u64Max
  failureThreshold_le : failureThreshold ≤ u64Max

/-- `CircuitState`. -/
structure CircuitState where
  consecutiveFailures : Nat := 0
  openUntil : Option Nat := none
  deriving DecidableEq, Repr

namespace CircuitState

/-- `can_attempt` on the state of one kind. -/
def canAttempt (self : CircuitState) (now : Nat) : Bool × CircuitState :=
  match self.openUntil with
  | some deadline => if now < deadline then (false, self) else (true, ⟨0, none⟩)
  | none => (true, self)

/-- `record_success` on the state of one kind. -/
def recordSuccess (_ : CircuitState) : CircuitState := ⟨0, none⟩

/-- `record_failure` on the state of one kind. -/
def recordFailure (self : CircuitState) (runtime : HookRuntime) (now : Nat) : CircuitState :=
  let consecutiveFailures := saturatingAdd self.consecutiveFailures 1
  if runtime.failureThreshold ≤ consecutiveFailures then ⟨0, some (now + runtime.cooldown)⟩
  else { self with consecutiveFailures }

end CircuitState

/-- `HookBreakerState`. -/
structure HookBreakerState where
  exchange : CircuitState := {}
  usage : CircuitState := {}
  deriving DecidableEq, Repr

namespace HookBreakerState

/-- `state_mut`, to read. -/
def state (self : HookBreakerState) : HookKind → CircuitState
  | .exchange => self.exchange
  | .usage => self.usage

/-- `state_mut`, to write. -/
def setState (self : HookBreakerState) (kind : HookKind) (circuit : CircuitState) :
    HookBreakerState :=
  match kind with
  | .exchange => { self with exchange := circuit }
  | .usage => { self with usage := circuit }

@[simp] theorem state_setState_self (self : HookBreakerState) (kind : HookKind)
    (circuit : CircuitState) : (self.setState kind circuit).state kind = circuit := by
  cases kind <;> rfl

theorem state_setState_of_ne (self : HookBreakerState) {kind other : HookKind}
    (h : other ≠ kind) (circuit : CircuitState) :
    (self.setState kind circuit).state other = self.state other := by
  cases kind <;> cases other <;> first | rfl | exact absurd rfl h

end HookBreakerState

/-- `CircuitSnapshot`. -/
structure CircuitSnapshot where
  consecutiveFailures : Nat
  isOpen : Bool
  remainingCooldownSecs : Nat
  deriving DecidableEq, Repr

/-- The nanoseconds of a second. -/
def nanosPerSec : Nat := 1000000000

/-- `Instant::checked_duration_since`. -/
def checkedDurationSince (deadline now : Nat) : Option Nat :=
  if now ≤ deadline then some (deadline - now) else none

/-- `CircuitSnapshot::from_state`; `as_secs` leaves the part of a second out. -/
def CircuitSnapshot.fromState (circuit : CircuitState) (now : Nat) : CircuitSnapshot :=
  let remainingCooldownSecs :=
    ((circuit.openUntil.bind (checkedDurationSince · now)).map (· / nanosPerSec)).getD 0
  ⟨circuit.consecutiveFailures, 0 < remainingCooldownSecs, remainingCooldownSecs⟩

/-! ## Runs of calls -/

/-- What the breaker is called with; an attempt comes with its answer. -/
inductive BreakerOp where
  | attempt (admitted : Bool)
  | success
  | failure
  deriving DecidableEq, Repr

structure BreakerCall where
  now : Nat
  kind : HookKind
  op : BreakerOp
  deriving DecidableEq, Repr

/-- What a call makes of the state of its kind. -/
def CircuitState.after (runtime : HookRuntime) (self : CircuitState) (now : Nat) :
    BreakerOp → CircuitState
  | .attempt _ => (self.canAttempt now).2
  | .success => self.recordSuccess
  | .failure => self.recordFailure runtime now

def HookBreakerState.after (runtime : HookRuntime) (self : HookBreakerState) (call : BreakerCall) :
    HookBreakerState :=
  self.setState call.kind ((self.state call.kind).after runtime call.now call.op)

def HookBreakerState.run (runtime : HookRuntime) (self : HookBreakerState)
    (calls : List BreakerCall) : HookBreakerState :=
  calls.foldl (HookBreakerState.after runtime) self

/-- The answer of an attempt is the one that the state gives. -/
def BreakerCall.AnswersIn (call : BreakerCall) (breaker : HookBreakerState) : Prop :=
  ∀ admitted, call.op = .attempt admitted →
    ((breaker.state call.kind).canAttempt call.now).1 = admitted

variable {runtime : HookRuntime}

theorem HookBreakerState.run_append (self : HookBreakerState) (calls more : List BreakerCall) :
    self.run runtime (calls ++ more) = (self.run runtime calls).run runtime more :=
  List.foldl_append

/-! ## The kinds do not know each other -/

theorem HookBreakerState.state_run (self : HookBreakerState) (kind : HookKind)
    (calls : List BreakerCall) :
    (self.run runtime calls).state kind =
      (calls.filter fun call => call.kind = kind).foldl
        (fun circuit call => circuit.after runtime call.now call.op) (self.state kind) := by
  induction calls generalizing self with
  | nil => rfl
  | cons call calls ih =>
    show ((self.after runtime call).run runtime calls).state kind = _
    rw [ih]
    by_cases hkind : call.kind = kind
    · subst hkind
      simp [HookBreakerState.after]
    · have hother : (self.after runtime call).state kind = self.state kind :=
        self.state_setState_of_ne (Ne.symm hkind) _
      rw [hother]
      simp [hkind]

/-! ## The cooldown -/

/-- No attempt is made before `instant`. -/
def CircuitState.ClosedOffUntil (self : CircuitState) (instant : Nat) : Prop :=
  ∃ deadline, self.openUntil = some deadline ∧ instant ≤ deadline

theorem CircuitState.ClosedOffUntil.canAttempt {self : CircuitState} {instant now : Nat}
    (h : self.ClosedOffUntil instant) (hnow : now < instant) :
    self.canAttempt now = (false, self) := by
  obtain ⟨deadline, hdeadline, hle⟩ := h
  unfold CircuitState.canAttempt
  rw [hdeadline]
  exact if_pos (Nat.lt_of_lt_of_le hnow hle)

/-- Neither an attempt nor one more failure brings the instant forward. -/
theorem CircuitState.ClosedOffUntil.after {self : CircuitState} {instant now : Nat} {op : BreakerOp}
    (h : self.ClosedOffUntil instant) (hnow : now < instant)
    (hcooldown : instant ≤ now + runtime.cooldown) (hop : op ≠ .success) :
    (self.after runtime now op).ClosedOffUntil instant := by
  cases op with
  | attempt admitted =>
    unfold CircuitState.after
    rwa [h.canAttempt hnow]
  | success => exact absurd rfl hop
  | failure =>
    unfold CircuitState.after CircuitState.recordFailure
    dsimp only
    split_ifs
    · exact ⟨now + runtime.cooldown, rfl, hcooldown⟩
    · exact h

theorem HookBreakerState.closedOffUntil_run {kind : HookKind} {instant : Nat}
    (calls : List BreakerCall) : ∀ {self : HookBreakerState},
      (self.state kind).ClosedOffUntil instant →
      (∀ call ∈ calls, call.now < instant ∧ instant ≤ call.now + runtime.cooldown) →
      (∀ call ∈ calls, call.kind = kind → call.op ≠ .success) →
      ((self.run runtime calls).state kind).ClosedOffUntil instant := by
  induction calls with
  | nil =>
    intro self h _ _
    exact h
  | cons call calls ih =>
    intro self h htimes hops
    refine ih ?_ (fun other hmem => htimes other (List.mem_cons_of_mem call hmem))
      (fun other hmem => hops other (List.mem_cons_of_mem call hmem))
    obtain ⟨hnow, hcooldown⟩ := htimes call List.mem_cons_self
    by_cases hkind : call.kind = kind
    · subst hkind
      rw [HookBreakerState.after, HookBreakerState.state_setState_self]
      exact h.after hnow hcooldown (hops call List.mem_cons_self rfl)
    · rwa [HookBreakerState.after, HookBreakerState.state_setState_of_ne _ (Ne.symm hkind)]

/-- The failure that reaches the threshold closes the kind off for the cooldown. -/
theorem CircuitState.recordFailure_closesOff {self : CircuitState} (now : Nat)
    (h : runtime.failureThreshold ≤ self.consecutiveFailures + 1) :
    (self.recordFailure runtime now).ClosedOffUntil (now + runtime.cooldown) := by
  have hle : runtime.failureThreshold ≤ saturatingAdd self.consecutiveFailures 1 :=
    Nat.le_min.mpr ⟨h, runtime.failureThreshold_le⟩
  unfold CircuitState.recordFailure
  exact ⟨now + runtime.cooldown, by rw [if_pos hle], Nat.le_refl _⟩

def failuresOf (kind : HookKind) (calls : List BreakerCall) : Nat :=
  calls.countP fun call => call.kind = kind ∧ call.op = .failure

theorem HookBreakerState.run_below_threshold {kind : HookKind} (calls : List BreakerCall) :
    ∀ {self : HookBreakerState} {counted : Nat}, self.state kind = ⟨counted, none⟩ →
      (∀ call ∈ calls, call.kind = kind → call.op ≠ .success) →
      counted + failuresOf kind calls < runtime.failureThreshold →
      (self.run runtime calls).state kind = ⟨counted + failuresOf kind calls, none⟩ := by
  induction calls with
  | nil =>
    intro self counted h _ _
    exact h
  | cons call calls ih =>
    intro self counted h hops hbelow
    have hrest : ∀ other ∈ calls, other.kind = kind → other.op ≠ .success :=
      fun other hmem => hops other (List.mem_cons_of_mem call hmem)
    have hcount : failuresOf kind (call :: calls) =
        failuresOf kind calls + if call.kind = kind ∧ call.op = .failure then 1 else 0 := by
      unfold failuresOf
      rw [List.countP_cons]
      simp
    rw [hcount] at hbelow ⊢
    show ((self.after runtime call).run runtime calls).state kind = _
    by_cases hkind : call.kind = kind
    · subst hkind
      cases hop : call.op with
      | attempt admitted =>
        have hafter : (self.after runtime call).state call.kind = ⟨counted, none⟩ := by
          rw [HookBreakerState.after, HookBreakerState.state_setState_self, h, hop]
          rfl
        simp only [hop, reduceCtorEq, and_false, if_false, Nat.add_zero] at hbelow ⊢
        exact ih hafter hrest hbelow
      | success => exact absurd hop (hops call List.mem_cons_self rfl)
      | failure =>
        simp only [hop, and_self, if_true] at hbelow ⊢
        have hsum : saturatingAdd counted 1 = counted + 1 :=
          saturatingAdd_of_le (by have := runtime.failureThreshold_le; omega)
        have hafter : (self.after runtime call).state call.kind = ⟨counted + 1, none⟩ := by
          rw [HookBreakerState.after, HookBreakerState.state_setState_self, h, hop]
          unfold CircuitState.after CircuitState.recordFailure
          dsimp only
          rw [hsum, if_neg (by omega)]
        rw [ih hafter hrest (by omega)]
        exact congrArg (CircuitState.mk · none) (by omega)
    · have hafter : (self.after runtime call).state kind = ⟨counted, none⟩ := by
        rw [HookBreakerState.after, HookBreakerState.state_setState_of_ne _ (Ne.symm hkind), h]
      simp only [hkind, false_and, if_false, Nat.add_zero] at hbelow ⊢
      exact ih hafter hrest hbelow

/-! ## The snapshot -/

/-- The cooldown is not over yet, but will be within a second. -/
def CircuitState.InLastSecond (self : CircuitState) (now : Nat) : Prop :=
  ∃ deadline, self.openUntil = some deadline ∧ now < deadline ∧ deadline < now + nanosPerSec

theorem CircuitState.canAttempt_eq_false_iff {self : CircuitState} {now : Nat} :
    (self.canAttempt now).1 = false ↔ ∃ deadline, self.openUntil = some deadline ∧ now < deadline := by
  unfold CircuitState.canAttempt
  cases self.openUntil with
  | none => simp
  | some deadline =>
    dsimp only
    split_ifs with hnow
    · simp [hnow]
    · simp [hnow]

theorem CircuitSnapshot.isOpen_iff {circuit : CircuitState} {now : Nat} :
    (CircuitSnapshot.fromState circuit now).isOpen = true ↔
      ∃ deadline, circuit.openUntil = some deadline ∧ now + nanosPerSec ≤ deadline := by
  unfold CircuitSnapshot.fromState checkedDurationSince
  cases circuit.openUntil with
  | none => simp
  | some deadline =>
    by_cases hle : now ≤ deadline
    · simp [hle, Nat.div_pos_iff, nanosPerSec]
      omega
    · simp [hle, nanosPerSec]
      omega

/-- The snapshot says that the breaker is open just when no attempt would be made, but for the last
second. -/
theorem CircuitSnapshot.isOpen_iff_canAttempt {circuit : CircuitState} {now : Nat} :
    ((CircuitSnapshot.fromState circuit now).isOpen = true ↔
      (circuit.canAttempt now).1 = false) ↔ ¬ circuit.InLastSecond now := by
  rw [CircuitSnapshot.isOpen_iff, CircuitState.canAttempt_eq_false_iff]
  unfold CircuitState.InLastSecond
  cases circuit.openUntil with
  | none => simp
  | some deadline =>
    simp only [Option.some.injEq, exists_eq_left']
    unfold nanosPerSec
    omega

end LlmUniversalProxy.Hooks
