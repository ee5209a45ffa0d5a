import LlmUniversalProxy.Hooks.Breaker
import LlmUniversalProxy.Lib.Run

/-!
# `Hooks.BackPressure` — payloads on their way to the hooks

Every payload that is sent to a hook is a task of its own. It reserves its length in a counter that
all of them share, by a load and a compare-exchange that is tried again when another task came in
between; it is delivered, the outcome goes to the breaker, and the length is given back, again by a
loop. No lock is held over any of this, so the steps of the tasks come in any order.

The source is `hooks.rs` 764-781 and 1065-1103. The delivery itself, a request with a time limit, is
a step whose outcome may be either. A payload beyond the limit is dropped with a warning, and the
hook is not blamed for it.
-/

set_option autoImplicit false

namespace LlmUniversalProxy.Hooks

open Lib

/-- How far the sending of a payload has come; `seen` is what was read of the counter. -/
inductive SendPoint where
  | reserving
  | loaded (seen : Nat)
  | dropped
  | sending
  | recorded
  | releasing (seen : Nat)
  | released
  deriving DecidableEq, Repr

/-- One payload, from `spawn_send` or from `spawn_exchange_send`. -/
structure HookSend where
  kind : HookKind
  payloadLen : Nat
  point : SendPoint
  deriving DecidableEq, Repr

/-- What is reserved for a payload and not given back yet. -/
def HookSend.reservedBytes (self : HookSend) : Nat :=
  match self.point with
  | .sending | .recorded | .releasing _ => self.payloadLen
  | .reserving | .loaded _ | .dropped | .released => 0

/-- The load in `try_reserve`, with the two checks behind it. The value that is loaded may be old by
the time of the exchange, which then fails and loads anew. -/
def HookRuntime.tryReserve (self : HookRuntime) (current bytes : Nat) : SendPoint :=
  if u64Max < current + bytes then .dropped
  else if self.maxPendingBytes < current + bytes then .dropped
  else .loaded current

/-- How the delivery of a payload ends. -/
inductive DeliveryOutcome where
  | success
  | serverError
  | otherStatus
  | transportError
  deriving DecidableEq, Repr

/-- What `send` records of an outcome: nothing of a status that is neither a success nor the
server's fault. -/
def DeliveryOutcome.op : DeliveryOutcome → Option BreakerOp
  | .success => some .success
  | .serverError => some .failure
  | .otherStatus => none
  | .transportError => some .failure

/-- The shared counter, the breaker behind its mutex, the payloads and the clock. -/
structure World where
  pendingBytes : Nat := 0
  breaker : HookBreakerState := {}
  sends : List HookSend := []
  clock : Nat := 0
  deriving DecidableEq, Repr

namespace World

/-- The payload `i` comes to another point. -/
def move (self : World) (i : Nat) (send : HookSend) (point : SendPoint) : World :=
  { self with sends := self.sends.set i { send with point } }

def calling (self : World) (runtime : HookRuntime) (call : BreakerCall) : World :=
  { self with breaker := self.breaker.after runtime call, clock := call.now }

end World

/-- One step of one task; the label is the call of the breaker, if it makes one. -/
inductive Step (runtime : HookRuntime) : World → Option BreakerCall → World → Prop
  | spawn (w : World) (kind : HookKind) (payloadLen : Nat) :
      Step runtime w none { w with sends := w.sends ++ [⟨kind, payloadLen, .reserving⟩] }
  | load {w : World} {i : Nat} {send : HookSend} (hsend : w.sends[i]? = some send)
      (hpoint : send.point = .reserving) :
      Step runtime w none (w.move i send (runtime.tryReserve w.pendingBytes send.payloadLen))
  | swap {w : World} {i seen : Nat} {send : HookSend} (hsend : w.sends[i]? = some send)
      (hpoint : send.point = .loaded seen) (hsame : w.pendingBytes = seen) :
      Step runtime w none
        { w.move i send .sending with pendingBytes := seen + send.payloadLen }
  | swapFailed {w : World} {i seen : Nat} {send : HookSend} (hsend : w.sends[i]? = some send)
      (hpoint : send.point = .loaded seen) (hother : w.pendingBytes ≠ seen) :
      Step runtime w none (w.move i send .reserving)
  | record {w : World} {i now : Nat} {send : HookSend} {outcome : DeliveryOutcome} {op : BreakerOp}
      (hsend : w.sends[i]? = some send) (hpoint : send.point = .sending)
      (hop : outcome.op = some op) (hnow : w.clock ≤ now) :
      Step runtime w (some ⟨now, send.kind, op⟩)
        ((w.move i send .recorded).calling runtime ⟨now, send.kind, op⟩)
  | recordNothing {w : World} {i : Nat} {send : HookSend} {outcome : DeliveryOutcome}
      (hsend : w.sends[i]? = some send) (hpoint : send.point = .sending)
      (hop : outcome.op = none) :
      Step runtime w none (w.move i send .recorded)
  | releaseLoad {w : World} {i : Nat} {send : HookSend} (hsend : w.sends[i]? = some send)
      (hpoint : send.point = .recorded) :
      Step runtime w none (w.move i send (.releasing w.pendingBytes))
  | releaseSwap {w : World} {i seen : Nat} {send : HookSend} (hsend : w.sends[i]? = some send)
      (hpoint : send.point = .releasing seen) (hsame : w.pendingBytes = seen) :
      -- `saturating_sub`
      Step runtime w none
        { w.move i send .released with pendingBytes := seen - send.payloadLen }
  | releaseRetry {w : World} {i seen : Nat} {send : HookSend} (hsend : w.sends[i]? = some send)
      (hpoint : send.point = .releasing seen) :
      -- a weak compare-exchange may fail without a reason
      Step runtime w none (w.move i send (.releasing w.pendingBytes))
  | attempt {w : World} {now : Nat} (kind : HookKind) (hnow : w.clock ≤ now) :
      Step runtime w (some ⟨now, kind, .attempt ((w.breaker.state kind).canAttempt now).1⟩)
        (w.calling runtime ⟨now, kind, .attempt ((w.breaker.state kind).canAttempt now).1⟩)

variable {runtime : HookRuntime} {w w' : World} {e : Option BreakerCall}
  {es : List (Option BreakerCall)}

/-! ## The counter -/

theorem foldr_add_set {α : Type} (f : α → Nat) {xs : List α} {i : Nat} {a : α} (b : α)
    (h : xs[i]? = some a) :
    (xs.set i b).foldr (fun x n => f x + n) 0 + f a = xs.foldr (fun x n => f x + n) 0 + f b := by
  induction xs generalizing i with
  | nil => cases h
  | cons x xs ih =>
    cases i with
    | zero =>
      cases h
      simp only [List.set_cons_zero, List.foldr_cons]
      omega
    | succ i =>
      have := ih h
      simp only [List.set_cons_succ, List.foldr_cons]
      omega

/-- The bytes that are reserved, over all payloads. -/
def World.reservedBytes (self : World) : Nat :=
  self.sends.foldr (fun send total => send.reservedBytes + total) 0

theorem World.reservedBytes_move {i : Nat} {send : HookSend} (hsend : w.sends[i]? = some send)
    (point : SendPoint) :
    (w.move i send point).reservedBytes + send.reservedBytes =
      w.reservedBytes + HookSend.reservedBytes { send with point } :=
  foldr_add_set HookSend.reservedBytes _ hsend

/-- The counter says what is reserved, that is not too much, and no reservation that is about to be
made would make it too much. -/
structure Accounted (runtime : HookRuntime) (w : World) : Prop where
  pending : w.pendingBytes = w.reservedBytes
  bounded : w.pendingBytes ≤ runtime.maxPendingBytes
  loaded : ∀ send ∈ w.sends, ∀ seen, send.point = .loaded seen →
    seen + send.payloadLen ≤ runtime.maxPendingBytes

theorem tryReserve_loaded {current bytes seen : Nat}
    (h : runtime.tryReserve current bytes = .loaded seen) :
    seen + bytes ≤ runtime.maxPendingBytes := by
  unfold HookRuntime.tryReserve at h
  split_ifs at h with hwide hmany
  cases h
  omega

theorem loaded_of_move {i : Nat} {send : HookSend} {point : SendPoint}
    (h : ∀ send ∈ w.sends, ∀ seen, send.point = .loaded seen →
      seen + send.payloadLen ≤ runtime.maxPendingBytes)
    (hpoint : ∀ seen, point = .loaded seen → seen + send.payloadLen ≤ runtime.maxPendingBytes) :
    ∀ other ∈ (w.move i send point).sends, ∀ seen, other.point = .loaded seen →
      seen + other.payloadLen ≤ runtime.maxPendingBytes := by
  intro other hmem seen hseen
  rcases List.mem_or_eq_of_mem_set hmem with hmem | rfl
  · exact h other hmem seen hseen
  · exact hpoint seen hseen

/-- A step that only moves a payload, without a change of what is reserved for it. -/
theorem Accounted.move {i : Nat} {send : HookSend} {point : SendPoint} (h : Accounted runtime w)
    (hsend : w.sends[i]? = some send)
    (hreserved : HookSend.reservedBytes { send with point } = send.reservedBytes)
    (hpoint : ∀ seen, point = .loaded seen → seen + send.payloadLen ≤ runtime.maxPendingBytes) :
    Accounted runtime (w.move i send point) := by
  refine ⟨?_, h.bounded, loaded_of_move h.loaded hpoint⟩
  have hsum := World.reservedBytes_move hsend point
  rw [hreserved] at hsum
  show w.pendingBytes = _
  rw [h.pending]
  omega

theorem Accounted.calling (h : Accounted runtime w) (call : BreakerCall) :
    Accounted runtime (w.calling runtime call) := ⟨h.pending, h.bounded, h.loaded⟩

theorem Accounted.step (h : Accounted runtime w) (hstep : Step runtime w e w') :
    Accounted runtime w' := by
  cases hstep with
  | spawn kind payloadLen =>
    refine ⟨?_, h.bounded, ?_⟩
    · show w.pendingBytes = (w.sends ++ [_]).foldr
        (fun send total => HookSend.reservedBytes send + total) 0
      rw [List.foldr_append, h.pending]
      rfl
    · intro send hmem seen hseen
      rcases List.mem_append.mp hmem with hmem | hmem
      · exact h.loaded send hmem seen hseen
      · rw [List.mem_singleton.mp hmem] at hseen
        cases hseen
  | @load i send hsend hpoint =>
    refine h.move hsend ?_ fun seen hseen => tryReserve_loaded hseen
    unfold HookSend.reservedBytes HookRuntime.tryReserve
    rw [hpoint]
    split_ifs <;> rfl
  -- the swap succeeds only on the value that was loaded, so the counter is that of the sends
  | @swap i seen send hsend hpoint hsame =>
    have hsum := World.reservedBytes_move hsend .sending
    have hbefore : send.reservedBytes = 0 := by unfold HookSend.reservedBytes; rw [hpoint]
    have hafter : HookSend.reservedBytes { send with point := .sending } = send.payloadLen := rfl
    rw [hbefore, hafter] at hsum
    refine ⟨?_, h.loaded send (List.mem_of_getElem? hsend) seen hpoint,
      loaded_of_move h.loaded fun seen hseen => by cases hseen⟩
    show seen + send.payloadLen = (w.move i send .sending).reservedBytes
    rw [← hsame, h.pending]
    omega
  | @swapFailed i seen send hsend hpoint hother =>
    refine h.move hsend ?_ fun seen hseen => by cases hseen
    unfold HookSend.reservedBytes
    rw [hpoint]
  | @record i now send outcome op hsend hpoint hop hnow =>
    refine (h.move hsend ?_ fun seen hseen => by cases hseen).calling _
    unfold HookSend.reservedBytes
    rw [hpoint]
  | @recordNothing i send outcome hsend hpoint hop =>
    refine h.move hsend ?_ fun seen hseen => by cases hseen
    unfold HookSend.reservedBytes
    rw [hpoint]
  | @releaseLoad i send hsend hpoint =>
    refine h.move hsend ?_ fun seen hseen => by cases hseen
    unfold HookSend.reservedBytes
    rw [hpoint]
  -- what is given back was taken: no subtraction saturates
  | @releaseSwap i seen send hsend hpoint hsame =>
    have hsum := World.reservedBytes_move hsend .released
    have hbefore : send.reservedBytes = send.payloadLen := by
      unfold HookSend.reservedBytes; rw [hpoint]
    have hafter : HookSend.reservedBytes { send with point := .released } = 0 := rfl
    rw [hbefore, hafter] at hsum
    have hpending := h.pending
    have hbounded := h.bounded
    refine ⟨?_, ?_, loaded_of_move h.loaded fun seen hseen => by cases hseen⟩
    · show seen - send.payloadLen = (w.move i send .released).reservedBytes
      omega
    · show seen - send.payloadLen ≤ runtime.maxPendingBytes
      omega
  | @releaseRetry i seen send hsend hpoint =>
    refine h.move hsend ?_ fun seen hseen => by cases hseen
    unfold HookSend.reservedBytes
    rw [hpoint]
  | attempt kind hnow => exact h.calling _

/-! ## The breaker in a run -/

def callsOf (es : List (Option BreakerCall)) : List BreakerCall := es.filterMap id

/-- A step calls the breaker once or leaves it alone. -/
theorem Step.calls (hstep : Step runtime w e w') :
    (e = none ∧ w'.breaker = w.breaker ∧ w'.clock = w.clock) ∨
      ∃ call, e = some call ∧ w'.breaker = w.breaker.after runtime call ∧ w.clock ≤ call.now ∧
        w'.clock = call.now ∧ call.AnswersIn w.breaker := by
  cases hstep with
  | @record i now send outcome op hsend hpoint hop hnow =>
    refine .inr ⟨_, rfl, rfl, hnow, rfl, ?_⟩
    intro admitted hadmitted
    have hop' : op = .attempt admitted := hadmitted
    subst hop'
    cases outcome <;> cases hop
  | @attempt now kind hnow =>
    refine .inr ⟨_, rfl, rfl, hnow, rfl, ?_⟩
    intro admitted hadmitted
    cases hadmitted
    rfl
  | _ => exact .inl ⟨rfl, rfl, rfl⟩

/-- The breaker is where its calls have brought it, the calls come in the order of the clock, and
every attempt got the answer of the state it found. -/
structure Followed (runtime : HookRuntime) (calls : List BreakerCall) (w : World) : Prop where
  breaker : w.breaker = HookBreakerState.run runtime {} calls
  clock : ∀ call ∈ calls, call.now ≤ w.clock
  ordered : calls.Pairwise fun call later => call.now ≤ later.now
  answers : ∀ before call after, calls = before ++ call :: after →
    call.AnswersIn (HookBreakerState.run runtime {} before)

theorem Followed.step (h : Followed runtime (callsOf es) w) (hstep : Step runtime w e w') :
    Followed runtime (callsOf (es ++ [e])) w' := by
  unfold callsOf at h ⊢
  rw [List.filterMap_append]
  rcases hstep.calls with ⟨rfl, hbreaker, hclock⟩ | ⟨call, rfl, hbreaker, hnow, hclock, hanswers⟩
  · rw [show [(none : Option BreakerCall)].filterMap id = [] from rfl, List.append_nil]
    exact ⟨hbreaker.trans h.breaker, hclock ▸ h.clock, h.ordered, h.answers⟩
  · rw [show [some call].filterMap id = [call] from rfl]
    refine ⟨?_, ?_, ?_, ?_⟩
    · rw [hbreaker, h.breaker, HookBreakerState.run_append]
      rfl
    · intro other hmem
      rw [hclock]
      rcases List.mem_append.mp hmem with hmem | hmem
      · exact Nat.le_trans (h.clock other hmem) hnow
      · exact Nat.le_of_eq (congrArg _ (List.mem_singleton.mp hmem))
    · refine List.pairwise_append.mpr ⟨h.ordered, List.pairwise_singleton _ _, ?_⟩
      intro other hmem last hlast
      rw [List.mem_singleton.mp hlast]
      exact Nat.le_trans (h.clock other hmem) hnow
    · intro before other after heq
      rcases List.eq_nil_or_concat after with rfl | ⟨after, last, rfl⟩
      · obtain ⟨hbefore, hcall⟩ := List.append_inj' heq rfl
        cases hcall
        rw [← hbefore, ← h.breaker]
        exact hanswers
      · refine h.answers before other after ?_
        rw [List.concat_eq_append, ← List.cons_append, ← List.append_assoc] at heq
        exact (List.append_inj' heq rfl).1

/-- The threshold has been reached: no attempt until the cooldown is over, but for a success. -/
theorem Followed.cooldown {calls before mid after : List BreakerCall} {kind : HookKind}
    {opened now : Nat} {admitted : Bool} (h : Followed runtime calls w)
    (hcalls : calls = before ++ ⟨opened, kind, .failure⟩ ::
      (mid ++ ⟨now, kind, .attempt admitted⟩ :: after))
    (hcount : runtime.failureThreshold ≤
      ((HookBreakerState.run runtime {} before).state kind).consecutiveFailures + 1)
    (hmid : ∀ call ∈ mid, call.kind = kind → call.op ≠ .success)
    (hnow : now < opened + runtime.cooldown) : admitted = false := by
  have hsplit : calls = (before ++ ⟨opened, kind, .failure⟩ :: mid) ++
      ⟨now, kind, .attempt admitted⟩ :: after := by
    rw [hcalls, List.append_assoc, List.cons_append]
  have hanswer := h.answers _ _ _ hsplit admitted rfl
  have hordered := h.ordered
  rw [hsplit, List.pairwise_append, List.pairwise_append, List.pairwise_cons] at hordered
  obtain ⟨⟨_, ⟨hlater, _⟩, _⟩, _, hbefore⟩ := hordered
  have htimes : ∀ call ∈ mid, call.now < opened + runtime.cooldown ∧
      opened + runtime.cooldown ≤ call.now + runtime.cooldown := by
    intro call hmem
    have hfirst : opened ≤ call.now := hlater call hmem
    have hlast : call.now ≤ now := hbefore call
      (List.mem_append_right _ (List.mem_cons_of_mem _ hmem)) _ List.mem_cons_self
    omega
  have hclosed : ((HookBreakerState.run runtime {}
      (before ++ ⟨opened, kind, .failure⟩ :: mid)).state kind).ClosedOffUntil
        (opened + runtime.cooldown) := by
    rw [HookBreakerState.run_append]
    show ((HookBreakerState.run runtime (HookBreakerState.after runtime _ _) mid).state
      kind).ClosedOffUntil _
    refine HookBreakerState.closedOffUntil_run mid ?_ htimes hmid
    rw [HookBreakerState.after, HookBreakerState.state_setState_self]
    exact CircuitState.recordFailure_closesOff opened hcount
  rw [hclosed.canAttempt hnow] at hanswer
  exact hanswer.symm

/-- In every run the counter says what is reserved, and that is never too much; once a kind of hook
has failed often enough in a row, no attempt is made until the cooldown is over or a success was
recorded; a kind has the state that its own calls give it; and at any time the snapshot says that
the breaker is open just when no attempt would be made, but for the last second of a cooldown. -/
theorem hook_back_pressure {w : World} {es : List (Option BreakerCall)}
    (hrun : Run (Step runtime) {} es w) :
    w.pendingBytes = w.reservedBytes ∧ w.pendingBytes ≤ runtime.maxPendingBytes ∧
    -- a streak of failures that starts when none is counted
    (∀ kind before streak mid after opened now admitted,
      callsOf es = before ++ (streak ++ ⟨opened, kind, .failure⟩ ::
        (mid ++ ⟨now, kind, .attempt admitted⟩ :: after)) →
      (HookBreakerState.run runtime {} before).state kind = {} →
      (∀ call ∈ streak, call.kind = kind → call.op ≠ .success) →
      failuresOf kind streak + 1 = runtime.failureThreshold →
      (∀ call ∈ mid, call.kind = kind → call.op ≠ .success) →
      now < opened + runtime.cooldown → admitted = false) ∧
    -- any failure that reaches the threshold
    (∀ kind before mid after opened now admitted,
      callsOf es = before ++ ⟨opened, kind, .failure⟩ ::
        (mid ++ ⟨now, kind, .attempt admitted⟩ :: after) →
      runtime.failureThreshold ≤
        ((HookBreakerState.run runtime {} before).state kind).consecutiveFailures + 1 →
      (∀ call ∈ mid, call.kind = kind → call.op ≠ .success) →
      now < opened + runtime.cooldown → admitted = false) ∧
    (∀ kind, w.breaker.state kind =
      (HookBreakerState.run runtime {} ((callsOf es).filter fun call => call.kind = kind)).state
        kind) ∧
    ∀ kind now, ((CircuitSnapshot.fromState (w.breaker.state kind) now).isOpen = true ↔
      ((w.breaker.state kind).canAttempt now).1 = false) ↔
        ¬ (w.breaker.state kind).InLastSecond now := by
  have haccounted : Accounted runtime w := by
    refine hrun.invariant ?_ fun h hstep => h.step hstep
    exact ⟨rfl, Nat.zero_le _, fun send hmem => absurd hmem List.not_mem_nil⟩
  have hfollowed : Followed runtime (callsOf es) w := by
    refine hrun.invariant_history (I := fun es w => Followed runtime (callsOf es) w) ?_
      fun h hstep => h.step hstep
    refine ⟨rfl, fun call hmem => absurd hmem List.not_mem_nil, List.Pairwise.nil, ?_⟩
    intro before call after heq
    exact absurd (congrArg List.length heq) (by simp [callsOf])
  refine ⟨haccounted.pending, haccounted.bounded, ?_, ?_, ?_, ?_⟩
  · intro kind before streak mid after opened now admitted hcalls hclosed hstreak hcount hmid hnow
    rw [← List.append_assoc] at hcalls
    refine hfollowed.cooldown hcalls ?_ hmid hnow
    rw [HookBreakerState.run_append,
      HookBreakerState.run_below_threshold streak hclosed hstreak (by omega)]
    show runtime.failureThreshold ≤ 0 + failuresOf kind streak + 1
    omega
  · intro kind before mid after opened now admitted hcalls hcount hmid hnow
    exact hfollowed.cooldown hcalls hcount hmid hnow
  · intro kind
    rw [hfollowed.breaker, HookBreakerState.state_run, HookBreakerState.state_run,
      List.filter_filter]
    simp
  · intro kind now
    exact CircuitSnapshot.isOpen_iff_canAttempt

/-- A hook that may fail twice, with a cooldown of thirty seconds. -/
def cautiousRuntime : HookRuntime := ⟨10, 2, 30000000000, by decide, by decide⟩

/-- Three payloads. The first two read the counter at once, so the second has to reserve again, and
there is no room for the third. The two deliveries fail, and an attempt of either kind follows. -/
def crowdedRun (admitted : Bool) : List (Option BreakerCall) :=
  List.replicate 10 none ++ [some ⟨1, .usage, .failure⟩, some ⟨2, .usage, .failure⟩,
    some ⟨3, .usage, .attempt admitted⟩, some ⟨3, .exchange, .attempt true⟩]

theorem crowded_run : ∃ w admitted, Run (Step cautiousRuntime) {} (crowdedRun admitted) w ∧
    w.pendingBytes = 8 := by
  refine ⟨⟨8, ⟨{}, ⟨0, some 30000000002⟩⟩, [⟨.usage, 5, .recorded⟩, ⟨.usage, 3, .recorded⟩,
    ⟨.exchange, 9, .dropped⟩], 3⟩, false, ?_, rfl⟩
  have hfirst : Step cautiousRuntime
      ⟨8, {}, [⟨.usage, 5, .sending⟩, ⟨.usage, 3, .sending⟩, ⟨.exchange, 9, .dropped⟩], 0⟩
      (some ⟨1, .usage, .failure⟩)
      ⟨8, ⟨{}, ⟨1, none⟩⟩,
        [⟨.usage, 5, .recorded⟩, ⟨.usage, 3, .sending⟩, ⟨.exchange, 9, .dropped⟩], 1⟩ :=
    @Step.record _ _ 0 1 ⟨.usage, 5, .sending⟩ .serverError .failure rfl rfl rfl (by decide)
  have hsecond : Step cautiousRuntime
      ⟨8, ⟨{}, ⟨1, none⟩⟩,
        [⟨.usage, 5, .recorded⟩, ⟨.usage, 3, .sending⟩, ⟨.exchange, 9, .dropped⟩], 1⟩
      (some ⟨2, .usage, .failure⟩)
      ⟨8, ⟨{}, ⟨0, some 30000000002⟩⟩,
        [⟨.usage, 5, .recorded⟩, ⟨.usage, 3, .recorded⟩, ⟨.exchange, 9, .dropped⟩], 2⟩ :=
    @Step.record _ _ 1 2 ⟨.usage, 3, .sending⟩ .transportError .failure rfl rfl rfl (by decide)
  -- the counter: both load nought, one swap fails, and the third payload finds five bytes taken
  refine .cons (.spawn {} .usage 5) (.cons (.spawn _ .usage 3) (.cons (.spawn _ .exchange 9)
    (.cons (.load (i := 0) rfl rfl) (.cons (.load (i := 1) rfl rfl)
    (.cons (.swap (i := 0) rfl rfl rfl) (.cons (.swapFailed (i := 1) rfl rfl (by decide))
    (.cons (.load (i := 1) rfl rfl) (.cons (.load (i := 2) rfl rfl)
    (.cons (.swap (i := 1) rfl rfl rfl) (.cons hfirst (.cons hsecond ?_)))))))))))
  exact .cons (.attempt .usage (by decide)) (.cons (.attempt .exchange (by decide)) (.nil _))

/-- What is pending is what the two payloads have reserved, and the cooldown holds the next attempt
of their kind back. -/
theorem crowded_payloads_held_back : ∃ w admitted,
    Run (Step cautiousRuntime) {} (crowdedRun admitted) w ∧
      w.reservedBytes = 8 ∧ w.pendingBytes ≤ 10 ∧ admitted = false := by
  obtain ⟨w, admitted, hrun, hpending⟩ := crowded_run
  obtain ⟨hreserved, hbounded, hcooldown, -⟩ := hook_back_pressure hrun
  refine ⟨w, admitted, hrun, hreserved.symm.trans hpending, hbounded, ?_⟩
  exact hcooldown .usage [] [⟨1, .usage, .failure⟩] [] [⟨3, .exchange, .attempt true⟩] 2 3 admitted
    rfl rfl (by decide) (by decide) (by decide) (by decide)

/-- A hook that may fail once, with a cooldown of half a second. -/
def hastyRuntime : HookRuntime := ⟨10, 1, 500000000, by decide, by decide⟩

theorem failed_payload_run : ∃ w, Run (Step hastyRuntime) {}
    [none, none, none, some ⟨0, .usage, .failure⟩, some ⟨1, .usage, .attempt false⟩] w ∧
      w.pendingBytes = 7 ∧ w.breaker.usage = ⟨0, some 500000000⟩ := by
  refine ⟨⟨7, ⟨{}, ⟨0, some 500000000⟩⟩, [⟨.usage, 7, .recorded⟩], 1⟩, ?_, rfl, rfl⟩
  have hrecord : Step hastyRuntime ⟨7, {}, [⟨.usage, 7, .sending⟩], 0⟩
      (some ⟨0, .usage, .failure⟩)
      ⟨7, ⟨{}, ⟨0, some 500000000⟩⟩, [⟨.usage, 7, .recorded⟩], 0⟩ :=
    @Step.record _ _ 0 0 ⟨.usage, 7, .sending⟩ .serverError .failure rfl rfl rfl (Nat.zero_le 0)
  have hattempt : Step hastyRuntime ⟨7, ⟨{}, ⟨0, some 500000000⟩⟩, [⟨.usage, 7, .recorded⟩], 0⟩
      (some ⟨1, .usage, .attempt false⟩)
      ⟨7, ⟨{}, ⟨0, some 500000000⟩⟩, [⟨.usage, 7, .recorded⟩], 1⟩ :=
    .attempt .usage (Nat.zero_le 1)
  exact .cons (.spawn {} .usage 7) (.cons (.load (i := 0) rfl rfl)
    (.cons (.swap (i := 0) rfl rfl rfl) (.cons hrecord (.cons hattempt (.nil _)))))

/-- Half a second of cooldown is left, no attempt is made, and the snapshot does not show it. -/
theorem open_breaker_not_shown :
    ¬ ∀ (runtime : HookRuntime) (w : World) (es : List (Option BreakerCall)),
      Run (Step runtime) {} es w → ∀ kind now,
        ((CircuitSnapshot.fromState (w.breaker.state kind) now).isOpen = true ↔
          ((w.breaker.state kind).canAttempt now).1 = false) := by
  intro h
  obtain ⟨w, hrun, _, husage⟩ := failed_payload_run
  have hshown := (h hastyRuntime w _ hrun .usage 1).mpr
  revert hshown
  rw [show w.breaker.state .usage = w.breaker.usage from rfl, husage]
  decide

end LlmUniversalProxy.Hooks
