/-!
# `Lib.Monitor` — a trace and the automaton that accepts it

What a stream of events has to look like is said by a monitor: an automaton that reads the events
one by one and refuses the first one that may not come. What produces the events has a state of
its own. `Tracks` holds when the monitor has accepted everything that was produced so far, and its
state is related to the producer's.
-/

set_option autoImplicit false

namespace LlmUniversalProxy.Lib.Monitor

universe u v w

variable {M : Type u} {E : Type v} {σ : Type w} {step : M → E → Option M} {R : M → σ → Prop}

/-- From `m`, the monitor accepts `trace`, and ends in a state related to `s`. -/
def Tracks (step : M → E → Option M) (R : M → σ → Prop) (m : M) (trace : List E) (s : σ) : Prop :=
  ∃ m', trace.foldlM step m = some m' ∧ R m' s

theorem foldlM_append (m : M) (xs ys : List E) :
    (xs ++ ys).foldlM step m = (xs.foldlM step m).bind fun m => ys.foldlM step m := by
  rw [List.foldlM_append]
  rfl

theorem foldlM_snoc (m : M) (xs : List E) (e : E) :
    (xs ++ [e]).foldlM step m = (xs.foldlM step m).bind fun m => step m e := by
  rw [foldlM_append]
  refine congrArg _ (funext fun m => ?_)
  show (step m e).bind some = step m e
  exact Option.bind_fun_some (step m e)

namespace Tracks

theorem nil {m : M} {s : σ} (h : R m s) : Tracks step R m [] s := ⟨m, rfl, h⟩

/-- One more event. -/
theorem push {R' : M → σ → Prop} {m : M} {trace : List E} {s s' : σ} {e : E}
    (h : Tracks step R m trace s) (hstep : ∀ m, R m s → ∃ m', step m e = some m' ∧ R' m' s') :
    Tracks step R' m (trace ++ [e]) s' := by
  obtain ⟨m₁, htrace, hR⟩ := h
  obtain ⟨m₂, he, hR'⟩ := hstep m₁ hR
  refine ⟨m₂, ?_, hR'⟩
  rw [foldlM_snoc, htrace]
  exact he

/-- A change of the producer's state that is no event. -/
theorem update {R' : M → σ → Prop} {m : M} {trace : List E} {s s' : σ}
    (h : Tracks step R m trace s) (hstate : ∀ m, R m s → R' m s') :
    Tracks step R' m trace s' := by
  obtain ⟨m₁, htrace, hR⟩ := h
  exact ⟨m₁, htrace, hstate m₁ hR⟩

/-- One trace behind another. -/
theorem append {R' : M → σ → Prop} {m : M} {trace more : List E} {s s' : σ}
    (h : Tracks step R m trace s) (hmore : ∀ m, R m s → Tracks step R' m more s') :
    Tracks step R' m (trace ++ more) s' := by
  obtain ⟨m₁, htrace, hR⟩ := h
  obtain ⟨m₂, hmore, hR'⟩ := hmore m₁ hR
  refine ⟨m₂, ?_, hR'⟩
  rw [foldlM_append, htrace]
  exact hmore

end Tracks
end LlmUniversalProxy.Lib.Monitor
