/-!
# `Lib.Run` — runs of a labelled step relation

A component that is called again and again, by callers that do not know of each other, is a step
relation: a label says which call was made and what it answered. What holds of the component is
an invariant of its runs, and there are two shapes of it: a predicate of the state alone, and a
predicate of the state together with the labels that led to it.
-/

set_option autoImplicit false

namespace LlmUniversalProxy.Lib

universe u v

variable {σ : Type u} {ε : Type v} {step : σ → ε → σ → Prop}

/-- `Run step s es t`: from `s` the steps labelled `es`, in this order, lead to `t`. -/
inductive Run (step : σ → ε → σ → Prop) : σ → List ε → σ → Prop
  | nil (s : σ) : Run step s [] s
  | snoc {s t u : σ} {es : List ε} {e : ε} :
      Run step s es t → step t e u → Run step s (es ++ [e]) u

theorem Run.cons {s t u : σ} {es : List ε} {e : ε} (hs : step s e t) (hrun : Run step t es u) :
    Run step s (e :: es) u := by
  induction hrun with
  | nil => exact .snoc (.nil s) hs
  | snoc _ hlast ih => exact .snoc ih hlast

theorem Run.append {s t u : σ} {es fs : List ε} (hrun : Run step s es t)
    (hmore : Run step t fs u) : Run step s (es ++ fs) u := by
  induction hmore with
  | nil =>
    rw [List.append_nil]
    exact hrun
  | snoc _ hlast ih =>
    rw [← List.append_assoc]
    exact .snoc ih hlast

/-- A run of a step function, in one go. -/
theorem Run.of_foldlM {next : σ → ε → Option σ} {s t : σ} {es : List ε}
    (h : es.foldlM next s = some t) : Run (fun s e t => next s e = some t) s es t := by
  induction es generalizing s with
  | nil =>
    cases h
    exact .nil _
  | cons e es ih =>
    rw [List.foldlM_cons, Option.bind_eq_bind, Option.bind_eq_some_iff] at h
    obtain ⟨u, hfirst, hrest⟩ := h
    exact .cons hfirst (ih hrest)

/-- **An invariant with a history.** What holds of the empty history, and survives each step
together with the label it adds, holds after every run. -/
theorem Run.invariant_history {I : List ε → σ → Prop} {s t : σ} {es : List ε}
    (hrun : Run step s es t) (hinit : I [] s)
    (hstep : ∀ {es : List ε} {t u : σ} {e : ε}, I es t → step t e u → I (es ++ [e]) u) :
    I es t := by
  induction hrun with
  | nil => exact hinit
  | snoc _ hs ih => exact hstep ih hs

/-- **An invariant of the state alone.** -/
theorem Run.invariant {I : σ → Prop} {s t : σ} {es : List ε} (hrun : Run step s es t)
    (hinit : I s) (hstep : ∀ {t u : σ} {e : ε}, I t → step t e u → I u) : I t :=
  hrun.invariant_history (I := fun _ => I) hinit hstep

end LlmUniversalProxy.Lib
