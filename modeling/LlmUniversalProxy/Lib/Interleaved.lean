import Mathlib.Logic.Function.Basic

/-!
# `Lib.Interleaved` — things that are told side by side

Several things are told at once, piece by piece, and a piece says which of them it is about. A
listener keeps a slot for each, and a piece changes no slot but its own. Then it does not matter how
the things take turns: a slot ends up as if its pieces had come alone.
-/

set_option autoImplicit false

namespace LlmUniversalProxy.Lib

universe u v w x

/-- One that listens to several things at once. A piece without a key is about none of them. -/
structure Listener (σ : Type u) (ε : Type v) (κ : Type w) (α : Type x) [DecidableEq κ] where
  step : σ → ε → Option σ
  key : ε → Option κ
  slot : σ → κ → α
  change : α → ε → Option α
  keyless : ∀ s e, key e = none → ∃ t, step s e = some t ∧ slot t = slot s
  keyed : ∀ s e k a, key e = some k → change (slot s k) e = some a →
    ∃ t, step s e = some t ∧ slot t = Function.update (slot s) k a

namespace Listener

variable {σ : Type u} {ε : Type v} {κ : Type w} {α : Type x} [DecidableEq κ]
  (listener : Listener σ ε κ α)

/-- The pieces that are about one thing. -/
def about (k : κ) (es : List ε) : List ε := es.filter fun e => listener.key e = some k

@[simp] theorem about_nil (k : κ) : listener.about k [] = [] := rfl

theorem about_cons_self {k : κ} {e : ε} (h : listener.key e = some k) (es : List ε) :
    listener.about k (e :: es) = e :: listener.about k es := by
  simp [about, h]

theorem about_cons_of_ne {k : κ} {e : ε} (h : listener.key e ≠ some k) (es : List ε) :
    listener.about k (e :: es) = listener.about k es := by
  simp [about, h]

/-- **The turns do not matter.** Where every thing can be told alone, all of them can be told
together, and come out the same. -/
theorem run {es : List ε} {told : κ → α} : ∀ {s : σ},
    (∀ k, (listener.about k es).foldlM listener.change (listener.slot s k) = some (told k)) →
      ∃ t, es.foldlM listener.step s = some t ∧ listener.slot t = told := by
  induction es with
  | nil =>
    intro s h
    refine ⟨s, rfl, funext fun k => ?_⟩
    exact Option.some.inj (h k)
  | cons e es ih =>
    intro s h
    -- the first piece leaves a state from which the others can be told alone
    have hfirst : ∃ t, listener.step s e = some t ∧ ∀ k,
        (listener.about k es).foldlM listener.change (listener.slot t k) = some (told k) := by
      cases hkey : listener.key e with
      | none =>
        obtain ⟨t, ht, hslot⟩ := listener.keyless s e hkey
        refine ⟨t, ht, fun k => ?_⟩
        have hk := h k
        rwa [listener.about_cons_of_ne (by rw [hkey]; exact nofun), ← hslot] at hk
      | some l =>
        have hl := h l
        rw [listener.about_cons_self hkey, List.foldlM_cons, Option.bind_eq_bind,
          Option.bind_eq_some_iff] at hl
        obtain ⟨a, hchange, hrest⟩ := hl
        obtain ⟨t, ht, hslot⟩ := listener.keyed s e l a hkey hchange
        refine ⟨t, ht, fun k => ?_⟩
        rw [hslot]
        by_cases hkl : k = l
        · rw [hkl, Function.update_self, hrest]
        · have hk := h k
          rw [Function.update_of_ne hkl]
          rwa [listener.about_cons_of_ne (by rw [hkey, ne_eq, Option.some.injEq]; exact Ne.symm hkl)]
            at hk
    obtain ⟨t, ht, hrest⟩ := hfirst
    obtain ⟨final, hfinal, htold⟩ := ih hrest
    refine ⟨final, ?_, htold⟩
    rw [List.foldlM_cons, ht]
    exact hfinal

end Listener
end LlmUniversalProxy.Lib
