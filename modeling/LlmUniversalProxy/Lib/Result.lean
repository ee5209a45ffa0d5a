import Mathlib.Data.List.Forall2

/-!
# `Lib.Result` — taking apart a computation that succeeded

A function that may fail is a chain of `Except` steps. When the chain ended in `ok`, every step of
it did; these lemmas give the intermediate results.
-/

set_option autoImplicit false

namespace LlmUniversalProxy.Lib.Result

universe u v

variable {ε : Type u} {α β : Type v}

theorem bind_ok {x : Except ε α} {f : α → Except ε β} {b : β} :
    (x >>= f) = .ok b ↔ ∃ a, x = .ok a ∧ f a = .ok b := by
  cases x with
  | error e => exact ⟨fun h => (nomatch h), fun ⟨_, h, _⟩ => (nomatch h)⟩
  | ok a =>
    constructor
    · intro h
      exact ⟨a, rfl, h⟩
    · rintro ⟨a', ha, h⟩
      cases ha
      exact h

theorem map_ok {x : Except ε α} {f : α → β} {b : β} :
    x.map f = .ok b ↔ ∃ a, x = .ok a ∧ f a = b := by
  cases x with
  | error e => exact ⟨fun h => (nomatch h), fun ⟨_, h, _⟩ => (nomatch h)⟩
  | ok a =>
    constructor
    · intro h
      exact ⟨a, rfl, Except.ok.inj h⟩
    · rintro ⟨a', ha, h⟩
      cases ha
      exact congrArg Except.ok h

/-- The results of a successful `mapM`, one by one. -/
theorem mapM_ok {f : α → Except ε β} {xs : List α} {ys : List β} (h : xs.mapM f = .ok ys) :
    List.Forall₂ (fun x y => f x = .ok y) xs ys := by
  induction xs generalizing ys with
  | nil =>
    rw [List.mapM_nil] at h
    cases h
    exact .nil
  | cons x xs ih =>
    rw [List.mapM_cons] at h
    obtain ⟨y, hy, h⟩ := bind_ok.mp h
    obtain ⟨rest, hrest, h⟩ := bind_ok.mp h
    cases h
    exact .cons hy (ih hrest)

/-- Every result of a successful `mapM` is the result of one of its inputs. -/
theorem exists_of_mem_mapM {f : α → Except ε β} {xs : List α} {ys : List β}
    (h : xs.mapM f = .ok ys) {y : β} (hy : y ∈ ys) : ∃ x ∈ xs, f x = .ok y := by
  have hall := mapM_ok h
  clear h
  induction hall with
  | nil => cases hy
  | cons hx _ ih =>
    rcases List.mem_cons.mp hy with rfl | hy
    · exact ⟨_, List.mem_cons_self, hx⟩
    · obtain ⟨x, hmem, hx⟩ := ih hy
      exact ⟨x, List.mem_cons_of_mem _ hmem, hx⟩

/-- A `mapM` succeeds when every step of it does. -/
theorem exists_mapM {f : α → Except ε β} {xs : List α} (h : ∀ x ∈ xs, ∃ y, f x = .ok y) :
    ∃ ys, xs.mapM f = .ok ys := by
  induction xs with
  | nil => exact ⟨[], List.mapM_nil⟩
  | cons x xs ih =>
    obtain ⟨y, hy⟩ := h x List.mem_cons_self
    obtain ⟨ys, hys⟩ := ih fun z hz => h z (List.mem_cons_of_mem x hz)
    refine ⟨y :: ys, ?_⟩
    rw [List.mapM_cons, hy, hys]
    rfl

/-- `if c { return Err(error) }`. -/
def refuseIf (c : Prop) [Decidable c] (error : ε) : Except ε Unit :=
  if c then .error error else .ok ()

@[simp] theorem refuseIf_ok {c : Prop} [Decidable c] {error : ε} {u : Unit} :
    refuseIf c error = .ok u ↔ ¬ c := by
  unfold refuseIf
  split
  · next hc => exact ⟨fun h => (nomatch h), fun h => absurd hc h⟩
  · next hc => exact ⟨fun _ => hc, fun _ => rfl⟩

/-- A loop of checks that went through. -/
theorem forM_ok {f : α → Except ε PUnit} {xs : List α} {u : PUnit} (h : xs.forM f = .ok u) :
    ∀ x ∈ xs, f x = .ok u := by
  induction xs with
  | nil =>
    intro x hx
    cases hx
  | cons y ys ih =>
    rw [List.forM_eq_forM, List.forM_cons] at h
    obtain ⟨_, hy, hys⟩ := bind_ok.mp h
    intro x hx
    rcases List.mem_cons.mp hx with rfl | hx
    · exact hy
    · exact ih hys x hx

theorem forM_of_ok {f : α → Except ε PUnit} {xs : List α} {u : PUnit}
    (h : ∀ x ∈ xs, f x = .ok u) : xs.forM f = .ok u := by
  induction xs with
  | nil => rfl
  | cons y ys ih =>
    rw [List.forM_eq_forM, List.forM_cons]
    exact bind_ok.mpr ⟨u, h y List.mem_cons_self,
      ih fun x hx => h x (List.mem_cons_of_mem _ hx)⟩

end LlmUniversalProxy.Lib.Result
