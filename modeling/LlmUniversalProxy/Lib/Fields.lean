import Mathlib.Data.List.Basic

/-!
# `Lib.Fields` — fields joined by a separator

A text that is put together from fields with a separator between them can be read back from
either end, as far as the fields do not contain the separator: `firstField_inj` reads the first
field, `lastField_inj` the last one. A field that may contain the separator has to be the one that
is left over.
-/

set_option autoImplicit false

namespace LlmUniversalProxy.Lib

universe u

variable {α : Type u} {sep : α} {x y u v : List α}

theorem firstField_inj {x y : List α} (hx : sep ∉ x) (hy : sep ∉ y)
    (h : x ++ sep :: u = y ++ sep :: v) : x = y ∧ u = v := by
  induction x generalizing y with
  | nil =>
    cases y with
    | nil => exact ⟨rfl, (List.cons.inj h).2⟩
    | cons b y => exact absurd ((List.cons.inj h).1 ▸ List.mem_cons_self) hy
  | cons a x ih =>
    cases y with
    | nil => exact absurd ((List.cons.inj h).1 ▸ List.mem_cons_self) hx
    | cons b y =>
      obtain ⟨rfl, htail⟩ := List.cons.inj h
      obtain ⟨rfl, huv⟩ := ih (fun hm => hx (List.mem_cons_of_mem _ hm))
        (fun hm => hy (List.mem_cons_of_mem _ hm)) htail
      exact ⟨rfl, huv⟩

theorem lastField_inj (hu : sep ∉ u) (hv : sep ∉ v) (h : x ++ sep :: u = y ++ sep :: v) :
    x = y ∧ u = v := by
  have hrev : u.reverse ++ sep :: x.reverse = v.reverse ++ sep :: y.reverse := by
    simpa using congrArg List.reverse h
  obtain ⟨huv, hxy⟩ := firstField_inj (by simpa using hu) (by simpa using hv) hrev
  exact ⟨List.reverse_injective hxy, List.reverse_injective huv⟩

end LlmUniversalProxy.Lib
