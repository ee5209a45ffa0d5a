import Mathlib.Algebra.GroupWithZero.Nat
import Mathlib.Data.List.AList

/-!
# `Lib.Ledger` — a finite map whose entries have a weight

Caches and stores often keep the total weight of their entries in a counter of its own and adjust
it on each insertion and removal. `total` is what such a counter should say. Its lemmas give the
adjustment for one insertion of a fresh key and for one removal, which is all that a counter kept
by hand does.
-/

set_option autoImplicit false

namespace LlmUniversalProxy.Lib

universe u v

variable {K : Type u} {V : Type v}

/-- A `HashMap` as an association list without repeated keys. -/
abbrev FinMap (K : Type u) (V : Type v) := AList fun _ : K => V

namespace FinMap

def weight (w : V → Nat) (entries : List (Sigma fun _ : K => V)) : Nat :=
  (entries.map fun e => w e.2).sum

def total (w : V → Nat) (m : FinMap K V) : Nat := weight w m.entries

@[simp] theorem weight_cons (w : V → Nat) (e : Sigma fun _ : K => V)
    (entries : List (Sigma fun _ : K => V)) :
    weight w (e :: entries) = w e.2 + weight w entries := by simp [weight]

@[simp] theorem total_empty (w : V → Nat) : total w (∅ : FinMap K V) = 0 := rfl

variable [DecidableEq K]

theorem total_insert {w : V → Nat} {m : FinMap K V} {k : K} (v : V) (h : k ∉ m) :
    total w (m.insert k v) = w v + total w m := by
  rw [total, AList.entries_insert_of_notMem h, weight_cons, total]

theorem weight_kerase {w : V → Nat} {k : K} {v : V} :
    ∀ {entries : List (Sigma fun _ : K => V)}, entries.dlookup k = some v →
      w v + weight w (entries.kerase k) = weight w entries
  | [], h => by simp at h
  | ⟨l, x⟩ :: rest, h => by
    by_cases hk : k = l
    · subst hk
      have hx : x = v := by simpa using h
      simp [hx]
    · have hrest : rest.dlookup k = some v := by simpa [hk] using h
      have ih := weight_kerase (w := w) hrest
      have hne : (rest.cons ⟨l, x⟩).kerase k = ⟨l, x⟩ :: rest.kerase k :=
        List.kerase_cons_ne hk
      rw [hne, weight_cons, weight_cons]
      show w v + (w x + _) = w x + _
      omega

/-- A removal takes off exactly the weight of what it removes. -/
theorem total_erase {w : V → Nat} {m : FinMap K V} {k : K} {v : V} (h : m.lookup k = some v) :
    w v + total w (m.erase k) = total w m :=
  weight_kerase h

theorem kerase_filter {p : V → Bool} {k : K} :
    ∀ {entries : List (Sigma fun _ : K => V)},
      (∀ v, entries.dlookup k = some v → p v = false) →
      (entries.kerase k).filter (fun e => p e.2) = entries.filter fun e => p e.2
  | [], _ => rfl
  | ⟨l, x⟩ :: rest, h => by
    by_cases hk : k = l
    · subst hk
      have hx : p x = false := h x (by simp)
      simp [hx]
    · have hrest : ∀ v, rest.dlookup k = some v → p v = false := fun v hv =>
        h v (by simpa [hk] using hv)
      have ih := kerase_filter hrest
      have hne : (rest.cons ⟨l, x⟩).kerase k = ⟨l, x⟩ :: rest.kerase k :=
        List.kerase_cons_ne hk
      rw [hne, List.filter_cons, List.filter_cons, ih]

/-- A removal does not show among the entries it does not concern. -/
theorem filter_erase {p : V → Bool} {m : FinMap K V} {k : K}
    (h : ∀ v, m.lookup k = some v → p v = false) :
    (m.erase k).entries.filter (fun e => p e.2) = m.entries.filter fun e => p e.2 :=
  kerase_filter h

theorem mem_entries_iff {m : FinMap K V} {k : K} {v : V} :
    ⟨k, v⟩ ∈ m.entries ↔ m.lookup k = some v :=
  AList.mem_lookup_iff.symm

theorem lookup_insert_eq (m : FinMap K V) (k l : K) (v : V) :
    (m.insert k v).lookup l = if l = k then some v else m.lookup l := by
  by_cases h : l = k
  · subst h; simp
  · rw [AList.lookup_insert_ne h, if_neg h]

theorem lookup_erase_eq (m : FinMap K V) (k l : K) :
    (m.erase k).lookup l = if l = k then none else m.lookup l := by
  by_cases h : l = k
  · subst h; simp
  · rw [AList.lookup_erase_ne h, if_neg h]

end FinMap
end LlmUniversalProxy.Lib
