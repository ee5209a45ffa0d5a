import Mathlib.Data.List.Basic

/-!
# `Lib.Regroup` — a list let go in groups

Items are taken one by one. Some are held back; any other item closes what was held back, either by
joining it in one group or by letting it go on its own first. Nothing is lost, nothing is reordered,
and what was held back never falls behind an item that came later.
-/

set_option autoImplicit false

namespace LlmUniversalProxy.Lib.Regroup

universe u

variable {α : Type u}

/-- The groups that were let go, and the items held back. -/
structure State (α : Type u) where
  released : List (List α) := []
  pending : List α := []

/-- What was held back makes a group of its own, if there is any. -/
def State.flush (self : State α) : List (List α) :=
  if self.pending.isEmpty then self.released else self.released ++ [self.pending]

theorem State.flatten_flush (self : State α) :
    self.flush.flatten = self.released.flatten ++ self.pending := by
  unfold State.flush
  split
  · next h => rw [List.isEmpty_iff.mp h, List.append_nil]
  · rw [List.flatten_append, List.flatten_singleton]

section

variable (held joins : α → Bool)

def step (s : State α) (x : α) : State α :=
  if held x then { s with pending := s.pending ++ [x] }
  else if joins x then ⟨s.released ++ [s.pending ++ [x]], []⟩
  else ⟨s.flush ++ [[x]], []⟩

def groups (xs : List α) : List (List α) := (xs.foldl (step held joins) {}).flush

/-! ## Nothing is lost -/

theorem flatten_step (s : State α) (x : α) :
    (step held joins s x).flush.flatten = s.flush.flatten ++ [x] := by
  unfold step
  split
  · simp only [State.flatten_flush, List.append_assoc]
  split
  · simp only [State.flatten_flush, List.flatten_append, List.flatten_singleton, List.append_assoc,
      List.append_nil]
  · simp only [State.flatten_flush, List.flatten_append, List.flatten_singleton, List.append_nil]

theorem flatten_run (xs : List α) (s : State α) :
    (xs.foldl (step held joins) s).flush.flatten = s.flush.flatten ++ xs := by
  induction xs generalizing s with
  | nil => exact (List.append_nil _).symm
  | cons x xs ih =>
    rw [List.foldl_cons, ih, flatten_step, List.append_assoc]
    rfl

/-- The groups, one after the other, are the items in their order. -/
theorem flatten_groups (xs : List α) : (groups held joins xs).flatten = xs :=
  flatten_run held joins xs {}

/-! ## The shape of a group -/

/-- Items that were held back, with at most one item behind them, which joins them. -/
def IsGroup (g : List α) : Prop :=
  ∃ front last, g = front ++ Option.toList last ∧ (∀ x ∈ front, held x = true) ∧
    ∀ x ∈ last, held x = false ∧ (front ≠ [] → joins x = true)

structure Invariant (s : State α) : Prop where
  released : ∀ g ∈ s.released, IsGroup held joins g
  pending : ∀ x ∈ s.pending, held x = true

variable {held joins}

theorem Invariant.flush {s : State α} (h : Invariant held joins s) :
    ∀ g ∈ s.flush, IsGroup held joins g := by
  intro g hg
  unfold State.flush at hg
  split at hg
  · exact h.released g hg
  · rcases List.mem_append.mp hg with hg | hg
    · exact h.released g hg
    · rw [List.mem_singleton.mp hg]
      exact ⟨s.pending, none, (List.append_nil _).symm, h.pending, fun x hx => (nomatch hx)⟩

theorem Invariant.step {s : State α} (h : Invariant held joins s) (x : α) :
    Invariant held joins (step held joins s x) := by
  unfold Regroup.step
  split
  · next hheld =>
    refine ⟨h.released, ?_⟩
    intro y hy
    rcases List.mem_append.mp hy with hy | hy
    · exact h.pending y hy
    · rwa [List.mem_singleton.mp hy]
  next hheld =>
  have hheld : held x = false := Bool.not_eq_true _ ▸ hheld
  split
  · next hjoins =>
    refine ⟨?_, fun y hy => absurd hy List.not_mem_nil⟩
    intro g hg
    rcases List.mem_append.mp hg with hg | hg
    · exact h.released g hg
    · rw [List.mem_singleton.mp hg]
      refine ⟨s.pending, some x, rfl, h.pending, ?_⟩
      rintro y ⟨rfl⟩
      exact ⟨hheld, fun _ => hjoins⟩
  · refine ⟨?_, fun y hy => absurd hy List.not_mem_nil⟩
    intro g hg
    rcases List.mem_append.mp hg with hg | hg
    · exact h.flush g hg
    · rw [List.mem_singleton.mp hg]
      refine ⟨[], some x, rfl, fun y hy => absurd hy List.not_mem_nil, ?_⟩
      rintro y ⟨rfl⟩
      exact ⟨hheld, fun hfront => absurd rfl hfront⟩

theorem Invariant.run (xs : List α) {s : State α} (h : Invariant held joins s) :
    Invariant held joins (xs.foldl (Regroup.step held joins) s) := by
  induction xs generalizing s with
  | nil => exact h
  | cons x xs ih => exact ih (h.step x)

theorem isGroup_of_mem {xs g : List α} (hg : g ∈ groups held joins xs) : IsGroup held joins g := by
  have hinitial : Invariant held joins {} :=
    ⟨fun g hg => absurd hg List.not_mem_nil, fun x hx => absurd hx List.not_mem_nil⟩
  exact (hinitial.run xs).flush g hg

theorem held_mem_front {front : List α} {last : Option α} (hlast : ∀ x ∈ last, held x = false)
    {x : α} (hx : x ∈ front ++ last.toList) (hheld : held x = true) : x ∈ front := by
  rcases List.mem_append.mp hx with hx | hx
  · exact hx
  · rw [hlast x (Option.mem_toList.mp hx)] at hheld
    cases hheld

/-- Where an item was held back, the last item of its group was too, or else joins it. -/
theorem IsGroup.getLast {g : List α} (hg : IsGroup held joins g) {x : α} (hx : x ∈ g)
    (hheld : held x = true) :
    ∃ last, g.getLast? = some last ∧ (held last = true ∨ joins last = true) := by
  obtain ⟨front, last, rfl, hfront, hlast⟩ := hg
  have hmem : x ∈ front := held_mem_front (fun y hy => (hlast y hy).1) hx hheld
  have hne : front ≠ [] := List.ne_nil_of_mem hmem
  cases last with
  | none =>
    rw [Option.toList_none, List.append_nil]
    exact ⟨front.getLast hne, List.getLast?_eq_getLast_of_ne_nil hne,
      .inl (hfront _ (List.getLast_mem hne))⟩
  | some y => exact ⟨y, List.getLast?_concat, .inr ((hlast y rfl).2 hne)⟩

/-- An item that shares a group with one that was held back was held back too, or joins it. -/
theorem IsGroup.joins_of_mem {g : List α} (hg : IsGroup held joins g) {x y : α} (hx : x ∈ g)
    (hheld : held x = true) (hy : y ∈ g) (hother : held y = false) : joins y = true := by
  obtain ⟨front, last, rfl, hfront, hlast⟩ := hg
  have hmem : x ∈ front := held_mem_front (fun z hz => (hlast z hz).1) hx hheld
  rcases List.mem_append.mp hy with hy | hy
  · rw [hfront y hy] at hother
    cases hother
  · exact (hlast y (Option.mem_toList.mp hy)).2 (List.ne_nil_of_mem hmem)

end

/-! ## The order of the groups -/

/-- In groups of items that are in order, an earlier item is in no later group. -/
theorem index_le {gs : List (List α)} {r : α → α → Prop} (hasymm : ∀ x y, r x y → ¬ r y x)
    (hsorted : gs.flatten.Pairwise r) {i j : Nat} {g g' : List α} (hi : gs[i]? = some g)
    (hj : gs[j]? = some g') {x y : α} (hx : x ∈ g) (hy : y ∈ g') (hr : r x y) : i ≤ j := by
  by_contra hlt
  have hlt : j < i := Nat.lt_of_not_le hlt
  obtain ⟨hi', rfl⟩ := List.getElem?_eq_some_iff.mp hi
  obtain ⟨hj', rfl⟩ := List.getElem?_eq_some_iff.mp hj
  have hpairs := List.pairwise_iff_getElem.mp (List.pairwise_flatten.mp hsorted).2
  exact hasymm x y hr (hpairs j i hj' hi' hlt y hy x hx)

end LlmUniversalProxy.Lib.Regroup
