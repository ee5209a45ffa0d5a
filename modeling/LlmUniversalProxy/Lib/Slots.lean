import Mathlib.Data.List.Nodup
import Mathlib.Data.List.Perm.Basic
import Mathlib.Data.List.Sort

/-!
# `Lib.Slots` — items that are told of under numbers

A producer has holders, and hands numbers out to them: a holder is given a number before it says
anything, and no two holders have the same. Under its number a holder opens an item, speaks of it
as long as it is open, and is done with it once. `Told` is what a listener has heard of the items,
and refuses what does not belong there. `Board` is what the producer remembers. `Told.Matches` ties
the two together, and there is one lemma for each thing a producer does.
-/

set_option autoImplicit false

namespace LlmUniversalProxy.Lib.Slots

universe u v w

variable {H : Type u} {A : Type v} {B : Type w}

/-! ## The listener -/

/-- The items that are open, and those that are done, as they were done. -/
structure Told (A : Type v) (B : Type w) where
  opened : List (Nat × A) := []
  done : List (Nat × B) := []
  deriving DecidableEq

namespace Told

/-- The number has been heard of. -/
def Used (t : Told A B) (i : Nat) : Prop := i ∈ t.opened.map Prod.fst ∨ i ∈ t.done.map Prod.fst

instance (t : Told A B) (i : Nat) : Decidable (t.Used i) := inferInstanceAs (Decidable (_ ∨ _))

/-- A new item. -/
def add (t : Told A B) (i : Nat) (a : A) : Option (Told A B) :=
  if t.Used i then none else some { t with opened := (i, a) :: t.opened }

variable [DecidableEq A]

def inside (t : Told A B) (i : Nat) (a : A) : Option (Told A B) :=
  if (i, a) ∈ t.opened then some t else none

/-- The end of an open item. -/
def finish (t : Told A B) (i : Nat) (a : A) (b : B) : Option (Told A B) :=
  if (i, a) ∈ t.opened then
    some { opened := t.opened.erase (i, a), done := t.done ++ [(i, b)] }
  else none

end Told

/-! ## The producer -/

/-- The numbers that holders have, the items they have opened and those they are done with. -/
structure Board (H : Type u) (A : Type v) (B : Type w) where
  next : Nat
  index : H → Option Nat
  opened : H → Option A
  done : H → Option B

/-- Everything was said under the number of its holder, and nothing was said twice. -/
structure Told.Matches (t : Told A B) (b : Board H A B) : Prop where
  below : ∀ h i, b.index h = some i → i < b.next
  unique : ∀ h h' i, b.index h = some i → b.index h' = some i → h = h'
  opened : ∀ i a, (i, a) ∈ t.opened ↔ ∃ h, b.index h = some i ∧ b.opened h = some a
  done : ∀ i d, (i, d) ∈ t.done ↔ ∃ h, b.index h = some i ∧ b.done h = some d
  once : (t.opened.map Prod.fst ++ t.done.map Prod.fst).Nodup

/-- An item is nobody's but a holder's that keeps its number. -/
theorem exists_reindexed {C : Type*} {index index' : H → Option Nat} {item : H → Option C} {h₀ : H}
    (hothers : ∀ h, h ≠ h₀ → index' h = index h) (hnone : item h₀ = none) {i : Nat} {c : C} :
    (∃ h, index h = some i ∧ item h = some c) ↔ ∃ h, index' h = some i ∧ item h = some c := by
  have hne : ∀ h, item h = some c → h ≠ h₀ := by
    rintro h hitem rfl
    rw [hnone] at hitem
    cases hitem
  constructor
  · rintro ⟨h, hindex, hitem⟩
    exact ⟨h, (hothers h (hne h hitem)).trans hindex, hitem⟩
  · rintro ⟨h, hindex, hitem⟩
    exact ⟨h, (hothers h (hne h hitem)).symm.trans hindex, hitem⟩

namespace Told.Matches

variable {t : Told A B} {b b' : Board H A B}

/-- Nothing has been told of a board without numbers. -/
theorem empty (hempty : ∀ h, b.index h = none) : ({} : Told A B).Matches b := by
  have hno : ∀ h i, b.index h ≠ some i := by
    intro h i hindex
    rw [hempty] at hindex
    cases hindex
  refine ⟨fun h i hindex => absurd hindex (hno h i),
    fun h _ i hindex _ => absurd hindex (hno h i), ?_, ?_, List.nodup_nil⟩
  · intro i a
    constructor
    · intro hmem
      cases hmem
    · rintro ⟨h, hindex, -⟩
      exact absurd hindex (hno h i)
  · intro i d
    constructor
    · intro hmem
      cases hmem
    · rintro ⟨h, hindex, -⟩
      exact absurd hindex (hno h i)

theorem eq_empty (hm : t.Matches b) (hempty : ∀ h, b.index h = none) :
    t.opened = [] ∧ t.done = [] := by
  constructor
  · refine List.eq_nil_iff_forall_not_mem.mpr ?_
    intro item hmem
    obtain ⟨h, hindex, -⟩ := (hm.opened item.1 item.2).mp hmem
    rw [hempty] at hindex
    cases hindex
  · refine List.eq_nil_iff_forall_not_mem.mpr ?_
    intro item hmem
    obtain ⟨h, hindex, -⟩ := (hm.done item.1 item.2).mp hmem
    rw [hempty] at hindex
    cases hindex

/-- Another board that says the same. -/
theorem congr (hm : t.Matches b) (hnext : b'.next = b.next) (hindex : ∀ h, b'.index h = b.index h)
    (hopened : ∀ h, b'.opened h = b.opened h) (hdone : ∀ h, b'.done h = b.done h) :
    t.Matches b' := by
  have hsame : b' = b := by
    cases b
    cases b'
    simp only [Board.mk.injEq]
    exact ⟨hnext, funext hindex, funext hopened, funext hdone⟩
  rw [hsame]
  exact hm

/-- A number that is used belongs to a holder that has an item. -/
theorem holder_of_used (hm : t.Matches b) {i : Nat} (hused : t.Used i) :
    ∃ h, b.index h = some i ∧ ((b.opened h).isSome = true ∨ (b.done h).isSome = true) := by
  rcases hused with hused | hused
  · obtain ⟨⟨j, a⟩, hmem, rfl⟩ := List.mem_map.mp hused
    obtain ⟨h, hindex, hopened⟩ := (hm.opened j a).mp hmem
    exact ⟨h, hindex, .inl (by rw [hopened]; rfl)⟩
  · obtain ⟨⟨j, d⟩, hmem, rfl⟩ := List.mem_map.mp hused
    obtain ⟨h, hindex, hdone⟩ := (hm.done j d).mp hmem
    exact ⟨h, hindex, .inr (by rw [hdone]; rfl)⟩

/-- **A holder without an item is given the next number.** -/
theorem reserve (hm : t.Matches b) {h₀ : H} (hnext : b'.next = b.next + 1)
    (hnew : b'.index h₀ = some b.next) (hothers : ∀ h, h ≠ h₀ → b'.index h = b.index h)
    (hopened : ∀ h, b'.opened h = b.opened h) (hdone : ∀ h, b'.done h = b.done h)
    (hquiet : b.opened h₀ = none ∧ b.done h₀ = none) : t.Matches b' := by
  refine ⟨?_, ?_, ?_, ?_, hm.once⟩
  · intro h i hindex
    rw [hnext]
    by_cases hh : h = h₀
    · subst hh
      rw [hnew] at hindex
      cases hindex
      exact Nat.lt_succ_self _
    · exact Nat.lt_succ_of_lt (hm.below h i ((hothers h hh).symm.trans hindex))
  · intro h h' i hindex hindex'
    have hfresh : ∀ g, g ≠ h₀ → b'.index g ≠ some b.next := by
      intro g hg hindex
      exact Nat.lt_irrefl _ (hm.below g _ ((hothers g hg).symm.trans hindex))
    by_cases hh : h = h₀
    · subst hh
      rw [hnew] at hindex
      cases hindex
      by_contra hne
      exact hfresh h' (fun heq => hne heq.symm) hindex'
    · by_cases hh' : h' = h₀
      · subst hh'
        rw [hnew] at hindex'
        cases hindex'
        exact absurd hindex (hfresh h hh)
      · exact hm.unique h h' i ((hothers h hh).symm.trans hindex)
          ((hothers h' hh').symm.trans hindex')
  · intro i a
    rw [hm.opened, exists_reindexed hothers hquiet.1]
    simp only [hopened]
  · intro i d
    rw [hm.done, exists_reindexed hothers hquiet.2]
    simp only [hdone]

/-- **A holder with a number and no item opens one.** -/
theorem add (hm : t.Matches b) {h₀ : H} {i : Nat} {a : A} (hindex : b.index h₀ = some i)
    (hquiet : b.opened h₀ = none ∧ b.done h₀ = none) (hnext : b'.next = b.next)
    (hsame : ∀ h, b'.index h = b.index h) (hnew : b'.opened h₀ = some a)
    (hothers : ∀ h, h ≠ h₀ → b'.opened h = b.opened h) (hdone : ∀ h, b'.done h = b.done h) :
    ∃ t', t.add i a = some t' ∧ t'.Matches b' := by
  have hfresh : ¬ t.Used i := by
    intro hused
    obtain ⟨h, hh, hitem⟩ := hm.holder_of_used hused
    rw [hm.unique h h₀ i hh hindex, hquiet.1, hquiet.2] at hitem
    simp at hitem
  refine ⟨{ t with opened := (i, a) :: t.opened }, if_neg hfresh, ?_, ?_, ?_, ?_, ?_⟩
  · intro h j hj
    rw [hnext]
    exact hm.below h j ((hsame h).symm.trans hj)
  · intro h h' j hj hj'
    exact hm.unique h h' j ((hsame h).symm.trans hj) ((hsame h').symm.trans hj')
  · intro j c
    simp only [hsame]
    constructor
    · intro hmem
      rcases List.mem_cons.mp hmem with heq | hmem
      · cases heq
        exact ⟨h₀, hindex, hnew⟩
      · obtain ⟨h, hj, hc⟩ := (hm.opened j c).mp hmem
        have hne : h ≠ h₀ := by
          rintro rfl
          rw [hquiet.1] at hc
          cases hc
        exact ⟨h, hj, (hothers h hne).trans hc⟩
    · rintro ⟨h, hj, hc⟩
      by_cases hh : h = h₀
      · subst hh
        rw [hindex] at hj
        rw [hnew] at hc
        cases hj
        cases hc
        exact List.mem_cons_self
      · exact List.mem_cons_of_mem _ ((hm.opened j c).mpr ⟨h, hj, (hothers h hh).symm.trans hc⟩)
  · intro j d
    rw [hm.done]
    simp only [hsame, hdone]
  · rw [List.map_cons, List.cons_append, List.nodup_cons]
    refine ⟨?_, hm.once⟩
    intro hmem
    exact hfresh (List.mem_append.mp hmem)

variable [DecidableEq A]

/-- A holder speaks of its item. -/
theorem inside (hm : t.Matches b) {h₀ : H} {i : Nat} {a : A} (hindex : b.index h₀ = some i)
    (hopen : b.opened h₀ = some a) : t.inside i a = some t :=
  if_pos ((hm.opened i a).mpr ⟨h₀, hindex, hopen⟩)

/-- The number of an item that is done moves from the open items to those that are done. -/
theorem nodup_moved (hm : t.Matches b) {i : Nat} {a : A} (d : B)
    (hmem : (i, a) ∈ t.opened) :
    ((t.opened.erase (i, a)).map Prod.fst ++ (t.done ++ [(i, d)]).map Prod.fst).Nodup := by
  have hperm : (t.opened.map Prod.fst ++ t.done.map Prod.fst).Perm
      ((t.opened.erase (i, a)).map Prod.fst ++ (t.done ++ [(i, d)]).map Prod.fst) := by
    have hcons := ((List.perm_cons_erase hmem).map Prod.fst).append_right (t.done.map Prod.fst)
    refine hcons.trans ?_
    rw [List.map_append, List.map_cons, List.cons_append, ← List.append_assoc]
    exact (List.perm_append_singleton i _).symm
  exact hperm.nodup_iff.mp hm.once

end Told.Matches

/-! ## The end of an item -/

/-- Between two boards the holder `h₀` is done with the item of its number, which it may leave, with
the number, to another holder `h₁`. -/
structure Board.Settled (b b' : Board H A B) (h₀ h₁ : H) (i : Nat) (d : B) : Prop where
  index : b.index h₀ = some i
  left : h₀ ≠ h₁ → b'.index h₀ = none ∧ b.index h₁ = none
  new : b'.index h₁ = some i ∧ b'.opened h₁ = none ∧ b'.done h₁ = some d
  others : ∀ h, h ≠ h₀ → h ≠ h₁ →
    b'.index h = b.index h ∧ b'.opened h = b.opened h ∧ b'.done h = b.done h

namespace Board.Settled

variable {t : Told A B} {b b' : Board H A B} {h₀ h₁ : H} {i : Nat} {d : B}

/-- A number of the new board is a number of the old one, of the same holder but for `h₁`. -/
theorem back (hs : b.Settled b' h₀ h₁ i d) {h : H} {j : Nat} (hj : b'.index h = some j)
    (hne : h ≠ h₁) : h ≠ h₀ ∧ b.index h = some j := by
  by_cases hh : h = h₀
  · subst hh
    rw [(hs.left hne).1] at hj
    cases hj
  · exact ⟨hh, (hs.others h hh hne).1.symm.trans hj⟩

/-- Another number is that of another holder. -/
theorem other (hs : b.Settled b' h₀ h₁ i d) {h : H} {j : Nat} (hj : b.index h = some j)
    (hji : j ≠ i) : h ≠ h₀ ∧ h ≠ h₁ := by
  refine ⟨?_, ?_⟩
  · rintro rfl
    rw [hs.index] at hj
    exact hji (Option.some.inj hj).symm
  · rintro rfl
    by_cases hsame : h₀ = h
    · subst hsame
      rw [hs.index] at hj
      exact hji (Option.some.inj hj).symm
    · rw [(hs.left hsame).2] at hj
      cases hj

theorem unique (hs : b.Settled b' h₀ h₁ i d) (hm : t.Matches b) (h h' : H) (j : Nat)
    (hj : b'.index h = some j) (hj' : b'.index h' = some j) : h = h' := by
  by_cases hh : h = h₁
  · by_cases hh' : h' = h₁
    · rw [hh, hh']
    · rw [hh, hs.new.1] at hj
      cases hj
      obtain ⟨hne, hj'⟩ := hs.back hj' hh'
      exact absurd (hm.unique h' h₀ i hj' hs.index) hne
  · by_cases hh' : h' = h₁
    · rw [hh', hs.new.1] at hj'
      cases hj'
      obtain ⟨hne, hj⟩ := hs.back hj hh
      exact absurd (hm.unique h h₀ i hj hs.index) hne
    · exact hm.unique h h' j (hs.back hj hh).2 (hs.back hj' hh').2

/-- The open items are those that were, but for the one of `h₀`. -/
theorem opened_iff (hs : b.Settled b' h₀ h₁ i d) (hm : t.Matches b) {a : A}
    (hopen : b.opened h₀ = some a) (j : Nat) (c : A) :
    (j, c) ≠ (i, a) ∧ (j, c) ∈ t.opened ↔ ∃ h, b'.index h = some j ∧ b'.opened h = some c := by
  rw [hm.opened]
  constructor
  · rintro ⟨hne, h, hj, hc⟩
    have hji : j ≠ i := by
      rintro rfl
      rw [hm.unique h h₀ j hj hs.index, hopen] at hc
      exact hne (by rw [Option.some.inj hc])
    obtain ⟨hh₀, hh₁⟩ := hs.other hj hji
    obtain ⟨hsameIndex, hsameOpened, -⟩ := hs.others h hh₀ hh₁
    exact ⟨h, hsameIndex.trans hj, hsameOpened.trans hc⟩
  · rintro ⟨h, hj, hc⟩
    have hh₁ : h ≠ h₁ := by
      rintro rfl
      rw [hs.new.2.1] at hc
      cases hc
    obtain ⟨hh₀, hj'⟩ := hs.back hj hh₁
    refine ⟨?_, h, hj', (hs.others h hh₀ hh₁).2.1.symm.trans hc⟩
    rintro heq
    cases heq
    exact hh₀ (hm.unique h h₀ i hj' hs.index)

/-- The items that are done are those that were, and the one of `h₁`. -/
theorem done_iff (hs : b.Settled b' h₀ h₁ i d) (hm : t.Matches b) {a : A}
    (hmem : (i, a) ∈ t.opened) (j : Nat) (c : B) :
    (j, c) ∈ t.done ++ [(i, d)] ↔ ∃ h, b'.index h = some j ∧ b'.done h = some c := by
  rw [List.mem_append, List.mem_singleton, hm.done]
  constructor
  · rintro (⟨h, hj, hc⟩ | heq)
    · have hji : j ≠ i := by
        rintro rfl
        have hused : (j, c) ∈ t.done := (hm.done j c).mpr ⟨h, hj, hc⟩
        have hapart := (List.nodup_append.mp hm.once).2.2 j
          (List.mem_map.mpr ⟨_, hmem, rfl⟩) j (List.mem_map.mpr ⟨_, hused, rfl⟩)
        exact hapart rfl
      obtain ⟨hh₀, hh₁⟩ := hs.other hj hji
      obtain ⟨hsameIndex, -, hsameDone⟩ := hs.others h hh₀ hh₁
      exact ⟨h, hsameIndex.trans hj, hsameDone.trans hc⟩
    · cases heq
      exact ⟨h₁, hs.new.1, hs.new.2.2⟩
  · rintro ⟨h, hj, hc⟩
    by_cases hh₁ : h = h₁
    · subst hh₁
      rw [hs.new.1] at hj
      rw [hs.new.2.2] at hc
      cases hj
      cases hc
      exact .inr rfl
    · obtain ⟨hh₀, hj'⟩ := hs.back hj hh₁
      exact .inl ⟨h, hj', (hs.others h hh₀ hh₁).2.2.symm.trans hc⟩

end Board.Settled

/-- **A holder is done with its item**, and may leave it, with its number, to another holder. -/
theorem Told.Matches.finish [DecidableEq A] {t : Told A B} {b b' : Board H A B}
    (hm : t.Matches b) {h₀ h₁ : H} {i : Nat} {a : A} {d : B}
    (hindex : b.index h₀ = some i) (hopen : b.opened h₀ = some a) (hnext : b'.next = b.next)
    (hleft : h₀ ≠ h₁ → b'.index h₀ = none ∧ b.index h₁ = none)
    (hnew : b'.index h₁ = some i ∧ b'.opened h₁ = none ∧ b'.done h₁ = some d)
    (hothers : ∀ h, h ≠ h₀ → h ≠ h₁ →
      b'.index h = b.index h ∧ b'.opened h = b.opened h ∧ b'.done h = b.done h) :
    ∃ t', t.finish i a d = some t' ∧ t'.Matches b' := by
  have hs : b.Settled b' h₀ h₁ i d := ⟨hindex, hleft, hnew, hothers⟩
  have hmem : (i, a) ∈ t.opened := (hm.opened i a).mpr ⟨h₀, hindex, hopen⟩
  have hnodup : t.opened.Nodup := .of_map _ (List.nodup_append.mp hm.once).1
  refine ⟨⟨t.opened.erase (i, a), t.done ++ [(i, d)]⟩, if_pos hmem, ?_, hs.unique hm, ?_,
    hs.done_iff hm hmem, hm.nodup_moved d hmem⟩
  · intro h j hj
    rw [hnext]
    by_cases hh : h = h₁
    · subst hh
      rw [hnew.1] at hj
      cases hj
      exact hm.below h₀ i hindex
    · exact hm.below h j (hs.back hj hh).2
  · intro j c
    rw [← hs.opened_iff hm hopen, hnodup.mem_erase_iff]

/-! ## In order -/

def inOrder (items : List (Nat × B)) : List B :=
  (items.mergeSort fun a b => a.1 ≤ b.1).map Prod.snd

/-- With different numbers, there is one order. -/
theorem inOrder_congr {xs ys : List (Nat × B)} (h : xs.Perm ys)
    (hnodup : (xs.map Prod.fst).Nodup) : inOrder xs = inOrder ys := by
  have hsorted : ∀ zs : List (Nat × B), (zs.map Prod.fst).Nodup →
      (zs.mergeSort fun a b => a.1 ≤ b.1).Pairwise fun a b => a.1 < b.1 := by
    intro zs hzs
    have hle : (zs.mergeSort fun a b => a.1 ≤ b.1).Pairwise fun a b => a.1 ≤ b.1 := by
      have hsort := @List.pairwise_mergeSort (Nat × B) (fun a b => decide (a.1 ≤ b.1))
        (fun a b c => by simpa using Nat.le_trans) (fun a b => by simpa using Nat.le_total _ _) zs
      exact hsort.imp (fun h => by simpa using h)
    have hne : (zs.mergeSort fun a b => a.1 ≤ b.1).Pairwise fun a b => a.1 ≠ b.1 := by
      have hmap := ((zs.mergeSort_perm fun a b => a.1 ≤ b.1).map Prod.fst).nodup_iff.mpr hzs
      exact List.pairwise_map.mp hmap
    exact (hle.and hne).imp fun h => Nat.lt_of_le_of_ne h.1 h.2
  have hperm : (xs.mergeSort fun a b => a.1 ≤ b.1).Perm (ys.mergeSort fun a b => a.1 ≤ b.1) :=
    ((xs.mergeSort_perm _).trans h).trans (ys.mergeSort_perm _).symm
  unfold inOrder
  rw [hperm.eq_of_pairwise (fun a b _ _ hab hba => absurd hab (Nat.lt_asymm hba))
    (hsorted xs hnodup) (hsorted ys ((h.map Prod.fst).nodup_iff.mp hnodup))]

/-- The item that a holder is done with, and its number. -/
def Board.place (b : Board H A B) (h : H) : Option (Nat × B) :=
  (b.index h).bind fun i => (b.done h).map fun d => (i, d)

theorem Board.place_eq_some {b : Board H A B} {h : H} {i : Nat} {d : B} :
    b.place h = some (i, d) ↔ b.index h = some i ∧ b.done h = some d := by
  unfold place
  constructor
  · intro hplace
    obtain ⟨j, hindex, hrest⟩ := Option.bind_eq_some_iff.mp hplace
    obtain ⟨e, hdone, heq⟩ := Option.map_eq_some_iff.mp hrest
    cases heq
    exact ⟨hindex, hdone⟩
  · rintro ⟨hindex, hdone⟩
    rw [hindex, hdone]
    rfl

/-- **What has been done** is what the holders tell of, asked one by one in any order. -/
theorem Told.Matches.inOrder_done {t : Told A B} {b : Board H A B} (hm : t.Matches b)
    {holders : List H} (hnodup : holders.Nodup)
    (hall : ∀ h, (b.done h).isSome = true → h ∈ holders) {items : List (Nat × B)}
    (hitems : items.Perm (holders.filterMap b.place)) : inOrder t.done = inOrder items := by
  have hdone : (t.done.map Prod.fst).Nodup := (List.nodup_append.mp hm.once).2.1
  -- two holders never have the same number
  have hplaces : ((holders.filterMap b.place).map Prod.fst).Nodup := by
    refine List.pairwise_map.mpr (List.pairwise_filterMap.mpr (hnodup.imp ?_))
    intro h h' hne item hitem item' hitem' heq
    obtain ⟨hindex, -⟩ := Board.place_eq_some.mp hitem
    obtain ⟨hindex', -⟩ := Board.place_eq_some.mp hitem'
    exact hne (hm.unique h h' item.1 hindex (heq ▸ hindex'))
  have hperm : t.done.Perm (holders.filterMap b.place) := by
    refine (List.perm_ext_iff_of_nodup (List.Nodup.of_map _ hdone)
      (List.Nodup.of_map _ hplaces)).mpr ?_
    intro item
    obtain ⟨i, d⟩ := item
    rw [hm.done, List.mem_filterMap]
    constructor
    · rintro ⟨h, hindex, hd⟩
      exact ⟨h, hall h (by rw [hd]; rfl), Board.place_eq_some.mpr ⟨hindex, hd⟩⟩
    · rintro ⟨h, -, hplace⟩
      exact ⟨h, Board.place_eq_some.mp hplace⟩
  exact inOrder_congr (hperm.trans hitems.symm) hdone

end LlmUniversalProxy.Lib.Slots
