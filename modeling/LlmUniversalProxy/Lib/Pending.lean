import Mathlib.Data.List.Basic

/-!
# `Lib.Pending` — a log of openings and closings

A log opens things and closes them again; what is open may not be opened once more, and what is not
open may not be closed. `settle` reads such a log and answers what it leaves open, or `none` when
it breaks one of the two rules. The two facts about it that a log in rounds needs: a round of
closings of everything that is open settles it (`settle_closes`), and a round of openings goes
well exactly when it opens nothing twice (`settle_opens`).
-/

set_option autoImplicit false

namespace LlmUniversalProxy.Lib

universe u

/-- What an entry of the log does. -/
inductive Mark (K : Type u) where
  | opens (key : K)
  | closes (key : K)
  | neutral
  deriving DecidableEq

namespace Mark

variable {K : Type u} [DecidableEq K]

/-- The keys left open, in the order in which they were opened. -/
def settle : List K → List (Mark K) → Option (List K)
  | pending, [] => some pending
  | pending, .opens k :: marks => if k ∈ pending then none else settle (pending ++ [k]) marks
  | pending, .closes k :: marks => if k ∈ pending then settle (pending.erase k) marks else none
  | pending, .neutral :: marks => settle pending marks

def opened : Mark K → Option K
  | .opens k => some k
  | _ => none

def closed : Mark K → Option K
  | .closes k => some k
  | _ => none

theorem settle_append (marks more : List (Mark K)) :
    ∀ pending : List K, settle pending (marks ++ more) =
      (settle pending marks).bind fun rest => settle rest more := by
  induction marks with
  | nil => intro pending; rfl
  | cons mark marks ih =>
    intro pending
    cases mark with
    | opens k =>
      simp only [List.cons_append, settle]
      split
      · rfl
      · exact ih _
    | closes k =>
      simp only [List.cons_append, settle]
      split
      · exact ih _
      · rfl
    | neutral => exact ih pending

/-- Nothing is ever open twice. -/
theorem settle_nodup {marks : List (Mark K)} :
    ∀ {pending rest : List K}, pending.Nodup → settle pending marks = some rest → rest.Nodup := by
  induction marks with
  | nil =>
    intro pending rest hnodup h
    exact Option.some.inj h ▸ hnodup
  | cons mark marks ih =>
    intro pending rest hnodup h
    cases mark with
    | opens k =>
      simp only [settle] at h
      split at h
      · cases h
      · next hk =>
        refine ih (List.nodup_append.mpr ⟨hnodup, List.pairwise_singleton _ k, ?_⟩) h
        rintro a ha b hb rfl
        exact hk (List.mem_singleton.mp hb ▸ ha)
    | closes k =>
      simp only [settle] at h
      split at h
      · exact ih (hnodup.erase k) h
      · cases h
    | neutral => exact ih hnodup h

/-- A log that closes nothing goes well exactly when no key is opened twice. -/
theorem settle_opens {marks : List (Mark K)} (h : ∀ mark ∈ marks, mark.closed = none) :
    ∀ {pending rest : List K}, pending.Nodup →
      (settle pending marks = some rest ↔
        rest = pending ++ marks.filterMap opened ∧ rest.Nodup) := by
  induction marks with
  | nil =>
    intro pending rest hnodup
    simp only [settle, Option.some.injEq, List.filterMap_nil, List.append_nil]
    exact ⟨fun e => ⟨e.symm, e ▸ hnodup⟩, fun e => e.1.symm⟩
  | cons mark marks ih =>
    intro pending rest hnodup
    have hlater : ∀ m ∈ marks, m.closed = none := fun m hm => h m (List.mem_cons_of_mem _ hm)
    cases mark with
    | opens k =>
      have hopened : (opens k :: marks).filterMap opened = k :: marks.filterMap opened := rfl
      rw [hopened]
      simp only [settle]
      by_cases hk : k ∈ pending
      · rw [if_pos hk]
        refine ⟨fun e => (nomatch e), ?_⟩
        rintro ⟨rfl, hdup⟩
        exact absurd rfl ((List.nodup_append.mp hdup).2.2 k hk k List.mem_cons_self)
      · have hnext : (pending ++ [k]).Nodup := by
          refine List.nodup_append.mpr ⟨hnodup, List.pairwise_singleton _ k, ?_⟩
          rintro a ha b hb rfl
          exact hk (List.mem_singleton.mp hb ▸ ha)
        rw [if_neg hk, ih hlater hnext, List.append_assoc, List.singleton_append]
    | closes k => exact absurd (h _ List.mem_cons_self) (by simp [closed])
    | neutral => exact ih hlater hnodup

/-- A log that opens nothing and closes what is open, each key once, settles it. -/
theorem settle_closes {marks : List (Mark K)} (h : ∀ mark ∈ marks, mark.opened = none) :
    ∀ {pending : List K}, pending.Nodup → (marks.filterMap closed).Perm pending →
      settle pending marks = some [] := by
  induction marks with
  | nil =>
    intro pending _ hperm
    rw [List.nil_perm.mp hperm]
    rfl
  | cons mark marks ih =>
    intro pending hnodup hperm
    have hlater : ∀ m ∈ marks, m.opened = none := fun m hm => h m (List.mem_cons_of_mem _ hm)
    cases mark with
    | opens k => exact absurd (h _ List.mem_cons_self) (by simp [opened])
    | closes k =>
      simp only [List.filterMap_cons, closed] at hperm
      have hk : k ∈ pending := hperm.subset List.mem_cons_self
      simp only [settle, if_pos hk]
      refine ih hlater (hnodup.erase k) ?_
      have := hperm.erase k
      rwa [List.erase_cons_head] at this
    | neutral =>
      simp only [List.filterMap_cons, closed] at hperm
      exact ih hlater hnodup hperm

omit [DecidableEq K] in
/-- The closings of some keys, in any order, are the closings of these keys in an order. -/
theorem eq_closes_of_perm {marks : List (Mark K)} {keys : List K}
    (h : marks.Perm (keys.map closes)) :
    ∃ order : List K, marks = order.map closes ∧ order.Perm keys := by
  have hall : ∀ mark ∈ marks, ∃ k, mark = closes k := by
    intro mark hmark
    obtain ⟨k, _, rfl⟩ := List.mem_map.mp (h.subset hmark)
    exact ⟨k, rfl⟩
  refine ⟨marks.filterMap closed, ?_, ?_⟩
  · clear h
    induction marks with
    | nil => rfl
    | cons mark marks ih =>
      obtain ⟨⟨k, rfl⟩, hrest⟩ := List.forall_mem_cons.mp hall
      rw [List.filterMap_cons_some (show (closes k).closed = some k from rfl), List.map_cons,
        ← ih hrest]
  · have hperm := h.filterMap closed
    rwa [List.filterMap_map, show (closed ∘ closes : K → Option K) = some from rfl,
      List.filterMap_some] at hperm

/-! ## The entries of one key -/

/-- The key that an entry names. -/
def key : Mark K → Option K
  | .opens k => some k
  | .closes k => some k
  | .neutral => none

def entriesOf (k : K) (marks : List (Mark K)) : List (Mark K) :=
  marks.filter fun mark => mark.key = some k

/-- Opened and closed, so many times. -/
def roundsOf (k : K) : Nat → List (Mark K)
  | 0 => []
  | rounds + 1 => .opens k :: .closes k :: roundsOf k rounds

/-- Every key is opened and closed in turn, and closed in the end: each opening is answered by
exactly one later closing, and each closing answers one. -/
def Answered (marks : List (Mark K)) : Prop := ∀ k, ∃ rounds, entriesOf k marks = roundsOf k rounds

theorem entriesOf_cons_self {k : K} {mark : Mark K} (h : mark.key = some k)
    (marks : List (Mark K)) : entriesOf k (mark :: marks) = mark :: entriesOf k marks := by
  simp [entriesOf, h]

theorem entriesOf_cons_other {k : K} {mark : Mark K} (h : mark.key ≠ some k)
    (marks : List (Mark K)) : entriesOf k (mark :: marks) = entriesOf k marks := by
  simp [entriesOf, h]

theorem settle_entries {marks : List (Mark K)} :
    ∀ {pending : List K}, pending.Nodup → settle pending marks = some [] → ∀ k, ∃ rounds,
      entriesOf k marks = if k ∈ pending then .closes k :: roundsOf k rounds
        else roundsOf k rounds := by
  -- the entries of one key alternate, and what they begin with is whether the key is pending
  induction marks with
  | nil =>
    intro pending _ h k
    obtain rfl := Option.some.inj h
    exact ⟨0, by simp [entriesOf, roundsOf]⟩
  | cons mark marks ih =>
    intro pending hnodup h k
    cases mark with
    | opens j =>
      simp only [settle] at h
      split at h
      · cases h
      · next hj =>
        have hnext : (pending ++ [j]).Nodup := by
          refine List.nodup_append.mpr ⟨hnodup, List.pairwise_singleton _ j, ?_⟩
          rintro a ha b hb rfl
          exact hj (List.mem_singleton.mp hb ▸ ha)
        obtain ⟨rounds, hrounds⟩ := ih hnext h k
        by_cases hk : j = k
        · subst hk
          rw [if_pos (List.mem_append_right _ List.mem_cons_self)] at hrounds
          refine ⟨rounds + 1, ?_⟩
          rw [entriesOf_cons_self rfl, hrounds, if_neg hj, roundsOf]
        · have hmem : k ∈ pending ++ [j] ↔ k ∈ pending := by
            simp [Ne.symm hk]
          have hother : (opens j).key ≠ some k := by simpa [key] using hk
          refine ⟨rounds, ?_⟩
          rw [entriesOf_cons_other hother, hrounds]
          simp only [hmem]
    | closes j =>
      simp only [settle] at h
      split at h
      · next hj =>
        obtain ⟨rounds, hrounds⟩ := ih (hnodup.erase j) h k
        refine ⟨rounds, ?_⟩
        by_cases hk : j = k
        · subst hk
          rw [if_neg (hnodup.not_mem_erase)] at hrounds
          rw [entriesOf_cons_self rfl, hrounds, if_pos hj]
        · have hmem : k ∈ pending.erase j ↔ k ∈ pending := List.mem_erase_of_ne (Ne.symm hk)
          have hother : (closes j).key ≠ some k := by simpa [key] using hk
          rw [entriesOf_cons_other hother, hrounds]
          simp only [hmem]
      · cases h
    | neutral =>
      obtain ⟨rounds, hrounds⟩ := ih hnodup h k
      exact ⟨rounds, by rw [entriesOf_cons_other (by simp [key]), hrounds]⟩

/-- **A log that leaves nothing open answers every key.** -/
theorem answered_of_settle {marks : List (Mark K)} (h : settle [] marks = some []) :
    Answered marks := by
  intro k
  obtain ⟨rounds, hrounds⟩ := settle_entries List.nodup_nil h k
  exact ⟨rounds, by rw [hrounds, if_neg List.not_mem_nil]⟩

end Mark
end LlmUniversalProxy.Lib
