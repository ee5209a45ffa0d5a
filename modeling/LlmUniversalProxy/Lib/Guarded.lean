import Mathlib.Logic.Function.Basic
import LlmUniversalProxy.Lib.Run

/-!
# `Lib.Guarded` — tasks that share a state under mutexes and reader-writer locks

Any number of tasks run one program. A task is at a program point; from there it may take or drop
a guard, write the shared state, or do something local. Steps of different tasks interleave
arbitrarily. A lock is a reader-writer lock; a mutex is one that is only taken exclusively.

What the locks give is stated once, for every such program: the guards that are out are exactly
those that the tasks' program points say they hold, and a task with an exclusive guard is alone
at its lock (`Coherent`). From it follows the rule that the proofs about a program use: an
assertion about the shared state that a task makes while it holds the lock of all writers is not
disturbed by the others (`Stable.step`).
-/

set_option autoImplicit false

namespace LlmUniversalProxy.Lib

inductive Mode where
  | shared
  | exclusive
  deriving DecidableEq, Repr

/-- A guard on the lock `lock`. -/
structure Guard (L : Type) where
  lock : L
  mode : Mode
  deriving DecidableEq, Repr

/-- What a step does outside its task; `κ` are the writes to the shared state. -/
inductive Action (L κ : Type) where
  | acquire (guard : Guard L)
  | release (guard : Guard L)
  | write (change : κ)
  | silent

/-- A program over the program points `π`. Guards are dropped in the reverse order in which they
were taken, and no task takes a lock twice. -/
structure Program (π L κ σ : Type) where
  code : σ → π → Action L κ → π → Prop
  apply : κ → σ → σ
  guards : π → List (Guard L)
  acquire_guards : ∀ {s p g p'}, code s p (.acquire g) p' →
    guards p' = g :: guards p ∧ ∀ h ∈ guards p, h.lock ≠ g.lock
  release_guards : ∀ {s p g p'}, code s p (.release g) p' → guards p = g :: guards p'
  write_guards : ∀ {s p k p'}, code s p (.write k) p' → guards p' = guards p
  silent_guards : ∀ {s p p'}, code s p .silent p' → guards p' = guards p

variable {ι π L κ σ : Type} [DecidableEq ι] [DecidableEq L]

/-- The tasks' program points, the guards that are out, and the shared state. -/
structure World (ι π L σ : Type) where
  tasks : ι → π
  out : L → List (ι × Mode)
  shared : σ

/-- An exclusive guard is given out when no guard is out, a shared one when no exclusive one is. -/
def Grants (mode : Mode) (out : List (ι × Mode)) : Prop :=
  match mode with
  | .exclusive => out = []
  | .shared => ∀ h ∈ out, h.2 = .shared

namespace Action

def Permitted (out : L → List (ι × Mode)) : Action L κ → Prop
  | .acquire g => Grants g.mode (out g.lock)
  | _ => True

def outAfter (t : ι) (out : L → List (ι × Mode)) : Action L κ → L → List (ι × Mode)
  | .acquire g => Function.update out g.lock ((t, g.mode) :: out g.lock)
  | .release g => Function.update out g.lock ((out g.lock).erase (t, g.mode))
  | _ => out

def sharedAfter (apply : κ → σ → σ) (s : σ) : Action L κ → σ
  | .write k => apply k s
  | _ => s

end Action

/-- One step of one task. -/
inductive World.Step (P : Program π L κ σ) :
    World ι π L σ → ι × Action L κ → World ι π L σ → Prop
  | mk {w : World ι π L σ} {t : ι} {a : Action L κ} {p' : π} :
      P.code w.shared (w.tasks t) a p' → a.Permitted w.out →
      World.Step P w (t, a) ⟨Function.update w.tasks t p', a.outAfter t w.out,
        a.sharedAfter P.apply w.shared⟩

/-! ## The locks -/

/-- The guards that are out are those the tasks hold, and an exclusive one is out alone. -/
structure Coherent (P : Program π L κ σ) (w : World ι π L σ) : Prop where
  held : ∀ t (g : Guard L), (t, g.mode) ∈ w.out g.lock ↔ g ∈ P.guards (w.tasks t)
  once : ∀ t, ((P.guards (w.tasks t)).map Guard.lock).Nodup
  nodup : ∀ l, (w.out l).Nodup
  alone : ∀ l t, (t, Mode.exclusive) ∈ w.out l → w.out l = [(t, Mode.exclusive)]

omit [DecidableEq ι] [DecidableEq L] in
/-- Before any task has taken a guard. -/
theorem coherent_initial {P : Program π L κ σ} {w : World ι π L σ}
    (hout : ∀ l, w.out l = []) (hguards : ∀ t, P.guards (w.tasks t) = []) : Coherent P w where
  held t g := by simp [hout, hguards]
  once t := by simp [hguards]
  nodup l := by simp [hout]
  alone l t h := by simp [hout] at h

variable {P : Program π L κ σ}

theorem Coherent.acquire {w : World ι π L σ} {t : ι} {g : Guard L} {p' : π}
    (hw : Coherent P w) (hcode : P.code w.shared (w.tasks t) (.acquire g) p')
    (hgrant : Grants g.mode (w.out g.lock)) :
    Coherent P ⟨Function.update w.tasks t p',
      Function.update w.out g.lock ((t, g.mode) :: w.out g.lock), w.shared⟩ := by
  obtain ⟨hg, hfresh⟩ := P.acquire_guards hcode
  have hnew : ∀ m, (t, m) ∉ w.out g.lock := fun m hm =>
    hfresh ⟨g.lock, m⟩ ((hw.held t ⟨g.lock, m⟩).mp hm) rfl
  refine ⟨fun u h => ?_, fun u => ?_, fun l => ?_, fun l u h => ?_⟩
  · by_cases hu : u = t
    · subst hu
      by_cases hl : h.lock = g.lock
      · obtain ⟨hlock, hmode⟩ := h
        obtain ⟨glock, gmode⟩ := g
        simp only at hl
        subst hl
        have hno : ⟨hlock, hmode⟩ ∉ P.guards (w.tasks u) := fun hm => hfresh _ hm rfl
        simp [hg, hnew, hno]
      · have hne : h ≠ g := fun e => hl (congrArg Guard.lock e)
        simp [hl, hg, hne, hw.held u h]
    · by_cases hl : h.lock = g.lock
      · have hheld := hw.held u h
        rw [hl] at hheld
        simp [hl, hu, hheld]
      · simp [hl, hu, hw.held u h]
  · by_cases hu : u = t
    · subst hu
      have : ∀ x ∈ P.guards (w.tasks u), ¬x.lock = g.lock := hfresh
      simpa [hg] using ⟨this, hw.once u⟩
    · simpa [hu] using hw.once u
  · by_cases hl : l = g.lock
    · subst hl
      simpa using ⟨hnew g.mode, hw.nodup g.lock⟩
    · simpa [hl] using hw.nodup l
  · by_cases hl : l = g.lock
    · subst hl
      simp only [Function.update_self] at h ⊢
      obtain ⟨lock, mode⟩ := g
      cases mode with
      | exclusive =>
        simp only [Grants] at hgrant
        simp only [hgrant, List.mem_singleton, Prod.mk.injEq, and_true] at h ⊢
        rw [h]
      | shared =>
        rcases List.mem_cons.mp h with h | h
        · cases h
        · cases hgrant _ h
    · simp only [Function.update_of_ne hl] at h ⊢
      exact hw.alone l u h

theorem Coherent.release {w : World ι π L σ} {t : ι} {g : Guard L} {p' : π}
    (hw : Coherent P w) (hcode : P.code w.shared (w.tasks t) (.release g) p') :
    Coherent P ⟨Function.update w.tasks t p',
      Function.update w.out g.lock ((w.out g.lock).erase (t, g.mode)), w.shared⟩ := by
  have hg := P.release_guards hcode
  -- a task holds one guard on a lock at most, so this one is gone from it altogether
  have honce := hw.once t
  rw [hg, List.map_cons, List.nodup_cons] at honce
  have hgone : ∀ m, ⟨g.lock, m⟩ ∉ P.guards p' := fun m hm =>
    honce.1 (List.mem_map.mpr ⟨_, hm, rfl⟩)
  refine ⟨fun u h => ?_, fun u => ?_, fun l => ?_, fun l u h => ?_⟩
  · have hheld := hw.held u h
    by_cases hu : u = t
    · subst hu
      rw [hg] at hheld
      by_cases hl : h.lock = g.lock
      · obtain ⟨hlock, hmode⟩ := h
        obtain ⟨glock, gmode⟩ := g
        simp only at hl
        subst hl
        simp only [Function.update_self, (hw.nodup hlock).mem_erase_iff, hgone hmode, iff_false,
          not_and]
        intro hne hmem
        rcases List.mem_cons.mp (hheld.mp hmem) with he | he
        · exact hne (by rw [Guard.mk.injEq] at he; rw [he.2])
        · exact hgone hmode he
      · have hne : h ≠ g := fun e => hl (congrArg Guard.lock e)
        simpa [hl, hne] using hheld
    · by_cases hl : h.lock = g.lock
      · rw [hl] at hheld
        simp [hl, hu, (hw.nodup g.lock).mem_erase_iff, hheld]
      · simp [hl, hu, hheld]
  · by_cases hu : u = t
    · subst hu
      simpa using honce.2
    · simpa [hu] using hw.once u
  · by_cases hl : l = g.lock
    · subst hl
      simpa using (hw.nodup g.lock).erase _
    · simpa [hl] using hw.nodup l
  · by_cases hl : l = g.lock
    · subst hl
      simp only [Function.update_self] at h ⊢
      have hmem := List.mem_of_mem_erase h
      have halone := hw.alone _ u hmem
      rw [halone] at h ⊢
      by_cases he : (t, g.mode) = (u, Mode.exclusive)
      · rw [he] at h
        simp at h
      · rw [List.erase_of_not_mem (by simpa using he)]
    · simp only [Function.update_of_ne hl] at h ⊢
      exact hw.alone l u h

omit [DecidableEq L] in
theorem Coherent.stay {w : World ι π L σ} {t : ι} {p' : π} {s' : σ} (hw : Coherent P w)
    (hg : P.guards p' = P.guards (w.tasks t)) :
    Coherent P ⟨Function.update w.tasks t p', w.out, s'⟩ := by
  have hsame : ∀ u, P.guards (Function.update w.tasks t p' u) = P.guards (w.tasks u) := by
    intro u
    by_cases hu : u = t
    · subst hu
      rw [Function.update_self, hg]
    · rw [Function.update_of_ne hu]
  exact ⟨fun u g => by rw [hsame]; exact hw.held u g, fun u => by rw [hsame]; exact hw.once u,
    hw.nodup, hw.alone⟩

/-- **The locks work**, one step at a time. -/
theorem Coherent.step {w w' : World ι π L σ} {e : ι × Action L κ} (hw : Coherent P w)
    (hs : World.Step P w e w') : Coherent P w' := by
  cases hs with
  | @mk t a p' hcode hperm =>
    cases a with
    | acquire g => exact hw.acquire hcode hperm
    | release g => exact hw.release hcode
    | write k => exact hw.stay (P.write_guards hcode)
    | silent => exact hw.stay (P.silent_guards hcode)

omit [DecidableEq ι] [DecidableEq L] in
/-- **Mutual exclusion**: whoever else holds a guard on a lock that is held exclusively is the
same task. -/
theorem Coherent.exclusion {w : World ι π L σ} (hw : Coherent P w) {t u : ι} {l : L} {m : Mode}
    (ht : ⟨l, .exclusive⟩ ∈ P.guards (w.tasks t)) (hu : ⟨l, m⟩ ∈ P.guards (w.tasks u)) :
    u = t := by
  have h := (hw.held u ⟨l, m⟩).mpr hu
  rw [hw.alone l t ((hw.held t ⟨l, .exclusive⟩).mpr ht)] at h
  simpa using (congrArg Prod.fst (List.mem_singleton.mp h))

/-! ## Assertions of the lock's holder -/

/-- An assertion `A s p` of a task at `p` about the shared state, under a discipline: all writes
are made by holders of the lock `l`, a step of the task itself carries its assertion on, and a
task that does not hold `l` asserts nothing that a write could break. -/
structure Stable (P : Program π L κ σ) (l : L) (A : σ → π → Prop) : Prop where
  writes : ∀ {s p k p'}, P.code s p (.write k) p' → ⟨l, .exclusive⟩ ∈ P.guards p
  own : ∀ {s p a p'}, A s p → P.code s p a p' → A (a.sharedAfter P.apply s) p'
  free : ∀ {s p} (s'), (∀ m, ⟨l, m⟩ ∉ P.guards p) → A s p → A s' p

theorem Stable.step {l : L} {A : σ → π → Prop} (hA : Stable P l A) {w w' : World ι π L σ}
    {e : ι × Action L κ} (hw : Coherent P w) (h : ∀ t, A w.shared (w.tasks t))
    (hs : World.Step P w e w') : ∀ t, A w'.shared (w'.tasks t) := by
  cases hs with
  | @mk t a p' hcode hperm =>
    intro u
    by_cases hu : u = t
    · subst hu
      simpa using hA.own (h u) hcode
    · simp only [Function.update_of_ne hu]
      cases a with
      | write k =>
        refine hA.free _ (fun m hm => hu ?_) (h u)
        exact hw.exclusion (hA.writes hcode) hm
      | acquire g => exact h u
      | release g => exact h u
      | silent => exact h u

end LlmUniversalProxy.Lib
