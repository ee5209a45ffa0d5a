import Mathlib.Data.List.Nodup
import Mathlib.Logic.Function.Basic

/-!
# `Lib.Files` — files that are replaced, tracked and removed

A file system is what each path holds. A file is replaced with a copy of what was there before kept
beside it. Whoever wants to remove what it has written keeps a list of it: each time, what is new
comes in front of what was on the list and is not new.
-/

set_option autoImplicit false

namespace LlmUniversalProxy.Lib

universe u

variable {π : Type u}

/-- What the paths hold. -/
abbrev FileSystem (π : Type u) := π → Option (List UInt8)

namespace FileSystem

variable [DecidableEq π] (fs : FileSystem π)

def write (path : π) (contents : List UInt8) : FileSystem π :=
  Function.update fs path (some contents)

def remove (path : π) : FileSystem π := Function.update fs path none

def removeAll (paths : List π) : FileSystem π := paths.foldl remove fs

/-- What a path holds is kept beside it. -/
def keep (backup : π → π) (path : π) : FileSystem π :=
  match fs path with
  | some old => fs.write (backup path) old
  | none => fs

/-- A file is written; what it held before is kept. -/
def replace (backup : π → π) (path : π) (contents : List UInt8) : FileSystem π :=
  (fs.keep backup path).write path contents

@[simp] theorem replace_self (backup : π → π) (path : π) (contents : List UInt8) :
    fs.replace backup path contents path = some contents := Function.update_self ..

theorem keep_of_ne {backup : π → π} {path other : π} (h : other ≠ backup path) :
    fs.keep backup path other = fs other := by
  unfold keep
  generalize fs path = held
  cases held with
  | none => rfl
  | some old => exact Function.update_of_ne h ..

theorem replace_of_ne {backup : π → π} {path other : π} (contents : List UInt8)
    (h : other ≠ path) (hbackup : other ≠ backup path) :
    fs.replace backup path contents other = fs other :=
  (Function.update_of_ne h ..).trans (fs.keep_of_ne hbackup)

/-- What is there stays there. -/
theorem isSome_replace {backup : π → π} {path other : π} (contents : List UInt8)
    (h : (fs other).isSome) : (fs.replace backup path contents other).isSome := by
  have hwrite : ∀ (fs : FileSystem π) (path : π) (contents : List UInt8), (fs other).isSome →
      (fs.write path contents other).isSome := by
    intro fs path contents h
    by_cases hother : other = path
    · rw [hother, write, Function.update_self]
      rfl
    · rwa [write, Function.update_of_ne hother]
  refine hwrite _ _ _ ?_
  unfold keep
  generalize fs path = held
  cases held with
  | none => exact h
  | some old => exact hwrite _ _ _ h

theorem removeAll_apply (paths : List π) (path : π) :
    fs.removeAll paths path = if path ∈ paths then none else fs path := by
  induction paths generalizing fs with
  | nil => simp [removeAll]
  | cons first paths ih =>
    have hstep : fs.removeAll (first :: paths) = (fs.remove first).removeAll paths := rfl
    rw [hstep, ih]
    by_cases hpath : path = first
    · simp [hpath, remove]
    · simp [hpath, remove]

end FileSystem

/-! ## The list -/

/-- What is new, and behind it what was on the list and is not new. -/
def unionBehind {α : Type u} [DecidableEq α] (new previous : List α) : List α :=
  previous.foldl (fun files file => if file ∈ files then files else files ++ [file]) new

section Union

variable {α : Type u} [DecidableEq α]

theorem mem_unionBehind {new previous : List α} {file : α} :
    file ∈ unionBehind new previous ↔ file ∈ new ∨ file ∈ previous := by
  induction previous generalizing new with
  | nil => simp [unionBehind]
  | cons first previous ih =>
    have hstep : unionBehind new (first :: previous) =
        unionBehind (if first ∈ new then new else new ++ [first]) previous := rfl
    rw [hstep, ih]
    by_cases hfirst : first ∈ new
    · rw [if_pos hfirst, List.mem_cons]
      constructor
      · exact fun h => h.imp_right .inr
      · rintro (hnew | rfl | hprevious)
        · exact .inl hnew
        · exact .inl hfirst
        · exact .inr hprevious
    · rw [if_neg hfirst, List.mem_append, List.mem_singleton, List.mem_cons, or_assoc]

theorem nodup_unionBehind {new : List α} (h : new.Nodup) (previous : List α) :
    (unionBehind new previous).Nodup := by
  induction previous generalizing new with
  | nil => exact h
  | cons first previous ih =>
    have hstep : unionBehind new (first :: previous) =
        unionBehind (if first ∈ new then new else new ++ [first]) previous := rfl
    rw [hstep]
    by_cases hfirst : first ∈ new
    · rw [if_pos hfirst]
      exact ih h
    · rw [if_neg hfirst]
      refine ih (h.append (List.nodup_singleton _) ?_)
      rw [List.disjoint_singleton]
      exact hfirst

end Union

end LlmUniversalProxy.Lib
