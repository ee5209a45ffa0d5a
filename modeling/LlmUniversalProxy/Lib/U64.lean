/-!
# `Lib.U64` — unsigned 64-bit counts

A `u64` is a natural number that is at most `u64Max`. A saturating addition stays there, and is the
ordinary one as long as the sum does. The plain one depends on the build: with overflow checks a sum
that does not fit is a panic, without them it wraps around.
-/

set_option autoImplicit false

namespace LlmUniversalProxy.Lib

/-- `u64::MAX`. -/
def u64Max : Nat := 18446744073709551615

/-- `u64::saturating_add`. -/
def saturatingAdd (a b : Nat) : Nat := min (a + b) u64Max

theorem saturatingAdd_of_le {a b : Nat} (h : a + b ≤ u64Max) : saturatingAdd a b = a + b :=
  Nat.min_eq_left h

/-- `u64::wrapping_add`: what `a + b` gives in a build without overflow checks. -/
def wrappingAdd (a b : Nat) : Nat := (a + b) % (u64Max + 1)

/-- `a + b`, in a build with overflow checks or in one without. -/
def addU64 (checks : Bool) (a b : Nat) : Option Nat :=
  if a + b ≤ u64Max then some (a + b)
  else if checks then none
  else some (wrappingAdd a b)

theorem addU64_of_le {checks : Bool} {a b : Nat} (h : a + b ≤ u64Max) :
    addU64 checks a b = some (a + b) := if_pos h

/-- A sum that there is, is a `u64`. -/
theorem addU64_le {checks : Bool} {a b sum : Nat} (h : addU64 checks a b = some sum) :
    sum ≤ u64Max := by
  unfold addU64 at h
  split at h
  · next hle =>
    cases h
    exact hle
  split at h
  · cases h
  · cases h
    exact Nat.lt_succ_iff.mp (Nat.mod_lt (a + b) (Nat.succ_pos u64Max))

theorem addU64_checked_iff {a b sum : Nat} :
    addU64 true a b = some sum ↔ a + b ≤ u64Max ∧ a + b = sum := by
  unfold addU64
  split
  · next hle => simp [hle]
  · next hnot => simp [hnot]

/-- Without checks there always is a sum. -/
theorem addU64_unchecked (a b : Nat) : ∃ sum, addU64 false a b = some sum := by
  unfold addU64
  split
  · exact ⟨_, rfl⟩
  · exact ⟨_, rfl⟩

end LlmUniversalProxy.Lib
