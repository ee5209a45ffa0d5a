import LlmUniversalProxy.Json.Value

/-!
# `Json.Modify` — a change in place

`get_mut` gives access to the value under a key that is there; nothing is inserted. A change that
leaves that value as it was leaves the whole value as it was.
-/

set_option autoImplicit false

namespace LlmUniversalProxy.Json.Value

open Lib

/-- The entry under `k` with `f` applied to its value. -/
def modifyFields (k : String) (f : Value → Value) : List (String × Value) → List (String × Value)
  | [] => []
  | (l, v) :: fields => if k = l then (l, f v) :: fields else (l, v) :: modifyFields k f fields

/-- A change of `value.get_mut(key)`. -/
def modify (v : Value) (k : String) (f : Value → Value) : Value :=
  match v with
  | .object fields => .object (modifyFields k f fields)
  | other => other

def modifyItems (f : List Value → List Value) : Value → Value
  | .array items => .array (f items)
  | other => other

/-- A change of `value.get_mut(key).and_then(Value::as_array_mut)`. -/
def modifyArray (v : Value) (k : String) (f : List Value → List Value) : Value :=
  v.modify k (modifyItems f)

theorem modifyFields_eq_self {k : String} {f : Value → Value} {fields : List (String × Value)}
    (h : ∀ x, fields.lookup k = some x → f x = x) : modifyFields k f fields = fields := by
  induction fields with
  | nil => rfl
  | cons field fields ih =>
    obtain ⟨l, v⟩ := field
    rw [List.lookup_cons] at h
    unfold modifyFields
    by_cases hkl : k = l
    · subst hkl
      rw [BEq.rfl] at h
      rw [if_pos rfl, h v rfl]
    · rw [beq_eq_false_iff_ne.mpr hkl] at h
      rw [if_neg hkl, ih h]

theorem modify_eq_self {v : Value} {k : String} {f : Value → Value}
    (h : ∀ x, v.get k = some x → f x = x) : v.modify k f = v := by
  cases v with
  | object fields => exact congrArg Value.object (modifyFields_eq_self h)
  | _ => rfl

theorem modifyArray_eq_self {v : Value} {k : String} {f : List Value → List Value}
    (h : ∀ items, v.getArray k = some items → f items = items) : v.modifyArray k f = v := by
  refine modify_eq_self fun x hx => ?_
  cases x with
  | array items => exact congrArg Value.array (h items (by rw [getArray, hx]; rfl))
  | _ => rfl

/-! ## What a change says of the fields -/

theorem lookup_modifyFields_self (k : String) (f : Value → Value) (fields : List (String × Value)) :
    (modifyFields k f fields).lookup k = (fields.lookup k).map f := by
  induction fields with
  | nil => rfl
  | cons field fields ih =>
    obtain ⟨l, v⟩ := field
    unfold modifyFields
    by_cases hkl : k = l
    · subst hkl
      simp
    · simpa [hkl, List.lookup_cons, beq_eq_false_iff_ne.mpr hkl] using ih

theorem filter_modifyFields (k : String) (f : Value → Value) (fields : List (String × Value)) :
    (modifyFields k f fields).filter (fun field => field.1 ≠ k) =
      fields.filter fun field => field.1 ≠ k := by
  induction fields with
  | nil => rfl
  | cons field fields ih =>
    obtain ⟨l, v⟩ := field
    unfold modifyFields
    by_cases hkl : k = l
    · subst hkl
      simp
    · simpa [hkl, Ne.symm hkl] using ih

theorem get_modify_self (v : Value) (k : String) (f : Value → Value) :
    (v.modify k f).get k = (v.get k).map f := by
  cases v with
  | object fields => exact lookup_modifyFields_self k f fields
  | _ => rfl

/-- The other fields stay. -/
theorem remove_modify (v : Value) (k : String) (f : Value → Value) :
    (v.modify k f).remove k = v.remove k := by
  cases v with
  | object fields => exact congrArg Value.object (filter_modifyFields k f fields)
  | _ => rfl

theorem modifyFields_insertSorted (k : String) (x : Value) (f : Value → Value)
    (fields : List (String × Value)) :
    modifyFields k f (insertSorted k x fields) = insertSorted k (f x) fields := by
  induction fields with
  | nil => simp [insertSorted, modifyFields]
  | cons field fields ih =>
    obtain ⟨l, v⟩ := field
    unfold insertSorted
    split
    · simp [modifyFields]
    · next hne =>
      split
      · simp [modifyFields]
      · simp [modifyFields, hne, ih]

/-- A change of what was just set. -/
theorem modify_set {v : Value} (h : v.isObject = true) (k : String) (x : Value)
    (f : Value → Value) : (v.set k x).modify k f = v.set k (f x) := by
  cases v with
  | object fields => exact congrArg Value.object (modifyFields_insertSorted k x f fields)
  | _ => cases h

theorem isObject_modify (v : Value) (k : String) (f : Value → Value) :
    (v.modify k f).isObject = v.isObject := by
  cases v <;> rfl

theorem isObject_remove (v : Value) (k : String) : (v.remove k).isObject = v.isObject := by
  cases v <;> rfl

theorem modifyFields_modifyFields (k : String) (f g : Value → Value)
    (fields : List (String × Value)) :
    modifyFields k g (modifyFields k f fields) = modifyFields k (fun x => g (f x)) fields := by
  induction fields with
  | nil => rfl
  | cons field fields ih =>
    obtain ⟨l, v⟩ := field
    by_cases hkl : k = l <;> simp [modifyFields, hkl, ih]

/-- Two changes of one field. -/
theorem modify_modify (v : Value) (k : String) (f g : Value → Value) :
    (v.modify k f).modify k g = v.modify k fun x => g (f x) := by
  cases v with
  | object fields => exact congrArg Value.object (modifyFields_modifyFields k f g fields)
  | _ => rfl

theorem remove_set {v : Value} (h : v.isObject = true) (k : String) (x : Value) :
    (v.set k x).remove k = v.remove k := by
  cases v with
  | object fields => exact congrArg Value.object (filter_insertSorted k x fields)
  | _ => cases h

theorem get_of_remove {v w : Value} {k l : String} (h : v.remove k = w.remove k) (hl : l ≠ k) :
    v.get l = w.get l := by
  have hget := congrArg (Value.get · l) h
  simpa [get_remove, hl] using hget

theorem get_modify_of_ne (v : Value) {k l : String} (f : Value → Value) (h : l ≠ k) :
    (v.modify k f).get l = v.get l := get_of_remove (remove_modify v k f) h

theorem getArray_modifyArray (v : Value) (k : String) (f : List Value → List Value) :
    (v.modifyArray k f).getArray k = (v.getArray k).map f := by
  unfold getArray modifyArray
  rw [get_modify_self]
  cases v.get k with
  | none => rfl
  | some x => cases x <;> rfl

/-! ## Changes that are none -/

/-- The keys of an object are in order, as they are in a `BTreeMap`. -/
def KeysInOrder : Value → Prop
  | .object fields => Sorted fields
  | _ => True

/-- Setting a field to what it is. -/
theorem set_eq_self {v x : Value} {k : String} (hkeys : v.KeysInOrder) (h : v.get k = some x) :
    v.set k x = v := by
  cases v with
  | object fields => exact congrArg Value.object (insertSorted_eq_self hkeys h)
  | _ => cases h

/-- Removing a field that is not there. -/
theorem remove_eq_self {v : Value} {k : String} (h : v.get k = none) : v.remove k = v := by
  cases v with
  | object fields =>
    refine congrArg Value.object (List.filter_eq_self.mpr fun field hmem => ?_)
    have hne := List.lookup_eq_none_iff.mp h field hmem
    exact decide_eq_true (Ne.symm (bne_iff_ne.mp hne))
  | _ => rfl

end LlmUniversalProxy.Json.Value
