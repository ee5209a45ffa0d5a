import LlmUniversalProxy.Lib.SortedMap

/-!
# `Json.Value` — the values of `serde_json`

The proxy passes every request, response and stream event around as a `serde_json::Value`. The
crate is built without `preserve_order`, so an object is a `BTreeMap`: its keys are unique and it
is walked in key order. `insertSorted` keeps that order, and every object the model builds goes
through it.

A finite `f64` is represented by the text `serde_json` prints for it, which determines it.
-/

set_option autoImplicit false

namespace LlmUniversalProxy.Json

open Lib

/-- `serde_json::Number`. -/
inductive Number where
  | posInt (n : Nat)
  | negInt (n : Int)
  | float (text : String)
  deriving DecidableEq, Repr

/-- `serde_json::Value`. -/
inductive Value where
  | null
  | bool (b : Bool)
  | number (n : Number)
  | string (s : String)
  | array (items : List Value)
  | object (fields : List (String × Value))
  deriving Repr

namespace Value

/-! ## Decidable equality

`Value` nests in `List`, which the deriving handler does not cover: the comparison is written out
over the three layers, and shown to decide equality. -/

mutual

def beq : Value → Value → Bool
  | .null, .null => true
  | .bool a, .bool b => a == b
  | .number a, .number b => a == b
  | .string a, .string b => a == b
  | .array a, .array b => beqItems a b
  | .object a, .object b => beqFields a b
  | _, _ => false

def beqItems : List Value → List Value → Bool
  | [], [] => true
  | a :: as, b :: bs => beq a b && beqItems as bs
  | _, _ => false

def beqFields : List (String × Value) → List (String × Value) → Bool
  | [], [] => true
  | (k, a) :: as, (l, b) :: bs => k == l && beq a b && beqFields as bs
  | _, _ => false

end

mutual

theorem eq_of_beq : ∀ {a b : Value}, beq a b = true → a = b
  | .null, .null, _ => rfl
  | .bool _, .bool _, h => by simpa [beq] using h
  | .number _, .number _, h => by simpa [beq] using h
  | .string _, .string _, h => by simpa [beq] using h
  | .array _, .array _, h => by rw [beq] at h; rw [eq_of_beqItems h]
  | .object _, .object _, h => by rw [beq] at h; rw [eq_of_beqFields h]

theorem eq_of_beqItems : ∀ {a b : List Value}, beqItems a b = true → a = b
  | [], [], _ => rfl
  | _ :: _, _ :: _, h => by
    rw [beqItems, Bool.and_eq_true] at h
    rw [eq_of_beq h.1, eq_of_beqItems h.2]

theorem eq_of_beqFields : ∀ {a b : List (String × Value)}, beqFields a b = true → a = b
  | [], [], _ => rfl
  | (_, _) :: _, (_, _) :: _, h => by
    rw [beqFields, Bool.and_eq_true, Bool.and_eq_true, beq_iff_eq] at h
    rw [h.1.1, eq_of_beq h.1.2, eq_of_beqFields h.2]

end

mutual

theorem beq_refl : ∀ a : Value, beq a a = true
  | .null => rfl
  | .bool _ => by simp [beq]
  | .number _ => by simp [beq]
  | .string _ => by simp [beq]
  | .array items => by rw [beq]; exact beqItems_refl items
  | .object fields => by rw [beq]; exact beqFields_refl fields

theorem beqItems_refl : ∀ a : List Value, beqItems a a = true
  | [] => rfl
  | a :: as => by rw [beqItems, beq_refl a, beqItems_refl as]; rfl

theorem beqFields_refl : ∀ a : List (String × Value), beqFields a a = true
  | [] => rfl
  | (_, v) :: rest => by rw [beqFields, beq_refl v, beqFields_refl rest]; simp

end

instance : DecidableEq Value := fun a b =>
  decidable_of_iff (beq a b = true) ⟨eq_of_beq, fun h => h ▸ beq_refl a⟩

/-! ## Fields -/

/-- `json!({ .. })` on an object literal. -/
def ofFields (fields : List (String × Value)) : Value :=
  .object (fields.foldr (fun f m => insertSorted f.1 f.2 m) [])

/-- `Value::get` at a string index. -/
def get (v : Value) (k : String) : Option Value :=
  match v with
  | .object fields => fields.lookup k
  | _ => none

/-- `value[key] = x` (`IndexMut`): `null` becomes an object first. -/
def set (v : Value) (k : String) (x : Value) : Value :=
  match v with
  | .object fields => .object (insertSorted k x fields)
  | .null => .object [(k, x)]
  | other => other

/-- `obj.remove(key)` on an object. -/
def remove (v : Value) (k : String) : Value :=
  match v with
  | .object fields => .object (fields.filter fun f => f.1 ≠ k)
  | other => other

def asStr : Value → Option String
  | .string s => some s
  | _ => none

def asBool : Value → Option Bool
  | .bool b => some b
  | _ => none

def asArray : Value → Option (List Value)
  | .array items => some items
  | _ => none

def asObject : Value → Option (List (String × Value))
  | .object fields => some fields
  | _ => none

/-- `as_u64`: the parser keeps a non-negative integer below `2^64` exact and reads the rest as
floats, so a `posInt` is always in range. -/
def asU64 : Value → Option Nat
  | .number (.posInt n) => some n
  | _ => none

def isNull : Value → Bool
  | .null => true
  | _ => false

def isObject : Value → Bool
  | .object _ => true
  | _ => false

/-- `json!(n)` of an unsigned integer. -/
def nat (n : Nat) : Value := .number (.posInt n)

/-- `json!(opt)` of an optional value: `None` serialises to `null`. -/
def ofOption : Option Value → Value
  | some v => v
  | none => .null

/-- `json!(opt)` of an optional string. -/
def ofOptionStr : Option String → Value
  | some s => .string s
  | none => .null

/-- `value.get(key).and_then(Value::as_str)`. -/
def getStr (v : Value) (k : String) : Option String := (v.get k).bind asStr

/-- `value.get(key).and_then(Value::as_u64)`. -/
def getU64 (v : Value) (k : String) : Option Nat := (v.get k).bind asU64

/-- `value.get(key).and_then(Value::as_array)`. -/
def getArray (v : Value) (k : String) : Option (List Value) := (v.get k).bind asArray

@[simp] theorem asStr_string (s : String) : (Value.string s).asStr = some s := rfl
@[simp] theorem asU64_nat (n : Nat) : (nat n).asU64 = some n := rfl
@[simp] theorem asArray_array (items : List Value) : (Value.array items).asArray = some items := rfl
@[simp] theorem asStr_nat (n : Nat) : (nat n).asStr = none := rfl
@[simp] theorem asStr_object (fields : List (String × Value)) :
    (Value.object fields).asStr = none := rfl
@[simp] theorem asStr_ofFields (fields : List (String × Value)) :
    (ofFields fields).asStr = none := rfl

/-- A literal's fields read back by name. -/
@[simp] theorem get_ofFields (fields : List (String × Value)) (k : String) :
    (ofFields fields).get k = fields.lookup k := by
  show (fields.foldr (fun f m => insertSorted f.1 f.2 m) []).lookup k = fields.lookup k
  induction fields with
  | nil => rfl
  | cons f rest ih =>
    obtain ⟨l, v⟩ := f
    rw [List.foldr_cons, lookup_insertSorted, ih, List.lookup_cons]
    by_cases h : k = l <;> simp [h, beq_eq_false_iff_ne.mpr]

/-- A change of one field leaves the others alone, whatever the value is. -/
theorem get_set_of_ne (v x : Value) {k l : String} (h : l ≠ k) : (v.set k x).get l = v.get l := by
  cases v with
  | object fields => exact (lookup_insertSorted k l x fields).trans (if_neg h)
  | null =>
    show List.lookup l [(k, x)] = none
    rw [List.lookup_cons, beq_eq_false_iff_ne.mpr h]
    rfl
  | _ => rfl

theorem get_set_self {v : Value} (h : v.isObject = true) (k : String) (x : Value) :
    (v.set k x).get k = some x := by
  cases v with
  | object fields => exact (lookup_insertSorted k k x fields).trans (if_pos rfl)
  | _ => cases h

@[simp] theorem isObject_ofFields (fields : List (String × Value)) :
    (ofFields fields).isObject = true := rfl

theorem isObject_set {v : Value} (h : v.isObject = true) (k : String) (x : Value) :
    (v.set k x).isObject = true := by
  cases v with
  | object fields => rfl
  | _ => cases h

theorem set_set (v x y : Value) (k : String) : (v.set k x).set k y = v.set k y := by
  cases v with
  | object fields => exact congrArg Value.object (insertSorted_insertSorted k x y fields)
  | null => simp [set, insertSorted]
  | _ => rfl

theorem lookup_filter_ne (k l : String) (fields : List (String × Value)) :
    (fields.filter fun f => f.1 ≠ k).lookup l = if l = k then none else fields.lookup l := by
  induction fields with
  | nil => by_cases h : l = k <;> simp [h]
  | cons f rest ih =>
    obtain ⟨a, w⟩ := f
    by_cases hak : a = k
    · by_cases h : l = k
      · simpa [hak, h] using ih
      · have hla : (l == a) = false := beq_eq_false_iff_ne.mpr (hak ▸ h)
        simpa [hak, h, List.lookup_cons, hak ▸ hla] using ih
    · by_cases hla : l = a
      · simp [hak, hla]
      · simpa [hak, List.lookup_cons, beq_eq_false_iff_ne.mpr hla] using ih

theorem get_remove (v : Value) (k l : String) :
    (v.remove k).get l = if l = k then none else v.get l := by
  cases v with
  | object fields => exact lookup_filter_ne k l fields
  | _ => by_cases h : l = k <;> simp [remove, get, h]

theorem isObject_of_get {v x : Value} {k : String} (h : v.get k = some x) : v.isObject = true := by
  cases v with
  | object fields => rfl
  | _ => cases h

theorem get_of_getStr {v : Value} {k text : String} (h : v.getStr k = some text) :
    v.get k = some (.string text) := by
  obtain ⟨x, hget, hx⟩ := Option.bind_eq_some_iff.mp h
  cases x with
  | string s =>
    cases hx
    exact hget
  | _ => cases hx

theorem getStr_set_of_ne (v x : Value) {k l : String} (h : l ≠ k) :
    (v.set k x).getStr l = v.getStr l := by
  unfold getStr
  rw [get_set_of_ne v x h]

theorem getStr_ofFields (fields : List (String × Value)) (k : String) :
    (ofFields fields).getStr k = (fields.lookup k).bind asStr := by
  unfold getStr
  rw [get_ofFields]

theorem get_set_ofFields (fields : List (String × Value)) (k l : String) (x : Value) :
    ((ofFields fields).set k x).get l = if l = k then some x else fields.lookup l := by
  rw [← get_ofFields]
  exact lookup_insertSorted k l x _

end Value
end LlmUniversalProxy.Json
