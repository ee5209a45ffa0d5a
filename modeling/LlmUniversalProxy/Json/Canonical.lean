import LlmUniversalProxy.Json.Unambiguous

/-!
# `Json.Canonical` — values up to the order of their keys

A value is printed canonically with the keys of every object in order. So two values print the same
exactly if they are the same but for the order of keys: no more is forgotten, and no less.

The source is `prompt_cache_controls.rs` 555-579.
-/

set_option autoImplicit false

namespace LlmUniversalProxy.Json

open Lib

/-! ## Printing -/

mutual

/-- `canonical_json`, as characters. -/
def canonicalChars : Value → List Char
  | .array items => '[' :: ([','].intercalate (canonicalItems items) ++ [']'])
  | .object fields => '\x7b' :: ([','].intercalate
      ((canonicalFields fields).map fun f => stringChars f.1 ++ ':' :: f.2) ++ ['\x7d'])
  | scalar => valueChars scalar

def canonicalItems : List Value → List (List Char)
  | [] => []
  | v :: rest => canonicalChars v :: canonicalItems rest

/-- The fields of an object in the order of their keys, each with its value as it is rendered. -/
def canonicalFields : List (String × Value) → List (String × List Char)
  | [] => []
  | (k, v) :: rest => insertSorted k (canonicalChars v) (canonicalFields rest)

end

/-- `canonical_json`. -/
def canonicalJson (value : Value) : String := String.ofList (canonicalChars value)

/-! ## The same up to the order of keys -/

/-- A value that has no parts. -/
def Value.isScalar : Value → Bool
  | .array _ => false
  | .object _ => false
  | _ => true

/-- Two values that are the same but for the order of keys: arrays item by item, and objects key by
key. -/
inductive SameJson : Value → Value → Prop
  | scalar {v : Value} (h : v.isScalar = true) : SameJson v v
  | array {items items' : List Value} (hlength : items.length = items'.length)
      (hitems : ∀ (i : Nat) (v w : Value), items[i]? = some v → items'[i]? = some w → SameJson v w) :
      SameJson (.array items) (.array items')
  | object {fields fields' : List (String × Value)}
      (hkeys : ∀ k, (fields.lookup k).isSome = (fields'.lookup k).isSome)
      (hvalues : ∀ (k : String) (v w : Value), fields.lookup k = some v →
        fields'.lookup k = some w → SameJson v w) :
      SameJson (.object fields) (.object fields')

mutual

def inKeyOrder : Value → Value
  | .array items => .array (itemsInKeyOrder items)
  | .object fields => .object (fieldsInKeyOrder fields)
  | scalar => scalar

def itemsInKeyOrder : List Value → List Value
  | [] => []
  | v :: rest => inKeyOrder v :: itemsInKeyOrder rest

def fieldsInKeyOrder : List (String × Value) → List (String × Value)
  | [] => []
  | (k, v) :: rest => insertSorted k (inKeyOrder v) (fieldsInKeyOrder rest)

end

/-! ## Canonical printing is printing in order -/

theorem itemsChars_eq (items : List Value) :
    itemsChars items = [','].intercalate (items.map valueChars) := by
  induction items with
  | nil => rfl
  | cons v items ih =>
    cases items with
    | nil => simp [itemsChars]
    | cons w items =>
      rw [itemsChars, ih]
      · simp
      · exact List.cons_ne_nil w items

theorem fieldsChars_eq (fields : List (String × Value)) :
    fieldsChars fields =
      [','].intercalate (fields.map fun f => stringChars f.1 ++ ':' :: valueChars f.2) := by
  induction fields with
  | nil => rfl
  | cons f fields ih =>
    cases fields with
    | nil => simp [fieldsChars]
    | cons g fields =>
      rw [fieldsChars, ih]
      · simp
      · exact List.cons_ne_nil g fields

mutual

theorem canonicalChars_eq : ∀ v : Value, canonicalChars v = valueChars (inKeyOrder v)
  | .null => rfl
  | .bool _ => rfl
  | .number _ => rfl
  | .string _ => rfl
  | .array items => by
    rw [canonicalChars, inKeyOrder, valueChars, itemsChars_eq, canonicalItems_eq items]
  | .object fields => by
    rw [canonicalChars, inKeyOrder, valueChars, fieldsChars_eq, canonicalFields_eq fields,
      List.map_map]
    rfl

theorem canonicalItems_eq : ∀ items : List Value,
    canonicalItems items = (itemsInKeyOrder items).map valueChars
  | [] => rfl
  | v :: rest => by
    rw [canonicalItems, itemsInKeyOrder, List.map_cons, canonicalChars_eq v, canonicalItems_eq rest]

theorem canonicalFields_eq : ∀ fields : List (String × Value),
    canonicalFields fields = (fieldsInKeyOrder fields).map fun f => (f.1, valueChars f.2)
  | [] => rfl
  | (k, v) :: rest => by
    rw [canonicalFields, fieldsInKeyOrder, map_insertSorted, canonicalChars_eq v,
      canonicalFields_eq rest]

end

/-! ## Order forgets the order of keys, and nothing else -/

theorem sorted_fieldsInKeyOrder (fields : List (String × Value)) :
    Sorted (fieldsInKeyOrder fields) := by
  induction fields with
  | nil => exact List.Pairwise.nil
  | cons f rest ih =>
    obtain ⟨k, v⟩ := f
    exact sorted_insertSorted ih

theorem lookup_fieldsInKeyOrder (fields : List (String × Value)) (k : String) :
    (fieldsInKeyOrder fields).lookup k = (fields.lookup k).map inKeyOrder := by
  induction fields with
  | nil => rfl
  | cons f rest ih =>
    obtain ⟨l, v⟩ := f
    rw [fieldsInKeyOrder, lookup_insertSorted, List.lookup_cons]
    by_cases hkl : k = l
    · simp [hkl]
    · rw [if_neg hkl, beq_eq_false_iff_ne.mpr hkl]
      exact ih

theorem itemsInKeyOrder_eq (items : List Value) : itemsInKeyOrder items = items.map inKeyOrder := by
  induction items with
  | nil => rfl
  | cons v rest ih => rw [itemsInKeyOrder, List.map_cons, ih]

/-- Values that are the same come out the same. -/
theorem SameJson.inKeyOrder_eq {v w : Value} (h : SameJson v w) : inKeyOrder v = inKeyOrder w := by
  induction h with
  | scalar => rfl
  | @array items items' hlength _ ih =>
    rw [inKeyOrder, inKeyOrder, itemsInKeyOrder_eq, itemsInKeyOrder_eq]
    refine congrArg Value.array (List.ext_getElem? fun i => ?_)
    rw [List.getElem?_map, List.getElem?_map]
    cases hv : items[i]? with
    | none =>
      have hnone : items'[i]? = none := by
        rw [List.getElem?_eq_none_iff] at hv ⊢
        exact hlength ▸ hv
      rw [hnone]
    | some v =>
      cases hw : items'[i]? with
      | none =>
        rw [List.getElem?_eq_none_iff, ← hlength, ← List.getElem?_eq_none_iff, hv] at hw
        cases hw
      | some w => exact congrArg some (ih i v w hv hw)
  | @object fields fields' hkeys _ ih =>
    rw [inKeyOrder, inKeyOrder]
    refine congrArg Value.object
      (sorted_ext (sorted_fieldsInKeyOrder _) (sorted_fieldsInKeyOrder _) fun k => ?_)
    rw [lookup_fieldsInKeyOrder, lookup_fieldsInKeyOrder]
    have hkey := hkeys k
    cases hv : fields.lookup k with
    | none =>
      rw [hv, Option.isSome_none, eq_comm, Option.isSome_eq_false_iff, Option.isNone_iff_eq_none]
        at hkey
      rw [hkey]
    | some v =>
      cases hw : fields'.lookup k with
      | none =>
        rw [hv, hw] at hkey
        cases hkey
      | some w => exact congrArg some (ih k v w hv hw)

theorem sizeOf_lookup {fields : List (String × Value)} {k : String} {v : Value}
    (h : fields.lookup k = some v) : sizeOf v < sizeOf (Value.object fields) := by
  have hmem := List.sizeOf_lt_of_mem (mem_of_lookup h)
  simp only [Value.object.sizeOf_spec]
  simp only [Prod.mk.sizeOf_spec] at hmem
  omega

theorem inKeyOrder_scalar {v : Value} (h : v.isScalar = true) : inKeyOrder v = v := by
  cases v with
  | array items => cases h
  | object fields => cases h
  | _ => rfl

theorem isScalar_inKeyOrder (v : Value) : (inKeyOrder v).isScalar = v.isScalar := by
  cases v <;> rfl

theorem sameJson_of_scalar {v w : Value} (hv : v.isScalar = true)
    (h : inKeyOrder v = inKeyOrder w) : SameJson v w := by
  have hw : w.isScalar = true := by
    rw [← isScalar_inKeyOrder, ← h, isScalar_inKeyOrder]
    exact hv
  rw [inKeyOrder_scalar hv, inKeyOrder_scalar hw] at h
  rw [h]
  exact .scalar hw

/-- Values that come out the same are the same. -/
theorem sameJson_of_inKeyOrder {v w : Value} (h : inKeyOrder v = inKeyOrder w) : SameJson v w := by
  cases v with
  | array items =>
    cases w with
    | array items' =>
      rw [inKeyOrder, inKeyOrder, itemsInKeyOrder_eq, itemsInKeyOrder_eq, Value.array.injEq] at h
      have hlength : items.length = items'.length := by
        simpa using congrArg List.length h
      refine .array hlength fun i v w hv hw => ?_
      have hsize : sizeOf v < sizeOf (Value.array items) := by
        have hmem := List.sizeOf_lt_of_mem (List.mem_of_getElem? hv)
        simp only [Value.array.sizeOf_spec]
        omega
      have hi := congrArg (fun items => items[i]?) h
      simp only [List.getElem?_map, hv, hw, Option.map_some, Option.some.injEq] at hi
      exact sameJson_of_inKeyOrder hi
    | _ => cases h
  | object fields =>
    cases w with
    | object fields' =>
      rw [inKeyOrder, inKeyOrder, Value.object.injEq] at h
      have hlookup (k : String) : (fields.lookup k).map inKeyOrder =
          (fields'.lookup k).map inKeyOrder := by
        rw [← lookup_fieldsInKeyOrder, h, lookup_fieldsInKeyOrder]
      refine .object (fun k => ?_) fun k v w hv hw => ?_
      · simpa using congrArg Option.isSome (hlookup k)
      · have hsize := sizeOf_lookup hv
        have hk := hlookup k
        rw [hv, hw, Option.map_some, Option.map_some, Option.some.injEq] at hk
        exact sameJson_of_inKeyOrder hk
    | _ => cases h
  | null => exact sameJson_of_scalar rfl h
  | bool b => exact sameJson_of_scalar rfl h
  | number n => exact sameJson_of_scalar rfl h
  | string s => exact sameJson_of_scalar rfl h
termination_by sizeOf v

/-! ## Numbers survive -/

theorem fieldsNumbers_insertSorted {n : Number} {k : String} {v : Value}
    {fields : List (String × Value)} (h : n ∈ fieldsNumbers (insertSorted k v fields)) :
    n ∈ v.numbers ∨ n ∈ fieldsNumbers fields := by
  induction fields with
  | nil =>
    rw [insertSorted, fieldsNumbers, List.mem_append] at h
    exact h
  | cons f rest ih =>
    obtain ⟨l, w⟩ := f
    unfold insertSorted at h
    rw [fieldsNumbers, List.mem_append]
    split at h
    · rw [fieldsNumbers, List.mem_append] at h
      exact h.imp_right .inr
    split at h
    · rw [fieldsNumbers, fieldsNumbers, List.mem_append, List.mem_append] at h
      exact h
    · rw [fieldsNumbers, List.mem_append] at h
      rcases h with h | h
      · exact .inr (.inl h)
      · exact (ih h).imp_right .inr

mutual

theorem numbers_inKeyOrder : ∀ {v : Value} {n : Number}, n ∈ (inKeyOrder v).numbers → n ∈ v.numbers
  | .null, _, h => h
  | .bool _, _, h => h
  | .number _, _, h => h
  | .string _, _, h => h
  | .array _, _, h => numbers_itemsInKeyOrder h
  | .object _, _, h => numbers_fieldsInKeyOrder h

theorem numbers_itemsInKeyOrder : ∀ {items : List Value} {n : Number},
    n ∈ itemsNumbers (itemsInKeyOrder items) → n ∈ itemsNumbers items
  | [], _, h => h
  | _ :: _, _, h => by
    rw [itemsInKeyOrder, itemsNumbers, List.mem_append] at h
    rw [itemsNumbers, List.mem_append]
    exact h.imp numbers_inKeyOrder numbers_itemsInKeyOrder

theorem numbers_fieldsInKeyOrder : ∀ {fields : List (String × Value)} {n : Number},
    n ∈ fieldsNumbers (fieldsInKeyOrder fields) → n ∈ fieldsNumbers fields
  | [], _, h => h
  | (_, _) :: _, _, h => by
    rw [fieldsInKeyOrder] at h
    rw [fieldsNumbers, List.mem_append]
    exact (fieldsNumbers_insertSorted h).imp numbers_inKeyOrder numbers_fieldsInKeyOrder

end

/-- **Canonical texts are equal just for values that are the same up to the order of keys.** -/
theorem canonicalJson_eq_iff {v w : Value} (hv : v.Proper) (hw : w.Proper) :
    canonicalJson v = canonicalJson w ↔ SameJson v w := by
  have hproper {v : Value} (hv : v.Proper) : (inKeyOrder v).Proper :=
    fun n hn => hv n (numbers_inKeyOrder hn)
  unfold canonicalJson
  rw [String.ofList_inj, canonicalChars_eq, canonicalChars_eq]
  constructor
  · intro h
    exact sameJson_of_inKeyOrder (valueChars_injective (hproper hv) (hproper hw) h)
  · intro h
    rw [h.inKeyOrder_eq]

end LlmUniversalProxy.Json
