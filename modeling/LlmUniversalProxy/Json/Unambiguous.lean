import LlmUniversalProxy.Json.ReadBack

/-!
# `Json.Unambiguous` — no two values print the same

A printed value ends where its text does: a literal at its closing quote, an array or an object at
its bracket, and a number before the first character that is none of a number's. So a text has one
value at most, whatever comes behind it.

Numbers are those that `serde_json` has: a negative integer is negative, and the text of a float has
a point or an exponent, which no integer has.
-/

set_option autoImplicit false

namespace LlmUniversalProxy.Json

open Lib

/-! ## Numbers -/

/-- The characters that stand in numbers. -/
def isNumberChar (c : Char) : Bool := c.isDigit || c ∈ ['+', '-', '.', 'e', 'E']

/-- The text of a float. -/
def FloatChars (cs : List Char) : Prop :=
  (∀ c ∈ cs, isNumberChar c = true) ∧ ∃ c ∈ cs, c ∈ ['.', 'e', 'E']

/-- A number as `serde_json` has it. -/
def Number.Proper : Number → Prop
  | .posInt _ => True
  | .negInt n => n < 0
  | .float text => FloatChars text.toList

mutual

def Value.numbers : Value → List Number
  | .number n => [n]
  | .array items => itemsNumbers items
  | .object fields => fieldsNumbers fields
  | _ => []

def itemsNumbers : List Value → List Number
  | [] => []
  | v :: rest => v.numbers ++ itemsNumbers rest

def fieldsNumbers : List (String × Value) → List Number
  | [] => []
  | (_, v) :: rest => v.numbers ++ fieldsNumbers rest

end

/-- A value with numbers that `serde_json` has. -/
def Value.Proper (v : Value) : Prop := ∀ n ∈ v.numbers, n.Proper

theorem mem_itemsNumbers {n : Number} {items : List Value} :
    n ∈ itemsNumbers items ↔ ∃ v ∈ items, n ∈ v.numbers := by
  induction items with
  | nil => simp [itemsNumbers]
  | cons v items ih => simp [itemsNumbers, ih]

theorem mem_fieldsNumbers {n : Number} {fields : List (String × Value)} :
    n ∈ fieldsNumbers fields ↔ ∃ f ∈ fields, n ∈ f.2.numbers := by
  induction fields with
  | nil => simp [fieldsNumbers]
  | cons f fields ih => simp [fieldsNumbers, ih]

theorem proper_array {items : List Value} (h : ∀ v ∈ items, v.Proper) :
    (Value.array items).Proper := by
  intro n hn
  obtain ⟨v, hv, hn⟩ := mem_itemsNumbers.mp hn
  exact h v hv n hn

theorem proper_object {fields : List (String × Value)} (h : ∀ f ∈ fields, f.2.Proper) :
    (Value.object fields).Proper := by
  intro n hn
  obtain ⟨f, hf, hn⟩ := mem_fieldsNumbers.mp hn
  exact h f hf n hn

theorem proper_string (s : String) : (Value.string s).Proper := nofun

/-- The parts of a value have the numbers of the whole. -/
theorem proper_of_mem_items {items : List Value} (h : (Value.array items).Proper) {v : Value}
    (hv : v ∈ items) : v.Proper :=
  fun n hn => h n (mem_itemsNumbers.mpr ⟨v, hv, hn⟩)

theorem proper_of_mem_fields {fields : List (String × Value)} (h : (Value.object fields).Proper)
    {f : String × Value} (hf : f ∈ fields) : f.2.Proper :=
  fun n hn => h n (mem_fieldsNumbers.mpr ⟨f, hf, hn⟩)

theorem proper_get {v x : Value} (hv : v.Proper) {k : String} (h : v.get k = some x) :
    x.Proper := by
  cases v with
  | object fields => exact proper_of_mem_fields hv (mem_of_lookup h)
  | _ => cases h

theorem proper_getArray {v : Value} (hv : v.Proper) {k : String} {items : List Value}
    (h : v.getArray k = some items) : (Value.array items).Proper := by
  obtain ⟨x, hx, hitems⟩ := Option.bind_eq_some_iff.mp h
  cases x with
  | array other =>
    obtain rfl := Option.some.inj hitems
    exact proper_get hv hx
  | _ => cases hitems

/-- An object that is built of such values is one. -/
theorem proper_ofFields {fields : List (String × Value)} (h : ∀ f ∈ fields, f.2.Proper) :
    (Value.ofFields fields).Proper := by
  refine proper_object ?_
  induction fields with
  | nil => nofun
  | cons f fields ih =>
    intro g hg
    rcases mem_insertSorted hg with rfl | hg
    · exact h f List.mem_cons_self
    · exact ih (fun f hf => h f (List.mem_cons_of_mem _ hf)) g hg

theorem toDigits_injective {m n : Nat} (h : Nat.toDigits 10 m = Nat.toDigits 10 n) : m = n := by
  rw [← Nat.ofDigitChars_ten_toDigits (n := m), h, Nat.ofDigitChars_ten_toDigits]

theorem isDigit_toDigits {n : Nat} {c : Char} (h : c ∈ Nat.toDigits 10 n) : c.isDigit = true :=
  Nat.isDigit_of_mem_toDigits (by decide) (by decide) h

theorem isNumberChar_numberChars {n : Number} (hn : n.Proper) :
    ∀ c ∈ numberChars n, isNumberChar c = true := by
  intro c hc
  cases n with
  | posInt n =>
    rw [isNumberChar, isDigit_toDigits hc]
    rfl
  | negInt n =>
    rcases List.mem_cons.mp hc with rfl | hc
    · rfl
    · rw [isNumberChar, isDigit_toDigits hc]
      rfl
  | float text => exact hn.1 c hc

theorem numberChars_ne_nil {n : Number} (hn : n.Proper) : numberChars n ≠ [] := by
  cases n with
  | posInt n => exact Nat.toDigits_ne_nil
  | negInt n => exact List.cons_ne_nil _ _
  | float text =>
    obtain ⟨c, hc, -⟩ := hn.2
    exact List.ne_nil_of_mem hc

/-- A mark of a float is no digit and no sign. -/
theorem not_mark_of_isDigit {c : Char} (h : c.isDigit = true) : c ∉ ['.', 'e', 'E'] := by
  intro hmem
  simp only [List.mem_cons, List.not_mem_nil, or_false] at hmem
  rcases hmem with rfl | rfl | rfl
  · exact absurd h (by decide)
  · exact absurd h (by decide)
  · exact absurd h (by decide)

theorem integer_ne_float {n : Number} (hinteger : (∃ m, n = .posInt m) ∨ ∃ m, n = .negInt m)
    {text : String} (htext : FloatChars text.toList) : numberChars n ≠ numberChars (.float text) := by
  intro h
  have h : numberChars n = text.toList := h
  obtain ⟨c, hc, hmark⟩ := htext.2
  rw [← h] at hc
  rcases hinteger with ⟨m, rfl⟩ | ⟨m, rfl⟩
  · exact not_mark_of_isDigit (isDigit_toDigits hc) hmark
  · rcases List.mem_cons.mp hc with rfl | hc
    · exact absurd hmark (by decide)
    · exact not_mark_of_isDigit (isDigit_toDigits hc) hmark

theorem posInt_ne_negInt (m : Nat) (n : Int) :
    numberChars (.posInt m) ≠ numberChars (.negInt n) := by
  intro h
  have hminus : '-' ∈ Nat.toDigits 10 m := by
    have hcons : Nat.toDigits 10 m = '-' :: Nat.toDigits 10 n.natAbs := h
    rw [hcons]
    exact List.mem_cons_self
  exact absurd (isDigit_toDigits hminus) (by decide)

theorem numberChars_injective {m n : Number} (hm : m.Proper) (hn : n.Proper)
    (h : numberChars m = numberChars n) : m = n := by
  cases m with
  | posInt m =>
    cases n with
    | posInt n => rw [toDigits_injective h]
    | negInt n => exact absurd h (posInt_ne_negInt m n)
    | float text => exact absurd h (integer_ne_float (.inl ⟨m, rfl⟩) hn)
  | negInt m =>
    cases n with
    | posInt n => exact absurd h.symm (posInt_ne_negInt n m)
    | negInt n =>
      have habs : m.natAbs = n.natAbs := toDigits_injective (List.cons.inj h).2
      have hm : m < 0 := hm
      have hn : n < 0 := hn
      rw [show m = n by omega]
    | float text => exact absurd h (integer_ne_float (.inr ⟨m, rfl⟩) hn)
  | float text =>
    cases n with
    | posInt n => exact absurd h.symm (integer_ne_float (.inl ⟨n, rfl⟩) hm)
    | negInt n => exact absurd h.symm (integer_ne_float (.inr ⟨n, rfl⟩) hm)
    | float text' => rw [String.toList_inj.mp h]

/-- What may come behind a number. -/
def Ends (rest : List Char) : Prop := ∀ c ∈ rest.head?, isNumberChar c = false

theorem ends_nil : Ends [] := nofun

theorem ends_cons {c : Char} (h : isNumberChar c = false) (rest : List Char) : Ends (c :: rest) := by
  intro d hd
  obtain rfl := Option.some.inj hd
  exact h

theorem takeWhile_append_of_ends {cs rest : List Char} (hcs : ∀ c ∈ cs, isNumberChar c = true)
    (hrest : Ends rest) : (cs ++ rest).takeWhile isNumberChar = cs := by
  rw [List.takeWhile_append_of_pos hcs]
  cases rest with
  | nil => simp
  | cons c rest => rw [List.takeWhile_cons_of_neg (by rw [hrest c rfl]; decide), List.append_nil]

/-- A number ends where its text does. -/
theorem numberChars_inj {m n : Number} {rest rest' : List Char} (hm : m.Proper) (hn : n.Proper)
    (hrest : Ends rest) (hrest' : Ends rest')
    (h : numberChars m ++ rest = numberChars n ++ rest') : m = n ∧ rest = rest' := by
  have htake := congrArg (List.takeWhile isNumberChar) h
  rw [takeWhile_append_of_ends (isNumberChar_numberChars hm) hrest,
    takeWhile_append_of_ends (isNumberChar_numberChars hn) hrest'] at htake
  rw [htake] at h
  exact ⟨numberChars_injective hm hn htake, List.append_cancel_left h⟩

/-! ## Values -/

/-- The kinds of values that the first character tells apart. -/
inductive Lead where
  | null
  | true
  | false
  | number
  | string
  | array
  | object
  deriving DecidableEq

/-- What a value begins like. -/
def Lead.ofChar (c : Char) : Lead :=
  if c = 'n' then .null
  else if c = 't' then .true
  else if c = 'f' then .false
  else if c = '"' then .string
  else if c = '[' then .array
  else if c = '\x7b' then .object
  else .number

def Value.lead : Value → Lead
  | .null => .null
  | .bool true => .true
  | .bool false => .false
  | .number _ => .number
  | .string _ => .string
  | .array _ => .array
  | .object _ => .object

theorem lead_numberChar {c : Char} (h : isNumberChar c = true) : Lead.ofChar c = .number := by
  have hne {d : Char} (hd : isNumberChar d = false) : c ≠ d := by
    rintro rfl
    rw [h] at hd
    cases hd
  unfold Lead.ofChar
  rw [if_neg (hne (by decide)), if_neg (hne (by decide)), if_neg (hne (by decide)),
    if_neg (hne (by decide)), if_neg (hne (by decide)), if_neg (hne (by decide))]

/-- The first character of a value tells its kind. -/
theorem head_valueChars {v : Value} (hv : v.Proper) (rest : List Char) :
    ((valueChars v ++ rest).head?).map Lead.ofChar = some v.lead := by
  cases v with
  | null => rfl
  | bool b => cases b <;> rfl
  | number n =>
    have hn : n.Proper := hv n List.mem_cons_self
    obtain ⟨c, cs, hcs⟩ := List.exists_cons_of_ne_nil (numberChars_ne_nil hn)
    have hc : isNumberChar c = true := isNumberChar_numberChars hn c (hcs ▸ List.mem_cons_self)
    show ((numberChars n ++ rest).head?).map Lead.ofChar = some .number
    rw [hcs, List.cons_append, List.head?_cons, Option.map_some, lead_numberChar hc]
  | string s => rfl
  | array items => rfl
  | object fields => rfl

theorem lead_eq_of_chars {v w : Value} (hv : v.Proper) (hw : w.Proper) {rest rest' : List Char}
    (h : valueChars v ++ rest = valueChars w ++ rest') : v.lead = w.lead := by
  have hhead := congrArg (fun cs => (cs.head?).map Lead.ofChar) h
  rw [head_valueChars hv, head_valueChars hw] at hhead
  exact Option.some.inj hhead

/-- The items of an array, one of them in front. -/
theorem itemsChars_cons (v : Value) (items : List Value) (rest : List Char) :
    ∃ tail, itemsChars (v :: items) ++ ']' :: rest = valueChars v ++ tail ∧ Ends tail ∧
      (items = [] ∧ tail = ']' :: rest ∨
        items ≠ [] ∧ tail = ',' :: (itemsChars items ++ ']' :: rest)) := by
  cases items with
  | nil => exact ⟨_, rfl, ends_cons (by decide) _, .inl ⟨rfl, rfl⟩⟩
  | cons w items =>
    refine ⟨_, ?_, ends_cons (by decide) _, .inr ⟨List.cons_ne_nil _ _, rfl⟩⟩
    simp [itemsChars]

/-- The fields of an object, one of them in front. -/
theorem fieldsChars_cons (f : String × Value) (fields : List (String × Value))
    (rest : List Char) :
    ∃ tail, fieldsChars (f :: fields) ++ '\x7d' :: rest =
        stringChars f.1 ++ ':' :: (valueChars f.2 ++ tail) ∧ Ends tail ∧
      (fields = [] ∧ tail = '\x7d' :: rest ∨
        fields ≠ [] ∧ tail = ',' :: (fieldsChars fields ++ '\x7d' :: rest)) := by
  cases fields with
  | nil =>
    refine ⟨_, ?_, ends_cons (by decide) _, .inl ⟨rfl, rfl⟩⟩
    simp [fieldsChars]
  | cons g fields =>
    refine ⟨_, ?_, ends_cons (by decide) _, .inr ⟨List.cons_ne_nil _ _, rfl⟩⟩
    simp [fieldsChars]

/-! A value that begins like one of a kind is of that kind. -/

theorem eq_null_of_lead {w : Value} (h : Lead.null = w.lead) : w = .null := by
  cases w with
  | null => rfl
  | bool b => cases b <;> cases h
  | _ => cases h

theorem eq_bool_of_lead {w : Value} {b : Bool} (h : (Value.bool b).lead = w.lead) :
    w = .bool b := by
  cases w with
  | bool c => cases b <;> cases c <;> first | rfl | cases h
  | _ => cases b <;> cases h

theorem exists_number_of_lead {w : Value} (h : Lead.number = w.lead) : ∃ n, w = .number n := by
  cases w with
  | number n => exact ⟨n, rfl⟩
  | bool b => cases b <;> cases h
  | _ => cases h

theorem exists_string_of_lead {w : Value} (h : Lead.string = w.lead) : ∃ s, w = .string s := by
  cases w with
  | string s => exact ⟨s, rfl⟩
  | bool b => cases b <;> cases h
  | _ => cases h

theorem exists_array_of_lead {w : Value} (h : Lead.array = w.lead) : ∃ items, w = .array items := by
  cases w with
  | array items => exact ⟨items, rfl⟩
  | bool b => cases b <;> cases h
  | _ => cases h

theorem exists_object_of_lead {w : Value} (h : Lead.object = w.lead) :
    ∃ fields, w = .object fields := by
  cases w with
  | object fields => exact ⟨fields, rfl⟩
  | bool b => cases b <;> cases h
  | _ => cases h

theorem valueChars_ne_close {v : Value} (hv : v.Proper) {c : Char} {rest rest' : List Char}
    (hnumber : Lead.ofChar c = .number) (hdigit : isNumberChar c = false) :
    c :: rest ≠ valueChars v ++ rest' := by
  intro h
  have hhead := head_valueChars hv rest'
  rw [← h, List.head?_cons, Option.map_some, hnumber, Option.some.injEq] at hhead
  obtain ⟨n, rfl⟩ := exists_number_of_lead hhead
  have hn : n.Proper := hv n List.mem_cons_self
  obtain ⟨d, ds, hds⟩ := List.exists_cons_of_ne_nil (numberChars_ne_nil hn)
  have hchars : c :: rest = numberChars n ++ rest' := h
  rw [hds, List.cons_append] at hchars
  have hd := isNumberChar_numberChars hn d (hds ▸ List.mem_cons_self)
  rw [← (List.cons.inj hchars).1, hdigit] at hd
  cases hd

theorem proper_item {v : Value} {items : List Value} (h : (Value.array (v :: items)).Proper) :
    v.Proper ∧ (Value.array items).Proper :=
  ⟨proper_of_mem_items h List.mem_cons_self,
    proper_array fun _ hw => proper_of_mem_items h (List.mem_cons_of_mem _ hw)⟩

theorem proper_field {f : String × Value} {fields : List (String × Value)}
    (h : (Value.object (f :: fields)).Proper) : f.2.Proper ∧ (Value.object fields).Proper :=
  ⟨proper_of_mem_fields h List.mem_cons_self,
    proper_object fun _ hg => proper_of_mem_fields h (List.mem_cons_of_mem _ hg)⟩

theorem sizeOf_field (f : String × Value) (fields : List (String × Value)) :
    sizeOf f.2 < sizeOf (f :: fields) := by
  cases f with
  | mk k v =>
    simp only [List.cons.sizeOf_spec, Prod.mk.sizeOf_spec]
    omega

mutual

/-- **A printed value can be told**, and where it ends, whatever comes behind it. -/
theorem valueChars_inj {v w : Value} {rest rest' : List Char} (hv : v.Proper) (hw : w.Proper)
    (hrest : Ends rest) (hrest' : Ends rest')
    (h : valueChars v ++ rest = valueChars w ++ rest') : v = w ∧ rest = rest' := by
  have hlead := lead_eq_of_chars hv hw h
  cases v with
  | null =>
    obtain rfl := eq_null_of_lead hlead
    exact ⟨rfl, List.append_cancel_left h⟩
  | bool b =>
    obtain rfl := eq_bool_of_lead hlead
    exact ⟨rfl, List.append_cancel_left h⟩
  | number m =>
    obtain ⟨n, rfl⟩ := exists_number_of_lead hlead
    obtain ⟨rfl, hrest⟩ := numberChars_inj (hv m List.mem_cons_self) (hw n List.mem_cons_self)
      hrest hrest' h
    exact ⟨rfl, hrest⟩
  | string s =>
    obtain ⟨t, rfl⟩ := exists_string_of_lead hlead
    obtain ⟨rfl, hrest⟩ := stringChars_inj h
    exact ⟨rfl, hrest⟩
  | array items =>
    obtain ⟨items', rfl⟩ := exists_array_of_lead hlead
    have htail : itemsChars items ++ ']' :: rest = itemsChars items' ++ ']' :: rest' := by
      simpa [valueChars] using h
    obtain ⟨rfl, hrest⟩ := itemsChars_inj hv hw htail
    exact ⟨rfl, hrest⟩
  | object fields =>
    obtain ⟨fields', rfl⟩ := exists_object_of_lead hlead
    have htail : fieldsChars fields ++ '\x7d' :: rest = fieldsChars fields' ++ '\x7d' :: rest' := by
      simpa [valueChars] using h
    obtain ⟨rfl, hrest⟩ := fieldsChars_inj hv hw htail
    exact ⟨rfl, hrest⟩
termination_by sizeOf v

theorem itemsChars_inj {items items' : List Value} {rest rest' : List Char}
    (hv : (Value.array items).Proper) (hw : (Value.array items').Proper)
    (h : itemsChars items ++ ']' :: rest = itemsChars items' ++ ']' :: rest') :
    items = items' ∧ rest = rest' := by
  cases items with
  | nil =>
    cases items' with
    | nil => exact ⟨rfl, (List.cons.inj h).2⟩
    | cons w items' =>
      obtain ⟨tail, htail, -⟩ := itemsChars_cons w items' rest'
      rw [htail] at h
      exact absurd h (valueChars_ne_close (proper_item hw).1 (by decide) (by decide))
  | cons v items =>
    cases items' with
    | nil =>
      obtain ⟨tail, htail, -⟩ := itemsChars_cons v items rest
      rw [htail] at h
      exact absurd h.symm (valueChars_ne_close (proper_item hv).1 (by decide) (by decide))
    | cons w items' =>
      obtain ⟨tail, htail, hends, hnext⟩ := itemsChars_cons v items rest
      obtain ⟨tail', htail', hends', hnext'⟩ := itemsChars_cons w items' rest'
      rw [htail, htail'] at h
      obtain ⟨rfl, rfl⟩ := valueChars_inj (proper_item hv).1 (proper_item hw).1 hends hends' h
      rcases hnext with ⟨rfl, rfl⟩ | ⟨-, rfl⟩
      · rcases hnext' with ⟨rfl, hclose⟩ | ⟨-, hcomma⟩
        · exact ⟨rfl, (List.cons.inj hclose).2⟩
        · exact absurd (List.cons.inj hcomma).1 (by decide)
      · rcases hnext' with ⟨-, hclose⟩ | ⟨-, hcomma⟩
        · exact absurd (List.cons.inj hclose).1 (by decide)
        · obtain ⟨rfl, hrest⟩ := itemsChars_inj (proper_item hv).2 (proper_item hw).2
            (List.cons.inj hcomma).2
          exact ⟨rfl, hrest⟩
termination_by sizeOf items

theorem fieldsChars_inj {fields fields' : List (String × Value)} {rest rest' : List Char}
    (hv : (Value.object fields).Proper) (hw : (Value.object fields').Proper)
    (h : fieldsChars fields ++ '\x7d' :: rest = fieldsChars fields' ++ '\x7d' :: rest') :
    fields = fields' ∧ rest = rest' := by
  cases fields with
  | nil =>
    cases fields' with
    | nil => exact ⟨rfl, (List.cons.inj h).2⟩
    | cons g fields' =>
      obtain ⟨tail, htail, -⟩ := fieldsChars_cons g fields' rest'
      rw [htail] at h
      exact absurd (List.cons.inj h).1 (by decide)
  | cons f fields =>
    cases fields' with
    | nil =>
      obtain ⟨tail, htail, -⟩ := fieldsChars_cons f fields rest
      rw [htail] at h
      exact absurd (List.cons.inj h).1 (by decide)
    | cons g fields' =>
      obtain ⟨tail, htail, hends, hnext⟩ := fieldsChars_cons f fields rest
      obtain ⟨tail', htail', hends', hnext'⟩ := fieldsChars_cons g fields' rest'
      have hsize := sizeOf_field f fields
      rw [htail, htail'] at h
      obtain ⟨hkey, hvalue⟩ := stringChars_inj h
      obtain ⟨hfield, rfl⟩ := valueChars_inj (proper_field hv).1 (proper_field hw).1 hends hends'
        (List.cons.inj hvalue).2
      obtain rfl : f = g := Prod.ext hkey hfield
      rcases hnext with ⟨rfl, rfl⟩ | ⟨-, rfl⟩
      · rcases hnext' with ⟨rfl, hclose⟩ | ⟨-, hcomma⟩
        · exact ⟨rfl, (List.cons.inj hclose).2⟩
        · exact absurd (List.cons.inj hcomma).1 (by decide)
      · rcases hnext' with ⟨-, hclose⟩ | ⟨-, hcomma⟩
        · exact absurd (List.cons.inj hclose).1 (by decide)
        · obtain ⟨rfl, hrest⟩ := fieldsChars_inj (proper_field hv).2 (proper_field hw).2
            (List.cons.inj hcomma).2
          exact ⟨rfl, hrest⟩
termination_by sizeOf fields

end

/-- No two values print the same. -/
theorem valueChars_injective {v w : Value} (hv : v.Proper) (hw : w.Proper)
    (h : valueChars v = valueChars w) : v = w := by
  have happend : valueChars v ++ [] = valueChars w ++ [] := by rw [h]
  exact (valueChars_inj hv hw ends_nil ends_nil happend).1

end LlmUniversalProxy.Json
