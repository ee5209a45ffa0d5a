import LlmUniversalProxy.Json.Extend
import LlmUniversalProxy.Json.ReadBack
import LlmUniversalProxy.Json.Unambiguous
import Mathlib.Data.List.TakeWhile

/-!
# `Json.RoundTrip` — a value that is printed is read back

What the parser gives is `Shaped`: its objects are in order, its integers fit, and it is no deeper
than the parser goes. A shaped value is read back from what is printed of it, as long as its floats
are: `serde_json` does not promise that of every float.
-/

set_option autoImplicit false

namespace LlmUniversalProxy.Json

open Lib

/-! ## What the parser gives -/

/-- An integer that fits. -/
def Number.InRange : Number → Prop
  | .posInt n => n < UInt64.size
  | .negInt n => n < 0 ∧ n.natAbs ≤ UInt64.size / 2
  | .float _ => True

mutual

/-- A value as it is read where the parser may go `depth` deep. -/
def Value.Shaped : Nat → Value → Prop
  | _, .number n => n.InRange
  | depth, .array items => 1 < depth ∧ ItemsShaped (depth - 1) items
  | depth, .object fields => 1 < depth ∧ Sorted fields ∧ FieldsShaped (depth - 1) fields
  | _, _ => True

def ItemsShaped : Nat → List Value → Prop
  | _, [] => True
  | depth, v :: rest => v.Shaped depth ∧ ItemsShaped depth rest

def FieldsShaped : Nat → List (String × Value) → Prop
  | _, [] => True
  | depth, (_, v) :: rest => v.Shaped depth ∧ FieldsShaped depth rest

end

theorem itemsShaped_iff {depth : Nat} {items : List Value} :
    ItemsShaped depth items ↔ ∀ v ∈ items, v.Shaped depth := by
  induction items with
  | nil => simp [ItemsShaped]
  | cons v items ih => simp [ItemsShaped, ih]

theorem fieldsShaped_iff {depth : Nat} {fields : List (String × Value)} :
    FieldsShaped depth fields ↔ ∀ f ∈ fields, f.2.Shaped depth := by
  induction fields with
  | nil => simp [FieldsShaped]
  | cons f fields ih =>
    obtain ⟨k, v⟩ := f
    simp [FieldsShaped, ih]

theorem fieldsShaped_insertSorted {depth : Nat} {fields : List (String × Value)} {k : String}
    {v : Value} (hv : v.Shaped depth) (hfields : FieldsShaped depth fields) :
    FieldsShaped depth (insertSorted k v fields) := by
  rw [fieldsShaped_iff] at hfields ⊢
  intro f hf
  rcases mem_insertSorted hf with rfl | hf
  · exact hv
  · exact hfields f hf

theorem inRange_of_parseNumber {floatText : String → Option String} {negative : Bool}
    {cs rest : List Char} {n : Number} (h : parseNumber floatText negative cs = some (n, rest)) :
    n.InRange := by
  unfold parseNumber at h
  obtain ⟨⟨digits, rest₁⟩, -, h⟩ := Option.bind_eq_some_iff.mp h
  simp only at h
  split at h
  · cases h
  obtain ⟨⟨fraction, rest₂⟩, -, h⟩ := Option.bind_eq_some_iff.mp h
  obtain ⟨⟨exponent, rest₃⟩, -, h⟩ := Option.bind_eq_some_iff.mp h
  simp only at h
  split at h
  · next hpos =>
    cases h
    exact hpos.2.2
  split at h
  · next hneg =>
    cases h
    refine ⟨by omega, ?_⟩
    rw [Int.natAbs_neg, Int.natAbs_natCast]
    exact hneg.2.2.2
  · obtain ⟨text, -, heq⟩ := Option.map_eq_some_iff.mp h
    cases heq
    trivial

/-- With this much fuel, what is read is shaped. -/
structure ReadsShaped (floatText : String → Option String) (fuel : Nat) : Prop where
  value : ∀ {depth : Nat} {cs rest : List Char} {v : Value},
    parseValue floatText fuel depth cs = some (v, rest) → v.Shaped depth
  items : ∀ {depth : Nat} {cs rest : List Char} {vs : List Value},
    parseItems floatText fuel depth cs = some (vs, rest) → ItemsShaped depth vs
  fields : ∀ {depth : Nat} {acc fields : List (String × Value)} {cs rest : List Char},
    Sorted acc → FieldsShaped depth acc →
      parseFields floatText fuel depth acc cs = some (fields, rest) →
        Sorted fields ∧ FieldsShaped depth fields

namespace ReadsShaped

variable {floatText : String → Option String} {fuel depth : Nat} {cs rest : List Char}

theorem value_succ (ih : ReadsShaped floatText fuel) {v : Value}
    (h : parseValue floatText (fuel + 1) depth cs = some (v, rest)) : v.Shaped depth := by
  rw [parseValue] at h
  split at h
  · cases h
  next c tail hskip =>
  split at h
  · obtain ⟨_, _, heq⟩ := Option.map_eq_some_iff.mp h
    cases heq
    trivial
  split at h
  · obtain ⟨_, _, heq⟩ := Option.map_eq_some_iff.mp h
    cases heq
    trivial
  split at h
  · obtain ⟨_, _, heq⟩ := Option.map_eq_some_iff.mp h
    cases heq
    trivial
  split at h
  · obtain ⟨_, _, heq⟩ := Option.map_eq_some_iff.mp h
    cases heq
    trivial
  split at h
  · obtain ⟨⟨n, r⟩, hn, heq⟩ := Option.map_eq_some_iff.mp h
    cases heq
    exact inRange_of_parseNumber hn
  split at h
  · obtain ⟨⟨n, r⟩, hn, heq⟩ := Option.map_eq_some_iff.mp h
    cases heq
    exact inRange_of_parseNumber hn
  split at h
  · cases h
  next hdepth =>
  have hdepth : 1 < depth := by omega
  split at h
  · -- an array: one that closes at once, and one with items
    split at h
    · cases h
      exact ⟨hdepth, trivial⟩
    · obtain ⟨⟨vs, r⟩, hvs, heq⟩ := Option.map_eq_some_iff.mp h
      cases heq
      exact ⟨hdepth, ih.items hvs⟩
  split at h
  · split at h
    · cases h
      exact ⟨hdepth, List.Pairwise.nil, trivial⟩
    · obtain ⟨⟨fields, r⟩, hfields, heq⟩ := Option.map_eq_some_iff.mp h
      cases heq
      exact ⟨hdepth, ih.fields List.Pairwise.nil trivial hfields⟩
  · cases h

theorem items_succ (ih : ReadsShaped floatText fuel) {vs : List Value}
    (h : parseItems floatText (fuel + 1) depth cs = some (vs, rest)) : ItemsShaped depth vs := by
  rw [parseItems] at h
  obtain ⟨⟨v, rest₁⟩, hv, h⟩ := Option.bind_eq_some_iff.mp h
  have hshaped := ih.value hv
  simp only at h
  split at h
  · cases h
  split at h
  · cases h
    exact ⟨hshaped, trivial⟩
  split at h
  · obtain ⟨⟨others, rest₂⟩, hothers, h⟩ := Option.bind_eq_some_iff.mp h
    cases h
    exact ⟨hshaped, ih.items hothers⟩
  · cases h

theorem fields_succ (ih : ReadsShaped floatText fuel) {acc fields : List (String × Value)}
    (hsorted : Sorted acc) (hacc : FieldsShaped depth acc)
    (h : parseFields floatText (fuel + 1) depth acc cs = some (fields, rest)) :
    Sorted fields ∧ FieldsShaped depth fields := by
  rw [parseFields] at h
  obtain ⟨rest₁, -, h⟩ := Option.bind_eq_some_iff.mp h
  obtain ⟨⟨k, rest₂⟩, -, h⟩ := Option.bind_eq_some_iff.mp h
  obtain ⟨rest₃, -, h⟩ := Option.bind_eq_some_iff.mp h
  obtain ⟨⟨v, rest₄⟩, hv, h⟩ := Option.bind_eq_some_iff.mp h
  have hsorted' := sorted_insertSorted (k := k) (v := v) hsorted
  have hacc' := fieldsShaped_insertSorted (k := k) (ih.value hv) hacc
  simp only at h
  split at h
  · cases h
  split at h
  · cases h
    exact ⟨hsorted', hacc'⟩
  split at h
  · exact ih.fields hsorted' hacc' h
  · cases h

end ReadsShaped

theorem readsShaped (floatText : String → Option String) (fuel : Nat) :
    ReadsShaped floatText fuel := by
  induction fuel with
  | zero =>
    refine ⟨?_, ?_, ?_⟩
    · intro _ _ _ _ h
      simp [parseValue] at h
    · intro _ _ _ _ h
      simp [parseItems] at h
    · intro _ _ _ _ _ _ _ h
      simp [parseFields] at h
  | succ fuel ih => exact ⟨ih.value_succ, ih.items_succ, ih.fields_succ⟩

/-- **What is read is shaped.** -/
theorem shaped_of_fromStr {serde : Serde} {s : String} {v : Value}
    (h : fromStr serde s = some v) : v.Shaped 128 := by
  obtain ⟨⟨w, rest⟩, hread, h⟩ := Option.bind_eq_some_iff.mp h
  simp only at h
  split at h
  · cases h
    exact (readsShaped _ _).value hread
  · cases h

theorem shaped_ofFields {depth : Nat} {fields : List (String × Value)} (hdepth : 1 < depth)
    (h : ∀ f ∈ fields, f.2.Shaped (depth - 1)) : (Value.ofFields fields).Shaped depth := by
  suffices hinserted : ∀ fields : List (String × Value), (∀ f ∈ fields, f.2.Shaped (depth - 1)) →
      Sorted (fields.foldr (fun f m => insertSorted f.1 f.2 m) []) ∧
        FieldsShaped (depth - 1) (fields.foldr (fun f m => insertSorted f.1 f.2 m) []) from
    ⟨hdepth, hinserted fields h⟩
  intro fields
  induction fields with
  | nil =>
    intro _
    exact ⟨List.Pairwise.nil, trivial⟩
  | cons f fields ih =>
    intro hfields
    obtain ⟨hsorted, hshaped⟩ := ih fun g hg => hfields g (List.mem_cons_of_mem _ hg)
    exact ⟨sorted_insertSorted hsorted,
      fieldsShaped_insertSorted (hfields f List.mem_cons_self) hshaped⟩

theorem shaped_get {depth : Nat} {v x : Value} {k : String} (hv : v.Shaped depth)
    (h : v.get k = some x) : x.Shaped (depth - 1) := by
  cases v with
  | object fields => exact fieldsShaped_iff.mp hv.2.2 _ (mem_of_lookup h)
  | _ => cases h

/-! ## A number is read back -/

theorem isDigit_eq (c : Char) : isDigit c = c.isDigit := by
  rw [Bool.eq_iff_iff]
  simp only [isDigit, Char.isDigit, Bool.and_eq_true, decide_eq_true_eq, Char.le_def, ge_iff_le]

theorem not_isDigit_of_ends {c : Char} {rest : List Char} (h : Ends (c :: rest)) :
    isDigit c = false ∧ c ≠ '.' ∧ ¬(c = 'e' ∨ c = 'E') := by
  have hc : isNumberChar c = false := h c rfl
  simp only [isNumberChar, Bool.or_eq_false_iff, decide_eq_false_iff_not, List.mem_cons,
    List.not_mem_nil, or_false, not_or] at hc
  rw [isDigit_eq]
  exact ⟨hc.1, hc.2.2.2.1, fun h => h.elim hc.2.2.2.2.1 hc.2.2.2.2.2⟩

theorem parseDigits_ends {cs digits left rest : List Char}
    (h : parseDigits cs = some (digits, left)) (hrest : Ends rest) :
    parseDigits (cs ++ rest) = some (digits, left ++ rest) := by
  by_cases hleft : left = []
  · unfold parseDigits at h ⊢
    split at h
    · cases h
    next hempty =>
    obtain ⟨rfl, hdrop⟩ := Prod.mk.inj (Option.some.inj h)
    rw [hleft] at hdrop
    -- all of `cs` are digits, and what follows starts with none
    have hall : ∀ c ∈ cs, isDigit c = true := List.dropWhile_eq_nil_iff.mp hdrop
    have htake : cs.takeWhile isDigit = cs := List.takeWhile_eq_self_iff.mpr hall
    have hstop : rest.takeWhile isDigit = [] ∧ rest.dropWhile isDigit = rest := by
      cases rest with
      | nil => exact ⟨rfl, rfl⟩
      | cons c rest =>
        have hc := (not_isDigit_of_ends hrest).1
        simp [hc]
    rw [List.takeWhile_append_of_pos hall, List.dropWhile_append_of_pos hall, hstop.1, hstop.2,
      List.append_nil, htake, hleft]
    rw [htake] at hempty
    rw [if_neg hempty, List.nil_append]
  · exact parseDigits_append h hleft rest

theorem parseFraction_ends {cs fraction left rest : List Char}
    (h : parseFraction cs = some (fraction, left)) (hrest : Ends rest) :
    parseFraction (cs ++ rest) = some (fraction, left ++ rest) := by
  cases cs with
  | nil =>
    cases h
    cases rest with
    | nil => rfl
    | cons c rest => simp [parseFraction, (not_isDigit_of_ends hrest).2.1]
  | cons c cs =>
    simp only [parseFraction, List.cons_append] at h ⊢
    split at h
    · next hpoint =>
      obtain ⟨⟨digits, left'⟩, hdigits, heq⟩ := Option.map_eq_some_iff.mp h
      cases heq
      rw [if_pos hpoint, parseDigits_ends hdigits hrest]
      rfl
    · next hpoint =>
      cases h
      rw [if_neg hpoint]
      rfl

theorem parseExponent_ends {cs exponent left rest : List Char}
    (h : parseExponent cs = some (exponent, left)) (hrest : Ends rest) :
    parseExponent (cs ++ rest) = some (exponent, left ++ rest) := by
  cases cs with
  | nil =>
    cases h
    cases rest with
    | nil => rfl
    | cons c rest => simp [parseExponent, (not_isDigit_of_ends hrest).2.2]
  | cons c cs =>
    simp only [parseExponent, List.cons_append] at h ⊢
    split at h
    · next hmark =>
      obtain ⟨⟨digits, left'⟩, hdigits, heq⟩ := Option.map_eq_some_iff.mp h
      cases heq
      -- there are digits behind the sign, so the sign does not change with what follows
      have hne : cs ≠ [] := by
        rintro rfl
        cases hdigits
      have hsign := parseSign_append hne rest
      rw [if_pos hmark, hsign]
      simp only
      rw [parseDigits_ends hdigits hrest]
      rfl
    · next hmark =>
      cases h
      rw [if_neg hmark]
      rfl

/-- A number that has been read to its end is read where something else follows. -/
theorem parseNumber_ends {floatText : String → Option String} {negative : Bool}
    {cs left rest : List Char} {n : Number}
    (h : parseNumber floatText negative cs = some (n, left)) (hrest : Ends rest) :
    parseNumber floatText negative (cs ++ rest) = some (n, left ++ rest) := by
  unfold parseNumber at h ⊢
  obtain ⟨⟨digits, left₁⟩, hdigits, h⟩ := Option.bind_eq_some_iff.mp h
  simp only at h
  by_cases hzero : digits.head? = some '0' ∧ digits.length ≠ 1
  · rw [if_pos hzero] at h
    cases h
  rw [if_neg hzero] at h
  obtain ⟨⟨fraction, left₂⟩, hfraction, h⟩ := Option.bind_eq_some_iff.mp h
  obtain ⟨⟨exponent, left₃⟩, hexponent, h⟩ := Option.bind_eq_some_iff.mp h
  obtain ⟨rfl, hfinal⟩ := finishNumber h (left₃ ++ rest)
  refine Option.bind_eq_some_iff.mpr ⟨_, parseDigits_ends hdigits hrest, ?_⟩
  simp only
  rw [if_neg hzero]
  exact Option.bind_eq_some_iff.mpr ⟨_, parseFraction_ends hfraction hrest,
    Option.bind_eq_some_iff.mpr ⟨_, parseExponent_ends hexponent hrest, hfinal⟩⟩

/-- No integer but zero is written with a zero in front. -/
theorem head_toDigits {n : Nat} (hn : n ≠ 0) : (Nat.toDigits 10 n).head? ≠ some '0' := by
  induction n using Nat.strongRecOn with
  | ind n ih =>
    by_cases hsmall : n < 10
    · rw [Nat.toDigits_of_lt_base hsmall]
      have hdigit : ∀ m < 10, m ≠ 0 → m.digitChar ≠ '0' := by decide
      simpa using hdigit n hsmall hn
    · have hfirst := ih (n / 10) (by omega) (by omega)
      rw [Nat.toDigits_of_base_le (by decide) (by omega)]
      cases hdigits : Nat.toDigits 10 (n / 10) with
      | nil => exact absurd hdigits Nat.toDigits_ne_nil
      | cons c cs => simpa [hdigits] using hfirst

theorem digitsVal_toDigits (n : Nat) : digitsVal (Nat.toDigits 10 n) = n := by
  have hread := Nat.ofDigitChars_ten_toDigits (n := n)
  rw [Nat.ofDigitChars_eq_foldl] at hread
  unfold digitsVal
  simpa [Nat.mul_comm] using hread

theorem parseDigits_toDigits (n : Nat) :
    parseDigits (Nat.toDigits 10 n) = some (Nat.toDigits 10 n, []) := by
  have hall : ∀ c ∈ Nat.toDigits 10 n, isDigit c = true := by
    intro c hc
    rw [isDigit_eq]
    exact isDigit_toDigits hc
  unfold parseDigits
  rw [List.takeWhile_eq_self_iff.mpr hall, List.dropWhile_eq_nil_iff.mpr hall, if_neg]
  simp [Nat.toDigits_ne_nil]

/-- The digits of an integer that fits. -/
theorem parseNumber_toDigits (floatText : String → Option String) (negative : Bool) {n : Nat}
    (hfits : if negative then 0 < n ∧ n ≤ UInt64.size / 2 else n < UInt64.size) :
    parseNumber floatText negative (Nat.toDigits 10 n) =
      some (if negative then .negInt (-(n : Int)) else .posInt n, []) := by
  have hzero : ¬((Nat.toDigits 10 n).head? = some '0' ∧ (Nat.toDigits 10 n).length ≠ 1) := by
    rintro ⟨hhead, hlength⟩
    by_cases hn : n = 0
    · subst hn
      exact hlength (by decide)
    · exact head_toDigits hn hhead
  unfold parseNumber
  rw [parseDigits_toDigits, Option.bind_eq_bind, Option.bind_some]
  simp only
  rw [if_neg hzero]
  cases negative with
  | true =>
    obtain ⟨hpos, hle⟩ : 0 < n ∧ n ≤ UInt64.size / 2 := hfits
    simp [parseFraction, parseExponent, digitsVal_toDigits, hpos, hle]
  | false =>
    have hlt : n < UInt64.size := hfits
    simp [parseFraction, parseExponent, digitsVal_toDigits, hlt]

/-! ## A value is read back -/

/-- The text of a float is read as that float, as most of the texts are that `serde_json` writes. -/
def FloatReads (floatText : String → Option String) (text : String) : Prop :=
  parseValue floatText 1 0 text.toList = some (.number (.float text), [])

/-- A number is read the same way whatever follows, and however much fuel there is. -/
theorem parseValue_number_ends {floatText : String → Option String} {cs rest : List Char}
    {n : Number} (h : parseValue floatText 1 0 cs = some (.number n, [])) (hrest : Ends rest)
    (fuel depth : Nat) : parseValue floatText (fuel + 1) depth (cs ++ rest) =
      some (.number n, rest) := by
  obtain ⟨c, tail, hskip⟩ := skipSpace_of_parseValue h
  rw [parseValue] at h ⊢
  rw [hskip] at h
  rw [skipSpace_append hskip]
  simp only at h ⊢
  by_cases hnull : c = 'n'
  · rw [if_pos hnull] at h
    obtain ⟨_, _, heq⟩ := Option.map_eq_some_iff.mp h
    cases heq
  by_cases htrue : c = 't'
  · rw [if_neg hnull, if_pos htrue] at h
    obtain ⟨_, _, heq⟩ := Option.map_eq_some_iff.mp h
    cases heq
  by_cases hfalse : c = 'f'
  · rw [if_neg hnull, if_neg htrue, if_pos hfalse] at h
    obtain ⟨_, _, heq⟩ := Option.map_eq_some_iff.mp h
    cases heq
  by_cases hstring : c = '"'
  · rw [if_neg hnull, if_neg htrue, if_neg hfalse, if_pos hstring] at h
    obtain ⟨_, _, heq⟩ := Option.map_eq_some_iff.mp h
    cases heq
  rw [if_neg hnull, if_neg htrue, if_neg hfalse, if_neg hstring] at h ⊢
  by_cases hminus : c = '-'
  · rw [if_pos hminus] at h ⊢
    obtain ⟨⟨m, r⟩, hr, heq⟩ := Option.map_eq_some_iff.mp h
    cases heq
    rw [parseNumber_ends hr hrest]
    rfl
  rw [if_neg hminus] at h ⊢
  by_cases hdigit : isDigit c = true
  · rw [if_pos hdigit] at h ⊢
    obtain ⟨⟨m, r⟩, hr, heq⟩ := Option.map_eq_some_iff.mp h
    cases heq
    have hends := parseNumber_ends hr hrest
    rw [List.cons_append] at hends
    rw [hends]
    rfl
  · -- a bracket needs a depth of two
    rw [if_neg hdigit, if_pos (by decide)] at h
    cases h

theorem parseValue_numberChars {floatText : String → Option String} {n : Number}
    (hn : n.InRange) (hfloat : ∀ text, n = .float text → FloatReads floatText text) :
    parseValue floatText 1 0 (numberChars n) = some (.number n, []) := by
  cases n with
  | posInt n =>
    have hread := parseNumber_toDigits floatText false (n := n) hn
    obtain ⟨c, cs, hdigits⟩ := List.exists_cons_of_ne_nil (Nat.toDigits_ne_nil (n := n) (b := 10))
    have hc : c.isDigit = true := isDigit_toDigits (n := n) (by simp [hdigits])
    show parseValue floatText 1 0 (Nat.toDigits 10 n) = _
    rw [hdigits] at hread ⊢
    have hlead : c ≠ 'n' ∧ c ≠ 't' ∧ c ≠ 'f' ∧ c ≠ '"' ∧ c ≠ '-' ∧ isJsonSpace c = false := by
      refine ⟨?_, ?_, ?_, ?_, ?_, ?_⟩
      · rintro rfl
        cases hc
      · rintro rfl
        cases hc
      · rintro rfl
        cases hc
      · rintro rfl
        cases hc
      · rintro rfl
        cases hc
      · rw [Bool.eq_false_iff]
        intro hspace
        simp only [isJsonSpace, Bool.or_eq_true, beq_iff_eq] at hspace
        rcases hspace with ((rfl | rfl) | rfl) | rfl <;> cases hc
    obtain ⟨hn, ht, hf, hq, hm, hspace⟩ := hlead
    have hskip : skipSpace (c :: cs) = c :: cs := by simp [skipSpace, hspace]
    rw [parseValue, hskip]
    simp only
    rw [if_neg hn, if_neg ht, if_neg hf, if_neg hq, if_neg hm, if_pos (isDigit_eq c ▸ hc), hread]
    rfl
  | negInt n =>
    obtain ⟨hneg, hfits⟩ : n < 0 ∧ n.natAbs ≤ UInt64.size / 2 := hn
    have hread := parseNumber_toDigits floatText true (n := n.natAbs)
      (show 0 < n.natAbs ∧ n.natAbs ≤ UInt64.size / 2 from ⟨by omega, hfits⟩)
    have hback : -(n.natAbs : Int) = n := by omega
    rw [if_pos rfl, hback] at hread
    show (parseNumber floatText true (Nat.toDigits 10 n.natAbs)).map _ = _
    rw [hread]
    rfl
  | float text => exact hfloat text rfl

/-- The closing bracket is no start of a value. -/
theorem stripChars_of_parseValue {floatText : String → Option String} {fuel depth : Nat}
    {cs rest : List Char} {v : Value} (h : parseValue floatText fuel depth cs = some (v, rest)) :
    stripChars [']'] (skipSpace cs) = none := by
  cases fuel with
  | zero => simp [parseValue] at h
  | succ fuel =>
    obtain ⟨c, tail, hskip⟩ := skipSpace_of_parseValue h
    rw [hskip]
    by_cases hc : c = ']'
    · subst hc
      rw [parseValue, hskip] at h
      simp [isDigit] at h
    · simp [stripChars, Ne.symm hc]

theorem skipSpace_cons {c : Char} (h : isJsonSpace c = false) (cs : List Char) :
    skipSpace (c :: cs) = c :: cs := by
  simp [skipSpace, h]

/-- A key that is greater than all goes to the end. -/
theorem insertSorted_of_gt {α : Type} {m : List (String × α)} {k : String} (v : α)
    (h : ∀ e ∈ m, e.1 < k) : insertSorted k v m = m ++ [(k, v)] := by
  induction m with
  | nil => rfl
  | cons e m ih =>
    have he : e.1 < k := h e List.mem_cons_self
    have hrest := ih fun f hf => h f (List.mem_cons_of_mem _ hf)
    obtain ⟨l, w⟩ := e
    have hne : k ≠ l := by
      rintro rfl
      exact String.lt_irrefl k he
    have hnot : ¬ k < l := String.lt_asymm he
    simp [insertSorted, hne, hnot, hrest]

/-- Entries in order are inserted as they stand. -/
theorem insertAll_append {α : Type} {m entries : List (String × α)} (h : Sorted (m ++ entries)) :
    insertAll m entries = m ++ entries := by
  induction entries generalizing m with
  | nil => simp [insertAll]
  | cons e entries ih =>
    have hbefore : ∀ f ∈ m, f.1 < e.1 := by
      intro f hf
      exact (List.pairwise_append.mp h).2.2 f hf e List.mem_cons_self
    have hmore : Sorted ((m ++ [(e.1, e.2)]) ++ entries) := by simpa using h
    show insertAll (insertSorted e.1 e.2 m) entries = _
    rw [insertSorted_of_gt e.2 hbefore, ih hmore]
    simp

/-- The floats of a value are read back. -/
def FloatsRead (floatText : String → Option String) (floats : List String) : Prop :=
  ∀ text ∈ floats, FloatReads floatText text

theorem FloatsRead.left {floatText : String → Option String} {xs ys : List String}
    (h : FloatsRead floatText (xs ++ ys)) : FloatsRead floatText xs :=
  fun text ht => h text (List.mem_append_left _ ht)

theorem FloatsRead.right {floatText : String → Option String} {xs ys : List String}
    (h : FloatsRead floatText (xs ++ ys)) : FloatsRead floatText ys :=
  fun text ht => h text (List.mem_append_right _ ht)

theorem mem_fieldsFloats {text : String} {fields : List (String × Value)} :
    text ∈ fieldsFloats fields ↔ ∃ f ∈ fields, text ∈ f.2.floats := by
  induction fields with
  | nil => simp [fieldsFloats]
  | cons f fields ih =>
    obtain ⟨k, v⟩ := f
    simp [fieldsFloats, ih]

theorem floatsRead_ofFields {floatText : String → Option String} {fields : List (String × Value)}
    (h : ∀ f ∈ fields, FloatsRead floatText f.2.floats) :
    FloatsRead floatText (Value.ofFields fields).floats := by
  intro text htext
  obtain ⟨f, hf, htext⟩ := mem_fieldsFloats.mp htext
  have hmem : ∀ fields : List (String × Value),
      f ∈ fields.foldr (fun f m => insertSorted f.1 f.2 m) [] → f ∈ fields := by
    intro fields
    induction fields with
    | nil => exact id
    | cons g fields ih =>
      intro hg
      rcases mem_insertSorted hg with rfl | hg
      · exact List.mem_cons_self
      · exact List.mem_cons_of_mem _ (ih hg)
  exact h f (hmem fields hf) text htext

theorem length_valueChars_pos {floatText : String → Option String} {v : Value}
    (hfloats : FloatsRead floatText v.floats) : 0 < (valueChars v).length := by
  cases v with
  | null => simp [valueChars]
  | bool b => cases b <;> simp [valueChars]
  | number n =>
    cases n with
    | posInt n => simpa [valueChars, numberChars] using List.length_pos_iff.mpr Nat.toDigits_ne_nil
    | negInt n => simp [valueChars, numberChars]
    | float text =>
      have hread := hfloats text (by simp [Value.floats])
      obtain ⟨c, tail, hskip⟩ := skipSpace_of_parseValue hread
      have hmem := mem_skipSpace hskip
      simpa [valueChars, numberChars] using List.length_pos_of_mem hmem
  | string s => simp [valueChars, stringChars]
  | array items => simp [valueChars]
  | object fields => simp [valueChars]

section

variable {floatText : String → Option String}

/-- A member of an object, with what is behind it. -/
theorem parseFields_written {fuel depth : Nat} {acc : List (String × Value)} {k : String}
    {v : Value} {c : Char} {tail : List Char}
    (hread : parseValue floatText fuel depth (valueChars v ++ c :: tail) = some (v, c :: tail))
    (hspace : isJsonSpace c = false) :
    parseFields floatText (fuel + 1) depth acc
        (stringChars k ++ ':' :: (valueChars v ++ c :: tail)) =
      if c = '}' then some (insertSorted k v acc, tail)
      else if c = ',' then parseFields floatText fuel depth (insertSorted k v acc) tail
      else none := by
  have hquote : stringChars k ++ ':' :: (valueChars v ++ c :: tail) =
      '"' :: (escapeChars k.toList ++ '"' :: ':' :: (valueChars v ++ c :: tail)) := by
    simp [stringChars]
  rw [hquote, parseFields]
  show (parseString (escapeChars k.toList ++ '"' :: ':' :: (valueChars v ++ c :: tail))).bind _ = _
  rw [parseString_escapeChars, Option.bind_some]
  show (parseValue floatText fuel depth (valueChars v ++ c :: tail)).bind _ = _
  rw [hread, Option.bind_some]
  simp only [skipSpace_cons hspace]

mutual

/-- **What is printed of a value is read as that value**, whatever follows. The fuel goes down by
two with every bracket, and each bracket is two characters. -/
theorem parseValue_valueChars : ∀ (v : Value) (fuel : Nat) (rest : List Char) {depth : Nat},
    v.Shaped depth → FloatsRead floatText v.floats → Ends rest →
    2 * (valueChars v).length ≤ fuel →
    parseValue floatText fuel depth (valueChars v ++ rest) = some (v, rest)
  | .null, fuel, rest, depth, _, _, _, hfuel => by
    obtain ⟨fuel, rfl⟩ : ∃ n, fuel = n + 1 := ⟨fuel - 1, by simp [valueChars] at hfuel; omega⟩
    simp [valueChars, parseValue, skipSpace, isJsonSpace, stripChars]
  | .bool true, fuel, rest, depth, _, _, _, hfuel => by
    obtain ⟨fuel, rfl⟩ : ∃ n, fuel = n + 1 := ⟨fuel - 1, by simp [valueChars] at hfuel; omega⟩
    simp [valueChars, parseValue, skipSpace, isJsonSpace, stripChars]
  | .bool false, fuel, rest, depth, _, _, _, hfuel => by
    obtain ⟨fuel, rfl⟩ : ∃ n, fuel = n + 1 := ⟨fuel - 1, by simp [valueChars] at hfuel; omega⟩
    simp [valueChars, parseValue, skipSpace, isJsonSpace, stripChars]
  | .number n, fuel, rest, depth, hv, hfloats, hrest, hfuel => by
    have hpos := length_valueChars_pos hfloats
    obtain ⟨fuel, rfl⟩ : ∃ n, fuel = n + 1 := ⟨fuel - 1, by omega⟩
    rw [valueChars]
    refine parseValue_number_ends (parseValue_numberChars hv ?_) hrest fuel depth
    rintro text rfl
    exact hfloats text (by simp [Value.floats])
  | .string s, fuel, rest, depth, _, _, _, hfuel => by
    obtain ⟨fuel, rfl⟩ : ∃ n, fuel = n + 1 :=
      ⟨fuel - 1, by simp [valueChars, stringChars] at hfuel; omega⟩
    have hchars : valueChars (.string s) ++ rest =
        '"' :: (escapeChars s.toList ++ '"' :: rest) := by
      simp [valueChars, stringChars]
    rw [hchars, parseValue]
    show (parseString _).map _ = _
    rw [parseString_escapeChars]
    rfl
  | .array items, fuel, rest, depth, hv, hfloats, _, hfuel => by
    obtain ⟨hdepth, hitems⟩ := hv
    rw [valueChars, List.length_cons, List.length_append] at hfuel
    obtain ⟨fuel, rfl⟩ : ∃ n, fuel = n + 1 := ⟨fuel - 1, by omega⟩
    have hchars : valueChars (.array items) ++ rest = '[' :: (itemsChars items ++ ']' :: rest) := by
      simp [valueChars]
    -- the tests for the literals, a string and a number fail, and the depth is enough
    rw [hchars, parseValue, skipSpace_cons (by decide)]
    simp only
    rw [if_neg (by decide), if_neg (by decide), if_neg (by decide), if_neg (by decide),
      if_neg (by decide), if_neg (by decide), if_neg (by omega), if_true]
    by_cases hempty : items = []
    · subst hempty
      rfl
    · have hread := parseItems_itemsChars items fuel rest hempty hitems hfloats
        (by simp at hfuel; omega)
      -- what is printed of items does not begin with the bracket that closes them
      have hopen : stripChars [']'] (skipSpace (itemsChars items ++ ']' :: rest)) = none := by
        cases fuel with
        | zero => simp [parseItems] at hread
        | succ fuel =>
          rw [parseItems] at hread
          obtain ⟨_, hfirst, _⟩ := Option.bind_eq_some_iff.mp hread
          exact stripChars_of_parseValue hfirst
      rw [hopen]
      simp only
      rw [hread]
      rfl
  | .object fields, fuel, rest, depth, hv, hfloats, _, hfuel => by
    obtain ⟨hdepth, hsorted, hfields⟩ := hv
    rw [valueChars, List.length_cons, List.length_append] at hfuel
    obtain ⟨fuel, rfl⟩ : ∃ n, fuel = n + 1 := ⟨fuel - 1, by omega⟩
    have hchars : valueChars (.object fields) ++ rest =
        '{' :: (fieldsChars fields ++ '}' :: rest) := by
      simp [valueChars]
    rw [hchars, parseValue, skipSpace_cons (by decide)]
    simp only
    rw [if_neg (by decide), if_neg (by decide), if_neg (by decide), if_neg (by decide),
      if_neg (by decide), if_neg (by decide), if_neg (by omega), if_neg (by decide), if_true]
    by_cases hempty : fields = []
    · subst hempty
      rfl
    · have hread := parseFields_fieldsChars fields [] fuel rest hempty hfields hfloats
        (by simp at hfuel; omega)
      have hopen : stripChars ['}'] (skipSpace (fieldsChars fields ++ '}' :: rest)) =
          none := by
        cases fuel with
        | zero => simp [parseFields] at hread
        | succ fuel =>
          rw [parseFields] at hread
          obtain ⟨_, hquote, _⟩ := Option.bind_eq_some_iff.mp hread
          cases hskip : skipSpace (fieldsChars fields ++ '}' :: rest) with
          | nil => rfl
          | cons c tail =>
            rw [hskip] at hquote
            by_cases hc : '"' = c
            · subst hc
              rfl
            · simp [stripChars, hc] at hquote
      rw [hopen]
      simp only
      rw [hread, insertAll_append (by simpa using hsorted)]
      rfl

theorem parseItems_itemsChars : ∀ (items : List Value) (fuel : Nat) (rest : List Char)
    {depth : Nat},
    items ≠ [] → ItemsShaped depth items → FloatsRead floatText (itemsFloats items) →
    2 * (itemsChars items).length + 1 ≤ fuel →
    parseItems floatText fuel depth (itemsChars items ++ ']' :: rest) = some (items, rest)
  | [], _, _, _, hne, _, _, _ => absurd rfl hne
  | [v], fuel, rest, depth, _, hitems, hfloats, hfuel => by
    rw [itemsFloats] at hfloats
    rw [itemsChars] at hfuel ⊢
    obtain ⟨fuel, rfl⟩ : ∃ n, fuel = n + 1 := ⟨fuel - 1, by omega⟩
    have hread := parseValue_valueChars v fuel (']' :: rest) hitems.1 hfloats.left
      (ends_cons (by decide) _) (by omega)
    rw [parseItems, hread]
    rfl
  | v :: w :: items, fuel, rest, depth, _, hitems, hfloats, hfuel => by
    rw [itemsFloats] at hfloats
    have hchars : itemsChars (v :: w :: items) =
        valueChars v ++ ',' :: itemsChars (w :: items) := by
      simp [itemsChars]
    rw [hchars] at hfuel ⊢
    rw [List.length_append, List.length_cons] at hfuel
    obtain ⟨fuel, rfl⟩ : ∃ n, fuel = n + 1 := ⟨fuel - 1, by omega⟩
    have hread := parseValue_valueChars v fuel
      (',' :: (itemsChars (w :: items) ++ ']' :: rest)) hitems.1 hfloats.left
      (ends_cons (by decide) _) (by omega)
    have hothers := parseItems_itemsChars (w :: items) fuel rest (List.cons_ne_nil w items)
      hitems.2 hfloats.right (by omega)
    rw [List.append_assoc, List.cons_append, parseItems, hread]
    show (parseItems floatText fuel depth (itemsChars (w :: items) ++ ']' :: rest)).bind _ = _
    rw [hothers]
    rfl

theorem parseFields_fieldsChars : ∀ (fields acc : List (String × Value)) (fuel : Nat)
    (rest : List Char) {depth : Nat}, fields ≠ [] → FieldsShaped depth fields →
    FloatsRead floatText (fieldsFloats fields) → 2 * (fieldsChars fields).length + 1 ≤ fuel →
    parseFields floatText fuel depth acc (fieldsChars fields ++ '}' :: rest) =
      some (insertAll acc fields, rest)
  | [], _, _, _, _, hne, _, _, _ => absurd rfl hne
  | [(k, v)], acc, fuel, rest, depth, _, hfields, hfloats, hfuel => by
    rw [fieldsFloats] at hfloats
    rw [fieldsChars] at hfuel ⊢
    rw [List.length_append, List.length_cons] at hfuel
    obtain ⟨fuel, rfl⟩ : ∃ n, fuel = n + 1 := ⟨fuel - 1, by omega⟩
    have hread := parseValue_valueChars v fuel ('}' :: rest) hfields.1
      hfloats.left (ends_cons (by decide) _) (by omega)
    rw [List.append_assoc, List.cons_append, parseFields_written hread (by decide)]
    rfl
  | (k, v) :: g :: fields, acc, fuel, rest, depth, _, hfields, hfloats, hfuel => by
    rw [fieldsFloats] at hfloats
    have hchars : fieldsChars ((k, v) :: g :: fields) =
        stringChars k ++ ':' :: (valueChars v ++ ',' :: fieldsChars (g :: fields)) := by
      simp [fieldsChars]
    rw [hchars] at hfuel ⊢
    rw [List.length_append, List.length_cons, List.length_append, List.length_cons] at hfuel
    obtain ⟨fuel, rfl⟩ : ∃ n, fuel = n + 1 := ⟨fuel - 1, by omega⟩
    have hread := parseValue_valueChars v fuel
      (',' :: (fieldsChars (g :: fields) ++ '}' :: rest)) hfields.1 hfloats.left
      (ends_cons (by decide) _) (by omega)
    have hothers := parseFields_fieldsChars (g :: fields) (insertSorted k v acc) fuel rest
      (List.cons_ne_nil g fields) hfields.2 hfloats.right (by omega)
    rw [List.append_assoc, List.cons_append, List.append_assoc, List.cons_append,
      parseFields_written hread (by decide)]
    exact hothers

end

end

/-- **A value that the parser can give is read back from what is printed of it.** -/
theorem fromStr_toJson {serde : Serde} {v : Value} (hv : v.Shaped 128)
    (hfloats : FloatsRead serde.floatText v.floats) : fromStr serde v.toJson = some v := by
  have hread := parseValue_valueChars v (2 * (valueChars v).length + 2) [] hv hfloats ends_nil
    (by omega)
  rw [List.append_nil] at hread
  unfold fromStr Value.toJson
  rw [String.toList_ofList, hread]
  rfl

end LlmUniversalProxy.Json
