import LlmUniversalProxy.Json.Text
import LlmUniversalProxy.Lib.Text

/-!
# `Json.ReadBack` — a string that is printed is read back

The escapes are a homomorphism, and the body of a literal ends where its text does. What is printed
has no control characters in it, so that it fits on a line; and what can be read is not blank.
-/

set_option autoImplicit false

namespace LlmUniversalProxy.Json

open Lib

theorem escapeChars_append (xs ys : List Char) :
    escapeChars (xs ++ ys) = escapeChars xs ++ escapeChars ys := List.flatMap_append

theorem escapeChars_cons (c : Char) (cs : List Char) :
    escapeChars (c :: cs) = escapeChar c ++ escapeChars cs := rfl

/-- The four digits that stand for a control character. -/
theorem hex4_control {n : Nat} (h : n < 32) :
    hex4 '0' '0' (hexDigit (n / 16)) (hexDigit (n % 16)) = some n := by
  revert n
  decide

theorem parseUnicodeEscape_control {c : Char} (h : c.toNat < 32) (rest : List Char) :
    parseUnicodeEscape ('0' :: '0' :: hexDigit (c.toNat / 16) :: hexDigit (c.toNat % 16) :: rest) =
      some (c, rest) := by
  have hunit : parseUnit ('0' :: '0' :: hexDigit (c.toNat / 16) :: hexDigit (c.toNat % 16) :: rest) =
      some (c.toNat, rest) := by
    show (hex4 '0' '0' _ _).map _ = _
    rw [hex4_control h]
    rfl
  unfold parseUnicodeEscape
  rw [hunit]
  simp only [Option.bind_eq_bind, Option.bind_some]
  rw [if_neg (by omega), if_neg (by omega), Char.ofNat_toNat]

/-- An escape is read as the character it stands for. -/
theorem parseEscape_escapeChar {c : Char} (h : escapeChar c ≠ [c]) :
    ∃ escape, escapeChar c = '\\' :: escape ∧
      ∀ rest, parseEscape (escape ++ rest) = some (c, rest) := by
  revert h
  unfold escapeChar
  split
  · next hc => exact fun _ => ⟨['"'], rfl, fun rest => by rw [hc]; rfl⟩
  split
  · next hc => exact fun _ => ⟨['\\'], rfl, fun rest => by rw [hc]; rfl⟩
  split
  · next hc => exact fun _ => ⟨['n'], rfl, fun rest => by rw [hc]; rfl⟩
  split
  · next hc => exact fun _ => ⟨['r'], rfl, fun rest => by rw [hc]; rfl⟩
  split
  · next hc => exact fun _ => ⟨['t'], rfl, fun rest => by rw [hc]; rfl⟩
  split
  · next hc =>
    refine fun _ => ⟨['b'], rfl, fun rest => ?_⟩
    rw [← Char.ofNat_toNat c, hc]
    rfl
  split
  · next hc =>
    refine fun _ => ⟨['f'], rfl, fun rest => ?_⟩
    rw [← Char.ofNat_toNat c, hc]
    rfl
  split
  · next hc =>
    refine fun _ => ⟨['u', '0', '0', hexDigit (c.toNat / 16), hexDigit (c.toNat % 16)], rfl,
      fun rest => ?_⟩
    exact parseUnicodeEscape_control hc rest
  · exact fun h => absurd rfl h

/-- A character that is not escaped may stand in a literal as it is. -/
theorem plain_of_escapeChar {c : Char} (h : escapeChar c = [c]) :
    c ≠ '"' ∧ c ≠ '\\' ∧ ¬ c.toNat < 32 := by
  refine ⟨?_, ?_, ?_⟩
  · rintro rfl
    exact absurd h (by decide)
  · rintro rfl
    exact absurd h (by decide)
  · intro hc
    have hlength := congrArg List.length h
    revert hlength
    unfold escapeChar
    simp only [hc, if_true]
    repeat' split
    all_goals exact fun hlength => absurd hlength (by simp)

/-- The body of a literal, through its closing quote. -/
theorem parseStringBody_escapeChars (cs rest : List Char) {fuel : Nat} (hfuel : cs.length < fuel) :
    parseStringBody fuel (escapeChars cs ++ '"' :: rest) = some (cs, rest) := by
  induction cs generalizing fuel with
  | nil =>
    obtain ⟨fuel, rfl⟩ := Nat.exists_eq_succ_of_ne_zero (Nat.ne_of_gt hfuel)
    rfl
  | cons c cs ih =>
    obtain ⟨fuel, rfl⟩ := Nat.exists_eq_succ_of_ne_zero (Nat.ne_of_gt (Nat.zero_lt_of_lt hfuel))
    have hrest := ih (Nat.lt_of_succ_lt_succ hfuel)
    rw [escapeChars_cons, List.append_assoc]
    by_cases hplain : escapeChar c = [c]
    · obtain ⟨hquote, hslash, hcontrol⟩ := plain_of_escapeChar hplain
      rw [hplain, List.singleton_append, parseStringBody, if_neg hquote, if_neg hslash,
        if_neg hcontrol, hrest]
      rfl
    · obtain ⟨escape, hescape, hread⟩ := parseEscape_escapeChar hplain
      rw [hescape, List.cons_append, parseStringBody, if_neg (by decide), if_pos rfl,
        hread]
      show (parseStringBody fuel (escapeChars cs ++ '"' :: rest)).bind _ = _
      rw [hrest]
      rfl

theorem length_le_escapeChars (cs : List Char) : cs.length ≤ (escapeChars cs).length := by
  induction cs with
  | nil => exact Nat.le_refl 0
  | cons c cs ih =>
    have hc : 1 ≤ (escapeChar c).length := by
      unfold escapeChar
      repeat' split
      all_goals exact Nat.le_add_left 1 _
    rw [escapeChars_cons, List.length_append, List.length_cons]
    omega

theorem parseString_escapeChars (s : String) (rest : List Char) :
    parseString (escapeChars s.toList ++ '"' :: rest) = some (s, rest) := by
  unfold parseString
  rw [parseStringBody_escapeChars s.toList rest, Option.map_some, String.ofList_toList]
  have hlength := length_le_escapeChars s.toList
  rw [List.length_append]
  omega

/-- A literal ends where its text does. -/
theorem stringChars_inj {s t : String} {rest rest' : List Char}
    (h : stringChars s ++ rest = stringChars t ++ rest') : s = t ∧ rest = rest' := by
  have htail : escapeChars s.toList ++ '"' :: rest = escapeChars t.toList ++ '"' :: rest' := by
    simpa [stringChars] using h
  have hread := congrArg parseString htail
  rw [parseString_escapeChars, parseString_escapeChars] at hread
  exact Prod.mk.inj (Option.some.inj hread)

/-- **An object with one string in it is read back.** -/
theorem fromStr_singleton (serde : Serde) (k s : String) :
    fromStr serde (Value.toJson (.object [(k, .string s)])) = some (.object [(k, .string s)]) := by
  have hchars : (Value.toJson (.object [(k, .string s)])).toList =
      '{' :: '"' :: (escapeChars k.toList ++ '"' :: ':' :: '"' ::
        (escapeChars s.toList ++ '"' :: ['}'])) := by
    unfold Value.toJson
    rw [String.toList_ofList]
    simp [valueChars, fieldsChars, stringChars]
  unfold fromStr
  rw [hchars]
  generalize hfuel : 2 * _ + 2 = fuel
  obtain ⟨fuel, rfl⟩ : ∃ n, fuel = n + 3 := ⟨fuel - 3, by
    rw [← hfuel, List.length_cons]
    omega⟩
  have hfields : parseFields serde.floatText (fuel + 2) 127 [] ('"' :: (escapeChars k.toList ++
      '"' :: ':' :: '"' :: (escapeChars s.toList ++ '"' :: ['}']))) =
      some ([(k, .string s)], []) := by
    have hkey := parseString_escapeChars k (':' :: '"' :: (escapeChars s.toList ++ '"' :: ['}']))
    have hvalue : parseValue serde.floatText (fuel + 1) 127
        ('"' :: (escapeChars s.toList ++ '"' :: ['}'])) = some (.string s, ['}']) := by
      unfold parseValue
      show (parseString _).map _ = _
      rw [parseString_escapeChars]
      rfl
    unfold parseFields
    show (parseString _).bind _ = _
    rw [hkey, Option.bind_some]
    show (parseValue serde.floatText (fuel + 1) 127 _).bind _ = _
    rw [hvalue]
    rfl
  have hvalue : parseValue serde.floatText (fuel + 3) 128 ('{' :: '"' :: (escapeChars k.toList ++
      '"' :: ':' :: '"' :: (escapeChars s.toList ++ '"' :: ['}']))) =
      some (.object [(k, .string s)], []) := by
    unfold parseValue
    show (parseFields serde.floatText (fuel + 2) 127 [] _).map _ = _
    rw [hfields]
    rfl
  rw [hvalue]
  rfl

/-! ## No control characters -/

mutual

def Value.floats : Value → List String
  | .number (.float text) => [text]
  | .array items => itemsFloats items
  | .object fields => fieldsFloats fields
  | _ => []

def itemsFloats : List Value → List String
  | [] => []
  | v :: rest => v.floats ++ itemsFloats rest

def fieldsFloats : List (String × Value) → List String
  | [] => []
  | (_, v) :: rest => v.floats ++ fieldsFloats rest

end

/-- A text without control characters. -/
def NoControl (cs : List Char) : Prop := ∀ c ∈ cs, 32 ≤ c.toNat

instance (cs : List Char) : Decidable (NoControl cs) := List.decidableBAll _ _

theorem noControl_append {xs ys : List Char} (hxs : NoControl xs) (hys : NoControl ys) :
    NoControl (xs ++ ys) := by
  intro c hc
  rcases List.mem_append.mp hc with hc | hc
  · exact hxs c hc
  · exact hys c hc

theorem noControl_cons {c : Char} {cs : List Char} (hc : 32 ≤ c.toNat) (hcs : NoControl cs) :
    NoControl (c :: cs) := by
  intro d hd
  rcases List.mem_cons.mp hd with rfl | hd
  · exact hc
  · exact hcs d hd

theorem noControl_hexDigit {n : Nat} (h : n < 16) : 32 ≤ (hexDigit n).toNat := by
  revert n
  decide

theorem noControl_escapeChar (c : Char) : NoControl (escapeChar c) := by
  unfold escapeChar
  repeat' split
  · decide
  · decide
  · decide
  · decide
  · decide
  · decide
  · decide
  · next h =>
    refine noControl_cons (by decide) (noControl_cons (by decide) (noControl_cons (by decide)
      (noControl_cons (by decide) ?_)))
    refine noControl_cons (noControl_hexDigit (by omega)) (noControl_cons
      (noControl_hexDigit (by omega)) ?_)
    exact fun d hd => nomatch hd
  · next h =>
    refine noControl_cons (by omega) ?_
    exact fun d hd => nomatch hd

theorem noControl_stringChars (s : String) : NoControl (stringChars s) := by
  refine noControl_cons (by decide) (noControl_append ?_ (by decide))
  intro c hc
  obtain ⟨d, -, hd⟩ := List.mem_flatMap.mp hc
  exact noControl_escapeChar d c hd

theorem noControl_toDigits (n : Nat) : NoControl (Nat.toDigits 10 n) := by
  intro c hc
  have hdigit := Nat.isDigit_of_mem_toDigits (by decide) (by decide) hc
  exact Nat.le_trans (by decide) (Char.isDigit_iff_toNat.mp hdigit).1

theorem noControl_numberChars {n : Number} (h : ∀ text, n = .float text → NoControl text.toList) :
    NoControl (numberChars n) := by
  cases n with
  | posInt n => exact noControl_toDigits n
  | negInt n => exact noControl_cons (by decide) (noControl_toDigits _)
  | float text => exact h text rfl

mutual

/-- **What is printed has no control characters**, if the texts of the floats have none. -/
theorem noControl_valueChars : ∀ {v : Value}, (∀ text ∈ v.floats, NoControl text.toList) →
    NoControl (valueChars v)
  | .null, _ => by rw [valueChars]; decide
  | .bool true, _ => by rw [valueChars]; decide
  | .bool false, _ => by rw [valueChars]; decide
  | .number n, h => by
    rw [valueChars]
    refine noControl_numberChars ?_
    rintro text rfl
    exact h text (by simp [Value.floats])
  | .string s, _ => by rw [valueChars]; exact noControl_stringChars s
  | .array items, h => by
    rw [valueChars]
    rw [Value.floats] at h
    exact noControl_cons (by decide) (noControl_append (noControl_itemsChars h) (by decide))
  | .object fields, h => by
    rw [valueChars]
    rw [Value.floats] at h
    exact noControl_cons (by decide) (noControl_append (noControl_fieldsChars h) (by decide))

theorem noControl_itemsChars : ∀ {items : List Value},
    (∀ text ∈ itemsFloats items, NoControl text.toList) → NoControl (itemsChars items)
  | [], _ => by rw [itemsChars]; decide
  | [v], h => by
    rw [itemsChars]
    rw [itemsFloats] at h
    exact noControl_valueChars fun text ht => h text (List.mem_append_left _ ht)
  | v :: w :: rest, h => by
    rw [itemsChars]
    rw [itemsFloats] at h
    exact noControl_append
      (noControl_valueChars fun text ht => h text (List.mem_append_left _ ht))
      (noControl_cons (by decide)
        (noControl_itemsChars fun text ht => h text (List.mem_append_right _ ht)))
    simp

theorem noControl_fieldsChars : ∀ {fields : List (String × Value)},
    (∀ text ∈ fieldsFloats fields, NoControl text.toList) → NoControl (fieldsChars fields)
  | [], _ => by rw [fieldsChars]; decide
  | [(k, v)], h => by
    rw [fieldsChars]
    rw [fieldsFloats] at h
    exact noControl_append (noControl_stringChars k) (noControl_cons (by decide)
      (noControl_valueChars fun text ht => h text (List.mem_append_left _ ht)))
  | (k, v) :: w :: rest, h => by
    rw [fieldsChars]
    rw [fieldsFloats] at h
    exact noControl_append (noControl_stringChars k) (noControl_cons (by decide) (noControl_append
      (noControl_valueChars fun text ht => h text (List.mem_append_left _ ht))
      (noControl_cons (by decide)
        (noControl_fieldsChars fun text ht => h text (List.mem_append_right _ ht)))))
    simp

end

/-! ## Not blank -/

theorem mem_skipSpace {cs rest : List Char} {c : Char} (h : skipSpace cs = c :: rest) : c ∈ cs := by
  induction cs with
  | nil => cases h
  | cons d cs ih =>
    unfold skipSpace at h
    split at h
    · exact List.mem_cons_of_mem _ (ih h)
    · cases h
      exact List.mem_cons_self

/-- The first character of a value is not blank. -/
theorem notBlank_of_parseValue {floatText : String → Option String} {fuel depth : Nat}
    {cs : List Char} {r : Value × List Char} (h : parseValue floatText fuel depth cs = some r) :
    ∃ c ∈ cs, Text.isWhitespace c = false := by
  cases fuel with
  | zero =>
    rw [parseValue] at h
    cases h
  | succ fuel =>
    rw [parseValue] at h
    split at h
    · cases h
    next c rest hskip =>
    refine ⟨c, mem_skipSpace hskip, ?_⟩
    split at h
    · next hc => rw [hc]; decide
    split at h
    · next hc => rw [hc]; decide
    split at h
    · next hc => rw [hc]; decide
    split at h
    · next hc => rw [hc]; decide
    split at h
    · next hc => rw [hc]; decide
    split at h
    · next hdigit =>
      -- `0` to `9` are no white space
      simp only [isDigit, Bool.and_eq_true, decide_eq_true_eq, Char.le_def,
        UInt32.le_iff_toNat_le] at hdigit
      have hlow : 48 ≤ c.toNat := hdigit.1
      have hhigh : c.toNat ≤ 57 := hdigit.2
      simp only [Text.isWhitespace, Bool.or_eq_false_iff, Bool.and_eq_false_iff,
        decide_eq_false_iff_not, beq_eq_false_iff_ne]
      omega
    split at h
    · cases h
    split at h
    · next hc => rw [hc]; decide
    split at h
    · next hc => rw [hc]; decide
    · cases h

theorem notBlank_of_fromStr {serde : Serde} {s : String} {v : Value}
    (h : fromStr serde s = some v) : Text.isBlank s = false := by
  obtain ⟨r, hr, -⟩ := Option.bind_eq_some_iff.mp h
  obtain ⟨c, hc, hspace⟩ := notBlank_of_parseValue hr
  exact Text.isBlank_eq_false hc hspace

end LlmUniversalProxy.Json
