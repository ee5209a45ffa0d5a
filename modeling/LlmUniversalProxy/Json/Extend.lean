import LlmUniversalProxy.Json.Text

/-!
# `Json.Extend` — a text that goes on behind a value

The parser reads a value without looking further than its end, so it reads the same one when the
text goes on. A number is the exception: its digits may go on too. What follows an object can
therefore only be whitespace, and a text that is one is no longer one with anything else behind it
(`fromStr_append`).
-/

set_option autoImplicit false

namespace LlmUniversalProxy.Json

open Lib

theorem skipSpace_append {cs rest : List Char} {c : Char} (h : skipSpace cs = c :: rest)
    (more : List Char) : skipSpace (cs ++ more) = c :: (rest ++ more) := by
  induction cs with
  | nil => cases h
  | cons d cs ih =>
    unfold skipSpace at h
    rw [List.cons_append]
    unfold skipSpace
    by_cases hspace : isJsonSpace d = true
    · rw [if_pos hspace] at h ⊢
      exact ih h
    · rw [if_neg hspace] at h ⊢
      obtain ⟨rfl, rfl⟩ := List.cons.inj h
      rfl

theorem stripChars_append {literal cs rest : List Char} (h : stripChars literal cs = some rest)
    (more : List Char) : stripChars literal (cs ++ more) = some (rest ++ more) := by
  induction literal generalizing cs with
  | nil =>
    obtain rfl := Option.some.inj h
    rfl
  | cons l literal ih =>
    cases cs with
    | nil => cases h
    | cons c cs =>
      rw [List.cons_append]
      unfold stripChars at h ⊢
      by_cases heq : l = c
      · rw [if_pos heq] at h ⊢
        exact ih h
      · rw [if_neg heq] at h
        cases h

/-! ## Strings -/

theorem parseUnit_append {cs rest : List Char} {n : Nat} (h : parseUnit cs = some (n, rest))
    (more : List Char) : parseUnit (cs ++ more) = some (n, rest ++ more) := by
  unfold parseUnit at h
  split at h
  · next a b c d cs =>
    obtain ⟨m, hm, heq⟩ := Option.map_eq_some_iff.mp h
    obtain ⟨rfl, rfl⟩ := Prod.mk.inj heq
    simp [parseUnit, hm]
  · cases h

theorem parseUnicodeEscape_append {cs rest : List Char} {c : Char}
    (h : parseUnicodeEscape cs = some (c, rest)) (more : List Char) :
    parseUnicodeEscape (cs ++ more) = some (c, rest ++ more) := by
  obtain ⟨⟨n, cs₁⟩, hn, h⟩ := Option.bind_eq_some_iff.mp h
  refine Option.bind_eq_some_iff.mpr ⟨_, parseUnit_append hn more, ?_⟩
  simp only at h ⊢
  by_cases hhigh : 0xD800 ≤ n ∧ n < 0xDC00
  · rw [if_pos hhigh] at h ⊢
    obtain ⟨cs₂, hcs, h⟩ := Option.bind_eq_some_iff.mp h
    obtain ⟨⟨m, cs₃⟩, hm, h⟩ := Option.bind_eq_some_iff.mp h
    refine Option.bind_eq_some_iff.mpr ⟨_, stripChars_append hcs more,
      Option.bind_eq_some_iff.mpr ⟨_, parseUnit_append hm more, ?_⟩⟩
    simp only at h ⊢
    by_cases hlow : 0xDC00 ≤ m ∧ m < 0xE000
    · rw [if_pos hlow] at h ⊢
      obtain ⟨rfl, rfl⟩ := Prod.mk.inj (Option.some.inj h)
      rfl
    · rw [if_neg hlow] at h
      cases h
  · rw [if_neg hhigh] at h ⊢
    by_cases hlow : 0xDC00 ≤ n ∧ n < 0xE000
    · rw [if_pos hlow] at h
      cases h
    · rw [if_neg hlow] at h ⊢
      obtain ⟨rfl, rfl⟩ := Prod.mk.inj (Option.some.inj h)
      rfl

theorem parseEscape_append {cs rest : List Char} {c : Char} (h : parseEscape cs = some (c, rest))
    (more : List Char) : parseEscape (cs ++ more) = some (c, rest ++ more) := by
  cases cs with
  | nil => cases h
  | cons d cs =>
    rw [List.cons_append]
    simp only [parseEscape] at h ⊢
    by_cases hu : d = 'u'
    · rw [if_pos hu] at h ⊢
      exact parseUnicodeEscape_append h more
    · rw [if_neg hu] at h ⊢
      obtain ⟨e, he, heq⟩ := Option.map_eq_some_iff.mp h
      obtain ⟨rfl, rfl⟩ := Prod.mk.inj heq
      rw [he]
      rfl

theorem parseStringBody_append {fuel fuel' : Nat} (hfuel : fuel ≤ fuel') {cs body rest : List Char}
    (h : parseStringBody fuel cs = some (body, rest)) (more : List Char) :
    parseStringBody fuel' (cs ++ more) = some (body, rest ++ more) := by
  induction fuel generalizing fuel' cs body with
  | zero => cases h
  | succ fuel ih =>
    obtain ⟨fuel', rfl⟩ := Nat.exists_eq_add_of_le' (Nat.lt_of_lt_of_le (Nat.succ_pos _) hfuel)
    have hle : fuel ≤ fuel' := Nat.le_of_succ_le_succ hfuel
    cases cs with
    | nil => cases h
    | cons c cs =>
      rw [List.cons_append]
      unfold parseStringBody at h ⊢
      by_cases hquote : c = '"'
      · rw [if_pos hquote] at h ⊢
        obtain ⟨rfl, rfl⟩ := Prod.mk.inj (Option.some.inj h)
        rfl
      rw [if_neg hquote] at h ⊢
      by_cases hescape : c = '\\'
      · rw [if_pos hescape] at h ⊢
        obtain ⟨⟨e, cs₁⟩, he, h⟩ := Option.bind_eq_some_iff.mp h
        obtain ⟨⟨body₁, rest₁⟩, hbody, h⟩ := Option.bind_eq_some_iff.mp h
        obtain ⟨rfl, rfl⟩ := Prod.mk.inj (Option.some.inj h)
        exact Option.bind_eq_some_iff.mpr ⟨_, parseEscape_append he more,
          Option.bind_eq_some_iff.mpr ⟨_, ih hle hbody, rfl⟩⟩
      rw [if_neg hescape] at h ⊢
      by_cases hcontrol : c.toNat < 32
      · rw [if_pos hcontrol] at h
        cases h
      rw [if_neg hcontrol] at h ⊢
      obtain ⟨⟨body₁, rest₁⟩, hbody, h⟩ := Option.bind_eq_some_iff.mp h
      obtain ⟨rfl, rfl⟩ := Prod.mk.inj (Option.some.inj h)
      exact Option.bind_eq_some_iff.mpr ⟨_, ih hle hbody, rfl⟩

theorem parseString_append {cs rest : List Char} {s : String} (h : parseString cs = some (s, rest))
    (more : List Char) : parseString (cs ++ more) = some (s, rest ++ more) := by
  obtain ⟨⟨body, rest₁⟩, hbody, heq⟩ := Option.map_eq_some_iff.mp h
  obtain ⟨rfl, rfl⟩ := Prod.mk.inj heq
  have hlength : cs.length + 1 ≤ (cs ++ more).length + 1 := by
    rw [List.length_append]
    omega
  exact Option.map_eq_some_iff.mpr ⟨_, parseStringBody_append hlength hbody more, rfl⟩

/-! ## Numbers

As long as something other than its end follows a number, it has been read to its last digit. -/

theorem parseDigits_append {cs digits rest : List Char} (h : parseDigits cs = some (digits, rest))
    (hrest : rest ≠ []) (more : List Char) :
    parseDigits (cs ++ more) = some (digits, rest ++ more) := by
  unfold parseDigits at h ⊢
  by_cases hempty : (cs.takeWhile isDigit).isEmpty = true
  · rw [if_pos hempty] at h
    cases h
  · rw [if_neg hempty] at h
    obtain ⟨rfl, rfl⟩ := Prod.mk.inj (Option.some.inj h)
    have hlength : (cs.takeWhile isDigit).length ≠ cs.length := by
      intro hall
      have hsplit := congrArg List.length (List.takeWhile_append_dropWhile (p := isDigit) (l := cs))
      rw [List.length_append, hall] at hsplit
      exact hrest (List.length_eq_zero_iff.mp (by omega))
    rw [List.takeWhile_append, if_neg hlength, if_neg hempty, List.dropWhile_append,
      if_neg (by simpa using hrest)]

theorem parseFraction_append {cs fraction rest : List Char}
    (h : parseFraction cs = some (fraction, rest)) (hrest : rest ≠ []) (more : List Char) :
    cs ≠ [] ∧ parseFraction (cs ++ more) = some (fraction, rest ++ more) := by
  cases cs with
  | nil =>
    obtain ⟨rfl, rfl⟩ := Prod.mk.inj (Option.some.inj h)
    exact absurd rfl hrest
  | cons c cs =>
    refine ⟨List.cons_ne_nil _ _, ?_⟩
    rw [List.cons_append]
    simp only [parseFraction] at h ⊢
    by_cases hpoint : c = '.'
    · rw [if_pos hpoint] at h ⊢
      obtain ⟨⟨digits, rest₁⟩, hdigits, heq⟩ := Option.map_eq_some_iff.mp h
      obtain ⟨rfl, rfl⟩ := Prod.mk.inj heq
      rw [parseDigits_append hdigits hrest more]
      rfl
    · rw [if_neg hpoint] at h ⊢
      obtain ⟨rfl, rfl⟩ := Prod.mk.inj (Option.some.inj h)
      rfl

theorem parseSign_append {cs : List Char} (h : cs ≠ []) (more : List Char) :
    parseSign (cs ++ more) = ((parseSign cs).1, (parseSign cs).2 ++ more) := by
  cases cs with
  | nil => exact absurd rfl h
  | cons c cs =>
    rw [List.cons_append]
    simp only [parseSign]
    split <;> rfl

theorem parseExponent_append {cs exponent rest : List Char}
    (h : parseExponent cs = some (exponent, rest)) (hrest : rest ≠ []) (more : List Char) :
    cs ≠ [] ∧ parseExponent (cs ++ more) = some (exponent, rest ++ more) := by
  cases cs with
  | nil =>
    obtain ⟨rfl, rfl⟩ := Prod.mk.inj (Option.some.inj h)
    exact absurd rfl hrest
  | cons c cs =>
    refine ⟨List.cons_ne_nil _ _, ?_⟩
    rw [List.cons_append]
    simp only [parseExponent] at h ⊢
    by_cases he : c = 'e' ∨ c = 'E'
    · rw [if_pos he] at h ⊢
      obtain ⟨⟨digits, rest₁⟩, hdigits, heq⟩ := Option.map_eq_some_iff.mp h
      obtain ⟨rfl, rfl⟩ := Prod.mk.inj heq
      have hcs : cs ≠ [] := by
        rintro rfl
        cases hdigits
      rw [parseSign_append hcs, parseDigits_append hdigits hrest more]
      rfl
    · rw [if_neg he] at h ⊢
      obtain ⟨rfl, rfl⟩ := Prod.mk.inj (Option.some.inj h)
      rfl

/-- The last step of a number: what follows it is left as it is. -/
theorem finishNumber {p q : Prop} [Decidable p] [Decidable q] {a b n : Number} {text : Option String}
    {rest rest' : List Char}
    (h : (if p then some (a, rest) else if q then some (b, rest)
      else text.map fun t => (Number.float t, rest)) = some (n, rest')) (other : List Char) :
    rest = rest' ∧ (if p then some (a, other) else if q then some (b, other)
      else text.map fun t => (Number.float t, other)) = some (n, other) := by
  by_cases hp : p
  · rw [if_pos hp] at h ⊢
    obtain ⟨rfl, rfl⟩ := Prod.mk.inj (Option.some.inj h)
    exact ⟨rfl, rfl⟩
  rw [if_neg hp] at h ⊢
  by_cases hq : q
  · rw [if_pos hq] at h ⊢
    obtain ⟨rfl, rfl⟩ := Prod.mk.inj (Option.some.inj h)
    exact ⟨rfl, rfl⟩
  rw [if_neg hq] at h ⊢
  obtain ⟨t, ht, heq⟩ := Option.map_eq_some_iff.mp h
  obtain ⟨rfl, rfl⟩ := Prod.mk.inj heq
  rw [ht]
  exact ⟨rfl, rfl⟩

theorem parseNumber_append {floatText : String → Option String} {negative : Bool}
    {cs rest : List Char} {n : Number} (h : parseNumber floatText negative cs = some (n, rest))
    (hrest : rest ≠ []) (more : List Char) :
    parseNumber floatText negative (cs ++ more) = some (n, rest ++ more) := by
  unfold parseNumber at h ⊢
  obtain ⟨⟨digits, rest₁⟩, hdigits, h⟩ := Option.bind_eq_some_iff.mp h
  simp only at h
  by_cases hzero : digits.head? = some '0' ∧ digits.length ≠ 1
  · rw [if_pos hzero] at h
    cases h
  rw [if_neg hzero] at h
  obtain ⟨⟨fraction, rest₂⟩, hfraction, h⟩ := Option.bind_eq_some_iff.mp h
  obtain ⟨⟨exponent, rest₃⟩, hexponent, h⟩ := Option.bind_eq_some_iff.mp h
  obtain ⟨rfl, hfinal⟩ := finishNumber h (rest₃ ++ more)
  obtain ⟨hrest₂, hexponent⟩ := parseExponent_append hexponent hrest more
  obtain ⟨hrest₁, hfraction⟩ := parseFraction_append hfraction hrest₂ more
  refine Option.bind_eq_some_iff.mpr ⟨_, parseDigits_append hdigits hrest₁ more, ?_⟩
  simp only
  rw [if_neg hzero]
  exact Option.bind_eq_some_iff.mpr ⟨_, hfraction, Option.bind_eq_some_iff.mpr ⟨_, hexponent, hfinal⟩⟩

/-! ## Values -/

/-- The text behind a value can go on: something follows it already, or it is no number. -/
def Settled (v : Value) (rest : List Char) : Prop := rest ≠ [] ∨ ∀ n, v ≠ .number n

/-- What a text starts with, once something has been read from it. -/
theorem skipSpace_of_parseValue {floatText : String → Option String} {fuel depth : Nat}
    {cs rest : List Char} {v : Value} (h : parseValue floatText fuel depth cs = some (v, rest)) :
    ∃ c tail, skipSpace cs = c :: tail := by
  cases fuel with
  | zero => simp [parseValue] at h
  | succ fuel =>
    rw [parseValue] at h
    cases hskip : skipSpace cs with
    | nil =>
      rw [hskip] at h
      cases h
    | cons c tail => exact ⟨c, tail, rfl⟩

theorem readLiteral {literal cs rest : List Char} {v w : Value}
    (h : (stripChars literal cs).map (fun r => (w, r)) = some (v, rest)) (more : List Char) :
    (stripChars literal (cs ++ more)).map (fun r => (w, r)) = some (v, rest ++ more) := by
  obtain ⟨r, hr, heq⟩ := Option.map_eq_some_iff.mp h
  obtain ⟨rfl, rfl⟩ := Prod.mk.inj heq
  rw [stripChars_append hr more]
  rfl

/-- A bracket that closes at once, and one that does not. -/
theorem stripChars_skipSpace_append {bracket : Char} {cs rest : List Char}
    (h : stripChars [bracket] (skipSpace cs) = some rest) (more : List Char) :
    stripChars [bracket] (skipSpace (cs ++ more)) = some (rest ++ more) := by
  cases hskip : skipSpace cs with
  | nil =>
    rw [hskip] at h
    cases h
  | cons c tail =>
    rw [hskip] at h
    rw [skipSpace_append hskip]
    exact stripChars_append h more

theorem stripChars_skipSpace_none {bracket c : Char} {cs tail : List Char}
    (hskip : skipSpace cs = c :: tail) (h : stripChars [bracket] (skipSpace cs) = none)
    (more : List Char) : stripChars [bracket] (skipSpace (cs ++ more)) = none := by
  rw [hskip] at h
  rw [skipSpace_append hskip]
  simp only [stripChars] at h ⊢
  split at h
  · cases h
  · next hne => rw [if_neg hne]

theorem skipSpace_of_parseItems {floatText : String → Option String} {fuel depth : Nat}
    {cs rest : List Char} {vs : List Value}
    (h : parseItems floatText fuel depth cs = some (vs, rest)) :
    ∃ c tail, skipSpace cs = c :: tail := by
  cases fuel with
  | zero => simp [parseItems] at h
  | succ fuel =>
    rw [parseItems] at h
    obtain ⟨⟨v, rest₁⟩, hv, _⟩ := Option.bind_eq_some_iff.mp h
    exact skipSpace_of_parseValue hv

theorem skipSpace_of_parseFields {floatText : String → Option String} {fuel depth : Nat}
    {acc fields : List (String × Value)} {cs rest : List Char}
    (h : parseFields floatText fuel depth acc cs = some (fields, rest)) :
    ∃ c tail, skipSpace cs = c :: tail := by
  cases fuel with
  | zero => simp [parseFields] at h
  | succ fuel =>
    rw [parseFields] at h
    obtain ⟨rest₁, hquote, _⟩ := Option.bind_eq_some_iff.mp h
    cases hskip : skipSpace cs with
    | nil =>
      rw [hskip] at hquote
      cases hquote
    | cons c tail => exact ⟨c, tail, rfl⟩

/-- With this much fuel, what is read is read again when there is more fuel and more text. -/
structure ReadsOn (floatText : String → Option String) (fuel : Nat) : Prop where
  value : ∀ {fuel' depth : Nat} {cs rest : List Char} {v : Value}, fuel ≤ fuel' →
    parseValue floatText fuel depth cs = some (v, rest) → Settled v rest →
      ∀ more, parseValue floatText fuel' depth (cs ++ more) = some (v, rest ++ more)
  items : ∀ {fuel' depth : Nat} {cs rest : List Char} {vs : List Value}, fuel ≤ fuel' →
    parseItems floatText fuel depth cs = some (vs, rest) →
      ∀ more, parseItems floatText fuel' depth (cs ++ more) = some (vs, rest ++ more)
  fields : ∀ {fuel' depth : Nat} {acc fields : List (String × Value)} {cs rest : List Char},
    fuel ≤ fuel' → parseFields floatText fuel depth acc cs = some (fields, rest) →
      ∀ more, parseFields floatText fuel' depth acc (cs ++ more) = some (fields, rest ++ more)

namespace ReadsOn

variable {floatText : String → Option String} {fuel fuel' depth : Nat} {cs rest : List Char}

theorem value_succ (ih : ReadsOn floatText fuel) (hfuel : fuel ≤ fuel') {v : Value}
    (h : parseValue floatText (fuel + 1) depth cs = some (v, rest)) (hsettled : Settled v rest)
    (more : List Char) :
    parseValue floatText (fuel' + 1) depth (cs ++ more) = some (v, rest ++ more) := by
  obtain ⟨c, tail, hskip⟩ := skipSpace_of_parseValue h
  rw [parseValue] at h ⊢
  rw [hskip] at h
  rw [skipSpace_append hskip]
  simp only at h ⊢
  -- one case for each test of `parse_value`, in its order
  by_cases hnull : c = 'n'
  · rw [if_pos hnull] at h ⊢
    exact readLiteral h more
  rw [if_neg hnull] at h ⊢
  by_cases htrue : c = 't'
  · rw [if_pos htrue] at h ⊢
    exact readLiteral h more
  rw [if_neg htrue] at h ⊢
  by_cases hfalse : c = 'f'
  · rw [if_pos hfalse] at h ⊢
    exact readLiteral h more
  rw [if_neg hfalse] at h ⊢
  by_cases hstring : c = '"'
  · rw [if_pos hstring] at h ⊢
    obtain ⟨⟨s, r⟩, hr, heq⟩ := Option.map_eq_some_iff.mp h
    obtain ⟨rfl, rfl⟩ := Prod.mk.inj heq
    rw [parseString_append hr more]
    rfl
  rw [if_neg hstring] at h ⊢
  by_cases hminus : c = '-'
  · rw [if_pos hminus] at h ⊢
    obtain ⟨⟨n, r⟩, hr, heq⟩ := Option.map_eq_some_iff.mp h
    obtain ⟨rfl, rfl⟩ := Prod.mk.inj heq
    -- a number is settled only by a character behind it: more digits may follow
    have hrest : r ≠ [] := hsettled.resolve_right fun hno => hno n rfl
    rw [parseNumber_append hr hrest more]
    rfl
  rw [if_neg hminus] at h ⊢
  by_cases hdigit : isDigit c = true
  · rw [if_pos hdigit] at h ⊢
    obtain ⟨⟨n, r⟩, hr, heq⟩ := Option.map_eq_some_iff.mp h
    obtain ⟨rfl, rfl⟩ := Prod.mk.inj heq
    have hrest : r ≠ [] := hsettled.resolve_right fun hno => hno n rfl
    have hmore := parseNumber_append hr hrest more
    rw [List.cons_append] at hmore
    rw [hmore]
    rfl
  rw [if_neg hdigit] at h ⊢
  by_cases hdepth : depth ≤ 1
  · rw [if_pos hdepth] at h
    cases h
  rw [if_neg hdepth] at h ⊢
  by_cases harray : c = '['
  · rw [if_pos harray] at h ⊢
    cases hclose : stripChars [']'] (skipSpace tail) with
    | some after =>
      simp only [hclose] at h
      obtain ⟨rfl, rfl⟩ := Prod.mk.inj (Option.some.inj h)
      simp only [stripChars_skipSpace_append hclose]
    | none =>
      simp only [hclose] at h
      obtain ⟨⟨vs, r⟩, hr, heq⟩ := Option.map_eq_some_iff.mp h
      obtain ⟨rfl, rfl⟩ := Prod.mk.inj heq
      obtain ⟨d, inside, hinside⟩ := skipSpace_of_parseItems hr
      simp only [stripChars_skipSpace_none hinside hclose, ih.items hfuel hr more, Option.map_some]
  rw [if_neg harray] at h ⊢
  by_cases hobject : c = '{'
  · rw [if_pos hobject] at h ⊢
    cases hclose : stripChars ['}'] (skipSpace tail) with
    | some after =>
      simp only [hclose] at h
      obtain ⟨rfl, rfl⟩ := Prod.mk.inj (Option.some.inj h)
      simp only [stripChars_skipSpace_append hclose]
    | none =>
      simp only [hclose] at h
      obtain ⟨⟨fields, r⟩, hr, heq⟩ := Option.map_eq_some_iff.mp h
      obtain ⟨rfl, rfl⟩ := Prod.mk.inj heq
      obtain ⟨d, inside, hinside⟩ := skipSpace_of_parseFields hr
      simp only [stripChars_skipSpace_none hinside hclose, ih.fields hfuel hr more,
        Option.map_some]
  · rw [if_neg hobject] at h
    cases h

/-- Behind an item comes a comma or the end, so a number among the items has been read to its
last digit. -/
theorem settled_of_next {v : Value} {rest tail : List Char} {c : Char}
    (h : skipSpace rest = c :: tail) : Settled v rest := by
  refine .inl ?_
  rintro rfl
  cases h

theorem items_succ (ih : ReadsOn floatText fuel) (hfuel : fuel ≤ fuel') {vs : List Value}
    (h : parseItems floatText (fuel + 1) depth cs = some (vs, rest)) (more : List Char) :
    parseItems floatText (fuel' + 1) depth (cs ++ more) = some (vs, rest ++ more) := by
  rw [parseItems] at h ⊢
  obtain ⟨⟨v, rest₁⟩, hv, h⟩ := Option.bind_eq_some_iff.mp h
  simp only at h
  cases hnext : skipSpace rest₁ with
  | nil =>
    rw [hnext] at h
    cases h
  | cons c tail =>
    refine Option.bind_eq_some_iff.mpr ⟨_, ih.value hfuel hv (settled_of_next hnext) more, ?_⟩
    simp only [skipSpace_append hnext]
    simp only [hnext] at h
    by_cases hend : c = ']'
    · rw [if_pos hend] at h ⊢
      obtain ⟨rfl, rfl⟩ := Prod.mk.inj (Option.some.inj h)
      rfl
    rw [if_neg hend] at h ⊢
    by_cases hcomma : c = ','
    · rw [if_pos hcomma] at h ⊢
      obtain ⟨⟨others, rest₂⟩, hothers, h⟩ := Option.bind_eq_some_iff.mp h
      obtain ⟨rfl, rfl⟩ := Prod.mk.inj (Option.some.inj h)
      exact Option.bind_eq_some_iff.mpr ⟨_, ih.items hfuel hothers more, rfl⟩
    · rw [if_neg hcomma] at h
      cases h

theorem fields_succ (ih : ReadsOn floatText fuel) (hfuel : fuel ≤ fuel')
    {acc fields : List (String × Value)}
    (h : parseFields floatText (fuel + 1) depth acc cs = some (fields, rest)) (more : List Char) :
    parseFields floatText (fuel' + 1) depth acc (cs ++ more) = some (fields, rest ++ more) := by
  rw [parseFields] at h ⊢
  obtain ⟨rest₁, hquote, h⟩ := Option.bind_eq_some_iff.mp h
  obtain ⟨⟨k, rest₂⟩, hk, h⟩ := Option.bind_eq_some_iff.mp h
  obtain ⟨rest₃, hcolon, h⟩ := Option.bind_eq_some_iff.mp h
  obtain ⟨⟨v, rest₄⟩, hv, h⟩ := Option.bind_eq_some_iff.mp h
  simp only at h
  cases hnext : skipSpace rest₄ with
  | nil =>
    rw [hnext] at h
    cases h
  | cons c tail =>
    refine Option.bind_eq_some_iff.mpr ⟨_, stripChars_skipSpace_append hquote more,
      Option.bind_eq_some_iff.mpr ⟨_, parseString_append hk more,
        Option.bind_eq_some_iff.mpr ⟨_, stripChars_skipSpace_append hcolon more,
          Option.bind_eq_some_iff.mpr
            ⟨_, ih.value hfuel hv (settled_of_next hnext) more, ?_⟩⟩⟩⟩
    simp only [skipSpace_append hnext]
    simp only [hnext] at h
    by_cases hend : c = '}'
    · rw [if_pos hend] at h ⊢
      obtain ⟨rfl, rfl⟩ := Prod.mk.inj (Option.some.inj h)
      rfl
    rw [if_neg hend] at h ⊢
    by_cases hcomma : c = ','
    · rw [if_pos hcomma] at h ⊢
      exact ih.fields hfuel h more
    · rw [if_neg hcomma] at h
      cases h

end ReadsOn

theorem readsOn (floatText : String → Option String) (fuel : Nat) : ReadsOn floatText fuel := by
  induction fuel with
  | zero =>
    refine ⟨?_, ?_, ?_⟩
    · intro _ _ _ _ _ _ h
      simp [parseValue] at h
    · intro _ _ _ _ _ _ h
      simp [parseItems] at h
    · intro _ _ _ _ _ _ _ h
      simp [parseFields] at h
  | succ fuel ih =>
    have hsucc : ∀ {fuel'}, fuel + 1 ≤ fuel' → ∃ less, fuel' = less + 1 ∧ fuel ≤ less := by
      intro fuel' hfuel
      exact ⟨fuel' - 1, by omega, by omega⟩
    refine ⟨?_, ?_, ?_⟩
    · intro fuel' depth cs rest v hfuel h hsettled more
      obtain ⟨less, rfl, hle⟩ := hsucc hfuel
      exact ih.value_succ hle h hsettled more
    · intro fuel' depth cs rest vs hfuel h more
      obtain ⟨less, rfl, hle⟩ := hsucc hfuel
      exact ih.items_succ hle h more
    · intro fuel' depth acc fields cs rest hfuel h more
      obtain ⟨less, rfl, hle⟩ := hsucc hfuel
      exact ih.fields_succ hle h more

/-- **A text that is a value is one no longer**, or is the same, when something is behind it. -/
theorem fromStr_append {serde : Serde} {s more : String} {v w : Value}
    (h : fromStr serde s = some v) (hv : ∀ n, v ≠ .number n)
    (hw : fromStr serde (s ++ more) = some w) : w = v := by
  obtain ⟨⟨v, rest⟩, hread, h⟩ := Option.bind_eq_some_iff.mp h
  obtain ⟨⟨w, rest'⟩, hread', hw⟩ := Option.bind_eq_some_iff.mp hw
  have hfuel : 2 * s.toList.length + 2 ≤ 2 * (s.toList ++ more.toList).length + 2 := by
    rw [List.length_append]
    omega
  simp only at h hw
  split at h
  · obtain rfl := Option.some.inj h
    split at hw
    · obtain rfl := Option.some.inj hw
      have hon := (readsOn serde.floatText _).value hfuel hread (.inr hv) more.toList
      rw [String.toList_append] at hread'
      rw [hon] at hread'
      exact (Prod.mk.inj (Option.some.inj hread')).1.symm
    · cases hw
  · cases h

end LlmUniversalProxy.Json
