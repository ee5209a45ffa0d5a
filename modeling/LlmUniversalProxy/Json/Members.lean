import LlmUniversalProxy.Json.Extend
import LlmUniversalProxy.Json.ReadBack

/-!
# `Json.Members` — an object that is read member by member

JSON that is put together from pieces of text is read piece by piece: a string literal, an array of
them, a member of an object. A piece that has not been escaped is a literal's body if it is read up
to the quote behind it and no further (`isLiteralBody`).
-/

set_option autoImplicit false

namespace LlmUniversalProxy.Json

open Lib

/-! ## Literals -/

/-- Between two quotes, the text is a string literal. -/
def isLiteralBody (s : String) : Bool := (parseString (s.toList ++ ['"'])).any (·.2.isEmpty)

theorem parseString_of_isLiteralBody {s : String} (h : isLiteralBody s = true) :
    ∃ t, ∀ rest, parseString (s.toList ++ '"' :: rest) = some (t, rest) := by
  cases hread : parseString (s.toList ++ ['"']) with
  | none =>
    rw [isLiteralBody, hread] at h
    cases h
  | some read =>
    rw [isLiteralBody, hread] at h
    obtain ⟨t, behind⟩ := read
    obtain rfl : behind = [] := List.isEmpty_iff.mp h
    refine ⟨t, fun rest => ?_⟩
    have hmore := parseString_append hread rest
    rwa [List.append_assoc, List.singleton_append, List.nil_append] at hmore

section Parse

variable {floatText : String → Option String}

theorem parseValue_string {cs rest : List Char} {s : String} (h : parseString cs = some (s, rest))
    (fuel depth : Nat) :
    parseValue floatText (fuel + 1) depth ('"' :: cs) = some (.string s, rest) := by
  unfold parseValue
  show (parseString cs).map _ = _
  rw [h]
  rfl

theorem parseValue_stringChars (s : String) (rest : List Char) (fuel depth : Nat) :
    parseValue floatText (fuel + 1) depth (stringChars s ++ rest) = some (.string s, rest) := by
  have hread := @parseValue_string floatText _ _ _ (parseString_escapeChars s rest) fuel depth
  rwa [stringChars, List.cons_append, List.append_assoc, List.singleton_append]

theorem parseValue_space (fuel depth : Nat) (cs : List Char) :
    parseValue floatText fuel depth (' ' :: cs) = parseValue floatText fuel depth cs := by
  cases fuel with
  | zero => rfl
  | succ fuel =>
    unfold parseValue
    rfl

/-! ## Arrays -/

/-- The literals of a list of strings, with commas between them. -/
def literals : List String → List Char
  | [] => []
  | [s] => stringChars s
  | s :: rest => stringChars s ++ ',' :: literals rest

theorem parseItems_literals {files : List String} (hne : files ≠ []) (rest : List Char) :
    ∀ {fuel : Nat} (depth : Nat), files.length < fuel →
      parseItems floatText fuel depth (literals files ++ ']' :: rest) =
        some (files.map .string, rest) := by
  induction files with
  | nil => exact absurd rfl hne
  | cons file files ih =>
    intro fuel depth hfuel
    obtain ⟨fuel, rfl⟩ : ∃ n, fuel = n + 2 := ⟨fuel - 2, by
      rw [List.length_cons] at hfuel
      omega⟩
    cases files with
    | nil =>
      have hfirst := @parseValue_string floatText _ _ _
        (parseString_escapeChars file (']' :: rest)) fuel depth
      rw [literals, stringChars, List.cons_append, List.append_assoc, List.singleton_append,
        parseItems, hfirst]
      rfl
    | cons next files =>
      have hfirst := @parseValue_string floatText _ _ _
        (parseString_escapeChars file (',' :: (literals (next :: files) ++ ']' :: rest))) fuel depth
      have hmore := @ih (by simp) (fuel + 1) depth (by
        rw [List.length_cons] at hfuel
        omega)
      rw [literals, stringChars, List.append_assoc, List.cons_append, List.append_assoc,
        List.cons_append, List.nil_append, List.cons_append, parseItems, hfirst]
      · show (parseItems floatText (fuel + 1) depth (literals (next :: files) ++ ']' :: rest)).bind _ = _
        rw [hmore]
        rfl
      · intro h
        cases h

theorem parseValue_literals {files : List String} (hne : files ≠ []) (rest : List Char)
    {fuel depth : Nat} (hfuel : files.length < fuel) (hdepth : 1 < depth) :
    parseValue floatText (fuel + 1) depth ('[' :: (literals files ++ ']' :: rest)) =
      some (.array (files.map .string), rest) := by
  have hitems := @parseItems_literals floatText _ hne rest _ (depth - 1) hfuel
  have hquote : ∃ cs, literals files ++ ']' :: rest = '"' :: cs := by
    cases files with
    | nil => exact absurd rfl hne
    | cons file files => cases files <;> exact ⟨_, rfl⟩
  obtain ⟨cs, hcs⟩ := hquote
  rw [hcs] at hitems ⊢
  unfold parseValue
  show (if depth ≤ 1 then none else (parseItems floatText fuel (depth - 1) ('"' :: cs)).map _) = _
  rw [if_neg (by omega), hitems]
  rfl

/-! ## Members -/

/-- A member, up to the value. -/
theorem parseFields_key (k : String) (cs : List Char) (fuel depth : Nat)
    (acc : List (String × Value)) :
    parseFields floatText (fuel + 1) depth acc ('\n' :: (stringChars k ++ ':' :: ' ' :: cs)) =
      (parseValue floatText fuel depth cs).bind fun read =>
        match skipSpace read.2 with
        | [] => none
        | c :: rest =>
            if c = '}' then some (insertSorted k read.1 acc, rest)
            else if c = ',' then
              parseFields floatText fuel depth (insertSorted k read.1 acc) rest
            else none := by
  have hkey := parseString_escapeChars k (':' :: ' ' :: cs)
  rw [stringChars, List.cons_append, List.append_assoc, List.singleton_append, parseFields]
  show (parseString _).bind _ = _
  rw [hkey, Option.bind_some]
  exact congrArg (Option.bind · _) (parseValue_space fuel depth cs)

theorem parseFields_member {k : String} {cs rest : List Char} {fuel depth : Nat} {v : Value}
    (h : parseValue floatText fuel depth cs = some (v, ',' :: rest))
    (acc : List (String × Value)) :
    parseFields floatText (fuel + 1) depth acc ('\n' :: (stringChars k ++ ':' :: ' ' :: cs)) =
      parseFields floatText fuel depth (insertSorted k v acc) rest := by
  rw [parseFields_key, h]
  rfl

theorem parseFields_last {k : String} {cs rest : List Char} {fuel depth : Nat} {v : Value}
    (h : parseValue floatText fuel depth cs = some (v, '\n' :: '}' :: rest))
    (acc : List (String × Value)) :
    parseFields floatText (fuel + 1) depth acc ('\n' :: (stringChars k ++ ':' :: ' ' :: cs)) =
      some (insertSorted k v acc, rest) := by
  rw [parseFields_key, h]
  rfl

end Parse

end LlmUniversalProxy.Json
