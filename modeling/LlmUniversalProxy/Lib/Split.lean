import LlmUniversalProxy.Lib.Text

/-!
# `Lib.Split` — texts cut at a character

Pieces that do not contain the separator are got back from the text they are joined to. Separators
at the ends of a text only make empty pieces, so a question about the pieces that is answered no
for the empty one may be asked of the trimmed text as well.
-/

set_option autoImplicit false

namespace LlmUniversalProxy.Lib.Text

/-- `str::trim_matches` with a character. -/
def trimMatches (s : String) (sep : Char) : String :=
  String.ofList (((s.toList.dropWhile (· = sep)).reverse.dropWhile (· = sep)).reverse)

section Cut

variable {sep : Char}

theorem splitCharsFrom_notMem {cs : List Char} (h : sep ∉ cs) (piece : List Char) :
    splitCharsFrom sep piece cs = [piece ++ cs] := by
  induction cs generalizing piece with
  | nil => simp [splitCharsFrom]
  | cons c cs ih =>
    simp only [List.mem_cons, not_or] at h
    simp [splitCharsFrom, Ne.symm h.1, ih h.2]

theorem splitCharsFrom_append {before : List Char} (h : sep ∉ before)
    (piece behind : List Char) :
    splitCharsFrom sep piece (before ++ sep :: behind) =
      (piece ++ before) :: splitCharsFrom sep [] behind := by
  induction before generalizing piece with
  | nil => simp [splitCharsFrom]
  | cons c cs ih =>
    simp only [List.mem_cons, not_or] at h
    simp [splitCharsFrom, Ne.symm h.1, ih h.2]

theorem intercalate_cons_cons (piece next : List Char) (pieces : List (List Char)) :
    [sep].intercalate (piece :: next :: pieces) =
      piece ++ sep :: [sep].intercalate (next :: pieces) := by
  simp [List.intercalate]

/-- **Joined pieces are cut where they were joined.** -/
theorem splitChars_intercalate {pieces : List (List Char)} (hne : pieces ≠ [])
    (h : ∀ piece ∈ pieces, sep ∉ piece) :
    splitCharsFrom sep [] ([sep].intercalate pieces) = pieces := by
  induction pieces with
  | nil => exact absurd rfl hne
  | cons piece pieces ih =>
    have hpiece : sep ∉ piece := h piece List.mem_cons_self
    cases pieces with
    | nil => simp [List.intercalate, splitCharsFrom_notMem hpiece]
    | cons next pieces =>
      rw [intercalate_cons_cons, splitCharsFrom_append hpiece, List.nil_append,
        ih (by simp) fun other hother => h other (List.mem_cons_of_mem _ hother)]

/-- All there is in joined pieces. -/
theorem mem_intercalate {c : Char} {pieces : List (List Char)}
    (h : c ∈ [sep].intercalate pieces) : c = sep ∨ ∃ piece ∈ pieces, c ∈ piece := by
  induction pieces with
  | nil => simp [List.intercalate] at h
  | cons piece pieces ih =>
    cases pieces with
    | nil =>
      simp [List.intercalate] at h
      exact .inr ⟨piece, by simp, h⟩
    | cons next pieces =>
      rw [intercalate_cons_cons, List.mem_append, List.mem_cons] at h
      rcases h with hpiece | hsep | hrest
      · exact .inr ⟨piece, by simp, hpiece⟩
      · exact .inl hsep
      · rcases ih hrest with hsep | ⟨other, hother, hc⟩
        · exact .inl hsep
        · exact .inr ⟨other, List.mem_cons_of_mem _ hother, hc⟩

theorem splitCharsFrom_snoc (piece cs : List Char) :
    splitCharsFrom sep piece (cs ++ [sep]) = splitCharsFrom sep piece cs ++ [[]] := by
  induction cs generalizing piece with
  | nil => simp [splitCharsFrom]
  | cons c cs ih =>
    simp only [List.cons_append, splitCharsFrom]
    split
    · simp [ih]
    · exact ih _

variable {p : List Char → Bool} (hp : p [] = false)

include hp

theorem any_split_dropWhile (cs : List Char) :
    (splitCharsFrom sep [] (cs.dropWhile (· = sep))).any p = (splitCharsFrom sep [] cs).any p := by
  induction cs with
  | nil => rfl
  | cons c cs ih =>
    rw [List.dropWhile_cons]
    split
    · next hc =>
      have hcut : splitCharsFrom sep [] (c :: cs) = [] :: splitCharsFrom sep [] cs := by
        simp [splitCharsFrom, of_decide_eq_true hc]
      simp [hcut, hp, ih]
    · rfl

theorem any_split_dropLast (cs : List Char) :
    (splitCharsFrom sep [] ((cs.reverse.dropWhile (· = sep)).reverse)).any p =
      (splitCharsFrom sep [] cs).any p := by
  -- the induction takes the last character off
  generalize hrev : cs.reverse = rev
  obtain rfl : cs = rev.reverse := by rw [← hrev, List.reverse_reverse]
  clear hrev
  induction rev with
  | nil => rfl
  | cons c rev ih =>
    rw [List.dropWhile_cons]
    split
    · next hc =>
      rw [List.reverse_cons, of_decide_eq_true hc, splitCharsFrom_snoc, ih]
      simp [hp]
    · rfl

end Cut

/-- **Separators at the ends do not matter.** -/
theorem any_splitChar_trimMatches {p : String → Bool} (hp : p "" = false) (s : String)
    (sep : Char) :
    (splitChar (trimMatches s sep) sep).any p = (splitChar s sep).any p := by
  have hempty : (p ∘ String.ofList) [] = false := hp
  simp only [splitChar, trimMatches, String.toList_ofList, List.any_map]
  rw [any_split_dropLast hempty, any_split_dropWhile hempty]

end LlmUniversalProxy.Lib.Text
