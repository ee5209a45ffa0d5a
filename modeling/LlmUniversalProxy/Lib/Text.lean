/-!
# `Lib.Text` — string operations of the Rust standard library

They work over the characters of a string. A method that Rust defines on bytes (`get(..7)`,
`starts_with`) has the same answer over characters wherever its pattern is ASCII.
-/

set_option autoImplicit false

namespace LlmUniversalProxy.Lib

/-- `str::as_bytes`. -/
def bytesOf (s : String) : List UInt8 := s.toByteArray.data.toList

namespace Text

/-- `char::is_whitespace`: the Unicode property `White_Space`. -/
def isWhitespace (c : Char) : Bool :=
  (9 ≤ c.toNat && c.toNat ≤ 13) || c.toNat == 0x20 || c.toNat == 0x85 || c.toNat == 0xA0 ||
    c.toNat == 0x1680 || (0x2000 ≤ c.toNat && c.toNat ≤ 0x200A) || c.toNat == 0x2028 ||
    c.toNat == 0x2029 || c.toNat == 0x202F || c.toNat == 0x205F || c.toNat == 0x3000

def trimStartChars (cs : List Char) : List Char := cs.dropWhile isWhitespace

def trimEndChars (cs : List Char) : List Char := (cs.reverse.dropWhile isWhitespace).reverse

/-- `str::trim`. -/
def trim (s : String) : String := String.ofList (trimEndChars (trimStartChars s.toList))

/-- `s.trim().is_empty()`. -/
def isBlank (s : String) : Bool := (trim s).isEmpty

/-- `u8::to_ascii_lowercase`. -/
def asciiLowerChar (c : Char) : Char :=
  if 'A' ≤ c ∧ c ≤ 'Z' then Char.ofNat (c.toNat + 32) else c

/-- `str::to_ascii_lowercase`. -/
def asciiLower (s : String) : String := String.ofList (s.toList.map asciiLowerChar)

/-- `str::eq_ignore_ascii_case`. -/
def eqIgnoreAsciiCase (s t : String) : Bool := asciiLower s == asciiLower t

def asciiUpperChar (c : Char) : Char :=
  if 'a' ≤ c ∧ c ≤ 'z' then Char.ofNat (c.toNat - 32) else c

/-- `str::to_ascii_uppercase`. -/
def asciiUpper (s : String) : String := String.ofList (s.toList.map asciiUpperChar)

/-- `str::starts_with`. -/
def startsWith (s pattern : String) : Bool := pattern.toList.isPrefixOf s.toList

/-- `str::strip_prefix`. -/
def stripPrefix (s pattern : String) : Option String :=
  if startsWith s pattern then some (String.ofList (s.toList.drop pattern.length)) else none

theorem stripPrefix_append (text rest : String) : stripPrefix (text ++ rest) text = some rest := by
  have hstarts : startsWith (text ++ rest) text = true := by
    unfold startsWith
    rw [List.isPrefixOf_iff_prefix, String.toList_append]
    exact List.prefix_append _ _
  unfold stripPrefix
  rw [if_pos hstarts, String.toList_append, ← String.length_toList, List.drop_left,
    String.ofList_toList]

/-- The characters before and behind a byte offset; `none` when it cuts a character, or lies behind
the end. -/
def splitCharsAtByte : List Char → Nat → Option (List Char × List Char)
  | cs, 0 => some ([], cs)
  | [], _ + 1 => none
  | c :: cs, n + 1 =>
      if c.utf8Size ≤ n + 1 then
        (splitCharsAtByte cs (n + 1 - c.utf8Size)).map fun parts => (c :: parts.1, parts.2)
      else none

/-- `str::split_at_checked`. -/
def splitAtByte (s : String) (n : Nat) : Option (String × String) :=
  (splitCharsAtByte s.toList n).map fun parts => (String.ofList parts.1, String.ofList parts.2)

/-- One list of characters occurs in another, without a gap. -/
def occursIn (pattern : List Char) : List Char → Bool
  | [] => pattern.isEmpty
  | c :: cs => pattern.isPrefixOf (c :: cs) || occursIn pattern cs

/-- `str::contains` with a string pattern. -/
def contains (s pattern : String) : Bool := occursIn pattern.toList s.toList

/-- Replaces the occurrences of a pattern that has characters; `skip` characters belong to one that
has been replaced. -/
def replaceChars (pattern new : List Char) : Nat → List Char → List Char
  | _, [] => []
  | skip + 1, _ :: cs => replaceChars pattern new skip cs
  | 0, c :: cs =>
      if pattern.isPrefixOf (c :: cs) then
        new ++ replaceChars pattern new (pattern.length - 1) cs
      else c :: replaceChars pattern new 0 cs

/-- `str::replace`: an empty pattern stands between any two characters. -/
def replace (s pattern new : String) : String :=
  String.ofList (if pattern.isEmpty then new.toList ++ s.toList.flatMap fun c => c :: new.toList
    else replaceChars pattern.toList new.toList 0 s.toList)

/-- The characters before and behind the first occurrence of a character. -/
def splitCharsOnce (sep : Char) : List Char → Option (List Char × List Char)
  | [] => none
  | c :: cs =>
      if c = sep then some ([], cs)
      else (splitCharsOnce sep cs).map fun parts => (c :: parts.1, parts.2)

/-- `str::split_once` with a character. -/
def splitOnce (s : String) (sep : Char) : Option (String × String) :=
  (splitCharsOnce sep s.toList).map fun parts => (String.ofList parts.1, String.ofList parts.2)

/-- The text before the first occurrence of a character, or all of it. -/
def beforeChar (s : String) (sep : Char) : String :=
  String.ofList (s.toList.takeWhile (· ≠ sep))

/-- `str::rsplit(sep).next()`: the text behind the last occurrence of a character, or all of it. -/
def afterLastChar (s : String) (sep : Char) : String :=
  String.ofList (s.toList.reverse.takeWhile (· ≠ sep)).reverse

/-- The pieces of a text between the occurrences of a character; `piece` is the one that has been
begun. -/
def splitCharsFrom (sep : Char) : List Char → List Char → List (List Char)
  | piece, [] => [piece]
  | piece, c :: cs =>
      if c = sep then piece :: splitCharsFrom sep [] cs else splitCharsFrom sep (piece ++ [c]) cs

/-- `str::split` with a character. -/
def splitChar (s : String) (sep : Char) : List String :=
  (splitCharsFrom sep [] s.toList).map String.ofList

theorem toNat_ofNat {n : Nat} (h : n.isValidChar) : (Char.ofNat n).toNat = n := by
  rw [Char.ofNat, dif_pos h]
  rfl

/-! ## Blank texts and separators -/

theorem mem_dropWhile {p : Char → Bool} {c : Char} (hp : p c = false) {cs : List Char}
    (hc : c ∈ cs) : c ∈ cs.dropWhile p := by
  induction cs with
  | nil => cases hc
  | cons d cs ih =>
    rw [List.dropWhile_cons]
    split
    · next hd =>
      rcases List.mem_cons.mp hc with rfl | hc
      · rw [hp] at hd
        cases hd
      · exact ih hc
    · exact hc

theorem isBlank_eq_false {s : String} {c : Char} (hc : c ∈ s.toList)
    (hspace : isWhitespace c = false) : isBlank s = false := by
  have htrim : c ∈ trimEndChars (trimStartChars s.toList) :=
    List.mem_reverse.mpr (mem_dropWhile hspace (List.mem_reverse.mpr (mem_dropWhile hspace hc)))
  rw [isBlank, trim, String.isEmpty_eq_false_iff]
  intro hempty
  rw [String.ofList_eq_empty_iff.mp hempty] at htrim
  cases htrim

theorem splitCharsOnce_append {sep : Char} {before : List Char} (h : sep ∉ before)
    (behind : List Char) :
    splitCharsOnce sep (before ++ sep :: behind) = some (before, behind) := by
  induction before with
  | nil => simp [splitCharsOnce]
  | cons c cs ih =>
    obtain ⟨hc, hcs⟩ := not_or.mp (mt List.mem_cons.mpr h)
    rw [List.cons_append, splitCharsOnce, if_neg (Ne.symm hc), ih hcs]
    rfl

theorem splitCharsOnce_some {sep : Char} {cs before behind : List Char}
    (h : splitCharsOnce sep cs = some (before, behind)) :
    cs = before ++ sep :: behind ∧ sep ∉ before := by
  induction cs generalizing before with
  | nil => cases h
  | cons c cs ih =>
    rw [splitCharsOnce] at h
    split at h
    · next hc =>
      cases h
      exact ⟨by rw [hc, List.nil_append], List.not_mem_nil⟩
    · next hc =>
      obtain ⟨⟨before', behind'⟩, hsplit, hparts⟩ := Option.map_eq_some_iff.mp h
      cases hparts
      obtain ⟨rfl, hbefore⟩ := ih hsplit
      refine ⟨rfl, fun hmem => ?_⟩
      rcases List.mem_cons.mp hmem with hsep | hsep
      · exact hc hsep.symm
      · exact hbefore hsep

theorem splitCharsOnce_eq_none_iff {sep : Char} {cs : List Char} :
    splitCharsOnce sep cs = none ↔ sep ∉ cs := by
  induction cs with
  | nil => simp [splitCharsOnce]
  | cons c cs ih =>
    rw [splitCharsOnce, List.mem_cons, not_or]
    split
    · next hc => simp [hc]
    · next hc => rw [Option.map_eq_none_iff, ih, and_iff_right (Ne.symm hc)]

/-- A text is split behind its first part when that has no separator of its own. -/
theorem splitOnce_append {sep : Char} {before : String} (h : sep ∉ before.toList)
    (behind : String) :
    splitOnce (before ++ String.singleton sep ++ behind) sep = some (before, behind) := by
  have hchars : (before ++ String.singleton sep ++ behind).toList =
      before.toList ++ sep :: behind.toList := by
    simp
  rw [splitOnce, hchars, splitCharsOnce_append h]
  simp

theorem splitOnce_some {s before behind : String} {sep : Char}
    (h : splitOnce s sep = some (before, behind)) :
    s = before ++ String.singleton sep ++ behind ∧ sep ∉ before.toList := by
  obtain ⟨parts, hparts, hs⟩ := Option.map_eq_some_iff.mp h
  obtain ⟨hchars, hbefore⟩ := splitCharsOnce_some hparts
  cases hs
  rw [String.toList_ofList]
  refine ⟨String.toList_inj.mp ?_, hbefore⟩
  simp [hchars]

theorem splitOnce_isSome_iff {s : String} {sep : Char} :
    (splitOnce s sep).isSome = true ↔ sep ∈ s.toList := by
  rw [splitOnce, Option.isSome_map, ← Option.ne_none_iff_isSome, ne_eq,
    splitCharsOnce_eq_none_iff, Decidable.not_not]

/-! ## Bytes and characters -/

theorem utf8ByteSize_ofList_cons (c : Char) (cs : List Char) :
    (String.ofList (c :: cs)).utf8ByteSize = c.utf8Size + (String.ofList cs).utf8ByteSize := by
  rw [← List.singleton_append, String.ofList_append, String.utf8ByteSize_append,
    ← String.utf8ByteSize_singleton, String.singleton_eq_ofList]

theorem splitCharsAtByte_append (before behind : List Char) :
    splitCharsAtByte (before ++ behind) (String.ofList before).utf8ByteSize =
      some (before, behind) := by
  induction before with
  | nil =>
    rw [List.nil_append]
    cases behind <;> rfl
  | cons c cs ih =>
    have hpos := Char.utf8Size_pos c
    rw [utf8ByteSize_ofList_cons]
    obtain ⟨n, hn⟩ : ∃ n, c.utf8Size + (String.ofList cs).utf8ByteSize = n + 1 :=
      ⟨c.utf8Size + (String.ofList cs).utf8ByteSize - 1, by omega⟩
    rw [hn, List.cons_append, splitCharsAtByte, if_pos (by omega), ← hn, Nat.add_sub_cancel_left,
      ih]
    rfl

theorem splitCharsAtByte_some {cs before behind : List Char} {n : Nat}
    (h : splitCharsAtByte cs n = some (before, behind)) :
    cs = before ++ behind ∧ (String.ofList before).utf8ByteSize = n := by
  induction cs generalizing n before with
  | nil =>
    cases n with
    | zero => cases h; exact ⟨rfl, rfl⟩
    | succ n => cases h
  | cons c cs ih =>
    cases n with
    | zero => cases h; exact ⟨rfl, rfl⟩
    | succ n =>
      rw [splitCharsAtByte] at h
      split at h
      · next hc =>
        obtain ⟨⟨before', behind'⟩, hsplit, hparts⟩ := Option.map_eq_some_iff.mp h
        cases hparts
        obtain ⟨rfl, hsize⟩ := ih hsplit
        refine ⟨rfl, ?_⟩
        rw [utf8ByteSize_ofList_cons, hsize]
        omega
      · cases h

/-- A text is cut behind the bytes of its first part. -/
theorem splitAtByte_append (before behind : String) :
    splitAtByte (before ++ behind) before.utf8ByteSize = some (before, behind) := by
  have hsplit := splitCharsAtByte_append before.toList behind.toList
  rw [String.ofList_toList] at hsplit
  rw [splitAtByte, String.toList_append, hsplit]
  simp

theorem splitAtByte_some {s before behind : String} {n : Nat}
    (h : splitAtByte s n = some (before, behind)) :
    s = before ++ behind ∧ before.utf8ByteSize = n := by
  obtain ⟨parts, hparts, hs⟩ := Option.map_eq_some_iff.mp h
  obtain ⟨hchars, hsize⟩ := splitCharsAtByte_some hparts
  cases hs
  refine ⟨?_, hsize⟩
  rw [← String.ofList_append, ← hchars, String.ofList_toList]

theorem bytesOf_append (s t : String) : bytesOf (s ++ t) = bytesOf s ++ bytesOf t := by
  unfold bytesOf
  rw [String.toByteArray_append, ByteArray.data_append, Array.toList_append]

theorem take_bytesOf_append (s t : String) {n : Nat} (h : n ≤ s.utf8ByteSize) :
    (bytesOf (s ++ t)).take n = (bytesOf s).take n := by
  have hlength : (bytesOf s).length = s.utf8ByteSize := rfl
  rw [bytesOf_append, List.take_append_of_le_length (hlength ▸ h)]

/-! ## Occurrences -/

theorem occursIn_iff {pattern cs : List Char} : occursIn pattern cs = true ↔ pattern <:+: cs := by
  induction cs with
  | nil => simp [occursIn, List.isEmpty_iff]
  | cons c cs ih =>
    rw [occursIn, Bool.or_eq_true, List.isPrefixOf_iff_prefix, ih, List.infix_cons_iff]

theorem contains_of_infix {part whole pattern : String} (hpart : part.toList <:+: whole.toList)
    (h : contains part pattern = true) : contains whole pattern = true :=
  occursIn_iff.mpr ((occursIn_iff.mp h).trans hpart)

theorem contains_of_startsWith {s pattern : String} (h : startsWith s pattern = true) :
    contains s pattern = true :=
  occursIn_iff.mpr (List.isPrefixOf_iff_prefix.mp h).isInfix

theorem trim_infix (s : String) : (trim s).toList <:+: s.toList := by
  have hstart : trimStartChars s.toList <:+ s.toList := List.dropWhile_suffix _
  have hend : trimEndChars (trimStartChars s.toList) <+: trimStartChars s.toList := by
    unfold trimEndChars
    rw [← List.reverse_suffix, List.reverse_reverse]
    exact List.dropWhile_suffix _
  rw [trim, String.toList_ofList]
  exact hend.isInfix.trans hstart.isInfix

/-- What is left of a trimmed text does not end in white space. -/
theorem getLast?_trim {s : String} {c : Char} (hc : isWhitespace c = true) :
    (trim s).toList.getLast? ≠ some c := by
  rw [trim, String.toList_ofList, trimEndChars, List.getLast?_reverse]
  intro hhead
  have hnot := List.head?_dropWhile_not isWhitespace (trimStartChars s.toList).reverse
  rw [hhead] at hnot
  simp [hc] at hnot

theorem stripPrefix_suffix {s pattern rest : String} (h : stripPrefix s pattern = some rest) :
    rest.toList <:+ s.toList := by
  unfold stripPrefix at h
  split at h
  · cases h
    rw [String.toList_ofList]
    exact List.drop_suffix _ _
  · cases h

end Text
end LlmUniversalProxy.Lib
