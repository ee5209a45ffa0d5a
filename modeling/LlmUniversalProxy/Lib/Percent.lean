import LlmUniversalProxy.Lib.Utf8

/-!
# `Lib.Percent` — percent-encoding

A byte that may not stand for itself is written as `%` and two digits. Which bytes may is a
parameter. What is encoded is read back, and nothing can be seen in it but the bytes that were
kept, percent signs and digits; in which case the text is written makes no difference to what is
read, up to the case of the letters.
-/

set_option autoImplicit false

namespace LlmUniversalProxy.Lib.Percent

/-- What holds of the 256 bytes holds of every byte. -/
theorem forall_byte {p : UInt8 → Prop} (h : ∀ n < 256, p (.ofNat n)) (b : UInt8) : p b := by
  have hb := h b.toNat b.toNat_lt
  rwa [UInt8.ofNat_toNat] at hb

/-! ## Digits -/

/-- The digit of a number below sixteen, in upper case. -/
def digit (n : Nat) : Char := Char.ofNat (if n < 10 then n + 48 else n + 55)

/-- The number of a digit, which may be in lower case as well. -/
def value (c : Char) : Option Nat :=
  if 48 ≤ c.toNat ∧ c.toNat ≤ 57 then some (c.toNat - 48)
  else if 65 ≤ c.toNat ∧ c.toNat ≤ 70 then some (c.toNat - 55)
  else if 97 ≤ c.toNat ∧ c.toNat ≤ 102 then some (c.toNat - 87)
  else none

theorem toNat_digit {n : Nat} (h : n < 16) :
    (digit n).toNat = if n < 10 then n + 48 else n + 55 := by
  apply Text.toNat_ofNat
  left
  split <;> omega

theorem value_digit {n : Nat} (h : n < 16) : value (digit n) = some n := by
  simp only [value, toNat_digit h]
  split
  · rw [if_pos (by omega)]
    simp
  · rw [if_neg (by omega), if_pos (by omega)]
    simp

/-! ## Encoding and decoding -/

/-- A byte behind its percent sign. -/
def escape (b : UInt8) : List Char := ['%', digit (b.toNat / 16), digit (b.toNat % 16)]

def encode (keep : UInt8 → Bool) (bytes : List UInt8) : List Char :=
  bytes.flatMap fun b => if keep b then [Char.ofNat b.toNat] else escape b

/-- The byte of two digits. -/
def readEscape : List Char → Option UInt8
  | a :: b :: _ => (value a).bind fun high => (value b).map fun low => .ofNat (high * 16 + low)
  | _ => none

/-- Reads the text behind `skip` characters, which belong to an escape that has been read. A percent
sign without two digits behind it stands for itself, as every other character does. -/
def decodeFrom : Nat → List Char → List UInt8
  | _, [] => []
  | skip + 1, _ :: cs => decodeFrom skip cs
  | 0, c :: cs =>
      match if c = '%' then readEscape cs else none with
      | some b => b :: decodeFrom 2 cs
      | none => String.utf8EncodeChar c ++ decodeFrom 0 cs

def decode (cs : List Char) : List UInt8 := decodeFrom 0 cs

theorem decode_escape (b : UInt8) (rest : List Char) :
    decode (escape b ++ rest) = b :: decode rest := by
  have hhigh : value (digit (b.toNat / 16)) = some (b.toNat / 16) :=
    value_digit (Nat.div_lt_of_lt_mul b.toNat_lt)
  have hlow : value (digit (b.toNat % 16)) = some (b.toNat % 16) :=
    value_digit (Nat.mod_lt _ (by omega))
  have hread : readEscape (digit (b.toNat / 16) :: digit (b.toNat % 16) :: rest) = some b := by
    simp only [readEscape, hhigh, hlow, Option.bind_some, Option.map_some, Nat.div_add_mod']
    simp
  simp [decode, escape, decodeFrom, hread]

theorem decode_cons {c : Char} (hc : c ≠ '%') (rest : List Char) :
    decode (c :: rest) = String.utf8EncodeChar c ++ decode rest := by
  simp [decode, decodeFrom, hc]

/-- An ASCII character is one byte. -/
theorem encodeChar_ascii {c : Char} (hc : c.toNat < 128) :
    String.utf8EncodeChar c = [.ofNat c.toNat] := by
  have hval : c.val.toNat = c.toNat := rfl
  simp only [String.utf8EncodeChar, hval]
  rw [if_pos (by omega)]

theorem toNat_ofByte {b : UInt8} (hb : b.toNat < 128) : (Char.ofNat b.toNat).toNat = b.toNat := by
  apply Text.toNat_ofNat
  left
  omega

/-- **What is encoded is read back.** -/
theorem decode_encode {keep : UInt8 → Bool}
    (hkeep : ∀ b, keep b = true → b.toNat < 128 ∧ b ≠ 37) (bytes : List UInt8) :
    decode (encode keep bytes) = bytes := by
  induction bytes with
  | nil => rfl
  | cons b bytes ih =>
    simp only [encode, List.flatMap_cons] at ih ⊢
    split
    · next hb =>
      obtain ⟨hascii, hpercent⟩ := hkeep b hb
      have hchar : Char.ofNat b.toNat ≠ '%' := by
        intro heq
        apply hpercent
        rw [← UInt8.toNat_inj, ← toNat_ofByte hascii, heq]
        rfl
      rw [List.singleton_append, decode_cons hchar, ih,
        encodeChar_ascii (by rw [toNat_ofByte hascii]; exact hascii), toNat_ofByte hascii]
      simp
    · rw [decode_escape, ih]

/-- All there is in an encoded text. -/
theorem mem_encode {keep : UInt8 → Bool} {bytes : List UInt8} {c : Char}
    (hc : c ∈ encode keep bytes) :
    (∃ b, keep b = true ∧ c = Char.ofNat b.toNat) ∨ c = '%' ∨ ∃ n < 16, c = digit n := by
  obtain ⟨b, -, hc⟩ := List.mem_flatMap.mp hc
  split at hc
  · next hb => exact .inl ⟨b, hb, List.mem_singleton.mp hc⟩
  · have hb := b.toNat_lt
    simp only [escape, List.mem_cons, List.not_mem_nil, or_false] at hc
    rcases hc with rfl | rfl | rfl
    · exact .inr (.inl rfl)
    · exact .inr (.inr ⟨_, Nat.div_lt_of_lt_mul hb, rfl⟩)
    · exact .inr (.inr ⟨_, Nat.mod_lt _ (by omega), rfl⟩)

/-! ## The case of the letters -/

/-- `u8::to_ascii_lowercase`. -/
def lowerByte (b : UInt8) : UInt8 := if 65 ≤ b.toNat ∧ b.toNat ≤ 90 then .ofNat (b.toNat + 32) else b

theorem asciiLowerChar_cases (c : Char) :
    (¬ (65 ≤ c.toNat ∧ c.toNat ≤ 90) ∧ Text.asciiLowerChar c = c) ∨
      65 ≤ c.toNat ∧ c.toNat ≤ 90 ∧ (Text.asciiLowerChar c).toNat = c.toNat + 32 := by
  have hrange : ('A' ≤ c ∧ c ≤ 'Z') ↔ 65 ≤ c.toNat ∧ c.toNat ≤ 90 := Iff.rfl
  unfold Text.asciiLowerChar
  split
  · next hupper =>
    obtain ⟨hlow, hhigh⟩ := hrange.mp hupper
    refine .inr ⟨hlow, hhigh, Text.toNat_ofNat ?_⟩
    left
    omega
  · next hupper => exact .inl ⟨mt hrange.mpr hupper, rfl⟩

theorem value_asciiLowerChar (c : Char) : value (Text.asciiLowerChar c) = value c := by
  rcases asciiLowerChar_cases c with ⟨-, hc⟩ | ⟨hlow, hhigh, hc⟩
  · rw [hc]
  · simp only [value, hc]
    rw [if_neg (by omega), if_neg (by omega)]
    by_cases hdigit : c.toNat ≤ 70
    · rw [if_pos (by omega), if_neg (by omega), if_pos (by omega)]
      simp
    · rw [if_neg (by omega), if_neg (by omega), if_neg (by omega), if_neg (by omega)]

theorem asciiLowerChar_eq_percent (c : Char) : Text.asciiLowerChar c = '%' ↔ c = '%' := by
  rcases asciiLowerChar_cases c with ⟨-, hc⟩ | ⟨hlow, hhigh, hc⟩
  · rw [hc]
  · constructor
    · intro heq
      rw [heq] at hc
      have : ('%' : Char).toNat = 37 := rfl
      omega
    · rintro rfl
      have : ('%' : Char).toNat = 37 := rfl
      omega

theorem readEscape_asciiLower (cs : List Char) :
    readEscape (cs.map Text.asciiLowerChar) = readEscape cs := by
  rcases cs with _ | ⟨a, _ | ⟨b, cs⟩⟩
  · rfl
  · rfl
  · simp [readEscape, value_asciiLowerChar]

theorem encodeChar_asciiLowerChar (c : Char) :
    (String.utf8EncodeChar (Text.asciiLowerChar c)).map lowerByte =
      (String.utf8EncodeChar c).map lowerByte := by
  rcases asciiLowerChar_cases c with ⟨-, hc⟩ | ⟨hlow, hhigh, hc⟩
  · rw [hc]
  · have hupper : (UInt8.ofNat c.toNat).toNat = c.toNat := by
      rw [UInt8.toNat_ofNat']
      omega
    have hlower : (UInt8.ofNat (c.toNat + 32)).toNat = c.toNat + 32 := by
      rw [UInt8.toNat_ofNat']
      omega
    rw [encodeChar_ascii (by omega), encodeChar_ascii (by omega), hc]
    simp only [List.map_cons, List.map_nil, lowerByte, hupper, hlower]
    rw [if_neg (by omega), if_pos ⟨hlow, hhigh⟩]

/-- **The case of a text makes no difference to the bytes in it, up to their case.** -/
theorem decodeFrom_asciiLower (skip : Nat) (cs : List Char) :
    (decodeFrom skip (cs.map Text.asciiLowerChar)).map lowerByte =
      (decodeFrom skip cs).map lowerByte := by
  induction cs generalizing skip with
  | nil => simp [decodeFrom]
  | cons c cs ih =>
    cases skip with
    | succ skip => exact ih skip
    | zero =>
      simp only [List.map_cons, decodeFrom, asciiLowerChar_eq_percent, readEscape_asciiLower]
      split
      · simp [ih]
      · simp [ih, encodeChar_asciiLowerChar]

end LlmUniversalProxy.Lib.Percent
