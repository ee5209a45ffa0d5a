import LlmUniversalProxy.Lib.Text

/-!
# `Lib.Utf8` — reading bytes as text

`String::from_utf8_lossy`: a well-formed sequence gives its character, and each maximal part of an
ill-formed one gives a replacement character. What the second byte of a sequence may be depends on
the first; the bytes behind it are any continuation bytes.
-/

set_option autoImplicit false

namespace LlmUniversalProxy.Lib.Utf8

/-- `char::REPLACEMENT_CHARACTER`. -/
def replacement : Char := Char.ofNat 0xFFFD

/-- The number of bytes behind a first byte, and the range of the second one; `none` for a byte
that starts nothing. -/
def lead (b : UInt8) : Option (Nat × Nat × Nat) :=
  let n := b.toNat
  if n < 0x80 then some (0, 0, 0)
  else if n < 0xC2 then none
  else if n < 0xE0 then some (1, 0x80, 0xBF)
  else if n = 0xE0 then some (2, 0xA0, 0xBF)
  else if n = 0xED then some (2, 0x80, 0x9F)
  else if n < 0xF0 then some (2, 0x80, 0xBF)
  else if n = 0xF0 then some (3, 0x90, 0xBF)
  else if n < 0xF4 then some (3, 0x80, 0xBF)
  else if n = 0xF4 then some (3, 0x80, 0x8F)
  else none

/-- The value bits of a first byte with `more` bytes behind it. -/
def leadBits (b : UInt8) : Nat → Nat
  | 0 => b.toNat
  | 1 => b.toNat % 32
  | 2 => b.toNat % 16
  | _ => b.toNat % 8

/-- Reads the rest of a sequence: the character when all `more` bytes are there, the replacement
character when one of them is not, and the bytes that follow. -/
def continueSequence (value : Nat) : Nat → Nat → Nat → List UInt8 → Char × List UInt8
  | 0, _, _, rest => (Char.ofNat value, rest)
  | _ + 1, _, _, [] => (replacement, [])
  | more + 1, low, high, b :: rest =>
      if low ≤ b.toNat ∧ b.toNat ≤ high then
        continueSequence (value * 64 + b.toNat % 64) more 0x80 0xBF rest
      else (replacement, b :: rest)

/-- The first character of `b :: rest`, and what follows it. -/
def decodeChar (b : UInt8) (rest : List UInt8) : Char × List UInt8 :=
  match lead b with
  | none => (replacement, rest)
  | some (more, low, high) => continueSequence (leadBits b more) more low high rest

/-- Decodes with a fuel of one unit for each character. -/
def decodeFrom : Nat → List UInt8 → List Char
  | 0, _ => []
  | _ + 1, [] => []
  | fuel + 1, b :: rest =>
      let (c, rest) := decodeChar b rest
      c :: decodeFrom fuel rest

/-- `String::from_utf8_lossy`, as characters. -/
def fromUtf8Lossy (bytes : List UInt8) : List Char := decodeFrom bytes.length bytes

/-! ## What is encoded is decoded -/

theorem continueSequence_of_mem {value more low high : Nat} {b : UInt8} {rest : List UInt8}
    (hlow : low ≤ b.toNat) (hhigh : b.toNat ≤ high) :
    continueSequence value (more + 1) low high (b :: rest) =
      continueSequence (value * 64 + b.toNat % 64) more 0x80 0xBF rest :=
  if_pos ⟨hlow, hhigh⟩

/-- A byte behind the first one. -/
theorem tail_toNat (n : Nat) : (UInt8.ofNat (n % 64 + 128)).toNat = n % 64 + 128 := by
  rw [UInt8.toNat_ofNat']
  omega

theorem decodeChar_of_lead {b : UInt8} {more low high : Nat} {rest : List UInt8}
    (h : lead b = some (more, low, high)) :
    decodeChar b rest = continueSequence (leadBits b more) more low high rest := by
  unfold decodeChar
  rw [h]

/-- A character is decoded from its bytes, whatever is behind them. -/
theorem decodeChar_encode (c : Char) (rest : List UInt8) :
    ∃ b bs, String.utf8EncodeChar c = b :: bs ∧ decodeChar b (bs ++ rest) = (c, rest) := by
  have hrange : c.toNat < 0xD800 ∨ 0xDFFF < c.toNat ∧ c.toNat < 0x110000 := c.valid
  have hback : Char.ofNat c.toNat = c := Char.ofNat_toNat c
  have hval : c.val.toNat = c.toNat := rfl
  unfold String.utf8EncodeChar
  rw [hval]
  generalize c.toNat = n at hrange hback
  dsimp only
  split
  · next hn =>
    refine ⟨_, _, rfl, ?_⟩
    have hb : (UInt8.ofNat n).toNat = n := by
      rw [UInt8.toNat_ofNat']
      omega
    have hlead : lead (UInt8.ofNat n) = some (0, 0, 0) := by
      simp only [lead, hb]
      rw [if_pos (by omega)]
    rw [decodeChar_of_lead hlead, continueSequence, leadBits, hb, hback]
    rfl
  split
  · next hn =>
    refine ⟨_, _, rfl, ?_⟩
    have hb : (UInt8.ofNat (n / 64 % 32 + 192)).toNat = n / 64 + 192 := by
      rw [UInt8.toNat_ofNat']
      omega
    have hlead : lead (UInt8.ofNat (n / 64 % 32 + 192)) = some (1, 128, 191) := by
      simp only [lead, hb]
      rw [if_neg (by omega), if_neg (by omega), if_pos (by omega)]
    rw [decodeChar_of_lead hlead, List.cons_append, List.nil_append,
      continueSequence_of_mem (by rw [tail_toNat]; omega) (by rw [tail_toNat]; omega), tail_toNat,
      continueSequence, leadBits, hb]
    rw [show (n / 64 + 192) % 32 * 64 + (n % 64 + 128) % 64 = n by omega, hback]
  split
  · next hn =>
    refine ⟨_, _, rfl, ?_⟩
    have hb : (UInt8.ofNat (n / 4096 % 16 + 224)).toNat = n / 4096 + 224 := by
      rw [UInt8.toNat_ofNat']
      omega
    -- the second byte of `E0` and of `ED` has a range of its own
    have hlead : ∃ low high, lead (UInt8.ofNat (n / 4096 % 16 + 224)) = some (2, low, high) ∧
        low ≤ n / 64 % 64 + 128 ∧ n / 64 % 64 + 128 ≤ high := by
      simp only [lead, hb]
      rw [if_neg (by omega), if_neg (by omega), if_neg (by omega)]
      split
      · exact ⟨160, 191, rfl, by omega, by omega⟩
      split
      · exact ⟨128, 159, rfl, by omega, by omega⟩
      · rw [if_pos (by omega)]
        exact ⟨128, 191, rfl, by omega, by omega⟩
    obtain ⟨low, high, hlead, hlow, hhigh⟩ := hlead
    rw [decodeChar_of_lead hlead, List.cons_append, List.cons_append, List.nil_append,
      continueSequence_of_mem (by rwa [tail_toNat]) (by rwa [tail_toNat]),
      continueSequence_of_mem (by rw [tail_toNat]; omega) (by rw [tail_toNat]; omega), tail_toNat,
      tail_toNat, continueSequence, leadBits, hb]
    rw [show ((n / 4096 + 224) % 16 * 64 + (n / 64 % 64 + 128) % 64) * 64 + (n % 64 + 128) % 64 = n by
      omega, hback]
  · refine ⟨_, _, rfl, ?_⟩
    have hb : (UInt8.ofNat (n / 262144 % 8 + 240)).toNat = n / 262144 + 240 := by
      rw [UInt8.toNat_ofNat']
      omega
    -- and so has that of `F0` and of `F4`
    have hlead : ∃ low high, lead (UInt8.ofNat (n / 262144 % 8 + 240)) = some (3, low, high) ∧
        low ≤ n / 4096 % 64 + 128 ∧ n / 4096 % 64 + 128 ≤ high := by
      simp only [lead, hb]
      rw [if_neg (by omega), if_neg (by omega), if_neg (by omega), if_neg (by omega),
        if_neg (by omega), if_neg (by omega)]
      split
      · exact ⟨144, 191, rfl, by omega, by omega⟩
      split
      · exact ⟨128, 191, rfl, by omega, by omega⟩
      · rw [if_pos (by omega)]
        exact ⟨128, 143, rfl, by omega, by omega⟩
    obtain ⟨low, high, hlead, hlow, hhigh⟩ := hlead
    rw [decodeChar_of_lead hlead, List.cons_append, List.cons_append, List.cons_append,
      List.nil_append, continueSequence_of_mem (by rwa [tail_toNat]) (by rwa [tail_toNat]),
      continueSequence_of_mem (by rw [tail_toNat]; omega) (by rw [tail_toNat]; omega),
      continueSequence_of_mem (by rw [tail_toNat]; omega) (by rw [tail_toNat]; omega), tail_toNat,
      tail_toNat, tail_toNat, continueSequence]
    have hbits : leadBits (UInt8.ofNat (n / 262144 % 8 + 240)) 3 = n / 262144 := by
      show _ % 8 = _
      rw [hb]
      omega
    rw [hbits, show ((n / 262144 * 64 + (n / 4096 % 64 + 128) % 64) * 64 +
      (n / 64 % 64 + 128) % 64) * 64 + (n % 64 + 128) % 64 = n by omega, hback]

theorem decodeFrom_encode (cs : List Char) {fuel : Nat} (hfuel : cs.length ≤ fuel) :
    decodeFrom fuel (cs.flatMap String.utf8EncodeChar) = cs := by
  induction cs generalizing fuel with
  | nil => cases fuel <;> rfl
  | cons c cs ih =>
    obtain ⟨fuel, rfl⟩ := Nat.exists_eq_succ_of_ne_zero (Nat.ne_of_gt (Nat.zero_lt_of_lt hfuel))
    obtain ⟨b, bs, hbytes, hdecode⟩ := decodeChar_encode c (cs.flatMap String.utf8EncodeChar)
    rw [List.flatMap_cons, hbytes, List.cons_append, decodeFrom, hdecode]
    exact congrArg _ (ih (Nat.le_of_succ_le_succ hfuel))

theorem bytesOf_eq (s : String) : bytesOf s = s.toList.flatMap String.utf8EncodeChar := by
  unfold bytesOf
  rw [← String.utf8Encode_toList, List.utf8Encode]
  simp

theorem length_le_encode (cs : List Char) :
    cs.length ≤ (cs.flatMap String.utf8EncodeChar).length := by
  induction cs with
  | nil => exact Nat.le_refl 0
  | cons c cs ih =>
    obtain ⟨b, bs, hbytes, -⟩ := decodeChar_encode c []
    rw [List.flatMap_cons, List.length_append, hbytes, List.length_cons, List.length_cons]
    omega

/-- **A string is read back from its bytes.** -/
theorem fromUtf8Lossy_bytesOf (s : String) : fromUtf8Lossy (bytesOf s) = s.toList := by
  unfold fromUtf8Lossy
  rw [bytesOf_eq]
  exact decodeFrom_encode s.toList (length_le_encode s.toList)

example : fromUtf8Lossy (bytesOf "aé€😀") = "aé€😀".toList := by decide

/-- Only the character that is an ASCII byte has it: the bytes of the others are all from `0x80`
on. -/
theorem eq_of_mem_encode {c : Char} {b : UInt8} (hmem : b ∈ String.utf8EncodeChar c)
    (hb : b.toNat < 128) : c.toNat = b.toNat := by
  have hrange : c.toNat < 0xD800 ∨ 0xDFFF < c.toNat ∧ c.toNat < 0x110000 := c.valid
  have hval : c.val.toNat = c.toNat := rfl
  unfold String.utf8EncodeChar at hmem
  rw [hval] at hmem
  generalize c.toNat = n at hrange hmem
  dsimp only at hmem
  split at hmem
  · obtain rfl := List.mem_singleton.mp hmem
    rw [UInt8.toNat_ofNat']
    omega
  split at hmem
  · simp only [List.mem_cons, List.not_mem_nil, or_false] at hmem
    rcases hmem with rfl | rfl <;> rw [UInt8.toNat_ofNat'] at hb <;> omega
  split at hmem
  · simp only [List.mem_cons, List.not_mem_nil, or_false] at hmem
    rcases hmem with rfl | rfl | rfl <;> rw [UInt8.toNat_ofNat'] at hb <;> omega
  · simp only [List.mem_cons, List.not_mem_nil, or_false] at hmem
    rcases hmem with rfl | rfl | rfl | rfl <;> rw [UInt8.toNat_ofNat'] at hb <;> omega

theorem mem_of_mem_bytesOf {s : String} {c : Char} (hc : c.toNat < 128)
    (hmem : UInt8.ofNat c.toNat ∈ bytesOf s) : c ∈ s.toList := by
  rw [bytesOf_eq] at hmem
  obtain ⟨d, hd, hbyte⟩ := List.mem_flatMap.mp hmem
  have hb : (UInt8.ofNat c.toNat).toNat = c.toNat := by
    rw [UInt8.toNat_ofNat']
    omega
  have heq := eq_of_mem_encode hbyte (by rwa [hb])
  rw [hb] at heq
  rwa [Char.ext (UInt32.toNat_inj.mp heq)] at hd

end LlmUniversalProxy.Lib.Utf8
