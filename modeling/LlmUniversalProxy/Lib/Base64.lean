import Mathlib.Data.UInt
import Mathlib.Data.List.Basic

/-!
# `Lib.Base64` — the standard alphabet, with padding

Three bytes are four digits of six bits. What is left at the end, one byte or two, gets as many
digits as it needs, with the bits it does not fill zero, and padding up to four. `Canonical` says
this of a text by itself, one group after the other; it holds of the texts that encode something,
and of no others.
-/

set_option autoImplicit false

namespace LlmUniversalProxy.Lib.Base64

/-! ## Digits -/

/-- The padding, `=`. -/
def pad : UInt8 := 61

/-- The digit of a number below 64. -/
def digit (n : Nat) : UInt8 :=
  if n < 26 then .ofNat (n + 65)
  else if n < 52 then .ofNat (n + 71)
  else if n < 62 then .ofNat (n - 4)
  else if n = 62 then 43
  else 47

/-- The number of a digit. -/
def value (b : UInt8) : Option Nat :=
  if 65 ≤ b.toNat ∧ b.toNat ≤ 90 then some (b.toNat - 65)
  else if 97 ≤ b.toNat ∧ b.toNat ≤ 122 then some (b.toNat - 71)
  else if 48 ≤ b.toNat ∧ b.toNat ≤ 57 then some (b.toNat + 4)
  else if b.toNat = 43 then some 62
  else if b.toNat = 47 then some 63
  else none

theorem toNat_digit {n : Nat} (h : n < 64) : (digit n).toNat =
    if n < 26 then n + 65 else if n < 52 then n + 71 else if n < 62 then n - 4
    else if n = 62 then 43 else 47 := by
  unfold digit
  split_ifs
  · rw [UInt8.toNat_ofNat', Nat.mod_eq_of_lt (by omega)]
  · rw [UInt8.toNat_ofNat', Nat.mod_eq_of_lt (by omega)]
  · rw [UInt8.toNat_ofNat', Nat.mod_eq_of_lt (by omega)]
  · rfl
  · rfl

theorem value_digit {n : Nat} (h : n < 64) : value (digit n) = some n := by
  unfold value
  rw [toNat_digit h]
  split_ifs <;> first | omega | (refine congrArg some ?_; omega)

theorem value_lt {b : UInt8} {n : Nat} (h : value b = some n) : n < 64 := by
  unfold value at h
  split_ifs at h <;> simp only [Option.some.injEq] at h <;> omega

theorem digit_value {b : UInt8} {n : Nat} (h : value b = some n) : digit n = b := by
  apply UInt8.toNat_inj.mp
  rw [toNat_digit (value_lt h)]
  unfold value at h
  split_ifs at h <;> simp only [Option.some.injEq] at h <;> split_ifs <;> omega

/-! ## Encoding -/

def encode : List UInt8 → List UInt8
  | [] => []
  | [a] => [digit (a.toNat / 4), digit (a.toNat % 4 * 16), pad, pad]
  | [a, b] => [digit (a.toNat / 4), digit (a.toNat % 4 * 16 + b.toNat / 16),
      digit (b.toNat % 16 * 4), pad]
  | a :: b :: c :: rest =>
      digit (a.toNat / 4) :: digit (a.toNat % 4 * 16 + b.toNat / 16) ::
        digit (b.toNat % 16 * 4 + c.toNat / 64) :: digit (c.toNat % 64) :: encode rest

theorem length_encode_mod (bytes : List UInt8) : (encode bytes).length % 4 = 0 := by
  induction bytes using encode.induct with
  | case1 => rfl
  | case2 a => simp [encode]
  | case3 a b => simp [encode]
  | case4 a b c rest ih =>
    simp only [encode, List.length_cons]
    omega

theorem encode_ne_nil {bytes : List UInt8} (h : bytes ≠ []) : encode bytes ≠ [] := by
  induction bytes using encode.induct with
  | case1 => exact absurd rfl h
  | case2 a => simp [encode]
  | case3 a b => simp [encode]
  | case4 a b c rest _ => simp [encode]

/-- A digit whose last bits, those below `unit`, are zero. -/
def IsDigit (unit : Nat) (b : UInt8) : Prop := ∃ n, value b = some n ∧ n % unit = 0

theorem isDigit_digit {unit n : Nat} (h : n < 64) (hunit : n % unit = 0) : IsDigit unit (digit n) :=
  ⟨n, value_digit h, hunit⟩

/-- Groups of four digits, the last of which may end in padding. -/
def Canonical : List UInt8 → Prop
  | [] => True
  | w :: x :: y :: z :: rest =>
      (IsDigit 1 w ∧ IsDigit 1 x ∧ IsDigit 1 y ∧ IsDigit 1 z ∧ Canonical rest) ∨
      (rest = [] ∧ IsDigit 1 w ∧ IsDigit 1 x ∧ IsDigit 4 y ∧ z = pad) ∨
      (rest = [] ∧ IsDigit 1 w ∧ IsDigit 16 x ∧ y = pad ∧ z = pad)
  | _ => False

theorem canonical_encode (bytes : List UInt8) : Canonical (encode bytes) := by
  induction bytes using encode.induct with
  | case1 => exact trivial
  | case2 a =>
    have ha := a.toNat_lt
    exact .inr (.inr ⟨rfl, isDigit_digit (by omega) (Nat.mod_one _),
      isDigit_digit (by omega) (by omega), rfl, rfl⟩)
  | case3 a b =>
    have ha := a.toNat_lt
    have hb := b.toNat_lt
    exact .inr (.inl ⟨rfl, isDigit_digit (by omega) (Nat.mod_one _),
      isDigit_digit (by omega) (Nat.mod_one _), isDigit_digit (by omega) (by omega), rfl⟩)
  | case4 a b c rest ih =>
    have ha := a.toNat_lt
    have hb := b.toNat_lt
    have hc := c.toNat_lt
    exact .inl ⟨isDigit_digit (by omega) (Nat.mod_one _), isDigit_digit (by omega) (Nat.mod_one _),
      isDigit_digit (by omega) (Nat.mod_one _), isDigit_digit (by omega) (Nat.mod_one _), ih⟩

/-! ## Decoding a group -/

section

variable {w x y z : UInt8} {rest : List UInt8}

theorem toNat_byte {n : Nat} (h : n < 256) : (UInt8.ofNat n).toNat = n := by
  rw [UInt8.toNat_ofNat', Nat.mod_eq_of_lt h]

theorem encode_four (hw : IsDigit 1 w) (hx : IsDigit 1 x) (hy : IsDigit 1 y) (hz : IsDigit 1 z) :
    ∃ a b c, ∀ bytes, encode (a :: b :: c :: bytes) = w :: x :: y :: z :: encode bytes := by
  obtain ⟨p, hp, _⟩ := hw
  obtain ⟨q, hq, _⟩ := hx
  obtain ⟨r, hr, _⟩ := hy
  obtain ⟨s, hs, _⟩ := hz
  have hp64 := value_lt hp
  have hq64 := value_lt hq
  have hr64 := value_lt hr
  have hs64 := value_lt hs
  refine ⟨.ofNat (p * 4 + q / 16), .ofNat (q % 16 * 16 + r / 4), .ofNat (r % 4 * 64 + s), ?_⟩
  intro bytes
  rw [encode, toNat_byte (by omega), toNat_byte (by omega), toNat_byte (by omega),
    show (p * 4 + q / 16) / 4 = p by omega,
    show (p * 4 + q / 16) % 4 * 16 + (q % 16 * 16 + r / 4) / 16 = q by omega,
    show (q % 16 * 16 + r / 4) % 16 * 4 + (r % 4 * 64 + s) / 64 = r by omega,
    show (r % 4 * 64 + s) % 64 = s by omega,
    digit_value hp, digit_value hq, digit_value hr, digit_value hs]

/-- Three digits, the last of them even enough, are two bytes. -/
theorem encode_three (hw : IsDigit 1 w) (hx : IsDigit 1 x) (hy : IsDigit 4 y) :
    ∃ a b, encode [a, b] = [w, x, y, pad] := by
  obtain ⟨p, hp, _⟩ := hw
  obtain ⟨q, hq, _⟩ := hx
  obtain ⟨r, hr, hunit⟩ := hy
  have hp64 := value_lt hp
  have hq64 := value_lt hq
  have hr64 := value_lt hr
  refine ⟨.ofNat (p * 4 + q / 16), .ofNat (q % 16 * 16 + r / 4), ?_⟩
  rw [encode, toNat_byte (by omega), toNat_byte (by omega),
    show (p * 4 + q / 16) / 4 = p by omega,
    show (p * 4 + q / 16) % 4 * 16 + (q % 16 * 16 + r / 4) / 16 = q by omega,
    show (q % 16 * 16 + r / 4) % 16 * 4 = r by omega, digit_value hp, digit_value hq, digit_value hr]

/-- Two digits, the last of them even enough, are one byte. -/
theorem encode_two (hw : IsDigit 1 w) (hx : IsDigit 16 x) :
    ∃ a, encode [a] = [w, x, pad, pad] := by
  obtain ⟨p, hp, _⟩ := hw
  obtain ⟨q, hq, hunit⟩ := hx
  have hp64 := value_lt hp
  have hq64 := value_lt hq
  refine ⟨.ofNat (p * 4 + q / 16), ?_⟩
  rw [encode, toNat_byte (by omega), show (p * 4 + q / 16) / 4 = p by omega,
    show (p * 4 + q / 16) % 4 * 16 = q by omega, digit_value hp, digit_value hq]

end

/-- A text encodes something just when it is canonical. -/
theorem canonical_iff {text : List UInt8} : Canonical text ↔ ∃ bytes, encode bytes = text := by
  constructor
  · intro h
    induction text using Canonical.induct with
    | case1 => exact ⟨[], rfl⟩
    | case2 w x y z rest ih =>
      rcases h with ⟨hw, hx, hy, hz, hrest⟩ | ⟨rfl, hw, hx, hy, rfl⟩ | ⟨rfl, hw, hx, rfl, rfl⟩
      · obtain ⟨a, b, c, hgroup⟩ := encode_four hw hx hy hz
        obtain ⟨bytes, rfl⟩ := ih hrest
        exact ⟨a :: b :: c :: bytes, hgroup bytes⟩
      · obtain ⟨a, b, hgroup⟩ := encode_three hw hx hy
        exact ⟨[a, b], hgroup⟩
      · obtain ⟨a, hgroup⟩ := encode_two hw hx
        exact ⟨[a], hgroup⟩
    | case3 text hnil hgroup =>
      unfold Canonical at h
      split at h
      · exact absurd rfl hnil
      · exact absurd rfl (hgroup _ _ _ _ _)
      · exact h.elim
  · rintro ⟨bytes, rfl⟩
    exact canonical_encode bytes

end LlmUniversalProxy.Lib.Base64
