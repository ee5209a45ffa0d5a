import LlmUniversalProxy.Lib.Text
import Mathlib.Logic.Function.Basic
import Mathlib.Data.List.Basic

/-!
# `Lib.Digest` — digests without collisions

What is proved of a keyed hash is proved of any function from bytes to text that is injective. Such
functions exist (`pinnedDigest_injective`), also with one value that has been worked out elsewhere.
-/

set_option autoImplicit false

namespace LlmUniversalProxy.Lib

theorem bytesOf_injective {s t : String} (h : bytesOf s = bytesOf t) : s = t :=
  String.toByteArray_inj.mp (ByteArray.ext (Array.toList_inj.mp h))

/-- A digest with one known value; the others are the bytes themselves, behind an `x`. -/
def pinnedDigest (input : List UInt8) (digest : String) (bytes : List UInt8) : String :=
  if bytes = input then digest else String.ofList ('x' :: bytes.map fun b => Char.ofNat b.toNat)

theorem byteChar_injective : Function.Injective fun b : UInt8 => Char.ofNat b.toNat := by
  have htoNat : ∀ b : UInt8, (Char.ofNat b.toNat).toNat = b.toNat := fun b => by
    have hb := b.toNat_lt
    exact Text.toNat_ofNat (.inl (by omega))
  intro b c h
  exact UInt8.toNat_inj.mp (by rw [← htoNat b, ← htoNat c]; exact congrArg Char.toNat h)

theorem pinnedDigest_injective {input : List UInt8} {digest : String}
    (h : digest.toList.head? ≠ some 'x') : Function.Injective (pinnedDigest input digest) := by
  have hother : ∀ bytes : List UInt8,
      digest ≠ String.ofList ('x' :: bytes.map fun b => Char.ofNat b.toNat) := by
    rintro bytes rfl
    exact h (by simp)
  intro a b hab
  unfold pinnedDigest at hab
  split at hab <;> split at hab
  · next ha hb => rw [ha, hb]
  · exact absurd hab (hother b)
  · exact absurd hab.symm (hother a)
  · have hcons : 'x' :: a.map (fun b => Char.ofNat b.toNat) =
        'x' :: b.map fun b => Char.ofNat b.toNat := by
      simpa using congrArg String.toList hab
    exact byteChar_injective.list_map (List.cons.inj hcons).2

end LlmUniversalProxy.Lib
