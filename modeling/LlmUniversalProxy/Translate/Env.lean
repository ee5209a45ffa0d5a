import LlmUniversalProxy.Json.Text
import LlmUniversalProxy.Lib.Text

/-!
# `Translate.Env` — what the translation takes from outside

A translated event depends on a few things besides its input: the process-local key of the proxy's
own markers and the hash they are made with, the clock, fresh ids, and the order in which a hash
map is walked. None of them is fixed by the code, so all of them are parameters.
-/

set_option autoImplicit false

namespace LlmUniversalProxy

open Json Lib

/-- The surroundings of a translation. A fresh id is drawn under a number that the caller has not
drawn under before. -/
structure Env where
  serde : Serde
  /-- The hexadecimal digest of `Sha256`. -/
  sha256Hex : List UInt8 → String
  internalReplayMarkerKey : String
  /-- The seconds since the epoch. -/
  now : Nat
  /-- `Uuid::new_v4().simple()`. -/
  uuid : Nat → String
  /-- The order in which a hash map with these keys is walked. -/
  hashOrder : List Nat → List Nat
  hashOrder_perm : ∀ keys, (hashOrder keys).Perm keys

/-- The signature of a marker: a digest of the key, a zero byte and the marker's payload. -/
def Env.signature (env : Env) (payload : Value) : String :=
  env.sha256Hex (bytesOf env.internalReplayMarkerKey ++ [0] ++ bytesOf payload.toJson)

/-- Surroundings in which nothing happens: floats print as they are written, hash maps are walked
as they are stored, and every id is the same. -/
def Env.still : Env where
  serde := ⟨some, fun _ => ""⟩
  sha256Hex := fun _ => ""
  internalReplayMarkerKey := ""
  now := 0
  uuid := fun _ => "0000000000000000"
  hashOrder := id
  hashOrder_perm := fun _ => List.Perm.refl _

end LlmUniversalProxy
