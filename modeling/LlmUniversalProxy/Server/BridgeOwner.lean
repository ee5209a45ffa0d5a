import LlmUniversalProxy.Lib.Digest
import LlmUniversalProxy.Lib.Fields
import LlmUniversalProxy.Server.BridgeAccounting

/-!
# `Server.BridgeOwner` — whose conversation an entry is

An entry is given back only under the namespace and the owner hash it was stored with. The hash is
of a NUL-separated text: the namespace, the auth mode, the generation of the policy, the kind of
authorisation, and the client's provider key if there is one. For a fixed namespace this text can
be read back (`ownerHashInput_owner_inj`), which is all that the store needs, since it compares
the namespace itself as well. Across namespaces it cannot: the last field is optional and the
namespace may contain NULs, so the fields of one text can be those of another shifted by one. The
only shift there is takes the label `client_provider_key` for a generation
(`ownerHashInput_inj`); generations are UUIDs.

The source is `server/conversation_state_bridge.rs` 91-115.
-/

set_option autoImplicit false

namespace LlmUniversalProxy.Server

open Json Lib

/-- What a capture stores, apart from its owner. -/
structure BridgeCapture where
  clientModel : String
  resolvedModel : ResolvedModel
  routeConfigFingerprint : BridgeRouteConfigFingerprint
  transcriptItems : List Value

/-- A call as the request handlers make it: both the lookup and the capture of a request use the
owner hash of its own namespace and auth context. -/
inductive OwnedCall where
  | get (now : Nat) (responseId namespaceName : String) (authContext : RequestAuthContext)
  | put (now : Nat) (uuid namespaceName : String) (authContext : RequestAuthContext)
      (capture : BridgeCapture) (ttl maxBytes : Nat)
  | putWithId (now : Nat) (responseId namespaceName : String) (authContext : RequestAuthContext)
      (capture : BridgeCapture) (ttl maxBytes : Nat)

namespace OwnedCall

def namespaceName : OwnedCall → String
  | .get _ _ namespaceName _ | .put _ _ namespaceName _ _ _ _
  | .putWithId _ _ namespaceName _ _ _ _ => namespaceName

def authContext : OwnedCall → RequestAuthContext
  | .get _ _ _ authContext | .put _ _ _ authContext _ _ _
  | .putWithId _ _ _ authContext _ _ _ => authContext

def now : OwnedCall → Nat
  | .get now .. | .put now .. | .putWithId now .. => now

def entry (sha256Hex : List UInt8 → String) (call : OwnedCall) (capture : BridgeCapture) :
    StoredBridgeResponse :=
  .new call.now call.namespaceName (ownerHash sha256Hex call.namespaceName call.authContext)
    capture.clientModel capture.resolvedModel capture.routeConfigFingerprint
    capture.transcriptItems

end OwnedCall

/-- An entry under an id was put there by a call of the run, with that call's owner. -/
def PutBy (sha256Hex : List UInt8 → String) (calls : List (OwnedCall × StoreAnswer)) (id : String)
    (entry : StoredBridgeResponse) : Prop :=
  ∃ call, (call, StoreAnswer.stored (.ok id)) ∈ calls ∧
    entry.namespaceName = call.namespaceName ∧
    entry.ownerHash = ownerHash sha256Hex call.namespaceName call.authContext

theorem PutBy.append {sha256Hex : List UInt8 → String} {calls : List (OwnedCall × StoreAnswer)}
    {id : String} {entry : StoredBridgeResponse} (e : OwnedCall × StoreAnswer)
    (h : PutBy sha256Hex calls id entry) : PutBy sha256Hex (calls ++ [e]) id entry := by
  obtain ⟨call, hmem, howner⟩ := h
  exact ⟨call, List.mem_append_left _ hmem, howner⟩

end LlmUniversalProxy.Server
