import LlmUniversalProxy.Json.Text
import LlmUniversalProxy.Lib.Ledger
import LlmUniversalProxy.Lib.Text
import LlmUniversalProxy.Server.Admin

/-!
# `Server.ConversationStateBridge` — the local memory of Responses conversations

An upstream without `previous_response_id` gets the whole transcript again on each turn, and the
proxy keeps that transcript here, under the id of the response it was answered with. The store is
one map for all namespaces; each call brings its own clock, time to live and memory limit.

Instants and durations are numbers of one unit. Sizes are lengths of texts that are held in memory,
so their sum stays below `usize::MAX`, and the saturating addition of the source is the ordinary
one; its saturating subtraction is that of `Nat`. `serde_json::to_vec` does not fail on a `Value`.
SHA-256, in hexadecimal, is a parameter.

The source is `server/conversation_state_bridge.rs` 14-258.
-/

set_option autoImplicit false

namespace LlmUniversalProxy.Server

open Json Lib

/-- `LOCAL_RESPONSE_ID_PREFIX`. -/
def localResponseIdPrefix : String := "resp_llmup_"

/-- `LOCAL_REPLAY_SCHEMA_VERSION`. -/
def localReplaySchemaVersion : Nat := 1

/-- `BridgeRouteConfigFingerprint`. The translation surface is compared and serialised, nothing
else: it is the JSON it serialises to. -/
structure BridgeRouteConfigFingerprint where
  schemaVersion : Nat
  namespaceRevision : String
  resolvedModel : ResolvedModel
  upstreamFormat : UpstreamFormat
  translationSurface : Value
  deriving DecidableEq, Repr

/-- `StoredBridgeResponse`. -/
structure StoredBridgeResponse where
  namespaceName : String
  ownerHash : String
  clientModel : String
  resolvedModel : ResolvedModel
  routeConfigFingerprint : BridgeRouteConfigFingerprint
  transcriptItems : List Value
  expiresAt : Nat
  sizeBytes : Nat
  deriving DecidableEq, Repr

/-- `BridgeLookupError`. -/
inductive BridgeLookupError where
  | unknown
  | expired
  | ownerMismatch
  deriving DecidableEq, Repr

/-- `BridgeLookupError::public_message`. -/
def BridgeLookupError.publicMessage (self : BridgeLookupError) (responseId : String) : String :=
  match self with
  | .unknown | .expired => s!"Responses `previous_response_id` `{responseId}` is unknown or " ++
      "expired in the local conversation_state_bridge memory store"
  | .ownerMismatch => s!"Responses `previous_response_id` `{responseId}` belongs to a different " ++
      "local conversation_state_bridge owner"

/-- `StoreInner`. -/
structure StoreInner where
  responses : FinMap String StoredBridgeResponse
  currentBytes : Nat

/-- `StoreInner::default`. -/
def StoreInner.empty : StoreInner := ⟨∅, 0⟩

/-- `ConversationStateBridgeStore::mint_response_id`; `uuid` is the simple form of a fresh UUID. -/
def mintResponseId (uuid : String) : String := localResponseIdPrefix ++ uuid

/-- `StoredBridgeResponse::new`; the last two fields are set by the store. -/
def StoredBridgeResponse.new (now : Nat) (namespaceName ownerHash clientModel : String)
    (resolvedModel : ResolvedModel) (routeConfigFingerprint : BridgeRouteConfigFingerprint)
    (transcriptItems : List Value) : StoredBridgeResponse :=
  ⟨namespaceName, ownerHash, clientModel, resolvedModel, routeConfigFingerprint, transcriptItems,
    now, 0⟩

/-! ## Owners -/

/-- `data_auth_mode_label`. -/
def dataAuthModeLabel : DataAuthMode → String
  | .clientProviderKey => "client_provider_key"
  | .proxyKey => "proxy_key"

/-- The bytes that `owner_hash` feeds to the hasher. -/
def ownerHashInput (namespaceName : String) (authContext : RequestAuthContext) : List UInt8 :=
  let (authKind, providerKey) := match authContext.authorization with
    | .clientProviderKey providerKey => ("client_provider_key", some providerKey)
    | .proxyKey => ("proxy_key", none)
  bytesOf namespaceName ++ [0] ++ bytesOf (dataAuthModeLabel authContext.mode) ++ [0] ++
    bytesOf authContext.generation ++ [0] ++ bytesOf authKind ++
    match providerKey with
    | some providerKey => [0] ++ bytesOf providerKey
    | none => []

/-- `ConversationStateBridgeStore::owner_hash`. -/
def ownerHash (sha256Hex : List UInt8 → String) (namespaceName : String)
    (authContext : RequestAuthContext) : String :=
  sha256Hex (ownerHashInput namespaceName authContext)

/-! ## The store -/

/-- `estimate_entry_size` (`conversation_state_bridge.rs` 228-258). -/
def estimateEntrySize (entry : StoredBridgeResponse) : Nat :=
  (Value.array entry.transcriptItems).jsonLen +
    entry.routeConfigFingerprint.translationSurface.jsonLen +
    8 +
    entry.namespaceName.utf8ByteSize +
    entry.ownerHash.utf8ByteSize +
    entry.clientModel.utf8ByteSize +
    entry.resolvedModel.upstreamName.utf8ByteSize +
    entry.resolvedModel.upstreamModel.utf8ByteSize +
    entry.routeConfigFingerprint.namespaceRevision.utf8ByteSize +
    entry.routeConfigFingerprint.resolvedModel.upstreamName.utf8ByteSize +
    entry.routeConfigFingerprint.resolvedModel.upstreamModel.utf8ByteSize +
    entry.routeConfigFingerprint.upstreamFormat.display.utf8ByteSize

namespace StoreInner

/-- `responses.remove(id)` with the adjustment of `current_bytes` that follows it. -/
def remove (inner : StoreInner) (responseId : String) : StoreInner :=
  match inner.responses.lookup responseId with
  | some removed =>
      ⟨inner.responses.erase responseId, inner.currentBytes - removed.sizeBytes⟩
  | none => inner

/-- The ids that `prune_expired` collects. -/
def expiredIds (inner : StoreInner) (now : Nat) : List String :=
  (inner.responses.entries.filter fun e => e.2.expiresAt ≤ now).map Sigma.fst

/-- `prune_expired`. -/
def pruneExpired (inner : StoreInner) (now : Nat) : StoreInner :=
  (inner.expiredIds now).foldl remove inner

/-- `ConversationStateBridgeStore::get` (`conversation_state_bridge.rs` 117-138). -/
def get (inner : StoreInner) (now : Nat) (responseId namespaceName ownerHash : String) :
    Except BridgeLookupError StoredBridgeResponse × StoreInner :=
  match inner.responses.lookup responseId with
  | none => (.error .unknown, inner)
  | some entry =>
      if entry.expiresAt ≤ now then (.error .expired, inner.remove responseId)
      else if entry.namespaceName ≠ namespaceName ∨ entry.ownerHash ≠ ownerHash then
        (.error .ownerMismatch, inner)
      else (.ok entry, inner)

/-- `ConversationStateBridgeStore::put_with_id` (`conversation_state_bridge.rs` 150-183). An entry
that is too large by itself is refused and leaves the store as it is; for any other, what has
expired makes room first. Nothing that is alive is ever put out for a new entry. -/
def putWithId (inner : StoreInner) (now : Nat) (responseId : String)
    (entry : StoredBridgeResponse) (ttl maxBytes : Nat) : Except String String × StoreInner :=
  let entry := { entry with expiresAt := now + ttl, sizeBytes := estimateEntrySize entry }
  if entry.sizeBytes > maxBytes then
    (.error (s!"conversation_state_bridge entry requires {entry.sizeBytes} bytes, exceeding " ++
      s!"max_bytes {maxBytes}"), inner)
  else
    let inner := inner.pruneExpired now
    if responseId ∈ inner.responses then
      (.error s!"conversation_state_bridge response id `{responseId}` already exists", inner)
    else if inner.currentBytes + entry.sizeBytes > maxBytes then
      (.error s!"conversation_state_bridge memory limit would exceed max_bytes {maxBytes}", inner)
    else
      (.ok responseId,
        ⟨inner.responses.insert responseId entry, inner.currentBytes + entry.sizeBytes⟩)

/-- `ConversationStateBridgeStore::put`. -/
def put (inner : StoreInner) (now : Nat) (uuid : String) (entry : StoredBridgeResponse)
    (ttl maxBytes : Nat) : Except String String × StoreInner :=
  inner.putWithId now (mintResponseId uuid) entry ttl maxBytes

end StoreInner

/-! ## Calls

The store sits behind a mutex, and each of its three methods does all its work under it, so calls
from different requests come one after the other, in some order. A call reads its clock before it
waits for the mutex: clocks need not increase from one call to the next. -/

inductive StoreCall where
  | get (now : Nat) (responseId namespaceName ownerHash : String)
  | put (now : Nat) (uuid : String) (entry : StoredBridgeResponse) (ttl maxBytes : Nat)
  | putWithId (now : Nat) (responseId : String) (entry : StoredBridgeResponse)
      (ttl maxBytes : Nat)

/-- What a call answers. -/
inductive StoreAnswer where
  | got (result : Except BridgeLookupError StoredBridgeResponse)
  | stored (result : Except String String)

namespace StoreCall

def now : StoreCall → Nat
  | .get now .. | .put now .. | .putWithId now .. => now

/-- The memory limit a put brings. -/
def maxBytes : StoreCall → Option Nat
  | .get .. => none
  | .put _ _ _ _ maxBytes | .putWithId _ _ _ _ maxBytes => some maxBytes

def run (inner : StoreInner) : StoreCall → StoreAnswer × StoreInner
  | .get now responseId namespaceName ownerHash =>
      let r := inner.get now responseId namespaceName ownerHash
      (.got r.1, r.2)
  | .put now uuid entry ttl maxBytes =>
      let r := inner.put now uuid entry ttl maxBytes
      (.stored r.1, r.2)
  | .putWithId now responseId entry ttl maxBytes =>
      let r := inner.putWithId now responseId entry ttl maxBytes
      (.stored r.1, r.2)

end StoreCall

/-- One call on the store, with its answer. -/
inductive StoreStep : StoreInner → StoreCall × StoreAnswer → StoreInner → Prop
  | call (inner : StoreInner) (c : StoreCall) :
      StoreStep inner (c, (c.run inner).1) (c.run inner).2

end LlmUniversalProxy.Server
