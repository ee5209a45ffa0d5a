import LlmUniversalProxy.Server.BridgeTranscript

/-!
# `Server.BridgeTurn` — one turn of a bridged conversation

A turn that is translated to another format is prepared before it is sent (a continuation gets the
stored transcript put in front of its own input) and captured when the upstream has answered: the
items of the request and the items of the answer are stored together under a new id. In between,
other turns come and go. `BridgeStep` interleaves them: the store, and the turns that are waiting
for their answers.

The source is `server/proxy.rs` 2247-2411 and 2849-2884. What the upstream answers is any value at
all.
-/

set_option autoImplicit false

namespace LlmUniversalProxy.Server

open Json Lib

/-- `ConversationStateBridgeConfig`, as far as it is read here. -/
structure ConversationStateBridgeConfig where
  ttlSeconds : Nat
  maxBytes : Nat
  deriving DecidableEq, Repr

/-- `BridgeCaptureCandidate`. -/
structure BridgeCaptureCandidate where
  namespaceName : String
  ownerHash : String
  clientModel : String
  resolvedModel : ResolvedModel
  routeConfigFingerprint : BridgeRouteConfigFingerprint
  requestItems : List Value
  ttlSeconds : Nat
  maxBytes : Nat
  localResponseId : Option String
  deriving DecidableEq, Repr

/-- `ConversationStateBridgeDebugTrace`, by its two constructors used here. -/
inductive BridgeDebugTrace where
  | captureCandidate (requestItemCount maxBytes : Nat)
  | replayHit (storedItemCount currentItemCount expandedItemCount : Nat)
  deriving DecidableEq, Repr

/-- `BridgePreparation`. -/
structure BridgePreparation where
  captureCandidate : Option BridgeCaptureCandidate
  debugTrace : Option BridgeDebugTrace
  deriving DecidableEq, Repr

/-- `BridgePreparation::default`. -/
def BridgePreparation.default : BridgePreparation := ⟨none, none⟩

/-- The arguments of `prepare_conversation_state_bridge` apart from the stored response. `uuid` is
what minting a local response id draws. -/
structure BridgeTurn where
  config : ConversationStateBridgeConfig
  namespaceName : String
  ownerHash : String
  clientFormat : UpstreamFormat
  upstreamFormat : UpstreamFormat
  stream : Bool
  requestedModel : String
  resolvedModel : ResolvedModel
  routeConfigFingerprint : BridgeRouteConfigFingerprint
  body : Value
  uuid : String

/-- `provider_state_control_enabled`. -/
def providerStateControlEnabled : Option Value → Bool
  | none | some .null | some (.bool false) => false
  | _ => true

/-- `remove_local_bridge_state_controls`. -/
def removeLocalBridgeStateControls (body : Value) : Value :=
  (body.remove "previous_response_id").remove "store"

/-- `set_responses_input_items`. -/
def setResponsesInputItems (body : Value) (items : List Value) : Except String Value :=
  if body.isObject then pure (body.set "input" (.array items))
  else throw "OpenAI Responses request body must be a JSON object"

/-- `responses_store_requires_native_responses_message`. -/
def responsesStoreRequiresNativeResponsesMessage (upstreamFormat : UpstreamFormat) : String :=
  s!"Responses request control `store` requires a native OpenAI Responses upstream and cannot be " ++
    s!"translated to {upstreamFormat.display}; the proxy does not reconstruct provider state"

namespace BridgeTurn

/-- The end of `prepare_conversation_state_bridge`: a turn that may be captured becomes a
candidate. -/
def candidate (turn : BridgeTurn) (requestItems : List Value)
    (debugTrace : Option BridgeDebugTrace) : BridgePreparation :=
  if turn.body.get "store" = some .null ∨ turn.body.get "store" = some (.bool false) then
    ⟨none, debugTrace⟩
  else
    ⟨some ⟨turn.namespaceName, turn.ownerHash, turn.requestedModel, turn.resolvedModel,
      turn.routeConfigFingerprint, requestItems, turn.config.ttlSeconds, turn.config.maxBytes,
      if turn.stream then some (mintResponseId turn.uuid) else none⟩,
      debugTrace.or (some (.captureCandidate requestItems.length turn.config.maxBytes))⟩

/-- `prepare_conversation_state_bridge` (`server/proxy.rs` 2271-2372): what becomes of the turn, and
the body to send on. -/
def prepare (turn : BridgeTurn) (preloaded : Option StoredBridgeResponse) :
    Except String (BridgePreparation × Value) :=
  let body := turn.body
  -- a native upstream keeps its own state, and other clients have none
  if turn.clientFormat ≠ .openAiResponses ∨ turn.upstreamFormat = .openAiResponses then
    pure (.default, body)
  else if providerStateControlEnabled (body.get "store") then
    throw (responsesStoreRequiresNativeResponsesMessage turn.upstreamFormat)
  else if turn.stream ∧ preloaded.isSome then
    throw ("conversation_state_bridge currently supports local `previous_response_id` replay " ++
      "only for non-streaming OpenAI Responses translation")
  else
    match preloaded with
    | some previous => do
        let currentItems ← responsesBridgeContinuationItemsFromBody body
        validateBridgeContinuationItems previous.transcriptItems currentItems
        let expanded := previous.transcriptItems ++ currentItems
        let body ← setResponsesInputItems body expanded
        pure (turn.candidate expanded (some (.replayHit previous.transcriptItems.length
          currentItems.length expanded.length)), removeLocalBridgeStateControls body)
    | none =>
        -- an id that is not ours goes on as it is, for the assessment to refuse
        if (body.get "previous_response_id").isSome then pure (.default, body)
        else
          match responsesBridgeInputItemsFromBody body with
          | .ok items =>
              -- outputs without their calls cannot be stored as a transcript; the turn itself goes
              -- on
              if bridgeItemsIncludeToolOutput items then
                pure (.default, removeLocalBridgeStateControls body)
              else pure (turn.candidate items none, removeLocalBridgeStateControls body)
          -- what cannot be captured is no reason to refuse the turn
          | .error _ => pure (.default, removeLocalBridgeStateControls body)

end BridgeTurn

def captureEntry (now : Nat) (candidate : BridgeCaptureCandidate) (outputItems : List Value) :
    StoredBridgeResponse :=
  .new now candidate.namespaceName candidate.ownerHash candidate.clientModel
    candidate.resolvedModel candidate.routeConfigFingerprint
    (candidate.requestItems ++ outputItems)

/-- The put at the end of a capture: under the id minted for a stream, or under a fresh one. -/
def putCapture (inner : StoreInner) (now : Nat) (uuid : String)
    (candidate : BridgeCaptureCandidate) (outputItems : List Value) :
    Except String String × StoreInner :=
  match candidate.localResponseId with
  | some localResponseId =>
      inner.putWithId now localResponseId (captureEntry now candidate outputItems)
        candidate.ttlSeconds candidate.maxBytes
  | none =>
      inner.put now uuid (captureEntry now candidate outputItems) candidate.ttlSeconds
        candidate.maxBytes

/-- `commit_conversation_state_bridge_capture` (`server/proxy.rs` 2849-2884): the stored id or the
reason for storing nothing, the response with its new id, and the store. -/
def commitConversationStateBridgeCapture (serde : Serde) (inner : StoreInner) (now : Nat)
    (uuid : String) (candidate : BridgeCaptureCandidate) (response : Value) :
    Except String (Option String) × Value × StoreInner :=
  if response.getStr "status" ≠ some "completed" then (.ok none, response, inner)
  else
    match responsesBridgeOutputItemsFromResponse serde response with
    | .error error => (.error error, response, inner)
    | .ok outputItems =>
        if outputItems.isEmpty ∧ candidate.localResponseId.isNone then (.ok none, response, inner)
        else
          match putCapture inner now uuid candidate outputItems with
          | (.error error, inner) => (.error error, response, inner)
          | (.ok localId, inner) =>
              (.ok (some localId),
                if response.isObject then response.set "id" (.string localId) else response, inner)

/-! ## Interleaved turns -/

/-- The store, and the turns whose upstream has not answered yet. -/
structure BridgeState where
  store : StoreInner
  candidates : List BridgeCaptureCandidate

/-- `prepare` starts a turn; with a `previousResponseId` the stored response is loaded first. A
turn may be given up between the two, or when preparing fails. -/
inductive BridgeEvent where
  | prepare (now : Nat) (turn : BridgeTurn) (previousResponseId : Option String)
  | commit (now : Nat) (uuid : String) (candidate : BridgeCaptureCandidate) (response : Value)

/-- `preload_local_bridge_response` (`server/proxy.rs` 2247-2268), for a turn that has a previous
response to load. -/
def preload (store : StoreInner) (now : Nat) (turn : BridgeTurn)
    (previousResponseId : Option String) :
    Except String (Option StoredBridgeResponse) × StoreInner :=
  match previousResponseId with
  | none => (.ok none, store)
  | some responseId =>
      if localResponseIdPrefix.toList.isPrefixOf responseId.toList then
        match store.get now responseId turn.namespaceName turn.ownerHash with
        | (.ok entry, store) => (.ok (some entry), store)
        | (.error error, store) => (.error (error.publicMessage responseId), store)
      else
        (.error (s!"Responses `previous_response_id` `{responseId}` is not an llmup local " ++
          "conversation_state_bridge id"), store)

def BridgeState.after (serde : Serde) (s : BridgeState) : BridgeEvent → BridgeState
  | .prepare now turn previousResponseId =>
      let (loaded, store) := preload s.store now turn previousResponseId
      match loaded with
      | .error _ => ⟨store, s.candidates⟩
      | .ok preloaded =>
          match turn.prepare preloaded with
          | .error _ => ⟨store, s.candidates⟩
          | .ok (preparation, _) => ⟨store, s.candidates ++ preparation.captureCandidate.toList⟩
  | .commit now uuid candidate response =>
      let (_, _, store) :=
        commitConversationStateBridgeCapture serde s.store now uuid candidate response
      ⟨store, s.candidates.erase candidate⟩

/-- An answer belongs to a turn that is waiting for it. -/
inductive BridgeStep (serde : Serde) : BridgeState → BridgeEvent → BridgeState → Prop
  | prepare (s : BridgeState) (now : Nat) (turn : BridgeTurn)
      (previousResponseId : Option String) :
      BridgeStep serde s (.prepare now turn previousResponseId)
        (s.after serde (.prepare now turn previousResponseId))
  | commit (s : BridgeState) (now : Nat) (uuid : String) (candidate : BridgeCaptureCandidate)
      (response : Value) : candidate ∈ s.candidates →
      BridgeStep serde s (.commit now uuid candidate response)
        (s.after serde (.commit now uuid candidate response))

/-- Before the first turn. -/
def BridgeState.initial : BridgeState := ⟨.empty, []⟩

end LlmUniversalProxy.Server
