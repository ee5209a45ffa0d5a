import LlmUniversalProxy.Streaming.BridgeContext
import LlmUniversalProxy.Streaming.Events
import LlmUniversalProxy.Streaming.Said
import LlmUniversalProxy.Streaming.TerminalEvents

/-!
# `Streaming.CallDeltas` — one tool call, as far as the sink for Responses has got with it

A call of a completion comes in pieces: the first delta names it, the others bring its arguments.
What the sink does with a piece hangs on what it remembers of the call: whether it has become one of
a custom tool, its payload, and whether the client has been told of it (`openai_sink.rs` 1135-1457).
`CallSoFar` is just that, with `feed` for a piece and `flush` for the end, and the lemmas show that
the sink's entry for the call follows it.

The state is to have no other call in it (`Holds`). What several calls have to do with each other is
the subject of `Streaming.ResponsesCalls`. A delta with the marker for calls that must not be
replayed is left out as well: the marker is the proxy's own, and what becomes of one is told in
`Streaming.NonReplayableCalls`.
-/

set_option autoImplicit false

namespace LlmUniversalProxy.Streaming

open Json Lib Translate

/-! ## A call, as far as it has come -/

/-- Whether the call is of a custom tool, its arguments or its input, and whether the client has
been told of it. -/
structure CallSoFar where
  custom : Bool := false
  payload : String := ""
  added : Bool := false
  deriving DecidableEq

namespace CallSoFar

/-- The client is told of the call, unless its arguments are still to be taken out of a wrapper
that cannot be read yet. -/
def flush (decode : String → Option String) (wrapped finalize : Bool) (call : CallSoFar) :
    CallSoFar :=
  if call.added then call
  else if wrapped then
    match decode call.payload with
    | some input => ⟨true, input, true⟩
    | none => { call with added := finalize }
  else { call with added := true }

/-- A further piece of the arguments. -/
def feed (decode : String → Option String) (wrapped : Bool) (call : CallSoFar) (piece : String) :
    CallSoFar := flush decode wrapped false { call with payload := call.payload ++ piece }

end CallSoFar

/-- What the state has of a call with this id, and this name as the client knows it. -/
structure IsSoFar (entry : ToolCallState) (id name : String) (namespaceName : Option String)
    (call : CallSoFar) : Prop where
  id : entry.id = some (.string id)
  name : entry.name = name
  namespaceName : entry.namespaceName = namespaceName
  noKind : entry.proxiedToolKind = none
  unmarked : entry.nonReplayableMarker = none
  toolType : entry.toolType = some (if call.custom then "custom" else "function")
  arguments : entry.arguments = call.payload
  added : entry.responsesItemAdded = call.added

/-- The one call of a state. -/
def Holds (s : StreamState) (index : Nat) (entry : Option ToolCallState) : Prop :=
  ∀ k, s.openaiToolCalls.lookup k = if k = index then entry else none

namespace Holds

variable {s s' : StreamState} {index : Nat} {entry : Option ToolCallState}

theorem self (h : Holds s index entry) : s.openaiToolCalls.lookup index = entry := by
  rw [h index, if_pos rfl]

theorem congr (h : Holds s index entry) (hcalls : s'.openaiToolCalls = s.openaiToolCalls) :
    Holds s' index entry := by
  intro k
  rw [hcalls]
  exact h k

/-- The entry is put in the place of the one that was there. -/
theorem insert (h : Holds s index entry) (e : ToolCallState)
    (hcalls : s'.openaiToolCalls = s.openaiToolCalls.insert index e) : Holds s' index (some e) := by
  intro k
  rw [hcalls, FinMap.lookup_insert_eq]
  by_cases hk : k = index
  · rw [if_pos hk, if_pos hk]
  · rw [if_neg hk, if_neg hk, h k, if_neg hk]

theorem keys (h : Holds s index entry) :
    s.openaiToolCalls.keys = if entry.isSome then [index] else [] := by
  have hmem : ∀ k, k ∈ s.openaiToolCalls.keys ↔ k = index ∧ entry.isSome = true := by
    intro k
    rw [← AList.mem_keys, ← AList.lookup_isSome, h k]
    by_cases hk : k = index
    · simp [hk]
    · simp [hk]
  cases entry with
  | none => exact List.eq_nil_iff_forall_not_mem.mpr fun k hk => by simpa using (hmem k).mp hk
  | some e =>
    have hperm : s.openaiToolCalls.keys.Perm [index] :=
      (List.perm_ext_iff_of_nodup (AList.keys_nodup _) (List.nodup_singleton _)).mpr fun k => by
        rw [hmem k]
        simp
    exact List.perm_singleton.mp hperm

theorem sortedKeys (h : Holds s index entry) :
    sortedKeys s.openaiToolCalls = if entry.isSome then [index] else [] := by
  unfold Streaming.sortedKeys
  rw [h.keys]
  split
  · exact List.mergeSort_singleton _
  · exact List.mergeSort_nil

theorem hashWalk (env : Env) (h : Holds s index entry) :
    hashWalk env s.openaiToolCalls = (entry.map fun e => (index, e)).toList := by
  unfold Streaming.hashWalk
  have hperm := env.hashOrder_perm s.openaiToolCalls.keys
  rw [h.keys] at hperm
  cases entry with
  | none => rw [h.keys, List.perm_nil.mp hperm]; rfl
  | some e =>
    rw [h.keys, List.perm_singleton.mp hperm]
    simp [h.self]

end Holds

/-! ## One delta -/

section

variable (env : Env) {index : Nat} {id name : String} {namespaceName : Option String}
  {call : CallSoFar}

theorem holds_toolIndex {s : StreamState} {entry : Option ToolCallState}
    (h : Holds s index entry) : ∃ place, Holds (responsesToolOutputIndex s index).2 index
      (some { entry.getD { index := index } with blockIndex := place }) := by
  unfold responsesToolOutputIndex
  rw [h.self]
  cases hplace : entry.bind ToolCallState.blockIndex with
  | some place =>
    dsimp only
    obtain ⟨e, rfl, hplace⟩ := Option.bind_eq_some_iff.mp hplace
    refine ⟨some place, ?_⟩
    rw [Option.getD_some, ← hplace]
    exact h
  | none =>
    refine ⟨some s.responsesNextOutputIndex, h.insert _ ?_⟩
    dsimp only [reserveResponsesOutputIndex, updateEntry]
    rw [h.self]

theorem IsSoFar.place {e : ToolCallState} (h : IsSoFar e id name namespaceName call)
    (place : Option Nat) : IsSoFar { e with blockIndex := place } id name namespaceName call :=
  ⟨h.id, h.name, h.namespaceName, h.noKind, h.unmarked, h.toolType, h.arguments, h.added⟩

/-- Whether a call with this name, and in this namespace, is expected to have its input wrapped. -/
def wrapsCall (bridgeContext : Option Value) (namespaceName : Option String) (name : String) :
    Bool :=
  namespaceName.isNone && requestScopedCustomBridgeExpectsWrapperStream bridgeContext name

theorem notMarked {e : ToolCallState} (h : IsSoFar e id name namespaceName call) :
    e.markedNonReplayable env = false := by
  unfold ToolCallState.markedNonReplayable
  rw [h.unmarked]
  rfl

theorem resolved {s : StreamState} {e : ToolCallState} (h : IsSoFar e id name namespaceName call)
    (hopen : call.added = false) (hfunction : call.custom = false) (finalize : Bool) :
    match resolvedToolCall env s finalize e with
    | none => call.flush (openaiCustomBridgeDecodeArgumentsStream env.serde)
        (wrapsCall s.requestScopedToolBridgeContext namespaceName name) finalize = call
    | some e' => ∀ itemId, IsSoFar { e' with responsesItemAdded := true, responsesItemId := itemId }
        id name namespaceName (call.flush (openaiCustomBridgeDecodeArgumentsStream env.serde)
          (wrapsCall s.requestScopedToolBridgeContext namespaceName name) finalize) := by
  have htype : toolCallStateType e = "function" := by
    rw [toolCallStateType, h.toolType, hfunction]
    rfl
  have hcondition : (toolCallStateType e ≠ "custom" ∧ e.proxiedToolKind.isNone ∧
      e.namespaceName.isNone ∧ requestScopedCustomBridgeExpectsWrapperStream
        s.requestScopedToolBridgeContext e.name) ↔
      wrapsCall s.requestScopedToolBridgeContext namespaceName name = true := by
    rw [htype, h.noKind, h.namespaceName, h.name, wrapsCall]
    simp
  have hclosed : ¬ call.added = true := by simp [hopen]
  unfold resolvedToolCall decodedWrapper CallSoFar.flush
  rw [if_neg hclosed]
  by_cases hwraps : wrapsCall s.requestScopedToolBridgeContext namespaceName name = true
  · rw [if_pos (hcondition.mpr hwraps), if_pos hwraps, h.arguments]
    cases openaiCustomBridgeDecodeArgumentsStream env.serde call.payload with
    | some input =>
      intro itemId
      exact ⟨h.id, h.name, h.namespaceName, h.noKind, h.unmarked, rfl, rfl, rfl⟩
    | none =>
      cases finalize with
      | false =>
        simp only [Bool.false_eq_true, if_false]
        exact congrArg (CallSoFar.mk call.custom call.payload) hopen.symm
      | true =>
        simp only [if_true]
        intro itemId
        exact ⟨h.id, h.name, h.namespaceName, h.noKind, h.unmarked, h.toolType, h.arguments, rfl⟩
  · rw [if_neg (mt hcondition.mp hwraps), if_neg hwraps]
    intro itemId
    exact ⟨h.id, h.name, h.namespaceName, h.noKind, h.unmarked, h.toolType, h.arguments, rfl⟩

/-- The one call of the state has come as far as this, if it has come at all. -/
def HoldsCall (s : StreamState) (index : Nat) (id name : String) (namespaceName : Option String)
    (call : CallSoFar) : Prop :=
  ∃ e, Holds s index (some e) ∧ IsSoFar e id name namespaceName call ∧
    (call.added = false → call.custom = false)

theorem HoldsCall.congr {s s' : StreamState}
    (h : HoldsCall s index id name namespaceName call)
    (hcalls : s'.openaiToolCalls = s.openaiToolCalls) :
    HoldsCall s' index id name namespaceName call := by
  obtain ⟨e, he, hcall, hfunction⟩ := h
  exact ⟨e, he.congr hcalls, hcall, hfunction⟩

theorem CallSoFar.function_flush (decode : String → Option String) (wrapped finalize : Bool)
    (h : call.added = false → call.custom = false) :
    (call.flush decode wrapped finalize).added = false →
      (call.flush decode wrapped finalize).custom = false := by
  unfold CallSoFar.flush
  split
  · exact h
  · next hopen =>
    split
    · split
      · exact fun hadded => (nomatch hadded)
      · exact fun _ => h (by simpa using hopen)
    · exact fun hadded => (nomatch hadded)

/-- `flush_pending_responses_tool_call`, of the one call. -/
theorem HoldsCall.flush {k : Sink} (h : HoldsCall k.state index id name namespaceName call)
    (responseId : String) (finalize : Bool) :
    HoldsCall (flushPendingResponsesToolCall env responseId finalize k index).state index id name
      namespaceName (call.flush (openaiCustomBridgeDecodeArgumentsStream env.serde)
        (wrapsCall k.state.requestScopedToolBridgeContext namespaceName name) finalize) := by
  obtain ⟨e, he, hcall, hfunction⟩ := h
  obtain ⟨place, hplaced⟩ := holds_toolIndex he
  have hsteady := steady_toolIndex k.state index
  unfold flushPendingResponsesToolCall
  generalize responsesToolOutputIndex k.state index = placed at hsteady hplaced ⊢
  obtain ⟨outputIndex, state⟩ := placed
  have hcall := hcall.place place
  rw [Option.getD_some] at hplaced
  generalize { e with blockIndex := place } = e at hplaced hcall
  dsimp only at hsteady hplaced ⊢
  rw [hplaced.self, ← hsteady.context]
  dsimp only
  by_cases hadded : call.added = true
  · rw [if_pos (.inl (hcall.added.trans hadded))]
    refine ⟨e, hplaced, ?_⟩
    unfold CallSoFar.flush
    rw [if_pos hadded]
    exact ⟨hcall, hfunction⟩
  · have hopen : call.added = false := by simpa using hadded
    rw [if_neg (by simp [hcall.added, hopen, hcall.id, notMarked env hcall])]
    have hresolved := resolved env (s := state) hcall hopen (hfunction hopen) finalize
    cases hentry : resolvedToolCall env state finalize e with
    | none =>
      rw [hentry] at hresolved
      dsimp only at hresolved ⊢
      rw [hresolved]
      exact ⟨e, hplaced, hcall, hfunction⟩
    | some e' =>
      rw [hentry] at hresolved
      dsimp only at hresolved ⊢
      generalize (e'.id.bind Value.asStr).getD "" = callId
      have hcall := hresolved (some s!"fc_{callId}")
      generalize { e' with responsesItemAdded := true, responsesItemId := some s!"fc_{callId}" } =
        added at hcall ⊢
      -- The events come last, and leave the state of the call as it is.
      have hevents : ∀ (event : ResponsesToolCallEvent) (delta : String) (k₁ : Sink),
          Untouched k₁.state (emitResponsesToolCallDelta event delta
            (emitResponsesToolCallItemAdded event k₁)).state :=
        fun event delta k₁ => ((narrates_toolCallAdded rfl k₁).trans
          (narrates_toolCallDelta rfl delta _)).kept
      have hinserted : Holds { state with
          openaiToolCalls := state.openaiToolCalls.insert index added } index (some added) :=
        hplaced.insert added rfl
      exact ⟨added, hinserted.congr (hevents _ _ { k with state := { state with
        openaiToolCalls := state.openaiToolCalls.insert index added } }).calls, hcall,
        CallSoFar.function_flush _ _ finalize hfunction⟩

/-- `flush` leaves a call alone that has been added. -/
theorem CallSoFar.flush_added (decode : String → Option String) (wrapped finalize : Bool)
    (h : call.added = true) : call.flush decode wrapped finalize = call := by
  unfold CallSoFar.flush
  rw [if_pos h]

theorem CallSoFar.added_flush (decode : String → Option String) (wrapped : Bool)
    (call : CallSoFar) : (call.flush decode wrapped true).added = true := by
  unfold CallSoFar.flush
  split
  · assumption
  · split
    · split
      · rfl
      · rfl
    · rfl

/-- A delta of the one call, or the first one: what it adds to the entry is fed to the call. -/
theorem holdsCall_delta {k : Sink} {entry : Option ToolCallState} {tc : Value} {piece : String}
    (h : Holds k.state index entry) (hindex : responsesToolCallIndex tc = index)
    (hbefore : (entry.getD { index := index }).responsesItemAdded = call.added)
    (hfunction : call.added = false → call.custom = false)
    (hmerge : ∀ s place, s.requestScopedToolBridgeContext = k.state.requestScopedToolBridgeContext →
      IsSoFar (mergeToolCall s tc { entry.getD { index := index } with blockIndex := place }) id
        name namespaceName { call with payload := call.payload ++ piece }) (responseId : String) :
    HoldsCall (toolCallResponses env responseId tc k).state index id name namespaceName
      (call.feed (openaiCustomBridgeDecodeArgumentsStream env.serde)
        (wrapsCall k.state.requestScopedToolBridgeContext namespaceName name) piece) := by
  obtain ⟨place, hplaced⟩ := holds_toolIndex h
  have hsteady := steady_toolIndex k.state index
  unfold toolCallResponses
  dsimp only
  rw [hindex]
  generalize responsesToolOutputIndex k.state index = placed at hsteady hplaced ⊢
  obtain ⟨outputIndex, state⟩ := placed
  dsimp only at hsteady hplaced ⊢
  have hmerged := hmerge state place hsteady.context
  rw [hplaced.self, Option.getD_some]
  have hadded : ({ entry.getD { index := index } with blockIndex := place } :
      ToolCallState).responsesItemAdded = call.added := hbefore
  generalize { entry.getD { index := index } with blockIndex := place } = before
    at hmerged hadded ⊢
  generalize mergeToolCall state tc before = merged at hmerged ⊢
  have hinserted : Holds { state with
      openaiToolCalls := state.openaiToolCalls.insert index merged } index (some merged) :=
    hplaced.insert merged rfl
  have hheld : HoldsCall { state with
      openaiToolCalls := state.openaiToolCalls.insert index merged } index id name namespaceName
      { call with payload := call.payload ++ piece } := ⟨merged, hinserted, hmerged, hfunction⟩
  rw [notMarked env hmerged, hadded, hmerged.id]
  unfold CallSoFar.feed
  rw [← hsteady.context]
  -- a call that has been added tells the piece as it comes, another one may be added now
  by_cases hopen : call.added = true
  · have hsame := (@narrates_toolCallDelta responseId ⟨responseId, outputIndex,
      ((some (Value.string id)).bind Value.asStr).getD "", merged.name, toolCallStateType merged,
      merged.proxiedToolKind, merged.namespaceName⟩ rfl
      ((toolCallFunctionField tc "arguments").getD "") { k with state := { state with
        openaiToolCalls := state.openaiToolCalls.insert index merged } }).kept
    have hfed : CallSoFar.flush (openaiCustomBridgeDecodeArgumentsStream env.serde)
        (wrapsCall state.requestScopedToolBridgeContext namespaceName name) false
        { call with payload := call.payload ++ piece } =
        { call with payload := call.payload ++ piece } := CallSoFar.flush_added _ _ false hopen
    rw [hfed]
    have hheld := hheld.congr hsame.calls
    simp only [hopen, Bool.not_true, Bool.false_and, Bool.false_eq_true, if_false, if_true]
      at hheld ⊢
    exact hheld
  · have hcall := HoldsCall.flush env (k := { k with state := { state with
      openaiToolCalls := state.openaiToolCalls.insert index merged } }) hheld responseId false
    simp only [hopen, Bool.not_false, Option.isSome_some, Bool.and_true, Bool.false_eq_true,
      if_false, if_true] at hcall ⊢
    exact hcall

end

/-! ## The pieces of the arguments -/

/-- A further delta of a call: a piece of its arguments, and nothing else. -/
structure ArgumentsDelta (tc : Value) (index : Nat) (piece : String) : Prop where
  index : tc.getU64 "index" = some index
  id : tc.get "id" = none
  type : tc.get "type" = none
  noKind : tc.getStr "proxied_tool_kind" = none
  unmarked : tc.get internalNonReplayableToolCallField = none
  functionName : toolCallFunctionField tc "name" = none
  arguments : (toolCallFunctionField tc "arguments").getD "" = piece

/-- The tool-call deltas of a chunk, on top of the pieces before them. -/
inductive TellsPieces (index : Nat) (id name : String) :
    List String → List Value → List String → Prop
  | nil {pieces : List String} : TellsPieces index id name pieces [] pieces
  | starts {pieces : List String} {tc : Value} {tcs : List Value} {piece : String}
      (hstart : StartsCall tc index ⟨id, name, piece⟩)
      (hunmarked : tc.get internalNonReplayableToolCallField = none)
      (hrest : TellsPieces index id name [piece] tcs pieces) :
      TellsPieces index id name [] (tc :: tcs) pieces
  | continues {before pieces : List String} {tc : Value} {tcs : List Value} {piece : String}
      (hbefore : before ≠ []) (hpiece : ArgumentsDelta tc index piece)
      (hrest : TellsPieces index id name (before ++ [piece]) tcs pieces) :
      TellsPieces index id name before (tc :: tcs) pieces

section

variable (env : Env) {index : Nat} {id name : String}

/-- The name that the client knows a call by, behind its namespace. -/
def clientName (bridgeContext : Option Value) (name : String) : Option String × String :=
  match requestScopedNamespaceBridgeLookupStream bridgeContext name with
  | some (ns, child) => (some ns, child)
  | none => (none, name)

theorem isSoFar_starts {s : StreamState} {tc : Value} {piece : String}
    (h : StartsCall tc index ⟨id, name, piece⟩)
    (hunmarked : tc.get internalNonReplayableToolCallField = none) (place : Option Nat) :
    IsSoFar (mergeToolCall s tc { index := index, blockIndex := place }) id
      (clientName s.requestScopedToolBridgeContext name).2
      (clientName s.requestScopedToolBridgeContext name).1 { payload := "" ++ piece } := by
  have hname : toolCallFunctionField tc "name" = some name := h.functionName
  have harguments : (toolCallFunctionField tc "arguments").getD "" = piece := h.arguments
  have htype : openaiStreamToolCallType tc = "function" := by
    unfold openaiStreamToolCallType
    rw [h.type]
    rfl
  unfold mergeToolCall mergeToolCallName clientName
  rw [hname, harguments, htype, hunmarked, h.id, h.kind]
  dsimp only [Option.isSome_none, Bool.false_eq_true, if_false]
  cases requestScopedNamespaceBridgeLookupStream s.requestScopedToolBridgeContext name with
  | none => exact ⟨rfl, rfl, rfl, rfl, rfl, rfl, rfl, rfl⟩
  | some pair => exact ⟨rfl, rfl, rfl, rfl, rfl, rfl, rfl, rfl⟩

theorem isSoFar_continues {s : StreamState} {tc : Value} {piece : String} {e : ToolCallState}
    {namespaceName : Option String} {call : CallSoFar} (h : IsSoFar e id name namespaceName call)
    (hpiece : ArgumentsDelta tc index piece) :
    IsSoFar (mergeToolCall s tc e) id name namespaceName
      { call with payload := call.payload ++ piece } := by
  unfold mergeToolCall mergeToolCallName
  rw [hpiece.functionName, hpiece.arguments, hpiece.id, hpiece.type, hpiece.noKind,
    hpiece.unmarked, h.toolType]
  refine ⟨h.id, h.name, h.namespaceName, h.noKind, h.unmarked, rfl, ?_, h.added⟩
  exact congrArg (· ++ piece) h.arguments

theorem dedupe_holds {s : StreamState} {entry : Option ToolCallState} (h : Holds s index entry)
    (incomingId : Option Value) :
    dedupeToolCallStateByCallId env s.openaiToolCalls index incomingId = s.openaiToolCalls := by
  have hnone : ∀ id, existingToolCallKey env s.openaiToolCalls index id = none := by
    intro id
    unfold existingToolCallKey
    rw [h.hashWalk env]
    cases entry with
    | none => rfl
    | some e => simp
  unfold dedupeToolCallStateByCallId
  cases incomingId with
  | none => rfl
  | some id => rw [Option.bind_some, hnone]

/-- What the state holds after some pieces. -/
def HoldsPieces (s : StreamState) (index : Nat) (id name : String) (pieces : List String) : Prop :=
  if pieces = [] then Holds s index none
  else
    let client := clientName s.requestScopedToolBridgeContext name
    HoldsCall s index id client.2 client.1
      (pieces.foldl (CallSoFar.feed (openaiCustomBridgeDecodeArgumentsStream env.serde)
        (wrapsCall s.requestScopedToolBridgeContext client.1 client.2)) {})

theorem HoldsPieces.congr {s s' : StreamState} {pieces : List String}
    (h : HoldsPieces env s index id name pieces)
    (hcalls : s'.openaiToolCalls = s.openaiToolCalls)
    (hcontext : s'.requestScopedToolBridgeContext = s.requestScopedToolBridgeContext) :
    HoldsPieces env s' index id name pieces := by
  unfold HoldsPieces at h ⊢
  rw [hcontext]
  split
  · next hempty =>
    rw [if_pos hempty] at h
    exact Holds.congr h hcalls
  · next hpieces =>
    rw [if_neg hpieces] at h
    exact HoldsCall.congr h hcalls

/-- One round of the loop, for a delta that is of the one call. -/
theorem toolCallsResponses_cons {c : ResponsesChunk} {k : Sink} {entry : Option ToolCallState}
    (h : Holds k.state index entry) {tc : Value} (hindex : responsesToolCallIndex tc = index)
    (hname : (toolCallFunctionField tc "name").map validatePublicToolNameNotReserved = none ∨
      (toolCallFunctionField tc "name").map validatePublicToolNameNotReserved = some (.ok ()))
    (tcs : List Value) :
    toolCallsResponses env c (tc :: tcs) k =
      toolCallsResponses env c tcs (toolCallResponses env c.responseId tc k) := by
  have hdedupe : (k.update fun s => { s with
      openaiToolCalls := dedupeToolCallStateByCallId env s.openaiToolCalls index (tc.get "id") }) =
      k := by
    unfold Sink.update
    dsimp only
    rw [dedupe_holds env h]
  rw [toolCallsResponses, hindex, hdedupe]
  rcases hname with hname | hname
  · rw [hname]
  · rw [hname]

/-- The deltas of a chunk. -/
theorem HoldsPieces.toolCalls (hname : openaiResponsesCustomToolBridgePrefixIsReserved name = false)
    {before pieces : List String} {tcs : List Value} (h : TellsPieces index id name before tcs pieces)
    (c : ResponsesChunk) (k : Sink) (hk : HoldsPieces env k.state index id name before) :
    ∃ k', toolCallsResponses env c tcs k = .ok k' ∧
      HoldsPieces env k'.state index id name pieces := by
  induction h generalizing k with
  | nil => exact ⟨k, rfl, hk⟩
  | @starts pieces tc tcs piece hstart hunmarked _ ih =>
    have hholds : Holds k.state index none := by
      unfold HoldsPieces at hk
      rw [if_pos rfl] at hk
      exact hk
    have hindex : responsesToolCallIndex tc = index := by
      rw [responsesToolCallIndex, hstart.index]
      rfl
    have hplain : toolCallFunctionField tc "name" = some name := hstart.functionName
    rw [toolCallsResponses_cons env hholds hindex
      (.inr (by rw [hplain, Option.map_some, nameNotReserved_ok.mpr hname]))]
    have hcall := holdsCall_delta env hholds hindex
      (show _ = ({} : CallSoFar).added from rfl) (fun _ => rfl)
      (fun s place hcontext => hcontext ▸ isSoFar_starts hstart hunmarked place) c.responseId
    exact ih (toolCallResponses env c.responseId tc k) (by
      unfold HoldsPieces
      rw [if_neg (List.cons_ne_nil _ _), (continues_toolCall env c.responseId tc k).kept.context]
      exact hcall)
  | @continues before pieces tc tcs piece hbefore hpiece _ ih =>
    have hindex : responsesToolCallIndex tc = index := by
      rw [responsesToolCallIndex, hpiece.index]
      rfl
    unfold HoldsPieces at hk
    rw [if_neg hbefore] at hk
    obtain ⟨e, he, hcall, hfunction⟩ := hk
    rw [toolCallsResponses_cons env he hindex (.inl (by rw [hpiece.functionName]; rfl))]
    have hcall := holdsCall_delta env he hindex hcall.added hfunction
      (fun s place _ => isSoFar_continues (hcall.place place) hpiece) c.responseId
    exact ih (toolCallResponses env c.responseId tc k) (by
      unfold HoldsPieces
      rw [if_neg (by simp), (continues_toolCall env c.responseId tc k).kept.context]
      dsimp only
      rw [List.foldl_append]
      exact hcall)

end

/-! ## The end of the call -/

section

variable (env : Env) {index : Nat} {id name : String} {namespaceName : Option String}
  {call : CallSoFar}

theorem HoldsCall.flushAll {k : Sink} (h : HoldsCall k.state index id name namespaceName call)
    (responseId : String) (finalize : Bool) :
    HoldsCall (flushPendingResponsesToolCalls env responseId finalize k).state index id name
      namespaceName (call.flush (openaiCustomBridgeDecodeArgumentsStream env.serde)
        (wrapsCall k.state.requestScopedToolBridgeContext namespaceName name) finalize) := by
  have hflush := HoldsCall.flush env h responseId finalize
  obtain ⟨e, he, _⟩ := h
  unfold flushPendingResponsesToolCalls
  rw [he.sortedKeys]
  exact hflush

/-- The call is finished; no text is made of it. -/
theorem HoldsCall.pendingDone {k : Sink} (h : HoldsCall k.state index id name namespaceName call)
    (responseId : String) (context : TerminalContext) (includeDegraded : Bool) :
    let pending := emitPendingResponsesToolCallDoneEvents env responseId context includeDegraded k
    pending.1 = [] ∧ HoldsCall pending.2.state index id name namespaceName call := by
  obtain ⟨e, he, hcall, hfunction⟩ := h
  have hmarked := notMarked env hcall
  unfold emitPendingResponsesToolCallDoneEvents
  rw [he.sortedKeys]
  simp only [Option.isSome_some, if_true, List.foldl_cons, List.foldl_nil]
  unfold collectPendingDone
  simp only [he.self, hmarked, Bool.false_eq_true, if_false]
  have hdone : IsSoFar { e with responsesDone := true } id name namespaceName call :=
    ⟨hcall.id, hcall.name, hcall.namespaceName, hcall.noKind, hcall.unmarked, hcall.toolType,
      hcall.arguments, hcall.added⟩
  split
  · generalize { e with responsesDone := true } = finished at hdone ⊢
    have hfinished : Holds { k.state with
        openaiToolCalls := k.state.openaiToolCalls.insert index finished } index (some finished) :=
      he.insert finished rfl
    have hevents := fun dones => (Emits.foldl (narrates_toolCallDone env responseId context) dones
      { k with state := { k.state with
        openaiToolCalls := k.state.openaiToolCalls.insert index finished } }).kept.calls
    exact ⟨rfl, finished, hfinished.congr (hevents _), hdone, hfunction⟩
  · exact ⟨rfl, e, he.congr rfl, hcall, hfunction⟩

end

end LlmUniversalProxy.Streaming
