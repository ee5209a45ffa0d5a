import LlmUniversalProxy.Json.Extend
import LlmUniversalProxy.Streaming.CallDeltas

/-!
# `Streaming.CallChunks` — what a chunk comes to, when the stream has one tool call

The chunks of a completion are not all alike: before the finish reason a chunk only adds to the
call, and with it, or behind it, the response may end (`openai_chunk_to_responses_sse`,
`openai_sink.rs` 1459-1882). The state between two chunks is `Talking`, whatever else has been said.
A chunk leaves it so with its pieces fed to the call (`Talking.unfinished`), or the response
`Concludes` with the item that the call has become (`Talking.finishing`).

An item is compared by the fields that a client reads, `CallItem`. Its own id and its status are not
among them: the stream and the body number their items in their own ways.
-/

set_option autoImplicit false

namespace LlmUniversalProxy.Streaming

open Json Lib Translate

/-! ## The item of a call -/

/-- What a client reads in an item. -/
structure CallItem where
  type : Option Value
  callId : Option Value
  name : Option Value
  namespaceName : Option Value
  arguments : Option Value
  input : Option Value

def CallItem.of (item : Value) : CallItem :=
  ⟨item.get "type", item.get "call_id", item.get "name", item.get "namespace",
    item.get "arguments", item.get "input"⟩

/-- The item of a call of a function, or of a custom tool. -/
def callItem (id name : String) (namespaceName : Option String) (custom : Bool)
    (payload : String) : CallItem where
  type := some (.string (if custom then "custom_tool_call" else "function_call"))
  callId := some (.string id)
  name := some (.string name)
  namespaceName := namespaceName.map .string
  arguments := if custom then none else some (.string payload)
  input := if custom then some (.string payload) else none

def isClientCall (item : Value) : Bool :=
  item.getStr "type" = some "function_call" || item.getStr "type" = some "custom_tool_call"

theorem isClientCall_of {item : Value} {id name payload : String} {namespaceName : Option String}
    {custom : Bool} (h : CallItem.of item = callItem id name namespaceName custom payload) :
    isClientCall item = true := by
  have htype : item.get "type" =
      some (.string (if custom then "custom_tool_call" else "function_call")) :=
    congrArg CallItem.type h
  unfold isClientCall Value.getStr
  rw [htype]
  cases custom with
  | true => rfl
  | false => rfl

/-- The item in the stream. -/
theorem doneItem_eq (env : Env) {e : ToolCallState} {id name : String}
    {namespaceName : Option String} {call : CallSoFar}
    (h : IsSoFar e id name namespaceName call) :
    CallItem.of (doneItem env ⟨none, false⟩ (e.done id)) =
      callItem id name namespaceName call.custom call.payload := by
  have hfield : ∀ toolType arguments,
      nonReplayableField env name toolType arguments ⟨none, false⟩ = [] := by
    intro toolType arguments
    simp [nonReplayableField, toolCallShouldBeMarkedNonReplayable]
  unfold doneItem ToolCallState.done
  simp only [h.name, h.noKind, h.namespaceName, h.arguments, toolCallStateType, h.toolType,
    Option.getD_some, hfield]
  unfold CallItem.of toolCallItem toolCallExtras callItem responsesToolCallItemType
    responsesToolCallPayloadField
  cases call.custom with
  | true =>
    cases namespaceName with
    | none => simp [optionalField, List.lookup_cons]
    | some ns => simp [optionalField, List.lookup_cons]
  | false =>
    cases namespaceName with
    | none => simp [optionalField, List.lookup_cons]
    | some ns => simp [optionalField, List.lookup_cons]

/-- The items of a response's output that are calls, once it has ended. -/
def terminalCalls (frames : List SseFrame) : Option (List Value) :=
  frames.findSome? fun
    | .event eventType event =>
        if isTerminalType eventType then
          some ((((event.get "response").bind (Value.getArray · "output")).getD []).filter
            isClientCall)
        else none
    | _ => none

theorem terminalCalls_quiet {frames : List SseFrame} (h : ∀ f ∈ frames, f.isTerminal = false)
    (more : List SseFrame) : terminalCalls (frames ++ more) = terminalCalls more := by
  unfold terminalCalls
  rw [List.findSome?_append]
  have hnone : frames.findSome? (fun
    | .event eventType event =>
        if isTerminalType eventType then
          some ((((event.get "response").bind (Value.getArray · "output")).getD []).filter
            isClientCall)
        else none
    | _ => none) = none := by
    rw [List.findSome?_eq_none_iff]
    intro f hf
    have hquiet := h f hf
    cases f with
    | event eventType event =>
      have htype : isTerminalType eventType = false := hquiet
      simp [htype]
    | _ => rfl
  rw [hnone]
  rfl

theorem filter_terminalOutput (env : Env) {s : StreamState} {index : Nat} {id name : String}
    {namespaceName : Option String} {call : CallSoFar}
    (h : HoldsCall s index id name namespaceName call) (hmessages : CompletedAreMessages s)
    (carrier : Option String) :
    ∃ item, (terminalOutput env ⟨none, false⟩ carrier s).filter isClientCall = [item] ∧
      CallItem.of item = callItem id name namespaceName call.custom call.payload := by
  obtain ⟨e, he, hcall, _⟩ := h
  have hitem := doneItem_eq env hcall
  refine ⟨doneItem env ⟨none, false⟩ (e.done id), ?_, hitem⟩
  have hcalls : (((hashWalk env s.openaiToolCalls).map Prod.snd).mergeSort
      fun a b => a.index ≤ b.index).filterMap (terminalToolCallItem env ⟨none, false⟩) =
      [(e.blockIndex.getD e.index, doneItem env ⟨none, false⟩ (e.done id))] := by
    rw [he.hashWalk env]
    simp [terminalToolCallItem, notMarked env hcall, hcall.id, Value.asStr]
  have hreasoning : isClientCall (reasoningItem s carrier) = false := by
    unfold isClientCall reasoningItem
    rw [Value.getStr_ofFields]
    rfl
  have hnone : (s.responsesCompletedMessageItems.map fun message => message.item).filter
      isClientCall = [] := by
    rw [List.filter_eq_nil_iff]
    intro item hitem
    obtain ⟨message, hmessage, rfl⟩ := List.mem_map.mp hitem
    simp [isClientCall, hmessages message hmessage]
  unfold terminalOutput
  rw [hcalls]
  generalize hall : (if s.responsesReasoningAdded then
      [((responsesReasoningOutputIndex s).1, reasoningItem s carrier)] else []) ++
      (s.responsesCompletedMessageItems.map fun message => (message.outputIndex, message.item)) ++
      [(e.blockIndex.getD e.index, doneItem env ⟨none, false⟩ (e.done id))] = all
  have hfilter : (all.map Prod.snd).filter isClientCall =
      [doneItem env ⟨none, false⟩ (e.done id)] := by
    rw [← hall, List.map_append, List.map_append, List.map_map, List.filter_append,
      List.filter_append]
    have hmessages : (s.responsesCompletedMessageItems.map
        (Prod.snd ∘ fun message => (message.outputIndex, message.item))).filter isClientCall = [] :=
      hnone
    rw [hmessages]
    split
    · simp [hreasoning, isClientCall_of hitem]
    · simp [isClientCall_of hitem]
  have hperm := ((List.mergeSort_perm all fun a b => decide (a.1 ≤ b.1)).map Prod.snd).filter
    isClientCall
  rw [hfilter, ← hall] at hperm
  exact List.perm_singleton.mp hperm

/-- The frames end the response, and its one call is this. -/
def EndsWith (frames : List SseFrame) (item : CallItem) : Prop :=
  ∃ found, terminalCalls frames = some [found] ∧ CallItem.of found = item

theorem EndsWith.behind {frames more : List SseFrame} {item : CallItem}
    (hquiet : ∀ f ∈ frames, f.isTerminal = false) (h : EndsWith more item) :
    EndsWith (frames ++ more) item := by
  obtain ⟨found, hfound, hitem⟩ := h
  exact ⟨found, (terminalCalls_quiet hquiet more).trans hfound, hitem⟩

theorem isTerminalType_status (status : TerminalStatus) :
    isTerminalType status.eventType = true := by cases status <;> rfl

theorem output_terminalResponse (env : Env) (responseId : String) (created : Nat)
    (context : TerminalContext) (carrier : Option String) (s : StreamState) :
    (terminalResponse env responseId created context carrier s).getArray "output" =
      some (terminalOutput env context carrier s) := by
  unfold terminalResponse
  rw [Value.getArray, Value.get_ofFields, List.lookup_append]
  rfl

/-- `emit_openai_responses_terminal`, after a call. -/
theorem HoldsCall.terminal (env : Env) {k : Sink} {index : Nat} {id name : String}
    {namespaceName : Option String} {call : CallSoFar}
    (h : HoldsCall k.state index id name namespaceName call)
    (hmessages : CompletedAreMessages k.state) (hfinish : k.state.finishReason = some "tool_calls")
    (responseId : String) (created : Nat) :
    ∃ more, (emitOpenaiResponsesTerminal env responseId created k).out = k.out ++ more ∧
      EndsWith more (callItem id name namespaceName call.custom call.payload) := by
  unfold emitOpenaiResponsesTerminal
  rw [hfinish]
  dsimp only
  generalize streamingAnthropicReasoningCarrier k.state = carrier
  have hreasoned := narrates_reasoningDone responseId carrier k
  have htold := hreasoned.continues
  have h := HoldsCall.congr h hreasoned.kept.calls
  generalize emitReasoningDone responseId carrier k = k₁ at h htold ⊢
  obtain ⟨hnone, h⟩ := HoldsCall.pendingDone env h responseId
    ⟨incompleteReason (some "tool_calls"), (some "tool_calls").isNone⟩ true
  have htold := htold.trans (continues_pendingDone env responseId
    ⟨incompleteReason (some "tool_calls"), (some "tool_calls").isNone⟩ true k₁)
  generalize emitPendingResponsesToolCallDoneEvents env responseId
    ⟨incompleteReason (some "tool_calls"), (some "tool_calls").isNone⟩ true k₁ = pending
    at hnone h htold ⊢
  obtain ⟨degraded, k₂⟩ := pending
  dsimp only at hnone h htold ⊢
  rw [hnone]
  have hdegraded : appendDegradedTexts env responseId [] k₂ = k₂ := rfl
  rw [hdegraded]
  have hmessage := narrates_emitMessageDone responseId
    (responsesTerminalMessagePhase (some "tool_calls")) k₂
  have htold := htold.trans hmessage.continues
  have h := HoldsCall.congr h hmessage.kept.calls
  generalize emitResponsesMessageDone responseId (responsesTerminalMessagePhase (some "tool_calls"))
    k₂ = k₃ at h htold ⊢
  obtain ⟨more, hmore, hnoend⟩ := htold.quiet.out
  obtain ⟨item, hitem, heq⟩ := filter_terminalOutput env h (htold.kept.messages hmessages) carrier
  unfold emitTerminalEvent Sink.emit
  dsimp only [Sink.update_out, Sink.update_state]
  rw [hmore, List.append_assoc]
  refine ⟨_, rfl, EndsWith.behind hnoend ⟨item, ?_, heq⟩⟩
  unfold terminalCalls
  rw [List.findSome?_singleton]
  dsimp only
  rw [isTerminalType_status, if_pos rfl, Value.get_ofFields]
  show some (((terminalResponse env responseId created _ carrier k₃.state).getArray
    "output").getD [] |>.filter isClientCall) = some [item]
  rw [output_terminalResponse]
  exact congrArg some hitem

/-- The pending calls go out before the terminal event. -/
theorem HoldsCall.finalize (env : Env) {k : Sink} {index : Nat} {id name : String}
    {namespaceName : Option String} {call : CallSoFar}
    (h : HoldsCall k.state index id name namespaceName call)
    (hmessages : CompletedAreMessages k.state) (hfinish : k.state.finishReason = some "tool_calls")
    (hadded : call.added = true) (c : ResponsesChunk) :
    ∃ more, (finalizeResponses env c k).out = k.out ++ more ∧
      EndsWith more (callItem id name namespaceName call.custom call.payload) := by
  have hflushed := HoldsCall.flushAll env h c.responseId true
  have htold := continues_flushToolCalls env c.responseId true k
  obtain ⟨more, hmore, hquiet⟩ := htold.quiet.out
  rw [CallSoFar.flush_added _ _ true hadded] at hflushed
  obtain ⟨last, hlast, hends⟩ := HoldsCall.terminal env hflushed (htold.kept.messages hmessages)
    (htold.kept.finishReason.trans hfinish) c.responseId c.created
  refine ⟨more ++ last, ?_, hends.behind hquiet⟩
  unfold finalizeResponses
  rw [hlast, hmore, List.append_assoc]

/-! ## A chunk -/

/-- The finish reason of a chunk, and its tool-call deltas. -/
def finishReasonOf (chunk : Value) : Option String :=
  (firstChoice chunk).bind (Value.getStr · "finish_reason")

def callsOf (chunk : Value) : List Value :=
  ((((firstChoice chunk).bind (Value.get · "delta")).getD .null).getArray "tool_calls").getD []

/-- A chunk that names a model whose usage comes last. -/
def isMinimaxModel (model : Option String) : Bool :=
  model.any fun model => Text.startsWith model "MiniMax-"

def namesMinimax (chunk : Value) : Bool :=
  isMinimaxModel (chunk.getStr "model") ||
    isMinimaxModel (((firstChoice chunk).bind (Value.get · "model")).bind Value.asStr)

theorem isMinimaxChunk_eq_false {chunk : Value} {s : StreamState} (h : namesMinimax chunk = false)
    (hs : isMinimaxModel s.model = false) : isMinimaxChunk chunk s = false := by
  unfold isMinimaxChunk
  cases hmodel : chunk.getStr "model" with
  | none => exact hs
  | some model =>
    rw [namesMinimax, hmodel, Bool.or_eq_false_iff] at h
    exact h.1

/-- The model that a chunk may settle. -/
theorem captureModel_eq (chunk : Value) (s : StreamState) :
    ∃ model, captureModel chunk s = { s with model := model } ∧
      (isMinimaxModel s.model = false → namesMinimax chunk = false →
        isMinimaxModel model = false) := by
  unfold captureModel
  split
  · exact ⟨s.model, rfl, fun hs _ => hs⟩
  · refine ⟨_, rfl, fun _ hchunk => ?_⟩
    rw [namesMinimax, Bool.or_eq_false_iff] at hchunk
    cases hchoice : (firstChoice chunk).bind (Value.get · "model") with
    | none => exact hchunk.1
    | some model =>
      rw [hchoice] at hchunk
      exact hchunk.2

/-- What holds of the state between two chunks, apart from the call. -/
structure Talking (bridgeContext : Option Value) (finishReason : Option String)
    (s : StreamState) : Prop where
  unsent : s.responsesTerminalSent = false
  context : s.requestScopedToolBridgeContext = bridgeContext
  finishReason : s.finishReason = finishReason
  messages : CompletedAreMessages s

theorem Talking.steady {bridgeContext : Option Value} {finishReason : Option String}
    {s s' : StreamState} (h : Talking bridgeContext finishReason s) (hs : Steady s s') :
    Talking bridgeContext finishReason s' :=
  ⟨hs.sent.trans h.unsent, hs.context.trans h.context, hs.finishReason.trans h.finishReason,
    hs.messages h.messages⟩

section

variable (env : Env) {bridgeContext : Option Value} {finishReason : Option String}
  {index : Nat} {id name : String}

theorem Talking.spoken {s : StreamState} (h : Talking bridgeContext finishReason s) (chunk : Value) :
    ∃ (c : ResponsesChunk) (k : Sink), c.chunk = chunk ∧ c.finishReason = finishReasonOf chunk ∧
      (c.delta.getArray "tool_calls").getD [] = callsOf chunk ∧
      (∀ f ∈ k.out, f.isTerminal = false) ∧ Talking bridgeContext finishReason k.state ∧
      k.state.openaiToolCalls = s.openaiToolCalls ∧
      (isMinimaxModel s.model = false → namesMinimax chunk = false →
        isMinimaxModel k.state.model = false) ∧
      openaiChunkToResponsesSse env chunk s =
        match toolCallsDelta env c k with
        | .error k => (k.out, k.state)
        | .ok k => ((finishResponses env c k).out, (finishResponses env c k).state) := by
  have herror := untouched_captureError chunk s
  obtain ⟨model, hmodel, hminimax⟩ := captureModel_eq chunk (captureError chunk s)
  generalize hc : responsesChunk chunk (captureError chunk s) = c
  have htold := (narrates_start c ⟨{ captureError chunk s with model := model }, []⟩).trans
    (narrates_texts env c _)
  have hstate := htold.kept
  refine ⟨c, textsResponses env c (startResponses c
    ⟨{ captureError chunk s with model := model }, []⟩), ?_, ?_, ?_, ?_, ?_, ?_, ?_, ?_⟩
  · rw [← hc]; rfl
  · rw [← hc]; rfl
  · rw [← hc]; rfl
  · obtain ⟨more, hmore, hnone⟩ := htold.quiet.out
    rw [hmore]
    exact hnone
  · exact ⟨hstate.sent.trans (herror.sent.trans h.unsent),
      hstate.context.trans (herror.context.trans h.context),
      hstate.finishReason.trans (herror.finishReason.trans h.finishReason),
      hstate.messages (herror.messages h.messages)⟩
  · exact hstate.calls.trans herror.calls
  · intro hs hchunk
    rw [hstate.model]
    exact hminimax (herror.model ▸ hs) hchunk
  · unfold openaiChunkToResponsesSse
    rw [if_neg (by simp [h.unsent])]
    dsimp only
    rewrite [hmodel, hc]
    generalize toolCallsDelta env c _ = result
    cases result with
    | error k => rfl
    | ok k => rfl

theorem HoldsPieces.delta (hname : openaiResponsesCustomToolBridgePrefixIsReserved name = false)
    {before pieces : List String} {c : ResponsesChunk} {k : Sink}
    (h : TellsPieces index id name before ((c.delta.getArray "tool_calls").getD []) pieces)
    (hk : HoldsPieces env k.state index id name before) :
    ∃ k', toolCallsDelta env c k = .ok k' ∧ Continues c.responseId k k' ∧
      HoldsPieces env k'.state index id name pieces := by
  have htold := continuesOrRejected_toolCallsDelta env c k
  suffices h : ∃ k', toolCallsDelta env c k = .ok k' ∧ HoldsPieces env k'.state index id name pieces by
    obtain ⟨k', hk', hpieces⟩ := h
    rw [hk'] at htold
    exact ⟨k', hk', htold, hpieces⟩
  unfold toolCallsDelta
  cases htcs : c.delta.getArray "tool_calls" with
  | none =>
    rw [htcs] at h
    cases h
    exact ⟨k, rfl, hk⟩
  | some tcs =>
    rw [htcs] at h
    have hdone := (narrates_emitMessageDone c.responseId (some "commentary") k).kept
    exact HoldsPieces.toolCalls env hname h c _ (HoldsPieces.congr env hk hdone.calls hdone.context)

theorem narrates_delta {c : ResponsesChunk} (k : Sink)
    (h : (c.delta.getArray "tool_calls").getD [] = []) :
    ∃ k', toolCallsDelta env c k = .ok k' ∧ Narrates c.responseId k k' := by
  unfold toolCallsDelta
  cases htcs : c.delta.getArray "tool_calls" with
  | none => exact ⟨k, rfl, .refl _⟩
  | some tcs =>
    rw [htcs, Option.getD_some] at h
    rw [h]
    exact ⟨_, rfl, narrates_emitMessageDone c.responseId (some "commentary") k⟩

theorem finish_unfinished {c : ResponsesChunk} {k : Sink} (hc : c.finishReason = none)
    (hk : k.state.finishReason = none) :
    ∃ usage, finishResponses env c k = { k with state := { k.state with usage := usage } } := by
  refine ⟨(c.chunk.get "usage").or k.state.usage, ?_⟩
  rw [finishResponses_eq]
  unfold concludeResponses
  simp [hc, hk]

/-- What a chunk comes to once the call is complete: the end of the response, or nothing yet. -/
structure Concludes (bridgeContext : Option Value) (index : Nat) (id name : String)
    (namespaceName : Option String) (call : CallSoFar) (chunk : Value) (k r : Sink) : Prop where
  out : ∃ more, r.out = k.out ++ more ∧
    (r.state.responsesTerminalSent = true ∧
        EndsWith more (callItem id name namespaceName call.custom call.payload) ∨
      (∀ f ∈ more, f.isTerminal = false) ∧ Talking bridgeContext (some "tool_calls") r.state ∧
        HoldsCall r.state index id name namespaceName call ∧ r.state.model = k.state.model ∧
        tellsUsage chunk = false ∧ isMinimaxChunk chunk r.state = true)

/-- The last step of a chunk. -/
theorem Talking.conclude {k : Sink} {namespaceName : Option String} {call : CallSoFar}
    (ht : Talking bridgeContext (some "tool_calls") k.state)
    (h : HoldsCall k.state index id name namespaceName call) (hadded : call.added = true)
    (c : ResponsesChunk) :
    Concludes bridgeContext index id name namespaceName call c.chunk k
      (if k.state.finishReason.isSome ∧ !k.state.responsesTerminalSent ∧
          (tellsUsage c.chunk ∨ !isMinimaxChunk c.chunk k.state) then finalizeResponses env c k
        else k) := by
  split
  · obtain ⟨more, hmore, hends⟩ := HoldsCall.finalize env h ht.messages ht.finishReason hadded c
    exact ⟨more, hmore, .inl ⟨(endsKeeping_finalize env c k).sent, hends⟩⟩
  · next hnot =>
    have hno : ¬ (tellsUsage c.chunk = true ∨ (!isMinimaxChunk c.chunk k.state) = true) :=
      fun hlast => hnot ⟨by rw [ht.finishReason]; rfl, by simp [ht.unsent], hlast⟩
    rw [not_or, Bool.not_eq_true, Bool.not_eq_true, Bool.not_eq_false'] at hno
    exact ⟨[], (List.append_nil _).symm, .inr ⟨fun f hf => (nomatch hf), ht, h, rfl, hno⟩⟩

theorem Concludes.behind {k k' r : Sink} {namespaceName : Option String} {call : CallSoFar}
    {chunk : Value} (h : Concludes bridgeContext index id name namespaceName call chunk k' r)
    (hquiet : Quiet k k') (hmodel : k'.state.model = k.state.model) :
    Concludes bridgeContext index id name namespaceName call chunk k r := by
  obtain ⟨more, hmore, hend⟩ := h.out
  obtain ⟨before, hbefore, hnone⟩ := hquiet.out
  refine ⟨before ++ more, by rw [hmore, hbefore, List.append_assoc], ?_⟩
  rcases hend with ⟨hsent, hends⟩ | ⟨hmore, ht, hcall, hsame, hrest⟩
  · exact .inl ⟨hsent, hends.behind hnone⟩
  · refine .inr ⟨?_, ht, hcall, hsame.trans hmodel, hrest⟩
    intro f hf
    exact (List.mem_append.mp hf).elim (hnone f) (hmore f)

/-- The end of a chunk, when the chunk or one before it has the finish reason. -/
theorem HoldsCall.finish {c : ResponsesChunk} {k : Sink} {namespaceName : Option String}
    {call : CallSoFar} (h : HoldsCall k.state index id name namespaceName call)
    (ht : Talking bridgeContext finishReason k.state)
    (hc : c.finishReason = some "tool_calls" ∨
      c.finishReason = none ∧ finishReason = some "tool_calls" ∧ call.added = true) :
    Concludes bridgeContext index id name namespaceName
      (call.flush (openaiCustomBridgeDecodeArgumentsStream env.serde)
        (wrapsCall bridgeContext namespaceName name) true) c.chunk k (finishResponses env c k) := by
  have hreason : c.finishReason.or k.state.finishReason = some "tool_calls" := by
    rcases hc with hc | ⟨hc, hbefore, _⟩
    · rw [hc]
      rfl
    · rw [hc, ht.finishReason, hbefore]
      rfl
  rw [finishResponses_eq, hreason]
  generalize (c.chunk.get "usage").or k.state.usage = usage
  have hquiet : Quiet k { k with state := { k.state with
      usage := usage, finishReason := some "tool_calls" } } := .state rfl
  have ht : Talking bridgeContext (some "tool_calls") { k.state with
      usage := usage, finishReason := some "tool_calls" } :=
    ⟨ht.unsent, ht.context, rfl, ht.messages⟩
  have h : HoldsCall { k.state with usage := usage, finishReason := some "tool_calls" } index id name
      namespaceName call := h.congr rfl
  have hmodel : ({ k.state with
      usage := usage, finishReason := some "tool_calls" } : StreamState).model = k.state.model := rfl
  generalize hk₀ : ({ k with state := { k.state with
    usage := usage, finishReason := some "tool_calls" } } : Sink) = k₀ at hquiet ⊢
  rw [show ({ k.state with usage := usage, finishReason := some "tool_calls" } : StreamState) =
    k₀.state by rw [← hk₀]] at ht h hmodel
  unfold concludeResponses
  rcases hc with hc | ⟨hc, _, hadded⟩
  · rw [hc, if_neg (by decide), if_pos rfl]
    -- The calls go out, and are finished, before anything else.
    have hflushed := HoldsCall.flushAll env h c.responseId true
    have htold := continues_flushToolCalls env c.responseId true k₀
    generalize flushPendingResponsesToolCalls env c.responseId true k₀ = k₁ at hflushed htold ⊢
    rw [ht.context] at hflushed
    obtain ⟨_, hdone⟩ := HoldsCall.pendingDone env hflushed c.responseId ⟨none, false⟩ false
    have htold := htold.trans (continues_pendingDone env c.responseId ⟨none, false⟩ false k₁)
    generalize (emitPendingResponsesToolCallDoneEvents env c.responseId ⟨none, false⟩ false k₁).2 =
      k₂ at hdone htold ⊢
    exact (Talking.conclude env (ht.steady htold.kept) hdone (CallSoFar.added_flush _ _ call)
      c).behind (hquiet.trans htold.quiet) (htold.kept.model.trans hmodel)
  · simp only [hc, reduceCtorEq, false_or, if_false]
    rw [CallSoFar.flush_added _ _ true hadded]
    exact (Talking.conclude env ht h hadded c).behind hquiet hmodel

theorem Talking.unfinished {s : StreamState} (ht : Talking bridgeContext none s) {chunk : Value}
    (hname : openaiResponsesCustomToolBridgePrefixIsReserved name = false)
    (hchunk : finishReasonOf chunk = none) {before pieces : List String}
    (hpieces : TellsPieces index id name before (callsOf chunk) pieces)
    (hk : HoldsPieces env s index id name before) :
    let r := openaiChunkToResponsesSse env chunk s
    (∀ f ∈ r.1, f.isTerminal = false) ∧ Talking bridgeContext none r.2 ∧
      HoldsPieces env r.2 index id name pieces ∧
      (isMinimaxModel s.model = false → namesMinimax chunk = false →
        isMinimaxModel r.2.model = false) := by
  obtain ⟨c, k, _, hfinish, hcalls, hquiet, ht', hsame, hmodel, hrun⟩ := ht.spoken env chunk
  have hk := HoldsPieces.congr env hk hsame (ht'.context.trans ht.context.symm)
  obtain ⟨k', hdelta, htold, hpieces⟩ := HoldsPieces.delta env hname (hcalls ▸ hpieces) hk
  have ht'' := ht'.steady htold.kept
  obtain ⟨usage, hdone⟩ := finish_unfinished env (hfinish.trans hchunk) ht''.finishReason
  obtain ⟨more, hmore, hnone⟩ := htold.quiet.out
  dsimp only
  rw [hrun, hdelta]
  dsimp only
  rw [hdone]
  refine ⟨?_, ⟨ht''.unsent, ht''.context, ht''.finishReason, ht''.messages⟩, ?_, ?_⟩
  · rw [hmore]
    intro f hf
    exact (List.mem_append.mp hf).elim (hquiet f) (hnone f)
  · exact HoldsPieces.congr env hpieces rfl rfl
  · intro hs hnames
    rw [← hmodel hs hnames, ← htold.kept.model]

theorem Talking.finishing {s : StreamState} (ht : Talking bridgeContext finishReason s)
    {chunk : Value} {namespaceName : Option String} {call : CallSoFar}
    (h : HoldsCall s index id name namespaceName call) (hcalls : callsOf chunk = [])
    (hc : finishReasonOf chunk = some "tool_calls" ∨
      finishReasonOf chunk = none ∧ finishReason = some "tool_calls" ∧ call.added = true) :
    let r := openaiChunkToResponsesSse env chunk s
    let final := call.flush (openaiCustomBridgeDecodeArgumentsStream env.serde)
      (wrapsCall bridgeContext namespaceName name) true
    r.2.responsesTerminalSent = true ∧
        EndsWith r.1 (callItem id name namespaceName final.custom final.payload) ∨
      (∀ f ∈ r.1, f.isTerminal = false) ∧ Talking bridgeContext (some "tool_calls") r.2 ∧
        HoldsCall r.2 index id name namespaceName final ∧ tellsUsage chunk = false ∧
        ¬ (isMinimaxModel s.model = false ∧ namesMinimax chunk = false) := by
  obtain ⟨c, k, hchunk, hfinish, htcs, hquiet, ht', hsame, hmodel, hrun⟩ := ht.spoken env chunk
  have h := h.congr hsame
  obtain ⟨k', hdelta, htold⟩ := narrates_delta env k (htcs.trans hcalls)
  rw [← hfinish] at hc
  have hend := ((HoldsCall.finish env (h.congr htold.kept.calls)
    (ht'.steady htold.kept.toSteady) hc).behind htold.quiet htold.kept.model).out
  obtain ⟨more, hmore, hend⟩ := hend
  dsimp only
  rw [hrun, hdelta]
  dsimp only
  rw [hmore]
  rcases hend with ⟨hsent, hends⟩ | ⟨hnone, ht, hcall, hsamemodel, husage, hminimax⟩
  · exact .inl ⟨hsent, hends.behind hquiet⟩
  · refine .inr ⟨?_, ht, hcall, hchunk ▸ husage, ?_⟩
    · intro f hf
      exact (List.mem_append.mp hf).elim (hquiet f) (hnone f)
    · rintro ⟨hs, hnames⟩
      have hno := isMinimaxChunk_eq_false (s := (finishResponses env c k').state)
        (hchunk ▸ hnames) (hsamemodel ▸ hmodel hs hnames)
      rw [hno] at hminimax
      cases hminimax

end

end LlmUniversalProxy.Streaming
