import LlmUniversalProxy.Streaming.CallChunks

/-!
# `Streaming.CallStream` — all the chunks of a tool call, and the whole call beside them

`frames_of_call` puts the chunks of `Streaming.CallChunks` one behind the other: however the call is
cut, the response ends with one item, and its input is what `CallSoFar.feed` makes of the pieces.
`item_of_call` is the other side, the item that the call of a whole body becomes. What the two make
of a wrapper is compared at the end of the module: the stream takes it off as soon as it can be
read, and puts everything that comes behind it to the input.

A name that is the proxy's own ends the stream and refuses the body, so it is followed by itself
(`Talking.rejected` and `refused_of_call`).
-/

set_option autoImplicit false

namespace LlmUniversalProxy.Streaming

open Json Lib Translate

/-! ## All chunks -/

/-- The chunks before the finish reason, on top of the pieces before them. What else they say is
left open. -/
inductive TellsArguments (index : Nat) (id name : String) :
    List String → List Value → List String → Prop
  | nil {pieces : List String} : TellsArguments index id name pieces [] pieces
  | chunk {before mid pieces : List String} {chunk : Value} {chunks : List Value}
      (hunfinished : finishReasonOf chunk = none)
      (hpieces : TellsPieces index id name before (callsOf chunk) mid)
      (hrest : TellsArguments index id name mid chunks pieces) :
      TellsArguments index id name before (chunk :: chunks) pieces

/-- The chunks of a call: its pieces, the finish reason, and at most a usage behind it. A model
whose usage comes last is one that tells it. -/
structure CutsCall (index : Nat) (id name : String) (pieces : List String) (chunks : List Value) :
    Prop where
  parts : ∃ told last after, TellsArguments index id name [] told pieces ∧ pieces ≠ [] ∧
    finishReasonOf last = some "tool_calls" ∧ callsOf last = [] ∧
    (∀ chunk ∈ after, finishReasonOf chunk = none ∧ callsOf chunk = []) ∧
    chunks = told ++ last :: after ∧ ((∃ chunk ∈ last :: after, tellsUsage chunk = true) ∨
      ∀ chunk ∈ chunks, namesMinimax chunk = false)

def responsesFrames (env : Env) (chunks : List Value) (s : StreamState) : List SseFrame :=
  (openaiChunksToClientSse env .openAiResponses chunks s).1

section

variable (env : Env) {bridgeContext : Option Value} {index : Nat} {id name : String}

theorem responsesFrames_cons (chunk : Value) (chunks : List Value) (s : StreamState) :
    responsesFrames env (chunk :: chunks) s = (openaiChunkToResponsesSse env chunk s).1 ++
      responsesFrames env chunks (openaiChunkToResponsesSse env chunk s).2 := rfl

/-- Behind its end a response has nothing more. -/
theorem responsesFrames_sent (chunks : List Value) {s : StreamState}
    (h : s.responsesTerminalSent = true) : responsesFrames env chunks s = [] := by
  induction chunks generalizing s with
  | nil => rfl
  | cons chunk chunks ih =>
    obtain ⟨hnone, hsent⟩ := (chunk_endsProperly env chunk s).silent h
    rw [responsesFrames_cons, hnone, ih hsent]
    rfl

/-- The chunks before the finish reason. -/
theorem Talking.told (hname : openaiResponsesCustomToolBridgePrefixIsReserved name = false)
    {before pieces : List String} {told : List Value}
    (h : TellsArguments index id name before told pieces) {s : StreamState}
    (ht : Talking bridgeContext none s) (hk : HoldsPieces env s index id name before)
    (rest : List Value) :
    ∃ s' frames, responsesFrames env (told ++ rest) s = frames ++ responsesFrames env rest s' ∧
      (∀ f ∈ frames, f.isTerminal = false) ∧ Talking bridgeContext none s' ∧
      HoldsPieces env s' index id name pieces ∧
      (isMinimaxModel s.model = false → (∀ chunk ∈ told, namesMinimax chunk = false) →
        isMinimaxModel s'.model = false) := by
  induction h generalizing s with
  | nil => exact ⟨s, [], rfl, fun f hf => (nomatch hf), ht, hk, fun hs _ => hs⟩
  | @chunk before mid pieces chunk chunks hunfinished hpieces _ ih =>
    obtain ⟨hquiet, ht, hk, hmodel⟩ := ht.unfinished env hname hunfinished hpieces hk
    obtain ⟨s', frames, hframes, hnone, ht', hk', hmodel'⟩ := ih ht hk
    refine ⟨s', (openaiChunkToResponsesSse env chunk s).1 ++ frames, ?_, ?_, ht', hk', ?_⟩
    · rw [List.cons_append, responsesFrames_cons, hframes, List.append_assoc]
    · intro f hf
      exact (List.mem_append.mp hf).elim (hquiet f) (hnone f)
    · intro hs hnames
      exact hmodel' (hmodel hs (hnames chunk List.mem_cons_self))
        fun other hother => hnames other (List.mem_cons_of_mem _ hother)

theorem Talking.after {namespaceName : Option String} {call : CallSoFar}
    (hadded : call.added = true) {after : List Value}
    (hafter : ∀ chunk ∈ after, finishReasonOf chunk = none ∧ callsOf chunk = [])
    {s : StreamState} (ht : Talking bridgeContext (some "tool_calls") s)
    (h : HoldsCall s index id name namespaceName call) :
    EndsWith (responsesFrames env after s)
        (callItem id name namespaceName call.custom call.payload) ∨
      ∀ chunk ∈ after, tellsUsage chunk = false := by
  induction after generalizing s with
  | nil => exact .inr fun chunk hchunk => (nomatch hchunk)
  | cons chunk after ih =>
    obtain ⟨hunfinished, hcalls⟩ := hafter chunk List.mem_cons_self
    have hchunk := ht.finishing env h hcalls (.inr ⟨hunfinished, rfl, hadded⟩)
    rw [CallSoFar.flush_added _ _ true hadded] at hchunk
    rw [responsesFrames_cons]
    rcases hchunk with ⟨hsent, hends⟩ | ⟨hquiet, ht, h, husage, _⟩
    · rw [responsesFrames_sent env after hsent, List.append_nil]
      exact .inl hends
    · rcases ih (fun other hother => hafter other (List.mem_cons_of_mem _ hother)) ht h
        with hends | hnone
      · exact .inl (hends.behind hquiet)
      · exact .inr (List.forall_mem_cons.mpr ⟨husage, hnone⟩)

/-- The call, once all of its pieces have come. -/
def completeCall (serde : Serde) (bridgeContext : Option Value) (name : String)
    (pieces : List String) : CallSoFar :=
  let client := clientName bridgeContext name
  let wrapped := wrapsCall bridgeContext client.1 client.2
  (pieces.foldl (CallSoFar.feed (openaiCustomBridgeDecodeArgumentsStream serde) wrapped) {}).flush
    (openaiCustomBridgeDecodeArgumentsStream serde) wrapped true

variable (bridgeContext) in
/-- **The chunks of a call**: the response ends with the one item. -/
theorem frames_of_call (hname : openaiResponsesCustomToolBridgePrefixIsReserved name = false)
    {pieces : List String} {chunks : List Value} (h : CutsCall index id name pieces chunks) :
    let call := completeCall env.serde bridgeContext name pieces
    EndsWith (responsesFrames env chunks { requestScopedToolBridgeContext := bridgeContext })
      (callItem id (clientName bridgeContext name).2 (clientName bridgeContext name).1 call.custom
        call.payload) := by
  obtain ⟨told, last, after, htold, hne, hfinish, hcalls, hafter, rfl, hends⟩ := h.parts
  have hstart : HoldsPieces env { requestScopedToolBridgeContext := bridgeContext } index id name
      [] := by
    unfold HoldsPieces
    rw [if_pos rfl]
    intro k
    rw [ite_self]
    rfl
  have ht : Talking bridgeContext none { requestScopedToolBridgeContext := bridgeContext } :=
    ⟨rfl, rfl, rfl, fun message hmessage => absurd hmessage List.not_mem_nil⟩
  obtain ⟨s, frames, hframes, hquiet, ht, hk, hmodel⟩ :=
    ht.told env hname htold hstart (last :: after)
  unfold HoldsPieces at hk
  rw [if_neg hne, ht.context] at hk
  have hlast := ht.finishing env hk hcalls (.inl hfinish)
  dsimp only
  rw [hframes, responsesFrames_cons]
  refine EndsWith.behind hquiet ?_
  rcases hlast with ⟨hsent, hlast⟩ | ⟨hnone, ht', h', husage, hminimax⟩
  · rw [responsesFrames_sent env after hsent, List.append_nil]
    exact hlast
  · refine EndsWith.behind hnone ?_
    rcases Talking.after env (CallSoFar.added_flush _ _ _) hafter ht' h' with hend | hnousage
    · exact hend
    · -- Without a usage, a model whose usage comes last has been named.
      exfalso
      rcases hends with ⟨chunk, hchunk, htells⟩ | hnames
      · rcases List.mem_cons.mp hchunk with rfl | hchunk
        · rw [husage] at htells
          cases htells
        · rw [hnousage chunk hchunk] at htells
          cases htells
      · exact hminimax ⟨hmodel rfl fun chunk hchunk =>
          hnames chunk (List.mem_append_left _ hchunk),
          hnames last (List.mem_append_right _ List.mem_cons_self)⟩

theorem calls_of_reject (responseId : String) (created : Nat) (code message : String) {k : Sink}
    (hquiet : ∀ f ∈ k.out, f.isTerminal = false) :
    terminalCalls (rejectOpenaiResponsesStream responseId created code message k).out =
      some [] := by
  unfold rejectOpenaiResponsesStream Sink.emit
  dsimp only
  rw [terminalCalls_quiet hquiet]
  unfold terminalCalls
  rw [List.findSome?_singleton]
  dsimp only
  rw [if_pos (show isTerminalType "response.failed" = true by decide), Value.get_ofFields]
  show some (((Value.ofFields _).getArray "output").getD [] |>.filter isClientCall) = some []
  rw [Value.getArray, Value.get_ofFields]
  rfl

/-- The first delta of a call with a name of the proxy's own ends the response. -/
theorem Talking.rejected (hname : openaiResponsesCustomToolBridgePrefixIsReserved name = true)
    {s : StreamState} (ht : Talking bridgeContext none s) {chunk tc : Value} {tcs : List Value}
    {piece : String} (hstart : StartsCall tc index ⟨id, name, piece⟩)
    (hcalls : callsOf chunk = tc :: tcs) :
    (openaiChunkToResponsesSse env chunk s).2.responsesTerminalSent = true ∧
      terminalCalls (openaiChunkToResponsesSse env chunk s).1 = some [] := by
  obtain ⟨c, k, _, _, htcs, hquiet, _, _, _, hrun⟩ := ht.spoken env chunk
  rw [hcalls] at htcs
  have hsome : c.delta.getArray "tool_calls" = some (tc :: tcs) := by
    cases hget : c.delta.getArray "tool_calls" with
    | none =>
      rw [hget] at htcs
      cases htcs
    | some found =>
      rw [hget, Option.getD_some] at htcs
      rw [htcs]
  have hplain : toolCallFunctionField tc "name" = some name := hstart.functionName
  have hrejected : validatePublicToolNameNotReserved name =
      .error (reservedOpenaiCustomBridgePrefixMessage name) := by
    unfold validatePublicToolNameNotReserved
    rw [if_pos hname]
    rfl
  obtain ⟨more, hmore, hnone⟩ :=
    (narrates_emitMessageDone c.responseId (some "commentary") k).quiet.out
  rw [hrun]
  unfold toolCallsDelta
  simp only [hsome, toolCallsResponses, hplain, hrejected, Option.map_some]
  refine ⟨rfl, calls_of_reject _ _ _ _ ?_⟩
  intro f hf
  have hf : f ∈ (emitResponsesMessageDone c.responseId (some "commentary") k).out := hf
  rw [hmore] at hf
  exact (List.mem_append.mp hf).elim (hquiet f) (hnone f)

/-- The chunks of such a call. -/
theorem Talking.reserved (hname : openaiResponsesCustomToolBridgePrefixIsReserved name = true)
    {pieces : List String} {told : List Value} (h : TellsArguments index id name [] told pieces)
    (hne : pieces ≠ []) {s : StreamState} (ht : Talking bridgeContext none s)
    (hk : Holds s index none) (rest : List Value) :
    terminalCalls (responsesFrames env (told ++ rest) s) = some [] := by
  generalize hbefore : ([] : List String) = before at h
  induction h generalizing s with
  | nil => exact absurd hbefore.symm hne
  | @chunk before mid pieces chunk chunks hunfinished hpieces _ ih =>
    subst hbefore
    rw [List.cons_append, responsesFrames_cons]
    generalize hcalls : callsOf chunk = tcs at hpieces
    cases hpieces with
    | nil =>
      -- A chunk without calls is the same whatever the call's name.
      have hpieces : TellsPieces index id "" [] (callsOf chunk) [] := by
        rw [hcalls]
        exact .nil
      have hk : HoldsPieces env s index id "" [] := by
        unfold HoldsPieces
        rw [if_pos rfl]
        exact hk
      obtain ⟨hquiet, ht, hk, _⟩ := ht.unfinished env (by decide) hunfinished hpieces hk
      rw [terminalCalls_quiet hquiet]
      unfold HoldsPieces at hk
      rw [if_pos rfl] at hk
      exact ih hne ht hk rfl
    | starts hstart _ _ =>
      obtain ⟨hsent, hrejected⟩ := ht.rejected env hname hstart hcalls
      rw [responsesFrames_sent env _ hsent, List.append_nil]
      exact hrejected
    | continues hne _ _ => exact absurd rfl hne

end

/-! ## The whole call -/

section

variable (env : Env) {toolCall : Value} {said : SaidCall}

theorem publicIdentity_of_call (h : IsCall toolCall said) :
    validateOpenaiPublicToolIdentity toolCall = validatePublicToolNameNotReserved said.name := by
  have hname : ((toolCall.get "function").bind (Value.get · "name")).bind Value.asStr =
      some said.name := by
    rw [Option.bind_assoc]
    exact h.functionName
  unfold validateOpenaiPublicToolIdentity
  simp only [identityValue_eq, h.name, h.custom, Option.bind_some, Option.bind_none, h.object,
    hname]
  cases validatePublicToolNameNotReserved said.name with
  | error message => rfl
  | ok _ => rfl

/-- The call in its normal form; one without a name is refused. -/
theorem normalized_of_call (h : IsCall toolCall said)
    (hname : openaiResponsesCustomToolBridgePrefixIsReserved said.name = false) :
    if said.name = "" then ∃ message, normalizedOpenaiToolCall toolCall = .error message
    else normalizedOpenaiToolCall toolCall = .ok (some
      { custom := false, id := some (.string said.id), name := said.name
        payload := said.arguments, proxiedToolKind := toolCall.get "proxied_tool_kind" }) := by
  obtain ⟨function, hfunction, hfunctionName⟩ := Option.bind_eq_some_iff.mp h.functionName
  have hobject : function.isObject = true := Value.isObject_of_get (Value.get_of_getStr hfunctionName)
  have harguments : openaiToolArgumentsRaw toolCall = some said.arguments := by
    obtain ⟨function, hfunction, htext⟩ := Option.bind_eq_some_iff.mp h.arguments
    unfold openaiToolArgumentsRaw
    rw [hfunction, Option.bind_some, Value.get_of_getStr htext]
    rfl
  have hidentity : validateOpenaiPublicToolIdentity toolCall = .ok () := by
    rw [publicIdentity_of_call h]
    exact nameNotReserved_ok.mpr hname
  unfold normalizedOpenaiToolCall requiredToolName
  rw [hidentity, h.type]
  simp only [hfunction, Option.filter_some, hobject, if_true, hfunctionName, harguments, h.id]
  split
  · next hempty => simp [hempty, bind, Except.bind]
  · next hnonempty =>
    simp [hnonempty, bind, Except.bind, pure, Except.pure, nameNotReserved_ok.mpr hname]

def wholeItem (serde : Serde) (bridgeContext : Option ToolBridgeContext) (said : SaidCall) :
    CallItem :=
  if expectsWrapper bridgeContext said.name then
    match openaiResponsesCustomToolInputFromBridgeArguments serde said.arguments with
    | some input => callItem said.id said.name none true input
    | none => callItem said.id said.name none false said.arguments
  else
    match bridgeContext.bind (ToolBridgeContext.namespaceBridgeSplit · said.name) with
    | some (ns, child) => callItem said.id child (some ns) false said.arguments
    | none => callItem said.id said.name none false said.arguments

/-- A server tool's kind is no matter. -/
theorem CallItem.of_withProxiedToolKind (kind : Option Value) (item : Value) :
    CallItem.of (withProxiedToolKind kind item) = CallItem.of item := by
  unfold withProxiedToolKind
  cases kind with
  | none => rfl
  | some kind =>
    have hget : ∀ k, k ≠ "proxied_tool_kind" →
        (item.set "proxied_tool_kind" kind).get k = item.get k :=
      fun k hk => Value.get_set_of_ne item kind hk
    unfold CallItem.of
    simp only [hget _ (show "type" ≠ "proxied_tool_kind" by decide),
      hget _ (show "call_id" ≠ "proxied_tool_kind" by decide),
      hget _ (show "name" ≠ "proxied_tool_kind" by decide),
      hget _ (show "namespace" ≠ "proxied_tool_kind" by decide),
      hget _ (show "arguments" ≠ "proxied_tool_kind" by decide),
      hget _ (show "input" ≠ "proxied_tool_kind" by decide)]

theorem bridgedCallItem_eq (bridgeContext : Option ToolBridgeContext) (kind : Option Value) :
    CallItem.of (bridgedCallItem env.serde bridgeContext
      { custom := false, id := some (.string said.id), name := said.name
        payload := said.arguments, proxiedToolKind := kind }) =
      wholeItem env.serde bridgeContext said := by
  have hplain : CallItem.of (responsesCallItem "function_call" "arguments" (some (.string said.id))
      said.name said.arguments) = callItem said.id said.name none false said.arguments := by
    simp [CallItem.of, callItem, responsesCallItem, Value.ofOption, List.lookup_cons]
  unfold bridgedCallItem wholeItem
  rw [if_neg (by simp)]
  unfold normalizedToolCallToResponsesItem
  simp only [Bool.false_eq_true, if_false]
  cases expectsWrapper bridgeContext said.name with
  | true =>
    rw [if_pos rfl, if_pos rfl]
    cases openaiResponsesCustomToolInputFromBridgeArguments env.serde said.arguments with
    | none => exact (CallItem.of_withProxiedToolKind kind _).trans hplain
    | some input =>
      refine (CallItem.of_withProxiedToolKind kind _).trans ?_
      simp [CallItem.of, callItem, responsesCallItem, Value.ofOption, List.lookup_cons]
  | false =>
    rw [if_neg (by simp), if_neg (by simp)]
    cases bridgeContext.bind (ToolBridgeContext.namespaceBridgeSplit · said.name) with
    | none => exact (CallItem.of_withProxiedToolKind kind _).trans hplain
    | some pair =>
      refine (CallItem.of_withProxiedToolKind kind _).trans ?_
      simp [CallItem.of, callItem, responsesCallItem, Value.ofOption, Value.get_set_ofFields,
        List.lookup_cons]

/-- A name of the proxy's own is refused. -/
theorem refused_of_call (bridgeContext : Option ToolBridgeContext) (h : IsCall toolCall said)
    (hname : openaiResponsesCustomToolBridgePrefixIsReserved said.name = true) :
    ∃ message, openaiToolCallToResponsesItemDecodingCustomBridge env bridgeContext toolCall =
      .error message := by
  refine ⟨reservedOpenaiCustomBridgePrefixMessage said.name, ?_⟩
  unfold openaiToolCallToResponsesItemDecodingCustomBridge normalizedOpenaiToolCall
  rw [publicIdentity_of_call h, validatePublicToolNameNotReserved, if_pos hname]
  rfl

theorem item_of_call (bridgeContext : Option ToolBridgeContext) (h : IsCall toolCall said)
    (hname : openaiResponsesCustomToolBridgePrefixIsReserved said.name = false) :
    if said.name = "" then ∃ message,
      openaiToolCallToResponsesItemDecodingCustomBridge env bridgeContext toolCall = .error message
    else ∃ item, openaiToolCallToResponsesItemDecodingCustomBridge env bridgeContext toolCall =
        .ok item ∧ CallItem.of item = wholeItem env.serde bridgeContext said := by
  have hnormalized := normalized_of_call h hname
  unfold openaiToolCallToResponsesItemDecodingCustomBridge
  split
  · next hempty =>
    rw [if_pos hempty] at hnormalized
    obtain ⟨message, hmessage⟩ := hnormalized
    rw [hmessage]
    exact ⟨message, rfl⟩
  · next hnonempty =>
    rw [if_neg hnonempty] at hnormalized
    rw [hnormalized]
    have hunmarked : toolCallIsMarkedNonReplayable env toolCall = false := by
      simp [toolCallIsMarkedNonReplayable, h.unmarked]
    refine ⟨_, rfl, ?_⟩
    unfold copyNonReplayableToolCallMarker
    rw [hunmarked, if_neg (by simp)]
    exact bridgedCallItem_eq env bridgeContext _

end

/-! ## The pieces together -/

theorem decode_eq (serde : Serde) (arguments : String) :
    openaiCustomBridgeDecodeArgumentsStream serde arguments =
      openaiResponsesCustomToolInputFromBridgeArguments serde arguments := by
  unfold openaiCustomBridgeDecodeArgumentsStream openaiResponsesCustomToolInputFromBridgeArguments
  cases fromStr serde arguments with
  | none => rfl
  | some value =>
    cases value with
    | object fields => rfl
    | _ => rfl

section

variable {decode : String → Option String}

/-- Without a wrapper the pieces are put together. -/
theorem fold_unwrapped (pieces : List String) (call : CallSoFar) :
    (pieces.foldl (CallSoFar.feed decode false) call).custom = call.custom ∧
      (pieces.foldl (CallSoFar.feed decode false) call).payload =
        call.payload ++ String.join pieces := by
  induction pieces generalizing call with
  | nil => exact ⟨rfl, (String.append_empty).symm⟩
  | cons piece pieces ih =>
    obtain ⟨hcustom, hpayload⟩ := ih (call.feed decode false piece)
    have hfed : (call.feed decode false piece).custom = call.custom ∧
        (call.feed decode false piece).payload = call.payload ++ piece := by
      unfold CallSoFar.feed CallSoFar.flush
      split
      · exact ⟨rfl, rfl⟩
      · exact ⟨rfl, rfl⟩
    rw [List.foldl_cons, hcustom, hpayload, hfed.1, hfed.2, String.join_cons, String.append_assoc]
    exact ⟨rfl, rfl⟩

theorem flush_unwrapped (finalize : Bool) (call : CallSoFar) :
    (call.flush decode false finalize).custom = call.custom ∧
      (call.flush decode false finalize).payload = call.payload := by
  unfold CallSoFar.flush
  split
  · exact ⟨rfl, rfl⟩
  · exact ⟨rfl, rfl⟩

/-- What has been added takes on whatever comes. -/
theorem fold_added (wrapped : Bool) (pieces : List String) {call : CallSoFar}
    (h : call.added = true) :
    pieces.foldl (CallSoFar.feed decode wrapped) call =
      { call with payload := call.payload ++ String.join pieces } := by
  induction pieces generalizing call with
  | nil => rw [String.join_nil, String.append_empty]; rfl
  | cons piece pieces ih =>
    have hfed : call.feed decode wrapped piece = { call with payload := call.payload ++ piece } :=
      CallSoFar.flush_added decode wrapped false h
    rw [List.foldl_cons, hfed, String.join_cons, ← String.append_assoc]
    exact ih h

/-- A wrapper is taken off as soon as one can be read, and the rest goes behind its input. -/
theorem fold_wrapped (pieces : List String) (text : String) :
    ((∀ before after, pieces = before ++ after → before ≠ [] →
        decode (text ++ String.join before) = none) ∧
      pieces.foldl (CallSoFar.feed decode true) ⟨false, text, false⟩ =
        ⟨false, text ++ String.join pieces, false⟩) ∨
    ∃ before after input, pieces = before ++ after ∧
      decode (text ++ String.join before) = some input ∧
      (∀ shorter rest, pieces = shorter ++ rest → shorter ≠ [] →
        shorter.length < before.length → decode (text ++ String.join shorter) = none) ∧
      pieces.foldl (CallSoFar.feed decode true) ⟨false, text, false⟩ =
        ⟨true, input ++ String.join after, true⟩ := by
  induction pieces generalizing text with
  | nil =>
    refine .inl ⟨?_, ?_⟩
    · intro before after hsplit hne
      exact absurd (List.append_eq_nil_iff.mp hsplit.symm).1 hne
    · rw [String.join_nil, String.append_empty]
      rfl
  | cons piece pieces ih =>
    rw [List.foldl_cons]
    cases hdecode : decode (text ++ piece) with
    | some input =>
      have hfed : CallSoFar.feed decode true ⟨false, text, false⟩ piece = ⟨true, input, true⟩ := by
        simp [CallSoFar.feed, CallSoFar.flush, hdecode]
      refine .inr ⟨[piece], pieces, input, rfl, by simpa using hdecode, ?_, ?_⟩
      · intro shorter rest _ hne hlength
        exact absurd (List.length_eq_zero_iff.mp (Nat.lt_one_iff.mp hlength)) hne
      · rw [hfed, fold_added true pieces rfl]
    | none =>
      have hfed : CallSoFar.feed decode true ⟨false, text, false⟩ piece =
          ⟨false, text ++ piece, false⟩ := by
        simp [CallSoFar.feed, CallSoFar.flush, hdecode]
      -- Nothing can be read in front of the second piece, nor right behind the first.
      have hfirst : ∀ before after, piece :: pieces = before ++ after → before ≠ [] →
          before = [piece] ∨ ∃ tail, before = piece :: tail ∧ tail ≠ [] ∧ pieces = tail ++ after := by
        intro before after hsplit hne
        cases before with
        | nil => exact absurd rfl hne
        | cons head tail =>
          obtain ⟨rfl, hrest⟩ := List.cons.inj hsplit
          cases tail with
          | nil => exact .inl rfl
          | cons next tail => exact .inr ⟨_, rfl, List.cons_ne_nil _ _, hrest⟩
      rw [hfed]
      rcases ih (text ++ piece) with ⟨hnone, hfold⟩ | ⟨before, after, input, rfl, hread, hshort, hfold⟩
      · refine .inl ⟨?_, ?_⟩
        · intro before after hsplit hne
          rcases hfirst before after hsplit hne with rfl | ⟨tail, rfl, htail, hrest⟩
          · simpa using hdecode
          · rw [String.join_cons, ← String.append_assoc]
            exact hnone tail after hrest htail
        · rw [hfold, String.join_cons, String.append_assoc]
      · refine .inr ⟨piece :: before, after, input, rfl, ?_, ?_, hfold⟩
        · rw [String.join_cons, ← String.append_assoc]
          exact hread
        · intro shorter rest hsplit hne hlength
          rcases hfirst shorter rest hsplit hne with rfl | ⟨tail, rfl, htail, hrest⟩
          · simpa using hdecode
          · rw [String.join_cons, ← String.append_assoc]
            exact hshort tail rest hrest htail (Nat.lt_of_succ_lt_succ hlength)

end

end LlmUniversalProxy.Streaming
