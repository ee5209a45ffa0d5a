import LlmUniversalProxy.Streaming.CallStream

/-!
# `Streaming.CallAgreement` — a function call for a Responses client, streamed or whole

A custom tool of a Responses client is sent to a Chat upstream as a function whose arguments wrap
the input, and a tool of a namespace under a joined name. The call that comes back is turned round
again: as a whole, or from the pieces of its arguments. The stream cannot wait for the last piece.
It reads the wrapper as soon as what has come is one, and passes on everything behind it.
`call_stream_agrees_iff` says when both give the client the same call.

The condition is on the name and the pieces alone: no wrapper can be read from the first of them
while there is more to come. One blank behind the wrapper breaks it (`streamed_input_has_blank`),
and an upstream is free to send one. All that is asked of the reader of JSON is what it does: a text
that is an object has no longer one in front of it (`fromStr_append`).
-/

set_option autoImplicit false

namespace LlmUniversalProxy.Streaming

open Json Lib Translate

/-! ## Main result -/

/-- The client gets the call that the whole one becomes, and no call when that is refused. -/
def CallAgrees (env : Env) (bridgeContext : Option ToolBridgeContext) (toolCall : Value)
    (frames : List SseFrame) : Prop :=
  match openaiToolCallToResponsesItemDecodingCustomBridge env bridgeContext toolCall with
  | .ok item => EndsWith frames (CallItem.of item)
  | .error _ => terminalCalls frames = some []

/-- No wrapper can be read from the first pieces while there is more to come. -/
def ReadsWhole (serde : Serde) (pieces : List String) : Prop :=
  ∀ before after, pieces = before ++ after →
    (openaiResponsesCustomToolInputFromBridgeArguments serde (String.join before)).isSome = true →
      String.join after = ""

/-- The name is the proxy's own, or it is one; and a tool that has its input wrapped is of no
namespace, and its wrapper is not cut where one can be read. -/
def CallAgreesWhen (serde : Serde) (bridgeContext : Option ToolBridgeContext) (name : String)
    (pieces : List String) : Prop :=
  openaiResponsesCustomToolBridgePrefixIsReserved name = true ∨
    name ≠ "" ∧ (expectsWrapper bridgeContext name = true →
      bridgeContext.bind (ToolBridgeContext.namespaceBridgeSplit · name) = none ∧
        ReadsWhole serde pieces)

theorem EndsWith.unique {frames : List SseFrame} {item item' : CallItem}
    (h : EndsWith frames item) (h' : EndsWith frames item') : item = item' := by
  obtain ⟨found, hfound, rfl⟩ := h
  obtain ⟨found', hfound', rfl⟩ := h'
  obtain rfl := List.cons.inj (Option.some.inj (hfound.symm.trans hfound')) |>.1
  rfl

theorem EndsWith.iff_eq {frames : List SseFrame} {item item' : CallItem}
    (h : EndsWith frames item) : EndsWith frames item' ↔ item = item' := by
  constructor
  · exact fun h' => h.unique h'
  · rintro rfl
    exact h

/-- Two wrappers of which one is the start of the other are the same. -/
theorem wrapper_append {serde : Serde} {text more input input' : String}
    (h : openaiResponsesCustomToolInputFromBridgeArguments serde text = some input)
    (h' : openaiResponsesCustomToolInputFromBridgeArguments serde (text ++ more) = some input') :
    input' = input := by
  obtain ⟨value, hvalue, hinput⟩ := Option.bind_eq_some_iff.mp h
  obtain ⟨value', hvalue', hinput'⟩ := Option.bind_eq_some_iff.mp h'
  have hobject : ∀ n, value ≠ .number n := by
    rintro n rfl
    cases hinput
  rw [fromStr_append hvalue hobject hvalue', hinput] at hinput'
  exact (Option.some.inj hinput').symm

theorem callItem_eq_iff (id name : String) (namespaceName : Option String) {custom custom' : Bool}
    {payload payload' : String} :
    callItem id name namespaceName custom payload = callItem id name namespaceName custom' payload' ↔
      custom = custom' ∧ payload = payload' := by
  constructor
  · intro h
    have hinput := congrArg CallItem.input h
    have harguments := congrArg CallItem.arguments h
    cases custom with
    | true =>
      cases custom' with
      | true => exact ⟨rfl, Value.string.inj (Option.some.inj hinput)⟩
      | false => cases hinput
    | false =>
      cases custom' with
      | true => cases hinput
      | false => exact ⟨rfl, Value.string.inj (Option.some.inj harguments)⟩
  · rintro ⟨rfl, rfl⟩
    rfl

theorem no_wrapper_empty (serde : Serde) :
    openaiResponsesCustomToolInputFromBridgeArguments serde "" = none := rfl

/-- The call of a custom tool: the stream gets the input right if and only if it reads the wrapper
as a whole. -/
theorem wrapped_eq_iff (serde : Serde) (pieces : List String) :
    let call := (pieces.foldl (CallSoFar.feed
      (openaiResponsesCustomToolInputFromBridgeArguments serde) true) {}).flush
        (openaiResponsesCustomToolInputFromBridgeArguments serde) true true
    (match openaiResponsesCustomToolInputFromBridgeArguments serde (String.join pieces) with
      | some input => call.custom = true ∧ call.payload = input
      | none => call.custom = false ∧ call.payload = String.join pieces) ↔
      ReadsWhole serde pieces := by
  intro call
  have hstart : ({} : CallSoFar) = ⟨false, "", false⟩ := rfl
  rcases fold_wrapped pieces ""
    with ⟨hnone, hfold⟩ | ⟨before, after, input, rfl, hread, hshort, hfold⟩
  · -- No wrapper is ever read.
    have hnever : ∀ before after, pieces = before ++ after →
        openaiResponsesCustomToolInputFromBridgeArguments serde (String.join before) = none := by
      intro before after hsplit
      by_cases hne : before = []
      · rw [hne]
        exact no_wrapper_empty serde
      · rw [← String.empty_append (s := String.join before)]
        exact hnone before after hsplit hne
    have hwhole := hnever pieces [] (List.append_nil _).symm
    have hcall : call = ⟨false, String.join pieces, true⟩ := by
      show CallSoFar.flush _ true true (pieces.foldl _ {}) = _
      rw [hstart, hfold, String.empty_append]
      simp [CallSoFar.flush, hwhole]
    rw [hwhole, hcall]
    refine ⟨fun _ before after hsplit hsome => ?_, fun _ => ⟨rfl, rfl⟩⟩
    rw [hnever before after hsplit] at hsome
    cases hsome
  · have hcall : call = ⟨true, input ++ String.join after, true⟩ := by
      show CallSoFar.flush _ true true (List.foldl _ {} (before ++ after)) = _
      rw [hstart, hfold]
      exact CallSoFar.flush_added _ _ true rfl
    rw [String.empty_append] at hread
    rw [hcall, String.join_append]
    constructor
    · intro hsame shorter rest hsplit hsome
      -- The first wrapper is the whole text, so nothing is behind a later one.
      have hlast : String.join after = "" := by
        cases hwhole : openaiResponsesCustomToolInputFromBridgeArguments serde
            (String.join before ++ String.join after) with
        | none =>
          rw [hwhole] at hsame
          cases hsame.1
        | some input' =>
          rw [hwhole] at hsame
          have hinput := wrapper_append hread hwhole
          have hpayload : input ++ String.join after = input' := hsame.2
          have hlength := congrArg String.length (hpayload.trans hinput)
          rw [String.length_append] at hlength
          exact String.length_eq_zero_iff.mp (by omega)
      have hne : shorter ≠ [] := by
        rintro rfl
        rw [String.join_nil, no_wrapper_empty] at hsome
        cases hsome
      have hlonger : ¬ shorter.length < before.length := by
        intro hlength
        have hnone := hshort shorter rest hsplit hne hlength
        rw [String.empty_append] at hnone
        rw [hnone] at hsome
        cases hsome
      rcases List.append_eq_append_iff.mp hsplit with ⟨mid, rfl, rfl⟩ | ⟨mid, rfl, rfl⟩
      · rw [String.join_append] at hlast
        exact (String.append_eq_empty_iff.mp hlast).2
      · have hmid : mid = [] := by
          rw [List.length_append] at hlonger
          exact List.length_eq_zero_iff.mp (by omega)
        rw [hmid, List.nil_append]
        exact hlast
    · intro hreads
      have hlast := hreads before after rfl (by rw [hread]; rfl)
      rw [hlast, String.append_empty, hread, String.append_empty]
      exact ⟨rfl, rfl⟩

/-- The call of the stream is that of the whole, for a name that is one and is not the proxy's. -/
theorem streamed_eq_whole_iff (serde : Serde) (bridgeContext : Option Value) (said : SaidCall)
    {pieces : List String} (hpieces : String.join pieces = said.arguments) :
    let ctx := bridgeContext.bind ToolBridgeContext.fromValue
    let client := clientName bridgeContext said.name
    let call := completeCall serde bridgeContext said.name pieces
    callItem said.id client.2 client.1 call.custom call.payload = wholeItem serde ctx said ↔
      (expectsWrapper ctx said.name = true →
        ctx.bind (ToolBridgeContext.namespaceBridgeSplit · said.name) = none ∧
          ReadsWhole serde pieces) := by
  have hdecode : openaiCustomBridgeDecodeArgumentsStream serde =
      openaiResponsesCustomToolInputFromBridgeArguments serde := funext (decode_eq serde)
  unfold completeCall clientName wrapsCall wholeItem
  dsimp only
  rw [namespaceSplit_stream, expectsWrapper_stream, hdecode]
  generalize bridgeContext.bind ToolBridgeContext.fromValue = ctx
  -- Without a wrapper the arguments are those of the whole call.
  have hplain : ∀ call, call = (pieces.foldl (CallSoFar.feed
      (openaiResponsesCustomToolInputFromBridgeArguments serde) false) {}).flush
        (openaiResponsesCustomToolInputFromBridgeArguments serde) false true →
      call.custom = false ∧ call.payload = said.arguments := by
    rintro call rfl
    obtain ⟨hcustom, hpayload⟩ := fold_unwrapped pieces {}
    obtain ⟨hcustom', hpayload'⟩ := flush_unwrapped true
      (pieces.foldl (CallSoFar.feed (openaiResponsesCustomToolInputFromBridgeArguments serde) false)
        {})
    rw [hcustom', hpayload', hcustom, hpayload, hpieces, String.empty_append]
    exact ⟨rfl, rfl⟩
  cases hsplit : ctx.bind (ToolBridgeContext.namespaceBridgeSplit · said.name) with
  | some pair =>
    obtain ⟨ns, child⟩ := pair
    obtain ⟨hcustom, hpayload⟩ := hplain _ rfl
    simp only [Option.isNone_some, Bool.false_and, hcustom, hpayload]
    cases expectsWrapper ctx said.name with
    | false => simp
    | true =>
      rw [if_pos rfl]
      refine ⟨fun hsame => ?_, fun hnone => (nomatch (hnone rfl).1)⟩
      have hnamespace := congrArg CallItem.namespaceName hsame
      cases hinput : openaiResponsesCustomToolInputFromBridgeArguments serde said.arguments with
      | none =>
        rw [hinput] at hnamespace
        cases hnamespace
      | some input =>
        rw [hinput] at hnamespace
        cases hnamespace
  | none =>
    cases expectsWrapper ctx said.name with
    | false =>
      obtain ⟨hcustom, hpayload⟩ := hplain _ rfl
      simp [hcustom, hpayload]
    | true =>
      have hwrapped := wrapped_eq_iff serde pieces
      dsimp only at hwrapped
      rw [if_pos rfl]
      simp only [Option.isNone_none, Bool.true_and, forall_const, true_and]
      rw [← hwrapped, hpieces]
      cases openaiResponsesCustomToolInputFromBridgeArguments serde said.arguments with
      | none => exact callItem_eq_iff _ _ _
      | some input => exact callItem_eq_iff _ _ _

/-- **A call is the same for the client, streamed or whole**, however its arguments are cut, if and
only if its name is the proxy's own, or is one and no wrapper goes wrong. -/
theorem call_stream_agrees_iff (env : Env) (bridgeContext : Option Value) {toolCall : Value}
    {said : SaidCall} {index : Nat} {pieces : List String} {chunks : List Value}
    (hcall : IsCall toolCall said) (hpieces : String.join pieces = said.arguments)
    (hchunks : CutsCall index said.id said.name pieces chunks) :
    CallAgrees env (bridgeContext.bind ToolBridgeContext.fromValue) toolCall
        (responsesFrames env chunks { requestScopedToolBridgeContext := bridgeContext }) ↔
      CallAgreesWhen env.serde (bridgeContext.bind ToolBridgeContext.fromValue) said.name
        pieces := by
  unfold CallAgrees CallAgreesWhen
  cases hname : openaiResponsesCustomToolBridgePrefixIsReserved said.name with
  | true =>
    obtain ⟨message, hmessage⟩ := refused_of_call env
      (bridgeContext.bind ToolBridgeContext.fromValue) hcall hname
    rw [hmessage]
    refine ⟨fun _ => .inl rfl, fun _ => ?_⟩
    obtain ⟨told, last, after, htold, hne, _, _, _, rfl, _⟩ := hchunks.parts
    have ht : Talking bridgeContext none { requestScopedToolBridgeContext := bridgeContext } :=
      ⟨rfl, rfl, rfl, fun message hmessage => absurd hmessage List.not_mem_nil⟩
    refine ht.reserved env hname htold hne ?_ (last :: after)
    intro k
    rw [ite_self]
    rfl
  | false =>
    have hframes := frames_of_call env bridgeContext hname hchunks
    have hwhole := item_of_call env (bridgeContext.bind ToolBridgeContext.fromValue) hcall hname
    by_cases hempty : said.name = ""
    · rw [if_pos hempty] at hwhole
      obtain ⟨message, hmessage⟩ := hwhole
      rw [hmessage]
      obtain ⟨found, hfound, _⟩ := hframes
      simp [hfound, hempty]
    · rw [if_neg hempty] at hwhole
      obtain ⟨item, hitem, hread⟩ := hwhole
      rw [hitem]
      simp only [hread, Bool.false_eq_true, false_or, ne_eq, hempty, not_false_eq_true, true_and]
      rw [hframes.iff_eq]
      exact streamed_eq_whole_iff env.serde bridgeContext said hpieces

/-- The client's tool `look_around` is a custom one. -/
def lookAroundBridge : Value :=
  .object [("version", .nat 3), ("purpose", .string "openai_responses_custom_tool_bridge"),
    ("entries", .object [("look_around", .object [("stable_name", .string "look_around"),
      ("source_kind", .string "custom_text"), ("transport_kind", .string "function_object_wrapper"),
      ("wrapper_field", .string "input"),
      ("expected_canonical_shape", .string "single_required_string")])])]

/-- The arguments are cut in two; the response has no text. -/
def lookAroundChunks (piece piece' : String) : List Value :=
  [completionChunk (.ofFields [("tool_calls", .array [lookAround piece])]) .null,
    completionChunk (.ofFields [("tool_calls", .array [moreArguments piece'])]) .null,
    completionChunk (.ofFields []) (.string "tool_calls")]

theorem moreArguments_isArguments (piece : String) :
    ArgumentsDelta (moreArguments piece) 0 piece where
  index := (moreArguments_continues piece).index
  id := (moreArguments_continues piece).id
  type := Value.get_ofFields _ _
  noKind := (moreArguments_continues piece).kind
  unmarked := Value.get_ofFields _ _
  functionName := by
    rw [toolCallFunctionField, moreArguments, Value.get_ofFields]
    show (Value.ofFields [("arguments", .string piece)]).getStr "name" = none
    exact Value.getStr_ofFields _ _
  arguments := (moreArguments_continues piece).arguments

theorem firstChoice_completionChunk (delta finishReason : Value) :
    firstChoice (completionChunk delta finishReason) =
      some (.ofFields [("delta", delta), ("finish_reason", finishReason)]) := by
  rw [firstChoice, completionChunk, Value.getArray, Value.get_ofFields]
  rfl

theorem finishReasonOf_completionChunk (delta finishReason : Value) :
    finishReasonOf (completionChunk delta finishReason) = finishReason.asStr := by
  rw [finishReasonOf, firstChoice_completionChunk, Option.bind_some]
  exact Value.getStr_ofFields _ _

theorem callsOf_completionChunk (delta finishReason : Value) :
    callsOf (completionChunk delta finishReason) = (delta.getArray "tool_calls").getD [] := by
  rw [callsOf, firstChoice_completionChunk, Option.bind_some, Value.get_ofFields]
  rfl

theorem namesMinimax_completionChunk (delta finishReason : Value) :
    namesMinimax (completionChunk delta finishReason) = false := by
  have hmodel : (completionChunk delta finishReason).getStr "model" = none :=
    Value.getStr_ofFields _ _
  rw [namesMinimax, firstChoice_completionChunk, hmodel, Option.bind_some, Value.get_ofFields]
  rfl

theorem lookAroundChunks_cuts (piece piece' : String) :
    CutsCall 0 "call_1" "look_around" [piece, piece'] (lookAroundChunks piece piece') where
  parts := by
    have hcalls : ∀ tc, callsOf (completionChunk (.ofFields [("tool_calls", .array [tc])]) .null) =
        [tc] := by
      intro tc
      rw [callsOf_completionChunk, Value.getArray, Value.get_ofFields]
      rfl
    have hstarts : TellsPieces 0 "call_1" "look_around" []
        (callsOf (completionChunk (.ofFields [("tool_calls", .array [lookAround piece])]) .null))
        [piece] := by
      rw [hcalls]
      exact .starts (lookAround_starts piece) (Value.get_ofFields _ _) .nil
    have hcontinues : TellsPieces 0 "call_1" "look_around" [piece]
        (callsOf (completionChunk (.ofFields [("tool_calls", .array [moreArguments piece'])])
          .null)) [piece, piece'] := by
      rw [hcalls]
      exact .continues (List.cons_ne_nil _ _) (moreArguments_isArguments piece') .nil
    refine ⟨_, _, [], .chunk (finishReasonOf_completionChunk _ _) hstarts
      (.chunk (finishReasonOf_completionChunk _ _) hcontinues .nil), List.cons_ne_nil _ _,
      finishReasonOf_completionChunk _ _, callsOf_completionChunk _ _,
      fun _ h => absurd h List.not_mem_nil, rfl, .inr ?_⟩
    intro chunk hchunk
    simp only [lookAroundChunks, List.mem_cons, List.not_mem_nil, or_false] at hchunk
    rcases hchunk with rfl | rfl | rfl
    · exact namesMinimax_completionChunk _ _
    · exact namesMinimax_completionChunk _ _
    · exact namesMinimax_completionChunk _ _

theorem call_stream_agrees_iff_lookAround :
    CallAgrees .still ((some lookAroundBridge).bind ToolBridgeContext.fromValue)
        (lookAround "\x7b\"input\": \"north\"\x7d")
        (responsesFrames .still (lookAroundChunks "\x7b\"input\": \"no" "rth\"\x7d")
          { requestScopedToolBridgeContext := some lookAroundBridge }) ↔
      CallAgreesWhen Env.still.serde ((some lookAroundBridge).bind ToolBridgeContext.fromValue)
        "look_around" ["\x7b\"input\": \"no", "rth\"\x7d"] :=
  call_stream_agrees_iff .still (some lookAroundBridge) (lookAround_isCall _) (by decide +kernel)
    (lookAroundChunks_cuts _ _)

/-- A blank behind the wrapper gets into the input. -/
theorem streamed_input_has_blank :
    ∃ (toolCall : Value) (said : SaidCall) (pieces : List String) (chunks : List Value),
      IsCall toolCall said ∧ String.join pieces = said.arguments ∧
      CutsCall 0 said.id said.name pieces chunks ∧
      ¬ CallAgrees .still ((some lookAroundBridge).bind ToolBridgeContext.fromValue) toolCall
        (responsesFrames .still chunks
          { requestScopedToolBridgeContext := some lookAroundBridge }) := by
  have hcall := lookAround_isCall "\x7b\"input\": \"north\"\x7d "
  have hchunks := lookAroundChunks_cuts "\x7b\"input\": \"north\"\x7d" " "
  refine ⟨_, _, _, _, hcall, by decide +kernel, hchunks, ?_⟩
  have hname : openaiResponsesCustomToolBridgePrefixIsReserved "look_around" = false := by
    decide +kernel
  have hframes := frames_of_call Env.still (some lookAroundBridge) hname hchunks
  have hwhole := item_of_call Env.still
    ((some lookAroundBridge).bind ToolBridgeContext.fromValue) hcall hname
  rw [if_neg (by decide)] at hwhole
  obtain ⟨item, hitem, hread⟩ := hwhole
  unfold CallAgrees
  rw [hitem]
  dsimp only
  rw [hread]
  intro hagrees
  have hsame := congrArg CallItem.input (hframes.unique hagrees)
  revert hsame
  decide +kernel

end LlmUniversalProxy.Streaming
