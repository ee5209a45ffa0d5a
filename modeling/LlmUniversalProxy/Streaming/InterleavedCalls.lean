import LlmUniversalProxy.Streaming.CallsCarried

/-!
# `Streaming.InterleavedCalls` — the tool calls of a Responses stream, in any order

The events of several calls may come in between each other, in every order that the stream of one
call allows. `interleaved_calls` says that a client of Chat gets the arguments of every call, and
the input of a custom tool in a wrapper that is closed. The induction is over the events, with
`Carries` of `Streaming.CallsCarried` as its invariant.

A call with a name of the proxy's own is refused and not entered, and an event that was meant for it
may then be taken for another call's (`reserved_call_is_mixed_up`). Such a stream has been rejected,
so nothing of it is promised.
-/

set_option autoImplicit false

namespace LlmUniversalProxy.Streaming

open Json Lib Translate

/-! ## A whole stream -/

theorem items_closeFinal (calls : List ItemCall) (final : FinalCustomCall) :
    (closeFinal calls final).map ItemCall.item = calls.map ItemCall.item := by
  unfold closeFinal
  rw [List.map_map]
  refine List.map_congr_left fun call _ => ?_
  show (ite _ _ _ : ItemCall).item = call.item
  split
  · exact ItemCall.close_item _ _
  · rfl

/-- A call that has been announced stays one. -/
theorem items_grow {calls calls' : List ItemCall} {event : Value}
    (h : CallEvent calls event calls') :
    calls.map ItemCall.item <+: calls'.map ItemCall.item := by
  cases h with
  | added hadded hapart =>
    rw [List.map_append]
    exact List.prefix_append _ _
  | piece habout htype hopen =>
    refine Eq.subst (items_set habout.1 ?_).symm List.prefix_rfl
    exact ItemCall.extend_item _ _
  | done habout htype hfull hcloses =>
    refine Eq.subst (items_set habout.1 ?_).symm List.prefix_rfl
    exact ItemCall.close_item _ _
  | ended htype hcloses =>
    clear hcloses
    generalize finalCalls event = finals
    induction finals generalizing calls with
    | nil => exact List.prefix_rfl
    | cons final finals ih =>
      rw [List.foldl_cons, ← items_closeFinal calls final]
      exact ih
  | aside haside => exact List.prefix_rfl

theorem items_grow_run {calls calls' : List ItemCall} {events : List Value}
    (h : CallEvents calls events calls') :
    calls.map ItemCall.item <+: calls'.map ItemCall.item := by
  induction h with
  | nil => exact List.prefix_rfl
  | cons hevent _ ih => exact (items_grow hevent).trans ih

theorem Carries.run (env : Env) {calls calls' : List ItemCall} {events : List Value}
    (hevents : CallEvents calls events calls')
    (hpublic : ∀ call ∈ calls',
      openaiResponsesCustomToolBridgePrefixIsReserved call.item.name = false)
    {p : StreamState × Folded} (h : Carries calls p.1 p.2) :
    Carries calls' (foldEvents (responsesEventToOpenaiChunks env) events p).1
      (foldEvents (responsesEventToOpenaiChunks env) events p).2 := by
  induction hevents generalizing p with
  | nil => exact h
  | cons hevent hrest ih =>
    rw [foldEvents_cons]
    refine ih hpublic (h.step env hevent fun call hcall => ?_)
    -- A call that is known now is among those of the end.
    have hmem := (items_grow_run hrest).subset (List.mem_map_of_mem hcall)
    obtain ⟨last, hlast, hitem⟩ := List.mem_map.mp hmem
    rw [← hitem]
    exact hpublic last hlast

/-- **A client gets the arguments of every call**, in whatever order the events come, as long as no
call has a name of the proxy's own. -/
theorem interleaved_calls (env : Env) {events : List Value} {calls : List ItemCall}
    (hevents : CallEvents [] events calls)
    (hpublic : ∀ call ∈ calls,
      openaiResponsesCustomToolBridgePrefixIsReserved call.item.name = false)
    {i : Nat} {call : ItemCall} (hcall : calls[i]? = some call) (hcomplete : call.Complete) :
    (foldEvents (responsesEventToOpenaiChunks env) events ({}, {})).2.toolCalls[i]? =
        some ⟨i, some call.item.callId, some call.item.name, call.arguments⟩ ∧
      (call.item.custom = true →
        openaiCustomBridgeDecodeArgumentsStream env.serde call.arguments = some call.payload) := by
  have hstart : Carries [] ({} : StreamState) ({} : Folded) :=
    ⟨⟨rfl, fun _ => .none, List.Pairwise.nil⟩, rfl⟩
  have hend := hstart.run env hevents hpublic (p := ({}, {}))
  constructor
  · rw [hend.told, List.getElem?_mapIdx, hcall, Option.map_some, ItemCall.told,
      ItemCall.spelled_of_complete hcomplete]
  · intro hcustom
    unfold ItemCall.arguments
    rw [if_pos hcustom]
    exact decode_wrapper env.serde call.payload

/-! ### A function and a custom tool, in between each other -/

def lookupItem : ToolItem := ⟨false, "fc_1", 0, "call_1", "lookup"⟩

def codeItem : ToolItem := ⟨true, "ctc_1", 1, "call_2", "code_exec"⟩

/-- A function under a name of the proxy's own. -/
def reservedItem : ToolItem := ⟨false, "fc_2", 1, "call_2", openaiResponsesCustomBridgePrefix⟩

def announcedItem (item : ToolItem) : Value :=
  .ofFields [("type", .string item.itemType), ("id", .string item.itemId),
    ("call_id", .string item.callId), ("name", .string item.name)]

def toolAdded (item : ToolItem) : Value :=
  .ofFields [("type", .string "response.output_item.added"),
    ("output_index", .nat item.outputIndex), ("item", announcedItem item)]

def toolPiece (item : ToolItem) (piece : String) : Value :=
  .ofFields [("type", .string item.deltaType), ("item_id", .string item.itemId),
    ("delta", .string piece)]

def completedWith (item : ToolItem) (input : String) : Value :=
  .ofFields [("type", .string "response.completed"), ("response", .ofFields [("output",
    .array [.ofFields [("type", .string item.itemType), ("call_id", .string item.callId),
      ("input", .string input)]])])]

theorem toolAdded_isToolAdded (item : ToolItem) : IsToolAdded item "" (toolAdded item) where
  type := by
    rw [toolAdded, Value.getStr_ofFields]
    rfl
  index := by
    rw [toolAdded, Value.getU64, Value.get_ofFields]
    rfl
  announced := by
    refine ⟨announcedItem item, by rw [toolAdded, Value.get_ofFields]; rfl, ?_⟩
    unfold announcedItem ToolItem.payloadField
    simp only [Value.getStr_ofFields]
    refine ⟨rfl, rfl, rfl, rfl, ?_⟩
    cases item.custom <;> rfl

theorem toolPiece_isAbout {calls : List ItemCall} {i : Nat} {call : ItemCall}
    (hcall : calls[i]? = some call) (piece : String) :
    IsAbout (toolPiece call.item piece) calls i call := by
  refine ⟨hcall, Or.inl ?_⟩
  rw [toolPiece, Value.getStr_ofFields]
  rfl

/-- The input of the custom tool is closed by the final output. -/
def mixedEvents : List Value :=
  [toolAdded lookupItem, toolAdded codeItem, toolPiece codeItem "print(", toolPiece lookupItem "\x7b",
    toolPiece codeItem "\"hi\")", toolPiece lookupItem "\x7d", completedWith codeItem "print(\"hi\")"]

def mixedCalls : List ItemCall := [⟨lookupItem, "\x7b\x7d", false⟩, ⟨codeItem, "print(\"hi\")", true⟩]

theorem mixed_apart : lookupItem.Apart codeItem := ⟨by decide, by decide, by decide⟩

theorem CallEvent.of_piece {calls calls' : List ItemCall} (i : Nat) (call : ItemCall)
    {piece : String} (hcall : calls[i]? = some call) (hopen : call.closed = false)
    (hcalls : calls.set i (call.extend piece) = calls') :
    CallEvent calls (toolPiece call.item piece) calls' := by
  have htype : (toolPiece call.item piece).getStr "type" = some call.item.deltaType := by
    rw [toolPiece, Value.getStr_ofFields]
    rfl
  have hpiece := CallEvent.piece (toolPiece_isAbout hcall piece) htype hopen
  have hdelta : ((toolPiece call.item piece).getStr "delta").getD "" = piece := by
    rw [toolPiece, Value.getStr_ofFields]
    rfl
  rw [hdelta, hcalls] at hpiece
  exact hpiece

/-- All has come but the end. -/
def mixedOpen : List ItemCall := [⟨lookupItem, "\x7b\x7d", false⟩, ⟨codeItem, "print(\"hi\")", false⟩]

theorem mixed_ended :
    CallEvent mixedOpen (completedWith codeItem "print(\"hi\")") mixedCalls := by
  have hfinals : finalCalls (completedWith codeItem "print(\"hi\")") =
      [⟨"call_2", "print(\"hi\")"⟩] := rfl
  have hcloses : ∀ final ∈ finalCalls (completedWith codeItem "print(\"hi\")"),
      ∀ call ∈ mixedOpen, call.item.callId = final.callId → call.ClosesWith final.fullInput := by
    intro final hfinal call hcall hid _ _
    rw [hfinals, List.mem_singleton] at hfinal
    subst hfinal
    rcases List.mem_cons.mp hcall with rfl | hcall
    · exact absurd hid (by decide)
    · obtain rfl := List.mem_singleton.mp hcall
      exact ⟨"", (String.append_empty).symm⟩
  have hended := CallEvent.ended (by decide +kernel) hcloses
  rw [hfinals] at hended
  exact hended

theorem mixed_calls : CallEvents [] mixedEvents mixedCalls := by
  refine .cons (.added (toolAdded_isToolAdded lookupItem) fun _ h => (nomatch h)) ?_
  refine .cons (.added (toolAdded_isToolAdded codeItem) ?_) ?_
  · intro call hcall
    rw [List.mem_singleton.mp hcall]
    exact mixed_apart
  have hprint : CallEvent [⟨lookupItem, "", false⟩, ⟨codeItem, "", false⟩]
      (toolPiece codeItem "print(") [⟨lookupItem, "", false⟩, ⟨codeItem, "print(", false⟩] :=
    .of_piece 1 ⟨codeItem, "", false⟩ rfl rfl (by decide)
  have hopening : CallEvent [⟨lookupItem, "", false⟩, ⟨codeItem, "print(", false⟩]
      (toolPiece lookupItem "\x7b") [⟨lookupItem, "\x7b", false⟩, ⟨codeItem, "print(", false⟩] :=
    .of_piece 0 ⟨lookupItem, "", false⟩ rfl rfl (by decide)
  have hhi : CallEvent [⟨lookupItem, "\x7b", false⟩, ⟨codeItem, "print(", false⟩]
      (toolPiece codeItem "\"hi\")")
      [⟨lookupItem, "\x7b", false⟩, ⟨codeItem, "print(\"hi\")", false⟩] :=
    .of_piece 1 ⟨codeItem, "print(", false⟩ rfl rfl (by decide)
  have hclosing : CallEvent [⟨lookupItem, "\x7b", false⟩, ⟨codeItem, "print(\"hi\")", false⟩]
      (toolPiece lookupItem "\x7d") mixedOpen :=
    .of_piece 0 ⟨lookupItem, "\x7b", false⟩ rfl rfl (by decide)
  exact .cons hprint (.cons hopening (.cons hhi (.cons hclosing (.cons mixed_ended .nil))))

theorem mixed_public : ∀ call ∈ mixedCalls,
    openaiResponsesCustomToolBridgePrefixIsReserved call.item.name = false := by decide +kernel

theorem interleaved_calls_mixed :
    (foldEvents (responsesEventToOpenaiChunks Env.still) mixedEvents ({}, {})).2.toolCalls[1]? =
        some ⟨1, some "call_2", some "code_exec",
          Value.toJson (.object [("input", .string "print(\"hi\")")])⟩ ∧
      (true = true → openaiCustomBridgeDecodeArgumentsStream Env.still.serde
        (Value.toJson (.object [("input", .string "print(\"hi\")")])) = some "print(\"hi\")") :=
  interleaved_calls Env.still mixed_calls mixed_public (i := 1)
    (rfl : mixedCalls[1]? = some ⟨codeItem, "print(\"hi\")", true⟩) fun _ => rfl

/-- A call that is refused is not forgotten by the upstream: what comes for it goes to another. -/
def reservedEvents : List Value :=
  [toolAdded lookupItem, toolAdded reservedItem, toolPiece reservedItem "\x7b\x7d"]

theorem reserved_calls : CallEvents [] reservedEvents
    [⟨lookupItem, "", false⟩, ⟨reservedItem, "\x7b\x7d", false⟩] := by
  refine .cons (.added (toolAdded_isToolAdded lookupItem) fun _ h => (nomatch h)) ?_
  refine .cons (.added (toolAdded_isToolAdded reservedItem) ?_) ?_
  · intro call hcall
    rw [List.mem_singleton.mp hcall]
    exact ⟨by decide, by decide, by decide⟩
  have hpiece : CallEvent [⟨lookupItem, "", false⟩, ⟨reservedItem, "", false⟩]
      (toolPiece reservedItem "\x7b\x7d")
      [⟨lookupItem, "", false⟩, ⟨reservedItem, "\x7b\x7d", false⟩] :=
    .of_piece 1 ⟨reservedItem, "", false⟩ rfl rfl (by decide +kernel)
  exact .cons hpiece .nil

theorem reserved_call_is_mixed_up :
    ¬ ∀ (env : Env) (events : List Value) (calls : List ItemCall) (i : Nat) (call : ItemCall),
      CallEvents [] events calls → calls[i]? = some call → call.Complete →
      (foldEvents (responsesEventToOpenaiChunks env) events ({}, {})).2.toolCalls[i]? =
          some ⟨i, some call.item.callId, some call.item.name, call.arguments⟩ ∧
        (call.item.custom = true →
          openaiCustomBridgeDecodeArgumentsStream env.serde call.arguments = some call.payload) := by
  intro h
  have hlookup := (h Env.still reservedEvents _ 0 ⟨lookupItem, "", false⟩ reserved_calls rfl
    (fun hcustom => (nomatch hcustom))).1
  revert hlookup
  decide +kernel

end LlmUniversalProxy.Streaming
