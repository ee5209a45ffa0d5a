import LlmUniversalProxy.Lib.Pending
import LlmUniversalProxy.Lib.Result
import LlmUniversalProxy.Server.BridgeAccounting
import LlmUniversalProxy.Server.BridgeTurn

/-!
# `Server.BridgeReplay` — which stored transcripts can be replayed

A transcript is a log of tool calls that are opened and closed, and `pendingBridgeToolCalls` settles
it (`pendingFrom_regular`). A request that is waiting for its answer has left nothing open: a first
turn brings texts only, and a continuation is accepted when its outputs close exactly what the
stored transcript left open. So all that a capture can break is what it opens itself.

It does not look: the calls of an upstream response are stored as they come. A response in which two
calls of one kind share an id is stored under an id that can never be continued.

The calls are stored by `responses_bridge_output_items_from_response` and read back by
`pending_bridge_tool_calls` (`server/proxy.rs` 2886-3034 and 2738-2796).
-/

set_option autoImplicit false

namespace LlmUniversalProxy.Server

open Json Lib

/-! ## Items as marks -/

/-- An item of a transcript in normal form, and what it does to the pending calls. -/
inductive Regular (item : Value) : Mark PendingBridgeToolCall → Prop
  | message : responsesBridgeItemType item = some "message" → Regular item .neutral
  | reasoning : responsesBridgeItemType item = some "reasoning" → Regular item .neutral
  | call (kind : BridgeToolCallKind) (callId : String) :
      responsesBridgeItemType item = some kind.callItemType →
      item.getStr "call_id" = some callId → callId.isEmpty = false →
      Regular item (.opens ⟨callId, kind⟩)
  | output (kind : BridgeToolCallKind) (callId : String) :
      responsesBridgeItemType item = some kind.outputItemType →
      item.getStr "call_id" = some callId → callId.isEmpty = false →
      Regular item (.closes ⟨callId, kind⟩)

theorem nonEmptyStringField_ok {item : Value} {field itemType value : String}
    (hfield : item.getStr field = some value) (hvalue : value.isEmpty = false) :
    nonEmptyStringField item field itemType = .ok value := by
  have hfilter : (some value).filter (fun value => !value.isEmpty) = some value := by
    simp [Option.filter, hvalue]
  rw [nonEmptyStringField, hfield, hfilter]
  rfl

theorem nonEmptyStringField_inv {item : Value} {field itemType value : String}
    (h : nonEmptyStringField item field itemType = .ok value) :
    item.getStr field = some value ∧ value.isEmpty = false := by
  unfold nonEmptyStringField at h
  split at h
  · next found hfound =>
    cases h
    obtain ⟨hfield, hvalue⟩ := Option.filter_eq_some_iff.mp hfound
    exact ⟨hfield, by simpa using hvalue⟩
  · cases h

@[simp] theorem callKind_callItemType (kind : BridgeToolCallKind) :
    bridgeToolCallKindForItemType kind.callItemType = some kind := by cases kind <;> rfl

@[simp] theorem callKind_outputItemType (kind : BridgeToolCallKind) :
    bridgeToolCallKindForItemType kind.outputItemType = none := by cases kind <;> rfl

@[simp] theorem outputKind_outputItemType (kind : BridgeToolCallKind) :
    bridgeToolOutputKindForItemType kind.outputItemType = some kind := by cases kind <;> rfl

@[simp] theorem outputKind_callItemType (kind : BridgeToolCallKind) :
    bridgeToolOutputKindForItemType kind.callItemType = none := by cases kind <;> rfl

theorem findIdx_eq_idxOf (pending : List PendingBridgeToolCall) (callId : String)
    (kind : BridgeToolCallKind) :
    (pending.findIdx? fun other => other.callId = callId ∧ other.kind = kind) =
      pending.idxOf? ⟨callId, kind⟩ := by
  refine congrArg (fun p => pending.findIdx? p) (funext fun other => ?_)
  rw [Bool.eq_iff_iff, decide_eq_true_iff, beq_iff_eq, PendingBridgeToolCall.mk.injEq]

/-- The loop of `pending_bridge_tool_calls` does to the pending calls what the item's mark says. -/
theorem pendingAfterItem_regular {item : Value} {mark : Mark PendingBridgeToolCall}
    (h : Regular item mark) (pending : List PendingBridgeToolCall) :
    (pendingAfterItem pending item).toOption = Mark.settle pending [mark] := by
  unfold pendingAfterItem
  cases h with
  | message htype => rw [htype]; rfl
  | reasoning htype => rw [htype]; rfl
  | call kind callId htype hcall hne =>
    rw [htype]
    simp only [callKind_callItemType, nonEmptyStringField_ok hcall hne, bind, Except.bind]
    have hany : (pending.any fun other => other = (⟨callId, kind⟩ : PendingBridgeToolCall)) =
        decide (⟨callId, kind⟩ ∈ pending) := by
      rw [Bool.eq_iff_iff, List.any_eq_true, decide_eq_true_iff]
      simp
    rw [hany]
    by_cases hmem : ⟨callId, kind⟩ ∈ pending
    · simp [Mark.settle, hmem]
      rfl
    · simp [Mark.settle, hmem]
      rfl
  | output kind callId htype hcall hne =>
    rw [htype]
    simp only [callKind_outputItemType, outputKind_outputItemType, responsesToolCallOutputCallId,
      nonEmptyStringField_ok hcall hne, bind, Except.bind, findIdx_eq_idxOf]
    by_cases hmem : ⟨callId, kind⟩ ∈ pending
    · have hany : (pending.any fun other => other.callId = callId) = true :=
        List.any_eq_true.mpr ⟨_, hmem, decide_eq_true rfl⟩
      have herase := List.erase_eq_eraseIdx pending ⟨callId, kind⟩
      cases hidx : pending.idxOf? ⟨callId, kind⟩ with
      | none => exact absurd hmem (List.idxOf?_eq_none_iff.mp hidx)
      | some index =>
        rw [hidx] at herase
        simp [Mark.settle, hmem, hany, herase]
        rfl
    · have hidx : pending.idxOf? ⟨callId, kind⟩ = none := List.idxOf?_eq_none_iff.mpr hmem
      rw [hidx]
      simp only [Mark.settle, if_neg hmem]
      split <;> rfl

/-- **`pending_bridge_tool_calls` settles the log of a transcript in normal form.** -/
theorem pendingFrom_regular {items : List Value} {marks : List (Mark PendingBridgeToolCall)}
    (h : List.Forall₂ Regular items marks) :
    ∀ pending, (pendingFrom pending items).toOption = Mark.settle pending marks := by
  induction h with
  | nil => intro pending; rfl
  | @cons item mark items marks hitem _ ih =>
    intro pending
    have hstep := pendingAfterItem_regular hitem pending
    rw [show mark :: marks = [mark] ++ marks from rfl, Mark.settle_append, ← hstep]
    simp only [pendingFrom, bind, Except.bind]
    cases hafter : pendingAfterItem pending item with
    | error e => rfl
    | ok next => exact ih next

/-! ## The normal forms -/

theorem itemType_ofFields (itemType : String) (fields : List (String × Value)) :
    responsesBridgeItemType (.ofFields (("type", .string itemType) :: fields)) = some itemType := by
  simp [responsesBridgeItemType, Value.getStr]

theorem callId_ofFields (itemType callId : String) (fields : List (String × Value)) :
    Value.getStr (.ofFields (("type", .string itemType) :: ("call_id", .string callId) :: fields))
      "call_id" = some callId := by
  simp [Value.getStr, List.lookup_cons]

theorem regular_textMessage (role textType text : String) :
    Regular (responsesTextMessageItem role textType text) .neutral :=
  .message (itemType_ofFields _ _)

theorem regular_toolCallOutput {item v : Value} (kind : BridgeToolCallKind)
    {textOnlyOutput : Bool}
    (h : responsesToolCallOutputItem item kind.outputItemType textOnlyOutput = .ok v) :
    ∃ callId, Regular v (.closes ⟨callId, kind⟩) := by
  unfold responsesToolCallOutputItem at h
  split at h
  · cases h
  · split at h
    · cases h
    · obtain ⟨callId, hcall, h⟩ := Result.bind_ok.mp h
      split at h
      · cases h
      · obtain ⟨output, _, h⟩ := Result.bind_ok.mp h
        cases h
        exact ⟨callId, .output kind callId (itemType_ofFields _ _) (callId_ofFields _ _ _)
          (nonEmptyStringField_inv hcall).2⟩

theorem regular_textInput {item v : Value} (h : responsesTextInputItem item = .ok v) :
    Regular v .neutral := by
  unfold responsesTextInputItem at h
  simp only at h
  split at h
  · cases h
  · split at h
    · cases h
    · obtain ⟨text, _, h⟩ := Result.bind_ok.mp h
      cases h
      exact regular_textMessage _ _ _

/-- The request side opens no calls. -/
theorem regular_inputItem {item v : Value} (h : responsesBridgeInputItem item = .ok v) :
    ∃ mark, Regular v mark ∧ mark.opened = none := by
  unfold responsesBridgeInputItem at h
  split at h
  · exact ⟨_, regular_textInput h, rfl⟩
  · obtain ⟨callId, hregular⟩ := regular_toolCallOutput .function h
    exact ⟨_, hregular, rfl⟩
  · obtain ⟨callId, hregular⟩ := regular_toolCallOutput .custom h
    exact ⟨_, hregular, rfl⟩
  · cases h
  · cases h
  · cases h

/-- The call an item of an upstream response makes. -/
def itemCall (item : Value) : Option PendingBridgeToolCall :=
  ((responsesBridgeItemType item).bind bridgeToolCallKindForItemType).bind fun kind =>
    (item.getStr "call_id").map fun callId => ⟨callId, kind⟩

theorem regular_functionCall {serde : Serde} {item v : Value}
    (htype : responsesBridgeItemType item = some "function_call")
    (h : responsesFunctionCallItem serde item = .ok v) :
    ∃ call, itemCall item = some call ∧ Regular v (.opens call) := by
  unfold responsesFunctionCallItem at h
  split at h
  · cases h
  · split at h
    · cases h
    · obtain ⟨callId, hcall, h⟩ := Result.bind_ok.mp h
      obtain ⟨name, _, h⟩ := Result.bind_ok.mp h
      obtain ⟨arguments, _, h⟩ := Result.bind_ok.mp h
      obtain ⟨_, _, h⟩ := Result.bind_ok.mp h
      cases h
      obtain ⟨hfield, hne⟩ := nonEmptyStringField_inv hcall
      refine ⟨⟨callId, .function⟩, ?_, .call .function callId (itemType_ofFields _ _)
        (callId_ofFields _ _ _) hne⟩
      simp [itemCall, htype, hfield, bridgeToolCallKindForItemType]

theorem regular_customToolCall {item v : Value}
    (htype : responsesBridgeItemType item = some "custom_tool_call")
    (h : responsesCustomToolCallItem item = .ok v) :
    ∃ call, itemCall item = some call ∧ Regular v (.opens call) := by
  unfold responsesCustomToolCallItem at h
  split at h
  · cases h
  · split at h
    · cases h
    · obtain ⟨callId, hcall, h⟩ := Result.bind_ok.mp h
      obtain ⟨name, _, h⟩ := Result.bind_ok.mp h
      split at h
      · cases h
      · cases h
        obtain ⟨hfield, hne⟩ := nonEmptyStringField_inv hcall
        refine ⟨⟨callId, .custom⟩, ?_, .call .custom callId (itemType_ofFields _ _)
          (callId_ofFields _ _ _) hne⟩
        simp [itemCall, htype, hfield, bridgeToolCallKindForItemType]

/-- The response side closes no calls, and what it opens are the calls of the upstream's items. -/
theorem regular_outputItem {serde : Serde} {item : Value} {out : Option Value}
    (h : responsesBridgeOutputItem serde item = .ok out) :
    ∃ marks, List.Forall₂ Regular out.toList marks ∧ (∀ mark ∈ marks, mark.closed = none) ∧
      marks.filterMap Mark.opened = (itemCall item).toList := by
  have htext : responsesBridgeItemType item = some "message" →
      ∀ v, Regular v .neutral → ∃ marks, List.Forall₂ Regular (some v).toList marks ∧
        (∀ mark ∈ marks, mark.closed = none) ∧
        marks.filterMap Mark.opened = (itemCall item).toList := by
    intro htype v hv
    refine ⟨[.neutral], .cons hv .nil, by simp [Mark.closed], ?_⟩
    simp [itemCall, htype, bridgeToolCallKindForItemType, Mark.opened]
  have hcall : ∀ v, (∃ call, itemCall item = some call ∧ Regular v (.opens call)) →
      ∃ marks, List.Forall₂ Regular (some v).toList marks ∧
        (∀ mark ∈ marks, mark.closed = none) ∧
        marks.filterMap Mark.opened = (itemCall item).toList := by
    rintro v ⟨call, hitem, hv⟩
    exact ⟨[.opens call], .cons hv .nil, by simp [Mark.closed], by simp [hitem, Mark.opened]⟩
  unfold responsesBridgeOutputItem at h
  split at h
  · next htype =>
    obtain ⟨v, hv, rfl⟩ := Result.map_ok.mp h
    refine htext htype v ?_
    unfold responsesTextOutputItem at hv
    split at hv
    · cases hv
    · split at hv
      · cases hv
      · obtain ⟨text, _, hv⟩ := Result.bind_ok.mp hv
        cases hv
        exact regular_textMessage _ _ _
  · next htype =>
    have hnone : itemCall item = none := by
      simp [itemCall, htype, bridgeToolCallKindForItemType]
    have hempty : ∃ marks, List.Forall₂ Regular (none : Option Value).toList marks ∧
        (∀ mark ∈ marks, mark.closed = none) ∧
        marks.filterMap Mark.opened = (itemCall item).toList :=
      ⟨[], .nil, by simp, by simp [hnone]⟩
    unfold responsesReasoningOutputItem at h
    split at h
    · cases h
    · simp only at h
      split at h
      · cases h
        exact hempty
      · split at h
        · cases h
          exact hempty
        · cases h
          exact ⟨[.neutral], .cons (.reasoning (itemType_ofFields _ _)) .nil,
            by simp [Mark.closed], by simp [hnone, Mark.opened]⟩
  · next htype =>
    obtain ⟨v, hv, rfl⟩ := Result.map_ok.mp h
    exact hcall v (regular_functionCall htype hv)
  · next htype =>
    obtain ⟨v, hv, rfl⟩ := Result.map_ok.mp h
    exact hcall v (regular_customToolCall htype hv)
  · cases h

/-! ## A whole answer, a whole continuation -/

/-- The calls that an upstream response makes, in order. -/
def responseToolCalls (response : Value) : List PendingBridgeToolCall :=
  ((response.getArray "output").getD []).filterMap itemCall

/-- No two calls of the response share id and kind. -/
def DistinctCalls (response : Value) : Prop := (responseToolCalls response).Nodup

instance (response : Value) : Decidable (DistinctCalls response) :=
  inferInstanceAs (Decidable (List.Nodup _))

theorem regular_outputItems {serde : Serde} {output : List Value} {outs : List (Option Value)}
    (h : List.Forall₂ (fun item out => responsesBridgeOutputItem serde item = .ok out)
      output outs) :
    ∃ marks, List.Forall₂ Regular (outs.filterMap id) marks ∧
      (∀ mark ∈ marks, mark.closed = none) ∧
      marks.filterMap Mark.opened = output.filterMap itemCall := by
  induction h with
  | nil => exact ⟨[], .nil, by simp, rfl⟩
  | @cons item out output outs hitem _ ih =>
    obtain ⟨marks, hmarks, hclosed, hopened⟩ := regular_outputItem hitem
    obtain ⟨rest, hrest, hrestClosed, hrestOpened⟩ := ih
    have hitems : (out :: outs).filterMap id = out.toList ++ outs.filterMap id := by
      cases out <;> rfl
    have hcalls : (item :: output).filterMap itemCall =
        (itemCall item).toList ++ output.filterMap itemCall := by
      cases hcall : itemCall item <;> simp [hcall]
    refine ⟨marks ++ rest, hitems ▸ List.rel_append hmarks hrest, ?_, ?_⟩
    · intro mark hmark
      exact (List.mem_append.mp hmark).elim (hclosed mark) (hrestClosed mark)
    · rw [List.filterMap_append, hopened, hrestOpened, hcalls]

theorem regular_response {serde : Serde} {response : Value} {items : List Value}
    (h : responsesBridgeOutputItemsFromResponse serde response = .ok items) :
    ∃ marks, List.Forall₂ Regular items marks ∧ (∀ mark ∈ marks, mark.closed = none) ∧
      marks.filterMap Mark.opened = responseToolCalls response := by
  unfold responsesBridgeOutputItemsFromResponse at h
  split at h
  · cases h
  · next output houtput =>
    obtain ⟨outs, houts, h⟩ := Result.bind_ok.mp h
    cases h
    rw [responseToolCalls, houtput]
    exact regular_outputItems (Result.mapM_ok houts)

theorem regular_inputItems {body : Value} {items : List Value}
    (h : responsesBridgeInputItemsFromBody body = .ok items) :
    ∃ marks, List.Forall₂ Regular items marks ∧ ∀ mark ∈ marks, mark.opened = none := by
  unfold responsesBridgeInputItemsFromBody at h
  split at h
  · cases h
  · cases h
    exact ⟨[.neutral], .cons (regular_textMessage _ _ _) .nil, by simp [Mark.opened]⟩
  · next inputs hinput =>
    have hitems := Result.mapM_ok h
    clear h hinput
    induction hitems with
    | nil => exact ⟨[], .nil, by simp⟩
    | cons hitem _ ih =>
      obtain ⟨mark, hmark, hopened⟩ := regular_inputItem hitem
      obtain ⟨marks, hmarks, hrest⟩ := ih
      exact ⟨mark :: marks, .cons hmark hmarks, List.forall_mem_cons.mpr ⟨hopened, hrest⟩⟩
  · cases h

/-- The output kind of an item in normal form is that of the call it closes. -/
theorem outputKind_regular {item : Value} {mark : Mark PendingBridgeToolCall}
    (h : Regular item mark) :
    responsesBridgeToolOutputKind item = mark.closed.map PendingBridgeToolCall.kind := by
  unfold responsesBridgeToolOutputKind
  cases h with
  | message htype => rw [htype]; rfl
  | reasoning htype => rw [htype]; rfl
  | call kind callId htype _ _ => rw [htype, Option.bind_some, outputKind_callItemType]; rfl
  | output kind callId htype _ _ => rw [htype, Option.bind_some, outputKind_outputItemType]; rfl

theorem closed_of_outputKind {item : Value} {mark : Mark PendingBridgeToolCall}
    (h : Regular item mark) (hkind : responsesBridgeToolOutputKind item = none) :
    mark.closed = none := by
  rw [outputKind_regular h] at hkind
  exact Option.map_eq_none_iff.mp hkind

/-- The first loop of a continuation's check: the outputs are of pending calls, each call's once. -/
theorem validatePendingOutputs_ok {pending : List PendingBridgeToolCall} {items : List Value}
    {marks : List (Mark PendingBridgeToolCall)} (hitems : List.Forall₂ Regular items marks) :
    ∀ {seen result : List PendingBridgeToolCall},
      validatePendingOutputs pending seen items = .ok result → seen.Nodup →
      (∀ call ∈ seen, call ∈ pending) →
      result = (marks.filterMap Mark.closed).reverse ++ seen ∧ result.Nodup ∧
        ∀ call ∈ result, call ∈ pending := by
  induction hitems with
  | nil =>
    intro seen result h hnodup hpending
    cases h
    exact ⟨rfl, hnodup, hpending⟩
  | @cons item mark items marks hitem _ ih =>
    intro seen result h hnodup hpending
    unfold validatePendingOutputs at h
    split at h
    · cases h
    · next kind hkind =>
      rw [outputKind_regular hitem] at hkind
      obtain ⟨call, hclosed, rfl⟩ := Option.map_eq_some_iff.mp hkind
      obtain ⟨callId, hcallId, h⟩ := Result.bind_ok.mp h
      have hcall : (⟨callId, call.kind⟩ : PendingBridgeToolCall) = call := by
        cases hitem with
        | output kind _ _ hfield _ =>
          cases hclosed
          rw [← Option.some.inj (hfield.symm.trans (nonEmptyStringField_inv hcallId).1)]
        | message _ => cases hclosed
        | reasoning _ => cases hclosed
        | call _ _ _ _ _ => cases hclosed
      simp only [hcall] at h
      split at h
      · cases h
      · next hseen =>
        split at h
        · split at h <;> cases h
        · next hmem =>
          obtain ⟨rfl, hresult⟩ := ih h (List.nodup_cons.mpr ⟨hseen, hnodup⟩)
            (List.forall_mem_cons.mpr ⟨not_not.mp hmem, hpending⟩)
          refine ⟨?_, hresult⟩
          simp [hclosed]

theorem validateBehindOutputs_ok {items : List Value}
    {marks : List (Mark PendingBridgeToolCall)} (hitems : List.Forall₂ Regular items marks)
    (h : validateBehindOutputs items = .ok ()) : marks.filterMap Mark.closed = [] := by
  induction hitems with
  | nil => rfl
  | @cons item mark items marks hitem _ ih =>
    unfold validateBehindOutputs at h
    split at h
    · obtain ⟨_, _, h⟩ := Result.bind_ok.mp h
      cases h
    · next hkind =>
      split at h
      · cases h
      · rw [List.filterMap_cons, closed_of_outputKind hitem hkind]
        exact ih h

/-- Items without tool outputs close nothing. -/
theorem closed_of_no_outputs {items : List Value} {marks : List (Mark PendingBridgeToolCall)}
    (hitems : List.Forall₂ Regular items marks)
    (h : ∀ item ∈ items, responsesBridgeToolOutputKind item = none) :
    marks.filterMap Mark.closed = [] := by
  induction hitems with
  | nil => rfl
  | cons hitem _ ih =>
    rw [List.filterMap_cons, closed_of_outputKind hitem (h _ List.mem_cons_self)]
    exact ih fun item hmem => h item (List.mem_cons_of_mem _ hmem)

/-- **An accepted continuation closes exactly what was open.** -/
theorem continuation_closes {stored current : List Value}
    {marks : List (Mark PendingBridgeToolCall)} (hitems : List.Forall₂ Regular current marks)
    (h : validateBridgeContinuationItems stored current = .ok ()) :
    ∃ pending, pendingBridgeToolCalls stored = .ok pending ∧
      (pending.Nodup → (marks.filterMap Mark.closed).Perm pending) := by
  obtain ⟨pending, hpending, h⟩ := Result.bind_ok.mp h
  refine ⟨pending, hpending, fun hnodup => ?_⟩
  simp only at h
  split at h
  · next hempty =>
    split at h
    · next hcount =>
      have hnone : ∀ item ∈ current, responsesBridgeToolOutputKind item = none := by
        intro item hmem
        have hfilter := List.filter_eq_nil_iff.mp (List.length_eq_zero_iff.mp hcount) item hmem
        simpa using hfilter
      rw [closed_of_no_outputs hitems hnone, List.isEmpty_iff.mp hempty]
    · cases h
  · split at h
    · cases h
    · obtain ⟨seen, hseen, h⟩ := Result.bind_ok.mp h
      obtain ⟨_, hbehind, h⟩ := Result.bind_ok.mp h
      have hfirst := List.forall₂_take pending.length hitems
      have hsecond := List.forall₂_drop pending.length hitems
      obtain ⟨hclosed, hseenNodup, hseenPending⟩ :=
        validatePendingOutputs_ok hfirst hseen List.nodup_nil (by simp)
      have hall : ∀ call ∈ pending, call ∈ seen := by
        split at h
        · cases h
        · next hfind =>
          intro call hcall
          simpa using List.find?_eq_none.mp hfind call hcall
      have hsplit : marks.filterMap Mark.closed =
          (marks.take pending.length).filterMap Mark.closed := by
        conv_lhs => rw [← List.take_append_drop pending.length marks]
        rw [List.filterMap_append, validateBehindOutputs_ok hsecond hbehind, List.append_nil]
      rw [List.append_nil] at hclosed
      have hperm : seen.Perm pending :=
        (List.perm_ext_iff_of_nodup hseenNodup hnodup).mpr
          fun call => ⟨hseenPending call, hall call⟩
      rw [hsplit]
      exact (List.reverse_perm _).symm.trans (hclosed ▸ hperm)

/-! ## What is stored, what is waiting -/

def InNormalForm (items : List Value) : Prop := ∃ marks, List.Forall₂ Regular items marks

/-- A transcript in normal form that leaves no call open. -/
def Settled (items : List Value) : Prop :=
  ∃ marks, List.Forall₂ Regular items marks ∧ Mark.settle [] marks = some []

/-- `pending_bridge_tool_calls` reads the transcript without an error. -/
def Replayable (items : List Value) : Prop := ∃ pending, pendingBridgeToolCalls items = .ok pending

theorem replayable_iff {items : List Value} {marks : List (Mark PendingBridgeToolCall)}
    (h : List.Forall₂ Regular items marks) :
    Replayable items ↔ ∃ pending, Mark.settle [] marks = some pending := by
  have hsettle := pendingFrom_regular h []
  unfold Replayable pendingBridgeToolCalls
  cases hpending : pendingFrom [] items with
  | error e =>
    rw [hpending] at hsettle
    rw [← hsettle]
    exact ⟨fun ⟨_, h⟩ => (nomatch h), fun ⟨_, h⟩ => (nomatch h)⟩
  | ok pending =>
    rw [hpending] at hsettle
    rw [← hsettle]
    exact ⟨fun _ => ⟨pending, rfl⟩, fun _ => ⟨pending, rfl⟩⟩

/-- **A capture can be replayed exactly when the response makes no call twice.** -/
theorem replayable_capture_iff {serde : Serde} {requestItems items : List Value}
    {response : Value} (hrequest : Settled requestItems)
    (h : responsesBridgeOutputItemsFromResponse serde response = .ok items) :
    Replayable (requestItems ++ items) ↔ DistinctCalls response := by
  obtain ⟨marks, hmarks, hsettle⟩ := hrequest
  obtain ⟨more, hmore, hclosed, hopened⟩ := regular_response h
  rw [replayable_iff (List.rel_append hmarks hmore), Mark.settle_append, hsettle,
    Option.bind_some, DistinctCalls, ← hopened]
  constructor
  · rintro ⟨pending, hpending⟩
    obtain ⟨hrest, hnodup⟩ := (Mark.settle_opens hclosed List.nodup_nil).mp hpending
    rwa [hrest] at hnodup
  · intro hnodup
    exact ⟨_, (Mark.settle_opens hclosed List.nodup_nil).mpr ⟨rfl, hnodup⟩⟩

/-- A continuation that was accepted leaves no call open. -/
theorem settled_continuation {stored current : List Value} {body : Value}
    (hstored : InNormalForm stored)
    (hcurrent : responsesBridgeContinuationItemsFromBody body = .ok current)
    (h : validateBridgeContinuationItems stored current = .ok ()) :
    Settled (stored ++ current) := by
  obtain ⟨before, hbefore⟩ := hstored
  obtain ⟨marks, hmarks, hopened⟩ : ∃ marks, List.Forall₂ Regular current marks ∧
      ∀ mark ∈ marks, mark.opened = none := by
    unfold responsesBridgeContinuationItemsFromBody at hcurrent
    split at hcurrent
    · cases hcurrent
      exact ⟨[], .nil, by simp⟩
    · exact regular_inputItems hcurrent
  obtain ⟨pending, hpending, hcloses⟩ := continuation_closes hmarks h
  have hsettle : Mark.settle [] before = some pending := by
    rw [← pendingFrom_regular hbefore []]
    exact congrArg Except.toOption hpending
  have hnodup : pending.Nodup := Mark.settle_nodup List.nodup_nil hsettle
  refine ⟨before ++ marks, List.rel_append hbefore hmarks, ?_⟩
  rw [Mark.settle_append, hsettle, Option.bind_some]
  exact Mark.settle_closes hopened hnodup (hcloses hnodup)

/-- A first turn without tool outputs leaves no call open: it makes none. -/
theorem settled_firstTurn {body : Value} {items : List Value}
    (h : responsesBridgeInputItemsFromBody body = .ok items)
    (houtputs : ¬ bridgeItemsIncludeToolOutput items) : Settled items := by
  obtain ⟨marks, hmarks, hopened⟩ := regular_inputItems h
  have hnone : ∀ item ∈ items, responsesBridgeToolOutputKind item = none := by
    intro item hmem
    by_contra hkind
    exact houtputs (List.any_eq_true.mpr
      ⟨item, hmem, Option.isSome_iff_ne_none.mpr hkind⟩)
  refine ⟨marks, hmarks, Mark.settle_closes hopened List.nodup_nil ?_⟩
  rw [closed_of_no_outputs hmarks hnone]

theorem candidate_requestItems {turn : BridgeTurn} {items : List Value}
    {debugTrace : Option BridgeDebugTrace} {c : BridgeCaptureCandidate}
    (h : (turn.candidate items debugTrace).captureCandidate = some c) : c.requestItems = items := by
  unfold BridgeTurn.candidate at h
  split at h
  · cases h
  · cases h
    rfl

/-- A turn that waits for its answer leaves no call open. -/
theorem settled_prepare {turn : BridgeTurn} {preloaded : Option StoredBridgeResponse}
    {preparation : BridgePreparation} {body : Value} {c : BridgeCaptureCandidate}
    (hpreloaded : ∀ entry, preloaded = some entry → InNormalForm entry.transcriptItems)
    (h : turn.prepare preloaded = .ok (preparation, body))
    (hc : preparation.captureCandidate = some c) : Settled c.requestItems := by
  unfold BridgeTurn.prepare at h
  simp only at h
  split at h
  · cases h
    cases hc
  · split at h
    · cases h
    · split at h
      · cases h
      · cases preloaded with
        | some previous =>
          obtain ⟨current, hcurrent, h⟩ := Result.bind_ok.mp h
          obtain ⟨_, hvalid, h⟩ := Result.bind_ok.mp h
          obtain ⟨expanded, _, h⟩ := Result.bind_ok.mp h
          cases h
          rw [candidate_requestItems hc]
          exact settled_continuation (hpreloaded previous rfl) hcurrent hvalid
        | none =>
          simp only at h
          split at h
          · cases h
            cases hc
          · split at h
            · next items hitems =>
              split at h
              · cases h
                cases hc
              · next houtputs =>
                cases h
                rw [candidate_requestItems hc]
                exact settled_firstTurn hitems houtputs
            · cases h
              cases hc

theorem lookup_preload {store store' : StoreInner} {now : Nat} {turn : BridgeTurn}
    {previousResponseId : Option String} {loaded : Except String (Option StoredBridgeResponse)}
    (h : preload store now turn previousResponseId = (loaded, store')) :
    (∀ id entry, store'.responses.lookup id = some entry →
      store.responses.lookup id = some entry) ∧
    ∀ entry, loaded = .ok (some entry) → ∃ id, store.responses.lookup id = some entry := by
  unfold preload at h
  split at h
  · cases h
    exact ⟨fun _ _ h => h, fun entry h => (nomatch h)⟩
  · next responseId =>
    split at h
    · have hget := @lookup_get store now responseId turn.namespaceName turn.ownerHash
      rcases store.get_cases now responseId turn.namespaceName turn.ownerHash with
        ⟨error, hres⟩ | ⟨entry, _, _, hres⟩ | ⟨found, hfound, _, _, _, hres⟩ <;>
        rw [hres] at h hget <;> cases h
      · exact ⟨fun _ _ h => h, fun entry h => (nomatch h)⟩
      · exact ⟨fun _ _ h => hget h, fun entry h => (nomatch h)⟩
      · refine ⟨fun _ _ h => h, ?_⟩
        intro entry h
        cases h
        exact ⟨responseId, hfound⟩
    · cases h
      exact ⟨fun _ _ h => h, fun entry h => (nomatch h)⟩

/-- What a capture adds to the store: the request's items and those of a complete response. -/
theorem lookup_commit {serde : Serde} {store : StoreInner} {now : Nat} {uuid : String}
    {c : BridgeCaptureCandidate} {response : Value} {id : String} {entry : StoredBridgeResponse}
    (h : (commitConversationStateBridgeCapture serde store now uuid c response).2.2.responses.lookup
      id = some entry) :
    store.responses.lookup id = some entry ∨
      (response.getStr "status" = some "completed" ∧
        ∃ items, responsesBridgeOutputItemsFromResponse serde response = .ok items ∧
          entry.transcriptItems = c.requestItems ++ items) := by
  unfold commitConversationStateBridgeCapture at h
  split at h
  · exact .inl h
  · next hstatus =>
    split at h
    · exact .inl h
    · next items hitems =>
      split at h
      · exact .inl h
      · have hput : (putCapture store now uuid c items).2.responses.lookup id = some entry := by
          split at h
          · next hres => rw [hres]; exact h
          · next hres => rw [hres]; exact h
        have hput' : store.responses.lookup id = some entry ∨
            entry = StoreInner.stamped (captureEntry now c items) now c.ttlSeconds := by
          unfold putCapture at hput
          split at hput
          · exact (lookup_putWithId hput).imp_right And.right
          · exact (lookup_putWithId hput).imp_right And.right
        rcases hput' with hput' | rfl
        · exact .inl hput'
        · exact .inr ⟨not_not.mp hstatus, items, hitems, rfl⟩

/-! ## Runs -/

/-- What every run keeps: stored transcripts are in normal form, waiting ones leave nothing
open. -/
structure BridgeState.Sound (s : BridgeState) : Prop where
  stored : ∀ id entry, s.store.responses.lookup id = some entry →
    InNormalForm entry.transcriptItems
  waiting : ∀ c ∈ s.candidates, Settled c.requestItems

/-- A captured response that is complete, and whose output is accepted, makes no call twice. -/
def BridgeEvent.Distinct (serde : Serde) : BridgeEvent → Prop
  | .prepare .. => True
  | .commit _ _ _ response => response.getStr "status" = some "completed" →
      (responsesBridgeOutputItemsFromResponse serde response).toOption.isSome →
      DistinctCalls response

/-- After an event, an entry was there before, or is a capture. -/
theorem BridgeStep.lookup {serde : Serde} {s s' : BridgeState} {e : BridgeEvent}
    (hs : BridgeStep serde s e s') {id : String} {entry : StoredBridgeResponse}
    (h : s'.store.responses.lookup id = some entry) :
    s.store.responses.lookup id = some entry ∨
      ∃ now uuid c response items, e = .commit now uuid c response ∧ c ∈ s.candidates ∧
        response.getStr "status" = some "completed" ∧
        responsesBridgeOutputItemsFromResponse serde response = .ok items ∧
        entry.transcriptItems = c.requestItems ++ items := by
  cases hs with
  | prepare now turn previousResponseId =>
    refine .inl ?_
    simp only [BridgeState.after] at h
    obtain ⟨loaded, store, hpreload⟩ : ∃ loaded store,
        preload s.store now turn previousResponseId = (loaded, store) := ⟨_, _, rfl⟩
    rw [hpreload] at h
    refine (lookup_preload hpreload).1 id entry ?_
    split at h
    · exact h
    · simp only at h
      split at h
      · exact h
      · exact h
  | commit now uuid c response hc =>
    rcases lookup_commit h with h | ⟨hstatus, items, hitems, htranscript⟩
    · exact .inl h
    · exact .inr ⟨now, uuid, c, response, items, rfl, hc, hstatus, hitems, htranscript⟩

/-- After an event, a waiting turn was waiting before, or has just been prepared. -/
theorem BridgeStep.candidates {serde : Serde} {s s' : BridgeState} {e : BridgeEvent}
    (hs : BridgeStep serde s e s') (hsound : s.Sound) :
    ∀ c ∈ s'.candidates, Settled c.requestItems := by
  cases hs with
  | prepare now turn previousResponseId =>
    intro c hc
    simp only [BridgeState.after] at hc
    obtain ⟨loaded, store, hpreload⟩ : ∃ loaded store,
        preload s.store now turn previousResponseId = (loaded, store) := ⟨_, _, rfl⟩
    rw [hpreload] at hc
    cases loaded with
    | error e => exact hsound.waiting c hc
    | ok preloaded =>
      simp only at hc
      split at hc
      · exact hsound.waiting c hc
      · next preparation body hprepare =>
        rcases List.mem_append.mp hc with hc | hc
        · exact hsound.waiting c hc
        · refine settled_prepare ?_ hprepare (Option.mem_toList.mp hc)
          rintro entry rfl
          obtain ⟨id, hid⟩ := (lookup_preload hpreload).2 entry rfl
          exact hsound.stored id entry hid
  | commit now uuid candidate response _ =>
    intro c hc
    exact hsound.waiting c (List.mem_of_mem_erase hc)

theorem BridgeStep.sound {serde : Serde} {s s' : BridgeState} {e : BridgeEvent}
    (hs : BridgeStep serde s e s') (hsound : s.Sound) : s'.Sound := by
  refine ⟨?_, hs.candidates hsound⟩
  intro id entry h
  rcases hs.lookup h with h | ⟨_, _, c, _, items, _, hc, _, hitems, htranscript⟩
  · exact hsound.stored id entry h
  · obtain ⟨marks, hmarks, _⟩ := hsound.waiting c hc
    obtain ⟨more, hmore, _, _⟩ := regular_response hitems
    rw [htranscript]
    exact ⟨marks ++ more, List.rel_append hmarks hmore⟩

theorem sound_run {serde : Serde} {events : List BridgeEvent} {s : BridgeState}
    (hrun : Run (BridgeStep serde) .initial events s) : s.Sound :=
  hrun.invariant (I := BridgeState.Sound)
    ⟨fun _ _ h => (nomatch h), fun _ hc => (nomatch hc)⟩ fun hsound hs => hs.sound hsound

/-- The replayable store survives an event whose response makes no call twice. -/
theorem BridgeStep.replayable {serde : Serde} {s s' : BridgeState} {e : BridgeEvent}
    (hs : BridgeStep serde s e s') (hsound : s.Sound) (hdistinct : e.Distinct serde)
    (h : ∀ id entry, s.store.responses.lookup id = some entry →
      Replayable entry.transcriptItems) :
    ∀ id entry, s'.store.responses.lookup id = some entry → Replayable entry.transcriptItems := by
  intro id entry hentry
  rcases hs.lookup hentry with hentry | ⟨_, _, c, response, items, rfl, hc, hstatus, hitems, heq⟩
  · exact h id entry hentry
  · rw [heq, replayable_capture_iff (hsound.waiting c hc) hitems]
    exact hdistinct hstatus (by rw [hitems]; rfl)

/-- **Stored transcripts are replayable** as long as no captured response makes a call twice, and
at every capture that is what it depends on. -/
theorem stored_transcripts_replayable {serde : Serde} {events : List BridgeEvent} {s : BridgeState}
    (hrun : Run (BridgeStep serde) .initial events s) :
    ((∀ e ∈ events, e.Distinct serde) → ∀ id entry, s.store.responses.lookup id = some entry →
      ∃ pending, pendingBridgeToolCalls entry.transcriptItems = .ok pending) ∧
    ∀ c ∈ s.candidates, ∀ response items,
      responsesBridgeOutputItemsFromResponse serde response = .ok items →
      ((∃ pending, pendingBridgeToolCalls (c.requestItems ++ items) = .ok pending) ↔
        DistinctCalls response) := by
  refine ⟨?_, ?_⟩
  · induction hrun with
    | nil => exact fun _ id entry h => by cases h
    | snoc hbefore hs ih =>
      intro hdistinct
      exact hs.replayable (sound_run hbefore) (hdistinct _ (by simp))
        (ih fun e he => hdistinct e (List.mem_append_left _ he))
  · intro c hc response items hitems
    exact replayable_capture_iff ((sound_run hrun).waiting c hc) hitems

/-- A first turn that says "hi", to a Chat upstream. -/
def sampleTurn : BridgeTurn :=
  ⟨⟨60, 4096⟩, "team", "owner", .openAiResponses, .openAiChatCompletions, false, "gpt",
    ⟨"up", "gpt"⟩, sampleEntry.routeConfigFingerprint, .ofFields [("input", .string "hi")], "1"⟩

/-- The candidate of that turn. -/
def sampleCandidate : BridgeCaptureCandidate :=
  ⟨"team", "owner", "gpt", ⟨"up", "gpt"⟩, sampleEntry.routeConfigFingerprint,
    [responsesTextMessageItem "user" "input_text" "hi"], 60, 4096, none⟩

/-- A complete response that calls the tool `f` under each of these ids. -/
def sampleResponse (callIds : List String) : Value :=
  .ofFields [("status", .string "completed"), ("output", .array (callIds.map fun callId =>
    .ofFields [("type", .string "function_call"), ("call_id", .string callId),
      ("name", .string "f"), ("arguments", .string "\x7b\x7d")]))]

def sampleSerde : Serde := ⟨some, fun _ => ""⟩

def sampleEvents (callIds : List String) : List BridgeEvent :=
  [.prepare 5 sampleTurn none, .commit 6 "2" sampleCandidate (sampleResponse callIds)]

/-- The state in which the sample turn has been answered. -/
def sampleState (callIds : List String) : BridgeState :=
  (sampleEvents callIds).foldl (BridgeState.after sampleSerde) .initial

theorem sampleRun (callIds : List String) : Run (BridgeStep sampleSerde) .initial
    (sampleEvents callIds) (sampleState callIds) :=
  .snoc (.snoc (.nil _) (.prepare .initial 5 sampleTurn none))
    (.commit _ 6 "2" sampleCandidate (sampleResponse callIds) (by decide +kernel))

/-- Two calls under two ids: what is stored under the new id is replayable. -/
theorem stored_transcripts_replayable_two_ids :
    ((sampleState ["c1", "c2"]).store.responses.lookup "resp_llmup_2").isSome ∧
    ∀ id entry, (sampleState ["c1", "c2"]).store.responses.lookup id = some entry →
      ∃ pending, pendingBridgeToolCalls entry.transcriptItems = .ok pending := by
  refine ⟨by decide +kernel, (stored_transcripts_replayable (sampleRun ["c1", "c2"])).1 ?_⟩
  rintro e he
  rcases List.mem_cons.mp he with rfl | he
  · trivial
  · rw [List.mem_singleton.mp he]
    exact fun _ _ => by decide +kernel

/-- A response that makes one call twice is stored, and what is stored cannot be replayed. -/
theorem stored_transcript_with_repeated_call :
    ¬ ∀ (serde : Serde) (events : List BridgeEvent) (s : BridgeState),
      Run (BridgeStep serde) .initial events s →
      ∀ id entry, s.store.responses.lookup id = some entry →
        ∃ pending, pendingBridgeToolCalls entry.transcriptItems = .ok pending := by
  intro h
  have hstored : ((sampleState ["c1", "c1"]).store.responses.lookup "resp_llmup_2").map
      (fun entry => (pendingBridgeToolCalls entry.transcriptItems).toOption) = some none := by
    decide +kernel
  obtain ⟨entry, hentry, hnone⟩ := Option.map_eq_some_iff.mp hstored
  obtain ⟨pending, hpending⟩ := h _ _ _ (sampleRun ["c1", "c1"]) "resp_llmup_2" entry hentry
  rw [hpending] at hnone
  cases hnone

end LlmUniversalProxy.Server
