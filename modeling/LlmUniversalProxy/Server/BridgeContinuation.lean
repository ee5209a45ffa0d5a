import LlmUniversalProxy.Server.BridgeReplay

/-!
# `Server.BridgeContinuation` — what a continuation's check is worth

A client goes on with a stored conversation by sending further items, and
`validateBridgeContinuationItems` checks them against the tool calls that are still open. An
accepted continuation leaves no call open, provided that it makes none itself; and every
continuation that starts with the outputs of the open calls, in any order, and goes on with messages
is accepted.

The source is `server/proxy.rs` 2636-2796. A continuation with a call of its own is let through by
this check; that there is none is for the reader of the input to see to
(`continuation_makes_no_call`).
-/

set_option autoImplicit false

namespace LlmUniversalProxy.Server

open Json Lib

/-! ## Any item as a mark -/

def responsesBridgeToolCallKind (item : Value) : Option BridgeToolCallKind :=
  (responsesBridgeItemType item).bind bridgeToolCallKindForItemType

/-- What an item does to the open calls; the call is named by its id and its kind. -/
def markOf (item : Value) : Mark PendingBridgeToolCall :=
  let callId := (item.getStr "call_id").getD ""
  match responsesBridgeToolCallKind item, responsesBridgeToolOutputKind item with
  | some kind, _ => .opens ⟨callId, kind⟩
  | none, some kind => .closes ⟨callId, kind⟩
  | none, none => .neutral

theorem markOf_regular {item : Value} {mark : Mark PendingBridgeToolCall} (h : Regular item mark) :
    markOf item = mark := by
  unfold markOf responsesBridgeToolCallKind responsesBridgeToolOutputKind
  cases h with
  | message htype => rw [htype]; rfl
  | reasoning htype => rw [htype]; rfl
  | call kind callId htype hid _ =>
    rw [htype, hid, Option.bind_some, callKind_callItemType]
    rfl
  | output kind callId htype hid _ =>
    rw [htype, hid, Option.bind_some, callKind_outputItemType, Option.bind_some,
      outputKind_outputItemType]
    rfl

theorem markOf_neutral {item : Value} (hcall : responsesBridgeToolCallKind item = none)
    (houtput : responsesBridgeToolOutputKind item = none) : markOf item = .neutral := by
  unfold markOf
  rw [hcall, houtput]

theorem callItemType_of_kind {itemType : String} {kind : BridgeToolCallKind}
    (h : bridgeToolCallKindForItemType itemType = some kind) : itemType = kind.callItemType := by
  unfold bridgeToolCallKindForItemType at h
  split at h
  · next htype => cases h; exact htype
  · split at h
    · next htype => cases h; exact htype
    · cases h

theorem outputItemType_of_kind {itemType : String} {kind : BridgeToolCallKind}
    (h : bridgeToolOutputKindForItemType itemType = some kind) :
    itemType = kind.outputItemType := by
  unfold bridgeToolOutputKindForItemType at h
  split at h
  · next htype => cases h; exact htype
  · split at h
    · next htype => cases h; exact htype
    · cases h

/-- An output that names its call is in normal form. -/
theorem regular_output {item : Value} {kind : BridgeToolCallKind} {callId : String}
    (hkind : responsesBridgeToolOutputKind item = some kind)
    (hid : responsesToolCallOutputCallId item = .ok callId) :
    Regular item (.closes ⟨callId, kind⟩) := by
  obtain ⟨itemType, htype, houtput⟩ := Option.bind_eq_some_iff.mp hkind
  obtain ⟨hfield, hne⟩ := nonEmptyStringField_inv hid
  exact .output kind callId (outputItemType_of_kind houtput ▸ htype) hfield hne

/-- What the stored state is replayed from is in normal form. -/
theorem regular_of_pendingAfterItem {pending next : List PendingBridgeToolCall} {item : Value}
    (h : pendingAfterItem pending item = .ok next) : ∃ mark, Regular item mark := by
  unfold pendingAfterItem at h
  split at h
  · cases h
  · next itemType htype =>
    split at h
    · next kind hkind =>
      obtain ⟨callId, hid, _⟩ := Result.bind_ok.mp h
      obtain ⟨hfield, hne⟩ := nonEmptyStringField_inv hid
      exact ⟨_, .call kind callId (callItemType_of_kind hkind ▸ htype) hfield hne⟩
    · split at h
      · next kind hkind =>
        obtain ⟨callId, hid, _⟩ := Result.bind_ok.mp h
        have houtput : responsesBridgeToolOutputKind item = some kind := by
          rw [responsesBridgeToolOutputKind, htype, Option.bind_some, hkind]
        exact ⟨_, regular_output houtput hid⟩
      · split at h
        · next hneutral =>
          rcases hneutral with rfl | rfl
          · exact ⟨_, .message htype⟩
          · exact ⟨_, .reasoning htype⟩
        · cases h

theorem regular_of_pending {items : List Value} :
    ∀ {pending rest : List PendingBridgeToolCall}, pendingFrom pending items = .ok rest →
      List.Forall₂ Regular items (items.map markOf) := by
  induction items with
  | nil => exact fun _ => .nil
  | cons item items ih =>
    intro pending rest h
    obtain ⟨next, hnext, hrest⟩ := Result.bind_ok.mp h
    obtain ⟨mark, hmark⟩ := regular_of_pendingAfterItem hnext
    rw [List.map_cons, markOf_regular hmark]
    exact .cons hmark (ih hrest)

/-- The log of a stored transcript leaves open what is pending. -/
theorem settle_of_pending {stored : List Value} {pending : List PendingBridgeToolCall}
    (h : pendingBridgeToolCalls stored = .ok pending) :
    Mark.settle [] (stored.map markOf) = some pending := by
  have hregular := pendingFrom_regular (regular_of_pending h) []
  rw [← hregular]
  exact congrArg Except.toOption h

/-! ## Accepted continuations -/

/-- No output comes behind another item. -/
def OutputsFirst (items : List Value) : Prop :=
  ∃ outputs others, items = outputs ++ others ∧
    (∀ item ∈ outputs, (responsesBridgeToolOutputKind item).isSome = true) ∧
    ∀ item ∈ others, responsesBridgeToolOutputKind item = none

theorem validatePendingOutputs_regular {pending : List PendingBridgeToolCall} {items : List Value} :
    ∀ {seen result : List PendingBridgeToolCall},
      validatePendingOutputs pending seen items = .ok result →
      List.Forall₂ Regular items (items.map markOf) ∧
        ∀ item ∈ items, (responsesBridgeToolOutputKind item).isSome = true := by
  induction items with
  | nil => exact fun _ => ⟨.nil, fun _ hitem => absurd hitem List.not_mem_nil⟩
  | cons item items ih =>
    intro seen result h
    unfold validatePendingOutputs at h
    split at h
    · cases h
    · next kind hkind =>
      obtain ⟨callId, hid, h⟩ := Result.bind_ok.mp h
      have hitem := regular_output hkind hid
      simp only at h
      split at h
      · cases h
      · split at h
        · split at h <;> cases h
        · obtain ⟨hitems, houtputs⟩ := ih h
          rw [List.map_cons, markOf_regular hitem]
          exact ⟨.cons hitem hitems,
            List.forall_mem_cons.mpr ⟨by rw [hkind]; rfl, houtputs⟩⟩

theorem validateBehindOutputs_messages {items : List Value}
    (h : validateBehindOutputs items = .ok ()) :
    ∀ item ∈ items, responsesBridgeItemType item = some "message" := by
  induction items with
  | nil => exact fun _ hitem => absurd hitem List.not_mem_nil
  | cons item items ih =>
    unfold validateBehindOutputs at h
    split at h
    · obtain ⟨_, _, h⟩ := Result.bind_ok.mp h
      cases h
    · split at h
      · cases h
      · next htype => exact List.forall_mem_cons.mpr ⟨not_not.mp htype, ih h⟩

theorem kinds_of_message {item : Value} (h : responsesBridgeItemType item = some "message") :
    responsesBridgeToolCallKind item = none ∧ responsesBridgeToolOutputKind item = none := by
  unfold responsesBridgeToolCallKind responsesBridgeToolOutputKind
  rw [h]
  exact ⟨rfl, rfl⟩

/-- What an accepted continuation is: items without outputs when nothing is pending, and else
outputs with messages behind them. -/
theorem accepted_continuation {stored current : List Value}
    (h : validateBridgeContinuationItems stored current = .ok ()) :
    ∃ pending, pendingBridgeToolCalls stored = .ok pending ∧ OutputsFirst current ∧
      (pending = [] ∧ (∀ item ∈ current, responsesBridgeToolOutputKind item = none) ∨
        pending ≠ [] ∧ List.Forall₂ Regular current (current.map markOf) ∧
          ∀ item ∈ current, responsesBridgeToolCallKind item = none) := by
  obtain ⟨pending, hpending, h⟩ := Result.bind_ok.mp h
  refine ⟨pending, hpending, ?_⟩
  simp only at h
  split at h
  · next hempty =>
    split at h
    · next hcount =>
      have hnone : ∀ item ∈ current, responsesBridgeToolOutputKind item = none := by
        intro item hitem
        have hfilter := List.filter_eq_nil_iff.mp (List.length_eq_zero_iff.mp hcount) item hitem
        simpa using hfilter
      exact ⟨⟨[], current, rfl, by simp, hnone⟩, .inl ⟨List.isEmpty_iff.mp hempty, hnone⟩⟩
    · cases h
  · next hne =>
    split at h
    · cases h
    · obtain ⟨seen, hseen, h⟩ := Result.bind_ok.mp h
      obtain ⟨_, hbehind, _⟩ := Result.bind_ok.mp h
      obtain ⟨hregular, houtputs⟩ := validatePendingOutputs_regular hseen
      have hmessages := validateBehindOutputs_messages hbehind
      -- behind the outputs there are only messages
      have hbehindRegular : List.Forall₂ Regular (current.drop pending.length)
          ((current.drop pending.length).map markOf) := by
        rw [List.forall₂_map_right_iff, List.forall₂_same]
        intro item hitem
        have hitem := Regular.message (hmessages item hitem)
        rw [markOf_regular hitem]
        exact hitem
      have hsplit := List.take_append_drop pending.length current
      refine ⟨⟨_, _, hsplit.symm, houtputs,
        fun item hitem => (kinds_of_message (hmessages item hitem)).2⟩,
        .inr ⟨fun hnil => hne (List.isEmpty_iff.mpr hnil), ?_, ?_⟩⟩
      · have hall : List.Forall₂ Regular
            (current.take pending.length ++ current.drop pending.length)
            ((current.take pending.length).map markOf ++
              (current.drop pending.length).map markOf) :=
          List.rel_append hregular hbehindRegular
        rwa [← List.map_append, hsplit] at hall
      · rw [← hsplit, List.forall_mem_append]
        constructor
        · intro item hitem
          obtain ⟨kind, hkind⟩ := Option.isSome_iff_exists.mp (houtputs item hitem)
          obtain ⟨itemType, htype, houtput⟩ := Option.bind_eq_some_iff.mp hkind
          rw [responsesBridgeToolCallKind, htype, outputItemType_of_kind houtput, Option.bind_some,
            callKind_outputItemType]
        · exact fun item hitem => (kinds_of_message (hmessages item hitem)).1

theorem opened_of_no_call {item : Value} (h : responsesBridgeToolCallKind item = none) :
    (markOf item).opened = none := by
  unfold markOf
  rw [h]
  cases responsesBridgeToolOutputKind item with
  | none => rfl
  | some kind => rfl

/-- An accepted continuation answers every call, as long as it makes none where none is open. -/
theorem accepted_answers {stored current : List Value}
    (h : validateBridgeContinuationItems stored current = .ok ())
    (hcalls : pendingBridgeToolCalls stored = .ok [] →
      ∀ item ∈ current, responsesBridgeToolCallKind item = none) :
    Mark.Answered ((stored ++ current).map markOf) := by
  obtain ⟨pending, hpending, _, hcases⟩ := accepted_continuation h
  have hstored := settle_of_pending hpending
  have hnodup := Mark.settle_nodup List.nodup_nil hstored
  have hclosed : ((current.map markOf).filterMap Mark.closed).Perm pending := by
    rcases hcases with ⟨rfl, hnone⟩ | ⟨_, hregular, _⟩
    · have hnil : (current.map markOf).filterMap Mark.closed = [] := by
        rw [List.filterMap_eq_nil_iff]
        intro mark hmark
        obtain ⟨item, hitem, rfl⟩ := List.mem_map.mp hmark
        rw [markOf_neutral (hcalls hpending item hitem) (hnone item hitem)]
        rfl
      rw [hnil]
    · obtain ⟨pending', hpending', hperm⟩ := continuation_closes hregular h
      obtain rfl := Except.ok.inj (hpending.symm.trans hpending')
      exact hperm hnodup
  have hopened : ∀ mark ∈ current.map markOf, mark.opened = none := by
    intro mark hmark
    obtain ⟨item, hitem, rfl⟩ := List.mem_map.mp hmark
    apply opened_of_no_call
    rcases hcases with ⟨rfl, _⟩ | ⟨_, _, hnone⟩
    · exact hcalls hpending item hitem
    · exact hnone item hitem
  apply Mark.answered_of_settle
  rw [List.map_append, Mark.settle_append, hstored, Option.bind_some]
  exact Mark.settle_closes hopened hnodup hclosed

/-! ## Continuations that are accepted -/

theorem pending_ids {items : List Value} :
    ∀ {pending rest : List PendingBridgeToolCall}, pendingFrom pending items = .ok rest →
      (∀ call ∈ pending, call.callId.isEmpty = false) →
      ∀ call ∈ rest, call.callId.isEmpty = false := by
  induction items with
  | nil =>
    intro pending rest h hpending
    cases h
    exact hpending
  | cons item items ih =>
    intro pending rest h hpending
    obtain ⟨next, hnext, hrest⟩ := Result.bind_ok.mp h
    refine ih hrest ?_
    obtain ⟨mark, hmark⟩ := regular_of_pendingAfterItem hnext
    have hsettle := pendingAfterItem_regular hmark pending
    rw [hnext] at hsettle
    cases hmark with
    | message _ => cases hsettle; exact hpending
    | reasoning _ => cases hsettle; exact hpending
    | call kind callId _ _ hid =>
      simp only [Mark.settle, Except.toOption] at hsettle
      split at hsettle
      · cases hsettle
      · cases hsettle
        intro call hcall
        rcases List.mem_append.mp hcall with hcall | hcall
        · exact hpending call hcall
        · rw [List.mem_singleton.mp hcall]
          exact hid
    | output kind callId _ _ hid =>
      simp only [Mark.settle, Except.toOption] at hsettle
      split at hsettle
      · cases hsettle
        exact fun call hcall => hpending call (List.mem_of_mem_erase hcall)
      · cases hsettle

theorem output_of_mark {item : Value} {call : PendingBridgeToolCall}
    (h : markOf item = .closes call) (hid : call.callId.isEmpty = false) :
    responsesBridgeToolOutputKind item = some call.kind ∧
      responsesToolCallOutputCallId item = .ok call.callId := by
  unfold markOf at h
  dsimp only at h
  split at h
  · cases h
  · next kind _ hkind =>
    cases h
    refine ⟨hkind, nonEmptyStringField_ok ?_ hid⟩
    cases hfield : item.getStr "call_id" with
    | none =>
      rw [hfield] at hid
      cases hid
    | some callId => rfl
  · cases h

/-- The first loop accepts the outputs of pending calls, each call's once. -/
theorem validatePendingOutputs_accepts {pending : List PendingBridgeToolCall}
    (hids : ∀ call ∈ pending, call.callId.isEmpty = false) {items : List Value} :
    ∀ {calls seen : List PendingBridgeToolCall}, items.map markOf = calls.map Mark.closes →
      (∀ call ∈ calls, call ∈ pending) → (calls.reverse ++ seen).Nodup →
      validatePendingOutputs pending seen items = .ok (calls.reverse ++ seen) := by
  induction items with
  | nil =>
    intro calls seen hcalls _ _
    rw [List.map_eq_nil_iff.mp hcalls.symm]
    rfl
  | cons item items ih =>
    intro calls seen hcalls hpending hnodup
    cases calls with
    | nil => cases hcalls
    | cons call calls =>
      obtain ⟨hitem, hitems⟩ := List.cons.inj hcalls
      obtain ⟨hcall, hrest⟩ := List.forall_mem_cons.mp hpending
      obtain ⟨hkind, hid⟩ := output_of_mark hitem (hids call hcall)
      rw [List.reverse_cons, List.append_assoc, List.singleton_append] at hnodup ⊢
      have hnew : call ∉ seen :=
        (List.nodup_cons.mp (List.nodup_append.mp hnodup).2.1).1
      unfold validatePendingOutputs
      rw [hkind, hid]
      simp only [bind, Except.bind, if_neg hnew, not_not.mpr hcall, if_false]
      exact ih hitems hrest hnodup

theorem validateBehindOutputs_accepts {items : List Value}
    (h : ∀ item ∈ items, responsesBridgeItemType item = some "message") :
    validateBehindOutputs items = .ok () := by
  induction items with
  | nil => rfl
  | cons item items ih =>
    obtain ⟨hitem, hitems⟩ := List.forall_mem_cons.mp h
    unfold validateBehindOutputs
    rw [(kinds_of_message hitem).2, hitem]
    simp only [ne_eq, not_true_eq_false, if_false]
    exact ih hitems

/-- The outputs of the pending calls, in any order, and messages behind them. -/
theorem continuation_accepted {stored outputs messages : List Value}
    {pending : List PendingBridgeToolCall} (hpending : pendingBridgeToolCalls stored = .ok pending)
    (houtputs : (outputs.map markOf).Perm (pending.map Mark.closes))
    (hmessages : ∀ item ∈ messages, responsesBridgeItemType item = some "message") :
    validateBridgeContinuationItems stored (outputs ++ messages) = .ok () := by
  have hnodup := Mark.settle_nodup List.nodup_nil (settle_of_pending hpending)
  have hids := pending_ids hpending fun call hcall => absurd hcall List.not_mem_nil
  have hlength : outputs.length = pending.length := by
    have h := houtputs.length_eq
    rwa [List.length_map, List.length_map] at h
  unfold validateBridgeContinuationItems
  rw [hpending]
  simp only [bind, Except.bind]
  cases hempty : pending.isEmpty with
  | true =>
    have hnone : outputs = [] := by
      rw [List.isEmpty_iff.mp hempty, List.length_nil] at hlength
      exact List.length_eq_zero_iff.mp hlength
    have hcount : (messages.filter fun item =>
        (responsesBridgeToolOutputKind item).isSome) = [] := by
      rw [List.filter_eq_nil_iff]
      intro item hitem
      rw [(kinds_of_message (hmessages item hitem)).2]
      exact Bool.false_ne_true
    rw [if_pos rfl, hnone, List.nil_append, hcount]
    rfl
  | false =>
    -- The calls that are closed, in the order of their outputs.
    obtain ⟨calls, hcalls, hperm⟩ := Mark.eq_closes_of_perm houtputs
    have hdistinct : (calls.reverse ++ []).Nodup := by
      rw [List.append_nil, List.nodup_reverse]
      exact hperm.symm.nodup hnodup
    have hseen := validatePendingOutputs_accepts hids hcalls
      (fun call hcall => hperm.subset hcall) hdistinct
    have hnotShort : ¬ (outputs ++ messages).length < pending.length := by
      rw [List.length_append, hlength]
      omega
    have htake : (outputs ++ messages).take pending.length = outputs := by
      rw [← hlength, List.take_left]
    have hdrop : (outputs ++ messages).drop pending.length = messages := by
      rw [← hlength, List.drop_left]
    have hall : (pending.find? fun other => other ∉ calls.reverse ++ []) = none := by
      rw [List.find?_eq_none]
      intro call hcall
      simpa using hperm.symm.subset hcall
    rw [if_neg Bool.false_ne_true, if_neg hnotShort, htake, hdrop, hseen,
      validateBehindOutputs_accepts hmessages]
    dsimp only
    rw [hall]
    rfl

/-! ## Main result -/

/-- The items that are read from a request make no call, so they do not run into this. -/
theorem continuation_makes_no_call {body : Value} {current : List Value}
    (h : responsesBridgeContinuationItemsFromBody body = .ok current) :
    ∀ item ∈ current, responsesBridgeToolCallKind item = none := by
  unfold responsesBridgeContinuationItemsFromBody at h
  split at h
  · cases h
    exact fun item hitem => absurd hitem List.not_mem_nil
  · obtain ⟨marks, hmarks, hopened⟩ := regular_inputItems h
    clear h
    induction hmarks with
    | nil => exact fun item hitem => absurd hitem List.not_mem_nil
    | @cons item mark _ _ hitem _ ih =>
      obtain ⟨hfirst, hrest⟩ := List.forall_mem_cons.mp hopened
      refine List.forall_mem_cons.mpr ⟨?_, ih hrest⟩
      unfold responsesBridgeToolCallKind
      cases hitem with
      | message htype => rw [htype]; rfl
      | reasoning htype => rw [htype]; rfl
      | call _ _ _ _ _ => cases hfirst
      | output kind _ htype _ _ => rw [htype, Option.bind_some, callKind_outputItemType]

/-- **The check of a continuation is sound and complete**: an accepted one answers every call, as
long as it makes none where none is open, and its outputs come first; and the outputs of the
pending calls are accepted in any order, with messages behind them. -/
theorem continuation_check_is_exact (stored current : List Value) :
    (validateBridgeContinuationItems stored current = .ok () →
      OutputsFirst current ∧
        ((pendingBridgeToolCalls stored = .ok [] →
            ∀ item ∈ current, responsesBridgeToolCallKind item = none) →
          Mark.Answered ((stored ++ current).map markOf))) ∧
      ∀ pending outputs messages, pendingBridgeToolCalls stored = .ok pending →
        current = outputs ++ messages →
        (outputs.map markOf).Perm (pending.map Mark.closes) →
        (∀ item ∈ messages, responsesBridgeItemType item = some "message") →
        validateBridgeContinuationItems stored current = .ok () := by
  constructor
  · intro h
    obtain ⟨_, _, hfirst, _⟩ := accepted_continuation h
    exact ⟨hfirst, fun hcalls => accepted_answers h hcalls⟩
  · rintro pending outputs messages hpending rfl houtputs hmessages
    exact continuation_accepted hpending houtputs hmessages

def openCall : Value :=
  .object [("call_id", .string "call_1"), ("type", .string "function_call")]

/-- Where nothing is pending a call passes the check, and is never answered. -/
theorem call_passes_the_check :
    ∃ stored current : List Value, validateBridgeContinuationItems stored current = .ok () ∧
      ¬ Mark.Answered ((stored ++ current).map markOf) := by
  refine ⟨[], [openCall], by decide +kernel, ?_⟩
  intro hanswered
  obtain ⟨rounds, hrounds⟩ := hanswered ⟨"call_1", .function⟩
  have hentries : Mark.entriesOf ⟨"call_1", .function⟩ ([openCall].map markOf) =
      [.opens ⟨"call_1", .function⟩] := by decide +kernel
  rw [List.nil_append, hentries] at hrounds
  cases rounds with
  | zero => cases hrounds
  | succ rounds => cases (List.cons.inj hrounds).2

end LlmUniversalProxy.Server
