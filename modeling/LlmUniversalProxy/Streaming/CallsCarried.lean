import LlmUniversalProxy.Streaming.CallEvents

/-!
# `Streaming.CallsCarried` — an event goes to the call that it is about

`responses_event_to_openai_chunks` looks a call up in three ways (`responses_source.rs` 94-403), and
`index_of_about` is the lemma behind all that follows: among calls that share neither an item id,
nor a place, nor a call id, the way it takes ends at the right one. From this every kind of event
keeps `Carries`, by which the state has the calls and the client has been told of them.

An input may be closed twice, by its own event and by the final output. The second one changes
nothing when it goes on where the first stands (`closesWith_closeFinal`).
-/

set_option autoImplicit false

namespace LlmUniversalProxy.Streaming

open Json Lib Translate

/-! ### Where an event goes -/

section

variable (env : Env) {calls : List ItemCall} {s : StreamState} {event : Value}

section

variable {β : Type} [DecidableEq β] (key : ToolCallState → Option β) (own : ItemCall → β)

/-- A call is found by what it does not share with another. -/
theorem find_call (h : HoldsCalls calls s)
    (hkey : ∀ {call entry}, Matches call entry → key entry = some (own call))
    (hown : ∀ {a b}, own a = own b → ¬ a.item.Apart b.item) {i : Nat} {call : ItemCall}
    (hcall : calls[i]? = some call) :
    ((hashWalk env s.openaiToolCalls).find? fun e => key e.2 = some (own call)).map Prod.fst =
      some i := by
  obtain ⟨entry, hentry, hmatches⟩ := h.entry hcall
  refine find_hashWalk env (p := fun entry => key entry = some (own call)) hentry
    (decide_eq_true (hkey hmatches)) fun k other hother hfound => ?_
  obtain ⟨call', hcall', hmatches'⟩ := h.call_of_entry hother
  have hsame : own call' = own call :=
    Option.some.inj ((hkey hmatches').symm.trans (of_decide_eq_true hfound))
  exact h.same hcall' hcall ⟨hown hsame, hown hsame.symm⟩

theorem find_no_call (h : HoldsCalls calls s)
    (hkey : ∀ {call entry}, Matches call entry → key entry = some (own call)) (asked : Option β)
    (hother : ∀ other ∈ calls, asked ≠ some (own other)) :
    (asked.bind fun wanted => ((hashWalk env s.openaiToolCalls).find? fun e =>
      key e.2 = some wanted).map Prod.fst) = none := by
  cases asked with
  | none => rfl
  | some wanted =>
    refine find_hashWalk_none env (p := fun entry => key entry = some wanted)
      fun k entry hentry => decide_eq_false fun hfound => ?_
    obtain ⟨call, hcall, hmatches⟩ := h.call_of_entry hentry
    exact hother call (List.mem_of_getElem? hcall) (hfound.symm.trans (hkey hmatches))

end

theorem find_by_callId (h : HoldsCalls calls s) {i : Nat} {call : ItemCall}
    (hcall : calls[i]? = some call) : toolCallIndexById env s call.item.callId = some i :=
  find_call env (fun entry => entry.id.bind Value.asStr) (fun call => call.item.callId) h
    (fun hmatches => by rw [hmatches.id]; rfl) (fun hsame hapart => hapart.callId hsame) hcall

theorem find_no_callId (h : HoldsCalls calls s) {callId : String}
    (hother : ∀ other ∈ calls, other.item.callId ≠ callId) :
    toolCallIndexById env s callId = none :=
  find_no_call env (fun entry => entry.id.bind Value.asStr) (fun call => call.item.callId) h
    (fun hmatches => by rw [hmatches.id]; rfl) (some callId)
    (fun other hmem hsame => hother other hmem (Option.some.inj hsame).symm)

/-- **An event goes to the call that it is about.** -/
theorem index_of_about (h : HoldsCalls calls s) {i : Nat} {call : ItemCall}
    (habout : IsAbout event calls i call) : eventToolCallIndex env event s = i := by
  obtain ⟨hcall, hnames⟩ := habout
  unfold eventToolCallIndex responsesEventToolCallIndex
  rcases hnames with hitem | ⟨hother, hnames⟩
  · rw [hitem, Option.bind_some, find_call env ToolCallState.responsesItemId
      (fun call => call.item.itemId) h Matches.itemId (fun hsame hapart => hapart.itemId hsame) hcall]
    rfl
  · -- No call has the item id, if there is one at all.
    rw [find_no_call env ToolCallState.responsesItemId (fun call => call.item.itemId) h
      Matches.itemId _ hother,
      Option.none_or]
    rcases hnames with hplace | ⟨hother, hlast⟩
    · rw [hplace, Option.bind_some, find_call env ToolCallState.blockIndex
        (fun call => call.item.outputIndex) h Matches.index
        (fun hsame hapart => hapart.outputIndex hsame) hcall]
      rfl
    · rw [find_no_call env ToolCallState.blockIndex (fun call => call.item.outputIndex) h
        Matches.index _ hother,
        h.counted, ← hlast]
      rfl

/-! ### What a client has of it -/

/-- Calls that are numbered from `n` on: a delta goes to the one with its number. -/
theorem appendCall_numbered {delta call : FoldedCall} {calls : List FoldedCall} {n i : Nat}
    (hnumbered : ∀ j c, calls[j]? = some c → c.index = n + j) (hcall : calls[i]? = some call)
    (hindex : delta.index = n + i) : appendCall delta calls = calls.set i (call.append delta) := by
  induction calls generalizing n i with
  | nil => cases hcall
  | cons c rest ih =>
    have hc : c.index = n := hnumbered 0 c rfl
    cases i with
    | zero =>
      obtain rfl := Option.some.inj hcall
      rw [appendCall, if_pos (by rw [hc, hindex, Nat.add_zero]), List.set_cons_zero]
    | succ i =>
      rw [appendCall, if_neg (by omega), List.set_cons_succ, ih (n := n + 1) ?_ hcall (by omega)]
      intro j c' hc'
      have hnext := hnumbered (j + 1) c' hc'
      omega

/-- A piece goes to the call that is told under its index. -/
theorem appendCall_told {delta : FoldedCall} {i : Nat} {call call' : ItemCall}
    (hcall : calls[i]? = some call) (hindex : delta.index = i)
    (happend : (call.told i).append delta = call'.told i) :
    appendCall delta (calls.mapIdx ItemCall.told) = (calls.set i call').mapIdx ItemCall.told := by
  rw [List.mapIdx_set, ← happend]
  refine appendCall_numbered (n := 0) ?_ ?_ (by rw [hindex, Nat.zero_add])
  · intro j c hc
    rw [List.getElem?_mapIdx] at hc
    obtain ⟨call, _, rfl⟩ := Option.map_eq_some_iff.mp hc
    exact (Nat.zero_add j).symm
  · rw [List.getElem?_mapIdx, hcall]
    rfl

theorem appendCall_told_new {delta : FoldedCall} {call : ItemCall}
    (hdelta : delta = call.told calls.length) :
    appendCall delta (calls.mapIdx ItemCall.told) = (calls ++ [call]).mapIdx ItemCall.told := by
  rw [List.mapIdx_concat, ← hdelta]
  refine appendCall_new fun other hother => ?_
  obtain ⟨j, hj, rfl⟩ := List.mem_mapIdx.mp hother
  rw [hdelta]
  exact Nat.ne_of_lt hj

/-! ### Event by event -/

theorem step_of_toolAdded {item : ToolItem} {payload : String} {value : Value}
    (hevent : IsToolAdded item payload event) (hvalue : event.get "item" = some value)
    (htype : value.getStr "type" = some item.itemType) :
    responsesEventToOpenaiChunks env event s = toolCallAdded env event value item.custom s := by
  cases hcustom : item.custom <;>
    simp [responsesEventToOpenaiChunks, hevent.type, Text.startsWith, outputItemAddedEvent, hvalue,
      htype, ToolItem.itemType, hcustom]

theorem step_of_piece {item : ToolItem} (htype : event.getStr "type" = some item.deltaType) :
    responsesEventToOpenaiChunks env event s = toolCallDeltaEvent env event item.custom s := by
  cases hcustom : item.custom <;>
    simp [responsesEventToOpenaiChunks, htype, Text.startsWith, ToolItem.deltaType, hcustom]

theorem matches_added (idx : Nat) {item : ToolItem} {payload : String} {value : Value}
    (hevent : IsToolAdded item payload event) (hid : value.getStr "id" = some item.itemId)
    (hcallId : value.getStr "call_id" = some item.callId)
    (hpayload : (value.getStr item.payloadField).getD "" = payload) :
    Matches ⟨item, payload, false⟩ (addedToolCall event value item.custom idx) where
  id := by
    unfold addedToolCall
    rw [hcallId]
    rfl
  itemId := hid
  index := hevent.index
  input := by
    unfold ToolItem.payloadField at hpayload
    show (if item.custom then some _ else none) = if item.custom then some payload else none
    cases hcustom : item.custom with
    | false => rfl
    | true =>
      rw [hcustom] at hpayload
      rw [if_pos rfl, if_pos rfl, ← hpayload]
      rfl
  done := rfl

theorem spelled_added {item : ToolItem} {payload : String} {value : Value} {idx : Nat}
    (hpayload : (value.getStr item.payloadField).getD "" = payload) :
    (addedToolCall event value item.custom idx).arguments =
      (⟨item, payload, false⟩ : ItemCall).spelled := by
  unfold ToolItem.payloadField at hpayload
  unfold addedToolCall ItemCall.spelled
  cases hcustom : item.custom with
  | false =>
    rw [hcustom] at hpayload
    rw [← hpayload]
    rfl
  | true =>
    rw [hcustom] at hpayload
    rw [← hpayload]
    exact (String.append_empty).symm

theorem Carries.added {f : Folded} (h : Carries calls s f) {item : ToolItem} {payload : String}
    (hevent : IsToolAdded item payload event) (hapart : ∀ call ∈ calls, call.item.Apart item)
    (hpublic : openaiResponsesCustomToolBridgePrefixIsReserved item.name = false) :
    Carries (calls ++ [⟨item, payload, false⟩]) (responsesEventToOpenaiChunks env event s).state
      ((responsesEventToOpenaiChunks env event s).folds f) := by
  obtain ⟨value, hvalue, htype, hid, hcallId, hname, hpayload⟩ := hevent.announced
  obtain ⟨hstate, hfolds⟩ := toolCallAdded_eq env item.custom (s := s) hcallId
    (by rw [hname]; exact hpublic)
    (rfl : addedToolCall event value item.custom s.openaiToolCallIndex = _)
  have hmatches := matches_added s.openaiToolCallIndex hevent hid hcallId hpayload
  rw [step_of_toolAdded env hevent hvalue htype, hstate, hfolds]
  refine ⟨⟨?_, fun i => ?_, ?_⟩, ?_⟩
  · show s.openaiToolCallIndex + 1 = _
    rw [h.holds.counted, List.length_append]
    rfl
  · show Option.Rel Matches _ ((s.openaiToolCalls.insert s.openaiToolCallIndex _).lookup i)
    rw [FinMap.lookup_insert_eq, h.holds.counted]
    by_cases hi : i = calls.length
    · subst hi
      rw [if_pos rfl, List.getElem?_concat_length]
      rw [h.holds.counted] at hmatches
      exact .some hmatches
    · rw [if_neg hi]
      have hrel := h.holds.known i
      rcases Nat.lt_or_gt_of_ne hi with hlt | hgt
      · rw [List.getElem?_append_left hlt]
        exact hrel
      · rw [List.getElem?_eq_none (by rw [List.length_append]; exact hgt)]
        rw [List.getElem?_eq_none (Nat.le_of_lt hgt)] at hrel
        exact hrel
  · rw [List.map_append, List.pairwise_append]
    refine ⟨h.holds.apart, List.pairwise_singleton _ _, fun a ha b hb => ?_⟩
    obtain ⟨call, hcall, rfl⟩ := List.mem_map.mp ha
    rw [List.mem_singleton.mp hb]
    exact hapart call hcall
  · show appendCall _ f.toolCalls = _
    rw [h.told]
    refine appendCall_told_new ?_
    rw [h.holds.counted, spelled_added hpayload]
    unfold ItemCall.told addedToolCall
    rw [hname]

theorem matches_piece {call : ItemCall} {entry : ToolCallState} (h : Matches call entry)
    (piece emitted : String) :
    Matches (call.extend piece) (addToolCallDelta event call.item.custom piece emitted entry) where
  id := h.id
  itemId := by
    unfold addToolCallDelta
    rw [h.itemId]
    rfl
  index := by
    unfold addToolCallDelta
    rw [h.index]
    rfl
  input := by
    unfold addToolCallDelta ItemCall.extend
    rw [h.input]
    cases call.item.custom <;> rfl
  done := h.done

/-- Escaping piece by piece comes to the same as escaping the whole. -/
theorem told_piece {call : ItemCall} (hopen : call.closed = false) (piece : String) (i : Nat) :
    (call.told i).append ⟨i, none, none,
      if call.item.custom then openaiCustomBridgeInputDeltaStream piece else piece⟩ =
      (call.extend piece).told i := by
  unfold ItemCall.told FoldedCall.append ItemCall.spelled ItemCall.extend
  rw [hopen]
  cases call.item.custom with
  | false => rfl
  | true =>
    simp only [if_true, Bool.false_eq_true, if_false, String.append_empty]
    rw [start_append]
    rfl

theorem Carries.piece {f : Folded} (h : Carries calls s f) {i : Nat} {call : ItemCall}
    (habout : IsAbout event calls i call)
    (htype : event.getStr "type" = some call.item.deltaType) (hopen : call.closed = false) :
    Carries (calls.set i (call.extend ((event.getStr "delta").getD "")))
      (responsesEventToOpenaiChunks env event s).state
      ((responsesEventToOpenaiChunks env event s).folds f) := by
  rw [step_of_piece env htype]
  by_cases hempty : (event.getStr "delta").getD "" = ""
  · -- An empty piece is dropped.
    have hnone : (event.getStr "delta").filter (fun delta => !delta.isEmpty) = none := by
      cases hdelta : event.getStr "delta" with
      | none => rfl
      | some delta =>
        rw [hdelta, Option.getD_some] at hempty
        rw [hempty]
        rfl
    have hsame : calls.set i (call.extend "") = calls := by
      obtain ⟨hi, hget⟩ := List.getElem?_eq_some_iff.mp habout.1
      have hextend : call.extend "" = calls[i] := by
        rw [hget, ItemCall.extend, String.append_empty]
      rw [hextend, List.set_getElem_self]
    rw [hempty, hsame]
    unfold toolCallDeltaEvent
    rw [hnone]
    exact h
  · obtain ⟨piece, hpiece⟩ : ∃ piece, event.getStr "delta" = some piece := by
      cases hdelta : event.getStr "delta" with
      | none =>
        rw [hdelta] at hempty
        exact absurd rfl hempty
      | some piece => exact ⟨piece, rfl⟩
    rw [hpiece, Option.getD_some] at hempty ⊢
    obtain ⟨entry, hentry, hmatches⟩ := h.holds.entry habout.1
    obtain ⟨hstate, hfolds⟩ := toolCallDelta_eq env call.item.custom hpiece hempty rfl
      (index_of_about env h.holds habout) hentry
    rw [hstate, hfolds]
    refine ⟨h.holds.set habout.1 rfl (matches_piece hmatches piece _) rfl rfl, ?_⟩
    show appendCall _ f.toolCalls = _
    rw [h.told]
    exact appendCall_told habout.1 rfl (told_piece hopen piece i)

/-! ### The end of an input -/

def closingPiece (rest : String) : String :=
  openaiCustomBridgeInputDeltaStream rest ++ openaiCustomBridgeDoneDeltaStream

theorem finalize_open {call : ItemCall} {entry : ToolCallState} (h : Matches call entry)
    (hcustom : call.item.custom = true) (hopen : call.closed = false) (rest : String) :
    ∃ finished, finalizeCustomToolCallBridgeDelta entry (call.payload ++ rest) =
        some (closingPiece rest, finished) ∧ Matches (call.close (call.payload ++ rest)) finished := by
  have hinput := h.input
  rw [hcustom, if_pos rfl] at hinput
  have hclose : call.close (call.payload ++ rest) =
      { call with payload := call.payload ++ rest, closed := true } := by
    rw [ItemCall.close, hcustom, hopen]
    rfl
  refine ⟨{ entry with
    customInputText := some (call.payload ++ rest)
    arguments := entry.arguments ++ closingPiece rest
    customInputDone := true }, ?_, ?_⟩
  · unfold finalizeCustomToolCallBridgeDelta
    rw [hinput, h.done, hopen]
    simp only [Option.bind_eq_bind, Option.bind_some, Bool.false_eq_true, if_false,
      Text.stripPrefix_append, Option.getD_some]
    rfl
  · rw [hclose]
    refine ⟨h.id, h.itemId, h.index, ?_, rfl⟩
    rw [hcustom]
    rfl

theorem finalize_closed {call : ItemCall} {entry : ToolCallState} (h : Matches call entry)
    (hclosed : ¬ (call.item.custom && !call.closed) = true) (full : String) :
    finalizeCustomToolCallBridgeDelta entry full = none := by
  unfold finalizeCustomToolCallBridgeDelta
  rw [h.input, h.done]
  cases hcustom : call.item.custom with
  | false => rfl
  | true =>
    rw [hcustom, Bool.true_and, Bool.not_eq_true, Bool.not_eq_false'] at hclosed
    rw [hclosed]
    rfl

theorem told_close {call : ItemCall} (hcustom : call.item.custom = true)
    (hopen : call.closed = false) (rest : String) (i : Nat) :
    (call.told i).append ⟨i, some call.item.callId, none, closingPiece rest⟩ =
      (call.close (call.payload ++ rest)).told i := by
  unfold ItemCall.told FoldedCall.append ItemCall.spelled ItemCall.close
  simp only [hcustom, hopen, Bool.not_false, Bool.and_self, if_true, Bool.false_eq_true, if_false,
    String.append_empty, Option.some_or]
  rw [start_append, closingPiece, String.append_assoc]

theorem Carries.close {k : Source} {f : Folded} (h : Carries calls k.state (k.folds f)) {i : Nat}
    {call : ItemCall} (hcall : calls[i]? = some call) {full : String}
    (hcloses : call.ClosesWith full) {id : ToolCallState → Value}
    {fullInput : ToolCallState → String}
    (hid : ∀ entry, Matches call entry → id entry = .string call.item.callId)
    (hfull : ∀ entry, Matches call entry → call.item.custom = true → fullInput entry = full) :
    Carries (calls.set i (call.close full)) (closeCustomToolCall env i id fullInput k).state
      ((closeCustomToolCall env i id fullInput k).folds f) := by
  obtain ⟨entry, hentry, hmatches⟩ := h.holds.entry hcall
  obtain ⟨hi, hget⟩ := List.getElem?_eq_some_iff.mp hcall
  unfold closeCustomToolCall
  rw [hentry]
  dsimp only
  by_cases hopen : (call.item.custom && !call.closed) = true
  · obtain ⟨hcustom, hnot⟩ := Bool.and_eq_true_iff.mp hopen
    have hclosed : call.closed = false := by simpa using hnot
    obtain ⟨rest, rfl⟩ := hcloses hcustom hclosed
    obtain ⟨finished, hfinal, hfinished⟩ := finalize_open hmatches hcustom hclosed rest
    rw [hfull entry hmatches hcustom, hfinal, hid entry hmatches]
    dsimp only
    refine ⟨h.holds.set hcall (ItemCall.close_item _ _) hfinished rfl rfl, ?_⟩
    have hindex : (Value.ofFields [("index", .nat i), ("id", .string call.item.callId),
        ("type", .string "function"),
        ("function", .ofFields [("arguments", .string (closingPiece rest))])]).getU64 "index" =
        some i := by
      rw [Value.getU64, Value.get_ofFields]
      rfl
    rw [folds_pushToolCall env _ _ hindex, folds_update]
    show appendCall _ (k.folds f).toolCalls = _
    rw [h.told]
    refine appendCall_told hcall rfl ?_
    rw [← told_close hcustom hclosed rest i]
    congr 1
    simp [FoldedCall.ofDelta, Value.getStr, List.lookup_cons]
  · -- Nothing is left to be closed.
    have hcall' : call.close full = calls[i] := by rw [hget, ItemCall.close, if_neg hopen]
    rw [finalize_closed hmatches hopen, hcall', List.set_getElem_self]
    exact h

theorem Carries.done {f : Folded} (h : Carries calls s f) {i : Nat} {call : ItemCall}
    {full : String} (habout : IsAbout event calls i call)
    (htype : event.getStr "type" = some "response.custom_tool_call_input.done")
    (hfull : (event.getStr "input").getD call.payload = full) (hcloses : call.ClosesWith full) :
    Carries (calls.set i (call.close full)) (responsesEventToOpenaiChunks env event s).state
      ((responsesEventToOpenaiChunks env event s).folds f) := by
  have hstep : responsesEventToOpenaiChunks env event s = customToolCallInputDone env event s := by
    simp [responsesEventToOpenaiChunks, htype, Text.startsWith]
  rw [hstep, customToolCallInputDone, index_of_about env h.holds habout]
  refine Carries.close env (k := ⟨s, []⟩) h habout.1 hcloses ?_ ?_
  · intro entry hmatches
    rw [hmatches.id]
    rfl
  · intro entry hmatches hcustom
    rw [hmatches.input, hcustom, if_pos rfl, ← hfull]
    cases event.getStr "input" <;> rfl

/-! ### The final output -/

theorem closeFinal_eq_set (h : HoldsCalls calls s) {i : Nat} {call : ItemCall}
    (hcall : calls[i]? = some call) {final : FinalCustomCall}
    (hfinal : call.item.callId = final.callId) :
    closeFinal calls final = calls.set i (call.close final.fullInput) := by
  refine List.ext_getElem? fun j => ?_
  rw [closeFinal, List.getElem?_map, List.getElem?_set]
  by_cases hj : i = j
  · subst hj
    obtain ⟨hi, _⟩ := List.getElem?_eq_some_iff.mp hcall
    rw [if_pos rfl, if_pos hi, hcall, Option.map_some, if_pos hfinal]
  · rw [if_neg hj]
    cases hother : calls[j]? with
    | none => rfl
    | some other =>
      rw [Option.map_some, if_neg]
      intro hsame
      have hshared := hfinal.trans hsame.symm
      exact hj (h.same hcall hother
        ⟨fun hapart => hapart.callId hshared, fun hapart => hapart.callId hshared.symm⟩)

theorem closeFinal_unknown {final : FinalCustomCall}
    (hother : ∀ other ∈ calls, other.item.callId ≠ final.callId) : closeFinal calls final = calls := by
  rw [closeFinal, List.map_congr_left fun call hcall => if_neg (hother call hcall), List.map_id']

theorem closesWith_closeFinal {first final : FinalCustomCall}
    (h : ∀ call ∈ calls, call.item.callId = final.callId → call.ClosesWith final.fullInput) :
    ∀ call ∈ closeFinal calls first, call.item.callId = final.callId →
      call.ClosesWith final.fullInput := by
  intro call hcall
  obtain ⟨before, hbefore, rfl⟩ := List.mem_map.mp hcall
  split
  · unfold ItemCall.close
    split
    · exact fun _ _ hopen => (nomatch hopen)
    · exact h before hbefore
  · exact h before hbefore

theorem Carries.final {k : Source} {f : Folded} (h : Carries calls k.state (k.folds f))
    {item : Value} {final : FinalCustomCall} (hitem : finalCustomCall item = some final)
    (hcloses : ∀ call ∈ calls, call.item.callId = final.callId → call.ClosesWith final.fullInput) :
    Carries (closeFinal calls final) (closeFinalCustomCall env k item).state
      ((closeFinalCustomCall env k item).folds f) := by
  unfold closeFinalCustomCall
  rw [hitem]
  dsimp only
  by_cases hknown : ∃ call ∈ calls, call.item.callId = final.callId
  · obtain ⟨call, hmem, hcallId⟩ := hknown
    obtain ⟨i, hi⟩ := List.getElem?_of_mem hmem
    rw [closeFinal_eq_set h.holds hi hcallId, ← hcallId, find_by_callId env h.holds hi]
    exact Carries.close env h hi (hcloses call hmem hcallId) (fun _ _ => rfl) (fun _ _ _ => rfl)
  · have hother : ∀ other ∈ calls, other.item.callId ≠ final.callId :=
      fun other hmem hsame => hknown ⟨other, hmem, hsame⟩
    rw [closeFinal_unknown hother, find_no_callId env h.holds hother]
    exact h

theorem Carries.finals (items : List Value) {calls : List ItemCall} {k : Source} {f : Folded}
    (h : Carries calls k.state (k.folds f))
    (hcloses : ∀ final ∈ items.filterMap finalCustomCall, ∀ call ∈ calls,
      call.item.callId = final.callId → call.ClosesWith final.fullInput) :
    Carries ((items.filterMap finalCustomCall).foldl closeFinal calls)
      (items.foldl (closeFinalCustomCall env) k).state
      ((items.foldl (closeFinalCustomCall env) k).folds f) := by
  induction items generalizing calls k with
  | nil => exact h
  | cons item items ih =>
    rw [List.foldl_cons]
    cases hitem : finalCustomCall item with
    | none =>
      have hskip : closeFinalCustomCall env k item = k := by
        unfold closeFinalCustomCall
        rw [hitem]
      rw [List.filterMap_cons_none hitem] at hcloses ⊢
      rw [hskip]
      exact ih h hcloses
    | some final =>
      rw [List.filterMap_cons_some hitem] at hcloses ⊢
      rw [List.foldl_cons]
      refine ih (h.final env hitem (hcloses final List.mem_cons_self)) fun later hlater => ?_
      exact closesWith_closeFinal (hcloses later (List.mem_cons_of_mem _ hlater))

theorem captureResponse_index (event : Value) (s : StreamState) :
    (captureResponse event s).openaiToolCallIndex = s.openaiToolCallIndex := by
  unfold captureResponse
  split
  · rfl
  · dsimp only
    split <;> rfl

theorem Carries.ended {f : Folded} (h : Carries calls s f)
    (htype : event.getStr "type" ∈
      [some "response.completed", some "response.incomplete", some "response.failed"])
    (hcloses : ∀ final ∈ finalCalls event, ∀ call ∈ calls,
      call.item.callId = final.callId → call.ClosesWith final.fullInput) :
    Carries ((finalCalls event).foldl closeFinal calls)
      (responsesEventToOpenaiChunks env event s).state
      ((responsesEventToOpenaiChunks env event s).folds f) := by
  have hstep : ∃ ty, responsesEventToOpenaiChunks env event s = responseEnded env ty event s := by
    simp only [List.mem_cons, List.not_mem_nil, or_false] at htype
    rcases htype with htype | htype | htype <;>
      exact ⟨_, by simp [responsesEventToOpenaiChunks, htype, Text.startsWith]; rfl⟩
  obtain ⟨ty, hstep⟩ := hstep
  have hfinals := Carries.finals env (responseOutput event) (k := ⟨s, []⟩) h hcloses
  obtain ⟨_, _, hcalls⟩ := captureResponse_keeps event
    ((responseOutput event).foldl (closeFinalCustomCall env) ⟨s, []⟩).state
  rw [hstep]
  unfold responseEnded responsesTerminalCustomToolBridgeChunk
  dsimp only
  generalize hk : Source.update ((responseOutput event).foldl (closeFinalCustomCall env) ⟨s, []⟩)
    (captureResponse event) = k
  have hheld : HoldsCalls ((finalCalls event).foldl closeFinal calls) k.state := by
    rw [← hk]
    exact hfinals.holds.congr (captureResponse_index event _) hcalls
  have htold : (k.folds f).toolCalls =
      ((finalCalls event).foldl closeFinal calls).mapIdx ItemCall.told := by
    rw [← hk]
    exact hfinals.told
  split
  · exact ⟨hheld, htold⟩
  · refine ⟨hheld.congr rfl rfl, ?_⟩
    have hfeed : ∀ chunk, Source.folds ⟨k.state, k.out ++ [chunk]⟩ f = (k.folds f).feed chunk := by
      intro chunk
      unfold Source.folds
      rw [List.foldl_append]
      rfl
    show (Source.folds ⟨k.state, k.out ++ [_]⟩ f).toolCalls = _
    rw [hfeed, ← htold]
    split
    · rw [feed_set _ _ (by decide), feed_openaiChunk, feedDelta_finish]
    · rw [feed_openaiChunk, feedDelta_finish]

/-! ### The other events -/

/-- Neither the state nor the client learns anything of a tool call. -/
structure LeavesCalls (s : StreamState) (k : Source) : Prop where
  index : k.state.openaiToolCallIndex = s.openaiToolCallIndex
  calls : k.state.openaiToolCalls = s.openaiToolCalls
  told : ∀ f, (k.folds f).toolCalls = f.toolCalls

theorem leavesCalls_reject (s : StreamState) (errorType code message : String) :
    LeavesCalls s ⟨(rejectOpenaiStream env s errorType code message).2,
      (rejectOpenaiStream env s errorType code message).1⟩ := by
  refine ⟨rfl, rfl, fun f => ?_⟩
  unfold rejectOpenaiStream markStreamFatalRejection Source.folds
  dsimp only [List.foldl_cons, List.foldl_nil]
  rw [feed_set _ _ (by decide)]
  split
  · rw [feed_set _ _ (by decide), feed_openaiChunk, feedDelta_finish]
  · rw [feed_openaiChunk, feedDelta_finish]

theorem leavesCalls_created (event : Value) (s : StreamState) :
    LeavesCalls s (responseCreated env event s) := by
  unfold responseCreated
  refine ⟨?_, ?_, fun f => by rw [folds_ensureRole]; rfl⟩
  · unfold Source.ensureRole emitOpenaiAssistantRoleIfNeeded
    dsimp only
    split <;> rfl
  · unfold Source.ensureRole emitOpenaiAssistantRoleIfNeeded
    dsimp only
    split <;> rfl

theorem leavesCalls_pushText {field : String} (hfield : field ≠ "tool_calls") (text : Option String)
    (s : StreamState) : LeavesCalls s (pushText env field text s) := by
  unfold pushText
  split
  · exact ⟨rfl, rfl, fun _ => rfl⟩
  · refine ⟨rfl, rfl, fun f => ?_⟩
    rw [folds_push, folds_start]
    unfold Folded.feedDelta Value.getArray
    rw [Value.get_ofFields, List.lookup_cons, beq_false_of_ne hfield.symm]
    rfl

theorem leavesCalls_refusal (rawRefusal : Option String) (s : StreamState) :
    LeavesCalls s (refusalEvent env rawRefusal s) := by
  have h := leavesCalls_pushText env (by decide : "refusal" ≠ "tool_calls")
  exact ⟨(h _ _).index, (h _ _).calls, (h _ _).told⟩

theorem leavesCalls_item (s : StreamState)
    (h : isToolCallItem ((event.get "item").getD .null) = false) :
    LeavesCalls s (outputItemAddedEvent env event s) := by
  unfold isToolCallItem at h
  unfold outputItemAddedEvent
  dsimp only
  split
  · next htype =>
    rw [htype] at h
    cases h
  · next htype =>
    rw [htype] at h
    cases h
  · exact ⟨rfl, rfl, fun _ => rfl⟩

theorem leavesCalls_aside (hevent : IsAside event) :
    LeavesCalls s (responsesEventToOpenaiChunks env event s) := by
  unfold responsesEventToOpenaiChunks
  dsimp only
  split
  · exact leavesCalls_reject env s _ _ _
  · have htype := hevent.type
    split
    · exact leavesCalls_created env event s
    · exact leavesCalls_pushText env (by decide) _ s
    · exact leavesCalls_refusal env _ s
    · exact leavesCalls_refusal env _ s
    · exact leavesCalls_pushText env (by decide) _ s
    · next hadded =>
      refine leavesCalls_item env s (hevent.item ?_)
      cases hty : event.getStr "type" with
      | none =>
        rw [hty] at hadded
        exact absurd hadded (by decide)
      | some ty =>
        rw [hty, Option.getD_some] at hadded
        rw [hadded]
    all_goals first
      | exact ⟨rfl, rfl, fun _ => rfl⟩
      | next htool =>
        rw [htool] at htype
        exact absurd htype (by decide)

/-- **What an event says of the calls is what the state has of them, and what the client is told.** -/
theorem Carries.step {calls' : List ItemCall} {f : Folded} (h : Carries calls s f)
    (hevent : CallEvent calls event calls')
    (hpublic : ∀ call ∈ calls',
      openaiResponsesCustomToolBridgePrefixIsReserved call.item.name = false) :
    Carries calls' (responsesEventToOpenaiChunks env event s).state
      ((responsesEventToOpenaiChunks env event s).folds f) := by
  cases hevent with
  | added hadded hapart =>
    exact h.added env hadded hapart (hpublic _ (List.mem_append_right _ List.mem_cons_self))
  | piece habout htype hopen => exact h.piece env habout htype hopen
  | done habout htype hfull hcloses => exact h.done env habout htype hfull hcloses
  | ended htype hcloses => exact h.ended env htype hcloses
  | aside haside =>
    have hleaves := leavesCalls_aside (s := s) env haside
    exact ⟨h.holds.congr hleaves.index hleaves.calls, (hleaves.told f).trans h.told⟩

end

end LlmUniversalProxy.Streaming
