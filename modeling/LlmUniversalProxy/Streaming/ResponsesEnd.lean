import LlmUniversalProxy.Streaming.ResponsesCalls

/-!
# `Streaming.ResponsesEnd` — the end, from the sink's side and the client's

At the finish the calls are done, and at the end everything is. The terminal event is made out of
the state, and repeats what the client has been told.

The functions are `emit_openai_responses_terminal` and those it calls (`streaming/openai_sink.rs`
465-867 and 1194-1457). The list that is repeated goes by the numbers of the items, which are not in
the order in which they are done: reasoning, the calls, and a message last.
-/

set_option autoImplicit false

namespace LlmUniversalProxy.Streaming

open Json Lib Translate

variable {env : Env} {ids : Nat → String} {p : Phase} {m₀ : ResponsesOutput} {k : Sink}

/-! ## The calls are done -/

def Sink.withCalls (k : Sink) (calls : FinMap Nat ToolCallState) : Sink :=
  k.update fun s => { s with openaiToolCalls := calls }

theorem toolCallsDone_withCalls (responseId : String) (context : TerminalContext)
    (calls : FinMap Nat ToolCallState) (done : List ResponsesToolCallDone) (k : Sink) :
    done.foldl (emitResponsesToolCallDone env responseId context) (k.withCalls calls) =
      (done.foldl (emitResponsesToolCallDone env responseId context) k).withCalls calls := by
  induction done generalizing k with
  | nil => rfl
  | cons d done ih => exact ih (emitResponsesToolCallDone env responseId context k d)

theorem ToldSoFar.callDone (h : ToldSoFar env ids p m₀ k) (responseId : String) {t : Nat}
    {entry : ToolCallState} (hlookup : k.state.openaiToolCalls.lookup t = some entry)
    (hadded : entry.responsesItemAdded = true) (hopen : entry.responsesDone = false)
    (hsettled : p.closing = false → EndsWhole p.finish) :
    ToldSoFar env ids p m₀ ((emitResponsesToolCallDone env responseId p.context k
      (entry.done (ids t))).withCalls
        (k.state.openaiToolCalls.insert t { entry with responsesDone := true })) := by
  have hcall := h.sound.calls t entry hlookup
  obtain ⟨index, hindex⟩ := Option.isSome_iff_exists.mp hcall.placed
  have hid := hcall.added hadded
  have hplace : (board env p.context p.carrier k.state).index (.call t) = some index := by
    simp [board, hlookup, hindex]
  have hitem : (board env p.context p.carrier k.state).opened (.call t) =
      some (.string s!"fc_{ids t}") := by
    simp [board, hlookup, ToolCallState.openItem, hadded, hopen, hid]
  have hnumber : (entry.done (ids t)).outputIndex = index := by
    simp [ToolCallState.done, hindex]
  have htype : responsesToolCallDoneEventType (entry.done (ids t)).toolType ∈ itemEventTypes := by
    unfold responsesToolCallDoneEventType
    split <;> decide
  have hspoken := h.speak (.call t) _ ([("response_id", .string responseId),
    ("call_id", .string (entry.done (ids t)).callId), ("name", .string (entry.done (ids t)).name),
    ("item_id", .string s!"fc_{(entry.done (ids t)).callId}"),
    ("output_index", .nat (entry.done (ids t)).outputIndex),
    (responsesToolCallPayloadField (entry.done (ids t)).toolType,
      .string (entry.done (ids t)).arguments)] ++
    optionalField "namespace" (entry.done (ids t)).namespaceName) hplace hitem htype
    ⟨by rw [hnumber]; rfl, rfl⟩
  have hsound := hspoken.sound.putCall t { entry with responsesDone := true }
    ⟨hcall.placed, hcall.unmarked, hcall.named, hcall.added, fun _ => hadded⟩
    (fun hclosing _ => hsettled hclosing)
  have hself := board_putCall env p.context p.carrier k.state t
    { entry with responsesDone := true }
  refine hspoken.finish (.call t) (.call t) (doneItem env p.context (entry.done (ids t)))
    { k.state with
      openaiToolCalls := k.state.openaiToolCalls.insert t { entry with responsesDone := true }
      responsesSeq := k.state.responsesSeq + 1 + 1 } hplace hitem
    ⟨rfl, fun hne => absurd rfl hne,
      ⟨hself.1.trans hindex, hself.2.1.trans ?_, hself.2.2.trans ?_⟩, ?_⟩ rfl
    { hsound with started := Nat.le_succ_of_le hspoken.sound.started }
    ⟨by rw [hnumber]; rfl, rfl, ?_⟩
  · simp [ToolCallState.openItem]
  · simp [ToolCallState.finalItem, hid]
    rfl
  · intro holder hne _
    exact board_putCall_ne env p.context p.carrier k.state _ hne
  · simp [doneItem, toolCallItem, ToolCallState.done]

/-- The calls that have been added are done, but for those under the keys. -/
def DoneBut (keys : List Nat) (s : StreamState) : Prop :=
  ∀ t entry, s.openaiToolCalls.lookup t = some entry → entry.responsesItemAdded = true →
    t ∈ keys ∨ entry.responsesDone = true

/-- What the client has been told when the loop over the calls has come this far. -/
def PendingDone.told (acc : PendingDone) (env : Env) (responseId : String)
    (context : TerminalContext) (k : Sink) : Sink :=
  (acc.completed.foldl (emitResponsesToolCallDone env responseId context) k).withCalls acc.toolCalls

/-- The loop has done with the calls but for those under the keys. -/
structure CallsDone (env : Env) (ids : Nat → String) (p : Phase) (m₀ : ResponsesOutput)
    (responseId : String) (k : Sink) (keys : List Nat) (acc : PendingDone) : Prop where
  degraded : acc.degraded = []
  told : ToldSoFar env ids p m₀ (acc.told env responseId p.context k)
  added : AddedBut [] (acc.told env responseId p.context k).state
  done : DoneBut keys (acc.told env responseId p.context k).state

/-- One step of the loop. -/
theorem CallsDone.collect {responseId : String} {key : Nat} {keys : List Nat} {acc : PendingDone}
    (h : CallsDone env ids p m₀ responseId k (key :: keys) acc)
    (hsettled : p.closing = false → EndsWhole p.finish) (includeDegraded : Bool) :
    CallsDone env ids p m₀ responseId k keys (collectPendingDone env includeDegraded acc key) := by
  -- a call that is not pending is left as it is
  have hskip : (∀ entry, acc.toolCalls.lookup key = some entry →
      entry.responsesItemAdded = true → entry.responsesDone = true) →
      CallsDone env ids p m₀ responseId k keys acc := by
    intro hkey
    refine { h with done := ?_ }
    intro t entry hlookup hentry
    rcases h.done t entry hlookup hentry with hmem | hdone
    · rcases List.mem_cons.mp hmem with rfl | hmem
      · exact .inr (hkey entry hlookup hentry)
      · exact .inl hmem
    · exact .inr hdone
  unfold collectPendingDone
  cases hlookup : acc.toolCalls.lookup key with
  | none =>
    refine hskip ?_
    intro entry hentry
    rw [hlookup] at hentry
    cases hentry
  | some entry =>
    have hcall := h.told.sound.calls key entry hlookup
    simp only [hcall.notMarked, Bool.false_eq_true, if_false]
    by_cases hpending : entry.responsesItemAdded = true ∧ entry.responsesDone = false
    · have hnow : (entry.responsesItemAdded && !entry.responsesDone) = true := by
        simp [hpending.1, hpending.2]
      have hid : entry.id.bind Value.asStr = some (ids key) := by
        rw [hcall.added hpending.1]
        rfl
      rw [if_pos hnow, hid, Option.map_some, Option.toList_some]
      have hdone := h.told.callDone responseId hlookup hpending.1 hpending.2 hsettled
      have htold : PendingDone.told ⟨acc.toolCalls.insert key { entry with responsesDone := true },
          acc.completed ++ [entry.done (ids key)], acc.degraded⟩ env responseId p.context k =
          (emitResponsesToolCallDone env responseId p.context (acc.told env responseId p.context k)
            (entry.done (ids key))).withCalls
            (acc.toolCalls.insert key { entry with responsesDone := true }) := by
        unfold PendingDone.told
        rw [List.foldl_append]
        rfl
      refine ⟨h.degraded, ?_, ?_, ?_⟩
      · rw [htold]
        exact hdone
      · intro t entry' hlookup' hid
        have hinsert := (FinMap.lookup_insert_eq _ _ _ _).symm.trans hlookup'
        by_cases ht : t = key
        · rw [if_pos ht] at hinsert
          cases hinsert
          exact .inr hpending.1
        · rw [if_neg ht] at hinsert
          exact h.added t entry' hinsert hid
      · intro t entry' hlookup' hentry
        have hinsert := (FinMap.lookup_insert_eq _ _ _ _).symm.trans hlookup'
        by_cases ht : t = key
        · rw [if_pos ht] at hinsert
          cases hinsert
          exact .inr rfl
        · rw [if_neg ht] at hinsert
          rcases h.done t entry' hinsert hentry with hmem | hdone
          · exact .inl ((List.mem_cons.mp hmem).resolve_left ht)
          · exact .inr hdone
    · have hlater : ¬ (entry.responsesItemAdded && !entry.responsesDone) = true := by
        simpa using hpending
      rw [if_neg hlater]
      refine hskip ?_
      intro entry' hentry' hadded'
      rw [hlookup] at hentry'
      cases hentry'
      by_contra hopen
      exact hpending ⟨hadded', Bool.not_eq_true _ ▸ hopen⟩

/-- **The calls that are added are done.** -/
theorem ToldSoFar.pendingDone (h : ToldSoFar env ids p m₀ k) (responseId : String)
    (includeDegraded : Bool) (hadded : AddedBut [] k.state)
    (hsettled : p.closing = false → EndsWhole p.finish) :
    let result := emitPendingResponsesToolCallDoneEvents env responseId p.context
      includeDegraded k
    result.1 = [] ∧ ToldSoFar env ids p m₀ result.2 ∧ AddedBut [] result.2.state ∧
      DoneBut [] result.2.state := by
  have hrun : ∀ (keys : List Nat) (acc : PendingDone),
      CallsDone env ids p m₀ responseId k keys acc → CallsDone env ids p m₀ responseId k []
        (keys.foldl (collectPendingDone env includeDegraded) acc) := by
    intro keys
    induction keys with
    | nil => exact fun acc hacc => hacc
    | cons key keys ih => exact fun acc hacc => ih _ (hacc.collect hsettled includeDegraded)
  have hkeys : DoneBut (sortedKeys k.state.openaiToolCalls) k.state := by
    intro t entry hlookup _
    refine .inl ((List.mergeSort_perm _ _).mem_iff.mpr ?_)
    rw [← AList.mem_keys, ← AList.lookup_isSome, hlookup]
    rfl
  obtain ⟨hdegraded, htold, hadded, hdone⟩ := hrun (sortedKeys k.state.openaiToolCalls)
    ⟨k.state.openaiToolCalls, [], []⟩ ⟨rfl, h, hadded, hkeys⟩
  unfold PendingDone.told at htold hadded hdone
  unfold emitPendingResponsesToolCallDoneEvents
  rw [← toolCallsDone_withCalls] at htold hadded hdone
  exact ⟨hdegraded, htold, hadded, hdone⟩

/-! ## The end -/

/-- Another ending, as long as no call has been done for the one that there was. -/
theorem ToldSoFar.contextOf (h : ToldSoFar env ids p m₀ k) (context : TerminalContext)
    (hsame : ∀ t entry, k.state.openaiToolCalls.lookup t = some entry →
      entry.responsesDone = true → context = p.context) :
    ToldSoFar env ids { p with context := context } m₀ k := by
  refine h.state (q := { p with context := context }) ⟨rfl, fun _ => rfl, fun _ => rfl, ?_⟩ rfl
    { h.sound with }
  intro holder
  cases holder with
  | reasoning => rfl
  | message => rfl
  | past n => rfl
  | call t =>
    show (k.state.openaiToolCalls.lookup t).bind _ = (k.state.openaiToolCalls.lookup t).bind _
    cases hlookup : k.state.openaiToolCalls.lookup t with
    | none => rfl
    | some entry =>
      show entry.finalItem env context = entry.finalItem env p.context
      unfold ToolCallState.finalItem
      by_cases hdone : entry.responsesDone = true
      · rw [hsame t entry hlookup hdone]
      · rw [if_neg hdone, if_neg hdone]

theorem ToldSoFar.reasoningDone (h : ToldSoFar env ids p m₀ k) (hopen : p.closing = false)
    (responseId : String) (carrier : Option String) :
    ToldSoFar env ids { p with closing := true, carrier := carrier } m₀
      (emitReasoningDone responseId carrier k) := by
  have hdone := h.reasoningOpen hopen
  unfold emitReasoningDone
  by_cases hadded : k.state.responsesReasoningAdded = true
  · obtain ⟨hplaced, hnamed⟩ := h.sound.reasoning hadded
    obtain ⟨index, hindex⟩ := Option.isSome_iff_exists.mp hplaced
    obtain ⟨itemId, hid⟩ := Option.isSome_iff_exists.mp hnamed
    have hplace : responsesReasoningOutputIndex { k.state with responsesReasoningDone := true } =
        (index, { k.state with responsesReasoningDone := true }) := by
      unfold responsesReasoningOutputIndex
      simp only [hindex]
    obtain ⟨itemId, hitemId⟩ : ∃ itemId, k.state.responsesReasoningId.getD "rs_0" = itemId :=
      ⟨_, rfl⟩
    have hitem : (board env p.context p.carrier k.state).opened .reasoning =
        some (.string itemId) := by
      simp [board, hadded, hdone, ← hitemId, hid]
    have hopenNow :
        (k.state.responsesReasoningAdded && !k.state.responsesReasoningDone) = true := by
      simp [hadded, hdone]
    rw [if_pos hopenNow]
    simp only [hplace, hitemId]
    -- the text, the part and the item are done, in this order and under one index
    have htext := h.speak .reasoning "response.reasoning_summary_text.done"
      [("response_id", .string responseId), ("item_id", .string itemId),
        ("output_index", .nat index), ("summary_index", .nat 0),
        ("text", .string k.state.responsesReasoningText)] hindex hitem (by decide) ⟨rfl, rfl⟩
    have hpart := htext.speak .reasoning "response.reasoning_summary_part.done"
      [("response_id", .string responseId), ("item_id", .string itemId),
        ("output_index", .nat index), ("summary_index", .nat 0),
        ("part", .ofFields [("type", .string "summary_text"),
          ("text", .string k.state.responsesReasoningText)])] hindex hitem (by decide) ⟨rfl, rfl⟩
    refine hpart.finish (q := { p with closing := true, carrier := carrier }) .reasoning .reasoning
      (reasoningItem k.state carrier)
      { k.state with
        responsesReasoningDone := true
        responsesSeq := k.state.responsesSeq + 1 + 1 + 1 } hindex hitem
      ⟨rfl, fun hne => absurd rfl hne, ⟨hindex, ?_, rfl⟩, ?_⟩ rfl
      { hpart.sound with
        started := Nat.le_succ_of_le hpart.sound.started
        reasoningDone := by rw [hadded]; rfl
        settled := fun hcontra => by cases hcontra }
      ⟨rfl, rfl, ?_⟩
    · simp [board]
    · intro holder hne _
      cases holder with
      | reasoning => exact absurd rfl hne
      | message => exact ⟨rfl, rfl, rfl⟩
      | past n => exact ⟨rfl, rfl, rfl⟩
      | call t => exact ⟨rfl, rfl, rfl⟩
    · simp [reasoningItem, ← hitemId, hid, Value.ofOptionStr]
  -- no reasoning has been added, so no event is sent
  · have hnone : k.state.responsesReasoningAdded = false := Bool.not_eq_true _ ▸ hadded
    simp only [hnone, Bool.false_and, Bool.false_eq_true, if_false]
    refine h.state (q := { p with closing := true, carrier := carrier })
      ⟨rfl, fun _ => rfl, fun _ => rfl, ?_⟩ rfl
      { h.sound with
        reasoningDone := by rw [hdone, hnone]; rfl
        settled := fun hcontra => by cases hcontra }
    intro holder
    cases holder with
    | reasoning => simp [board, hdone]
    | message => rfl
    | past n => rfl
    | call t => rfl

/-- The holders of everything there is at the end. -/
def holders (env : Env) (s : StreamState) : List Holder :=
  .reasoning :: ((List.range s.responsesCompletedMessageItems.length).map Holder.past ++
    (env.hashOrder s.openaiToolCalls.keys).map Holder.call)

theorem holders_nodup (env : Env) (s : StreamState) : (holders env s).Nodup := by
  have hkeys : (env.hashOrder s.openaiToolCalls.keys).Nodup :=
    (env.hashOrder_perm _).nodup_iff.mpr (AList.keys_nodup _)
  refine List.nodup_cons.mpr ⟨by simp, List.nodup_append.mpr ⟨?_, ?_, ?_⟩⟩
  · exact List.nodup_range.map fun n n' heq => Holder.past.inj heq
  · exact hkeys.map fun t t' heq => Holder.call.inj heq
  · intro holder hpast holder' hcall heq
    obtain ⟨n, -, rfl⟩ := List.mem_map.mp hpast
    obtain ⟨t, -, rfl⟩ := List.mem_map.mp hcall
    cases heq

/-- Whoever is done with an item is one of the holders. -/
theorem mem_holders (context : TerminalContext) (carrier : Option String) (s : StreamState)
    {holder : Holder} (hdone : ((board env context carrier s).done holder).isSome = true) :
    holder ∈ holders env s := by
  cases holder with
  | reasoning => exact List.mem_cons_self
  | message => cases hdone
  | past n =>
    have hn : n < s.responsesCompletedMessageItems.length := by
      by_contra hn
      have hnone : s.responsesCompletedMessageItems[n]? = none :=
        List.getElem?_eq_none (Nat.not_lt.mp hn)
      simp [board, hnone] at hdone
    exact List.mem_cons_of_mem _ (List.mem_append_left _
      (List.mem_map.mpr ⟨n, List.mem_range.mpr hn, rfl⟩))
  | call t =>
    have ht : t ∈ env.hashOrder s.openaiToolCalls.keys := by
      refine (env.hashOrder_perm _).mem_iff.mpr ?_
      rw [← AList.mem_keys, ← AList.lookup_isSome]
      by_contra hnone
      have hlookup : s.openaiToolCalls.lookup t = none := by simpa using hnone
      simp [board, hlookup] at hdone
    exact List.mem_cons_of_mem _ (List.mem_append_right _ (List.mem_map.mpr ⟨t, ht, rfl⟩))

theorem filterMap_range_getElem? {α β : Type} (xs : List α) (f : α → β) :
    (List.range xs.length).filterMap (fun n => xs[n]?.map f) = xs.map f := by
  induction xs with
  | nil => rfl
  | cons x xs ih =>
    rw [List.length_cons, List.range_succ_eq_map, List.filterMap_cons, List.filterMap_map]
    simpa using ih

theorem terminalOutput_perm {s : StreamState} (hsound : Sound ids p s) (hclosing : p.closing = true)
    (hadded : AddedBut [] s) (hdone : DoneBut [] s) :
    ∃ items, terminalOutput env p.context p.carrier s = Slots.inOrder items ∧
      items.Perm ((holders env s).filterMap (board env p.context p.carrier s).place) := by
  refine ⟨_, rfl, ?_⟩
  have hreasoning : (if s.responsesReasoningAdded then
      [((responsesReasoningOutputIndex s).1, reasoningItem s p.carrier)] else []) =
        ((board env p.context p.carrier s).place .reasoning).toList := by
    have hreasoningDone := hsound.reasoningDone
    rw [hclosing, Bool.true_and] at hreasoningDone
    by_cases hreasoned : s.responsesReasoningAdded = true
    · obtain ⟨index, hindex⟩ := Option.isSome_iff_exists.mp (hsound.reasoning hreasoned).1
      simp [Slots.Board.place, board, responsesReasoningOutputIndex, hreasoned, hreasoningDone,
        hindex]
    · simp [Slots.Board.place, board, hreasoned, hreasoningDone]
  have hpast : s.responsesCompletedMessageItems.map (fun message =>
      (message.outputIndex, message.item)) =
        ((List.range s.responsesCompletedMessageItems.length).map Holder.past).filterMap
          (board env p.context p.carrier s).place := by
    rw [List.filterMap_map, ← filterMap_range_getElem?]
    refine List.filterMap_congr ?_
    intro n _
    cases hn : s.responsesCompletedMessageItems[n]? <;>
      simp [Slots.Board.place, board, hn]
  have hcall : ∀ t entry, s.openaiToolCalls.lookup t = some entry →
      terminalToolCallItem env p.context entry =
        (board env p.context p.carrier s).place (.call t) := by
    intro t entry hlookup
    have hentry := hsound.calls t entry hlookup
    obtain ⟨index, hindex⟩ := Option.isSome_iff_exists.mp hentry.placed
    unfold terminalToolCallItem
    rw [hentry.notMarked, if_neg Bool.false_ne_true, hindex, Option.getD_some]
    cases hid : entry.id with
    | none =>
      -- a call without an id has never been added
      have hopen : entry.responsesDone = false := by
        by_contra hdone
        have hnamed := hentry.added (hentry.done (Bool.not_eq_false _ ▸ hdone))
        rw [hid] at hnamed
        cases hnamed
      simp [Slots.Board.place, board, hlookup, ToolCallState.finalItem, hopen]
    | some id =>
      have hnow : entry.responsesItemAdded = true :=
        (hadded t entry hlookup (by rw [hid]; rfl)).resolve_left List.not_mem_nil
      have hdone : entry.responsesDone = true :=
        (hdone t entry hlookup hnow).resolve_left List.not_mem_nil
      have hnamed := hentry.added hnow
      rw [hid] at hnamed
      cases hnamed
      simp [Slots.Board.place, board, hlookup, ToolCallState.finalItem, hdone, hid, hindex]
  have hcalls : (((hashWalk env s.openaiToolCalls).map Prod.snd).mergeSort
      fun a b => a.index ≤ b.index).filterMap (terminalToolCallItem env p.context) |>.Perm
        (((env.hashOrder s.openaiToolCalls.keys).map Holder.call).filterMap
          (board env p.context p.carrier s).place) := by
    refine ((List.mergeSort_perm _ _).filterMap _).trans (.of_eq ?_)
    unfold hashWalk
    rw [List.map_filterMap, List.filterMap_filterMap, List.filterMap_map]
    refine List.filterMap_congr ?_
    intro t _
    cases hlookup : s.openaiToolCalls.lookup t with
    | none => simp [Slots.Board.place, board, hlookup]
    | some entry =>
      simp [hcall t entry hlookup]
  unfold holders
  rw [hreasoning, hpast, List.append_assoc, List.filterMap_cons, List.filterMap_append]
  cases (board env p.context p.carrier s).place .reasoning with
  | none => exact hcalls.append_left _
  | some item => exact (hcalls.append_left _).cons item

theorem toldToEnd_terminalEvent
    (h : Monitor.Tracks ResponsesOutput.step (Knows env p) m₀ k.out k.state)
    (hseq : (settleReasoningOutputIndex k.state).responsesSeq = k.state.responsesSeq)
    (hagrees : ∀ m, Knows env p m k.state → m.items.opened = [] ∧
      terminalOutput env p.context p.carrier k.state = Slots.inOrder m.items.done)
    (responseId : String) (created : Nat) :
    ToldToEnd m₀ (emitTerminalEvent env responseId created p.context p.carrier k) := by
  refine h.push ?_
  intro m hm
  refine ⟨{ m with seq := k.state.responsesSeq + 1, ended := true }, ?_, rfl, rfl⟩
  simp only [Sink.update_state, hseq]
  obtain ⟨hclosed, houtput⟩ := hagrees m hm
  refine step_terminal hm (isTerminalType_status _) (.inr ⟨hclosed, ?_⟩)
  rw [get_sinkEvent (by decide)]
  show ((some (terminalResponse env responseId created p.context p.carrier k.state)).bind
    (Value.getArray · "output")).getD [] = _
  rw [Option.bind_some, output_terminalResponse, Option.getD_some, houtput]

/-- **The terminal event**, when everything is done. -/
theorem ToldSoFar.terminalEvent (h : ToldSoFar env ids p m₀ k) (hclosing : p.closing = true)
    (hmessage : k.state.outputItemAdded = false) (hadded : AddedBut [] k.state)
    (hdone : DoneBut [] k.state) (responseId : String) (created : Nat) :
    ToldToEnd m₀ (emitTerminalEvent env responseId created p.context p.carrier k) := by
  have hquiet : ∀ holder, (board env p.context p.carrier k.state).opened holder = none := by
    intro holder
    cases holder with
    | reasoning =>
      have hreasoning := h.sound.reasoningDone
      rw [hclosing, Bool.true_and] at hreasoning
      simp [board, hreasoning]
    | message => simp [board, hmessage]
    | past n => rfl
    | call t =>
      show (k.state.openaiToolCalls.lookup t).bind ToolCallState.openItem = none
      cases hlookup : k.state.openaiToolCalls.lookup t with
      | none => rfl
      | some entry =>
        show entry.openItem = none
        unfold ToolCallState.openItem
        refine if_neg ?_
        rintro ⟨hentry, hopen⟩
        rcases hdone t entry hlookup hentry with hmem | hdone
        · cases hmem
        · rw [hopen] at hdone
          cases hdone
  refine toldToEnd_terminalEvent h.tracks ?_ ?_ responseId created
  · unfold settleReasoningOutputIndex responsesReasoningOutputIndex
    split
    · split <;> rfl
    · rfl
  · intro m hm
    constructor
    · refine List.eq_nil_iff_forall_not_mem.mpr ?_
      intro item hmem
      obtain ⟨i, id⟩ := item
      obtain ⟨holder, -, hopen⟩ := (hm.items.opened i id).mp hmem
      rw [hquiet holder] at hopen
      cases hopen
    · obtain ⟨items, houtput, hitems⟩ := terminalOutput_perm h.sound hclosing hadded hdone
      rw [houtput]
      exact (hm.items.inOrder_done (holders_nodup env k.state)
        (fun holder => mem_holders p.context p.carrier k.state) hitems).symm

theorem ToldSoFar.terminal (h : ToldSoFar env ids p m₀ k) (hp : p.context = ⟨none, false⟩)
    (hopen : p.closing = false) (hfilled : p.filling = false) (hadded : AddedBut [] k.state)
    (responseId : String) (created : Nat) :
    ToldToEnd m₀ (emitOpenaiResponsesTerminal env responseId created k) := by
  unfold emitOpenaiResponsesTerminal
  have hcontext := h.contextOf
    ⟨incompleteReason k.state.finishReason, k.state.finishReason.isNone⟩ (by
      intro t entry hlookup hdone
      obtain ⟨hsome, hwhole⟩ := h.sound.settled hopen t entry hlookup hdone
      rw [hp, h.sound.finish, hwhole, ← Option.not_isSome, hsome]
      rfl)
  have hreasoned := hcontext.reasoningDone hopen responseId
    (streamingAnthropicReasoningCarrier k.state)
  have hcalls := (narrates_reasoningDone responseId
    (streamingAnthropicReasoningCarrier k.state) k).kept.calls
  simp only
  generalize emitReasoningDone responseId (streamingAnthropicReasoningCarrier k.state) k = reasoned
    at hreasoned hcalls
  have haddedNow : AddedBut [] reasoned.state := by
    unfold AddedBut
    rw [hcalls]
    exact hadded
  obtain ⟨hdegraded, hpending, haddedDone, hdone⟩ := hreasoned.pendingDone responseId true haddedNow
    (fun hcontra => by cases hcontra)
  generalize emitPendingResponsesToolCallDoneEvents env responseId
    ⟨incompleteReason k.state.finishReason, k.state.finishReason.isNone⟩ true reasoned = pending
    at hdegraded hpending haddedDone hdone
  obtain ⟨degraded, k'⟩ := pending
  cases hdegraded
  have happend : appendDegradedTexts env responseId [] k' = k' := rfl
  simp only [happend]
  obtain ⟨hmessage, hclosed⟩ := hpending.messageDone hfilled responseId
    (responsesTerminalMessagePhase k.state.finishReason)
  have hsame := (narrates_emitMessageDone responseId
    (responsesTerminalMessagePhase k.state.finishReason) k').kept.calls
  refine hmessage.terminalEvent rfl hclosed ?_ ?_ responseId created
  · unfold AddedBut
    rw [hsame]
    exact haddedDone
  · unfold DoneBut
    rw [hsame]
    exact hdone

end LlmUniversalProxy.Streaming
