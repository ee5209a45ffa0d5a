import LlmUniversalProxy.Streaming.ResponsesItems

/-!
# `Streaming.ResponsesCalls` — tool calls, from the sink's side and the client's

A call has a number as soon as there is a delta of it. It is added when it is known what it is, at
the latest at the finish, and from then on its deltas go out as they come (openai_sink.rs
1135-1458 and 1678-1830).

The sink goes by the indices of the calls, and the client by their ids. So each index has to have
an id of its own, as in Chat Completions (`CallDelta`), and the calls have to be told before the
finish. Nothing less will do: a later delta with `"id": null` overwrites the id of its call, whose
arguments then go out for an item `fc_` that was never added, and which is never done; and a call
that is marked as not replayable in the middle is not done as a call, but told as a text.
-/

set_option autoImplicit false

namespace LlmUniversalProxy.Streaming

open Json Lib Translate

variable {env : Env} {ids : Nat → String} {p : Phase} {m₀ : ResponsesOutput} {k : Sink}

/-! ## The map of the calls -/

namespace CallSound

variable {id : String} {entry : ToolCallState}

theorem notMarked (h : CallSound id entry) : entry.markedNonReplayable env = false := by
  unfold ToolCallState.markedNonReplayable
  rw [h.unmarked]
  rfl

theorem identified (h : CallSound id entry) (hid : entry.id.isSome = true) :
    entry.id = some (.string id) := by
  rcases h.named with hnone | hid'
  · rw [hnone] at hid
    cases hid
  · exact hid'

theorem notDone (h : CallSound id entry) (hadded : entry.responsesItemAdded = false) :
    entry.responsesDone = false := by
  by_contra hdone
  have hadded' := h.done (Bool.not_eq_false _ ▸ hdone)
  rw [hadded] at hadded'
  cases hadded'

end CallSound

/-- Another call in the place of one. -/
theorem Sound.putCall {s : StreamState} (h : Sound ids p s) (t : Nat) (entry : ToolCallState)
    (hcall : CallSound (ids t) entry)
    (hdone : p.closing = false → entry.responsesDone = true → EndsWhole p.finish) :
    Sound ids p { s with openaiToolCalls := s.openaiToolCalls.insert t entry } := by
  refine { h with calls := ?_, settled := ?_ }
  · intro t' entry' hlookup
    rw [FinMap.lookup_insert_eq] at hlookup
    by_cases ht : t' = t
    · subst ht
      rw [if_pos rfl] at hlookup
      cases hlookup
      exact hcall
    · rw [if_neg ht] at hlookup
      exact h.calls t' entry' hlookup
  · intro hclosing t' entry' hlookup
    rw [FinMap.lookup_insert_eq] at hlookup
    by_cases ht : t' = t
    · rw [if_pos ht] at hlookup
      cases hlookup
      exact hdone hclosing
    · rw [if_neg ht] at hlookup
      exact h.settled hclosing t' entry' hlookup

theorem board_putCall (env : Env) (context : TerminalContext) (carrier : Option String)
    (s : StreamState) (t : Nat) (entry : ToolCallState) :
    let b := board env context carrier
      { s with openaiToolCalls := s.openaiToolCalls.insert t entry }
    b.index (.call t) = entry.blockIndex ∧ b.opened (.call t) = entry.openItem ∧
      b.done (.call t) = entry.finalItem env context := by
  simp [board]

/-- And of the others. -/
theorem board_putCall_ne (env : Env) (context : TerminalContext) (carrier : Option String)
    (s : StreamState) {t : Nat} (entry : ToolCallState) {holder : Holder} (hne : holder ≠ .call t) :
    let b := board env context carrier s
    let b' := board env context carrier
      { s with openaiToolCalls := s.openaiToolCalls.insert t entry }
    b'.index holder = b.index holder ∧ b'.opened holder = b.opened holder ∧
      b'.done holder = b.done holder := by
  cases holder with
  | reasoning => exact ⟨rfl, rfl, rfl⟩
  | message => exact ⟨rfl, rfl, rfl⟩
  | past n => exact ⟨rfl, rfl, rfl⟩
  | call t' =>
    have ht : t' ≠ t := by
      rintro rfl
      exact hne rfl
    simp [board, FinMap.lookup_insert_eq, ht]

/-- A change of a call that the client does not see. -/
theorem ToldSoFar.putCall (h : ToldSoFar env ids p m₀ k) {t : Nat} {before entry : ToolCallState}
    (hbefore : k.state.openaiToolCalls.lookup t = some before)
    (hsame : entry.blockIndex = before.blockIndex ∧ entry.openItem = before.openItem ∧
      entry.finalItem env p.context = before.finalItem env p.context)
    (hcall : CallSound (ids t) entry) (hdone : entry.responsesDone = before.responsesDone) :
    ToldSoFar env ids p m₀
      ⟨{ k.state with openaiToolCalls := k.state.openaiToolCalls.insert t entry }, k.out⟩ := by
  have hself := board_putCall env p.context p.carrier k.state t entry
  have hothers := fun holder (hne : holder ≠ Holder.call t) =>
    board_putCall_ne env p.context p.carrier k.state entry hne
  refine h.state ⟨rfl, ?_, ?_, ?_⟩ rfl (h.sound.putCall t entry hcall ?_)
  · intro holder
    by_cases hholder : holder = .call t
    · subst hholder
      refine hself.1.trans (hsame.1.trans ?_)
      simp [board, hbefore]
    · exact (hothers holder hholder).1
  · intro holder
    by_cases hholder : holder = .call t
    · subst hholder
      refine hself.2.1.trans (hsame.2.1.trans ?_)
      simp [board, hbefore]
    · exact (hothers holder hholder).2.1
  · intro holder
    by_cases hholder : holder = .call t
    · subst hholder
      refine hself.2.2.trans (hsame.2.2.trans ?_)
      simp [board, hbefore]
    · exact (hothers holder hholder).2.2
  · rw [hdone]
    exact fun hclosing => h.sound.settled hclosing t before hbefore

/-- The call is in the map, and has a number. -/
theorem ToldSoFar.toolIndex (h : ToldSoFar env ids p m₀ k) {t index : Nat} {s : StreamState}
    (hplace : responsesToolOutputIndex k.state t = (index, s)) :
    ToldSoFar env ids p m₀ ⟨s, k.out⟩ ∧
      (∃ entry, s.openaiToolCalls.lookup t = some entry ∧ entry.blockIndex = some index) ∧
      ∀ t', t' ≠ t → s.openaiToolCalls.lookup t' = k.state.openaiToolCalls.lookup t' := by
  unfold responsesToolOutputIndex at hplace
  cases hlookup : k.state.openaiToolCalls.lookup t with
  | some entry =>
    obtain ⟨index', hindex⟩ := Option.isSome_iff_exists.mp (h.sound.calls t entry hlookup).placed
    rw [hlookup, Option.bind_some, hindex] at hplace
    cases hplace
    exact ⟨h, ⟨entry, hlookup, hindex⟩, fun _ _ => rfl⟩
  | none =>
    rw [hlookup, Option.bind_none] at hplace
    cases hplace
    have hnew : (k.state.openaiToolCalls.insert t
        { index := t, blockIndex := some k.state.responsesNextOutputIndex }).lookup t =
        some { index := t, blockIndex := some k.state.responsesNextOutputIndex } := by
      rw [FinMap.lookup_insert_eq, if_pos rfl]
    have hcalls : updateEntry k.state.openaiToolCalls t ({ index := t } : ToolCallState)
        (fun entry => { entry with blockIndex := some k.state.responsesNextOutputIndex }) =
        k.state.openaiToolCalls.insert t
          { index := t, blockIndex := some k.state.responsesNextOutputIndex } := by
      unfold updateEntry
      rw [hlookup]
      rfl
    simp only [hcalls]
    refine ⟨?_, ⟨_, hnew, rfl⟩, ?_⟩
    · have hsound := (h.sound.putCall t
        { index := t, blockIndex := some k.state.responsesNextOutputIndex }
        ⟨rfl, rfl, .inl rfl, fun hcontra => (by cases hcontra), fun hcontra => (by cases hcontra)⟩
        (fun _ hcontra => by cases hcontra))
      refine h.reserve (.call t) ⟨rfl, ?_, ?_, ?_, ?_⟩ ?_ rfl { hsound with }
      · simp [board]
      · intro holder hne
        exact (board_putCall_ne env p.context p.carrier k.state _ hne).1
      · intro holder
        by_cases hholder : holder = .call t
        · subst hholder
          simp [board, hlookup, ToolCallState.openItem]
        · exact (board_putCall_ne env p.context p.carrier k.state _ hholder).2.1
      · intro holder
        by_cases hholder : holder = .call t
        · subst hholder
          simp [board, hlookup, ToolCallState.finalItem]
        · exact (board_putCall_ne env p.context p.carrier k.state _ hholder).2.2
      · simp [board, hlookup]
    · intro t' ht'
      rw [FinMap.lookup_insert_eq, if_neg ht']

/-! ## A call is added -/

theorem resolved_eq {s : StreamState} {finalize : Bool} {entry entry' : ToolCallState}
    (h : resolvedToolCall env s finalize entry = some entry') :
    entry' = { entry with toolType := entry'.toolType, arguments := entry'.arguments } := by
  unfold resolvedToolCall at h
  split at h
  · cases h
    rfl
  · split at h
    · cases h
      rfl
    · cases h
  · cases h
    rfl

theorem resolved_finalize (env : Env) (s : StreamState) (entry : ToolCallState) :
    (resolvedToolCall env s true entry).isSome = true := by
  unfold resolvedToolCall
  split <;> rfl

/-- What a delta of a call says goes to its item. -/
theorem ToldSoFar.callDelta (h : ToldSoFar env ids p m₀ k) {t : Nat}
    {event : ResponsesToolCallEvent}
    (hindex : (board env p.context p.carrier k.state).index (.call t) = some event.outputIndex)
    (hopen : (board env p.context p.carrier k.state).opened (.call t) =
      some (.string s!"fc_{event.callId}")) (delta : String) :
    ToldSoFar env ids p m₀ (emitResponsesToolCallDelta event delta k) := by
  unfold emitResponsesToolCallDelta
  split
  · exact h
  · have htype : responsesToolCallDeltaEventType event.toolType ∈ itemEventTypes := by
      unfold responsesToolCallDeltaEventType
      split <;> decide
    exact h.speak (.call t) _ _ hindex hopen htype ⟨rfl, rfl⟩

theorem callDelta_state (event : ResponsesToolCallEvent) (delta : String) (k : Sink) :
    (emitResponsesToolCallDelta event delta k).state.openaiToolCalls = k.state.openaiToolCalls := by
  unfold emitResponsesToolCallDelta
  split <;> rfl

theorem ToldSoFar.addCall (h : ToldSoFar env ids p m₀ k) {t : Nat} (before entry : ToolCallState)
    (event : ResponsesToolCallEvent)
    (hbefore : k.state.openaiToolCalls.lookup t = some before)
    (hnew : before.responsesItemAdded = false)
    (hentry : entry.blockIndex = before.blockIndex ∧ entry.nonReplayableMarker = none ∧
      entry.id = some (.string (ids t)) ∧ entry.responsesItemAdded = true ∧
      entry.responsesDone = false)
    (hindex : before.blockIndex = some event.outputIndex) (hevent : event.callId = ids t) :
    let k' := emitResponsesToolCallItemAdded event (k.update fun s =>
      { s with openaiToolCalls := s.openaiToolCalls.insert t entry })
    ToldSoFar env ids p m₀ k' ∧
      (board env p.context p.carrier k'.state).index (.call t) = some event.outputIndex ∧
      (board env p.context p.carrier k'.state).opened (.call t) =
        some (.string s!"fc_{event.callId}") := by
  obtain ⟨hplace, hmarker, hid, hadded, hdone⟩ := hentry
  have hquiet := (h.sound.calls t before hbefore).notDone hnew
  have hself := board_putCall env p.context p.carrier k.state t entry
  have hothers := fun holder (hne : holder ≠ Holder.call t) =>
    board_putCall_ne env p.context p.carrier k.state entry hne
  have hopen : entry.openItem = some (.string s!"fc_{event.callId}") := by
    simp [ToolCallState.openItem, hadded, hdone, hid, hevent]
  have hsound := h.sound.putCall t entry
    ⟨by rw [hplace, hindex]; rfl, hmarker, .inr hid, fun _ => hid, fun _ => hadded⟩
    (fun _ hcontra => by rw [hdone] at hcontra; cases hcontra)
  refine ⟨?_, hself.1.trans (hplace.trans hindex), hself.2.1.trans hopen⟩
  refine h.add (.call t) event.outputIndex (.string s!"fc_{event.callId}")
    { k.state with
      openaiToolCalls := k.state.openaiToolCalls.insert t entry
      responsesSeq := k.state.responsesSeq + 1 } _
    (by simp [board, hbefore, hindex]) ⟨?_, ?_⟩ ⟨rfl, ?_, hself.2.1.trans hopen, ?_, ?_⟩ rfl
    { hsound with started := Nat.le_succ_of_le h.sound.started }
    ⟨rfl, rfl, by simp [toolCallItem]⟩
  · simp [board, hbefore, ToolCallState.openItem, hnew]
  · simp [board, hbefore, ToolCallState.finalItem, hquiet]
  · intro holder
    by_cases hholder : holder = .call t
    · subst hholder
      refine hself.1.trans (hplace.trans ?_)
      simp [board, hbefore]
    · exact (hothers holder hholder).1
  · intro holder hholder
    exact (hothers holder hholder).2.1
  · intro holder
    by_cases hholder : holder = .call t
    · subst hholder
      refine hself.2.2.trans ?_
      simp [board, hbefore, ToolCallState.finalItem, hquiet, hdone]
    · exact (hothers holder hholder).2.2

/-- **One call is flushed**: it is added when it has an id and can be read, and at the end when it
has an id. -/
theorem ToldSoFar.flush (h : ToldSoFar env ids p m₀ k) (responseId : String) (finalize : Bool)
    (t : Nat) :
    let k' := flushPendingResponsesToolCall env responseId finalize k t
    ToldSoFar env ids p m₀ k' ∧
      (∀ t', t' ≠ t → k'.state.openaiToolCalls.lookup t' = k.state.openaiToolCalls.lookup t') ∧
      (finalize = true → ∀ entry, k'.state.openaiToolCalls.lookup t = some entry →
        entry.id.isSome = true → entry.responsesItemAdded = true) := by
  unfold flushPendingResponsesToolCall
  generalize hplace : responsesToolOutputIndex k.state t = place
  obtain ⟨index, placed⟩ := place
  obtain ⟨hplaced, ⟨entry, hlookup, hindex⟩, hothers⟩ := h.toolIndex hplace
  have hcall := hplaced.sound.calls t entry hlookup
  simp only [hlookup]
  -- nothing is added, and an entry with an id has been added before: it is not marked
  by_cases hskip : entry.responsesItemAdded = true ∨ entry.id.isNone = true ∨
      entry.markedNonReplayable env = true
  · rw [if_pos hskip]
    refine ⟨hplaced, hothers, ?_⟩
    intro _ entry' hlookup' hid
    rw [hlookup] at hlookup'
    cases hlookup'
    rcases hskip with hadded | hnone | hmarked
    · exact hadded
    · rw [Option.isNone_iff_eq_none.mp hnone] at hid
      cases hid
    · rw [hcall.notMarked] at hmarked
      cases hmarked
  · rw [if_neg hskip]
    have hadded : entry.responsesItemAdded = false := by
      by_contra hadded
      exact hskip (.inl (Bool.not_eq_false _ ▸ hadded))
    have hid : entry.id = some (.string (ids t)) := by
      refine hcall.identified ?_
      by_contra hnone
      exact hskip (.inr (.inl (by simpa using hnone)))
    have hdone := hcall.notDone hadded
    cases hresolved : resolvedToolCall env placed finalize entry with
    -- at the end every call with an id can be resolved
    | none =>
      refine ⟨hplaced, hothers, ?_⟩
      intro hfinalize
      subst hfinalize
      have hsome := resolved_finalize env placed entry
      rw [hresolved] at hsome
      cases hsome
    | some resolved =>
      obtain ⟨toolType, arguments, rfl⟩ : ∃ toolType arguments,
          resolved = { entry with toolType := toolType, arguments := arguments } :=
        ⟨_, _, resolved_eq hresolved⟩
      have hcallId : (entry.id.bind Value.asStr).getD "" = ids t := by
        rw [hid]
        rfl
      simp only [hcallId]
      obtain ⟨hadd, hplace, hopen⟩ := hplaced.addCall entry
        { entry with
          toolType := toolType
          arguments := arguments
          responsesItemAdded := true
          responsesItemId := some s!"fc_{ids t}" }
        ⟨responseId, index, ids t, entry.name, toolType.getD "function", entry.proxiedToolKind,
          entry.namespaceName⟩
        hlookup hadded ⟨rfl, hcall.unmarked, hid, rfl, hdone⟩ hindex rfl
      refine ⟨hadd.callDelta hplace hopen _, ?_, ?_⟩
      · intro t' ht'
        rw [callDelta_state]
        refine (FinMap.lookup_insert_eq _ _ _ _).trans ?_
        rw [if_neg ht']
        exact hothers t' ht'
      · intro _ entry' hlookup' _
        rw [callDelta_state] at hlookup'
        have hnew := (FinMap.lookup_insert_eq _ _ _ _).symm.trans hlookup'
        rw [if_pos rfl] at hnew
        cases hnew
        rfl

/-- The calls with an id have been added, but for those under the keys. -/
def AddedBut (keys : List Nat) (s : StreamState) : Prop :=
  ∀ t entry, s.openaiToolCalls.lookup t = some entry → entry.id.isSome = true →
    t ∈ keys ∨ entry.responsesItemAdded = true

theorem ToldSoFar.flushAll (h : ToldSoFar env ids p m₀ k) (responseId : String) :
    ToldSoFar env ids p m₀ (flushPendingResponsesToolCalls env responseId true k) ∧
      AddedBut [] (flushPendingResponsesToolCalls env responseId true k).state := by
  have hrest : ∀ (keys : List Nat) (k : Sink), ToldSoFar env ids p m₀ k → AddedBut keys k.state →
      ToldSoFar env ids p m₀ (keys.foldl (flushPendingResponsesToolCall env responseId true) k) ∧
        AddedBut [] (keys.foldl (flushPendingResponsesToolCall env responseId true) k).state := by
    intro keys
    induction keys with
    | nil => exact fun k h hadded => ⟨h, hadded⟩
    | cons key keys ih =>
      intro k h hadded
      obtain ⟨hflush, hothers, hself⟩ := h.flush responseId true key
      refine ih _ hflush ?_
      intro t entry hlookup hid
      by_cases ht : t = key
      · subst ht
        exact .inr (hself rfl entry hlookup hid)
      · rw [hothers t ht] at hlookup
        rcases hadded t entry hlookup hid with hmem | hadded
        · exact .inl ((List.mem_cons.mp hmem).resolve_left ht)
        · exact .inr hadded
  refine hrest _ k h ?_
  intro t entry hlookup _
  refine .inl ((List.mergeSort_perm _ _).mem_iff.mpr ?_)
  rw [← AList.mem_keys, ← AList.lookup_isSome, hlookup]
  rfl

/-! ## A delta of a call -/

/-- A delta of a call that leaves its call what it is: it has no `id` at all or the id of its index
(the sink takes over whatever is under the key, `null` included), and it does not carry
`_llmup_non_replayable_tool_call`, by which the proxy marks the calls it has cut off. -/
structure CallDelta (ids : Nat → String) (tc : Value) : Prop where
  id : tc.get "id" = none ∨ tc.get "id" = some (.string (ids (responsesToolCallIndex tc)))
  unmarked : tc.get internalNonReplayableToolCallField = none

theorem mergeToolCallName_eq (s : StreamState) (name : Option String) (entry : ToolCallState) :
    ∃ ns name', mergeToolCallName s name entry =
      { entry with namespaceName := ns, name := name' } := by
  unfold mergeToolCallName
  split
  · exact ⟨_, _, rfl⟩
  · split
    · exact ⟨_, _, rfl⟩
    · split <;> exact ⟨_, _, rfl⟩

/-- A delta leaves the item of its call as it is. -/
theorem mergeToolCall_spec {tc : Value} (htc : CallDelta ids tc) (s : StreamState)
    {entry : ToolCallState} (h : CallSound (ids (responsesToolCallIndex tc)) entry) :
    CallSound (ids (responsesToolCallIndex tc)) (mergeToolCall s tc entry) ∧
      (mergeToolCall s tc entry).blockIndex = entry.blockIndex ∧
      (mergeToolCall s tc entry).responsesItemAdded = entry.responsesItemAdded ∧
      (mergeToolCall s tc entry).responsesDone = entry.responsesDone ∧
      (mergeToolCall s tc entry).openItem = entry.openItem := by
  have hid : (mergeToolCall s tc entry).id = (tc.get "id").or entry.id ∧
      (mergeToolCall s tc entry).nonReplayableMarker = none ∧
      (mergeToolCall s tc entry).blockIndex = entry.blockIndex ∧
      (mergeToolCall s tc entry).responsesItemAdded = entry.responsesItemAdded ∧
      (mergeToolCall s tc entry).responsesDone = entry.responsesDone := by
    unfold mergeToolCall
    obtain ⟨ns, name, hname⟩ := mergeToolCallName_eq s (toolCallFunctionField tc "name")
      { entry with
        id := (tc.get "id").or entry.id
        nonReplayableMarker :=
          (tc.get internalNonReplayableToolCallField).or entry.nonReplayableMarker
        toolType := if entry.toolType.isNone || (tc.get "type").isSome then
          some (openaiStreamToolCallType tc) else entry.toolType
        proxiedToolKind := (tc.getStr "proxied_tool_kind").or entry.proxiedToolKind }
    simp only [hname]
    simp only [htc.unmarked, h.unmarked, Option.or_none, and_self]
  obtain ⟨hid, hmarker, hplace, hadded, hdone⟩ := hid
  have hnamed : entry.id = some (.string (ids (responsesToolCallIndex tc))) →
      (mergeToolCall s tc entry).id = some (.string (ids (responsesToolCallIndex tc))) := by
    intro hentry
    rw [hid, hentry]
    rcases htc.id with htc | htc <;> rw [htc] <;> rfl
  refine ⟨⟨hplace ▸ h.placed, hmarker, ?_, ?_, ?_⟩, hplace, hadded, hdone, ?_⟩
  · rcases h.named with hnone | hentry
    · rw [hid, hnone, Option.or_none]
      exact htc.id
    · exact .inr (hnamed hentry)
  · rw [hadded]
    exact fun hadded => hnamed (h.added hadded)
  · rw [hadded, hdone]
    exact h.done
  · unfold ToolCallState.openItem
    rw [hadded, hdone]
    by_cases hopen : entry.responsesItemAdded = true ∧ entry.responsesDone = false
    · rw [if_pos hopen, if_pos hopen, hnamed (h.added hopen.1), h.added hopen.1]
    · rw [if_neg hopen, if_neg hopen]

/-- **A delta of a call**, before the finish. -/
theorem ToldSoFar.toolCall (h : ToldSoFar env ids p m₀ k)
    (hearly : p.closing = false ∧ p.finish = none)
    (responseId : String) {tc : Value} (htc : CallDelta ids tc) :
    ToldSoFar env ids p m₀ (toolCallResponses env responseId tc k) := by
  obtain ⟨⟨index, placed⟩, hplace⟩ : ∃ place,
      responsesToolOutputIndex k.state (responsesToolCallIndex tc) = place := ⟨_, rfl⟩
  obtain ⟨hplaced, ⟨before, hlookup, hindex⟩, -⟩ := h.toolIndex hplace
  have hsound := hplaced.sound.calls _ before hlookup
  obtain ⟨hcall, hsameIndex, hsameAdded, hsameDone, hsameOpen⟩ :=
    mergeToolCall_spec htc placed hsound
  have hnotDone : before.responsesDone = false := by
    by_contra hdone
    have hfinish := hplaced.sound.settled hearly.1 _ before hlookup (Bool.not_eq_false _ ▸ hdone)
    rw [hearly.2] at hfinish
    cases hfinish.1
  obtain ⟨entry, hentry⟩ : ∃ entry, mergeToolCall placed tc before = entry := ⟨_, rfl⟩
  rw [hentry] at hcall hsameIndex hsameAdded hsameDone hsameOpen
  unfold toolCallResponses
  simp only [hplace, hlookup, Option.getD_some, hentry, hcall.notMarked, Bool.false_eq_true,
    if_false]
  have hput := hplaced.putCall hlookup
    ⟨hsameIndex, hsameOpen, by simp [ToolCallState.finalItem, hsameDone, hnotDone]⟩ hcall hsameDone
  by_cases hadded : before.responsesItemAdded = true
  · rw [if_pos hadded, if_neg (by simp [hadded])]
    have hid : entry.id = some (.string (ids (responsesToolCallIndex tc))) :=
      hcall.added (hsameAdded.trans hadded)
    refine hput.callDelta (t := responsesToolCallIndex tc) ?_ ?_ _
    · simp [board, hsameIndex, hindex]
    · simp [board, ToolCallState.openItem, hsameAdded, hadded, hsameDone, hnotDone, hid]
  · rw [if_neg hadded]
    split
    · exact (hput.flush responseId false _).1
    · exact hput

/-- The ids keep the calls apart, so no call is taken for another one. -/
theorem dedupe_sound (hids : Function.Injective ids) {s : StreamState} (hs : Sound ids p s)
    {tc : Value} (htc : CallDelta ids tc) :
    dedupeToolCallStateByCallId env s.openaiToolCalls (responsesToolCallIndex tc) (tc.get "id") =
      s.openaiToolCalls := by
  have hnone : (tc.get "id").bind
      (existingToolCallKey env s.openaiToolCalls (responsesToolCallIndex tc)) = none := by
    rcases htc.id with hid | hid
    · rw [hid, Option.bind_none]
    · rw [hid, Option.bind_some]
      unfold existingToolCallKey
      rw [Option.map_eq_none_iff, List.find?_eq_none]
      intro e he hfound
      obtain ⟨hne, hentry⟩ := of_decide_eq_true hfound
      rcases (hs.calls e.1 e.2 (mem_hashWalk.mp he)).named with hnone | hnamed
      · rw [hnone] at hentry
        cases hentry
      · rw [hnamed] at hentry
        exact hne (hids (Value.string.inj (Option.some.inj hentry)))
  unfold dedupeToolCallStateByCallId
  rw [hnone]

/-- Either the stream goes on, or a reserved name has ended it. -/
def ToldOrEnded (env : Env) (ids : Nat → String) (p : Phase) (m₀ : ResponsesOutput) :
    Except Sink Sink → Prop
  | .ok k => ToldSoFar env ids p m₀ k
  | .error k => ToldToEnd m₀ k

/-- A rejection is the end, and repeats nothing. -/
theorem ToldSoFar.reject (h : ToldSoFar env ids p m₀ k) (responseId : String) (created : Nat)
    (code message : String) :
    ToldToEnd m₀ (rejectOpenaiResponsesStream responseId created code message k) := by
  refine h.tracks.push ?_
  intro m hm
  refine ⟨{ m with seq := k.state.responsesSeq + 1, ended := true }, ?_, rfl, rfl⟩
  refine step_terminal hm (by decide) (.inl ⟨rfl, ?_⟩)
  rw [get_sinkEvent (by decide)]
  simp [Value.getArray, List.lookup_cons]

theorem ToldSoFar.toolCalls (hids : Function.Injective ids) (c : ResponsesChunk)
    (hopen : p.closing = false) :
    ∀ {tcs : List Value} {k : Sink}, (∀ tc ∈ tcs, p.finish = none ∧ CallDelta ids tc) →
      ToldSoFar env ids p m₀ k → ToldOrEnded env ids p m₀ (toolCallsResponses env c tcs k) := by
  intro tcs
  induction tcs with
  | nil => exact fun _ h => h
  | cons tc tcs ih =>
    intro k htcs h
    obtain ⟨hearly, htc⟩ := htcs tc List.mem_cons_self
    unfold toolCallsResponses
    have hdedupe : (k.update fun s => { s with
        openaiToolCalls := dedupeToolCallStateByCallId env s.openaiToolCalls
          (responsesToolCallIndex tc) (tc.get "id") }) = k := by
      simp only [Sink.update, dedupe_sound hids h.sound htc]
    simp only [hdedupe]
    split
    · next message _ =>
      generalize hplace : responsesToolOutputIndex k.state (responsesToolCallIndex tc) = place
      obtain ⟨index, placed⟩ := place
      obtain ⟨hplaced, -, -⟩ := h.toolIndex hplace
      have hreserved := hplaced.reject c.responseId c.created
        "reserved_openai_custom_bridge_prefix" message
      show ToldToEnd m₀ (rejectOpenaiResponsesStream _ _ _ _ ⟨(responsesToolOutputIndex _ _).2, _⟩)
      rw [hplace]
      exact hreserved
    · exact ih (fun tc' htc' => htcs tc' (List.mem_cons_of_mem _ htc'))
        (h.toolCall ⟨hopen, hearly⟩ c.responseId htc)

/-- The calls of a chunk close the message before them. -/
theorem ToldSoFar.toolCallsDelta (h : ToldSoFar env ids p m₀ k) (hids : Function.Injective ids)
    (hopen : p.closing = false) (hfilled : p.filling = false) {c : ResponsesChunk}
    (htcs : ∀ tc ∈ (c.delta.getArray "tool_calls").getD [],
      p.finish = none ∧ CallDelta ids tc) :
    ToldOrEnded env ids p m₀ (toolCallsDelta env c k) := by
  unfold Streaming.toolCallsDelta
  cases hcalls : c.delta.getArray "tool_calls" with
  | none => exact h
  | some tcs =>
    rw [hcalls, Option.getD_some] at htcs
    exact ToldSoFar.toolCalls hids c hopen htcs
      (h.messageDone hfilled c.responseId (some "commentary")).1

end LlmUniversalProxy.Streaming
