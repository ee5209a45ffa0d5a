import LlmUniversalProxy.Streaming.ResponsesRendering

/-!
# `Streaming.ResponsesStreamed` — what a Chat client is told of a streamed response

`responses_event_to_openai_chunks` (`responses_source.rs` 94-403), event by event, then item by
item, then for a whole response (`fold_response`). The invariant is `Reached`: the state is between
two items, and the client has been told the texts and the summaries of the items so far, and their
calls under the names that the events give. While the arguments of a call come in, it is `Receives`.

A call with a name of the proxy's own ends the stream at once, so each lemma about items has two
outcomes: the client has been told of the items, or the stream is rejected.
-/

set_option autoImplicit false

namespace LlmUniversalProxy.Streaming

open Json Lib Translate

/-! ## The stream, event by event -/

/-- A call that came before the item at `index`, under an id that is used. -/
def Earlier (index : Nat) (used : List String) (call : ToolCallState) : Prop :=
  (∃ i, call.blockIndex = some i ∧ i < index) ∧
    ∃ itemId, call.responsesItemId = some itemId ∧ itemId ∈ used

/-- A stream between two items, after `n` calls. -/
structure Tracks (s : StreamState) (index : Nat) (used : List String) (n : Nat) : Prop where
  accepted : s.fatalRejection = none
  running : s.finishReasonSent = false
  counted : s.openaiToolCallIndex = n
  earlier : ∀ k call, s.openaiToolCalls.lookup k = some call → k < n ∧ Earlier index used call

/-- A stream while the arguments of the call under `n` come in. -/
structure CallOpened (s : StreamState) (index : Nat) (used : List String) (itemId : String)
    (n : Nat) : Prop where
  accepted : s.fatalRejection = none
  running : s.finishReasonSent = false
  counted : s.openaiToolCallIndex = n + 1
  current : ∃ call, s.openaiToolCalls.lookup n = some call ∧ call.blockIndex = some index ∧
    call.responsesItemId = some itemId
  earlier : ∀ k call, k ≠ n → s.openaiToolCalls.lookup k = some call →
    k < n ∧ Earlier index used call

theorem Earlier.mono {index : Nat} {used : List String} {call : ToolCallState}
    (h : Earlier index used call) {used' : List String} (hused : ∀ id ∈ used, id ∈ used') :
    Earlier (index + 1) used' call := by
  obtain ⟨⟨i, hi, hlt⟩, itemId, hid, hmem⟩ := h
  exact ⟨⟨i, hi, by omega⟩, itemId, hid, hused itemId hmem⟩

theorem Tracks.next {s : StreamState} {index : Nat} {used : List String} {n : Nat}
    (h : Tracks s index used n) : Tracks s (index + 1) used n := by
  refine ⟨h.accepted, h.running, h.counted, ?_⟩
  intro k call hcall
  obtain ⟨hk, hearlier⟩ := h.earlier k call hcall
  exact ⟨hk, hearlier.mono fun id hid => hid⟩

/-- With its arguments complete, a call is one of the earlier ones. -/
theorem CallOpened.close {s : StreamState} {index : Nat} {used : List String} {itemId : String}
    {n : Nat} (h : CallOpened s index used itemId n) :
    Tracks s (index + 1) (itemId :: used) (n + 1) := by
  refine ⟨h.accepted, h.running, h.counted, ?_⟩
  intro k call hcall
  by_cases hk : k = n
  · subst hk
    obtain ⟨current, hcurrent, hindex, hid⟩ := h.current
    rw [hcall] at hcurrent
    obtain rfl := Option.some.inj hcurrent
    exact ⟨by omega, ⟨index, hindex, by omega⟩, itemId, hid, List.mem_cons_self⟩
  · obtain ⟨hlt, hearlier⟩ := h.earlier k call hk hcall
    exact ⟨by omega, hearlier.mono fun id hid => List.mem_cons_of_mem _ hid⟩

theorem CallOpened.finds (env : Env) {s : StreamState} {index : Nat} {used : List String}
    {itemId : String} {n : Nat} (h : CallOpened s index used itemId n) (hfresh : itemId ∉ used)
    {event : Value} (hevent : event.getStr "item_id" = some itemId) :
    responsesEventToolCallIndex env event s = some n := by
  obtain ⟨call, hcall, _, hid⟩ := h.current
  unfold responsesEventToolCallIndex
  rw [hevent, Option.bind_some]
  have hfound := find_hashWalk env
    (p := fun entry : ToolCallState => entry.responsesItemId = some itemId) hcall
    (decide_eq_true hid) fun k other hother hsame => by
      by_contra hk
      -- Any other call has an id that was used before.
      obtain ⟨_, _, id, hid', hmem⟩ := h.earlier k other hk hother
      rw [of_decide_eq_true hsame] at hid'
      obtain rfl := Option.some.inj hid'
      exact hfresh hmem
  rw [hfound]
  rfl

/-- What has been reached from `f`: a stream between two items, and a client that has been told
these texts and has these calls. -/
structure Reached (f : Folded) (index : Nat) (used : List String) (n : Nat)
    (content reasoning : String) (calls : List FoldedCall) (p : StreamState × Folded) : Prop where
  tracks : Tracks p.1 index used n
  told : Says f p.2 content reasoning calls

section

variable (env : Env) {p : StreamState × Folded} {f : Folded} {index n : Nat} {used : List String}
  {content reasoning : String} {calls : List FoldedCall} {event : Value}

theorem foldEvent_eq (step : SourceStep) (p : StreamState × Folded) (event : Value) :
    foldEvent step p event = ((step event p.1).state, (step event p.1).folds p.2) := rfl

/-- A quiet event may refuse; nothing else of what is compared changes. -/
theorem fold_quiet (h : IsQuiet event) (p : StreamState × Folded) :
    ∃ seen g, foldEvent (responsesEventToOpenaiChunks env) p event =
        ({ p.1 with openaiSeenRefusal := seen }, g) ∧ Says p.2 g "" "" p.2.toolCalls := by
  obtain ⟨haudio, hspoken⟩ := h
  have hrefusal : ∀ rawRefusal, ∃ seen g, ((refusalEvent env rawRefusal p.1).state,
      (refusalEvent env rawRefusal p.1).folds p.2) =
        ({ p.1 with openaiSeenRefusal := seen }, g) ∧ Says p.2 g "" "" p.2.toolCalls := by
    intro rawRefusal
    unfold refusalEvent pushText
    simp only
    split
    · exact ⟨_, _, rfl, Says.refl p.2⟩
    · refine ⟨_, _, rfl, ?_⟩
      rw [folds_push]
      refine ⟨?_, ?_, ?_, rfl⟩ <;>
        simp [Folded.feedDelta, Value.getStr, Value.getArray, List.lookup_cons]
  rw [foldEvent_eq]
  unfold responsesEventToOpenaiChunks
  simp only [haudio, Bool.false_eq_true, if_false]
  generalize (event.getStr "type").getD "" = eventType at hspoken
  split
  case h_3 => exact hrefusal _
  case h_4 => exact hrefusal _
  case h_13 => exact ⟨p.1.openaiSeenRefusal, p.2, rfl, Says.refl p.2⟩
  all_goals exact absurd (by simp [spokenEventTypes]) hspoken

theorem Reached.quiet (h : Reached f index used n content reasoning calls p)
    (hevent : IsQuiet event) :
    Reached f index used n content reasoning calls
      (foldEvent (responsesEventToOpenaiChunks env) p event) := by
  obtain ⟨seen, g, hfold, hsays⟩ := fold_quiet env hevent p
  rw [hfold]
  refine ⟨⟨h.tracks.accepted, h.tracks.running, h.tracks.counted, h.tracks.earlier⟩, ?_⟩
  have hsaid := h.told.trans hsays
  rw [String.append_empty, String.append_empty, h.told.calls] at hsaid
  exact hsaid

/-- A piece of a text goes out under the field of its kind. -/
theorem folds_pushText (s : StreamState) (field piece : String) (f : Folded) :
    (pushText env field (some piece) s).state = s ∧
      (pushText env field (some piece) s).folds f =
        if piece = "" then f else f.feedDelta (.ofFields [(field, .string piece)]) none := by
  unfold pushText
  by_cases hempty : piece = ""
  · have hnone : (some piece).filter (fun text => !text.isEmpty) = none := by simp [hempty]
    rw [hnone, if_pos hempty]
    exact ⟨rfl, rfl⟩
  · have hsome : (some piece).filter (fun text => !text.isEmpty) = some piece := by simp [hempty]
    rw [hsome, if_neg hempty]
    exact ⟨rfl, by simp⟩

theorem Reached.textDelta (h : Reached f index used n content reasoning calls p) {piece : String}
    (hevent : IsDelta "response.output_text.delta" event piece) :
    Reached f index used n (content ++ piece) reasoning calls
      (foldEvent (responsesEventToOpenaiChunks env) p event) := by
  have hstep : responsesEventToOpenaiChunks env event p.1 =
      pushText env "content" (some piece) p.1 := by
    simp [responsesEventToOpenaiChunks, hevent.1, hevent.2, Text.startsWith]
  obtain ⟨hstate, hfolds⟩ := folds_pushText env p.1 "content" piece p.2
  rw [foldEvent_eq, hstep, hstate, hfolds]
  refine ⟨h.tracks, ?_⟩
  split
  · next hempty =>
    rw [hempty, String.append_empty]
    exact h.told
  · rw [feedDelta_content]
    refine ⟨?_, h.told.reasoning, h.told.calls, h.told.finish⟩
    rw [h.told.content, String.append_assoc]

theorem Reached.summaryDelta (h : Reached f index used n content reasoning calls p) {piece : String}
    (hevent : IsDelta "response.reasoning_summary_text.delta" event piece) :
    Reached f index used n content (reasoning ++ piece) calls
      (foldEvent (responsesEventToOpenaiChunks env) p event) := by
  have hstep : responsesEventToOpenaiChunks env event p.1 =
      pushText env "reasoning_content" (some piece) p.1 := by
    simp [responsesEventToOpenaiChunks, hevent.1, hevent.2, Text.startsWith]
  obtain ⟨hstate, hfolds⟩ := folds_pushText env p.1 "reasoning_content" piece p.2
  rw [foldEvent_eq, hstep, hstate, hfolds]
  refine ⟨h.tracks, ?_⟩
  split
  · next hempty =>
    rw [hempty, String.append_empty]
    exact h.told
  · rw [feedDelta_reasoning]
    refine ⟨h.told.content, ?_, h.told.calls, h.told.finish⟩
    rw [h.told.reasoning, String.append_assoc]

/-- An item that is not a call is announced in silence. -/
theorem Reached.added (h : Reached f index used n content reasoning calls p) {started : Value}
    (hevent : IsAdded index event started) (hcall : started.getStr "type" ≠ some "function_call")
    (hcustom : started.getStr "type" ≠ some "custom_tool_call") :
    Reached f (index + 1) used n content reasoning calls
      (foldEvent (responsesEventToOpenaiChunks env) p event) := by
  have hstep : responsesEventToOpenaiChunks env event p.1 = ⟨p.1, []⟩ := by
    have hadded : responsesEventToOpenaiChunks env event p.1 =
        outputItemAddedEvent env event p.1 := by
      simp [responsesEventToOpenaiChunks, hevent.type, Text.startsWith]
    rw [hadded]
    unfold outputItemAddedEvent
    rw [hevent.item, Option.getD_some]
    simp only
  rw [foldEvent_eq, hstep]
  exact ⟨h.tracks.next, h.told⟩

/-! ### Calls -/

theorem folds_pushToolCall (k : Source) (toolCall : Value) {idx : Nat}
    (hindex : toolCall.getU64 "index" = some idx) (f : Folded) :
    (k.pushToolCall env toolCall).folds f =
      { k.folds f with
        toolCalls := appendCall (FoldedCall.ofDelta idx toolCall) (k.folds f).toolCalls } := by
  unfold Source.pushToolCall
  rw [folds_push]
  simp [Folded.feedDelta, Value.getStr, Value.getArray, List.lookup_cons, Value.asArray,
    feedToolCall, hindex]

theorem getU64_set (v x : Value) {k l : String} (h : l ≠ k) :
    (v.set k x).getU64 l = v.getU64 l := by
  unfold Value.getU64
  rw [Value.get_set_of_ne v x h]

/-- A call with a name of the proxy's own ends the stream. -/
theorem fold_reserved (p : StreamState × Folded) {started : Value} {name : String}
    (hevent : IsAdded index event started)
    (htype : started.getStr "type" = some "function_call")
    (hname : started.getStr "name" = some name)
    (hreserved : openaiResponsesCustomToolBridgePrefixIsReserved name = true) :
    Refused (foldEvent (responsesEventToOpenaiChunks env) p event).1
      (foldEvent (responsesEventToOpenaiChunks env) p event).2 := by
  have hstep : responsesEventToOpenaiChunks env event p.1 =
      toolCallAdded env event started false p.1 := by
    simp [responsesEventToOpenaiChunks, hevent.type, Text.startsWith, outputItemAddedEvent,
      hevent.item, htype]
  rw [foldEvent_eq, hstep]
  unfold toolCallAdded
  rw [hname, Option.getD_some, validatePublicToolNameNotReserved, if_pos hreserved]
  exact refused_reject env _ _ _ p.2

/-- A call that is announced, in the state and for the client. -/
theorem toolCallAdded_eq (isCustom : Bool) {s : StreamState} {started : Value} {callId : String}
    {added : ToolCallState} (hcallId : started.getStr "call_id" = some callId)
    (hpublic : openaiResponsesCustomToolBridgePrefixIsReserved
      ((started.getStr "name").getD "") = false)
    (hadded : addedToolCall event started isCustom s.openaiToolCallIndex = added) :
    (toolCallAdded env event started isCustom s).state = { s with
        openaiToolCallIndex := s.openaiToolCallIndex + 1
        openaiToolCalls := s.openaiToolCalls.insert s.openaiToolCallIndex added } ∧
      ∀ f, (toolCallAdded env event started isCustom s).folds f =
        { f with
          toolCalls := appendCall
            ⟨s.openaiToolCallIndex, some callId, some added.name, added.arguments⟩
            f.toolCalls } := by
  have hchecked : validatePublicToolNameNotReserved ((started.getStr "name").getD "") =
      .ok () := by
    rw [validatePublicToolNameNotReserved, hpublic]
    rfl
  have hid : added.id = some (.string callId) := by
    rw [← hadded, addedToolCall, hcallId]
    rfl
  unfold toolCallAdded
  rw [hchecked]
  simp only [hadded, hid]
  refine ⟨rfl, ?_⟩
  intro f
  generalize htc : Value.ofFields [("index", .nat s.openaiToolCallIndex),
    ("id", .ofOption (some (.string callId))), ("type", .string "function"),
    ("function", .ofFields [("name", .string added.name),
      ("arguments", .string added.arguments)])] = tc
  have hindex : tc.getU64 "index" = some s.openaiToolCallIndex := by
    rw [← htc, Value.getU64, Value.get_ofFields]
    rfl
  have hdelta : FoldedCall.ofDelta s.openaiToolCallIndex tc =
      ⟨s.openaiToolCallIndex, some callId, some added.name, added.arguments⟩ := by
    rw [← htc]
    simp [FoldedCall.ofDelta, Value.getStr, List.lookup_cons]
    rfl
  split
  · rw [folds_pushToolCall env _ _ (by rw [getU64_set _ _ (by decide), hindex]),
      ofDelta_set _ tc _ (by decide) (by decide), hdelta]
    rfl
  · rw [folds_pushToolCall env _ _ hindex, hdelta]
    rfl

/-- A call that is announced is a new one, and open. -/
theorem Reached.callAdded (h : Reached f index used n content reasoning calls p)
    (hbelow : ∀ call ∈ calls, call.index < n) {started : Value} {itemId callId name : String}
    (hevent : IsAdded index event started) (htype : started.getStr "type" = some "function_call")
    (hid : started.getStr "id" = some itemId) (hcallId : started.getStr "call_id" = some callId)
    (hname : started.getStr "name" = some name)
    (hpublic : openaiResponsesCustomToolBridgePrefixIsReserved name = false) :
    CallOpened (foldEvent (responsesEventToOpenaiChunks env) p event).1 index used itemId n ∧
      Says f (foldEvent (responsesEventToOpenaiChunks env) p event).2 content reasoning
        (calls ++ [⟨n, some callId, some name, (started.getStr "arguments").getD ""⟩]) := by
  have hstep : responsesEventToOpenaiChunks env event p.1 =
      toolCallAdded env event started false p.1 := by
    simp [responsesEventToOpenaiChunks, hevent.type, Text.startsWith, outputItemAddedEvent,
      hevent.item, htype]
  obtain ⟨hstate, hfolds⟩ := toolCallAdded_eq env false hcallId (by rw [hname]; exact hpublic)
    (rfl : addedToolCall event started false p.1.openaiToolCallIndex = _)
  rw [foldEvent_eq, hstep]
  constructor
  · show CallOpened (toolCallAdded env event started false p.1).state index used itemId n
    rw [hstate]
    refine ⟨h.tracks.accepted, h.tracks.running, ?_, ?_, ?_⟩
    · show p.1.openaiToolCallIndex + 1 = n + 1
      rw [h.tracks.counted]
    · refine ⟨addedToolCall event started false n, ?_, hevent.index, hid⟩
      show (p.1.openaiToolCalls.insert p.1.openaiToolCallIndex _).lookup n = _
      rw [h.tracks.counted]
      exact AList.lookup_insert _
    · intro k call hk hcall
      refine h.tracks.earlier k call ?_
      have hlookup : (p.1.openaiToolCalls.insert p.1.openaiToolCallIndex
          (addedToolCall event started false p.1.openaiToolCallIndex)).lookup k = some call := hcall
      rwa [h.tracks.counted, AList.lookup_insert_ne hk] at hlookup
  · -- The chunk is the announced call, under the next index.
    show Says f ((toolCallAdded env event started false p.1).folds p.2) content reasoning _
    rw [hfolds, h.tracks.counted]
    refine ⟨h.told.content, h.told.reasoning, ?_, h.told.finish⟩
    show appendCall _ p.2.toolCalls = _
    rw [h.told.calls, appendCall_new fun call hcall => Nat.ne_of_lt (hbelow call hcall)]
    unfold addedToolCall
    rw [hname]
    rfl

/-- A stream while a call comes in, and a client that has this much of it. -/
structure Receives (f : Folded) (index : Nat) (used : List String) (itemId : String) (n : Nat)
    (content reasoning : String) (calls : List FoldedCall) (call : FoldedCall)
    (p : StreamState × Folded) : Prop where
  opened : CallOpened p.1 index used itemId n
  told : Says f p.2 content reasoning (calls ++ [call])

theorem Receives.quiet {itemId : String} {call : FoldedCall}
    (h : Receives f index used itemId n content reasoning calls call p)
    (hevent : IsQuiet event) :
    Receives f index used itemId n content reasoning calls call
      (foldEvent (responsesEventToOpenaiChunks env) p event) := by
  obtain ⟨seen, g, hfold, hsays⟩ := fold_quiet env hevent p
  rw [hfold]
  refine ⟨⟨h.opened.accepted, h.opened.running, h.opened.counted, h.opened.current,
    h.opened.earlier⟩, ?_⟩
  have hsaid := h.told.trans hsays
  rw [String.append_empty, String.append_empty, h.told.calls] at hsaid
  exact hsaid

/-- A piece of the payload of the call under `idx`, in the state and for the client. -/
theorem toolCallDelta_eq (isCustom : Bool) {s : StreamState} {idx : Nat} {call : ToolCallState}
    {piece emitted : String} (hdelta : event.getStr "delta" = some piece) (hpiece : piece ≠ "")
    (hemitted : (if isCustom then openaiCustomBridgeInputDeltaStream piece else piece) = emitted)
    (hidx : eventToolCallIndex env event s = idx)
    (hcall : s.openaiToolCalls.lookup idx = some call) :
    (toolCallDeltaEvent env event isCustom s).state =
        { s with openaiToolCalls :=
          s.openaiToolCalls.insert idx (addToolCallDelta event isCustom piece emitted call) } ∧
      ∀ f, (toolCallDeltaEvent env event isCustom s).folds f =
        { f with toolCalls := appendCall ⟨idx, none, none, emitted⟩ f.toolCalls } := by
  subst hidx
  have hsome : (event.getStr "delta").filter (fun delta => !delta.isEmpty) = some piece := by
    simp [hdelta, hpiece]
  unfold toolCallDeltaEvent
  rw [hsome]
  simp only [hcall, Option.getD_some, hemitted]
  refine ⟨rfl, ?_⟩
  intro f
  generalize htc : Value.ofFields [("index", .nat (eventToolCallIndex env event s)),
    ("type", .string "function"), ("function", .ofFields [("arguments", .string emitted)])] = tc
  have hindex : tc.getU64 "index" = some (eventToolCallIndex env event s) := by
    rw [← htc, Value.getU64, Value.get_ofFields]
    rfl
  have hofDelta : FoldedCall.ofDelta (eventToolCallIndex env event s) tc =
      ⟨eventToolCallIndex env event s, none, none, emitted⟩ := by
    rw [← htc]
    simp [FoldedCall.ofDelta, Value.getStr, List.lookup_cons]
  split
  · rw [folds_pushToolCall env _ _ (by rw [getU64_set _ _ (by decide), hindex]),
      ofDelta_set _ tc _ (by decide) (by decide), hofDelta]
    rfl
  · rw [folds_pushToolCall env _ _ hindex, hofDelta]
    rfl

/-- A piece of the arguments finds its call, and goes behind the pieces before it. -/
theorem Receives.argumentsDelta {itemId : String} {call : FoldedCall}
    (h : Receives f index used itemId n content reasoning calls call p) (hfresh : itemId ∉ used)
    (hbelow : ∀ call ∈ calls, call.index < n) (hcall : call.index = n) {piece : String}
    (hevent : IsArgumentsDelta index itemId event piece) :
    Receives f index used itemId n content reasoning calls
      { call with arguments := call.arguments ++ piece }
      (foldEvent (responsesEventToOpenaiChunks env) p event) := by
  obtain ⟨⟨htype, hdelta⟩, _, hid⟩ := hevent
  have hstep : responsesEventToOpenaiChunks env event p.1 =
      toolCallDeltaEvent env event false p.1 := by
    simp [responsesEventToOpenaiChunks, htype, Text.startsWith]
  rw [foldEvent_eq, hstep]
  by_cases hempty : piece = ""
  · have hnone : (event.getStr "delta").filter (fun delta => !delta.isEmpty) = none := by
      simp [hdelta, hempty]
    rw [hempty, String.append_empty]
    unfold toolCallDeltaEvent
    rw [hnone]
    exact h
  have hidx : eventToolCallIndex env event p.1 = n := by
    unfold eventToolCallIndex
    rw [h.opened.finds env hfresh hid]
    rfl
  obtain ⟨current, hcurrent, hindex, hitemId⟩ := h.opened.current
  obtain ⟨hstate, hfolds⟩ := toolCallDelta_eq env false hdelta hempty rfl hidx hcurrent
  rw [hstate, hfolds]
  refine ⟨⟨h.opened.accepted, h.opened.running, h.opened.counted, ?_, ?_⟩, ?_⟩
  · refine ⟨_, AList.lookup_insert _, ?_, ?_⟩
    · simp [addToolCallDelta, hindex]
    · simp [addToolCallDelta, hitemId]
  · intro k other hk hother
    exact h.opened.earlier k other hk ((AList.lookup_insert_ne hk).symm.trans hother)
  · have hothers : ∀ c ∈ calls, c.index ≠ n := fun c hc => Nat.ne_of_lt (hbelow c hc)
    refine ⟨h.told.content, h.told.reasoning, ?_, h.told.finish⟩
    show appendCall _ p.2.toolCalls = _
    rw [h.told.calls, appendCall_last hothers hcall]
    simp [FoldedCall.append]

/-- What every piece, and every quiet event, leaves true is true after the whole text. -/
theorem foldEvents_pieces (step : SourceStep) {IsPiece : Value → String → Prop}
    (R : String → StreamState × Folded → Prop)
    (hpiece : ∀ {event : Value} {piece text : String} {p : StreamState × Folded},
      IsPiece event piece → R text p → R (text ++ piece) (foldEvent step p event))
    (hquiet : ∀ {event : Value} {text : String} {p : StreamState × Folded},
      IsQuiet event → R text p → R text (foldEvent step p event))
    {events : List Value} {rest : String} (h : Pieces IsPiece events rest) :
    ∀ {text : String} {p : StreamState × Folded}, R text p →
      R (text ++ rest) (foldEvents step events p) := by
  induction h with
  | nil =>
    intro text p hp
    simpa using hp
  | piece hevent _ ih =>
    intro text p hp
    rw [foldEvents_cons, ← String.append_assoc]
    exact ih (hpiece hevent hp)
  | quiet hevent _ ih =>
    intro text p hp
    exact ih (hquiet hevent hp)

/-! ### Items -/

theorem below_append {calls : List FoldedCall} {n : Nat} (h : ∀ call ∈ calls, call.index < n)
    {call : FoldedCall} (hcall : call.index = n) :
    ∀ c ∈ calls ++ [call], c.index < n + 1 := by
  intro c hc
  rcases List.mem_append.mp hc with hc | hc
  · exact Nat.lt_succ_of_lt (h c hc)
  · obtain rfl := List.mem_singleton.mp hc
    omega

theorem responsesHostedOutputItemType_ne {itemType : String}
    (h : responsesHostedOutputItemType itemType = true) :
    itemType ≠ "message" ∧ itemType ≠ "reasoning" ∧ itemType ≠ "function_call" ∧
      itemType ≠ "custom_tool_call" := by
  unfold responsesHostedOutputItemType at h
  refine ⟨?_, ?_, ?_, ?_⟩ <;>
  · rintro rfl
    exact absurd h (by decide)

/-- What the events of some items come to: the client has been told them all, or one of them has a
name of the proxy's own and the stream is rejected. -/
def ItemsTold (f : Folded) (n : Nat) (content reasoning : String) (calls : List FoldedCall)
    (items : List Value) (p : StreamState × Folded) : Prop :=
  (items.any hasReservedName = false ∧ ∃ index used,
    Reached f index used (n + (items.filter isCallItem).length) (content ++ textsOf items)
      (reasoning ++ summariesOf items) (calls ++ streamedCalls n items) p) ∨
  (items.any hasReservedName = true ∧ Refused p.1 p.2)

namespace ItemsTold

variable {n : Nat} {content reasoning : String} {calls : List FoldedCall} {items : List Value}
  {item : Value} {p : StreamState × Folded}

/-- An item that is no call has added its text and its summary, where it has any. -/
theorem other (hcall : isCallItem item = false)
    (h : ItemsTold f n (content ++ String.join (messageTexts item))
      (reasoning ++ summaryText item) calls items p) :
    ItemsTold f n content reasoning calls (item :: items) p := by
  have hreserved : hasReservedName item = false := by simp [hasReservedName, hcall]
  unfold ItemsTold at h ⊢
  rwa [List.any_cons, hreserved, Bool.false_or, List.filter_cons_of_neg (by simp [hcall]),
    textsOf_cons, summariesOf_cons, streamedCalls_other hcall, ← String.append_assoc,
    ← String.append_assoc]

/-- A call has added itself. -/
theorem call (htype : item.getStr "type" = some "function_call")
    (hpublic : hasReservedName item = false)
    (h : ItemsTold f (n + 1) content reasoning (calls ++ [streamedCall n item]) items p) :
    ItemsTold f n content reasoning calls (item :: items) p := by
  have hcall : isCallItem item = true := by simp [isCallItem, htype]
  have hcount : n + ((items.filter isCallItem).length + 1) =
      n + 1 + (items.filter isCallItem).length := by omega
  unfold ItemsTold at h ⊢
  rwa [List.any_cons, hpublic, Bool.false_or, List.filter_cons_of_pos hcall, List.length_cons,
    textsOf_cons, messageTexts_other _ (by simp [htype]), String.join_nil, summariesOf_cons,
    summaryText_other _ (by simp [htype]), streamedCalls_call hcall, String.empty_append,
    String.empty_append, List.append_cons, hcount]

end ItemsTold

/-- **The stream of the items.** -/
theorem fold_items {items events : List Value} (h : RendersItems index used items events) :
    ∀ {n : Nat} {content reasoning : String} {calls : List FoldedCall}
      {p : StreamState × Folded}, Reached f index used n content reasoning calls p →
      (∀ call ∈ calls, call.index < n) →
      ItemsTold f n content reasoning calls items
        (foldEvents (responsesEventToOpenaiChunks env) events p) := by
  induction h with
  | @nil index used =>
    intro n content reasoning calls p hp _
    refine .inl ⟨rfl, index, used, ?_⟩
    simpa [textsOf, summariesOf] using hp
  | quiet hquiet _ ih =>
    intro n content reasoning calls p hp hbelow
    exact ih (hp.quiet env hquiet) hbelow
  | @message index used items events deltas item added started htype _ hadded hstarted hdeltas _
      ih =>
    intro n content reasoning calls p hp hbelow
    have hopen := hp.added env hadded (by simp [hstarted]) (by simp [hstarted])
    have htold := foldEvents_pieces (responsesEventToOpenaiChunks env)
      (fun text q => Reached f (index + 1) used n text reasoning calls q)
      (fun hevent hq => hq.textDelta env hevent) (fun hevent hq => hq.quiet env hevent)
      hdeltas hopen
    rw [foldEvents_cons, foldEvents_append]
    refine .other (by simp [isCallItem, htype]) ?_
    rw [summaryText_other _ (by simp [htype]), String.append_empty]
    exact ih htold hbelow
  | @reasoning index used items events deltas item added started htype hadded hstarted hdeltas _
      ih =>
    intro n content reasoning calls p hp hbelow
    have hopen := hp.added env hadded (by simp [hstarted]) (by simp [hstarted])
    have htold := foldEvents_pieces (responsesEventToOpenaiChunks env)
      (fun text q => Reached f (index + 1) used n content text calls q)
      (fun hevent hq => hq.summaryDelta env hevent) (fun hevent hq => hq.quiet env hevent)
      hdeltas hopen
    rw [foldEvents_cons, foldEvents_append]
    refine .other (by simp [isCallItem, htype]) ?_
    rw [messageTexts_other _ (by simp [htype]), String.join_nil, String.append_empty]
    exact ih htold hbelow
  | @call index used items events deltas item added started itemId callId name arguments rest
      htype hcallId hname harguments hadded hstarted hitemId hfresh hstartedCallId hstartedName
      hdeltas hcut _ ih =>
    intro n content reasoning calls p hp hbelow
    rw [foldEvents_cons, foldEvents_append]
    cases hreserved : openaiResponsesCustomToolBridgePrefixIsReserved name with
    | true =>
      refine .inr ⟨by simp [hasReservedName, isCallItem, htype, hname, hreserved], ?_⟩
      exact ((fold_reserved env p hadded hstarted hstartedName hreserved).events env _).events
        env _
    | false =>
      obtain ⟨hopened, htold⟩ := hp.callAdded env hbelow hadded hstarted hitemId hstartedCallId
        hstartedName hreserved
      -- The call grows piece by piece; in the end it is the item's.
      have hwhole := foldEvents_pieces (responsesEventToOpenaiChunks env)
        (fun text q => Receives f index used itemId n content reasoning calls
          ⟨n, some callId, some name, text⟩ q)
        (fun hevent hq => hq.argumentsDelta env hfresh hbelow rfl hevent)
        (fun hevent hq => hq.quiet env hevent) hdeltas ⟨hopened, htold⟩
      have hstreamed : (⟨n, some callId, some name, arguments⟩ : FoldedCall) =
          streamedCall n item := by
        rw [streamedCall, hcallId, hname, harguments]
        rfl
      rw [hcut, hstreamed] at hwhole
      refine .call htype (by simp [hasReservedName, hname, hreserved]) ?_
      exact ih ⟨hwhole.opened.close, hwhole.told⟩ (below_append hbelow rfl)
  | @hosted index used items events item added started itemType htype hhosted hadded hstarted _
      ih =>
    intro n content reasoning calls p hp hbelow
    obtain ⟨hmessage, hreasoning, hfunction, hcustom⟩ := responsesHostedOutputItemType_ne hhosted
    have hopen := hp.added env hadded (by simp [hstarted, hfunction]) (by simp [hstarted, hcustom])
    rw [foldEvents_cons]
    refine .other (by simp [isCallItem, htype, hfunction]) ?_
    rw [messageTexts_other _ (by simp [htype, hmessage]), String.join_nil, String.append_empty,
      summaryText_other _ (by simp [htype, hreasoning]), String.append_empty]
    exact ih hopen hbelow

/-! ### The beginning and the end -/

theorem RendersItems.no_custom {items events : List Value}
    (h : RendersItems index used items events) :
    ∀ item ∈ items, item.getStr "type" ≠ some "custom_tool_call" := by
  induction h with
  | nil => simp
  | quiet _ _ ih => exact ih
  | message htype _ _ _ _ _ ih =>
    rw [List.forall_mem_cons]
    exact ⟨by simp [htype], ih⟩
  | reasoning htype _ _ _ _ ih =>
    rw [List.forall_mem_cons]
    exact ⟨by simp [htype], ih⟩
  | call htype _ _ _ _ _ _ _ _ _ _ _ _ ih =>
    rw [List.forall_mem_cons]
    exact ⟨by simp [htype], ih⟩
  | hosted htype hhosted _ _ _ ih =>
    rw [List.forall_mem_cons]
    exact ⟨by simp [htype, (responsesHostedOutputItemType_ne hhosted).2.2.2], ih⟩

/-- Without custom calls in the output nothing is left to close. -/
theorem closeFinalCustomCalls_eq {items : List Value}
    (h : ∀ item ∈ items, item.getStr "type" ≠ some "custom_tool_call") (k : Source) :
    items.foldl (closeFinalCustomCall env) k = k := by
  induction items generalizing k with
  | nil => rfl
  | cons item items ih =>
    have hitem : finalCustomCall item = none := by
      unfold finalCustomCall
      cases htype : item.getStr "type" with
      | none => rfl
      | some itemType =>
        have hne : itemType ≠ "custom_tool_call" := fun heq =>
          h item List.mem_cons_self (htype.trans (congrArg some heq))
        show (if itemType ≠ "custom_tool_call" then none else _) = none
        rw [if_pos hne]
    have hclose : closeFinalCustomCall env k item = k := by
      unfold closeFinalCustomCall
      rw [hitem]
    rw [List.foldl_cons, hclose]
    exact ih (fun other hother => h other (List.mem_cons_of_mem _ hother)) k

/-- The stream begins without having said anything. -/
theorem fold_created (hevent : event.getStr "type" = some "response.created") :
    Reached {} 0 [] 0 "" "" [] (foldEvent (responsesEventToOpenaiChunks env) ({}, {}) event) := by
  have hstep : responsesEventToOpenaiChunks env event {} = responseCreated env event {} := by
    simp [responsesEventToOpenaiChunks, hevent, Text.startsWith]
  rw [foldEvent_eq, hstep]
  unfold responseCreated
  rw [folds_ensureRole]
  refine ⟨⟨rfl, rfl, rfl, ?_⟩, Says.refl {}⟩
  intro k call hcall
  exact absurd hcall (by simp [Source.ensureRole, emitOpenaiAssistantRoleIfNeeded,
    captureResponsesModel])

/-- Both ways the finish reason is read off the status, and tool calls are only looked for in a
response that is complete. -/
theorem responsesFinishReason_eq {body : Value} {items : List Value}
    (houtput : body.get "output" = some (.array items))
    (hresponse : event.get "response" = some body)
    (hcustom : ∀ item ∈ items, item.getStr "type" ≠ some "custom_tool_call") {s : StreamState}
    (hkeys : s.openaiToolCalls.keys ≠ [] → items.any isCallItem = true) :
    responsesFinishReason (terminalEventType (body.getStr "status")) event s =
      responsesFinishReasonToOpenai body (items.any isCallItem) := by
  have hcalls : items.any isToolCallItem = items.any isCallItem := by
    rw [Bool.eq_iff_iff, List.any_eq_true, List.any_eq_true]
    refine exists_congr fun item => and_congr_right fun hmem => ?_
    simp [isToolCallItem, isCallItem, hcustom item hmem]
  have hany : (!s.openaiToolCalls.keys.isEmpty || (responseOutput event).any isToolCallItem) =
      items.any isCallItem := by
    have hitems : responseOutput event = items := by
      simp [responseOutput, hresponse, Value.getArray, houtput, Value.asArray]
    rw [hitems, hcalls]
    cases hnil : s.openaiToolCalls.keys with
    | nil => rfl
    | cons key keys =>
      rw [hkeys (by simp [hnil])]
      rfl
  unfold responsesFinishReason responsesFinishReasonToOpenai
  simp only [hresponse, Option.getD_some, hany]
  generalize body.getStr "status" = status
  by_cases hincomplete : status = some "incomplete"
  · subst hincomplete
    rfl
  by_cases hfailed : status = some "failed"
  · subst hfailed
    rfl
  simp [terminalEventType]

/-- The end of a stream that has not been rejected. -/
theorem Reached.ended (h : Reached {} index used n content reasoning calls p) {body : Value}
    {items : List Value} (houtput : body.get "output" = some (.array items))
    (hcustom : ∀ item ∈ items, item.getStr "type" ≠ some "custom_tool_call")
    (hcount : n = (items.filter isCallItem).length)
    (hevent : event.getStr "type" = some (terminalEventType (body.getStr "status")))
    (hresponse : event.get "response" = some body) :
    (foldEvent (responsesEventToOpenaiChunks env) p event).1.fatalRejection = none ∧
      ∃ refusal, (foldEvent (responsesEventToOpenaiChunks env) p event).2 =
        { content := content, reasoning := reasoning, refusal := refusal, toolCalls := calls
          finishReason := some (responsesFinishReasonToOpenai body (items.any isCallItem)) } := by
  have hstep : responsesEventToOpenaiChunks env event p.1 =
      responseEnded env (terminalEventType (body.getStr "status")) event p.1 := by
    unfold responsesEventToOpenaiChunks
    rw [hevent]
    unfold terminalEventType
    split <;> simp [Text.startsWith]
  have hitems : responseOutput event = items := by
    simp [responseOutput, hresponse, Value.getArray, houtput, Value.asArray]
  have hclosed : responsesTerminalCustomToolBridgeChunk env event p.1 = ⟨p.1, []⟩ := by
    unfold responsesTerminalCustomToolBridgeChunk
    rw [hitems]
    exact closeFinalCustomCalls_eq env hcustom _
  obtain ⟨hrejected, hsent, hcalls⟩ := captureResponse_keeps event p.1
  -- A state with a call has counted it, and what is counted is in the output.
  have hkeys : (captureResponse event p.1).openaiToolCalls.keys ≠ [] →
      items.any isCallItem = true := by
    intro hne
    rw [hcalls] at hne
    obtain ⟨key, hkey⟩ := List.exists_mem_of_ne_nil _ hne
    obtain ⟨call, hcall⟩ := Option.isSome_iff_exists.mp
      (AList.lookup_isSome.mpr (AList.mem_keys.mpr hkey))
    have hlt := (h.tracks.earlier key call hcall).1
    have hpos : 0 < (items.filter isCallItem).length := by omega
    obtain ⟨item, hmem⟩ := List.exists_mem_of_length_pos hpos
    obtain ⟨hmem, hitem⟩ := List.mem_filter.mp hmem
    exact List.any_eq_true.mpr ⟨item, hmem, hitem⟩
  have hfinish := responsesFinishReason_eq houtput hresponse hcustom hkeys
  -- The last chunk has the usage, if there is one.
  have hended : ∃ chunk, responseEnded env (terminalEventType (body.getStr "status")) event p.1 =
      ⟨{ captureResponse event p.1 with finishReasonSent := true }, [chunk]⟩ ∧
      ∃ usage : Option Value, chunk = (usage.elim id fun usage chunk => chunk.set "usage" usage)
        (openaiChunk env (captureResponse event p.1) (.ofFields [])
          (some (responsesFinishReasonToOpenai body (items.any isCallItem)))) := by
    unfold responseEnded
    simp only [hclosed, Source.update, hsent, h.tracks.running, Bool.false_eq_true, if_false,
      hfinish, List.nil_append]
    cases (captureResponse event p.1).usage with
    | none => exact ⟨_, rfl, none, rfl⟩
    | some usage => exact ⟨_, rfl, some usage, rfl⟩
  obtain ⟨chunk, hended, usage, hchunk⟩ := hended
  rw [foldEvent_eq, hstep, hended]
  refine ⟨hrejected.trans h.tracks.accepted, p.2.refusal, ?_⟩
  have hfeed : ∀ finishReason : String, p.2.feedDelta (.ofFields []) (some finishReason) =
      { content := content, reasoning := reasoning, refusal := p.2.refusal, toolCalls := calls
        finishReason := some finishReason } := by
    intro finishReason
    have hcontent := h.told.content
    have hreasoning := h.told.reasoning
    rw [String.empty_append] at hcontent hreasoning
    rw [feedDelta_finish, hcontent, hreasoning, h.told.calls]
  show Folded.feed p.2 chunk = _
  rw [hchunk]
  cases usage with
  | none =>
    rw [Option.elim_none, id, feed_openaiChunk]
    exact hfeed _
  | some usage =>
    rw [Option.elim_some, feed_set _ _ (by decide), feed_openaiChunk]
    exact hfeed _

/-- **The stream of a response**, as a client reads it. -/
theorem fold_response {body : Value} {items events : List Value}
    (h : RendersResponse body items events) :
    (items.any hasReservedName = false ∧
      (foldEvents (responsesEventToOpenaiChunks env) events ({}, {})).1.fatalRejection = none ∧
      ∃ refusal, (foldEvents (responsesEventToOpenaiChunks env) events ({}, {})).2 =
        { content := textsOf items, reasoning := summariesOf items, refusal := refusal
          toolCalls := streamedCalls 0 items
          finishReason := some (responsesFinishReasonToOpenai body (items.any isCallItem)) }) ∨
    (items.any hasReservedName = true ∧
      Rejected (foldEvents (responsesEventToOpenaiChunks env) events ({}, {}))) := by
  obtain ⟨created, ended, itemEvents, hitems, hcreated, hended, hresponse, rfl⟩ := h.rendered
  rw [foldEvents_cons, foldEvents_append]
  rcases fold_items env hitems (fold_created env hcreated) (by simp) with
    ⟨hpublic, index', used', hreached⟩ | ⟨hreserved, hrefused⟩
  · refine .inl ⟨hpublic, ?_⟩
    rw [String.empty_append, String.empty_append, List.nil_append] at hreached
    exact hreached.ended env h.output hitems.no_custom (Nat.zero_add _) hended hresponse
  · have hlast := hrefused.step env ended
    exact .inr ⟨hreserved, hlast.rejected, hlast.told⟩

end

end LlmUniversalProxy.Streaming
