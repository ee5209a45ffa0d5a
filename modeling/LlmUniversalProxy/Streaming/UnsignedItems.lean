import LlmUniversalProxy.Streaming.Events
import LlmUniversalProxy.Streaming.NonReplayableCalls
import LlmUniversalProxy.Translate.ServerToolCalls

/-!
# `Streaming.UnsignedItems` — the items of a Responses stream

The items that a Responses stream adds, finishes and repeats in its last event are made anew from the
state. None of them has a signature for its kind of tool, whatever the chunks have brought along.

So an item that is echoed has lost the proof that it came from here, which is what
`Streaming.ServerToolEcho` needs to know.
-/

set_option autoImplicit false

namespace LlmUniversalProxy.Streaming

open Json Lib Translate

def toolCallsOfChunk (chunk : Value) : List Value :=
  ((chunk.getArray "choices").getD []).flatMap fun choice =>
    ((choice.get "delta").bind (Value.getArray · "tool_calls")).getD []

/-- What a frame carries that may come back with the next request: the tool calls of a chunk, or the
item of an event and those of the response in it. -/
def SseFrame.items : SseFrame → List Value
  | .data chunk => toolCallsOfChunk chunk
  | .event _ value => (value.get "item").toList ++
      ((value.get "response").bind (Value.getArray · "output")).getD []
  | _ => []

/-- No item has been signed, neither one that has gone out nor one that is kept for the end. -/
structure Unsigned (k : Sink) : Prop where
  kept : ∀ message ∈ k.state.responsesCompletedMessageItems, IsUnsigned message.item
  sent : ∀ f ∈ k.out, ∀ item ∈ f.items, IsUnsigned item

namespace Unsigned

variable {k : Sink}

theorem state (h : Unsigned k) {s : StreamState}
    (hs : s.responsesCompletedMessageItems = k.state.responsesCompletedMessageItems) :
    Unsigned { k with state := s } := ⟨hs ▸ h.kept, h.sent⟩

theorem update (h : Unsigned k) {f : StreamState → StreamState}
    (hf : (f k.state).responsesCompletedMessageItems = k.state.responsesCompletedMessageItems) :
    Unsigned (k.update f) := h.state hf

theorem emit (h : Unsigned k) {eventType : String} {fields : List (String × Value)}
    (hitem : ∀ item, fields.lookup "item" = some item → IsUnsigned item)
    (hresponse : ∀ response, fields.lookup "response" = some response →
      ∀ item ∈ (response.getArray "output").getD [], IsUnsigned item) :
    Unsigned (k.emit eventType fields) := by
  refine ⟨h.kept, ?_⟩
  intro f hf item hmem
  simp only [Sink.emit, List.mem_append, List.mem_singleton] at hf
  rcases hf with hf | rfl
  · exact h.sent f hf item hmem
  · simp only [SseFrame.items, Value.get_ofFields, List.mem_append, Option.mem_toList] at hmem
    rcases hmem with hmem | hmem
    · exact hitem item (by simpa [List.lookup_cons] using hmem)
    · cases hlookup : fields.lookup "response" with
      | none => simp [List.lookup_cons, hlookup] at hmem
      | some response =>
        refine hresponse response hlookup item ?_
        simpa [List.lookup_cons, hlookup] using hmem

theorem plain (h : Unsigned k) {eventType : String} {fields : List (String × Value)}
    (hitem : fields.lookup "item" = none) (hresponse : fields.lookup "response" = none) :
    Unsigned (k.emit eventType fields) := by
  refine h.emit ?_ ?_
  · intro item hsome
    rw [hitem] at hsome
    cases hsome
  · intro response hsome
    rw [hresponse] at hsome
    cases hsome

theorem foldl {α : Type} {f : Sink → α → Sink} (hf : ∀ k x, Unsigned k → Unsigned (f k x))
    (xs : List α) (h : Unsigned k) : Unsigned (xs.foldl f k) := by
  induction xs generalizing k with
  | nil => exact h
  | cons x xs ih => exact ih (hf k x h)

end Unsigned

/-! ## Messages -/

theorem lookup_optionalField {name k : String} (h : k ≠ name) (value : Option String) :
    (optionalField name value).lookup k = none := by
  have h := beq_eq_false_iff_ne.mpr h
  cases value <;> simp [optionalField, List.lookup_cons, h]

theorem unsigned_messageItem (itemId : String) (parts : List ResponsesMessagePartState)
    (phase : Option String) : IsUnsigned (messageItem itemId parts phase) := by
  rw [IsUnsigned, messageItem, Value.get_ofFields, List.lookup_append,
    lookup_optionalField (by decide)]
  simp [proxiedToolKindSigField, List.lookup_cons]

theorem unsigned_reasoningItem (s : StreamState) (carrier : Option String) :
    IsUnsigned (reasoningItem s carrier) := by
  rw [IsUnsigned, reasoningItem, Value.get_ofFields, List.lookup_append,
    lookup_optionalField (by decide)]
  simp [proxiedToolKindSigField, List.lookup_cons]

@[simp] theorem reasoningIndex_kept (s : StreamState) :
    (responsesReasoningOutputIndex s).2.responsesCompletedMessageItems =
      s.responsesCompletedMessageItems := by
  unfold responsesReasoningOutputIndex
  split <;> rfl

@[simp] theorem messageIndex_kept (s : StreamState) :
    (responsesMessageOutputIndex s).2.responsesCompletedMessageItems =
      s.responsesCompletedMessageItems := by
  unfold responsesMessageOutputIndex
  split <;> rfl

@[simp] theorem toolIndex_kept (s : StreamState) (tcIdx : Nat) :
    (responsesToolOutputIndex s tcIdx).2.responsesCompletedMessageItems =
      s.responsesCompletedMessageItems := by
  unfold responsesToolOutputIndex
  split <;> rfl

section

variable (env : Env) (responseId : String) {k : Sink}

theorem unsigned_ensureMessageItem (outputIndex : Nat) (h : Unsigned k) :
    Unsigned (ensureResponsesMessageItemAdded env responseId outputIndex k) := by
  unfold ensureResponsesMessageItemAdded
  split
  · exact h
  · refine (h.update rfl).emit ?_ ?_
    · intro item hitem
      simp [List.lookup_cons] at hitem
      subst hitem
      simp [IsUnsigned, proxiedToolKindSigField, List.lookup_cons]
    · simp [List.lookup_cons]

theorem unsigned_ensureMessagePart (outputIndex : Nat) (kind : ResponsesMessagePartKind)
    (h : Unsigned k) :
    Unsigned (ensureResponsesMessagePart responseId outputIndex kind k).2 := by
  unfold ensureResponsesMessagePart
  split
  · exact h
  · refine (h.update ?_).plain ?_ ?_
    · cases kind <;> rfl
    · simp [List.lookup_cons]
    · simp [List.lookup_cons]

theorem unsigned_ensurePart (kind : ResponsesMessagePartKind) (h : Unsigned k) :
    Unsigned (ensurePart env responseId kind k).2.2 := by
  unfold ensurePart
  exact unsigned_ensureMessagePart _ _ _
    (unsigned_ensureMessageItem env _ _ (h.state (messageIndex_kept k.state)))

theorem unsigned_messageDelta (kind : ResponsesMessagePartKind) (text : Option String)
    (annotations : List Value) (h : Unsigned k) :
    Unsigned (messageDelta env responseId kind text annotations k) := by
  unfold messageDelta
  split
  · exact h
  · refine ((unsigned_ensurePart env responseId kind h).update rfl).plain ?_ ?_
    · simp [List.lookup_cons]
    · simp [List.lookup_cons]

theorem unsigned_annotations (annotations : List Value) (hadContentDelta : Bool)
    (h : Unsigned k) :
    Unsigned (annotationsResponses env responseId annotations hadContentDelta k) := by
  unfold annotationsResponses
  split
  · exact h
  · exact (unsigned_ensurePart env responseId .outputText h).update rfl

theorem unsigned_appendDegraded (texts : List String) (h : Unsigned k) :
    Unsigned (appendDegradedTexts env responseId texts k) := by
  unfold appendDegradedTexts
  split
  · exact h
  · exact (unsigned_ensurePart env responseId .outputText h).update rfl

theorem unsigned_emitPartsDone (outputIndex : Nat) (itemId : String)
    (parts : List ResponsesMessagePartState) (contentIndex : Nat) (h : Unsigned k) :
    Unsigned (emitPartsDone responseId outputIndex itemId contentIndex parts k) := by
  induction parts generalizing contentIndex k with
  | nil => exact h
  | cons part parts ih =>
    refine ih (contentIndex + 1) (Unsigned.plain (Unsigned.plain h ?_ ?_) ?_ ?_)
    · cases part.kind <;> simp [ResponsesMessagePartKind.textField, List.lookup_cons]
    · cases part.kind <;> simp [ResponsesMessagePartKind.textField, List.lookup_cons]
    · simp [List.lookup_cons]
    · simp [List.lookup_cons]

theorem unsigned_emitMessageDone (phase : Option String) (h : Unsigned k) :
    Unsigned (emitResponsesMessageDone responseId phase k) := by
  unfold emitResponsesMessageDone
  split
  · exact h
  · have hplace := messageIndex_kept k.state
    generalize responsesMessageOutputIndex k.state = place at hplace ⊢
    obtain ⟨outputIndex, state⟩ := place
    dsimp only at hplace ⊢
    have hparts := unsigned_emitPartsDone responseId outputIndex (messageItemId state)
      state.responsesMessageParts 0 (h.state hplace)
    have hitem := unsigned_messageItem (messageItemId state) state.responsesMessageParts phase
    generalize emitPartsDone responseId outputIndex (messageItemId state) 0
      state.responsesMessageParts { k with state := state } = k₁ at hparts ⊢
    have hsent : Unsigned (k₁.emit "response.output_item.done"
        [("response_id", .string responseId), ("output_index", .nat outputIndex),
          ("item", messageItem (messageItemId state) state.responsesMessageParts phase)]) := by
      refine hparts.emit ?_ ?_
      · intro item hlookup
        simp [List.lookup_cons] at hlookup
        exact hlookup ▸ hitem
      · simp [List.lookup_cons]
    refine ⟨?_, hsent.sent⟩
    intro message hmem
    rcases List.mem_append.mp hmem with hmem | hmem
    · exact hsent.kept message hmem
    · rw [List.mem_singleton.mp hmem]
      exact hitem

/-! ## Reasoning -/

theorem unsigned_ensureReasoning (outputIndex : Nat) (h : Unsigned k) :
    Unsigned (ensureReasoningItem env responseId outputIndex k) := by
  unfold ensureReasoningItem
  split
  · exact h
  · refine Unsigned.plain (Unsigned.emit (h.update rfl) ?_ ?_) ?_ ?_
    · intro item hitem
      simp [List.lookup_cons] at hitem
      subst hitem
      simp [IsUnsigned, proxiedToolKindSigField, List.lookup_cons]
    · simp [List.lookup_cons]
    · simp [List.lookup_cons]
    · simp [List.lookup_cons]

theorem unsigned_reasoning (reasoning : Option String) (h : Unsigned k) :
    Unsigned (reasoningResponses env responseId reasoning k) := by
  unfold reasoningResponses
  split
  · exact h
  · refine Unsigned.plain (unsigned_ensureReasoning env responseId _ (h.state ?_)) ?_ ?_
    · exact reasoningIndex_kept _
    · simp [List.lookup_cons]
    · simp [List.lookup_cons]

theorem unsigned_reasoningDone (carrier : Option String) (h : Unsigned k) :
    Unsigned (emitReasoningDone responseId carrier k) := by
  unfold emitReasoningDone
  split
  · refine Unsigned.emit (Unsigned.plain (Unsigned.plain (h.state ?_) ?_ ?_) ?_ ?_) ?_ ?_
    · exact reasoningIndex_kept _
    · simp [List.lookup_cons]
    · simp [List.lookup_cons]
    · simp [List.lookup_cons]
    · simp [List.lookup_cons]
    · intro item hitem
      simp [List.lookup_cons] at hitem
      exact hitem ▸ unsigned_reasoningItem _ _
    · simp [List.lookup_cons]
  · exact h

/-! ## Tool calls -/

theorem unsigned_toolCallItem (callId name toolType payload : String)
    {extras : List (String × Value)} (h : extras.lookup proxiedToolKindSigField = none) :
    IsUnsigned (toolCallItem callId name toolType payload extras) := by
  have hpayload : (proxiedToolKindSigField == responsesToolCallPayloadField toolType) = false := by
    unfold responsesToolCallPayloadField
    split <;> decide
  rw [IsUnsigned, toolCallItem, Value.get_ofFields, List.lookup_append, h, Option.or_none]
  rw [proxiedToolKindSigField] at hpayload ⊢
  simp [List.lookup_cons, hpayload]

theorem unsigned_doneItem (context : TerminalContext) (done : ResponsesToolCallDone) :
    IsUnsigned (doneItem env context done) := by
  refine unsigned_toolCallItem _ _ _ _ ?_
  rw [List.lookup_append, lookup_toolCallExtras _ _ (by decide) (by decide), Option.none_or]
  unfold nonReplayableField
  split
  · simp [proxiedToolKindSigField, internalNonReplayableToolCallField, List.lookup_cons]
  · rfl

theorem unsigned_toolCallDelta (event : ResponsesToolCallEvent) (delta : String)
    (h : Unsigned k) : Unsigned (emitResponsesToolCallDelta event delta k) := by
  unfold emitResponsesToolCallDelta
  split
  · exact h
  · refine h.plain ?_ ?_
    · rw [List.lookup_append, lookup_toolCallExtras _ _ (by decide) (by decide)]
      simp [List.lookup_cons]
    · rw [List.lookup_append, lookup_toolCallExtras _ _ (by decide) (by decide)]
      simp [List.lookup_cons]

theorem unsigned_itemAdded (event : ResponsesToolCallEvent) (h : Unsigned k) :
    Unsigned (emitResponsesToolCallItemAdded event k) := by
  refine h.emit ?_ ?_
  · intro item hitem
    simp [List.lookup_cons] at hitem
    exact hitem ▸ unsigned_toolCallItem _ _ _ _ (lookup_toolCallExtras _ _ (by decide) (by decide))
  · simp [List.lookup_cons]

theorem unsigned_toolCallDone (context : TerminalContext) (k : Sink)
    (done : ResponsesToolCallDone) (h : Unsigned k) :
    Unsigned (emitResponsesToolCallDone env responseId context k done) := by
  have hpayload : ∀ {k : String}, k ∈ ["item", "response"] →
      (k == responsesToolCallPayloadField done.toolType) = false := by
    intro k hk
    rw [List.mem_pair] at hk
    unfold responsesToolCallPayloadField
    rcases hk with rfl | rfl <;> split <;> decide
  refine Unsigned.emit (Unsigned.plain h ?_ ?_) ?_ ?_
  · rw [List.lookup_append, lookup_optionalField (by decide)]
    simp [List.lookup_cons, hpayload (k := "item") (by simp)]
  · rw [List.lookup_append, lookup_optionalField (by decide)]
    simp [List.lookup_cons, hpayload (k := "response") (by simp)]
  · intro item hitem
    simp [List.lookup_cons] at hitem
    exact hitem ▸ unsigned_doneItem env context done
  · simp [List.lookup_cons]

theorem unsigned_flushToolCall (finalize : Bool) (k : Sink) (tcIdx : Nat) (h : Unsigned k) :
    Unsigned (flushPendingResponsesToolCall env responseId finalize k tcIdx) := by
  have hindex : Unsigned { k with state := (responsesToolOutputIndex k.state tcIdx).2 } :=
    h.state (toolIndex_kept k.state tcIdx)
  simp only [flushPendingResponsesToolCall]
  split
  · exact hindex
  split
  · exact hindex
  split
  · exact hindex
  · exact unsigned_toolCallDelta _ _ (unsigned_itemAdded _ (hindex.update rfl))

theorem unsigned_flushToolCalls (finalize : Bool) (h : Unsigned k) :
    Unsigned (flushPendingResponsesToolCalls env responseId finalize k) :=
  h.foldl (unsigned_flushToolCall env responseId finalize) _

theorem unsigned_pendingDone (context : TerminalContext) (includeDegraded : Bool)
    (h : Unsigned k) :
    Unsigned (emitPendingResponsesToolCallDoneEvents env responseId context includeDegraded k).2 :=
  (h.update rfl).foldl (unsigned_toolCallDone env responseId context) _

theorem unsigned_toolCall (tc : Value) (h : Unsigned k) :
    Unsigned (toolCallResponses env responseId tc k) := by
  have hindex := toolIndex_kept k.state (responsesToolCallIndex tc)
  have hmerged : ∀ toolCalls, Unsigned { k with
      state := { (responsesToolOutputIndex k.state (responsesToolCallIndex tc)).2 with
        openaiToolCalls := toolCalls } } := fun _ => h.state hindex
  simp only [toolCallResponses]
  split
  · exact hmerged _
  split <;> split
  · exact unsigned_toolCallDelta _ _ (unsigned_flushToolCall _ _ _ _ _ (hmerged _))
  · exact unsigned_toolCallDelta _ _ (hmerged _)
  · exact unsigned_flushToolCall _ _ _ _ _ (hmerged _)
  · exact hmerged _

/-! ## The end -/

/-- The output of the last event is made up of the items of the state. -/
theorem unsigned_terminalOutput (context : TerminalContext) (carrier : Option String)
    (h : Unsigned k) : ∀ item ∈ terminalOutput env context carrier k.state, IsUnsigned item := by
  intro item hitem
  obtain ⟨⟨index, item⟩, hmem, rfl⟩ := List.mem_map.mp hitem
  rw [List.mem_mergeSort, List.mem_append, List.mem_append] at hmem
  rcases hmem with (hmem | hmem) | hmem
  · split at hmem
    · cases List.mem_singleton.mp hmem
      exact unsigned_reasoningItem _ _
    · cases hmem
  · obtain ⟨message, hmessage, heq⟩ := List.mem_map.mp hmem
    cases heq
    exact h.kept message hmessage
  · obtain ⟨toolCall, _, hcall⟩ := List.mem_filterMap.mp hmem
    unfold terminalToolCallItem at hcall
    split at hcall
    · cases hcall
    · obtain ⟨callId, _, heq⟩ := Option.map_eq_some_iff.mp hcall
      cases heq
      exact unsigned_doneItem env context _

theorem settleReasoningIndex_kept (s : StreamState) :
    (settleReasoningOutputIndex s).responsesCompletedMessageItems =
      s.responsesCompletedMessageItems := by
  unfold settleReasoningOutputIndex
  split
  · exact reasoningIndex_kept s
  · rfl

theorem unsigned_terminalEvent (created : Nat) (context : TerminalContext)
    (carrier : Option String) (h : Unsigned k) :
    Unsigned (emitTerminalEvent env responseId created context carrier k) := by
  unfold emitTerminalEvent
  refine Unsigned.update (Unsigned.emit (h.update ?_) ?_ ?_) rfl
  · exact settleReasoningIndex_kept k.state
  · simp [List.lookup_cons]
  · intro response hresponse item hitem
    simp only [List.lookup_cons, beq_self_eq_true, Option.some.injEq] at hresponse
    subst hresponse
    refine unsigned_terminalOutput env context carrier h item ?_
    unfold terminalResponse at hitem
    rw [Value.getArray, Value.get_ofFields] at hitem
    simpa [List.lookup_cons] using hitem

theorem unsigned_terminal (created : Nat) (h : Unsigned k) :
    Unsigned (emitOpenaiResponsesTerminal env responseId created k) :=
  unsigned_terminalEvent env responseId _ _ _ (unsigned_emitMessageDone responseId _
    (unsigned_appendDegraded env responseId _ (unsigned_pendingDone env responseId _ _
      (unsigned_reasoningDone responseId _ h))))

theorem unsigned_reject (created : Nat) (code message : String) (h : Unsigned k) :
    Unsigned (rejectOpenaiResponsesStream responseId created code message k) := by
  simp only [rejectOpenaiResponsesStream]
  refine Unsigned.emit (h.state ?_) ?_ ?_
  · rfl
  · simp [List.lookup_cons]
  · intro response hresponse
    simp only [List.lookup_cons, beq_self_eq_true, Option.some.injEq] at hresponse
    subst hresponse
    simp [Value.getArray, List.lookup_cons]

/-! ## A chunk -/

theorem unsigned_start (c : ResponsesChunk) (h : Unsigned k) : Unsigned (startResponses c k) := by
  unfold startResponses
  split
  · exact h
  · have hopened : Unsigned (k.update fun s => { s with
        responsesStarted := true
        responsesCompletedMessageItems := []
        openaiTerminalError := c.chunk.get "error"
        messageId := c.chunk.getStr "id" }) := ⟨fun _ hmem => (nomatch hmem), h.sent⟩
    refine Unsigned.emit (Unsigned.emit hopened ?_ ?_) ?_ ?_
    · simp [List.lookup_cons]
    · intro response hresponse
      simp only [List.lookup_cons, beq_self_eq_true, Option.some.injEq] at hresponse
      subst hresponse
      simp [Value.getArray, List.lookup_cons]
    · simp [List.lookup_cons]
    · intro response hresponse
      simp only [List.lookup_cons, beq_self_eq_true, Option.some.injEq] at hresponse
      subst hresponse
      simp [Value.getArray, List.lookup_cons]

theorem unsigned_texts (c : ResponsesChunk) (h : Unsigned k) :
    Unsigned (textsResponses env c k) := by
  have hreasoning : (openaiChunkReasoningDelta c.delta k.state).2.responsesCompletedMessageItems =
      k.state.responsesCompletedMessageItems := by
    unfold openaiChunkReasoningDelta
    split <;> rfl
  have hcontent : ∀ s : StreamState,
      (openaiChunkContentDelta c.delta s).2.responsesCompletedMessageItems =
        s.responsesCompletedMessageItems := by
    intro s
    unfold openaiChunkContentDelta
    split <;> rfl
  have hrefusal : ∀ s : StreamState,
      (openaiChunkRefusalDelta c.delta s).2.responsesCompletedMessageItems =
        s.responsesCompletedMessageItems := by
    intro s
    unfold openaiChunkRefusalDelta
    split <;> rfl
  unfold textsResponses
  exact unsigned_messageDelta env _ _ _ _ (unsigned_annotations env _ _ _
    (unsigned_messageDelta env _ _ _ _ (Unsigned.state (unsigned_reasoning env _ _
      (h.state hreasoning)) ((hrefusal _).trans (hcontent _)))))

theorem unsigned_toolCallsDelta (c : ResponsesChunk) (h : Unsigned k) :
    (∀ k', toolCallsDelta env c k = .ok k' → Unsigned k') ∧
      ∀ k', toolCallsDelta env c k = .error k' → Unsigned k' := by
  have hloop : ∀ (tcs : List Value) (k : Sink), Unsigned k →
      (∀ k', toolCallsResponses env c tcs k = .ok k' → Unsigned k') ∧
        ∀ k', toolCallsResponses env c tcs k = .error k' → Unsigned k' := by
    intro tcs
    induction tcs with
    | nil =>
      intro k h
      exact ⟨fun k' hk' => by cases hk'; exact h, fun k' hk' => by cases hk'⟩
    | cons tc tcs ih =>
      intro k h
      simp only [toolCallsResponses]
      split
      · refine ⟨fun k' hk' => (nomatch hk'), fun k' hk' => ?_⟩
        cases hk'
        exact unsigned_reject _ _ _ _ (Unsigned.update (h.update rfl) (toolIndex_kept _ _))
      · exact ih _ (unsigned_toolCall env _ tc (h.update rfl))
  unfold toolCallsDelta
  split
  · exact ⟨fun k' hk' => by cases hk'; exact h, fun k' hk' => by cases hk'⟩
  · exact hloop _ _ (unsigned_emitMessageDone _ _ h)

theorem unsigned_finalize (c : ResponsesChunk) (h : Unsigned k) :
    Unsigned (finalizeResponses env c k) :=
  unsigned_terminal env _ _ (unsigned_flushToolCalls env _ true h)

theorem unsigned_finish (c : ResponsesChunk) (h : Unsigned k) :
    Unsigned (finishResponses env c k) := by
  have hcalls : ∀ k₁, Unsigned k₁ → Unsigned (if c.finishReason = some "tool_calls" then
      (emitPendingResponsesToolCallDoneEvents env c.responseId ⟨none, false⟩ false
        (flushPendingResponsesToolCalls env c.responseId true k₁)).2 else k₁) := by
    intro k₁ h₁
    split
    · exact unsigned_pendingDone env _ _ _ (unsigned_flushToolCalls env _ true h₁)
    · exact h₁
  have hends : ∀ (ends : Prop) [Decidable ends] (k₁ : Sink), Unsigned k₁ →
      Unsigned (if ends then finalizeResponses env c k₁ else k₁) := by
    intro ends _ k₁ h₁
    split
    · exact unsigned_finalize env c h₁
    · exact h₁
  unfold finishResponses
  cases c.chunk.get "usage" with
  | none =>
    dsimp only
    split
    · exact unsigned_finalize env c (h.update rfl)
    · exact hends _ _ (hcalls _ (h.update rfl))
  | some usage =>
    dsimp only
    split
    · exact unsigned_finalize env c ((h.update rfl).update rfl)
    · exact hends _ _ (hcalls _ ((h.update rfl).update rfl))

end

def KeptUnsigned (s : StreamState) : Prop :=
  ∀ message ∈ s.responsesCompletedMessageItems, IsUnsigned message.item

/-- What a function answers with keeps items unsigned. -/
structure AnswersUnsigned (output : List SseFrame × StreamState) : Prop where
  kept : KeptUnsigned output.2
  sent : ∀ f ∈ output.1, ∀ item ∈ f.items, IsUnsigned item

/-- **A chunk sends unsigned items only.** -/
theorem chunk_unsigned (env : Env) (chunk : Value) {s : StreamState} (h : KeptUnsigned s) :
    AnswersUnsigned (openaiChunkToResponsesSse env chunk s) := by
  have hcaptured : (captureModel chunk (captureError chunk s)).responsesCompletedMessageItems =
      s.responsesCompletedMessageItems := by
    have herror : (captureError chunk s).responsesCompletedMessageItems =
        s.responsesCompletedMessageItems := by
      unfold captureError
      split <;> rfl
    rw [← herror]
    unfold captureModel
    split <;> rfl
  have hopen : Unsigned ⟨captureModel chunk (captureError chunk s), []⟩ :=
    ⟨by rw [hcaptured]; exact h, fun f hf => (nomatch hf)⟩
  unfold openaiChunkToResponsesSse
  split
  · exact ⟨h, fun f hf => (nomatch hf)⟩
  · dsimp only
    have htexts := unsigned_texts env (responsesChunk chunk (captureError chunk s))
      (unsigned_start (responsesChunk chunk (captureError chunk s)) hopen)
    obtain ⟨hok, herror⟩ := unsigned_toolCallsDelta env
      (responsesChunk chunk (captureError chunk s)) htexts
    split
    · next k hk => exact ⟨(herror k hk).kept, (herror k hk).sent⟩
    · next k hk =>
      have hfinish := unsigned_finish env (responsesChunk chunk (captureError chunk s)) (hok k hk)
      exact ⟨hfinish.kept, hfinish.sent⟩

theorem chunks_unsigned (env : Env) (chunks : List Value) {s : StreamState}
    (h : KeptUnsigned s) :
    AnswersUnsigned (openaiChunksToClientSse env .openAiResponses chunks s) := by
  induction chunks generalizing s with
  | nil => exact ⟨h, fun f hf => (nomatch hf)⟩
  | cons chunk chunks ih =>
    have hfirst := chunk_unsigned env chunk h
    have hrest := ih hfirst.kept
    refine ⟨hrest.kept, ?_⟩
    intro f hf
    exact (List.mem_append.mp hf).elim (hfirst.sent f) (hrest.sent f)

end LlmUniversalProxy.Streaming
