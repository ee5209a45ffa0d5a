import LlmUniversalProxy.Streaming.Ending

/-!
# `Streaming.ResponsesOperations` — what each step of the sink for Responses does

The sink for Responses (`openai_sink.rs` 294-868 and 1135-1457) is made of some twenty functions, and
most of what is proved about it needs the same few facts of each. They are said once here. A function
that is not about the end of a response pushes events of that response which do not end it, and
leaves alone what the request and earlier chunks have settled; one that writes texts leaves the calls
alone as well. Three relations between the states make the difference (`Steady`, `Untouched` and
`SameEnding`), and `Emits` goes with any of them.

What a function does to the items and the calls that it is about is said elsewhere, where it is
needed. The functions that end a response are in `Streaming.TerminalEvents`.
-/

set_option autoImplicit false

namespace LlmUniversalProxy.Streaming

open Json Lib

def isTerminalType (eventType : String) : Bool :=
  eventType ∈ ["response.completed", "response.incomplete", "response.failed"]

/-- The frame carries an event that ends a response. -/
def SseFrame.isTerminal : SseFrame → Bool
  | .event eventType _ => isTerminalType eventType
  | .data value => (value.getStr "type").any isTerminalType
  | .done => false
  | .raw _ => false

/-! ## The response of an event -/

/-- The fields that name a response name this one. -/
def NamesResponse (responseId : String) (fields : List (String × Value)) : Prop :=
  ∀ field ∈ fields, (field.1 = "response_id" → field.2 = .string responseId) ∧
    (field.1 = "response" → field.2.getStr "id" = some responseId)

def SseFrame.BelongsTo (responseId : String) : SseFrame → Prop
  | .event _ fields =>
      (∀ value, fields.get "response_id" = some value → value = .string responseId) ∧
        ∀ response, fields.get "response" = some response → response.getStr "id" = some responseId
  | _ => False

@[simp] theorem namesResponse_nil (responseId : String) : NamesResponse responseId [] :=
  fun _ h => absurd h List.not_mem_nil

@[simp] theorem namesResponse_cons {responseId : String} {field : String × Value}
    {fields : List (String × Value)} : NamesResponse responseId (field :: fields) ↔
      ((field.1 = "response_id" → field.2 = .string responseId) ∧
        (field.1 = "response" → field.2.getStr "id" = some responseId)) ∧
      NamesResponse responseId fields := List.forall_mem_cons

@[simp] theorem namesResponse_append {responseId : String} {fields more : List (String × Value)} :
    NamesResponse responseId (fields ++ more) ↔
      NamesResponse responseId fields ∧ NamesResponse responseId more := List.forall_mem_append

theorem namesResponse_optional {responseId name : String} (hname : name ≠ "response_id")
    (hname' : name ≠ "response") (value : Option String) :
    NamesResponse responseId (optionalField name value) := by
  cases value with
  | none => exact namesResponse_nil _
  | some value => simp [optionalField, hname, hname']

@[simp] theorem namesResponse_extras (responseId : String)
    (proxiedToolKind namespaceName : Option String) :
    NamesResponse responseId (toolCallExtras proxiedToolKind namespaceName) :=
  namesResponse_append.mpr
    ⟨namesResponse_optional (by decide) (by decide) _,
      namesResponse_optional (by decide) (by decide) _⟩

theorem belongsTo_ofFields {responseId eventType : String} {fields : List (String × Value)}
    (h : NamesResponse responseId fields) :
    (SseFrame.event eventType (.ofFields fields)).BelongsTo responseId := by
  have hmem : ∀ {k : String} {value : Value}, (Value.ofFields fields).get k = some value →
      (k, value) ∈ fields := by
    intro k value hget
    rw [Value.get_ofFields] at hget
    obtain ⟨before, after, hfields, _⟩ := List.lookup_eq_some_iff.mp hget
    rw [hfields]
    exact List.mem_append_right _ List.mem_cons_self
  exact ⟨fun _ hget => (h _ (hmem hget)).1 rfl, fun _ hget => (h _ (hmem hget)).2 rfl⟩

theorem belongsTo_emitted {responseId eventType : String} {seq : Value}
    {fields : List (String × Value)} (h : NamesResponse responseId fields) :
    (SseFrame.event eventType (.ofFields (("type", .string eventType) ::
      ("sequence_number", seq) :: fields))).BelongsTo responseId :=
  belongsTo_ofFields (by simpa using h)

/-! ## What a step leaves alone -/

/-- What the request and earlier chunks have settled of a response. -/
structure Settled where
  bridgeContext : Option Value
  usage : Option Value
  model : Option String
  finishReason : Option String

def StreamState.settled (s : StreamState) : Settled :=
  ⟨s.requestScopedToolBridgeContext, s.usage, s.model, s.finishReason⟩

def CompletedAreMessages (s : StreamState) : Prop :=
  ∀ message ∈ s.responsesCompletedMessageItems, message.item.getStr "type" = some "message"

/-- What is kept of the end of the response is as it was. -/
def SameEnding (s s' : StreamState) : Prop := s'.ending = s.ending

/-- What has been settled is as it was, and what is completed is a message. -/
structure Steady (s s' : StreamState) : Prop where
  ending : s'.ending = s.ending
  settled : s'.settled = s.settled
  messages : CompletedAreMessages s → CompletedAreMessages s'

/-- And so are the calls. -/
structure Untouched (s s' : StreamState) : Prop extends Steady s s' where
  calls : s'.openaiToolCalls = s.openaiToolCalls

namespace Steady

variable {s s' : StreamState}

theorem refl (s : StreamState) : Steady s s := ⟨rfl, rfl, id⟩

theorem trans {s₁ s₂ s₃ : StreamState} (h : Steady s₁ s₂) (h' : Steady s₂ s₃) : Steady s₁ s₃ :=
  ⟨h'.ending.trans h.ending, h'.settled.trans h.settled, h'.messages ∘ h.messages⟩

theorem sent (h : Steady s s') : s'.responsesTerminalSent = s.responsesTerminalSent :=
  congrArg ResponseEnding.terminalSent h.ending

theorem context (h : Steady s s') :
    s'.requestScopedToolBridgeContext = s.requestScopedToolBridgeContext :=
  congrArg Settled.bridgeContext h.settled

theorem usage (h : Steady s s') : s'.usage = s.usage := congrArg Settled.usage h.settled

theorem model (h : Steady s s') : s'.model = s.model := congrArg Settled.model h.settled

theorem finishReason (h : Steady s s') : s'.finishReason = s.finishReason :=
  congrArg Settled.finishReason h.settled

end Steady

namespace Untouched

theorem refl (s : StreamState) : Untouched s s := ⟨.refl s, rfl⟩

theorem trans {s₁ s₂ s₃ : StreamState} (h : Untouched s₁ s₂) (h' : Untouched s₂ s₃) :
    Untouched s₁ s₃ := ⟨h.toSteady.trans h'.toSteady, h'.calls.trans h.calls⟩

end Untouched

/-- A relation that says of one step what it says of several, and of an event, which only counts up.
It is about the end of the response at least. -/
class Framed (R : StreamState → StreamState → Prop) : Prop where
  ending : ∀ {s s'}, R s s' → s'.ending = s.ending
  refl : ∀ s, R s s
  trans : ∀ {s₁ s₂ s₃}, R s₁ s₂ → R s₂ s₃ → R s₁ s₃
  emit : ∀ (k : Sink) (eventType : String) (fields : List (String × Value)),
    R k.state (k.emit eventType fields).state

instance : Framed SameEnding := ⟨id, fun _ => rfl, fun h h' => h'.trans h, fun _ _ _ => rfl⟩

instance : Framed Steady := ⟨Steady.ending, .refl, .trans, fun _ _ _ => ⟨rfl, rfl, id⟩⟩

instance : Framed Untouched :=
  ⟨fun h => h.ending, .refl, .trans, fun _ _ _ => ⟨⟨rfl, rfl, id⟩, rfl⟩⟩

/-- From `k` to `k'` only events of the response are pushed that do not end it, and the states are
related. -/
structure Emits (R : StreamState → StreamState → Prop) (responseId : String) (k k' : Sink) :
    Prop where
  kept : R k.state k'.state
  out : ∃ more, k'.out = k.out ++ more ∧
    ∀ f ∈ more, f.isTerminal = false ∧ f.BelongsTo responseId

namespace Emits

variable {R : StreamState → StreamState → Prop} {responseId : String} {k k' : Sink}

/-- A change of the state alone. -/
theorem state {s : StreamState} (h : R k.state s) :
    Emits R responseId k { k with state := s } := ⟨h, [], by simp, by simp⟩

theorem sameEnding [Framed R] (h : Emits R responseId k k') : Emits SameEnding responseId k k' :=
  ⟨Framed.ending h.kept, h.out⟩

theorem refl [Framed R] (k : Sink) : Emits R responseId k k := ⟨Framed.refl _, [], by simp, by simp⟩

theorem trans [Framed R] {k₁ k₂ k₃ : Sink} (h : Emits R responseId k₁ k₂)
    (h' : Emits R responseId k₂ k₃) : Emits R responseId k₁ k₃ := by
  obtain ⟨more, hmore, htold⟩ := h.out
  obtain ⟨more', hmore', htold'⟩ := h'.out
  refine ⟨Framed.trans h.kept h'.kept, more ++ more', ?_, ?_⟩
  · rw [hmore', hmore, List.append_assoc]
  · intro f hf
    exact (List.mem_append.mp hf).elim (htold f) (htold' f)

theorem update [Framed R] {f : StreamState → StreamState} (h : Emits R responseId k k')
    (hf : R k'.state (f k'.state)) : Emits R responseId k (k'.update f) := h.trans (state hf)

theorem emit [Framed R] {eventType : String} {fields : List (String × Value)}
    (h : Emits R responseId k k') (htype : isTerminalType eventType = false)
    (hnames : NamesResponse responseId fields) : Emits R responseId k (k'.emit eventType fields) :=
  h.trans ⟨Framed.emit _ _ _, _, rfl, fun f hf => by
    rw [List.mem_singleton.mp hf]
    exact ⟨htype, belongsTo_emitted hnames⟩⟩

theorem foldl [Framed R] {α : Type} {f : Sink → α → Sink}
    (hf : ∀ k x, Emits R responseId k (f k x)) (xs : List α) :
    ∀ k, Emits R responseId k (xs.foldl f k) := by
  induction xs with
  | nil => exact refl
  | cons x xs ih => exact fun k => (hf k x).trans (ih _)

end Emits

/-- The response goes on, and nothing of it has been settled anew. -/
abbrev Continues := Emits Steady

/-- The response goes on without a word of a call. -/
abbrev Narrates := Emits Untouched

theorem Emits.continues {responseId : String} {k k' : Sink} (h : Emits Untouched responseId k k') :
    Continues responseId k k' := ⟨h.kept.toSteady, h.out⟩

/-! ## The places of the items -/

theorem untouched_reasoningIndex (s : StreamState) :
    Untouched s (responsesReasoningOutputIndex s).2 := by
  unfold responsesReasoningOutputIndex
  split
  · exact .refl s
  · exact ⟨⟨rfl, rfl, id⟩, rfl⟩

theorem untouched_messageIndex (s : StreamState) :
    Untouched s (responsesMessageOutputIndex s).2 := by
  unfold responsesMessageOutputIndex
  split
  · exact .refl s
  · exact ⟨⟨rfl, rfl, id⟩, rfl⟩

theorem steady_toolIndex (s : StreamState) (tcIdx : Nat) :
    Steady s (responsesToolOutputIndex s tcIdx).2 := by
  unfold responsesToolOutputIndex
  split
  · exact .refl s
  · exact ⟨rfl, rfl, id⟩

/-! ## Messages -/

theorem narrates_ensureMessageItem (env : Env) (responseId : String) (outputIndex : Nat) (k : Sink) :
    Narrates responseId k (ensureResponsesMessageItemAdded env responseId outputIndex k) := by
  unfold ensureResponsesMessageItemAdded
  split
  · exact .refl k
  · exact ((Emits.refl k).update ⟨⟨rfl, rfl, id⟩, rfl⟩).emit (by decide) (by simp)

theorem narrates_ensureMessagePart (responseId : String) (outputIndex : Nat)
    (kind : ResponsesMessagePartKind) (k : Sink) :
    Narrates responseId k (ensureResponsesMessagePart responseId outputIndex kind k).2 := by
  have hadded : Untouched k.state (addPart kind k.state) := by
    cases kind with
    | outputText => exact ⟨⟨rfl, rfl, id⟩, rfl⟩
    | refusal => exact ⟨⟨rfl, rfl, id⟩, rfl⟩
  unfold ensureResponsesMessagePart
  split
  · exact .refl k
  · exact ((Emits.refl k).update hadded).emit (by decide) (by simp)

theorem narrates_emitPartDone (responseId : String) (outputIndex : Nat) (itemId : String)
    (contentIndex : Nat) (part : ResponsesMessagePartState) (k : Sink) :
    Narrates responseId k (emitPartDone responseId outputIndex itemId contentIndex part k) :=
  ((Emits.refl k).emit (by cases part.kind <;> decide)
    (by cases hkind : part.kind <;> simp [ResponsesMessagePartKind.textField])).emit
    (by decide) (by simp)

theorem narrates_emitPartsDone (responseId : String) (outputIndex : Nat) (itemId : String)
    (parts : List ResponsesMessagePartState) :
    ∀ (contentIndex : Nat) (k : Sink),
      Narrates responseId k (emitPartsDone responseId outputIndex itemId contentIndex parts k) := by
  induction parts with
  | nil => exact fun _ k => .refl k
  | cons part parts ih =>
    exact fun contentIndex k => (narrates_emitPartDone _ _ _ contentIndex part k).trans (ih _ _)

theorem narrates_emitMessageDone (responseId : String) (phase : Option String) (k : Sink) :
    Narrates responseId k (emitResponsesMessageDone responseId phase k) := by
  unfold emitResponsesMessageDone
  split
  · exact .refl k
  · refine Emits.update (Emits.emit ?_ (by decide) (by simp)) ⟨⟨rfl, rfl, ?_⟩, rfl⟩
    · exact (Emits.state (untouched_messageIndex _)).trans (narrates_emitPartsDone _ _ _ _ _ _)
    -- The message that is done joins the items.
    · intro hmessages message hmessage
      rcases List.mem_append.mp hmessage with hmessage | hmessage
      · exact hmessages message hmessage
      · rw [List.mem_singleton.mp hmessage]
        exact Value.getStr_ofFields _ _

theorem narrates_ensurePart (env : Env) (responseId : String) (kind : ResponsesMessagePartKind)
    (k : Sink) : Narrates responseId k (ensurePart env responseId kind k).2.2 :=
  ((Emits.state (untouched_messageIndex _)).trans
    (narrates_ensureMessageItem _ _ _ _)).trans (narrates_ensureMessagePart _ _ _ _)

theorem narrates_messageDelta (env : Env) (responseId : String) (kind : ResponsesMessagePartKind)
    (text : Option String) (annotations : List Value) (k : Sink) :
    Narrates responseId k (messageDelta env responseId kind text annotations k) := by
  unfold messageDelta
  split
  · exact .refl k
  · exact ((narrates_ensurePart env responseId kind k).update ⟨⟨rfl, rfl, id⟩, rfl⟩).emit
      (by cases kind <;> decide) (by simp)

theorem narrates_annotations (env : Env) (responseId : String) (annotations : List Value)
    (hadContentDelta : Bool) (k : Sink) :
    Narrates responseId k (annotationsResponses env responseId annotations hadContentDelta k) := by
  unfold annotationsResponses
  split
  · exact .refl k
  · exact (narrates_ensurePart env responseId .outputText k).update ⟨⟨rfl, rfl, id⟩, rfl⟩

theorem narrates_appendDegraded (env : Env) (responseId : String) (texts : List String) (k : Sink) :
    Narrates responseId k (appendDegradedTexts env responseId texts k) := by
  unfold appendDegradedTexts
  split
  · exact .refl k
  · exact (narrates_ensurePart env responseId .outputText k).update ⟨⟨rfl, rfl, id⟩, rfl⟩

/-! ## Reasoning -/

theorem narrates_ensureReasoning (env : Env) (responseId : String) (outputIndex : Nat) (k : Sink) :
    Narrates responseId k (ensureReasoningItem env responseId outputIndex k) := by
  unfold ensureReasoningItem
  split
  · exact .refl k
  · exact (((Emits.refl k).update ⟨⟨rfl, rfl, id⟩, rfl⟩).emit (by decide) (by simp)).emit
      (by decide) (by simp)

theorem narrates_reasoning (env : Env) (responseId : String) (reasoning : Option String) (k : Sink) :
    Narrates responseId k (reasoningResponses env responseId reasoning k) := by
  unfold reasoningResponses
  split
  · exact .refl k
  · next reasoning _ =>
    have hseen : Untouched k.state { k.state with
        responsesReasoningText := k.state.responsesReasoningText ++ reasoning } :=
      ⟨⟨rfl, rfl, id⟩, rfl⟩
    refine Emits.emit (Emits.trans ?_ (narrates_ensureReasoning _ _ _ _)) (by decide) (by simp)
    exact Emits.state (hseen.trans (untouched_reasoningIndex _))

theorem narrates_reasoningDone (responseId : String) (carrier : Option String) (k : Sink) :
    Narrates responseId k (emitReasoningDone responseId carrier k) := by
  unfold emitReasoningDone
  split
  · have hdone : Untouched k.state { k.state with responsesReasoningDone := true } :=
      ⟨⟨rfl, rfl, id⟩, rfl⟩
    refine Emits.emit (Emits.emit (Emits.emit ?_ (by decide) (by simp)) (by decide) (by simp))
      (by decide) (by simp)
    exact Emits.state (hdone.trans (untouched_reasoningIndex _))
  · exact .refl k

/-! ## Tool calls -/

theorem narrates_toolCallDelta {responseId : String} {event : ResponsesToolCallEvent}
    (hid : event.responseId = responseId) (delta : String) (k : Sink) :
    Narrates responseId k (emitResponsesToolCallDelta event delta k) := by
  unfold emitResponsesToolCallDelta
  split
  · exact .refl k
  · refine (Emits.refl k).emit ?_ (by simp [hid])
    unfold responsesToolCallDeltaEventType
    split <;> decide

theorem narrates_toolCallAdded {responseId : String} {event : ResponsesToolCallEvent}
    (hid : event.responseId = responseId) (k : Sink) :
    Narrates responseId k (emitResponsesToolCallItemAdded event k) :=
  (Emits.refl k).emit (by decide) (by simp [hid])

theorem continues_flushToolCall (env : Env) (responseId : String) (finalize : Bool) (k : Sink)
    (tcIdx : Nat) :
    Continues responseId k (flushPendingResponsesToolCall env responseId finalize k tcIdx) := by
  have hindex : Continues responseId k
      { k with state := (responsesToolOutputIndex k.state tcIdx).2 } :=
    Emits.state (steady_toolIndex _ _)
  simp only [flushPendingResponsesToolCall]
  split
  · exact hindex
  · split
    · exact hindex
    · split
      · exact hindex
      · exact (hindex.update ⟨rfl, rfl, id⟩).trans
          ((narrates_toolCallAdded (by rfl) _).trans (narrates_toolCallDelta (by rfl) _ _)).continues

theorem continues_flushToolCalls (env : Env) (responseId : String) (finalize : Bool) (k : Sink) :
    Continues responseId k (flushPendingResponsesToolCalls env responseId finalize k) :=
  Emits.foldl (continues_flushToolCall env responseId finalize) _ k

theorem narrates_toolCallDone (env : Env) (responseId : String) (context : TerminalContext) (k : Sink)
    (done : ResponsesToolCallDone) :
    Narrates responseId k (emitResponsesToolCallDone env responseId context k done) := by
  refine Emits.emit ((Emits.refl k).emit ?_ ?_) (by decide) (by simp)
  · unfold responsesToolCallDoneEventType
    split <;> decide
  · have hnamespace := @namesResponse_optional responseId "namespace" (by decide) (by decide)
      done.namespaceName
    unfold responsesToolCallPayloadField
    split <;> simp [hnamespace]

theorem continues_pendingDone (env : Env) (responseId : String) (context : TerminalContext)
    (includeDegraded : Bool) (k : Sink) :
    Continues responseId k
      (emitPendingResponsesToolCallDoneEvents env responseId context includeDegraded k).2 :=
  ((Emits.refl k).update ⟨rfl, rfl, id⟩).trans
    (Emits.foldl (narrates_toolCallDone env responseId context) _ _).continues

theorem continues_toolCall (env : Env) (responseId : String) (tc : Value) (k : Sink) :
    Continues responseId k (toolCallResponses env responseId tc k) := by
  have hmerged : ∀ toolCalls, Continues responseId k { k with
      state := { (responsesToolOutputIndex k.state (responsesToolCallIndex tc)).2 with
        openaiToolCalls := toolCalls } } :=
    fun _ => Emits.state ((steady_toolIndex _ _).trans ⟨rfl, rfl, id⟩)
  simp only [toolCallResponses]
  split
  · exact hmerged _
  · have hflushed := fun toolCalls => (hmerged toolCalls).trans
      (continues_flushToolCall env responseId false _ (responsesToolCallIndex tc))
    split <;> split
    · exact (hflushed _).trans (narrates_toolCallDelta (by rfl) _ _).continues
    · exact (hmerged _).trans (narrates_toolCallDelta (by rfl) _ _).continues
    · exact hflushed _
    · exact hmerged _

/-! ## A chunk -/

theorem untouched_captureError (chunk : Value) (s : StreamState) :
    Untouched s (captureError chunk s) := by
  unfold captureError
  split
  · exact ⟨⟨rfl, rfl, id⟩, rfl⟩
  · exact .refl s

theorem narrates_start (c : ResponsesChunk) (k : Sink) :
    Narrates c.responseId k (startResponses c k) := by
  unfold startResponses
  split
  · exact .refl k
  · exact (((Emits.refl k).update
      ⟨⟨rfl, rfl, fun _ message hmessage => (nomatch hmessage)⟩, rfl⟩).emit (by decide)
      (by simp [Value.getStr_ofFields])).emit (by decide) (by simp [Value.getStr_ofFields])

theorem untouched_deltas (delta : Value) (s : StreamState) :
    Untouched s (openaiChunkReasoningDelta delta s).2 ∧
      Untouched s (openaiChunkContentDelta delta s).2 ∧
      Untouched s (openaiChunkRefusalDelta delta s).2 := by
  refine ⟨?_, ?_, ?_⟩
  · unfold openaiChunkReasoningDelta
    split
    · exact .refl s
    · exact ⟨⟨rfl, rfl, id⟩, rfl⟩
  · unfold openaiChunkContentDelta
    split
    · exact .refl s
    · exact ⟨⟨rfl, rfl, id⟩, rfl⟩
  · unfold openaiChunkRefusalDelta
    split
    · exact .refl s
    · exact ⟨⟨rfl, rfl, id⟩, rfl⟩

/-- The reasoning, the content, its annotations and the refusal of a chunk. -/
theorem narrates_texts (env : Env) (c : ResponsesChunk) (k : Sink) :
    Narrates c.responseId k (textsResponses env c k) :=
  ((((Emits.state (untouched_deltas _ _).1).trans (narrates_reasoning _ _ _ _)).trans
    -- What has been seen of the content and the refusal is written down first.
    (Emits.state ((untouched_deltas _ _).2.1.trans (untouched_deltas _ _).2.2))).trans
    (narrates_messageDelta _ _ _ _ _ _)).trans
    ((narrates_annotations _ _ _ _ _).trans (narrates_messageDelta _ _ _ _ _ _))

end LlmUniversalProxy.Streaming
