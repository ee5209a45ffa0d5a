import LlmUniversalProxy.Streaming.Folded
import LlmUniversalProxy.Streaming.ResponsesSource

/-!
# `Streaming.ResponsesRendering` — the event streams of a Responses response

One response can be told in many streams: its texts are cut into deltas anywhere, and events of
other types may stand in between. `RendersResponse` has them, item by item, in the order of the
output: an item is announced before its deltas, its deltas come together, and the last event carries
the whole response. Calls whose events come in between each other are left to
`Streaming.InterleavedCalls`.

`Folded` is what a Chat client has made of its chunks; `Says` is what some of them have added. A
stream that has been rejected adds nothing more, whatever comes (`Refused.step`).
-/

set_option autoImplicit false

namespace LlmUniversalProxy.Streaming

open Json Lib Translate

/-! ## Renderings of a response -/

/-- The event types that add to a text, start a call or end the response. -/
def spokenEventTypes : List String :=
  ["response.created", "response.output_text.delta", "response.reasoning_summary_text.delta",
    "response.output_item.added", "response.function_call_arguments.delta",
    "response.custom_tool_call_input.delta", "response.custom_tool_call_input.done",
    "response.completed", "response.incomplete", "response.failed"]

/-- Any other event, a refusal among them, as long as it is not about audio. -/
def IsQuiet (event : Value) : Prop :=
  Text.startsWith ((event.getStr "type").getD "") "response.audio." = false ∧
    (event.getStr "type").getD "" ∉ spokenEventTypes

def IsDelta (eventType : String) (event : Value) (piece : String) : Prop :=
  event.getStr "type" = some eventType ∧ event.getStr "delta" = some piece

/-- An event that brings the next piece of a call's arguments. -/
def IsArgumentsDelta (index : Nat) (itemId : String) (event : Value) (piece : String) : Prop :=
  IsDelta "response.function_call_arguments.delta" event piece ∧
    event.getU64 "output_index" = some index ∧ event.getStr "item_id" = some itemId

/-- A text, cut into events. -/
inductive Pieces (IsPiece : Value → String → Prop) : List Value → String → Prop
  | nil : Pieces IsPiece [] ""
  | piece {event : Value} {events : List Value} {text rest : String}
      (hpiece : IsPiece event text) (hrest : Pieces IsPiece events rest) :
      Pieces IsPiece (event :: events) (text ++ rest)
  | quiet {event : Value} {events : List Value} {rest : String}
      (hquiet : IsQuiet event) (hrest : Pieces IsPiece events rest) :
      Pieces IsPiece (event :: events) rest

/-- The event that announces an item. -/
structure IsAdded (index : Nat) (event item : Value) : Prop where
  type : event.getStr "type" = some "response.output_item.added"
  item : event.get "item" = some item
  index : event.getU64 "output_index" = some index

def outputTextParts (item : Value) : List Value :=
  ((item.getArray "content").getD []).filter fun part => part.getStr "type" = some "output_text"

def messageTexts (item : Value) : List String :=
  if item.getStr "type" = some "message" then
    (outputTextParts item).map fun part => (part.getStr "text").getD ""
  else []

def summaryText (item : Value) : String :=
  if item.getStr "type" = some "reasoning" then
    String.join (((item.getArray "summary").getD []).filterMap (Value.getStr · "text"))
  else ""

/-- The events of the items from `index` on, one item behind the other. An announced item is only as
complete as the type, the identity and the beginning of the arguments; `used` are the ids of the
calls before it. -/
inductive RendersItems : Nat → List String → List Value → List Value → Prop
  | nil {index : Nat} {used : List String} : RendersItems index used [] []
  | quiet {index : Nat} {used : List String} {items events : List Value} {event : Value}
      (hquiet : IsQuiet event) (hrest : RendersItems index used items events) :
      RendersItems index used items (event :: events)
  | message {index : Nat} {used : List String} {items events deltas : List Value}
      {item added started : Value} (htype : item.getStr "type" = some "message")
      (hannotations : ∀ part ∈ outputTextParts item, (part.getArray "annotations").getD [] = [])
      (hadded : IsAdded index added started) (hstarted : started.getStr "type" = some "message")
      (hdeltas : Pieces (IsDelta "response.output_text.delta") deltas
        (String.join (messageTexts item)))
      (hrest : RendersItems (index + 1) used items events) :
      RendersItems index used (item :: items) (added :: (deltas ++ events))
  | reasoning {index : Nat} {used : List String} {items events deltas : List Value}
      {item added started : Value} (htype : item.getStr "type" = some "reasoning")
      (hadded : IsAdded index added started) (hstarted : started.getStr "type" = some "reasoning")
      (hdeltas : Pieces (IsDelta "response.reasoning_summary_text.delta") deltas
        (summaryText item))
      (hrest : RendersItems (index + 1) used items events) :
      RendersItems index used (item :: items) (added :: (deltas ++ events))
  | call {index : Nat} {used : List String} {items events deltas : List Value}
      {item added started : Value} {itemId callId name arguments rest : String}
      (htype : item.getStr "type" = some "function_call")
      (hcallId : item.getStr "call_id" = some callId) (hname : item.getStr "name" = some name)
      (harguments : item.getStr "arguments" = some arguments)
      (hadded : IsAdded index added started)
      (hstarted : started.getStr "type" = some "function_call")
      (hitemId : started.getStr "id" = some itemId) (hfresh : itemId ∉ used)
      (hstartedCallId : started.getStr "call_id" = some callId)
      (hstartedName : started.getStr "name" = some name)
      (hdeltas : Pieces (IsArgumentsDelta index itemId) deltas rest)
      (hcut : (started.getStr "arguments").getD "" ++ rest = arguments)
      (hrest : RendersItems (index + 1) (itemId :: used) items events) :
      RendersItems index used (item :: items) (added :: (deltas ++ events))
  | hosted {index : Nat} {used : List String} {items events : List Value}
      {item added started : Value} {itemType : String} (htype : item.getStr "type" = some itemType)
      (hhosted : responsesHostedOutputItemType itemType = true)
      (hadded : IsAdded index added started) (hstarted : started.getStr "type" = some itemType)
      (hrest : RendersItems (index + 1) used items events) :
      RendersItems index used (item :: items) (added :: events)

def terminalEventType (status : Option String) : String :=
  match status with
  | some "incomplete" => "response.incomplete"
  | some "failed" => "response.failed"
  | _ => "response.completed"

/-- The events of a response with these items. -/
structure RendersResponse (body : Value) (items events : List Value) : Prop where
  output : body.get "output" = some (.array items)
  rendered : ∃ created ended itemEvents, RendersItems 0 [] items itemEvents ∧
    created.getStr "type" = some "response.created" ∧
    ended.getStr "type" = some (terminalEventType (body.getStr "status")) ∧
    ended.get "response" = some body ∧ events = created :: (itemEvents ++ [ended])

/-! ## What the items say -/

def isCallItem (item : Value) : Bool := item.getStr "type" = some "function_call"

def streamedCall (index : Nat) (item : Value) : FoldedCall :=
  ⟨index, item.getStr "call_id", item.getStr "name", (item.getStr "arguments").getD ""⟩

/-- The calls of a stream, the first of them under the index `n`. -/
def streamedCalls (n : Nat) (items : List Value) : List FoldedCall :=
  (items.filter isCallItem).mapIdx fun i item => streamedCall (n + i) item

def textsOf (items : List Value) : String := String.join (items.flatMap messageTexts)

/-- The summaries of the items, put together. -/
def summariesOf (items : List Value) : String := String.join (items.map summaryText)

theorem textsOf_cons (item : Value) (items : List Value) :
    textsOf (item :: items) = String.join (messageTexts item) ++ textsOf items := by
  simp [textsOf]

theorem summariesOf_cons (item : Value) (items : List Value) :
    summariesOf (item :: items) = summaryText item ++ summariesOf items := by
  simp [summariesOf]

theorem messageTexts_other (item : Value) (h : item.getStr "type" ≠ some "message") :
    messageTexts item = [] := if_neg h

theorem summaryText_other (item : Value) (h : item.getStr "type" ≠ some "reasoning") :
    summaryText item = "" := if_neg h

/-- The call has a name of the proxy's own. -/
def hasReservedName (item : Value) : Bool :=
  isCallItem item &&
    openaiResponsesCustomToolBridgePrefixIsReserved ((item.getStr "name").getD "")

@[simp] theorem streamedCalls_nil (n : Nat) : streamedCalls n [] = [] := rfl

theorem streamedCalls_call {item : Value} (h : isCallItem item = true) (n : Nat)
    (items : List Value) :
    streamedCalls n (item :: items) = streamedCall n item :: streamedCalls (n + 1) items := by
  unfold streamedCalls
  rw [List.filter_cons_of_pos h, List.mapIdx_cons]
  simp only [Nat.add_zero, Nat.add_assoc, Nat.add_comm 1]

theorem streamedCalls_other {item : Value} (h : isCallItem item = false) (n : Nat)
    (items : List Value) : streamedCalls n (item :: items) = streamedCalls n items := by
  unfold streamedCalls
  rw [List.filter_cons_of_neg (by simp [h])]

/-! ## What a client is told -/

/-- From `f` to `g` a client has been told these texts, and now has these calls. -/
structure Says (f g : Folded) (content reasoning : String) (calls : List FoldedCall) : Prop where
  content : g.content = f.content ++ content
  reasoning : g.reasoning = f.reasoning ++ reasoning
  calls : g.toolCalls = calls
  finish : g.finishReason = f.finishReason

theorem Says.refl (f : Folded) : Says f f "" "" f.toolCalls :=
  ⟨by simp, by simp, rfl, rfl⟩

theorem Says.trans {f g h : Folded} {content reasoning content' reasoning' : String}
    {calls calls' : List FoldedCall} (hfg : Says f g content reasoning calls)
    (hgh : Says g h content' reasoning' calls') :
    Says f h (content ++ content') (reasoning ++ reasoning') calls' := by
  refine ⟨?_, ?_, hgh.calls, hgh.finish.trans hfg.finish⟩
  · rw [hgh.content, hfg.content, String.append_assoc]
  · rw [hgh.reasoning, hfg.reasoning, String.append_assoc]

/-- A field beside the ones a client reads. -/
theorem ofDelta_set (idx : Nat) (toolCall x : Value) {k : String} (hid : "id" ≠ k)
    (hfunction : "function" ≠ k) :
    FoldedCall.ofDelta idx (toolCall.set k x) = FoldedCall.ofDelta idx toolCall := by
  unfold FoldedCall.ofDelta Value.getStr
  rw [Value.get_set_of_ne toolCall x hid, Value.get_set_of_ne toolCall x hfunction]

/-- A new call goes behind the ones there are. -/
theorem appendCall_new {delta : FoldedCall} {calls : List FoldedCall}
    (h : ∀ call ∈ calls, call.index ≠ delta.index) : appendCall delta calls = calls ++ [delta] := by
  induction calls with
  | nil => rfl
  | cons call calls ih =>
    rw [appendCall, if_neg (h call List.mem_cons_self),
      ih fun c hc => h c (List.mem_cons_of_mem _ hc), List.cons_append]

/-- A further piece goes to the call that is last. -/
theorem appendCall_last {delta call : FoldedCall} {calls : List FoldedCall}
    (h : ∀ c ∈ calls, c.index ≠ delta.index) (hcall : call.index = delta.index) :
    appendCall delta (calls ++ [call]) = calls ++ [call.append delta] := by
  induction calls with
  | nil => simp [appendCall, hcall]
  | cons c calls ih =>
    rw [List.cons_append, appendCall, if_neg (h c List.mem_cons_self),
      ih fun d hd => h d (List.mem_cons_of_mem _ hd), List.cons_append]

/-! ## A stream that has been rejected

Every later event leaves it at that: no chunk but the rejection's has a finish reason any more. -/

structure Refused (s : StreamState) (f : Folded) : Prop where
  rejected : s.fatalRejection.isSome = true
  sent : s.finishReasonSent = true
  told : f.finishReason = some "error"

section

variable (env : Env) {s : StreamState} {f : Folded} {event : Value}

theorem Refused.push {k : Source} (h : Refused k.state (k.folds f)) (delta : Value) :
    Refused (k.push env delta).state ((k.push env delta).folds f) := by
  refine ⟨h.rejected, h.sent, ?_⟩
  rw [folds_push]
  exact h.told

theorem Refused.ensureRole {k : Source} (h : Refused k.state (k.folds f)) :
    Refused (k.ensureRole env).state ((k.ensureRole env).folds f) := by
  rw [folds_ensureRole]
  refine ⟨?_, ?_, h.told⟩
  · unfold Source.ensureRole emitOpenaiAssistantRoleIfNeeded
    split
    · exact h.rejected
    · exact h.rejected
  · unfold Source.ensureRole emitOpenaiAssistantRoleIfNeeded
    split
    · exact h.sent
    · exact h.sent

/-- A rejection is what the client is told last. -/
theorem refused_reject (errorType code message : String) (f : Folded) :
    Refused (rejectOpenaiStream env s errorType code message).2
      ((rejectOpenaiStream env s errorType code message).1.foldl Folded.feed f) := by
  refine ⟨?_, rfl, ?_⟩
  · show (s.fatalRejection.or (some _)).isSome = true
    simp
  · show (Folded.feed f (Value.set _ "error" _)).finishReason = _
    rw [feed_set _ _ (by decide)]
    split
    · rw [feed_set _ _ (by decide), feed_openaiChunk]
      rfl
    · rw [feed_openaiChunk]
      rfl

theorem Refused.pushText (h : Refused s f) (field : String) (text : Option String) :
    Refused (pushText env field text s).state ((pushText env field text s).folds f) := by
  unfold Streaming.pushText
  split
  · exact h
  · exact Refused.push env (k := ⟨s, []⟩) h _

theorem Refused.refusalEvent (h : Refused s f) (rawRefusal : Option String) :
    Refused (refusalEvent env rawRefusal s).state ((refusalEvent env rawRefusal s).folds f) := by
  unfold Streaming.refusalEvent
  refine Refused.pushText env ?_ _ _
  exact ⟨h.rejected, h.sent, h.told⟩

theorem Refused.toolCallAdded (h : Refused s f) (item : Value) (isCustom : Bool) :
    Refused (toolCallAdded env event item isCustom s).state
      ((toolCallAdded env event item isCustom s).folds f) := by
  unfold Streaming.toolCallAdded
  split
  · exact refused_reject env _ _ _ f
  · simp only [Source.pushToolCall]
    refine Refused.push env ?_ _
    exact ⟨h.rejected, h.sent, h.told⟩

theorem Refused.toolCallDelta (h : Refused s f) (isCustom : Bool) :
    Refused (toolCallDeltaEvent env event isCustom s).state
      ((toolCallDeltaEvent env event isCustom s).folds f) := by
  unfold toolCallDeltaEvent
  split
  · exact h
  · simp only [Source.pushToolCall]
    refine Refused.push env ?_ _
    exact ⟨h.rejected, h.sent, h.told⟩

theorem Refused.closeCustomToolCall {k : Source} (h : Refused k.state (k.folds f)) (idx : Nat)
    (id : ToolCallState → Value) (fullInput : ToolCallState → String) :
    Refused (closeCustomToolCall env idx id fullInput k).state
      ((closeCustomToolCall env idx id fullInput k).folds f) := by
  unfold Streaming.closeCustomToolCall
  split
  · exact h
  · split
    · exact h
    · refine Refused.push env ?_ _
      exact ⟨h.rejected, h.sent, h.told⟩

theorem Refused.closeFinalCustomCalls (items : List Value) : ∀ {k : Source},
    Refused k.state (k.folds f) →
    Refused (items.foldl (closeFinalCustomCall env) k).state
      ((items.foldl (closeFinalCustomCall env) k).folds f) := by
  induction items with
  | nil =>
    intro k h
    exact h
  | cons item items ih =>
    intro k h
    refine ih ?_
    unfold closeFinalCustomCall
    split
    · exact h
    · split
      · exact h
      · exact h.closeCustomToolCall env _ _ _

theorem captureResponse_keeps (event : Value) (s : StreamState) :
    (captureResponse event s).fatalRejection = s.fatalRejection ∧
      (captureResponse event s).finishReasonSent = s.finishReasonSent ∧
      (captureResponse event s).openaiToolCalls = s.openaiToolCalls := by
  unfold captureResponse
  split
  · exact ⟨rfl, rfl, rfl⟩
  · simp only
    split
    · exact ⟨rfl, rfl, rfl⟩
    · exact ⟨rfl, rfl, rfl⟩

theorem Refused.responseEnded (h : Refused s f) (ty : String) :
    Refused (responseEnded env ty event s).state ((responseEnded env ty event s).folds f) := by
  have hclosed := Refused.closeFinalCustomCalls env (responseOutput event) (k := ⟨s, []⟩) h
  obtain ⟨hrejected, hsent, _⟩ := captureResponse_keeps event
    ((responseOutput event).foldl (closeFinalCustomCall env) ⟨s, []⟩).state
  unfold Streaming.responseEnded responsesTerminalCustomToolBridgeChunk
  simp only [Source.update_state, hsent, hclosed.sent, if_true]
  exact ⟨hrejected ▸ hclosed.rejected, hsent ▸ hclosed.sent, hclosed.told⟩

/-- **A rejected stream stays rejected**, whatever event comes. -/
theorem Refused.step (h : Refused s f) (event : Value) :
    Refused (responsesEventToOpenaiChunks env event s).state
      ((responsesEventToOpenaiChunks env event s).folds f) := by
  unfold responsesEventToOpenaiChunks
  simp only
  split
  · exact refused_reject env _ _ _ f
  · split
    · exact Refused.ensureRole env (k := ⟨_, []⟩) ⟨h.rejected, h.sent, h.told⟩
    · exact h.pushText env _ _
    · exact h.refusalEvent env _
    · exact h.refusalEvent env _
    · exact h.pushText env _ _
    · unfold outputItemAddedEvent
      simp only
      split
      · exact h.toolCallAdded env _ _
      · exact h.toolCallAdded env _ _
      · exact h
    · exact h.toolCallDelta env _
    · exact h.toolCallDelta env _
    · exact Refused.closeCustomToolCall env (k := ⟨s, []⟩) h _ _ _
    · exact h.responseEnded env _
    · exact h.responseEnded env _
    · exact h.responseEnded env _
    · exact h

theorem Refused.events (events : List Value) : ∀ {p : StreamState × Folded}, Refused p.1 p.2 →
    Refused (foldEvents (responsesEventToOpenaiChunks env) events p).1
      (foldEvents (responsesEventToOpenaiChunks env) events p).2 := by
  induction events with
  | nil =>
    intro p h
    exact h
  | cons event events ih =>
    intro p h
    exact ih (h.step env event)

end

end LlmUniversalProxy.Streaming
