import LlmUniversalProxy.Lib.Monitor
import LlmUniversalProxy.Lib.Slots
import LlmUniversalProxy.Streaming.CallChunks

/-!
# `Streaming.ResponsesOutput` — the list of items that Responses events tell of

A Responses client builds the output from the events: an item is added under an index, spoken of
by its id, and done; the last event repeats the whole list. `ResponsesOutput` is that client, and it
refuses an event that does not belong where it comes. On the other side stands the state of the
sink, in which the items are scattered: reasoning, the open message, the messages that are complete
and the calls each have fields of their own. `board` reads them as the holders of the numbers, and
`Tells` says that the client has been told what the board shows.
-/

set_option autoImplicit false

namespace LlmUniversalProxy.Streaming

open Json Lib Translate

/-! ## The client -/

/-- The output of a response as far as it has been told: items are opened by their ids. -/
structure ResponsesOutput where
  seq : Nat := 0
  items : Slots.Told Value Value := {}
  ended : Bool := false

/-- The events that speak of an item that is open. -/
def itemEventTypes : List String :=
  ["response.content_part.added", "response.content_part.done", "response.output_text.delta",
    "response.output_text.done", "response.refusal.delta", "response.refusal.done",
    "response.reasoning_summary_part.added", "response.reasoning_summary_part.done",
    "response.reasoning_summary_text.delta", "response.reasoning_summary_text.done",
    "response.function_call_arguments.delta", "response.function_call_arguments.done",
    "response.custom_tool_call_input.delta", "response.custom_tool_call_input.done"]

namespace ResponsesOutput

def heard (items : Slots.Told Value Value) (eventType : String) (event : Value) :
    Option (Slots.Told Value Value) := do
  let index ← event.getU64 "output_index"
  if eventType = "response.output_item.added" then
    items.add index (← (← event.get "item").get "id")
  else if eventType = "response.output_item.done" then
    let item ← event.get "item"
    items.finish index (← item.get "id") item
  else if eventType ∈ itemEventTypes then items.inside index (← event.get "item_id")
  else none

/-- The last event repeats the items that are done, and leaves none open; but a failure may come
without them. -/
def Agrees (m : ResponsesOutput) (eventType : String) (event : Value) : Prop :=
  let output := ((event.get "response").bind (Value.getArray · "output")).getD []
  (eventType = "response.failed" ∧ output = []) ∨
    (m.items.opened = [] ∧ output = Slots.inOrder m.items.done)

instance (m : ResponsesOutput) (eventType : String) (event : Value) :
    Decidable (m.Agrees eventType event) := inferInstanceAs (Decidable (_ ∨ _))

/-- What an event does to the output; `none` for an event that may not come. The events are counted,
the response is created and in progress before there is an item, and nothing follows its end. -/
def step (m : ResponsesOutput) : SseFrame → Option ResponsesOutput
  | .event eventType event =>
      if m.ended = true ∨ event.get "sequence_number" ≠ some (.nat (m.seq + 1)) then none
      else if eventType = "response.created" then
        if m.seq = 0 then some { m with seq := 1 } else none
      else if eventType = "response.in_progress" then
        if m.seq = 1 then some { m with seq := 2 } else none
      else if isTerminalType eventType then
        if m.Agrees eventType event then some { m with seq := m.seq + 1, ended := true } else none
      else if m.seq < 2 then none
      else (heard m.items eventType event).map fun items =>
        { m with seq := m.seq + 1, items := items }
  | _ => none

end ResponsesOutput

/-! ## The sink's view -/

/-- Who has an item. -/
inductive Holder where
  | reasoning
  | message
  | past (n : Nat)
  | call (index : Nat)
  deriving DecidableEq

/-- The item of a call that has been added and is not done. -/
def ToolCallState.openItem (self : ToolCallState) : Option Value :=
  if self.responsesItemAdded = true ∧ self.responsesDone = false then
    (self.id.bind Value.asStr).map fun id => .string s!"fc_{id}"
  else none

def ToolCallState.finalItem (env : Env) (context : TerminalContext) (self : ToolCallState) :
    Option Value :=
  if self.responsesDone then
    (self.id.bind Value.asStr).map fun id => doneItem env context (self.done id)
  else none

/-- The items as the state has them; the carrier is what the reasoning is done with. One slot for
the reasoning, one for the open message, and one for each message or call that there has been. -/
def board (env : Env) (context : TerminalContext) (carrier : Option String) (s : StreamState) :
    Slots.Board Holder Value Value where
  next := s.responsesNextOutputIndex
  index
    | .reasoning => s.responsesReasoningOutputIndex
    | .message => s.responsesMessageOutputIndex
    | .past n => s.responsesCompletedMessageItems[n]?.map ResponsesCompletedMessageState.outputIndex
    | .call t => (s.openaiToolCalls.lookup t).bind ToolCallState.blockIndex
  opened
    | .reasoning => if s.responsesReasoningAdded = true ∧ s.responsesReasoningDone = false then
        s.responsesReasoningId.map Value.string else none
    | .message => if s.outputItemAdded then s.outputItemId.map Value.string else none
    | .past _ => none
    | .call t => (s.openaiToolCalls.lookup t).bind ToolCallState.openItem
  done
    | .reasoning => if s.responsesReasoningDone then some (reasoningItem s carrier) else none
    | .message => none
    | .past n => s.responsesCompletedMessageItems[n]?.map ResponsesCompletedMessageState.item
    | .call t => (s.openaiToolCalls.lookup t).bind (ToolCallState.finalItem env context)

/-- What the stream has come to: how it ends for the calls, what the reasoning is done with, the
finish reason, what the stream is refused for, whether the end is being told, and whether a message
is being filled. -/
structure Phase where
  context : TerminalContext := ⟨none, false⟩
  carrier : Option String := none
  finish : Option String := none
  fatal : Option String := none
  closing : Bool := false
  filling : Bool := false

/-- The stream has been finished, and not for a reason that leaves it incomplete. -/
def EndsWhole (finish : Option String) : Prop :=
  finish.isSome = true ∧ incompleteReason finish = none

/-- A call of the state, whose id is one that belongs to its index. -/
structure CallSound (id : String) (entry : ToolCallState) : Prop where
  placed : entry.blockIndex.isSome = true
  unmarked : entry.nonReplayableMarker = none
  named : entry.id = none ∨ entry.id = some (.string id)
  added : entry.responsesItemAdded = true → entry.id = some (.string id)
  done : entry.responsesDone = true → entry.responsesItemAdded = true

/-- What holds of the state by itself. -/
structure Sound (ids : Nat → String) (p : Phase) (s : StreamState) : Prop where
  started : 2 ≤ s.responsesSeq
  created : s.responsesStarted = true
  running : s.responsesTerminalSent = false
  finish : s.finishReason = p.finish
  fatal : s.fatalRejection = p.fatal
  reasoning : s.responsesReasoningAdded = true →
    s.responsesReasoningOutputIndex.isSome = true ∧ s.responsesReasoningId.isSome = true
  reasoningDone : s.responsesReasoningDone = (p.closing && s.responsesReasoningAdded)
  message : s.outputItemAdded = true →
    s.responsesMessageOutputIndex.isSome = true ∧ s.outputItemId.isSome = true
  parts : ∀ kind index, existingPartIndex s kind = some index →
    index < s.responsesMessageParts.length
  filled : p.filling = false → s.outputItemAdded = true →
    responsesMessageHasMeaningfulContent s = true
  calls : ∀ t entry, s.openaiToolCalls.lookup t = some entry → CallSound (ids t) entry
  settled : p.closing = false → ∀ t entry, s.openaiToolCalls.lookup t = some entry →
    entry.responsesDone = true → EndsWhole p.finish

/-- The client knows what the board shows. -/
structure Knows (env : Env) (p : Phase) (m : ResponsesOutput) (s : StreamState) : Prop where
  running : m.ended = false
  seq : m.seq = s.responsesSeq
  items : m.items.Matches (board env p.context p.carrier s)

/-- The frames of the sink have been accepted, and tell what the state has. -/
structure ToldSoFar (env : Env) (ids : Nat → String) (p : Phase) (m₀ : ResponsesOutput) (k : Sink) :
    Prop where
  tracks : Monitor.Tracks ResponsesOutput.step (Knows env p) m₀ k.out k.state
  sound : Sound ids p k.state

/-- The frames of the sink have been accepted, and the last of them is the end. -/
def ToldToEnd (m₀ : ResponsesOutput) (k : Sink) : Prop :=
  Monitor.Tracks ResponsesOutput.step
    (fun m s => m.ended = true ∧ s.responsesTerminalSent = true) m₀ k.out k.state

variable {env : Env} {ids : Nat → String} {p : Phase} {m₀ : ResponsesOutput} {k : Sink}

/-! ## One event -/

def sinkEvent (seq : Nat) (eventType : String) (fields : List (String × Value)) : Value :=
  .ofFields (("type", .string eventType) :: ("sequence_number", .nat (seq + 1)) :: fields)

theorem get_sinkEvent {seq : Nat} {eventType key : String} {fields : List (String × Value)}
    (hkey : key ≠ "type" ∧ key ≠ "sequence_number") :
    (sinkEvent seq eventType fields).get key = fields.lookup key := by
  unfold sinkEvent
  rw [Value.get_ofFields, List.lookup_cons, beq_eq_false_iff_ne.mpr hkey.1, List.lookup_cons,
    beq_eq_false_iff_ne.mpr hkey.2]

theorem step_item {m : ResponsesOutput} {s : StreamState} (h : Knows env p m s)
    (hs : 2 ≤ s.responsesSeq) {eventType : String} {fields : List (String × Value)}
    {items : Slots.Told Value Value}
    (htype : eventType ∈ "response.output_item.added" :: "response.output_item.done" ::
      itemEventTypes)
    (hheard : ResponsesOutput.heard m.items eventType (sinkEvent s.responsesSeq eventType fields) =
      some items) :
    m.step (.event eventType (sinkEvent s.responsesSeq eventType fields)) =
      some { m with seq := s.responsesSeq + 1, items := items } := by
  have hnumber : (sinkEvent s.responsesSeq eventType fields).get "sequence_number" =
      some (.nat (m.seq + 1)) := by
    rw [h.seq]
    simp [sinkEvent, List.lookup_cons]
  have hplain : eventType ≠ "response.created" ∧ eventType ≠ "response.in_progress" ∧
      isTerminalType eventType = false := by
    have hall : ∀ ty ∈ "response.output_item.added" :: "response.output_item.done" ::
        itemEventTypes, ty ≠ "response.created" ∧ ty ≠ "response.in_progress" ∧
          isTerminalType ty = false := by decide
    exact hall eventType htype
  have hseq : ¬ m.seq < 2 := by
    rw [h.seq]
    exact Nat.not_lt.mpr hs
  have hopen : ¬ (m.ended = true ∨ (sinkEvent s.responsesSeq eventType fields).get
      "sequence_number" ≠ some (.nat (m.seq + 1))) := by
    simp [h.running, hnumber]
  unfold ResponsesOutput.step
  simp only [if_neg hopen, if_neg hplain.1, if_neg hplain.2.1, hplain.2.2, Bool.false_eq_true,
    if_false, if_neg hseq, hheard, Option.map_some]
  rw [h.seq]

/-- The last event. -/
theorem step_terminal {m : ResponsesOutput} {s : StreamState} (h : Knows env p m s)
    {eventType : String} {fields : List (String × Value)} (htype : isTerminalType eventType = true)
    (hagrees : m.Agrees eventType (sinkEvent s.responsesSeq eventType fields)) :
    m.step (.event eventType (sinkEvent s.responsesSeq eventType fields)) =
      some { m with seq := s.responsesSeq + 1, ended := true } := by
  have hnumber : (sinkEvent s.responsesSeq eventType fields).get "sequence_number" =
      some (.nat (m.seq + 1)) := by
    rw [h.seq]
    simp [sinkEvent, List.lookup_cons]
  have hplain : eventType ≠ "response.created" ∧ eventType ≠ "response.in_progress" := by
    constructor <;> rintro rfl <;> exact absurd htype (by decide)
  have hopen : ¬ (m.ended = true ∨ (sinkEvent s.responsesSeq eventType fields).get
      "sequence_number" ≠ some (.nat (m.seq + 1))) := by
    simp [h.running, hnumber]
  unfold ResponsesOutput.step
  simp only [if_neg hopen, if_neg hplain.1, if_neg hplain.2, htype, if_true, if_pos hagrees]
  rw [h.seq]

theorem getU64_sinkEvent {seq index : Nat} {eventType : String} {fields : List (String × Value)}
    (hindex : fields.lookup "output_index" = some (.nat index)) :
    (sinkEvent seq eventType fields).getU64 "output_index" = some index := by
  unfold Value.getU64
  rw [get_sinkEvent (by decide), hindex]
  rfl

/-- A change of the state that the client does not see. -/
theorem ToldSoFar.state {q : Phase} {s : StreamState} (h : ToldSoFar env ids p m₀ k)
    (hboard : let b := board env p.context p.carrier k.state
      let b' := board env q.context q.carrier s
      b'.next = b.next ∧ (∀ h, b'.index h = b.index h) ∧ (∀ h, b'.opened h = b.opened h) ∧
        ∀ h, b'.done h = b.done h)
    (hseq : s.responsesSeq = k.state.responsesSeq) (hsound : Sound ids q s) :
    ToldSoFar env ids q m₀ ⟨s, k.out⟩ := by
  obtain ⟨hnext, hindex, hopened, hdone⟩ := hboard
  refine ⟨h.tracks.update ?_, hsound⟩
  intro m hm
  exact ⟨hm.running, hm.seq.trans hseq.symm, hm.items.congr hnext hindex hopened hdone⟩

theorem ToldSoFar.speak (h : ToldSoFar env ids p m₀ k) (holder : Holder) (eventType : String)
    (fields : List (String × Value)) {index : Nat} {item : Value}
    (hindex : (board env p.context p.carrier k.state).index holder = some index)
    (hopen : (board env p.context p.carrier k.state).opened holder = some item)
    (htype : eventType ∈ itemEventTypes)
    (hplace : fields.lookup "output_index" = some (.nat index) ∧
      fields.lookup "item_id" = some item) :
    ToldSoFar env ids p m₀ (k.emit eventType fields) := by
  refine ⟨h.tracks.push ?_,
    { h.sound with started := Nat.le_succ_of_le h.sound.started }⟩
  intro m hm
  have hothers : eventType ≠ "response.output_item.added" ∧
      eventType ≠ "response.output_item.done" := by
    have hall : ∀ ty ∈ itemEventTypes, ty ≠ "response.output_item.added" ∧
        ty ≠ "response.output_item.done" := by decide
    exact hall eventType htype
  refine ⟨_, step_item hm h.sound.started
    (List.mem_cons_of_mem _ (List.mem_cons_of_mem _ htype)) ?_, hm.running, rfl, hm.items⟩
  unfold ResponsesOutput.heard
  rw [getU64_sinkEvent hplace.1, Option.bind_eq_bind, Option.bind_some, if_neg hothers.1,
    if_neg hothers.2, if_pos htype, get_sinkEvent (by decide), hplace.2, Option.bind_eq_bind,
    Option.bind_some]
  exact hm.items.inside hindex hopen

/-- The sink with one more event, and another state. -/
def Sink.withEvent (k : Sink) (s : StreamState) (eventType : String)
    (fields : List (String × Value)) : Sink :=
  ⟨s, k.out ++ [.event eventType (sinkEvent k.state.responsesSeq eventType fields)]⟩

/-- A new item. -/
theorem ToldSoFar.add (h : ToldSoFar env ids p m₀ k) (holder : Holder) (index : Nat) (id : Value)
    (s : StreamState) (fields : List (String × Value)) {item : Value}
    (hindex : (board env p.context p.carrier k.state).index holder = some index)
    (hquiet : (board env p.context p.carrier k.state).opened holder = none ∧
      (board env p.context p.carrier k.state).done holder = none)
    (hboard : let b := board env p.context p.carrier k.state
      let b' := board env p.context p.carrier s
      b'.next = b.next ∧ (∀ h, b'.index h = b.index h) ∧ b'.opened holder = some id ∧
        (∀ h, h ≠ holder → b'.opened h = b.opened h) ∧ ∀ h, b'.done h = b.done h)
    (hseq : s.responsesSeq = k.state.responsesSeq + 1) (hsound : Sound ids p s)
    (hplace : fields.lookup "output_index" = some (.nat index) ∧
      fields.lookup "item" = some item ∧ item.get "id" = some id) :
    ToldSoFar env ids p m₀ (k.withEvent s "response.output_item.added" fields) := by
  refine ⟨h.tracks.push ?_, hsound⟩
  intro m hm
  obtain ⟨hnext, hsame, hnew, hothers, hdone⟩ := hboard
  obtain ⟨items, hadd, hitems⟩ := hm.items.add hindex hquiet hnext hsame hnew hothers hdone
  refine ⟨{ m with seq := k.state.responsesSeq + 1, items := items },
    step_item hm h.sound.started List.mem_cons_self ?_, hm.running, hseq.symm, hitems⟩
  unfold ResponsesOutput.heard
  rw [getU64_sinkEvent hplace.1, Option.bind_eq_bind, Option.bind_some, if_pos rfl,
    get_sinkEvent (by decide), hplace.2.1, Option.bind_eq_bind, Option.bind_some, hplace.2.2,
    Option.bind_some]
  exact hadd

/-- An item is done, and may pass with its number to another holder. -/
theorem ToldSoFar.finish {q : Phase} (h : ToldSoFar env ids p m₀ k) (holder heir : Holder)
    (item : Value)
    (s : StreamState) {index : Nat} {id : Value} {fields : List (String × Value)}
    (hindex : (board env p.context p.carrier k.state).index holder = some index)
    (hopen : (board env p.context p.carrier k.state).opened holder = some id)
    (hboard : let b := board env p.context p.carrier k.state
      let b' := board env q.context q.carrier s
      b'.next = b.next ∧ (holder ≠ heir → b'.index holder = none ∧ b.index heir = none) ∧
        (b'.index heir = some index ∧ b'.opened heir = none ∧ b'.done heir = some item) ∧
        ∀ h, h ≠ holder → h ≠ heir →
          b'.index h = b.index h ∧ b'.opened h = b.opened h ∧ b'.done h = b.done h)
    (hseq : s.responsesSeq = k.state.responsesSeq + 1) (hsound : Sound ids q s)
    (hplace : fields.lookup "output_index" = some (.nat index) ∧
      fields.lookup "item" = some item ∧ item.get "id" = some id) :
    ToldSoFar env ids q m₀ (k.withEvent s "response.output_item.done" fields) := by
  refine ⟨h.tracks.push ?_, hsound⟩
  intro m hm
  obtain ⟨hnext, hleft, hnew, hothers⟩ := hboard
  obtain ⟨items, hfinish, hitems⟩ := hm.items.finish hindex hopen hnext hleft hnew hothers
  refine ⟨{ m with seq := k.state.responsesSeq + 1, items := items },
    step_item hm h.sound.started (List.mem_cons_of_mem _ List.mem_cons_self) ?_, hm.running,
    hseq.symm, hitems⟩
  unfold ResponsesOutput.heard
  rw [getU64_sinkEvent hplace.1, Option.bind_eq_bind, Option.bind_some, if_neg (by decide),
    if_pos rfl, get_sinkEvent (by decide), hplace.2.1, Option.bind_eq_bind, Option.bind_some,
    hplace.2.2, Option.bind_some]
  exact hfinish

/-- A holder without an item is given a number. -/
theorem ToldSoFar.reserve (h : ToldSoFar env ids p m₀ k) (holder : Holder) {s : StreamState}
    (hboard : let b := board env p.context p.carrier k.state
      let b' := board env p.context p.carrier s
      b'.next = b.next + 1 ∧ b'.index holder = some b.next ∧
        (∀ h, h ≠ holder → b'.index h = b.index h) ∧ (∀ h, b'.opened h = b.opened h) ∧
        ∀ h, b'.done h = b.done h)
    (hquiet : (board env p.context p.carrier k.state).opened holder = none ∧
      (board env p.context p.carrier k.state).done holder = none)
    (hseq : s.responsesSeq = k.state.responsesSeq) (hsound : Sound ids p s) :
    ToldSoFar env ids p m₀ ⟨s, k.out⟩ := by
  obtain ⟨hnext, hnew, hothers, hopened, hdone⟩ := hboard
  refine ⟨h.tracks.update ?_, hsound⟩
  intro m hm
  exact ⟨hm.running, hm.seq.trans hseq.symm,
    hm.items.reserve hnext hnew hothers hopened hdone hquiet⟩

end LlmUniversalProxy.Streaming
