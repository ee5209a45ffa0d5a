import LlmUniversalProxy.Json.ReadBack
import LlmUniversalProxy.Streaming.ResponsesStreamed

/-!
# `Streaming.CallEvents` — what the events of a Responses stream say of its tool calls

The events of several calls may come in any order. Each is for the call that its item id names, or
else the one at its place in the output, or else the last one; `CallEvent` is that reading, by the
event and the calls that are known, without a look at the state. What a client of Chat is told of a
call is `told`: its arguments, or the wrapper round the input of a custom tool, which is closed when
the input is complete. `HoldsCalls` connects the reading with the state, under the numbers that the
calls have there.
-/

set_option autoImplicit false

namespace LlmUniversalProxy.Streaming

open Json Lib Translate

/-! ## Calls, as an upstream tells them -/

/-- A tool call, as it is announced. -/
structure ToolItem where
  custom : Bool
  itemId : String
  outputIndex : Nat
  callId : String
  name : String
  deriving DecidableEq

namespace ToolItem

/-- Nothing by which a call is found is shared. -/
structure Apart (a b : ToolItem) : Prop where
  itemId : a.itemId ≠ b.itemId
  outputIndex : a.outputIndex ≠ b.outputIndex
  callId : a.callId ≠ b.callId

def itemType (item : ToolItem) : String :=
  if item.custom then "custom_tool_call" else "function_call"

def payloadField (item : ToolItem) : String := if item.custom then "input" else "arguments"

def deltaType (item : ToolItem) : String :=
  if item.custom then "response.custom_tool_call_input.delta"
  else "response.function_call_arguments.delta"

end ToolItem

/-- A call, with as much of its arguments or its input as has come. -/
structure ItemCall where
  item : ToolItem
  payload : String
  closed : Bool := false
  deriving DecidableEq

namespace ItemCall

def extend (piece : String) (call : ItemCall) : ItemCall :=
  { call with payload := call.payload ++ piece }

/-- The input of a custom tool is complete. -/
def close (full : String) (call : ItemCall) : ItemCall :=
  if call.item.custom && !call.closed then { call with payload := full, closed := true } else call

@[simp] theorem extend_item (piece : String) (call : ItemCall) :
    (call.extend piece).item = call.item := rfl

@[simp] theorem close_item (full : String) (call : ItemCall) :
    (call.close full).item = call.item := by
  unfold close
  split <;> rfl

/-- A call is closed with an input that goes on where it stands. -/
def ClosesWith (full : String) (call : ItemCall) : Prop :=
  call.item.custom = true → call.closed = false → ∃ rest, full = call.payload ++ rest

end ItemCall

/-- The event that announces a call, with the payload it starts with. -/
structure IsToolAdded (item : ToolItem) (payload : String) (event : Value) : Prop where
  type : event.getStr "type" = some "response.output_item.added"
  index : event.getU64 "output_index" = some item.outputIndex
  announced : ∃ value, event.get "item" = some value ∧ value.getStr "type" = some item.itemType ∧
    value.getStr "id" = some item.itemId ∧ value.getStr "call_id" = some item.callId ∧
    (value.getStr "name").getD "" = item.name ∧
    (value.getStr item.payloadField).getD "" = payload

/-- The event names the item of a call, or its place in the output, or is about the last call. -/
def IsAbout (event : Value) (calls : List ItemCall) (i : Nat) (call : ItemCall) : Prop :=
  calls[i]? = some call ∧
    (event.getStr "item_id" = some call.item.itemId ∨
      (∀ other ∈ calls, event.getStr "item_id" ≠ some other.item.itemId) ∧
        (event.getU64 "output_index" = some call.item.outputIndex ∨
          (∀ other ∈ calls, event.getU64 "output_index" ≠ some other.item.outputIndex) ∧
            i + 1 = calls.length))

/-- The events that are about tool calls, once they have been announced. -/
def toolEventTypes : List String :=
  ["response.function_call_arguments.delta", "response.custom_tool_call_input.delta",
    "response.custom_tool_call_input.done", "response.completed", "response.incomplete",
    "response.failed"]

/-- Any other event. -/
structure IsAside (event : Value) : Prop where
  type : (event.getStr "type").getD "" ∉ toolEventTypes
  item : event.getStr "type" = some "response.output_item.added" →
    isToolCallItem ((event.get "item").getD .null) = false

/-- A custom tool call of the final output. -/
def closeFinal (calls : List ItemCall) (final : FinalCustomCall) : List ItemCall :=
  calls.map fun call =>
    if call.item.callId = final.callId then call.close final.fullInput else call

def finalCalls (event : Value) : List FinalCustomCall :=
  (responseOutput event).filterMap finalCustomCall

/-- What an event says of the calls. -/
inductive CallEvent (calls : List ItemCall) (event : Value) : List ItemCall → Prop
  | added {item : ToolItem} {payload : String} (hevent : IsToolAdded item payload event)
      (hapart : ∀ call ∈ calls, call.item.Apart item) :
      CallEvent calls event (calls ++ [⟨item, payload, false⟩])
  | piece {i : Nat} {call : ItemCall} (habout : IsAbout event calls i call)
      (htype : event.getStr "type" = some call.item.deltaType) (hopen : call.closed = false) :
      CallEvent calls event (calls.set i (call.extend ((event.getStr "delta").getD "")))
  | done {i : Nat} {call : ItemCall} {full : String} (habout : IsAbout event calls i call)
      (htype : event.getStr "type" = some "response.custom_tool_call_input.done")
      (hfull : (event.getStr "input").getD call.payload = full) (hcloses : call.ClosesWith full) :
      CallEvent calls event (calls.set i (call.close full))
  | ended (htype : event.getStr "type" ∈
        [some "response.completed", some "response.incomplete", some "response.failed"])
      (hcloses : ∀ final ∈ finalCalls event, ∀ call ∈ calls,
        call.item.callId = final.callId → call.ClosesWith final.fullInput) :
      CallEvent calls event ((finalCalls event).foldl closeFinal calls)
  | aside (hevent : IsAside event) : CallEvent calls event calls

/-- What a stream says of the calls. -/
inductive CallEvents : List ItemCall → List Value → List ItemCall → Prop
  | nil {calls : List ItemCall} : CallEvents calls [] calls
  | cons {calls mid calls' : List ItemCall} {event : Value} {events : List Value}
      (hevent : CallEvent calls event mid) (hevents : CallEvents mid events calls') :
      CallEvents calls (event :: events) calls'

/-! ## What a client is told of a call -/

namespace ItemCall

/-- The arguments, as far as they have gone out. -/
def spelled (call : ItemCall) : String :=
  if call.item.custom then
    openaiCustomBridgeStartDeltaStream call.payload ++
      if call.closed then openaiCustomBridgeDoneDeltaStream else ""
  else call.payload

def told (index : Nat) (call : ItemCall) : FoldedCall :=
  ⟨index, some call.item.callId, some call.item.name, call.spelled⟩

/-- The arguments of a call whose payload is complete. -/
def arguments (call : ItemCall) : String :=
  if call.item.custom then Value.toJson (.object [("input", .string call.payload)])
  else call.payload

/-- Nothing is left to come. -/
def Complete (call : ItemCall) : Prop := call.item.custom = true → call.closed = true

theorem spelled_of_complete {call : ItemCall} (h : call.Complete) :
    call.spelled = call.arguments := by
  unfold spelled arguments
  cases hcustom : call.item.custom with
  | false => rfl
  | true =>
    rw [h hcustom, if_pos rfl, if_pos rfl, if_pos rfl]
    apply String.toList_injective
    simp [openaiCustomBridgeStartDeltaStream, openaiCustomBridgeDoneDeltaStream,
      escapeJsonStringContentStream, Value.toJson, valueChars, fieldsChars, stringChars]
    rfl

end ItemCall

theorem start_append (payload piece : String) :
    openaiCustomBridgeStartDeltaStream (payload ++ piece) =
      openaiCustomBridgeStartDeltaStream payload ++ openaiCustomBridgeInputDeltaStream piece := by
  unfold openaiCustomBridgeStartDeltaStream openaiCustomBridgeInputDeltaStream
    escapeJsonStringContentStream
  rw [String.toList_append, escapeChars_append, String.ofList_append, String.append_assoc]

/-- The wrapper that is told of a complete call is one, and its input is that of the call. -/
theorem decode_wrapper (serde : Serde) (input : String) :
    openaiCustomBridgeDecodeArgumentsStream serde
      (Value.toJson (.object [("input", .string input)])) = some input := by
  unfold openaiCustomBridgeDecodeArgumentsStream
  rw [fromStr_singleton]
  rfl

/-! ## What the state knows of the calls -/

theorem items_set {calls : List ItemCall} {i : Nat} {call call' : ItemCall}
    (hcall : calls[i]? = some call) (hitem : call'.item = call.item) :
    (calls.set i call').map ItemCall.item = calls.map ItemCall.item := by
  obtain ⟨hi, hget⟩ := List.getElem?_eq_some_iff.mp hcall
  rw [List.map_set, hitem, ← hget,
    ← List.getElem_map ItemCall.item (h := by rw [List.length_map]; exact hi),
    List.set_getElem_self]

/-- The entry of a call. -/
structure Matches (call : ItemCall) (entry : ToolCallState) : Prop where
  id : entry.id = some (.string call.item.callId)
  itemId : entry.responsesItemId = some call.item.itemId
  index : entry.blockIndex = some call.item.outputIndex
  input : entry.customInputText = if call.item.custom then some call.payload else none
  done : entry.customInputDone = call.closed

/-- The state has an entry for every call, under its number, and no other. -/
structure HoldsCalls (calls : List ItemCall) (s : StreamState) : Prop where
  counted : s.openaiToolCallIndex = calls.length
  known : ∀ i, Option.Rel Matches calls[i]? (s.openaiToolCalls.lookup i)
  apart : (calls.map ItemCall.item).Pairwise ToolItem.Apart

/-- The state has the calls, and the client has been told of them. -/
structure Carries (calls : List ItemCall) (s : StreamState) (f : Folded) : Prop where
  holds : HoldsCalls calls s
  told : f.toolCalls = calls.mapIdx ItemCall.told

namespace HoldsCalls

variable {calls : List ItemCall} {s : StreamState}

theorem entry (h : HoldsCalls calls s) {i : Nat} {call : ItemCall} (hcall : calls[i]? = some call) :
    ∃ entry, s.openaiToolCalls.lookup i = some entry ∧ Matches call entry := by
  have hrel := h.known i
  rw [hcall] at hrel
  cases hlookup : s.openaiToolCalls.lookup i with
  | none =>
    rw [hlookup] at hrel
    cases hrel
  | some entry =>
    rw [hlookup] at hrel
    cases hrel with
    | some hmatches => exact ⟨entry, rfl, hmatches⟩

theorem call_of_entry (h : HoldsCalls calls s) {i : Nat} {entry : ToolCallState}
    (hentry : s.openaiToolCalls.lookup i = some entry) :
    ∃ call, calls[i]? = some call ∧ Matches call entry := by
  have hrel := h.known i
  rw [hentry] at hrel
  cases hcall : calls[i]? with
  | none =>
    rw [hcall] at hrel
    cases hrel
  | some call =>
    rw [hcall] at hrel
    cases hrel with
    | some hmatches => exact ⟨call, rfl, hmatches⟩

/-- Two calls that share something are one. -/
theorem same (h : HoldsCalls calls s) {i j : Nat} {a b : ItemCall} (ha : calls[i]? = some a)
    (hb : calls[j]? = some b) (hshared : ¬ a.item.Apart b.item ∧ ¬ b.item.Apart a.item) : i = j := by
  obtain ⟨hi, rfl⟩ := List.getElem?_eq_some_iff.mp ha
  obtain ⟨hj, rfl⟩ := List.getElem?_eq_some_iff.mp hb
  have hpairs := List.pairwise_iff_getElem.mp h.apart
  simp only [List.length_map, List.getElem_map] at hpairs
  rcases Nat.lt_trichotomy i j with hlt | heq | hlt
  · exact absurd (hpairs i j hi hj hlt) hshared.1
  · exact heq
  · exact absurd (hpairs j i hj hi hlt) hshared.2

theorem congr (h : HoldsCalls calls s) {s' : StreamState}
    (hindex : s'.openaiToolCallIndex = s.openaiToolCallIndex)
    (hcalls : s'.openaiToolCalls = s.openaiToolCalls) : HoldsCalls calls s' := by
  refine ⟨hindex.trans h.counted, ?_, h.apart⟩
  rw [hcalls]
  exact h.known

/-- One entry is changed along with its call. -/
theorem set (h : HoldsCalls calls s) {i : Nat} {call call' : ItemCall} {entry : ToolCallState}
    {s' : StreamState} (hcall : calls[i]? = some call) (hitem : call'.item = call.item)
    (hmatches : Matches call' entry)
    (hindex : s'.openaiToolCallIndex = s.openaiToolCallIndex)
    (hcalls : s'.openaiToolCalls = s.openaiToolCalls.insert i entry) :
    HoldsCalls (calls.set i call') s' := by
  obtain ⟨hi, hget⟩ := List.getElem?_eq_some_iff.mp hcall
  refine ⟨by rw [hindex, h.counted, List.length_set], fun j => ?_, ?_⟩
  · rw [hcalls, FinMap.lookup_insert_eq, List.getElem?_set]
    by_cases hj : j = i
    · subst hj
      rw [if_pos rfl, if_pos rfl, if_pos hi]
      exact .some hmatches
    · rw [if_neg hj, if_neg (Ne.symm hj)]
      exact h.known j
  · rw [items_set hcall hitem]
    exact h.apart

end HoldsCalls

end LlmUniversalProxy.Streaming
