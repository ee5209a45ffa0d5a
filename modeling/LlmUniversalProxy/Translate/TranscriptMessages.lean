import LlmUniversalProxy.Lib.ToolTurns
import LlmUniversalProxy.Translate.ResponsesHistory

/-!
# `Translate.TranscriptMessages` — the items and the messages of a transcript

Items of Responses and messages of Chat are read here as the items and messages of `Lib.ToolTurns`:
what was said by whom, and which call has which output. The readings are partial on purpose. An item
of a type that has no such reading, a content with a part that is not text, or a call without an id
is not compared, and what the loop makes of it is not said.

A message that is still open says what its fields say (`Says`): its reasoning is one text, whatever
thoughts it was made of, which is why a told message and a read one are two types.
-/

set_option autoImplicit false

namespace LlmUniversalProxy.Translate

open Json Lib Lib.ToolTurns

/-! ## Readings -/

/-- What a call calls. -/
structure CalledTool where
  name : Option String
  arguments : Option String
  deriving DecidableEq, Repr

/-- An item, where the text of reasoning is one thought. -/
abbrev SpokenItem := ToolTurns.Item (Option String) CalledTool Value String

/-- A message as it can be read: its reasoning is one text, whatever thoughts it was made of. -/
abbrev SpokenMessage := ToolTurns.Message (Option String) CalledTool Value Char
abbrev SpokenTurn := ToolTurns.Turn (Option String) CalledTool Value Char
abbrev SpokenTranscript := ToolTurns.Transcript (Option String) CalledTool Value Char

abbrev SpokenItem.spelled (item : SpokenItem) : ToolTurns.Item (Option String) CalledTool Value Char :=
  item.spell String.toList

/-- A call of a Chat message. -/
def readToolCall (toolCall : Value) : Option String × CalledTool :=
  (toolCall.getStr "id", ⟨(toolCall.get "function").bind (Value.getStr · "name"),
    (toolCall.get "function").bind (Value.getStr · "arguments")⟩)

def readParts (message : Value) : List Value :=
  openaiContentToSegmentParts ((message.get "content").getD .null)

/-- A message of the assistant. -/
def readTurn (message : Value) : SpokenTurn where
  thoughts := ((message.getStr "reasoning_content").getD "").toList
  parts := readParts message
  calls := ((message.getArray "tool_calls").getD []).map readToolCall

/-- A message of Chat. -/
def readMessage (message : Value) : SpokenMessage :=
  match message.getStr "role" with
  | some "assistant" => .assistant (readTurn message)
  | some "tool" => .tool (message.getStr "tool_call_id") ((message.get "content").getD .null)
  | some "user" => .user (readParts message)
  | _ => .instructions (readParts message)

/-- The parts are those of the content they are put into. -/
def ReadsBack (parts : List Value) : Prop :=
  openaiContentToSegmentParts (openaiSegmentPartsToContent parts) = parts

theorem segmentParts_text (text : String) : openaiContentToSegmentParts (.string text) =
    if text.isEmpty then [] else [openaiTextContentPart text] := rfl

theorem content_textPart (text : String) :
    openaiSegmentPartsToContent [openaiTextContentPart text] = .string text := by
  simp [openaiSegmentPartsToContent, openaiTextContentPart, Value.getStr, Value.getArray,
    List.lookup_cons]

theorem ReadsBack.append {xs ys : List Value} (hxs : ReadsBack xs) (hys : ReadsBack ys) :
    ReadsBack (xs ++ ys) := by
  rcases xs with _ | ⟨x, xs⟩
  · exact hys
  · rcases ys with _ | ⟨y, ys⟩
    · rw [List.append_nil]
      exact hxs
    · -- Two parts are never taken for a text.
      cases xs with
      | nil => rfl
      | cons x' xs => rfl

/-- The content that an item's text becomes. -/
structure Holds (content : Value) (parts : List Value) : Prop where
  segments : openaiContentToSegmentParts content = parts
  empty : contentValueIsEffectivelyEmpty content = parts.isEmpty
  readsBack : ReadsBack parts

/-- The message of the assistant says the turn. -/
structure Says (message : Value) (turn : SpokenTurn) : Prop where
  role : message.getStr "role" = some "assistant"
  read : readTurn message = turn
  readsBack : ReadsBack turn.parts
  calls : message.get "tool_calls" = none ∨ ∃ items, message.get "tool_calls" = some (.array items)

section

variable {message : Value} {turn : SpokenTurn}

theorem Says.isObject (h : Says message turn) : message.isObject = true :=
  Value.isObject_of_get (Value.get_of_getStr h.role)

/-- One more call. -/
theorem Says.appendCall (h : Says message turn) (toolCall : Value) :
    Says ((if (message.get "tool_calls").isNone then message.set "tool_calls" (.array [])
        else message).modifyArray "tool_calls" (· ++ [toolCall]))
      { turn with calls := turn.calls ++ [readToolCall toolCall] } := by
  -- Whether the field is there or not, it is an array when the call is pushed.
  obtain ⟨opened, hopened, hspoken, items, hitems, hread⟩ : ∃ opened,
      (if (message.get "tool_calls").isNone then message.set "tool_calls" (.array [])
        else message) = opened ∧ (∀ k, k ≠ "tool_calls" → opened.get k = message.get k) ∧
      ∃ items, opened.get "tool_calls" = some (.array items) ∧
        items.map readToolCall = turn.calls := by
    have hcalls : ((message.getArray "tool_calls").getD []).map readToolCall = turn.calls :=
      congrArg Turn.calls h.read
    rcases h.calls with hnone | ⟨items, hitems⟩
    · refine ⟨_, rfl, fun k hk => ?_, [], ?_, ?_⟩
      · rw [hnone]
        exact Value.get_set_of_ne message _ hk
      · rw [hnone]
        exact Value.get_set_self h.isObject _ _
      · rw [← hcalls, Value.getArray, hnone]
        rfl
    · refine ⟨_, rfl, fun k hk => by rw [hitems]; rfl, items, by rw [hitems]; exact hitems, ?_⟩
      rw [← hcalls, Value.getArray, hitems]
      rfl
  rw [hopened]
  have hother : ∀ k, k ≠ "tool_calls" →
      (opened.modifyArray "tool_calls" (· ++ [toolCall])).get k = message.get k := fun k hk =>
    (Value.get_modify_of_ne opened _ hk).trans (hspoken k hk)
  have hself : (opened.modifyArray "tool_calls" (· ++ [toolCall])).get "tool_calls" =
      some (.array (items ++ [toolCall])) := by
    rw [Value.modifyArray, Value.get_modify_self, hitems]
    rfl
  refine ⟨?_, ?_, h.readsBack, Or.inr ⟨_, hself⟩⟩
  · rw [Value.getStr, hother _ (by decide)]
    exact h.role
  · rw [← hread, ← h.read]
    simp [readTurn, readParts, Value.getStr, Value.getArray, hself,
      hother "content" (by decide), hother "reasoning_content" (by decide)]

end

end LlmUniversalProxy.Translate
