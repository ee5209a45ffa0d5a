import LlmUniversalProxy.Streaming.ClaudeSink
import LlmUniversalProxy.Translate.AnthropicContent

/-!
# `Streaming.Said` — what an assistant says, in one body or in chunks

A completion says a reasoning, a refusal, a content and some calls. An upstream sends it as one
body, or as chunks in which each of these can be cut anywhere; the two are told apart here by how
they render the same `Said`.
-/

set_option autoImplicit false

namespace LlmUniversalProxy.Streaming

open Json Lib Translate

/-! ## Bodies -/

/-- A function call: its arguments are a text. -/
structure SaidCall where
  id : String
  name : String
  arguments : String

/-- What an assistant has said. -/
structure Said where
  reasoning : String := ""
  refusal : String := ""
  content : String := ""
  calls : List SaidCall := []

def SaidCall.append (piece : String) (call : SaidCall) : SaidCall :=
  { call with arguments := call.arguments ++ piece }

/-- A call has no other name beside its function's, and is of no server tool. -/
structure IsPlainCall (call : Value) : Prop where
  object : call.asStr = none
  name : call.get "name" = none
  custom : call.get "custom" = none
  kind : call.getStr "proxied_tool_kind" = none

/-- A call of a completion. -/
structure IsCall (call : Value) (said : SaidCall) : Prop extends IsPlainCall call where
  type : call.getStr "type" = some "function"
  id : call.get "id" = some (.string said.id)
  functionName : functionField call "name" = some said.name
  arguments : functionField call "arguments" = some said.arguments
  unmarked : call.get nonReplayableToolCallField = none

/-- An assistant's message that says this. Its content is a text, or is not there. -/
structure IsMessage (message : Value) (said : Said) : Prop where
  role : message.getStr "role" = some "assistant"
  reasoning : (message.getStr "reasoning_content").getD "" = said.reasoning
  noDetails : message.get "reasoning_details" = none
  noReplay : message.get openaiAnthropicReasoningReplayField = none
  refusal : (message.getStr "refusal").getD "" = said.refusal
  content : message.get "content" = some (.string said.content) ∨
    said.content = "" ∧ (message.get "content").getD .null = .null
  calls : List.Forall₂ IsCall ((message.getArray "tool_calls").getD []) said.calls

/-- A completion with one choice, that says this. -/
structure IsCompletion (body : Value) (said : Said) (finishReason : String) : Prop where
  choice : ∃ choice message, body.getArray "choices" = some [choice] ∧
    choice.get "message" = some message ∧ choice.getStr "finish_reason" = some finishReason ∧
    IsMessage message said

/-- The arguments of every call are the text of an object. -/
def ArgumentsAreObjects (serde : Serde) (said : Said) : Prop :=
  ∀ call ∈ said.calls, ∃ value, fromStr serde call.arguments = some value ∧ value.isObject = true

/-! ## Chunks -/

/-- The first delta of a call: it carries the id and the name. -/
structure StartsCall (tc : Value) (index : Nat) (said : SaidCall) : Prop extends
    IsPlainCall tc where
  index : tc.getU64 "index" = some index
  type : tc.getStr "type" = some "function"
  id : tc.get "id" = some (.string said.id)
  functionName : functionField tc "name" = some said.name
  arguments : (functionField tc "arguments").getD "" = said.arguments

/-- A further delta of a call: a piece of its arguments. -/
structure ContinuesCall (tc : Value) (index : Nat) (piece : String) : Prop extends
    IsPlainCall tc where
  index : tc.getU64 "index" = some index
  type : tc.getStr "type" = none ∨ tc.getStr "type" = some "function"
  id : tc.get "id" = none
  functionName : (tc.get "function").bind (Value.get · "name") = none
  arguments : (functionField tc "arguments").getD "" = piece

/-- What the tool-call deltas of a chunk add to the calls. -/
inductive TellsCalls : List SaidCall → List Value → List SaidCall → Prop
  | nil {calls : List SaidCall} : TellsCalls calls [] calls
  | starts {calls calls' : List SaidCall} {tc : Value} {tcs : List Value} {call : SaidCall}
      (hstart : StartsCall tc calls.length call) (hrest : TellsCalls (calls ++ [call]) tcs calls') :
      TellsCalls calls (tc :: tcs) calls'
  | continues {calls calls' : List SaidCall} {tc : Value} {tcs : List Value} {index : Nat}
      {piece : String} (hindex : index < calls.length) (hpiece : ContinuesCall tc index piece)
      (hrest : TellsCalls (calls.modify index (SaidCall.append piece)) tcs calls') :
      TellsCalls calls (tc :: tcs) calls'

/-- A chunk with this delta. -/
structure IsChunk (chunk delta : Value) (finishReason : Option String) : Prop where
  noError : chunk.get "error" = none
  choice : ∃ choice rest, chunk.getArray "choices" = some (choice :: rest) ∧
    choice.get "delta" = some delta ∧ choice.getStr "finish_reason" = finishReason

/-- A chunk that has at most a usage. -/
structure IsUsage (chunk : Value) : Prop where
  noError : chunk.get "error" = none
  noChoice : (chunk.getArray "choices").getD [] = []

/-- A delta with these pieces. -/
structure DeltaSays (delta : Value) (reasoning refusal content : String) (tools : List Value) :
    Prop where
  reasoning : (delta.getStr "reasoning_content").getD "" = reasoning
  noReasoning : delta.get "reasoning" = none
  noDetails : delta.get "reasoning_details" = none
  refusal : (delta.getStr "refusal").getD "" = refusal
  content : (delta.getStr "content").getD "" = content
  tools : (delta.getArray "tool_calls").getD [] = tools

/-- Every delta is taken as it is: it does not look like a repetition of what has been seen. -/
def IsTakenAsIs (piece seen : String) : Prop :=
  piece ≠ "" → (normalizeOpenaiStreamText piece seen).1 = some piece

/-- The chunks before the end, and what they have said. The fields may be cut, and mixed, in any
way. -/
inductive Tells : Said → List Value → Prop
  | nil : Tells {} []
  | chunk {said : Said} {chunks tools : List Value} {chunk delta : Value}
      {reasoning refusal content : String} {calls : List SaidCall} (hbefore : Tells said chunks)
      (hchunk : IsChunk chunk delta none)
      (hdelta : DeltaSays delta reasoning refusal content tools)
      (hreasoning : IsTakenAsIs reasoning said.reasoning)
      (hcontent : IsTakenAsIs content said.content) (htools : TellsCalls said.calls tools calls) :
      Tells ⟨said.reasoning ++ reasoning, said.refusal ++ refusal, said.content ++ content, calls⟩
        (chunks ++ [chunk])
  | usage {said : Said} {chunks : List Value} {chunk : Value} (hbefore : Tells said chunks)
      (husage : IsUsage chunk) : Tells said (chunks ++ [chunk])

/-- All chunks of a completion: what it says, its end, and its usage. -/
structure CutsCompletion (said : Said) (finishReason : String) (chunks : List Value) : Prop where
  parts : ∃ told last delta usage, Tells said told ∧ IsChunk last delta (some finishReason) ∧
    DeltaSays delta "" "" "" [] ∧ (∀ chunk ∈ usage, IsUsage chunk) ∧
    chunks = told ++ last :: usage

/-! ## A call of a tool without parameters -/

def completionChunk (delta finishReason : Value) : Value :=
  .ofFields [("choices", .array [.ofFields [("delta", delta), ("finish_reason", finishReason)]])]

theorem completionChunk_isChunk (delta finishReason : Value) :
    IsChunk (completionChunk delta finishReason) delta finishReason.asStr where
  noError := Value.get_ofFields _ _
  choice := by
    refine ⟨.ofFields [("delta", delta), ("finish_reason", finishReason)], [], ?_,
      Value.get_ofFields _ _, Value.getStr_ofFields _ _⟩
    rw [completionChunk, Value.getArray, Value.get_ofFields]
    rfl

/-- A call of a function, of which the arguments have come so far. -/
def lookAround (arguments : String) : Value :=
  .ofFields [("index", .nat 0), ("id", .string "call_1"), ("type", .string "function"),
    ("function", .ofFields [("name", .string "look_around"), ("arguments", .string arguments)])]

theorem lookAround_isPlain (arguments : String) : IsPlainCall (lookAround arguments) where
  object := rfl
  name := Value.get_ofFields _ _
  custom := Value.get_ofFields _ _
  kind := Value.getStr_ofFields _ _

theorem lookAround_function (arguments : String) :
    functionField (lookAround arguments) "name" = some "look_around" ∧
      functionField (lookAround arguments) "arguments" = some arguments := by
  have hfunction : (lookAround arguments).get "function" = some (.ofFields
      [("name", .string "look_around"), ("arguments", .string arguments)]) :=
    Value.get_ofFields _ _
  constructor
  · rw [functionField, hfunction]
    exact Value.getStr_ofFields _ _
  · rw [functionField, hfunction]
    exact Value.getStr_ofFields _ _

theorem lookAround_starts (arguments : String) :
    StartsCall (lookAround arguments) 0 ⟨"call_1", "look_around", arguments⟩ where
  toIsPlainCall := lookAround_isPlain arguments
  index := by rw [lookAround, Value.getU64, Value.get_ofFields]; rfl
  type := Value.getStr_ofFields _ _
  id := Value.get_ofFields _ _
  functionName := (lookAround_function arguments).1
  arguments := by rw [(lookAround_function arguments).2]; rfl

theorem lookAround_isCall (arguments : String) :
    IsCall (lookAround arguments) ⟨"call_1", "look_around", arguments⟩ where
  toIsPlainCall := lookAround_isPlain arguments
  type := Value.getStr_ofFields _ _
  id := Value.get_ofFields _ _
  functionName := (lookAround_function arguments).1
  arguments := (lookAround_function arguments).2
  unmarked := Value.get_ofFields _ _

def moreArguments (piece : String) : Value :=
  .ofFields [("index", .nat 0), ("function", .ofFields [("arguments", .string piece)])]

theorem moreArguments_continues (piece : String) : ContinuesCall (moreArguments piece) 0 piece where
  object := rfl
  name := Value.get_ofFields _ _
  custom := Value.get_ofFields _ _
  kind := Value.getStr_ofFields _ _
  index := by rw [moreArguments, Value.getU64, Value.get_ofFields]; rfl
  type := .inl (Value.getStr_ofFields _ _)
  id := Value.get_ofFields _ _
  functionName := by
    rw [moreArguments, Value.get_ofFields]
    exact Value.get_ofFields _ _
  arguments := by
    rw [functionField, moreArguments, Value.get_ofFields]
    show ((Value.ofFields [("arguments", .string piece)]).getStr "arguments").getD "" = piece
    rw [Value.getStr_ofFields]
    rfl

end LlmUniversalProxy.Streaming
