import LlmUniversalProxy.Streaming.Source
import LlmUniversalProxy.Translate.Response

/-!
# `Streaming.Folded` — what a client makes of Chat chunks

A client of Chat puts the deltas of a stream together: the texts one behind the other, and the
pieces of a tool call under its index. `Folded` is what it has so far, and `Folded.ofCompletion`
what the same client reads off a completion that comes in one piece.
-/

set_option autoImplicit false

namespace LlmUniversalProxy.Streaming

open Json Lib Translate

/-- A tool call, as far as it has come. -/
structure FoldedCall where
  index : Nat
  id : Option String
  name : Option String
  arguments : String
  deriving DecidableEq, Repr

structure Folded where
  content : String := ""
  reasoning : String := ""
  refusal : String := ""
  toolCalls : List FoldedCall := []
  finishReason : Option String := none
  deriving DecidableEq, Repr

/-- The id, the name and the arguments that a delta brings along. -/
def FoldedCall.ofDelta (index : Nat) (delta : Value) : FoldedCall :=
  let function := (delta.get "function").getD .null
  ⟨index, delta.getStr "id", function.getStr "name", (function.getStr "arguments").getD ""⟩

/-- A further delta of a call: what it names for the first time, and the rest of its arguments. -/
def FoldedCall.append (call delta : FoldedCall) : FoldedCall :=
  ⟨call.index, call.id.or delta.id, call.name.or delta.name, call.arguments ++ delta.arguments⟩

/-- A delta goes to the call with its index, or starts a new one. -/
def appendCall (delta : FoldedCall) : List FoldedCall → List FoldedCall
  | [] => [delta]
  | call :: calls =>
      if call.index = delta.index then call.append delta :: calls
      else call :: appendCall delta calls

/-- A delta of a tool call; the index tells the calls apart. -/
def feedToolCall (calls : List FoldedCall) (delta : Value) : List FoldedCall :=
  appendCall (FoldedCall.ofDelta ((delta.getU64 "index").getD 0) delta) calls

namespace Folded

def feedDelta (delta : Value) (finishReason : Option String) (f : Folded) : Folded where
  content := f.content ++ (delta.getStr "content").getD ""
  reasoning := f.reasoning ++ (delta.getStr "reasoning_content").getD ""
  refusal := f.refusal ++ (delta.getStr "refusal").getD ""
  toolCalls := ((delta.getArray "tool_calls").getD []).foldl feedToolCall f.toolCalls
  finishReason := finishReason.or f.finishReason

/-- A chunk is read by its first choice. -/
def feed (f : Folded) (chunk : Value) : Folded :=
  match (chunk.getArray "choices").getD [] with
  | [] => f
  | choice :: _ =>
      f.feedDelta ((choice.get "delta").getD .null) (choice.getStr "finish_reason")

def ofCompletion (completion : Value) : Folded :=
  let choice := ((completion.getArray "choices").getD []).head?.getD .null
  let message := (choice.get "message").getD .null
  { content := extractOpenaiContentText (message.get "content")
    reasoning := (message.getStr "reasoning_content").getD ""
    refusal := (message.getStr "refusal").getD ""
    toolCalls := ((message.getArray "tool_calls").getD []).mapIdx FoldedCall.ofDelta
    finishReason := choice.getStr "finish_reason" }

end Folded

/-! ## Events, one by one -/

abbrev SourceStep := Value → StreamState → Source

/-- The state, and what a client has made of the chunks. -/
def foldEvent (step : SourceStep) (p : StreamState × Folded) (event : Value) :
    StreamState × Folded :=
  ((step event p.1).state, (step event p.1).out.foldl Folded.feed p.2)

def foldEvents (step : SourceStep) (events : List Value) (p : StreamState × Folded) :
    StreamState × Folded :=
  events.foldl (foldEvent step) p

@[simp] theorem foldEvents_nil (step : SourceStep) (p : StreamState × Folded) :
    foldEvents step [] p = p := rfl

@[simp] theorem foldEvents_cons (step : SourceStep) (event : Value) (events : List Value)
    (p : StreamState × Folded) :
    foldEvents step (event :: events) p = foldEvents step events (foldEvent step p event) := rfl

theorem foldEvents_append (step : SourceStep) (xs ys : List Value) (p : StreamState × Folded) :
    foldEvents step (xs ++ ys) p = foldEvents step ys (foldEvents step xs p) :=
  List.foldl_append

/-- Once a stream is rejected, the client has been told, and gets nothing more. -/
def Rejected (p : StreamState × Folded) : Prop :=
  p.1.fatalRejection.isSome = true ∧ p.2.finishReason = some "error"

/-! ## Chunks -/

theorem feed_openaiChunk (env : Env) (s : StreamState) (delta : Value)
    (finishReason : Option String) (f : Folded) :
    f.feed (openaiChunk env s delta finishReason) = f.feedDelta delta finishReason := by
  have hchoices : (openaiChunk env s delta finishReason).getArray "choices" =
      some [.ofFields [("index", .nat 0), ("delta", delta),
        ("finish_reason", .ofOptionStr finishReason)]] := by
    rw [openaiChunk, Value.getArray, Value.get_ofFields]
    rfl
  unfold Folded.feed
  rw [hchoices]
  show f.feedDelta ((Value.get (.ofFields _) "delta").getD .null)
    ((Value.get (.ofFields _) "finish_reason").bind Value.asStr) = _
  rw [Value.get_ofFields, Value.get_ofFields]
  cases finishReason <;> rfl

/-- A field that the client does not read changes nothing. -/
theorem feed_set (chunk x : Value) {k : String} (h : "choices" ≠ k) (f : Folded) :
    f.feed (chunk.set k x) = f.feed chunk := by
  unfold Folded.feed Value.getArray
  rw [Value.get_set_of_ne chunk x h]

@[simp] theorem feedDelta_content (text : String) (f : Folded) :
    f.feedDelta (.ofFields [("content", .string text)]) none =
      { f with content := f.content ++ text } := by
  simp [Folded.feedDelta, Value.getStr, Value.getArray, List.lookup_cons]

@[simp] theorem feedDelta_reasoning (text : String) (f : Folded) :
    f.feedDelta (.ofFields [("reasoning_content", .string text)]) none =
      { f with reasoning := f.reasoning ++ text } := by
  simp [Folded.feedDelta, Value.getStr, Value.getArray, List.lookup_cons]

@[simp] theorem feedDelta_role (text : String) (f : Folded) :
    f.feedDelta (.ofFields [("role", .string text)]) none = f := by
  simp [Folded.feedDelta, Value.getStr, Value.getArray, List.lookup_cons]

@[simp] theorem feedDelta_finish (finishReason : String) (f : Folded) :
    f.feedDelta (.ofFields []) (some finishReason) =
      { f with finishReason := some finishReason } := by
  simp [Folded.feedDelta, Value.getStr, Value.getArray]

/-- What the chunks of a source do to the client, and no more than that. -/
def Source.folds (k : Source) (f : Folded) : Folded := k.out.foldl Folded.feed f

@[simp] theorem folds_push (env : Env) (delta : Value) (k : Source) (f : Folded) :
    (k.push env delta).folds f = (k.folds f).feedDelta delta none := by
  simp [Source.folds, Source.push, feed_openaiChunk]

@[simp] theorem folds_update (g : StreamState → StreamState) (k : Source) (f : Folded) :
    (k.update g).folds f = k.folds f := rfl

@[simp] theorem folds_start (s : StreamState) (f : Folded) : (⟨s, []⟩ : Source).folds f = f := rfl

/-- The role says nothing to a client that folds. -/
@[simp] theorem folds_ensureRole (env : Env) (k : Source) (f : Folded) :
    (k.ensureRole env).folds f = k.folds f := by
  unfold Source.folds Source.ensureRole emitOpenaiAssistantRoleIfNeeded
  split
  · simp
  · simp [feed_openaiChunk]

/-- What a client reads off a completion with one choice. -/
theorem ofCompletion_choice (body : Value) (translate : Value → Value)
    (id created model choice : Value) :
    Folded.ofCompletion (withUsage body translate (openaiCompletion id created model choice)) =
      { content := extractOpenaiContentText (((choice.get "message").getD .null).get "content")
        reasoning := (((choice.get "message").getD .null).getStr "reasoning_content").getD ""
        refusal := (((choice.get "message").getD .null).getStr "refusal").getD ""
        toolCalls := ((((choice.get "message").getD .null).getArray "tool_calls").getD []).mapIdx
          FoldedCall.ofDelta
        finishReason := choice.getStr "finish_reason" } := by
  have hchoices := choicesOf_completion body translate id created model choice
  unfold choicesOf at hchoices
  unfold Folded.ofCompletion
  rw [hchoices]
  rfl

theorem ofCompletion_single (body : Value) (translate : Value → Value)
    (id created model message : Value) (finishReason : String) :
    Folded.ofCompletion (withUsage body translate (openaiCompletion id created model
      (.ofFields [("index", .nat 0), ("message", message),
        ("finish_reason", .string finishReason)]))) =
      { content := extractOpenaiContentText (message.get "content")
        reasoning := (message.getStr "reasoning_content").getD ""
        refusal := (message.getStr "refusal").getD ""
        toolCalls := ((message.getArray "tool_calls").getD []).mapIdx FoldedCall.ofDelta
        finishReason := some finishReason } := by
  rw [ofCompletion_choice]
  simp only [Value.get_ofFields, Value.getStr_ofFields]
  rfl

/-! ## The blocks of an Anthropic message -/

/-- The text of a message. -/
def textOf (blocks : List Value) : String :=
  String.join (blocks.filterMap fun block =>
    if block.getStr "type" = some "text" then block.getStr "text" else none)

/-- The thinking of a message. -/
def thinkingOf (blocks : List Value) : String :=
  String.join (blocks.filterMap fun block =>
    if block.getStr "type" = some "thinking" then block.getStr "thinking" else none)

@[simp] theorem textOf_nil : textOf [] = "" := rfl

@[simp] theorem thinkingOf_nil : thinkingOf [] = "" := rfl

theorem textOf_cons (block : Value) (blocks : List Value) :
    textOf (block :: blocks) =
      (if block.getStr "type" = some "text" then (block.getStr "text").getD "" else "") ++
        textOf blocks := by
  unfold textOf
  by_cases h : block.getStr "type" = some "text"
  · cases ht : block.getStr "text" <;> simp [h, ht]
  · simp [h]

theorem thinkingOf_cons (block : Value) (blocks : List Value) :
    thinkingOf (block :: blocks) =
      (if block.getStr "type" = some "thinking" then (block.getStr "thinking").getD "" else "") ++
        thinkingOf blocks := by
  unfold thinkingOf
  by_cases h : block.getStr "type" = some "thinking"
  · cases ht : block.getStr "thinking" <;> simp [h, ht]
  · simp [h]

theorem textOf_append (xs ys : List Value) : textOf (xs ++ ys) = textOf xs ++ textOf ys := by
  unfold textOf
  rw [List.filterMap_append, String.join_append]

theorem thinkingOf_append (xs ys : List Value) :
    thinkingOf (xs ++ ys) = thinkingOf xs ++ thinkingOf ys := by
  unfold thinkingOf
  rw [List.filterMap_append, String.join_append]

end LlmUniversalProxy.Streaming
