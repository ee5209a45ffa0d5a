import LlmUniversalProxy.Hooks.Accumulators
import LlmUniversalProxy.Streaming.AnthropicStreamed
import LlmUniversalProxy.Streaming.AnthropicUsage

/-!
# `Hooks.Rendering` — a complete message, and the events that tell it

Every API has two ways to give a message: as one body, and as events. Here it is said, for each API,
which events tell a body, and when two bodies hold the same message. Both are said from what a
client of the API makes of the fields; neither knows of an accumulator.

A text may be cut anywhere, also into empty pieces, and the pieces of different blocks or calls may
take turns in any way.
-/

set_option autoImplicit false

namespace LlmUniversalProxy.Hooks

open Json Lib Streaming Translate

/-! ## Fields -/

def given (v : Value) (k : String) : Option Value := (v.get k).filter fun x => !x.isNull

/-- The text of a field. One that is absent, null or empty says nothing. -/
def saidText (v : Value) (k : String) : String := (v.getStr k).getD ""

def usageField (body : Value) (k : String) : Option Value := (body.get "usage").bind (given · k)

/-- The bodies give the same usage. -/
def SameBodyUsage (body message : Value) : Prop := ∀ k, usageField body k = usageField message k

/-- The input and the output that the hooks are told of; `none` is a panic. -/
def billed (usage : Option NormalizedUsage) : Option (Option Nat × Option Nat) :=
  usage.map fun usage => (usage.inputTokens, usage.outputTokens)

/-- Two objects with the same fields. -/
def SameFields (v w : Value) : Prop := ∀ k, v.get k = w.get k

/-- What came last: the first one counts only where nothing came behind it. -/
theorem getLast?_filterMap_cons {α β : Type} (f : α → Option β) (a : α) (as : List α)
    (before : Option β) : ((a :: as).filterMap f).getLast?.or before =
      (as.filterMap f).getLast?.or ((f a).or before) := by
  rw [List.filterMap_cons]
  cases f a with
  | none => rfl
  | some b =>
    rw [List.getLast?_cons]
    cases (as.filterMap f).getLast? with
    | none => rfl
    | some last => rfl

/-! ## Anthropic -/

/-- A text field behind these pieces. -/
def grownText (start : Option Value) (pieces : List String) : Option Value :=
  if pieces = [] then start
  else some (.string ((start.bind Value.asStr).getD "" ++ String.join pieces))

def piecesOfKind (kind field : String) (deltas : List Value) : List String :=
  deltas.filterMap fun delta =>
    if delta.getStr "type" = some kind then some (saidText delta field) else none

/-- A delta of a kind that the block can have: texts grow in text blocks, thoughts and signatures in
thinking, and any other block takes input. -/
def deltaBelongs (block delta : Value) : Bool :=
  match delta.getStr "type" with
  | some "text_delta" => block.getStr "type" = some "text"
  | some "thinking_delta" | some "signature_delta" => block.getStr "type" = some "thinking"
  | some "input_json_delta" =>
      block.getStr "type" ≠ some "text" && block.getStr "type" ≠ some "thinking"
  | _ => false

def grownFields : List String := ["text", "thinking", "signature", "input"]

/-- A block, told by what it is when it starts and by its deltas. -/
structure ToldBlock (serde : Serde) (block started : Value) (deltas : List Value) : Prop where
  object : started.isObject = true
  belong : ∀ delta ∈ deltas, deltaBelongs block delta = true
  text : block.get "text" =
    grownText (started.get "text") (piecesOfKind "text_delta" "text" deltas)
  thinking : block.get "thinking" =
    grownText (started.get "thinking") (piecesOfKind "thinking_delta" "thinking" deltas)
  signature : block.get "signature" =
    grownText (started.get "signature") (piecesOfKind "signature_delta" "signature" deltas)
  /-- The pieces of an input are one document. Where they are empty, the input is there from the
  start. -/
  input : let raw := String.join (piecesOfKind "input_json_delta" "partial_json" deltas)
    if raw = "" then block.get "input" = started.get "input"
    else (fromStr serde raw).isSome ∧ block.get "input" = fromStr serde raw
  rest : ∀ k ∉ grownFields, block.get k = started.get k

def TellsBlock (serde : Serde) (index : Nat) (block : Value) (events : List Value) : Prop :=
  ∃ start started deltaEvents deltas stop, events = start :: (deltaEvents ++ [stop]) ∧
    IsBlockStart index start started ∧ List.Forall₂ (IsBlockDelta index) deltaEvents deltas ∧
    IsBlockEvent "content_block_stop" index stop ∧ ToldBlock serde block started deltas

/-- An event that keeps the connection open. -/
def isPing (event : Value) : Bool := event.getStr "type" = some "ping"

def toldIndex (event : Value) : Option Nat := if isPing event then none else blockIndexOf event

/-- The events of the blocks of a message, in any order that keeps the order within a block. -/
structure TellsBlocks (serde : Serde) (blocks events : List Value) : Prop where
  indexed : ∀ event ∈ events, isPing event = true ∨ ∃ index < blocks.length,
    blockIndexOf event = some index
  each : ∀ index block, blocks[index]? = some block →
    TellsBlock serde index block (events.filter fun event => toldIndex event = some index)

/-- The stop reason that a `message_delta` brings. -/
def deltaStopReason (event : Value) : Option String :=
  if event.getStr "type" = some "message_delta" then
    (event.get "delta").bind (Value.getStr · "stop_reason")
  else none

/-- The events of an Anthropic message. Its stop reason and its usage are in the message that is
started, and in the deltas of the message; what comes later counts. -/
structure TellsMessage (serde : Serde) (message : Value) (blocks : List Value) (start started : Value)
    (blockEvents messageDeltas : List Value) (stop : Value) : Prop where
  content : message.getArray "content" = some blocks
  startType : start.getStr "type" = some "message_start"
  holds : start.get "message" = some started
  object : started.isObject = true
  told : TellsBlocks serde blocks blockEvents
  deltas : ∀ event ∈ messageDeltas,
    isPing event = true ∨ event.getStr "type" = some "message_delta"
  stopType : stop.getStr "type" = some "message_stop"
  stopReason : message.getStr "stop_reason" =
    (messageDeltas.filterMap deltaStopReason).getLast?.or (started.getStr "stop_reason")
  usage : ∀ k, usageField message k =
    ((reportedUsages (start :: messageDeltas)).filterMap (given · k)).getLast?

/-- The same blocks, the same stop reason and the same usage. -/
structure SameMessage (body message : Value) : Prop where
  content : ∃ bodyBlocks blocks, body.getArray "content" = some bodyBlocks ∧
    message.getArray "content" = some blocks ∧ List.Forall₂ SameFields bodyBlocks blocks
  stopReason : body.getStr "stop_reason" = message.getStr "stop_reason"
  usage : SameBodyUsage body message

/-! ## Chat Completions -/

def choiceOf (body : Value) : Option Value := (body.getArray "choices").bind List.head?

def completionMessage (body : Value) : Value :=
  ((choiceOf body).bind (Value.get · "message")).getD .null

def completionCalls (body : Value) : List Value :=
  ((completionMessage body).getArray "tool_calls").getD []

def completionFinish (body : Value) : Option String :=
  (choiceOf body).bind (Value.getStr · "finish_reason")

def chunkDeltas (chunks : List Value) : List Value :=
  (chunks.filterMap choiceOf).map fun choice => (choice.get "delta").getD .null

def functionField (call : Value) (k : String) : Option String :=
  (call.get "function").bind (Value.getStr · k)

/-- A call, told by its pieces: one of them names it, and the arguments may be cut. -/
structure TellsCall (call : Value) (pieces : List Value) : Prop where
  told : pieces ≠ []
  id : call.getStr "id" = (pieces.filterMap (Value.getStr · "id")).getLast?
  name : (functionField call "name").getD "" =
    (pieces.filterMap (functionField · "name")).getLast?.getD ""
  arguments : (functionField call "arguments").getD "" =
    String.join (pieces.map fun piece => (functionField piece "arguments").getD "")

/-- The pieces of the calls, in any order that keeps the order within a call. -/
structure TellsCalls (calls pieces : List Value) : Prop where
  indexed : ∀ piece ∈ pieces, ∃ index < calls.length, piece.getU64 "index" = some index
  each : ∀ index call, calls[index]? = some call →
    TellsCall call (pieces.filter fun piece => piece.getU64 "index" = some index)

/-- The chunks of a completion. The usage comes with the last chunk that speaks of it. -/
structure TellsCompletion (body : Value) (chunks : List Value) : Prop where
  content : saidText (completionMessage body) "content" =
    String.join ((chunkDeltas chunks).map (saidText · "content"))
  reasoning : saidText (completionMessage body) "reasoning_content" =
    String.join ((chunkDeltas chunks).map (saidText · "reasoning_content"))
  calls : TellsCalls (completionCalls body)
    ((chunkDeltas chunks).flatMap fun delta => (delta.getArray "tool_calls").getD [])
  finish : ∃ reason, completionFinish body = some reason ∧
    ((chunks.filterMap choiceOf).filterMap (Value.getStr · "finish_reason")).getLast? = some reason
  usage : ∀ k, usageField body k =
    (chunks.filterMap (Value.get · "usage")).getLast?.bind (given · k)

/-- The same call. -/
structure SameCall (call other : Value) : Prop where
  id : call.getStr "id" = other.getStr "id"
  kind : call.getStr "type" = other.getStr "type"
  name : (functionField call "name").getD "" = (functionField other "name").getD ""
  arguments : (functionField call "arguments").getD "" = (functionField other "arguments").getD ""

/-- The same text and reasoning, the same calls, the same reason to stop and the same usage. -/
structure SameCompletion (body message : Value) : Prop where
  content : saidText (completionMessage body) "content" =
    saidText (completionMessage message) "content"
  reasoning : saidText (completionMessage body) "reasoning_content" =
    saidText (completionMessage message) "reasoning_content"
  calls : List.Forall₂ SameCall (completionCalls body) (completionCalls message)
  finish : completionFinish body = completionFinish message
  usage : SameBodyUsage body message

/-! ## Responses -/

/-- The events of a response: the one that ends it holds it all. -/
def TellsResponse (response : Value) (events : List Value) : Prop :=
  ∃ before terminal after, events = before ++ terminal :: after ∧
    isResponsesTerminal terminal = true ∧ terminal.get "response" = some response ∧
    ∀ event ∈ before ++ after, isResponsesTerminal event = false

/-- The same item, but for a note that it can not be replayed. -/
def SameItem (item other : Value) : Prop :=
  ∀ k ≠ nonReplayableToolCallField, item.get k = other.get k

/-- The same response: its status and its usage with all other fields, and the items it holds. -/
structure SameResponse (body message : Value) : Prop where
  output : (body.getArray "output").isSome = (message.getArray "output").isSome ∧
    List.Forall₂ SameItem ((body.getArray "output").getD []) ((message.getArray "output").getD [])
  rest : ∀ k ≠ "output", body.get k = message.get k

/-! ## All APIs -/

def Renders (serde : Serde) : UpstreamFormat → Value → List Value → Prop
  | .anthropic, message, events => ∃ blocks start started blockEvents messageDeltas stop,
      events = start :: (blockEvents ++ (messageDeltas ++ [stop])) ∧
      TellsMessage serde message blocks start started blockEvents messageDeltas stop
  | .openAiChatCompletions, message, events =>
      TellsCompletion message (events.filter fun event => !isDone event)
  | .openAiResponses, message, events => TellsResponse message events

/-- The bodies hold the same message. -/
def SameBody : UpstreamFormat → Value → Value → Prop
  | .anthropic => SameMessage
  | .openAiChatCompletions => SameCompletion
  | .openAiResponses => SameResponse

/-- The observer has the message in the end, and bills what it says. -/
def Reconstructed (env : Env) (checks : Bool) (format : UpstreamFormat) (message : Value)
    (events : List Value) : Prop :=
  ∃ accumulator, (ClientSseAccumulator.new format).run env.serde events true = some accumulator ∧
    SameBody format (accumulator.finalResponseBody env) message ∧
    billed (accumulator.finalUsage checks) =
      billed (NormalizedUsage.fromClientBody checks format message)

end LlmUniversalProxy.Hooks
