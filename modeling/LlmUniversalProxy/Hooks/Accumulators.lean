import LlmUniversalProxy.Hooks.Terminal
import LlmUniversalProxy.Translate.ToolCalls
import LlmUniversalProxy.Usage

/-!
# `Hooks.Accumulators` — the body of a streamed response, put together again

The exchange hook reports a streamed response as one body. An accumulator takes the events of the
stream one by one; it has one form for each format of the client. When there is no exchange to
capture it only keeps what the usage hook needs.

Some of the assignments go through `IndexMut` of `serde_json`, which panics on anything that is
neither an object nor null. So an accumulator may fail on an event; `none` is a panic.

The source is `hooks.rs` 1618-2215, with the markers of calls that were cut off (1677-1767). What
the fields of a usage come to is not said here but in `UsageMapping`.
-/

set_option autoImplicit false

namespace LlmUniversalProxy.Hooks

open Json Lib Translate

/-! ## Calls that cannot be replayed -/

/-- `raw_json_is_valid_object`. -/
def rawJsonIsValidObject (serde : Serde) (raw : String) : Bool :=
  !Text.isBlank raw && (fromStr serde raw).any Value.isObject

/-- `non_replayable_tool_call_signature`. -/
def nonReplayableToolCallSignature (env : Env) (name raw : String) : String :=
  env.signature (.ofFields [("v", .nat 1), ("reason", .string "incomplete_arguments"),
    ("name", .string name), ("raw", .string raw)])

/-- `mark_tool_call_as_non_replayable`. -/
def markToolCallAsNonReplayable (env : Env) (value : Value) : Value :=
  let name := ((((value.get "function").bind (Value.get · "name")).or (value.get "name")).bind
    Value.asStr).getD ""
  let raw := (((((value.get "function").bind (Value.get · "arguments")).or
    (value.get "arguments")).or (value.get "input")).bind Value.asStr).getD ""
  if value.isObject then
    value.set nonReplayableToolCallField (.ofFields [("reason", .string "incomplete_arguments"),
      ("v", .nat 1), ("sig", .string (nonReplayableToolCallSignature env name raw))])
  else value

def argumentsAreInvalid (serde : Serde) (raw : Option String) : Bool :=
  raw.any fun raw => !Text.isBlank raw && !rawJsonIsValidObject serde raw

/-- `openai_tool_call_has_invalid_structured_arguments`. -/
def openaiToolCallHasInvalidStructuredArguments (serde : Serde) (toolCall : Value) : Bool :=
  argumentsAreInvalid serde ((toolCall.get "function").bind (Value.getStr · "arguments"))

/-- `responses_tool_call_has_invalid_structured_arguments`. -/
def responsesToolCallHasInvalidStructuredArguments (serde : Serde) (item : Value) : Bool :=
  argumentsAreInvalid serde (((item.get "arguments").or (item.get "input")).bind Value.asStr)

/-- `finish_reason_allows_partial_tool_calls`. -/
def finishReasonAllowsPartialToolCalls (finishReason : Option String) : Bool :=
  finishReason = some "length" || finishReason = some "pause_turn"

/-- `responses_status_allows_partial_tool_calls`. -/
def responsesStatusAllowsPartialToolCalls (response : Value) : Bool :=
  let reason := (response.get "incomplete_details").bind (Value.getStr · "reason")
  response.getStr "status" = some "incomplete" &&
    (reason = some "max_output_tokens" || reason = some "pause_turn")

/-! ## Chat Completions -/

/-- `OpenAiToolCallAccumulator`. -/
structure OpenAiToolCallAccumulator where
  id : Option String := none
  name : String := ""
  arguments : String := ""
  deriving DecidableEq, Repr

/-- `entry(index).or_default()` of a `BTreeMap`, changed in place. -/
def updateEntry (index : Nat) (f : OpenAiToolCallAccumulator → OpenAiToolCallAccumulator) :
    List (Nat × OpenAiToolCallAccumulator) → List (Nat × OpenAiToolCallAccumulator)
  | [] => [(index, f {})]
  | (other, entry) :: rest =>
      if index = other then (index, f entry) :: rest
      else if index < other then (index, f {}) :: (other, entry) :: rest
      else (other, entry) :: updateEntry index f rest

/-- What a delta says about a call. -/
def OpenAiToolCallAccumulator.take (self : OpenAiToolCallAccumulator) (toolCall : Value) :
    OpenAiToolCallAccumulator where
  id := (toolCall.getStr "id").or self.id
  name := ((toolCall.get "function").bind (Value.getStr · "name")).getD self.name
  arguments := self.arguments ++
    ((toolCall.get "function").bind (Value.getStr · "arguments")).getD ""

/-- `OpenAiChatCompletionsAccumulator`. -/
structure OpenAiChatCompletionsAccumulator where
  id : Option String := none
  created : Option Nat := none
  model : Option String := none
  role : Option String := none
  content : String := ""
  finishReason : Option String := none
  usage : Option Value := none
  toolCalls : List (Nat × OpenAiToolCallAccumulator) := []
  protocolTerminal : Option ProtocolTerminal := none
  deriving DecidableEq, Repr

namespace OpenAiChatCompletionsAccumulator

/-- The part of a chunk that is not about its choice. -/
def takeChunk (self : OpenAiChatCompletionsAccumulator) (event : Value) (captureExchange : Bool) :
    OpenAiChatCompletionsAccumulator :=
  { self with
    protocolTerminal := (openaiProtocolTerminal event).or self.protocolTerminal
    id := if captureExchange then self.id.or (event.getStr "id") else self.id
    created := if captureExchange then self.created.or (event.getU64 "created") else self.created
    model := if captureExchange then self.model.or (event.getStr "model") else self.model
    usage := (event.get "usage").or self.usage }

/-- The delta of a choice. -/
def takeDelta (self : OpenAiChatCompletionsAccumulator) (delta : Value) :
    OpenAiChatCompletionsAccumulator :=
  { self with
    role := (delta.getStr "role").or self.role
    content := self.content ++ (delta.getStr "content").getD ""
    toolCalls := ((delta.getArray "tool_calls").getD []).foldl (fun toolCalls toolCall =>
      updateEntry ((toolCall.getU64 "index").getD 0) (·.take toolCall) toolCalls) self.toolCalls }

/-- `on_event`. -/
def onEvent (self : OpenAiChatCompletionsAccumulator) (event : Value) (captureExchange : Bool) :
    OpenAiChatCompletionsAccumulator :=
  if isDone event then
    { self with protocolTerminal := self.protocolTerminal.or (some doneTerminal) }
  else
    let self := self.takeChunk event captureExchange
    match (event.getArray "choices").bind List.head? with
    | none => self
    | some choice =>
        let self := { self with finishReason := (choice.getStr "finish_reason").or self.finishReason }
        if captureExchange then self.takeDelta ((choice.get "delta").getD .null) else self

/-- A call as the body shows it. -/
def toolCallValue (entry : Nat × OpenAiToolCallAccumulator) : Value := .ofFields
  [("index", .nat entry.1), ("id", .ofOptionStr entry.2.id), ("type", .string "function"),
    ("function", .ofFields [("name", .string entry.2.name),
      ("arguments", .string entry.2.arguments)])]

/-- `final_body`. -/
def finalBody (self : OpenAiChatCompletionsAccumulator) (env : Env) : Value :=
  let message := Value.ofFields
    [("role", .string (self.role.getD "assistant")), ("content", .string self.content)]
  let toolCalls := (self.toolCalls.map toolCallValue).map fun toolCall =>
    if finishReasonAllowsPartialToolCalls self.finishReason &&
        openaiToolCallHasInvalidStructuredArguments env.serde toolCall then
      markToolCallAsNonReplayable env toolCall
    else toolCall
  let message := if self.toolCalls.isEmpty then message
    else message.set "tool_calls" (.array toolCalls)
  let out := Value.ofFields [("id", .ofOptionStr self.id), ("object", .string "chat.completion"),
    ("created", .nat (self.created.getD 0)), ("model", .string (self.model.getD "")),
    ("choices", .array [.ofFields [("index", .nat 0), ("message", message),
      ("finish_reason", .string (self.finishReason.getD "stop"))]])]
  match self.usage with
  | some usage => out.set "usage" usage
  | none => out

end OpenAiChatCompletionsAccumulator

/-! ## Responses -/

/-- `ResponsesAccumulator`. -/
structure ResponsesAccumulator where
  finalResponse : Option Value := none
  usage : Option Value := none
  protocolTerminal : Option ProtocolTerminal := none
  deriving DecidableEq, Repr

/-- The types of the events that end a response. -/
def isResponsesTerminal (event : Value) : Bool :=
  match event.getStr "type" with
  | some "response.completed" | some "response.incomplete" | some "response.failed" => true
  | _ => false

namespace ResponsesAccumulator

/-- `on_event`. -/
def onEvent (self : ResponsesAccumulator) (event : Value) (captureExchange : Bool) :
    ResponsesAccumulator :=
  let self := { self with
    protocolTerminal := (responsesProtocolTerminal event).or self.protocolTerminal }
  match event.get "response" with
  | none => self
  | some response =>
      if isResponsesTerminal event then
        { self with
          finalResponse := if captureExchange then some response else self.finalResponse
          usage := response.get "usage" }
      else self

/-- A call of a response that is marked when its arguments are not complete. -/
def markedItem (env : Env) (item : Value) : Value :=
  let itemType := item.getStr "type"
  if (itemType = some "function_call" || itemType = some "custom_tool_call") &&
      responsesToolCallHasInvalidStructuredArguments env.serde item then
    markToolCallAsNonReplayable env item
  else item

/-- `final_body`. -/
def finalBody (self : ResponsesAccumulator) (env : Env) : Value :=
  let response := self.finalResponse.getD (.ofFields [])
  if responsesStatusAllowsPartialToolCalls response then
    match response.getArray "output" with
    | some output => response.set "output" (.array (output.map (markedItem env)))
    | none => response
  else response

end ResponsesAccumulator

/-! ## Anthropic -/

/-- `value[key] = x` (`IndexMut`): a panic on what is neither an object nor null. -/
def assign (v : Value) (k : String) (x : Value) : Option Value :=
  if v.isObject || v.isNull then some (v.set k x) else none

/-- `AnthropicAccumulator`. -/
structure AnthropicAccumulator where
  message : Value := .null
  error : Option Value := none
  usage : Option Value := none
  lastStopReason : Option String := none
  protocolTerminal : Option ProtocolTerminal := none
  deriving DecidableEq, Repr

/-- The message that stands in when none was started. -/
def placeholderMessage : Value := .ofFields [("id", .null), ("type", .string "message"),
  ("role", .string "assistant"), ("content", .array []), ("model", .null), ("stop_reason", .null),
  ("stop_sequence", .null)]

/-- `ensure_content_array`: the message and its content. Where there is no list under `content` the
`unwrap` panics. -/
def ensureContentArray (message : Value) : Option (Value × List Value) :=
  let message := if message.isNull then placeholderMessage else message
  (message.getArray "content").map fun content => (message, content)

def grownTo (index : Nat) (content : List Value) : List Value :=
  content ++ List.replicate (index + 1 - content.length) (.ofFields [])

def appendText (block : Value) (field add : String) : Option Value :=
  assign block field (.string ((block.getStr field).getD "" ++ add))

/-- What a delta does to its block; `none` is a panic. -/
def blockWithDelta (block delta : Value) : Option Value :=
  match delta.getStr "type" with
  | some "text_delta" => do
      -- the text is read before the type is written
      let grown ← assign block "type" (.string "text")
      assign grown "text"
        (.string ((block.getStr "text").getD "" ++ (delta.getStr "text").getD ""))
  | some "thinking_delta" => do
      let grown ← assign block "type" (.string "thinking")
      assign grown "thinking"
        (.string ((block.getStr "thinking").getD "" ++ (delta.getStr "thinking").getD ""))
  | some "input_json_delta" =>
      appendText block "input_json_raw" ((delta.getStr "partial_json").getD "")
  | _ => some block

/-- A block at the end of its message: the fragments of its input are read as one. -/
def finishedBlock (serde : Serde) (block : Value) : Value :=
  let block := match (block.getStr "input_json_raw").bind (fromStr serde) with
    | some parsed => block.set "input" parsed
    | none => block
  block.remove "input_json_raw"

namespace AnthropicAccumulator

/-- The content of the message, changed; `none` is a panic. -/
def changeContent (self : AnthropicAccumulator) (f : List Value → Option (List Value)) :
    Option AnthropicAccumulator := do
  let (message, content) ← ensureContentArray self.message
  let content ← f content
  some { self with message := message.set "content" (.array content) }

/-- `message_start`. -/
def messageStart (self : AnthropicAccumulator) (event : Value) : Option AnthropicAccumulator :=
  match event.get "message" with
  | none => some self
  | some message =>
      (assign message "content" (.array [])).map fun message => { self with message }

/-- `content_block_start`. -/
def contentBlockStart (self : AnthropicAccumulator) (event : Value) : Option AnthropicAccumulator :=
  match event.getU64 "index", event.get "content_block" with
  | some index, some block =>
      self.changeContent fun content => some ((grownTo index content).set index block)
  | _, _ => some self

/-- `content_block_delta`. -/
def contentBlockDelta (self : AnthropicAccumulator) (event : Value) : Option AnthropicAccumulator :=
  match event.getU64 "index", event.get "delta" with
  | some index, some delta =>
      self.changeContent fun content => do
        let content := grownTo index content
        let block ← content[index]?
        let block ← blockWithDelta block delta
        some (content.set index block)
  | _, _ => some self

/-- A field of the message, where an exchange is captured. -/
def setMessage (self : AnthropicAccumulator) (captureExchange : Bool) (k : String) (x : Value) :
    Option AnthropicAccumulator :=
  if captureExchange then (assign self.message k x).map fun message => { self with message }
  else some self

/-- The stop reason in a `message_delta`. -/
def takeStopReason (self : AnthropicAccumulator) (event : Value) (captureExchange : Bool) :
    Option AnthropicAccumulator :=
  match (event.get "delta").bind (Value.getStr · "stop_reason") with
  | none => some self
  | some stopReason =>
      { self with lastStopReason := some stopReason }.setMessage captureExchange "stop_reason"
        (.string stopReason)

/-- The usage in a `message_delta`. -/
def takeUsage (self : AnthropicAccumulator) (event : Value) (captureExchange : Bool) :
    Option AnthropicAccumulator :=
  match event.get "usage" with
  | none => some self
  | some usage =>
      (self.setMessage captureExchange "usage" usage).map fun self => { self with usage := some usage }

/-- `message_delta`. -/
def messageDelta (self : AnthropicAccumulator) (event : Value) (captureExchange : Bool) :
    Option AnthropicAccumulator :=
  (self.takeStopReason event captureExchange).bind (·.takeUsage event captureExchange)

/-- `message_stop`, where there is a body to finish. -/
def messageStop (self : AnthropicAccumulator) (serde : Serde) : AnthropicAccumulator :=
  match self.message.getArray "content" with
  | none => self
  | some content =>
      { self with message :=
          self.message.set "content" (.array (content.map (finishedBlock serde))) }

/-- What an event of each type does, but for the terminal. -/
def take (self : AnthropicAccumulator) (serde : Serde) (event : Value) (captureExchange : Bool) :
    Option AnthropicAccumulator :=
  match event.getStr "type" with
  | some "error" => some (if captureExchange then { self with error := some event } else self)
  | some "message_start" => if captureExchange then self.messageStart event else some self
  | some "content_block_start" => if captureExchange then self.contentBlockStart event else some self
  | some "content_block_delta" => if captureExchange then self.contentBlockDelta event else some self
  | some "message_delta" => self.messageDelta event captureExchange
  | some "message_stop" => some (if captureExchange then self.messageStop serde else self)
  | _ => some self

/-- `on_event`: the events that return early have no terminal. -/
def onEvent (self : AnthropicAccumulator) (serde : Serde) (event : Value) (captureExchange : Bool) :
    Option AnthropicAccumulator :=
  (self.take serde event captureExchange).map fun taken => { taken with
    protocolTerminal :=
      (anthropicProtocolTerminal event taken.lastStopReason).or taken.protocolTerminal }

/-- `final_body`. -/
def finalBody (self : AnthropicAccumulator) : Value := self.error.getD self.message

end AnthropicAccumulator

/-! ## All formats -/

/-- `ClientSseAccumulator`. -/
inductive ClientSseAccumulator where
  | openAiChatCompletions (accumulator : OpenAiChatCompletionsAccumulator)
  | responses (accumulator : ResponsesAccumulator)
  | anthropic (accumulator : AnthropicAccumulator)
  deriving DecidableEq, Repr

namespace ClientSseAccumulator

/-- `new`. -/
def new : UpstreamFormat → ClientSseAccumulator
  | .openAiChatCompletions => .openAiChatCompletions {}
  | .openAiResponses => .responses {}
  | .anthropic => .anthropic {}

/-- `on_event`; `none` is a panic. -/
def onEvent (serde : Serde) (self : ClientSseAccumulator) (event : Value) (captureExchange : Bool) :
    Option ClientSseAccumulator :=
  match self with
  | .openAiChatCompletions accumulator =>
      some (.openAiChatCompletions (accumulator.onEvent event captureExchange))
  | .responses accumulator => some (.responses (accumulator.onEvent event captureExchange))
  | .anthropic accumulator =>
      (accumulator.onEvent serde event captureExchange).map .anthropic

/-- The events of a stream, one after the other. -/
def run (serde : Serde) (self : ClientSseAccumulator) (events : List Value)
    (captureExchange : Bool) : Option ClientSseAccumulator :=
  events.foldlM (fun self event => self.onEvent serde event captureExchange) self

/-- `final_response_body`. -/
def finalResponseBody (env : Env) : ClientSseAccumulator → Value
  | .openAiChatCompletions accumulator => accumulator.finalBody env
  | .responses accumulator => accumulator.finalBody env
  | .anthropic accumulator => accumulator.finalBody

/-- The usage that was seen last. -/
def usage : ClientSseAccumulator → Option Value
  | .openAiChatCompletions accumulator => accumulator.usage
  | .responses accumulator => accumulator.usage
  | .anthropic accumulator => accumulator.usage

/-- `format` of the client. -/
def format : ClientSseAccumulator → UpstreamFormat
  | .openAiChatCompletions _ => .openAiChatCompletions
  | .responses _ => .openAiResponses
  | .anthropic _ => .anthropic

/-- `final_usage`; `none` is a panic. -/
def finalUsage (checks : Bool) (self : ClientSseAccumulator) : Option NormalizedUsage :=
  match self.usage with
  | some usage => NormalizedUsage.fromClientBody checks self.format (.ofFields [("usage", usage)])
  | none => some ⟨none, none, none, none, none, none, none⟩

/-- `protocol_terminal`. -/
def protocolTerminal : ClientSseAccumulator → Option ProtocolTerminal
  | .openAiChatCompletions accumulator => accumulator.protocolTerminal
  | .responses accumulator => accumulator.protocolTerminal
  | .anthropic accumulator => accumulator.protocolTerminal

end ClientSseAccumulator
end LlmUniversalProxy.Hooks
