import LlmUniversalProxy.Server.ConversationStateBridge

/-!
# `Server.BridgeTranscript` — the items of a conversation, in and out of the store

A transcript is a list of Responses items in a normal form. The request side brings user and
assistant texts and tool outputs (`responsesBridgeInputItem`), the response side texts, reasoning
and tool calls (`responsesBridgeOutputItem`). `pendingBridgeToolCalls` reads a transcript and
answers the tool calls that have no output yet; it is what a continuation is checked against.

Errors carry the texts of the source. The list of pending calls appears in some of them in Rust's
`Debug` form; `debugString` follows its escapes, except that it shows every character beyond
ASCII as it is. What `serde_json` says about a text it refuses comes from `Serde`.

The source is `server/proxy.rs` 2419-3034.
-/

set_option autoImplicit false

namespace LlmUniversalProxy.Server

open Json Lib

/-! ## Fields -/

/-- `responses_bridge_item_type`. -/
def responsesBridgeItemType (item : Value) : Option String :=
  (item.getStr "type").or ((item.getStr "role").map fun _ => "message")

/-- `non_empty_string_field`. -/
def nonEmptyStringField (item : Value) (field itemType : String) : Except String String :=
  match (item.getStr field).filter fun value => !value.isEmpty with
  | some value => pure value
  | none => throw s!"conversation_state_bridge memory replay requires `{itemType}.{field}`"

/-- `responses_text_message_item`. -/
def responsesTextMessageItem (role textType text : String) : Value :=
  .ofFields [("type", .string "message"), ("role", .string role),
    ("content", .array [.ofFields [("type", .string textType), ("text", .string text)]])]

/-- The text of one part in `responses_text_content`. -/
def responsesTextPart (part : Value) : Except String String :=
  match part.getStr "type" with
  | some "input_text" | some "output_text" =>
      if (part.getArray "annotations").any fun annotations => !annotations.isEmpty then
        throw "conversation_state_bridge MVP only supports plain text content"
      else pure ((part.getStr "text").getD "")
  | some "refusal" => pure ((part.getStr "refusal").getD "")
  | _ => throw "conversation_state_bridge MVP only supports text content"

/-- `responses_text_content`. -/
def responsesTextContent (content : Option Value) : Except String String :=
  match content with
  | none | some .null => pure ""
  | some (.string text) => pure text
  | some (.array parts) => (parts.mapM responsesTextPart).map String.join
  | _ => throw "conversation_state_bridge MVP only supports text content"

/-! ## Tool calls -/

/-- `BridgeToolCallKind`. -/
inductive BridgeToolCallKind where
  | function
  | custom
  deriving DecidableEq, Repr

namespace BridgeToolCallKind

/-- `BridgeToolCallKind::call_item_type`. -/
def callItemType : BridgeToolCallKind → String
  | function => "function_call"
  | custom => "custom_tool_call"

/-- `BridgeToolCallKind::output_item_type`. -/
def outputItemType : BridgeToolCallKind → String
  | function => "function_call_output"
  | custom => "custom_tool_call_output"

def debug : BridgeToolCallKind → String
  | function => "Function"
  | custom => "Custom"

end BridgeToolCallKind

/-- `PendingBridgeToolCall`. -/
structure PendingBridgeToolCall where
  callId : String
  kind : BridgeToolCallKind
  deriving DecidableEq, Repr

/-- One character of a string's `Debug` form. -/
def debugChar (c : Char) : List Char :=
  if c = '"' then ['\\', '"']
  else if c = '\\' then ['\\', '\\']
  else if c = '\n' then ['\\', 'n']
  else if c = '\r' then ['\\', 'r']
  else if c = '\t' then ['\\', 't']
  else if c.toNat = 0 then ['\\', '0']
  else if c.toNat < 32 ∨ c.toNat = 127 then
    ['\\', 'u', '{'] ++ Nat.toDigits 16 c.toNat ++ ['}']
  else [c]

def debugString (s : String) : String :=
  String.ofList ('"' :: (s.toList.flatMap debugChar ++ ['"']))

/-- A pending call in `Debug` form. -/
def PendingBridgeToolCall.debug (self : PendingBridgeToolCall) : String :=
  "PendingBridgeToolCall \x7b call_id: " ++ debugString self.callId ++ ", kind: " ++
    self.kind.debug ++ " \x7d"

def debugPending (pending : List PendingBridgeToolCall) : String :=
  "[" ++ ", ".intercalate (pending.map PendingBridgeToolCall.debug) ++ "]"

/-- `bridge_tool_call_kind_for_item_type`. -/
def bridgeToolCallKindForItemType (itemType : String) : Option BridgeToolCallKind :=
  if itemType = "function_call" then some .function
  else if itemType = "custom_tool_call" then some .custom
  else none

/-- `bridge_tool_output_kind_for_item_type`. -/
def bridgeToolOutputKindForItemType (itemType : String) : Option BridgeToolCallKind :=
  if itemType = "function_call_output" then some .function
  else if itemType = "custom_tool_call_output" then some .custom
  else none

/-- `responses_bridge_tool_output_kind`. -/
def responsesBridgeToolOutputKind (item : Value) : Option BridgeToolCallKind :=
  (responsesBridgeItemType item).bind bridgeToolOutputKindForItemType

/-- `responses_tool_call_output_call_id`. -/
def responsesToolCallOutputCallId (item : Value) : Except String String :=
  nonEmptyStringField item "call_id" ((responsesBridgeItemType item).getD "tool_call_output")

/-- One item of a `responses_portable_tool_output` array. -/
def responsesPortableToolOutputItem (itemType : String) (item : Value) : Except String Value :=
  match item.getStr "type" with
  | some other =>
      if other = "input_text" ∨ other = "output_text" then
        pure (.ofFields [("type", .string other),
          ("text", .string ((item.getStr "text").getD ""))])
      else throw (s!"conversation_state_bridge memory replay cannot store `{itemType}.output` " ++
        s!"array item type `{other}`")
  | none => throw (s!"conversation_state_bridge memory replay requires typed text items in " ++
      s!"`{itemType}.output` arrays")

/-- `responses_portable_tool_output` (`server/proxy.rs` 2798-2834). -/
def responsesPortableToolOutput (output : Value) (itemType : String) (textOnlyOutput : Bool) :
    Except String Value :=
  match output with
  | .string _ => pure output
  | .array items => (items.mapM (responsesPortableToolOutputItem itemType)).map Value.array
  | _ =>
      if textOnlyOutput then
        throw (s!"conversation_state_bridge memory replay requires `{itemType}.output` to be a " ++
          "string or text array")
      else pure output

/-- `responses_tool_call_output_item` (`server/proxy.rs` 2569-2594). -/
def responsesToolCallOutputItem (item : Value) (itemType : String) (textOnlyOutput : Bool) :
    Except String Value :=
  if (item.get "namespace").isSome then
    throw ("conversation_state_bridge memory replay does not support namespaced " ++
      s!"`{itemType}` items")
  else if (item.get "proxied_tool_kind").isSome then
    throw ("conversation_state_bridge memory replay does not support proxied " ++
      s!"`{itemType}` replay")
  else do
    let callId ← nonEmptyStringField item "call_id" itemType
    match item.get "output" with
    | none => throw s!"conversation_state_bridge memory replay requires `{itemType}.output`"
    | some output =>
        let output ← responsesPortableToolOutput output itemType textOnlyOutput
        pure (.ofFields [("type", .string itemType), ("call_id", .string callId),
          ("output", output)])

/-- `responses_function_call_output_item`. -/
def responsesFunctionCallOutputItem (item : Value) : Except String Value :=
  responsesToolCallOutputItem item "function_call_output" false

/-- `responses_custom_tool_call_output_item`. -/
def responsesCustomToolCallOutputItem (item : Value) : Except String Value :=
  responsesToolCallOutputItem item "custom_tool_call_output" true

/-! ## The request side -/

/-- `responses_text_input_item` (`server/proxy.rs` 2460-2480). -/
def responsesTextInputItem (item : Value) : Except String Value :=
  let role := (item.getStr "role").getD "user"
  if responsesBridgeItemType item ≠ some "message" then
    throw "conversation_state_bridge MVP only replays text message input items"
  else if ¬ (role = "user" ∨ role = "assistant") then
    throw "conversation_state_bridge MVP only replays user/assistant text messages"
  else do
    let textType := if role = "assistant" then "output_text" else "input_text"
    let text ← responsesTextContent (item.get "content")
    pure (responsesTextMessageItem role textType text)

/-- `responses_bridge_input_item` (`server/proxy.rs` 2444-2458). -/
def responsesBridgeInputItem (item : Value) : Except String Value :=
  match responsesBridgeItemType item with
  | some "message" => responsesTextInputItem item
  | some "function_call_output" => responsesFunctionCallOutputItem item
  | some "custom_tool_call_output" => responsesCustomToolCallOutputItem item
  | some "function_call" | some "custom_tool_call" =>
      throw ("conversation_state_bridge memory replay only accepts assistant `function_call` or " ++
        "`custom_tool_call` items from captured upstream output")
  | _ => throw ("conversation_state_bridge replay only supports text message, " ++
      "`function_call_output`, and `custom_tool_call_output` input items")

/-- `responses_bridge_input_items_from_body` (`server/proxy.rs` 2426-2442). -/
def responsesBridgeInputItemsFromBody (body : Value) : Except String (List Value) :=
  match body.get "input" with
  | none => throw "conversation_state_bridge replay requires OpenAI Responses `input`"
  | some (.string text) => pure [responsesTextMessageItem "user" "input_text" text]
  | some (.array items) => items.mapM responsesBridgeInputItem
  | some _ => throw ("conversation_state_bridge replay only supports text OpenAI Responses " ++
      "`input` or portable input items")

/-- `responses_bridge_continuation_items_from_body`. -/
def responsesBridgeContinuationItemsFromBody (body : Value) : Except String (List Value) :=
  if (body.get "input").isNone then pure [] else responsesBridgeInputItemsFromBody body

/-- `bridge_items_include_tool_output`. -/
def bridgeItemsIncludeToolOutput (items : List Value) : Bool :=
  items.any fun item => (responsesBridgeToolOutputKind item).isSome

/-! ## The response side -/

/-- `responses_text_output_item` (`server/proxy.rs` 2915-2936). -/
def responsesTextOutputItem (item : Value) : Except String Value :=
  if item.getStr "type" ≠ some "message" then
    throw "conversation_state_bridge MVP only captures assistant text message output"
  else if (item.getStr "role").getD "assistant" ≠ "assistant" then
    throw "conversation_state_bridge MVP only captures assistant text message output"
  else do
    let text ← responsesTextContent (item.get "content")
    pure (responsesTextMessageItem "assistant" "output_text" text)

/-- One part of a reasoning summary that is kept. -/
def responsesSummaryPart (part : Value) : Option Value :=
  if part.getStr "type" ≠ some "summary_text" then none
  else (part.getStr "text").map fun text =>
    .ofFields [("type", .string "summary_text"), ("text", .string text)]

/-- `responses_reasoning_output_item` (`server/proxy.rs` 2938-2968). -/
def responsesReasoningOutputItem (item : Value) : Except String (Option Value) :=
  if item.getStr "type" ≠ some "reasoning" then
    throw "conversation_state_bridge memory capture only captures `reasoning` output items"
  else
    match item.getArray "summary" with
    | none => pure none
    | some parts =>
        let summary := parts.filterMap responsesSummaryPart
        if summary.isEmpty then pure none
        else pure (some (.ofFields [("type", .string "reasoning"), ("summary", .array summary)]))

/-- `validate_json_object_arguments` (`server/proxy.rs` 3021-3034). -/
def validateJsonObjectArguments (serde : Serde) (arguments : String) : Except String Unit :=
  match fromStr serde arguments with
  | none => throw ("conversation_state_bridge memory capture requires " ++
      s!"`function_call.arguments` to be valid JSON object text: {serde.errorText arguments}")
  | some value =>
      if value.isObject then pure ()
      else throw ("conversation_state_bridge memory capture requires " ++
        "`function_call.arguments` to decode to a JSON object")

/-- `responses_function_call_item` (`server/proxy.rs` 2970-2993). -/
def responsesFunctionCallItem (serde : Serde) (item : Value) : Except String Value :=
  if (item.get "namespace").isSome then
    throw ("conversation_state_bridge memory capture does not support namespaced " ++
      "`function_call` output")
  else if (item.get "proxied_tool_kind").isSome then
    throw "conversation_state_bridge memory capture does not support proxied tool call replay"
  else do
    let callId ← nonEmptyStringField item "call_id" "function_call"
    let name ← nonEmptyStringField item "name" "function_call"
    let arguments ← nonEmptyStringField item "arguments" "function_call"
    validateJsonObjectArguments serde arguments
    pure (.ofFields [("type", .string "function_call"), ("call_id", .string callId),
      ("name", .string name), ("arguments", .string arguments)])

/-- `responses_custom_tool_call_item` (`server/proxy.rs` 2995-3019). -/
def responsesCustomToolCallItem (item : Value) : Except String Value :=
  if (item.get "namespace").isSome then
    throw ("conversation_state_bridge memory capture does not support namespaced " ++
      "`custom_tool_call` output")
  else if (item.get "proxied_tool_kind").isSome then
    throw ("conversation_state_bridge memory capture does not support proxied custom tool " ++
      "call replay")
  else do
    let callId ← nonEmptyStringField item "call_id" "custom_tool_call"
    let name ← nonEmptyStringField item "name" "custom_tool_call"
    match item.getStr "input" with
    | none =>
        throw "conversation_state_bridge memory capture requires `custom_tool_call.input`"
    | some input =>
        pure (.ofFields [("type", .string "custom_tool_call"), ("call_id", .string callId),
          ("name", .string name), ("input", .string input)])

/-- `responses_bridge_output_item` (`server/proxy.rs` 2902-2913). -/
def responsesBridgeOutputItem (serde : Serde) (item : Value) : Except String (Option Value) :=
  match responsesBridgeItemType item with
  | some "message" => (responsesTextOutputItem item).map some
  | some "reasoning" => responsesReasoningOutputItem item
  | some "function_call" => (responsesFunctionCallItem serde item).map some
  | some "custom_tool_call" => (responsesCustomToolCallItem item).map some
  | _ => throw ("conversation_state_bridge memory capture only supports assistant text message " ++
      "output, visible `reasoning` summary, `function_call`, and `custom_tool_call` output")

/-- `responses_bridge_output_items_from_response` (`server/proxy.rs` 2886-2900). -/
def responsesBridgeOutputItemsFromResponse (serde : Serde) (response : Value) :
    Except String (List Value) :=
  match response.getArray "output" with
  | none =>
      throw "conversation_state_bridge capture requires OpenAI Responses output array"
  | some output => do
      let items ← output.mapM (responsesBridgeOutputItem serde)
      pure (items.filterMap id)

/-! ## Pending calls -/

/-- The `match` in the loop of `pending_bridge_tool_calls`: what one item makes of the calls that
are pending before it. -/
def pendingAfterItem (pending : List PendingBridgeToolCall) (item : Value) :
    Except String (List PendingBridgeToolCall) :=
  match responsesBridgeItemType item with
  | none => throw ("conversation_state_bridge replay state contains an input item without `type`")
  | some itemType =>
      match bridgeToolCallKindForItemType itemType with
      | some kind => do
          let callId ← nonEmptyStringField item "call_id" itemType
          let pendingCall : PendingBridgeToolCall := ⟨callId, kind⟩
          -- the same id under another kind is no duplicate
          if pending.any fun other => other = pendingCall then
            throw (s!"conversation_state_bridge replay state contains duplicate pending " ++
              s!"{itemType} call_id `{callId}`")
          else pure (pending ++ [pendingCall])
      | none =>
          match bridgeToolOutputKindForItemType itemType with
          | some kind => do
              let callId ← responsesToolCallOutputCallId item
              if !(pending.any fun other => other.callId = callId) then
                throw (s!"conversation_state_bridge replay state contains `{itemType}` for " ++
                  s!"unknown call_id `{callId}`")
              else
                match pending.findIdx? fun other => other.callId = callId ∧ other.kind = kind with
                | none =>
                    let expected := pending.find? fun other => other.callId = callId
                    let expectedOutputType :=
                      (expected.map fun other => other.kind.outputItemType).getD "tool_call_output"
                    throw (s!"conversation_state_bridge replay state contains `{itemType}` for " ++
                      s!"call_id `{callId}`, but pending call requires `{expectedOutputType}`")
                -- one call is answered, the first of this id and kind
                | some index => pure (pending.eraseIdx index)
          | none =>
              if itemType = "message" ∨ itemType = "reasoning" then pure pending
              else throw (s!"conversation_state_bridge replay state contains unsupported " ++
                s!"`{itemType}` item")

/-- `pending_bridge_tool_calls`, from the calls that are already pending. -/
def pendingFrom : List PendingBridgeToolCall → List Value →
    Except String (List PendingBridgeToolCall)
  | pending, [] => pure pending
  | pending, item :: items => do
      let pending ← pendingAfterItem pending item
      pendingFrom pending items

/-- `pending_bridge_tool_calls`. -/
def pendingBridgeToolCalls (items : List Value) : Except String (List PendingBridgeToolCall) :=
  pendingFrom [] items

/-! ## Continuations -/

/-- `first_bridge_tool_output_type`. -/
def firstBridgeToolOutputType (items : List Value) : String :=
  ((items.findSome? responsesBridgeToolOutputKind).map
    BridgeToolCallKind.outputItemType).getD "tool_call_output"

/-- `bridge_pending_output_type_summary`: the set of output types is walked in order. -/
def bridgePendingOutputTypeSummary (pending : List PendingBridgeToolCall) : String :=
  let kinds := pending.map PendingBridgeToolCall.kind
  " or ".intercalate (([BridgeToolCallKind.custom, .function].filter fun kind => kind ∈ kinds).map
    fun kind => s!"`{kind.outputItemType}`")

/-- The first loop of `validate_bridge_continuation_items`, over the items that have to be the
outputs of the pending calls; it answers the calls seen. -/
def validatePendingOutputs (pending : List PendingBridgeToolCall) :
    List PendingBridgeToolCall → List Value → Except String (List PendingBridgeToolCall)
  | seen, [] => pure seen
  | seen, item :: items =>
      match responsesBridgeToolOutputKind item with
      | none => throw (s!"conversation_state_bridge replay has pending tool calls " ++
          s!"{debugPending pending}; the continuation must begin with matching " ++
          s!"{bridgePendingOutputTypeSummary pending} item(s)")
      | some kind => do
          let outputType := kind.outputItemType
          let callId ← responsesToolCallOutputCallId item
          let pendingCall : PendingBridgeToolCall := ⟨callId, kind⟩
          if pendingCall ∈ seen then
            throw (s!"conversation_state_bridge replay received duplicate `{outputType}` for " ++
              s!"pending call_id `{callId}`")
          -- an unknown id and a known one of the other kind have their own texts
          else if pendingCall ∉ pending then
            match pending.find? fun other => other.callId = callId with
            | some expected =>
                throw (s!"conversation_state_bridge replay received `{outputType}` for call_id " ++
                  s!"`{callId}`, but pending `{expected.kind.callItemType}` requires " ++
                  s!"`{expected.kind.outputItemType}`")
            | none =>
                throw (s!"conversation_state_bridge replay received `{outputType}` for call_id " ++
                  s!"`{callId}`, which does not match pending local tool call(s) " ++
                  s!"{debugPending pending}")
          else validatePendingOutputs pending (pendingCall :: seen) items

/-- The second loop of `validate_bridge_continuation_items`, over the items behind them. -/
def validateBehindOutputs : List Value → Except String Unit
  | [] => pure ()
  | item :: items =>
      match responsesBridgeToolOutputKind item with
      | some kind => do
          let callId ← responsesToolCallOutputCallId item
          throw (s!"conversation_state_bridge replay received extra `{kind.outputItemType}` for " ++
            s!"call_id `{callId}` after the pending output prefix")
      | none =>
          if responsesBridgeItemType item ≠ some "message" then
            throw ("conversation_state_bridge replay only allows text message input after " ++
              "pending tool output prefix")
          else validateBehindOutputs items

/-- `validate_bridge_continuation_items` (`server/proxy.rs` 2636-2724). With calls still open, their
outputs have to come first, in any order, and no other output may follow. -/
def validateBridgeContinuationItems (storedItems currentItems : List Value) :
    Except String Unit := do
  let pending ← pendingBridgeToolCalls storedItems
  let currentOutputCount :=
    (currentItems.filter fun item => (responsesBridgeToolOutputKind item).isSome).length
  if pending.isEmpty then
    if currentOutputCount = 0 then pure ()
    else
      let outputType := firstBridgeToolOutputType currentItems
      let callType := ((bridgeToolOutputKindForItemType outputType).map
        BridgeToolCallKind.callItemType).getD "tool_call"
      throw (s!"conversation_state_bridge replay received `{outputType}` but the local " ++
        s!"previous_response_id has no pending `{callType}`")
  -- counted before the items are looked at, so fewer items than calls never reach the loops
  else if currentItems.length < pending.length then
    throw (s!"conversation_state_bridge replay has pending tool calls {debugPending pending}; " ++
      s!"the continuation submitted {currentOutputCount} tool output item(s)")
  else
    let seen ← validatePendingOutputs pending [] (currentItems.take pending.length)
    validateBehindOutputs (currentItems.drop pending.length)
    -- out of reach: as many outputs have been seen as there are calls, and no call twice
    match pending.find? fun other => other ∉ seen with
    | some missing =>
        throw (s!"conversation_state_bridge replay is missing required " ++
          s!"`{missing.kind.outputItemType}` for pending call_id `{missing.callId}`")
    | none => pure ()

end LlmUniversalProxy.Server
