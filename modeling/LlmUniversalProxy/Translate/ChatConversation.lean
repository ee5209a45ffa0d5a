import LlmUniversalProxy.Translate.MessagesToResponses

/-!
# `Translate.ChatConversation` — conversations of Chat, as items of Responses

An ordinary conversation has texts of the system, of users and of the assistant, the reasoning of
the assistant, its calls and their answers. On the way to Responses every message of it is taken
apart into items, one for each of these (`addMessage_read`), and nothing is refused as long as the
names that are called are public.

The way there is `messages_to_responses` (`translate/internal/openai_responses.rs` 1519-1724). The
readings are for contents that are texts; a message with an image or a file has none.
-/

set_option autoImplicit false

namespace LlmUniversalProxy.Translate

open Json Lib

/-! ## Conversations -/

/-- A call of a function. -/
structure ChatCall where
  id : String
  name : String
  arguments : String
  deriving DecidableEq, Repr

/-- What a message of an ordinary conversation says. -/
inductive ChatMessage where
  | system (text : String)
  | user (text : String)
  | assistant (text reasoning : Option String) (calls : List ChatCall)
  | tool (id text : String)
  deriving DecidableEq, Repr

/-- The call, and nothing else. -/
def ChatCall.toValue (call : ChatCall) : Value :=
  openaiFunctionCall (some (.string call.id)) call.name call.arguments

/-- A message of the assistant without its calls. -/
def assistantWords (text reasoning : Option String) : Value :=
  setSome "reasoning_content" (reasoning.map .string) (chatMessage "assistant" (.ofOptionStr text))

namespace ChatMessage

def calls : ChatMessage → List ChatCall
  | .assistant _ _ calls => calls
  | _ => []

/-- The message, and nothing else. -/
def toValue : ChatMessage → Value
  | .system text => chatMessage "system" (.string text)
  | .user text => chatMessage "user" (.string text)
  | .assistant text reasoning calls =>
      setSome "tool_calls" (nonempty (calls.map ChatCall.toValue)) (assistantWords text reasoning)
  | .tool id text => ResponsesHistory.toolMessage (some (.string id)) (.string text)

end ChatMessage

def nonemptyText (message : Value) (field : String) : Option String :=
  (message.getStr field).filter fun text => !text.isEmpty

def readChatCall (toolCall : Value) : Option ChatCall := do
  let function ← toolCall.get "function"
  let id ← toolCall.getStr "id"
  let name ← function.getStr "name"
  let arguments ← function.getStr "arguments"
  if toolCall = (ChatCall.mk id name arguments).toValue then some ⟨id, name, arguments⟩ else none

/-- A message of the assistant: a text, or calls without one. -/
def readChatAssistant (message : Value) : Option ChatMessage := do
  let calls ← ((message.getArray "tool_calls").getD []).mapM readChatCall
  let reasoning := nonemptyText message "reasoning_content"
  match nonemptyText message "content" with
  | some text => some (.assistant (some text) reasoning calls)
  | none =>
      if calls.isEmpty || !((message.get "content").getD .null).isNull then none
      else some (.assistant none reasoning calls)

/-- What an ordinary message says: it has no refusal, and no reasoning that was signed. -/
def readChatMessage (message : Value) : Option ChatMessage :=
  if (extractOpenaiRefusal message).isSome ||
      (openaiMessageAnthropicReasoningReplayBlocks message).isSome then none
  else
    match message.getStr "role" with
    | some "system" => (nonemptyText message "content").map .system
    | some "user" => (nonemptyText message "content").map .user
    | some "assistant" => readChatAssistant message
    | some "tool" =>
        if (message.get "type").isSome then none
        else (message.getStr "tool_call_id").bind fun id =>
          (nonemptyText message "content").map (.tool id)
    | _ => none

/-- Its texts are not empty, and the assistant says something. -/
def ChatMessage.IsFull : ChatMessage → Prop
  | .system text | .user text | .tool _ text => text.isEmpty = false
  | .assistant text reasoning calls => (∀ words ∈ text, words.isEmpty = false) ∧
      (∀ thoughts ∈ reasoning, thoughts.isEmpty = false) ∧ (text = none → calls ≠ [])

/-- Every call is answered by its tool message before anything else is said, and the assistant does
not speak twice in a row. `spoke` says that the last message was of the assistant, `waiting` are the
calls without an answer. -/
def IsOrderly : Bool → List String → List ChatMessage → Prop
  | _, waiting, [] => waiting = []
  | spoke, waiting, message :: rest =>
      match message with
      | .system _ | .user _ => waiting = [] ∧ IsOrderly false [] rest
      | .assistant _ _ calls =>
          spoke = false ∧ waiting = [] ∧ IsOrderly true (calls.map ChatCall.id) rest
      | .tool id _ => id ∈ waiting ∧ IsOrderly false (waiting.erase id) rest

/-! ## Items -/

def spokenItem (role contentType text : String) : Value :=
  .ofFields [("type", .string "message"), ("role", .string role), ("content", .array
    [.ofFields [("type", .string contentType), ("text", .string text)]])]

def ChatCall.toItem (call : ChatCall) : Value :=
  responsesCallItem "function_call" "arguments" (some (.string call.id)) call.name call.arguments

def ChatMessage.items : ChatMessage → List Value
  | .system text => [spokenItem "system" "input_text" text]
  | .user text => [spokenItem "user" "input_text" text]
  | .assistant text reasoning calls => (responsesReasoningItem reasoning none).toList ++
      (text.map (spokenItem "assistant" "output_text")).toList ++ calls.map ChatCall.toItem
  | .tool id text => [.ofFields [("type", .string "function_call_output"), ("call_id", .string id),
      ("output", .string text)]]

/-! ## What is read is there -/

theorem getStr_of_nonemptyText {message : Value} {field text : String}
    (h : nonemptyText message field = some text) :
    message.getStr field = some text ∧ text.isEmpty = false := by
  obtain ⟨hget, hempty⟩ := Option.filter_eq_some_iff.mp h
  exact ⟨hget, by simpa using hempty⟩

theorem eq_of_readChatCall {toolCall : Value} {call : ChatCall}
    (h : readChatCall toolCall = some call) : toolCall = call.toValue := by
  unfold readChatCall at h
  obtain ⟨function, -, h⟩ := Option.bind_eq_some_iff.mp h
  obtain ⟨id, -, h⟩ := Option.bind_eq_some_iff.mp h
  obtain ⟨name, -, h⟩ := Option.bind_eq_some_iff.mp h
  obtain ⟨arguments, -, h⟩ := Option.bind_eq_some_iff.mp h
  obtain ⟨heq, h⟩ := Option.ite_none_right_eq_some.mp h
  cases h
  exact heq

theorem readChatCall_toValue (call : ChatCall) : readChatCall call.toValue = some call := by
  have hread : readChatCall call.toValue =
      if call.toValue = call.toValue then some call else none := by
    simp [readChatCall, ChatCall.toValue, openaiFunctionCall, Value.getStr, List.lookup_cons,
      Value.ofOption]
  rw [hread, if_pos rfl]

theorem eq_of_readChatCalls {toolCalls : List Value} {calls : List ChatCall}
    (h : toolCalls.mapM readChatCall = some calls) : toolCalls = calls.map ChatCall.toValue := by
  induction toolCalls generalizing calls with
  | nil =>
    cases h
    rfl
  | cons toolCall toolCalls ih =>
    rw [List.mapM_cons] at h
    obtain ⟨call, hcall, h⟩ := Option.bind_eq_some_iff.mp h
    obtain ⟨rest, hrest, h⟩ := Option.bind_eq_some_iff.mp h
    cases h
    rw [eq_of_readChatCall hcall, ih hrest]
    rfl

theorem readChatCalls_toValue (calls : List ChatCall) :
    (calls.map ChatCall.toValue).mapM readChatCall = some calls := by
  induction calls with
  | nil => rfl
  | cons call calls ih =>
    rw [List.map_cons, List.mapM_cons, readChatCall_toValue, ih]
    rfl

theorem read_of_readChatMessage {msg : Value} {message : ChatMessage}
    (h : readChatMessage msg = some message) :
    extractOpenaiRefusal msg = none ∧ openaiMessageAnthropicReasoningReplayBlocks msg = none ∧
      (match message with
      | .system text => msg.getStr "role" = some "system" ∧ nonemptyText msg "content" = some text
      | .user text => msg.getStr "role" = some "user" ∧ nonemptyText msg "content" = some text
      | .assistant _ _ _ =>
          msg.getStr "role" = some "assistant" ∧ readChatAssistant msg = some message
      | .tool id text => msg.getStr "role" = some "tool" ∧ msg.get "type" = none ∧
          msg.getStr "tool_call_id" = some id ∧ nonemptyText msg "content" = some text) := by
  unfold readChatMessage at h
  obtain ⟨hplain, h⟩ := Option.ite_none_left_eq_some.mp h
  rw [Bool.or_eq_true, not_or, Option.not_isSome_iff_eq_none, Option.not_isSome_iff_eq_none]
    at hplain
  refine ⟨hplain.1, hplain.2, ?_⟩
  split at h
  · next hrole =>
    obtain ⟨text, htext, rfl⟩ := Option.map_eq_some_iff.mp h
    exact ⟨hrole, htext⟩
  · next hrole =>
    obtain ⟨text, htext, rfl⟩ := Option.map_eq_some_iff.mp h
    exact ⟨hrole, htext⟩
  · next hrole =>
    obtain ⟨calls, hcalls, h'⟩ := Option.bind_eq_some_iff.mp h
    dsimp only at h'
    split at h'
    · cases h'
      exact ⟨hrole, h⟩
    · obtain ⟨-, h'⟩ := Option.ite_none_left_eq_some.mp h'
      cases h'
      exact ⟨hrole, h⟩
  · next hrole =>
    obtain ⟨htype, h⟩ := Option.ite_none_left_eq_some.mp h
    obtain ⟨id, hid, h⟩ := Option.bind_eq_some_iff.mp h
    obtain ⟨text, htext, rfl⟩ := Option.map_eq_some_iff.mp h
    exact ⟨hrole, Option.not_isSome_iff_eq_none.mp htype, hid, htext⟩
  · cases h

/-- A message of the assistant that was read: its calls, and a text or none. -/
theorem assistant_of_read {msg : Value} {text reasoning : Option String} {calls : List ChatCall}
    (h : readChatAssistant msg = some (.assistant text reasoning calls)) :
    (msg.getArray "tool_calls").getD [] = calls.map ChatCall.toValue ∧
      nonemptyText msg "reasoning_content" = reasoning ∧ nonemptyText msg "content" = text ∧
      (text = none → calls ≠ [] ∧ ((msg.get "content").getD .null).isNull = true) := by
  obtain ⟨calls', hcalls, h⟩ := Option.bind_eq_some_iff.mp h
  dsimp only at h
  split at h
  · next words hwords =>
    cases h
    exact ⟨eq_of_readChatCalls hcalls, rfl, hwords, fun hnone => by cases hnone⟩
  · next hwords =>
    obtain ⟨hnull, h⟩ := Option.ite_none_left_eq_some.mp h
    cases h
    rw [Bool.or_eq_true, not_or, Bool.not_eq_true, Bool.not_eq_true, Bool.not_eq_false'] at hnull
    refine ⟨eq_of_readChatCalls hcalls, rfl, hwords, fun _ => ⟨?_, hnull.2⟩⟩
    rintro rfl
    cases hnull.1

theorem isFull_of_read {msg : Value} {message : ChatMessage}
    (h : readChatMessage msg = some message) : message.IsFull := by
  obtain ⟨-, -, hread⟩ := read_of_readChatMessage h
  cases message with
  | system text => exact (getStr_of_nonemptyText hread.2).2
  | user text => exact (getStr_of_nonemptyText hread.2).2
  | assistant text reasoning calls =>
    obtain ⟨-, hreasoning, htext, hcalls⟩ := assistant_of_read hread.2
    refine ⟨?_, ?_, fun hnone => (hcalls hnone).1⟩
    · rintro words rfl
      exact (getStr_of_nonemptyText htext).2
    · rintro thoughts rfl
      exact (getStr_of_nonemptyText hreasoning).2
  | tool id text => exact (getStr_of_nonemptyText hread.2.2.2).2

theorem isFull_of_reads {messages : List Value} {conversation : List ChatMessage}
    (h : messages.mapM readChatMessage = some conversation) :
    ∀ message ∈ conversation, message.IsFull := by
  induction messages generalizing conversation with
  | nil =>
    cases h
    simp
  | cons msg messages ih =>
    rw [List.mapM_cons] at h
    obtain ⟨message, hmessage, h⟩ := Option.bind_eq_some_iff.mp h
    obtain ⟨rest, hrest, h⟩ := Option.bind_eq_some_iff.mp h
    cases h
    exact List.forall_mem_cons.mpr ⟨isFull_of_read hmessage, ih hrest⟩

/-! ## To Responses -/

/-- No kind but that of a function was recorded for a call. -/
def ResponsesInput.HasFunctions (self : ResponsesInput) : Prop :=
  ∀ id kind, self.toolKindByCallId.lookup id = some kind → kind ≠ .openAiCustom

namespace ResponsesInput

variable {self : ResponsesInput}

theorem addReasoning_read {msg : Value}
    (hreplay : openaiMessageAnthropicReasoningReplayBlocks msg = none) :
    self.addReasoning msg = { self with input := self.input ++
      (responsesReasoningItem (nonemptyText msg "reasoning_content") none).toList } := by
  unfold addReasoning
  rw [hreplay]
  rfl

/-- A text is one item. -/
theorem addContent_text (parseUrl : String → Option Url) (role : String) {msg : Value}
    {text : String} (htext : nonemptyText msg "content" = some text)
    (hrefusal : extractOpenaiRefusal msg = none) :
    self.addContent parseUrl role msg = .ok (self.push
      (spokenItem role (if role = "assistant" then "output_text" else "input_text") text)) := by
  have hget := Value.get_of_getStr (getStr_of_nonemptyText htext).1
  unfold addContent openaiMessageToResponsesContent
  rw [hget, hrefusal]
  rfl

/-- Without a text there is no item. -/
theorem addContent_null (parseUrl : String → Option Url) (role : String) {msg : Value}
    (hnull : ((msg.get "content").getD .null).isNull = true)
    (hrefusal : extractOpenaiRefusal msg = none) :
    self.addContent parseUrl role msg = .ok self := by
  unfold addContent openaiMessageToResponsesContent
  rw [hrefusal]
  cases hget : msg.get "content" with
  | none => rfl
  | some content =>
    rw [hget] at hnull
    cases content with
    | null => rfl
    | _ => cases hnull

theorem normalized_chatCall {call : ChatCall} (hpublic : PublicName call.name) :
    normalizedOpenaiToolCall call.toValue = .ok (some
      { custom := false, id := some (.string call.id), name := call.name
        payload := call.arguments, proxiedToolKind := none }) := by
  have hfields : ∀ k, call.toValue.get k = [("id", Value.string call.id),
      ("type", .string "function"), ("function", .ofFields [("name", .string call.name),
        ("arguments", .string call.arguments)])].lookup k := Value.get_ofFields _
  have hidentity : validateOpenaiPublicToolIdentity call.toValue = .ok () := by
    unfold validateOpenaiPublicToolIdentity
    simp only [hfields]
    refine Result.bind_ok.mpr ⟨(), rfl, Result.bind_ok.mpr ⟨(), rfl,
      Result.bind_ok.mpr ⟨(), ?_, rfl⟩⟩⟩
    refine identityValue_ok.mpr fun name hname => ?_
    have hsame : call.name = name := by simpa [List.lookup_cons] using hname
    exact hsame ▸ hpublic.2
  have hname : requiredToolName (some call.name)
      "OpenAI function tool calls require a non-empty function name." = .ok call.name := by
    unfold requiredToolName
    rw [show (some call.name).filter (fun name => !name.isEmpty) = some call.name by
      simp [hpublic.1]]
    exact Result.bind_ok.mpr ⟨(), nameNotReserved_ok.mpr hpublic.2, rfl⟩
  have harguments : openaiToolArgumentsRaw call.toValue = some call.arguments := by
    simp [openaiToolArgumentsRaw, hfields, List.lookup_cons]
  unfold normalizedOpenaiToolCall
  refine Result.bind_ok.mpr ⟨(), hidentity, ?_⟩
  rw [harguments]
  simp only [Value.getStr, hfields]
  refine Result.bind_ok.mpr ⟨call.name, ?_, rfl⟩
  simpa [List.lookup_cons] using hname

theorem callItem_read (env : Env) {call : ChatCall} (hpublic : PublicName call.name) :
    openaiToolCallToResponsesItemDecodingCustomBridge env none call.toValue =
      .ok call.toItem := by
  have hunmarked : toolCallIsMarkedNonReplayable env call.toValue = false := by
    simp [toolCallIsMarkedNonReplayable, ChatCall.toValue, openaiFunctionCall,
      nonReplayableToolCallField, List.lookup_cons]
  refine Result.bind_ok.mpr ⟨_, normalized_chatCall hpublic, ?_⟩
  dsimp only
  unfold copyNonReplayableToolCallMarker
  rw [hunmarked]
  rfl

/-- A part of a message that was added. -/
structure Adds (before after : ResponsesInput) (items : List Value) : Prop where
  input : after.input = before.input ++ items
  functions : after.HasFunctions

theorem addToolCall_read (env : Env) (h : self.HasFunctions) {call : ChatCall}
    (hpublic : PublicName call.name) :
    ∃ next, self.addToolCall env none call.toValue = .ok next ∧ Adds self next [call.toItem] := by
  have hid : call.toItem.getStr "call_id" = some call.id := by
    simp [ChatCall.toItem, responsesCallItem, Value.getStr, Value.ofOption, List.lookup_cons]
  have htype : call.toItem.getStr "type" = some "function_call" := by
    simp [ChatCall.toItem, responsesCallItem, Value.getStr]
  refine ⟨_, Result.bind_ok.mpr ⟨_, callItem_read env hpublic, rfl⟩, rfl, ?_⟩
  intro id kind hkind
  dsimp only at hkind
  rw [hid] at hkind
  dsimp only at hkind
  rw [lookup_insertSorted] at hkind
  split at hkind
  · cases hkind
    exact semanticToolKind_of_functionCall env htype
  · exact h id kind hkind

theorem addToolCalls_read (env : Env) (h : self.HasFunctions) {calls : List ChatCall}
    (hpublic : ∀ call ∈ calls, PublicName call.name) :
    ∃ next, (calls.map ChatCall.toValue).foldlM (addToolCall env none) self = .ok next ∧
      Adds self next (calls.map ChatCall.toItem) := by
  induction calls generalizing self with
  | nil => exact ⟨self, rfl, (List.append_nil _).symm, h⟩
  | cons call calls ih =>
    obtain ⟨first, hfirst, hadds⟩ := addToolCall_read env h (hpublic call List.mem_cons_self)
    obtain ⟨next, hnext, hrest⟩ := ih hadds.functions
      fun other hmem => hpublic other (List.mem_cons_of_mem _ hmem)
    refine ⟨next, ?_, ?_, hrest.functions⟩
    · rw [List.map_cons, List.foldlM_cons]
      exact Result.bind_ok.mpr ⟨first, hfirst, hnext⟩
    · rw [hrest.input, hadds.input, List.append_assoc]
      rfl

theorem addToolResult_read (env : Env) (h : self.HasFunctions) {msg : Value} {id text : String}
    (htype : msg.get "type" = none) (hid : msg.getStr "tool_call_id" = some id)
    (htext : nonemptyText msg "content" = some text) :
    ∃ next, self.addToolResult env msg = .ok next ∧
      Adds self next (ChatMessage.tool id text).items := by
  have hfunction : ((self.toolKindByCallId.lookup id).getD
      (semanticToolKindFromValue env msg)) ≠ .openAiCustom := by
    cases hkind : self.toolKindByCallId.lookup id with
    | some kind => exact h id kind hkind
    | none =>
      show semanticToolKindFromValue env msg ≠ .openAiCustom
      unfold semanticToolKindFromValue Value.getStr
      rw [htype]
      split <;> simp
  have houtput : semanticToolOutputItemType ((self.toolKindByCallId.lookup id).getD
      (semanticToolKindFromValue env msg)) = "function_call_output" := by
    generalize (self.toolKindByCallId.lookup id).getD (semanticToolKindFromValue env msg) = kind
      at hfunction ⊢
    cases kind with
    | openAiCustom => exact absurd rfl hfunction
    | function => rfl
    | anthropicServerTool => rfl
  refine ⟨self.push (.ofFields [("type", .string "function_call_output"),
    ("call_id", .string id), ("output", .string text)]), ?_, rfl, h⟩
  unfold addToolResult
  rw [hid, Value.get_of_getStr hid, Value.get_of_getStr (getStr_of_nonemptyText htext).1]
  dsimp only [Option.bind_some]
  rw [houtput]
  rfl

theorem addAssistant_read (env : TranslationEnv) (h : self.HasFunctions) {msg : Value}
    {text reasoning : Option String} {calls : List ChatCall}
    (hread : readChatAssistant msg = some (.assistant text reasoning calls))
    (hrefusal : extractOpenaiRefusal msg = none)
    (hreplay : openaiMessageAnthropicReasoningReplayBlocks msg = none)
    (hpublic : ∀ call ∈ calls, PublicName call.name) :
    ∃ spoken next, (self.addReasoning msg).addContent env.parseUrl "assistant" msg = .ok spoken ∧
      ((msg.getArray "tool_calls").getD []).foldlM (addToolCall env.toEnv none) spoken = .ok next ∧
      Adds self next (ChatMessage.assistant text reasoning calls).items := by
  obtain ⟨hcalls, hreasoning, htext, hnull⟩ := assistant_of_read hread
  have hcontent : ∃ spoken, (self.addReasoning msg).addContent env.parseUrl "assistant" msg =
      .ok spoken ∧ Adds self spoken ((responsesReasoningItem reasoning none).toList ++
        (text.map (spokenItem "assistant" "output_text")).toList) := by
    rw [addReasoning_read hreplay, hreasoning]
    cases text with
    | some words =>
      exact ⟨_, addContent_text env.parseUrl "assistant" htext hrefusal,
        List.append_assoc _ _ _, h⟩
    | none =>
      exact ⟨_, addContent_null env.parseUrl "assistant" (hnull rfl).2 hrefusal,
        congrArg _ (List.append_nil _).symm, h⟩
  obtain ⟨spoken, hspoken, hadds⟩ := hcontent
  obtain ⟨next, hnext, hall⟩ := addToolCalls_read env.toEnv hadds.functions hpublic
  refine ⟨spoken, next, hspoken, by rw [hcalls]; exact hnext, ?_, hall.functions⟩
  rw [hall.input, hadds.input, List.append_assoc]
  rfl

/-- **A message is taken apart.** -/
theorem addMessage_read (env : TranslationEnv) (h : self.HasFunctions) {msg : Value}
    {message : ChatMessage} (hread : readChatMessage msg = some message)
    (hpublic : ∀ call ∈ message.calls, PublicName call.name) :
    ∃ next, self.addMessage env none msg = .ok next ∧ Adds self next message.items := by
  obtain ⟨hrefusal, hreplay, hread⟩ := read_of_readChatMessage hread
  unfold addMessage
  cases message with
  | system text =>
    obtain ⟨hrole, htext⟩ := hread
    rw [hrole]
    exact ⟨_, addContent_text env.parseUrl "system" htext hrefusal, rfl, h⟩
  | user text =>
    obtain ⟨hrole, htext⟩ := hread
    rw [hrole]
    exact ⟨_, addContent_text env.parseUrl "user" htext hrefusal, rfl, h⟩
  | assistant text reasoning calls =>
    obtain ⟨hrole, hread⟩ := hread
    rw [hrole]
    obtain ⟨spoken, next, hspoken, hnext, hadds⟩ :=
      addAssistant_read env h hread hrefusal hreplay hpublic
    exact ⟨next, Result.bind_ok.mpr ⟨spoken, hspoken, hnext⟩, hadds⟩
  | tool id text =>
    obtain ⟨hrole, htype, hid, htext⟩ := hread
    rw [hrole]
    exact addToolResult_read env.toEnv h htype hid htext

/-- **All messages are taken apart, one by one.** -/
theorem addMessages_read (env : TranslationEnv) (h : self.HasFunctions) {messages : List Value}
    {conversation : List ChatMessage} (hread : messages.mapM readChatMessage = some conversation)
    (hpublic : ∀ message ∈ conversation, ∀ call ∈ message.calls, PublicName call.name) :
    ∃ next, messages.foldlM (addMessage env none) self = .ok next ∧
      Adds self next (conversation.flatMap ChatMessage.items) := by
  induction messages generalizing self conversation with
  | nil =>
    cases hread
    exact ⟨self, rfl, (List.append_nil _).symm, h⟩
  | cons msg messages ih =>
    rw [List.mapM_cons] at hread
    obtain ⟨message, hmessage, hread⟩ := Option.bind_eq_some_iff.mp hread
    obtain ⟨rest, hrest, hread⟩ := Option.bind_eq_some_iff.mp hread
    cases hread
    obtain ⟨first, hfirst, hadds⟩ := addMessage_read env h hmessage (hpublic _ List.mem_cons_self)
    obtain ⟨next, hnext, hall⟩ := ih hadds.functions hrest
      fun other hmem => hpublic other (List.mem_cons_of_mem _ hmem)
    refine ⟨next, ?_, ?_, hall.functions⟩
    · rw [List.foldlM_cons]
      exact Result.bind_ok.mpr ⟨first, hfirst, hnext⟩
    · rw [hall.input, hadds.input, List.append_assoc]
      rfl

end ResponsesInput

end LlmUniversalProxy.Translate
