import LlmUniversalProxy.Streaming.Folded
import LlmUniversalProxy.Streaming.Said

/-!
# `Streaming.ClaudeOperations` — what an Anthropic client is told, by each step of the sink

`FoldedMessage` is an Anthropic client that puts the deltas together. The sink has at most one block
of thinking or text open at a time, and one block for each call, which stays open until the end
(`openai_chunk_to_claude_sse`, `openai_sink.rs` 924-1133). `Told` connects the two: what the state
has seen is what the client has been told.

Every operation of the sink keeps it, with the text that the operation is about added: first the
texts, then the calls, whose blocks the state finds by the index of the call (`ToolsTold`). A name
of the proxy's own is refused before anything of its chunk's calls goes out (`rejected_of_tells`).
-/

set_option autoImplicit false

namespace LlmUniversalProxy.Streaming

open Json Lib Translate

/-! ## What a client makes of the events -/

/-- A tool block, as far as its input has come. -/
structure FoldedTool where
  block : Nat
  id : Option String
  name : Option String
  json : String
  deriving DecidableEq

/-- An Anthropic message, as far as it has come. -/
structure FoldedMessage where
  thinking : String := ""
  text : String := ""
  tools : List FoldedTool := []
  stopReason : Option String := none
  error : Option (String × String) := none
  deriving DecidableEq

/-- A piece of input, for the tool block with this index. -/
def FoldedTool.append (block : Nat) (piece : String) (tool : FoldedTool) : FoldedTool :=
  if tool.block = block then { tool with json := tool.json ++ piece } else tool

def errorOf (event : Value) : Option (String × String) :=
  (event.get "error").map fun error =>
    ((error.getStr "type").getD "", (error.getStr "message").getD "")

namespace FoldedMessage

/-- A block that starts may have something in it already. -/
def startBlock (index : Nat) (block : Value) (m : FoldedMessage) : FoldedMessage :=
  match block.getStr "type" with
  | some "thinking" => { m with thinking := m.thinking ++ (block.getStr "thinking").getD "" }
  | some "text" => { m with text := m.text ++ (block.getStr "text").getD "" }
  | some "tool_use" | some "server_tool_use" =>
      { m with tools := m.tools ++ [⟨index, block.getStr "id", block.getStr "name", ""⟩] }
  | _ => m

def feedDelta (index : Nat) (delta : Value) (m : FoldedMessage) : FoldedMessage :=
  match delta.getStr "type" with
  | some "thinking_delta" =>
      { m with thinking := m.thinking ++ (delta.getStr "thinking").getD "" }
  | some "text_delta" => { m with text := m.text ++ (delta.getStr "text").getD "" }
  | some "input_json_delta" =>
      { m with tools :=
        m.tools.map (FoldedTool.append index ((delta.getStr "partial_json").getD "")) }
  | _ => m

def feed (m : FoldedMessage) : SseFrame → FoldedMessage
  | .event eventType event =>
      let index := (event.getU64 "index").getD 0
      match eventType with
      | "content_block_start" => m.startBlock index ((event.get "content_block").getD .null)
      | "content_block_delta" => m.feedDelta index ((event.get "delta").getD .null)
      | "message_delta" =>
          { m with stopReason := (event.get "delta").bind (Value.getStr · "stop_reason") }
      | "error" => { m with error := errorOf event }
      | _ => m
  | _ => m

end FoldedMessage

/-- A call that a client can answer. -/
structure ToolUse where
  id : Option String
  name : Option String
  input : Value
  deriving DecidableEq

/-- What a client has in the end. -/
structure Answer where
  thinking : String
  text : String
  toolUses : List ToolUse
  stopReason : Option String
  deriving DecidableEq

/-- The input of a call; a call without any has an empty one. -/
def inputOf (serde : Serde) (json : String) : Value :=
  if Text.isBlank json then .ofFields [] else (fromStr serde json).getD .null

def FoldedMessage.answer (serde : Serde) (m : FoldedMessage) : Answer :=
  ⟨m.thinking, m.text, m.tools.map fun tool => ⟨tool.id, tool.name, inputOf serde tool.json⟩,
    m.stopReason⟩

/-- A block that is a call. -/
def toolUseOf (block : Value) : Option ToolUse :=
  if block.getStr "type" = some "tool_use" || block.getStr "type" = some "server_tool_use" then
    some ⟨block.getStr "id", block.getStr "name", (block.get "input").getD .null⟩
  else none

/-- The same, of a message that comes whole. -/
def Answer.ofMessage (message : Value) : Answer :=
  let blocks := (message.getArray "content").getD []
  ⟨thinkingOf blocks, textOf blocks, blocks.filterMap toolUseOf, message.getStr "stop_reason"⟩

/-- The state after some chunks, and what a client has made of the events. -/
def foldChunks (env : Env) (chunks : List Value) (p : StreamState × FoldedMessage) :
    StreamState × FoldedMessage :=
  chunks.foldl (fun p chunk =>
    ((openaiChunkToClaudeSse env chunk p.1).2,
      (openaiChunkToClaudeSse env chunk p.1).1.foldl FoldedMessage.feed p.2)) p

/-! ## Calls with a name of the proxy's own -/

/-- The first name that is the proxy's own. -/
def reservedNameOf (calls : List SaidCall) : Option String :=
  (calls.map SaidCall.name).find? openaiResponsesCustomToolBridgePrefixIsReserved

/-- A plain call of a function is refused for its name, or is an ordinary tool use. -/
theorem toolUseType_of_plain (env : Env) {tc : Value} (hplain : IsPlainCall tc)
    (htype : tc.getStr "type" = none ∨ tc.getStr "type" = some "function")
    {name : Option String} (hname : functionField tc "name" = name)
    (hfield : (tc.get "function").bind (Value.get · "name") = name.map .string) :
    anthropicToolUseTypeForOpenaiToolCall env tc =
      match name.filter openaiResponsesCustomToolBridgePrefixIsReserved with
      | some name => .error (reservedOpenaiCustomBridgePrefixMessage name)
      | none => .ok "tool_use" := by
  have hkind : semanticToolKindFromValue env tc = .function := by
    unfold semanticToolKindFromValue
    rw [if_neg (by simp [hplain.kind])]
    rcases htype with htype | htype
    · rw [htype]
    · rw [htype]
      rfl
  have hvalue : ((tc.get "function").bind (Value.get · "name")).bind Value.asStr = name := by
    rw [hfield]
    cases name <;> rfl
  unfold functionField at hname
  unfold anthropicToolUseTypeForOpenaiToolCall validateOpenaiPublicToolIdentity
  rw [hkind, hname, identityValue_eq, identityValue_eq, identityValue_eq, identityValue_eq,
    hplain.name, hplain.custom, hvalue, Option.bind_some, hplain.object]
  cases name with
  | none => rfl
  | some name =>
    unfold validatePublicToolNameNotReserved
    cases hreserved : openaiResponsesCustomToolBridgePrefixIsReserved name with
    | true =>
      rw [Option.filter_some_pos hreserved]
      simp only [hreserved, if_true]
      rfl
    | false =>
      rw [Option.filter_some_neg hreserved]
      simp only [hreserved, Bool.false_eq_true, if_false]
      rfl

/-! ## The sink, operation by operation

`Told` ties the sink's state and the client's message to what has been said. The texts that the
sink has seen are kept apart: they are written down before the text goes out. -/

/-- The tool blocks of the client, which the state knows by the calls' indices. -/
structure ToolsTold (s : StreamState) (tools : List FoldedTool) (calls : List SaidCall)
    (blocks : List Nat) : Prop where
  length : blocks.length = calls.length
  nodup : blocks.Nodup
  below : ∀ block ∈ blocks, block < s.nextBlockIndex
  indices : ∀ index, s.toolBlockIndices.lookup index = blocks[index]?
  tools : tools = List.zipWith
    (fun block call => ⟨block, some call.id, some call.name, call.arguments⟩) blocks calls

structure Told (s : StreamState) (m : FoldedMessage) (seenReasoning seenContent : String)
    (started : Bool) (said : Said) : Prop where
  accepted : s.fatalRejection = none
  seenReasoning : s.openaiSeenReasoning = seenReasoning
  seenContent : s.openaiSeenContent = seenContent
  thinking : m.thinking = said.reasoning
  text : m.text = said.content
  tools : ∃ blocks, ToolsTold s m.tools said.calls blocks
  sent : s.messageStartSent = started
  waiting : started = false → said.calls = []
  stopReason : m.stopReason = none
  error : m.error = none

/-- What the frames of a sink do to the client. -/
def Sink.told (k : Sink) (m : FoldedMessage) : FoldedMessage := k.out.foldl FoldedMessage.feed m

@[simp] theorem told_push (k : Sink) (eventType : String) (event : Value) (m : FoldedMessage) :
    (k.push eventType event).told m = (k.told m).feed (.event eventType event) := by
  simp [Sink.told]

@[simp] theorem told_update (k : Sink) (g : StreamState → StreamState) (m : FoldedMessage) :
    (k.update g).told m = k.told m := rfl

theorem feed_blockStart (index : Nat) (block : Value) (m : FoldedMessage) :
    m.feed (.event "content_block_start" (.ofFields [("type", .string "content_block_start"),
      ("index", .nat index), ("content_block", block)])) = m.startBlock index block := by
  simp [FoldedMessage.feed, Value.getU64, List.lookup_cons]

theorem feed_blockDelta (index : Nat) (delta : Value) (m : FoldedMessage) :
    m.feed (.event "content_block_delta" (.ofFields [("type", .string "content_block_delta"),
      ("index", .nat index), ("delta", delta)])) = m.feedDelta index delta := by
  simp [FoldedMessage.feed, Value.getU64, List.lookup_cons]

@[simp] theorem told_contentBlockStart (k : Sink) (index : Nat) (block : Value)
    (m : FoldedMessage) :
    (contentBlockStart k index block).told m = (k.told m).startBlock index block := by
  rw [contentBlockStart, told_push, feed_blockStart]

@[simp] theorem told_contentBlockDelta (k : Sink) (index : Nat) (delta : Value)
    (m : FoldedMessage) :
    (contentBlockDelta k index delta).told m = (k.told m).feedDelta index delta := by
  rw [contentBlockDelta, told_push, feed_blockDelta]

@[simp] theorem told_contentBlockStop (k : Sink) (index : Nat) (m : FoldedMessage) :
    (contentBlockStop k index).told m = k.told m := by
  rw [contentBlockStop, told_push]
  rfl

/-- The state may change in what the client's message does not depend on. -/
theorem Told.congr {s s' : StreamState} {m : FoldedMessage} {seenReasoning seenContent : String}
    {started : Bool} {said : Said} (h : Told s m seenReasoning seenContent started said)
    (hrejection : s'.fatalRejection = s.fatalRejection)
    (hreasoning : s'.openaiSeenReasoning = s.openaiSeenReasoning)
    (hcontent : s'.openaiSeenContent = s.openaiSeenContent)
    (hindices : s'.toolBlockIndices = s.toolBlockIndices)
    (hnext : s.nextBlockIndex ≤ s'.nextBlockIndex)
    (hstarted : s'.messageStartSent = s.messageStartSent) :
    Told s' m seenReasoning seenContent started said := by
  obtain ⟨blocks, htools⟩ := h.tools
  refine ⟨hrejection.trans h.accepted, hreasoning.trans h.seenReasoning,
    hcontent.trans h.seenContent, h.thinking, h.text, ⟨blocks, ?_⟩, hstarted.trans h.sent,
    h.waiting, h.stopReason, h.error⟩
  refine ⟨htools.length, htools.nodup, ?_, ?_, htools.tools⟩
  · intro block hblock
    exact Nat.lt_of_lt_of_le (htools.below block hblock) hnext
  · intro index
    rw [hindices]
    exact htools.indices index

/-- What the sink has seen is written down in the state, and nowhere else. -/
theorem Told.seeReasoning {s : StreamState} {m : FoldedMessage}
    {seenReasoning seenContent : String} {started : Bool} {said : Said}
    (h : Told s m seenReasoning seenContent started said) (reasoning : String) :
    Told { s with openaiSeenReasoning := reasoning } m reasoning seenContent started said := by
  obtain ⟨blocks, htools⟩ := h.tools
  exact ⟨h.accepted, rfl, h.seenContent, h.thinking, h.text,
    ⟨blocks, htools.length, htools.nodup, htools.below, htools.indices, htools.tools⟩, h.sent,
    h.waiting, h.stopReason, h.error⟩

theorem Told.seeContent {s : StreamState} {m : FoldedMessage}
    {seenReasoning seenContent : String} {started : Bool} {said : Said}
    (h : Told s m seenReasoning seenContent started said) (content : String) :
    Told { s with openaiSeenContent := content } m seenReasoning content started said := by
  obtain ⟨blocks, htools⟩ := h.tools
  exact ⟨h.accepted, h.seenReasoning, rfl, h.thinking, h.text,
    ⟨blocks, htools.length, htools.nodup, htools.below, htools.indices, htools.tools⟩, h.sent,
    h.waiting, h.stopReason, h.error⟩

section

variable {k : Sink} {m : FoldedMessage} {seenReasoning seenContent : String} {started : Bool}
  {said : Said}

/-- The frames of the sink have told the client this. -/
abbrev Sink.Tells (k : Sink) (m : FoldedMessage) (seenReasoning seenContent : String)
    (started : Bool) (said : Said) : Prop :=
  Told k.state (k.told m) seenReasoning seenContent started said

theorem Told.stopThinking (h : k.Tells m seenReasoning seenContent started said) :
    (stopThinkingBlockClaude k).Tells m seenReasoning seenContent started said := by
  unfold stopThinkingBlockClaude
  split
  · unfold Sink.Tells
    rw [told_update, told_contentBlockStop]
    exact h.congr rfl rfl rfl rfl (Nat.le_refl _) rfl
  · exact h

theorem Told.stopText (h : k.Tells m seenReasoning seenContent started said) :
    (stopTextBlockClaude k).Tells m seenReasoning seenContent started said := by
  unfold stopTextBlockClaude
  split
  · exact h
  · unfold Sink.Tells
    rw [told_contentBlockStop, told_update]
    exact h.congr rfl rfl rfl rfl (Nat.le_refl _) rfl

theorem startBlock_thinking (index : Nat) (m : FoldedMessage) :
    m.startBlock index (.ofFields [("type", .string "thinking"), ("thinking", .string "")]) =
      m := by
  simp [FoldedMessage.startBlock, Value.getStr, List.lookup_cons]

theorem startBlock_text (index : Nat) (m : FoldedMessage) :
    m.startBlock index (.ofFields [("type", .string "text"), ("text", .string "")]) = m := by
  simp [FoldedMessage.startBlock, Value.getStr, List.lookup_cons]

theorem Told.ensureThinking (h : k.Tells m seenReasoning seenContent started said) :
    (ensureThinkingBlockClaude k).Tells m seenReasoning seenContent started said := by
  unfold ensureThinkingBlockClaude
  split
  · exact h
  · unfold Sink.Tells
    rw [told_contentBlockStart, told_update, startBlock_thinking]
    exact h.congr rfl rfl rfl rfl (Nat.le_succ _) rfl

theorem Told.ensureText (h : k.Tells m seenReasoning seenContent started said) :
    (ensureTextBlockClaude k).Tells m seenReasoning seenContent started said := by
  unfold ensureTextBlockClaude
  split
  · exact h
  · unfold Sink.Tells
    rw [told_contentBlockStart, told_update, startBlock_text]
    exact h.congr rfl rfl rfl rfl (Nat.le_succ _) rfl

/-- The message starts before there is a call in it. -/
theorem Told.start (h : k.Tells m seenReasoning seenContent started said) (chunk choice : Value) :
    (startMessageClaude chunk choice k).Tells m seenReasoning seenContent true said := by
  unfold startMessageClaude
  split
  · next hsent =>
    exact ⟨h.accepted, h.seenReasoning, h.seenContent, h.thinking, h.text, h.tools, hsent,
      fun hfalse => (nomatch hfalse), h.stopReason, h.error⟩
  · next hwaiting =>
    unfold Sink.Tells
    rw [told_push, told_update]
    obtain ⟨blocks, htools⟩ := h.tools
    have hcalls := h.waiting (h.sent.symm.trans (by simpa using hwaiting))
    have hblocks : blocks = [] := by
      have hlength := htools.length
      rw [hcalls] at hlength
      exact List.eq_nil_of_length_eq_zero hlength
    refine ⟨h.accepted, h.seenReasoning, h.seenContent, h.thinking, h.text, ⟨blocks, ?_⟩, rfl,
      fun hfalse => (nomatch hfalse), h.stopReason, h.error⟩
    refine ⟨htools.length, htools.nodup, ?_, htools.indices, htools.tools⟩
    rw [hblocks]
    simp

/-- A text that is not there says nothing. -/
theorem getD_of_filter_none {text : Option String}
    (h : text.filter (fun text => !text.isEmpty) = none) : text.getD "" = "" := by
  cases text with
  | none => rfl
  | some text => simpa [Option.filter_some] using h

theorem Told.reasoning (h : k.Tells m seenReasoning seenContent started said)
    (reasoning : Option String) :
    (reasoningClaude reasoning k).Tells m seenReasoning seenContent started
      { said with reasoning := said.reasoning ++ reasoning.getD "" } := by
  unfold reasoningClaude
  cases hreasoning : reasoning.filter fun reasoning => !reasoning.isEmpty with
  | none =>
    rw [getD_of_filter_none hreasoning, String.append_empty]
    exact h
  | some text =>
    have htext : reasoning = some text := (Option.filter_eq_some_iff.mp hreasoning).1
    have hopen := (Told.stopText h).ensureThinking
    unfold Sink.Tells
    simp only [htext, Option.getD_some, told_contentBlockDelta, FoldedMessage.feedDelta,
      Value.getStr, Value.get_ofFields, List.lookup_cons]
    exact ⟨hopen.accepted, hopen.seenReasoning, hopen.seenContent,
      congrArg (· ++ text) hopen.thinking, hopen.text, hopen.tools, hopen.sent, hopen.waiting,
      hopen.stopReason, hopen.error⟩

theorem Told.content (h : k.Tells m seenReasoning seenContent started said)
    (content : Option String) :
    (contentClaude content k).Tells m seenReasoning seenContent started
      { said with content := said.content ++ content.getD "" } := by
  unfold contentClaude
  cases hcontent : content.filter fun content => !content.isEmpty with
  | none =>
    rw [getD_of_filter_none hcontent, String.append_empty]
    exact h
  | some text =>
    have htext : content = some text := (Option.filter_eq_some_iff.mp hcontent).1
    have hopen := (Told.stopThinking h).ensureText
    unfold Sink.Tells
    simp only [htext, Option.getD_some, told_contentBlockDelta, FoldedMessage.feedDelta,
      Value.getStr, Value.get_ofFields, List.lookup_cons]
    exact ⟨hopen.accepted, hopen.seenReasoning, hopen.seenContent, hopen.thinking,
      congrArg (· ++ text) hopen.text, hopen.tools, hopen.sent, hopen.waiting,
      hopen.stopReason, hopen.error⟩

/-! ### Tool calls -/

theorem ToolsTold.start {s : StreamState} {tools : List FoldedTool} {calls : List SaidCall}
    {blocks : List Nat} (h : ToolsTold s tools calls blocks) (id name : String) :
    ToolsTold { s with
        nextBlockIndex := s.nextBlockIndex + 1
        toolBlockIndices := s.toolBlockIndices.insert calls.length s.nextBlockIndex }
      (tools ++ [⟨s.nextBlockIndex, some id, some name, ""⟩]) (calls ++ [⟨id, name, ""⟩])
      (blocks ++ [s.nextBlockIndex]) := by
  refine ⟨by simp [h.length], ?_, ?_, ?_, ?_⟩
  · rw [List.nodup_append]
    refine ⟨h.nodup, by simp, ?_⟩
    intro block hblock other hother
    rw [List.mem_singleton.mp hother]
    exact Nat.ne_of_lt (h.below block hblock)
  · intro block hblock
    rcases List.mem_append.mp hblock with hblock | hblock
    · exact Nat.lt_succ_of_lt (h.below block hblock)
    · rw [List.mem_singleton.mp hblock]
      exact Nat.lt_succ_self _
  · intro index
    rw [FinMap.lookup_insert_eq, h.indices]
    by_cases hindex : index = calls.length
    · rw [if_pos hindex, hindex, ← h.length]
      simp
    · rw [if_neg hindex]
      by_cases hlt : index < blocks.length
      · rw [List.getElem?_append_left hlt]
      · have hne : index ≠ blocks.length := h.length ▸ hindex
        rw [List.getElem?_eq_none (by omega), List.getElem?_eq_none (by simp; omega)]
  · rw [List.zipWith_append h.length, ← h.tools]
    rfl

theorem ToolsTold.append {s : StreamState} {tools : List FoldedTool} {calls : List SaidCall}
    {blocks : List Nat} (h : ToolsTold s tools calls blocks) {index block : Nat}
    (hblock : blocks[index]? = some block) (piece : String) :
    ToolsTold s (tools.map (FoldedTool.append block piece))
      (calls.modify index (SaidCall.append piece)) blocks := by
  refine ⟨by simp [h.length], h.nodup, h.below, h.indices, ?_⟩
  rw [h.tools]
  apply List.ext_getElem?
  intro i
  rw [List.getElem?_map, List.getElem?_zipWith, List.getElem?_zipWith, List.getElem?_modify]
  cases hb : blocks[i]? with
  | none => rfl
  | some b =>
    cases hc : calls[i]? with
    | none => rfl
    | some call =>
      by_cases hi : index = i
      · subst hi
        rw [hblock] at hb
        obtain rfl := Option.some.inj hb
        simp [FoldedTool.append, SaidCall.append]
      · -- The blocks differ, as the indices do.
        have hne : b ≠ block := by
          intro heq
          subst heq
          obtain ⟨hlt, hget⟩ := List.getElem?_eq_some_iff.mp hb
          obtain ⟨hlt', hget'⟩ := List.getElem?_eq_some_iff.mp hblock
          exact hi ((List.Nodup.getElem_inj_iff h.nodup).mp (hget'.trans hget.symm))
        simp [FoldedTool.append, hi, hne]

theorem modify_last (calls : List SaidCall) (call : SaidCall) (piece : String) :
    (calls ++ [call]).modify calls.length (SaidCall.append piece) =
      calls ++ [call.append piece] := by
  induction calls with
  | nil => rfl
  | cons c calls ih => simp [ih]

theorem modify_empty (calls : List SaidCall) (index : Nat) :
    calls.modify index (SaidCall.append "") = calls := by
  have hid : SaidCall.append "" = id := by
    funext call
    simp [SaidCall.append]
  rw [hid, List.modify_id]

/-- The arguments of a delta go to the block of its call. -/
theorem Told.arguments (h : k.Tells m seenReasoning seenContent started said) {tc : Value}
    {index : Nat} {piece : String} (hindex : tc.getU64 "index" = some index)
    (hlt : index < said.calls.length)
    (hpiece : (functionField tc "arguments").getD "" = piece) :
    (toolArgumentsClaude tc k).Tells m seenReasoning seenContent started
      { said with calls := said.calls.modify index (SaidCall.append piece) } := by
  obtain ⟨blocks, htools⟩ := h.tools
  unfold toolArgumentsClaude
  cases hargs : (functionField tc "arguments").filter fun args => !args.isEmpty with
  | none =>
    rw [getD_of_filter_none hargs] at hpiece
    rw [← hpiece, modify_empty]
    exact h
  | some args =>
    have hsome := (Option.filter_eq_some_iff.mp hargs).1
    rw [hsome, Option.getD_some] at hpiece
    have hlt : index < blocks.length := htools.length ▸ hlt
    have hblock : blocks[index]? = some blocks[index] := List.getElem?_eq_getElem hlt
    generalize blocks[index] = block at hblock
    have hlookup : k.state.toolBlockIndices.lookup (toolCallIndex tc) = some block := by
      rw [toolCallIndex, hindex, Option.getD_some, htools.indices, hblock]
    simp only [hlookup]
    unfold Sink.Tells
    simp only [told_contentBlockDelta, FoldedMessage.feedDelta, Value.getStr, Value.get_ofFields,
      List.lookup_cons, hpiece]
    exact ⟨h.accepted, h.seenReasoning, h.seenContent, h.thinking, h.text,
      ⟨blocks, htools.append hblock piece⟩, h.sent, fun hfalse => by simp [h.waiting hfalse],
      h.stopReason, h.error⟩

theorem functionName_get {tc : Value} {name : String} (h : functionField tc "name" = some name) :
    (tc.get "function").bind (Value.get · "name") = some (.string name) := by
  obtain ⟨function, hfunction, hname⟩ := Option.bind_eq_some_iff.mp h
  rw [hfunction]
  exact Value.get_of_getStr hname

theorem Told.startCall (env : Env) (h : k.Tells m seenReasoning seenContent true said) {tc : Value}
    {call : SaidCall} (hstart : StartsCall tc said.calls.length call)
    (hpublic : openaiResponsesCustomToolBridgePrefixIsReserved call.name = false) :
    ∃ k', startToolBlockClaude env tc k = .ok k' ∧
      (toolArgumentsClaude tc k').Tells m seenReasoning seenContent true
        { said with calls := said.calls ++ [call] } := by
  have hclosed := (Told.stopThinking h).stopText
  obtain ⟨blocks, htools⟩ := hclosed.tools
  have htype : anthropicToolUseTypeForOpenaiToolCall env tc = .ok "tool_use" := by
    rw [toolUseType_of_plain env hstart.toIsPlainCall (.inr hstart.type) hstart.functionName
      (functionName_get hstart.functionName), Option.filter_some_neg hpublic]
  have hid : (tc.get "id").isNone = false := by simp [hstart.id]
  unfold startToolBlockClaude
  simp only [hid, Bool.false_eq_true, if_false, htype]
  refine ⟨_, rfl, ?_⟩
  have hopened : (contentBlockStart ((stopTextBlockClaude (stopThinkingBlockClaude k)).update
      fun s => { s with
        nextBlockIndex := s.nextBlockIndex + 1
        toolBlockIndices := s.toolBlockIndices.insert (toolCallIndex tc)
          (stopTextBlockClaude (stopThinkingBlockClaude k)).state.nextBlockIndex })
      (stopTextBlockClaude (stopThinkingBlockClaude k)).state.nextBlockIndex
      (.ofFields [("type", .string "tool_use"), ("id", .string ((tc.getStr "id").getD "")),
        ("name", .string ((functionField tc "name").getD "")), ("input", .ofFields [])])).Tells
      m seenReasoning seenContent true
      { said with calls := said.calls ++ [⟨call.id, call.name, ""⟩] } := by
    have hindex : toolCallIndex tc = said.calls.length := by
      rw [toolCallIndex, hstart.index]
      rfl
    have hidText : tc.getStr "id" = some call.id := by
      rw [Value.getStr, hstart.id]
      rfl
    unfold Sink.Tells
    simp only [told_contentBlockStart, told_update, FoldedMessage.startBlock, Value.getStr_ofFields,
      List.lookup_cons, hindex, hidText, hstart.functionName]
    exact ⟨hclosed.accepted, hclosed.seenReasoning, hclosed.seenContent, hclosed.thinking,
      hclosed.text, ⟨_, htools.start call.id call.name⟩, hclosed.sent,
      fun hfalse => absurd hfalse (by decide), hclosed.stopReason, hclosed.error⟩
  have hargs := Told.arguments hopened hstart.index (by simp) hstart.arguments
  rw [modify_last] at hargs
  simpa [SaidCall.append] using hargs

theorem names_modify (calls : List SaidCall) (index : Nat) (piece : String) :
    (calls.modify index (SaidCall.append piece)).map SaidCall.name = calls.map SaidCall.name := by
  apply List.ext_getElem?
  intro i
  simp only [List.getElem?_map, List.getElem?_modify]
  by_cases hi : index = i
  · cases calls[i]? <;> simp [hi, SaidCall.append]
  · simp [hi]

theorem TellsCalls.names {calls calls' : List SaidCall} {tcs : List Value}
    (h : TellsCalls calls tcs calls') :
    ∃ rest, calls'.map SaidCall.name = calls.map SaidCall.name ++ rest := by
  induction h with
  | nil => exact ⟨[], by simp⟩
  | @starts _ _ _ _ call _ _ ih =>
    obtain ⟨rest, hrest⟩ := ih
    exact ⟨call.name :: rest, by simp [hrest]⟩
  | @continues calls _ _ _ index piece _ _ _ ih =>
    obtain ⟨rest, hrest⟩ := ih
    exact ⟨rest, by rw [hrest, names_modify]⟩

/-- Names that come later do not change which reserved one is the first. -/
theorem TellsCalls.reserved {calls calls' : List SaidCall} {tcs : List Value}
    (h : TellsCalls calls tcs calls') :
    reservedNameOf calls' = none → reservedNameOf calls = none := by
  obtain ⟨rest, hrest⟩ := h.names
  unfold reservedNameOf
  rw [hrest, List.find?_append]
  intro hnone
  exact (Option.or_eq_none_iff.mp hnone).1

theorem TellsCalls.first {calls calls' : List SaidCall} {tcs : List Value} {name : String}
    (h : TellsCalls calls tcs calls') (hname : reservedNameOf calls = some name) :
    reservedNameOf calls' = some name := by
  obtain ⟨rest, hrest⟩ := h.names
  unfold reservedNameOf at hname ⊢
  rw [hrest, List.find?_append, hname]
  rfl

theorem reservedNameOf_append (calls : List SaidCall) (call : SaidCall)
    (h : reservedNameOf calls = none) :
    reservedNameOf (calls ++ [call]) =
      if openaiResponsesCustomToolBridgePrefixIsReserved call.name then some call.name
      else none := by
  unfold reservedNameOf at h ⊢
  rw [List.map_append, List.find?_append, h]
  simp [List.find?_cons]
  split <;> simp_all

/-- The deltas of a chunk, none of which names a call for the first time with a reserved name. -/
theorem Told.toolCalls (env : Env) {calls calls' : List SaidCall} {tcs : List Value}
    (htells : TellsCalls calls tcs calls') : ∀ {k : Sink} {said : Said},
      k.Tells m seenReasoning seenContent true said → said.calls = calls →
      reservedNameOf calls' = none →
      ∃ k', toolCallsClaude env tcs k = .ok k' ∧
        k'.Tells m seenReasoning seenContent true { said with calls := calls' } := by
  induction htells with
  | nil =>
    intro k said h hsaid _
    refine ⟨k, rfl, ?_⟩
    rw [← hsaid]
    exact h
  | @starts calls calls' tc tcs call hstart hrest ih =>
    intro k said h hsaid hnone
    subst hsaid
    have hpublic : openaiResponsesCustomToolBridgePrefixIsReserved call.name = false := by
      have hcalls := hrest.reserved hnone
      unfold reservedNameOf at hcalls
      simpa using List.find?_eq_none.mp hcalls call.name (by simp)
    obtain ⟨k', hk, htold⟩ := h.startCall env hstart hpublic
    obtain ⟨k'', hk', htold'⟩ := ih htold rfl hnone
    refine ⟨k'', ?_, htold'⟩
    rw [toolCallsClaude, hk]
    exact hk'
  | @continues calls calls' tc tcs index piece hlt hpiece hrest ih =>
    intro k said h hsaid hnone
    subst hsaid
    have hk : startToolBlockClaude env tc k = .ok k := by
      simp [startToolBlockClaude, hpiece.id]
    have htold := h.arguments hpiece.index hlt hpiece.arguments
    obtain ⟨k'', hk', htold'⟩ := ih htold rfl hnone
    refine ⟨k'', ?_, htold'⟩
    rw [toolCallsClaude, hk]
    exact hk'

/-- A chunk is rejected for the first call that has a name of the proxy's own. -/
theorem rejected_of_tells (env : Env) {calls calls' : List SaidCall} {tcs : List Value}
    (htells : TellsCalls calls tcs calls') (hnone : reservedNameOf calls = none) :
    (tcs.findSome? fun tc =>
      match anthropicToolUseTypeForOpenaiToolCall env tc with
      | .error message => some message
      | .ok _ => none) =
      (reservedNameOf calls').map reservedOpenaiCustomBridgePrefixMessage := by
  induction htells with
  | nil =>
    rw [hnone]
    rfl
  | @starts calls calls' tc tcs call hstart hrest ih =>
    rw [List.findSome?_cons, toolUseType_of_plain env hstart.toIsPlainCall (.inr hstart.type)
      hstart.functionName (functionName_get hstart.functionName)]
    have happend := reservedNameOf_append calls call hnone
    cases hreserved : openaiResponsesCustomToolBridgePrefixIsReserved call.name with
    | true =>
      rw [hreserved, if_pos rfl] at happend
      rw [Option.filter_some_pos hreserved, hrest.first happend]
      rfl
    | false =>
      rw [hreserved, if_neg (by simp)] at happend
      rw [Option.filter_some_neg hreserved]
      exact ih happend
  | @continues calls calls' tc tcs index piece _ hpiece hrest ih =>
    have hname : functionField tc "name" = none := by
      have hget := hpiece.functionName
      unfold functionField
      cases hfunction : tc.get "function" with
      | none => rfl
      | some function =>
        rw [hfunction] at hget
        have hget : function.get "name" = none := hget
        simp [Value.getStr, hget]
    rw [List.findSome?_cons, toolUseType_of_plain env hpiece.toIsPlainCall hpiece.type hname
      hpiece.functionName]
    refine ih ?_
    unfold reservedNameOf at hnone ⊢
    rw [names_modify]
    exact hnone

end

end LlmUniversalProxy.Streaming
