import LlmUniversalProxy.Lib.Monitor
import LlmUniversalProxy.Lib.Result
import LlmUniversalProxy.Streaming.ClaudeSink

/-!
# `Streaming.ClaudeProtocol` — the Anthropic events form a message

`ClaudeMessage` is what a client makes of the events: which blocks are open, which index comes
next, which tool calls it has been told of. `ClaudeMessage.step` refuses an event that does not
belong there. `ClaudeTracks` ties the client's view to the sink's state: the open blocks are those
that the flags and the map of tool blocks name.

A tool call of a Chat stream is known by its index: all deltas with one index belong to one call
(`toolCallsOf`), which is also how the sink for Responses and `ToolCallState` take them. This sink
goes by the `id` key of a delta instead (`streaming/openai_sink.rs` 1043-1071). A delta that has one
starts a block whether or not its index has one already, and the map then forgets the block it had;
a call whose deltas have none is told with no block at all. So the message is what it should be where
exactly the first delta of every index has the key (`FirstDeltasCarryIds`), and there it always is.
-/

set_option autoImplicit false

namespace LlmUniversalProxy.Streaming

open Json Lib Translate

/-! ## The client's view -/

/-- An Anthropic message as far as it has been told. `toolBlocks` are the ids of the tool blocks. -/
structure ClaudeMessage where
  started : Bool := false
  nextIndex : Nat := 0
  openBlocks : List Nat := []
  toolBlocks : List String := []
  finished : Bool := false
  stopped : Bool := false
  deriving DecidableEq

namespace ClaudeMessage

def startedToolBlock (event : Value) : Option String :=
  (event.get "content_block").bind fun block =>
    match block.getStr "type" with
    | some "tool_use" | some "server_tool_use" => block.getStr "id"
    | _ => none

/-- What an event does to the message; `none` for an event that may not come. -/
def step (m : ClaudeMessage) : SseFrame → Option ClaudeMessage
  | .event eventType event =>
      -- nothing follows `message_stop`, not even an error
      if m.stopped then none
      else if eventType = "message_start" then
        if m.started then none else some { m with started := true }
      else if eventType = "content_block_start" then
        if m.started ∧ m.finished = false ∧ event.getU64 "index" = some m.nextIndex then
          some { m with
            nextIndex := m.nextIndex + 1
            openBlocks := m.nextIndex :: m.openBlocks
            toolBlocks := m.toolBlocks ++ (startedToolBlock event).toList }
        else none
      else if eventType = "content_block_delta" then
        if ∃ i ∈ m.openBlocks, event.getU64 "index" = some i then some m else none
      else if eventType = "content_block_stop" then
        match event.getU64 "index" with
        | some i =>
            if i ∈ m.openBlocks then some { m with openBlocks := m.openBlocks.erase i } else none
        | none => none
      else if eventType = "message_delta" then
        -- every block is closed before the message is
        if m.started ∧ m.finished = false ∧ m.openBlocks = [] then
          some { m with finished := true }
        else none
      else if eventType = "message_stop" then some { m with stopped := true }
      -- an error may come at any time; the source sends it in place of the rest of the message
      else if eventType = "error" then some m
      else none
  | _ => none

end ClaudeMessage

/-! ## The sink's view -/

def toolBlocksOf (s : StreamState) : List Nat := s.toolBlockIndices.entries.map Sigma.snd

def openBlocksOf (s : StreamState) : List Nat :=
  (if s.thinkingBlockStarted then [s.thinkingBlockIndex] else []) ++
    ((if s.textBlockStarted then [s.textBlockIndex] else []) ++ toolBlocksOf s)

/-- The client's view and the state of the sink, after these tool calls: an index and an id for
each delta that carried an id. -/
structure ClaudeTracks (calls : List (Nat × String)) (m : ClaudeMessage) (s : StreamState) :
    Prop where
  running : m.stopped = false
  unfinished : m.finished = false
  started : m.started = s.messageStartSent
  first : s.messageStartSent = false → m.nextIndex = 0
  next : s.messageStartSent = true → m.nextIndex = s.nextBlockIndex
  blocks : m.openBlocks.Perm (openBlocksOf s)
  text : s.textBlockStarted = true → s.textBlockClosed = false
  tools : m.toolBlocks = calls.map Prod.snd
  indices : ∀ i, i ∈ s.toolBlockIndices ↔ i ∈ calls.map Prod.fst

/-- The same, once the message has started. -/
structure ClaudeSpeaks (calls : List (Nat × String)) (m : ClaudeMessage) (s : StreamState) : Prop
    extends ClaudeTracks calls m s where
  speaking : s.messageStartSent = true

variable {calls : List (Nat × String)} {m₀ : ClaudeMessage} {k : Sink}

/-- The frames of the sink have been accepted, and the message has started. -/
abbrev Speaks (calls : List (Nat × String)) (m₀ : ClaudeMessage) (k : Sink) : Prop :=
  Monitor.Tracks ClaudeMessage.step (ClaudeSpeaks calls) m₀ k.out k.state

/-! ## One event -/

theorem step_start {m : ClaudeMessage} {s : StreamState} (h : ClaudeSpeaks calls m s)
    {index : Nat} {block : Value} (hindex : index = s.nextBlockIndex) :
    m.step (.event "content_block_start" (.ofFields [("type", .string "content_block_start"),
        ("index", .nat index), ("content_block", block)])) =
      some { m with
        nextIndex := index + 1
        openBlocks := index :: m.openBlocks
        toolBlocks := m.toolBlocks ++
          (ClaudeMessage.startedToolBlock (.ofFields [("content_block", block)])).toList } := by
  have hnext : m.nextIndex = index := (h.next h.speaking).trans hindex.symm
  simp [ClaudeMessage.step, ClaudeMessage.startedToolBlock, Value.getU64, List.lookup_cons,
    h.running, h.unfinished, h.started, h.speaking, hnext]

theorem step_delta {m : ClaudeMessage} {s : StreamState} (h : ClaudeSpeaks calls m s)
    {index : Nat} {delta : Value} (hindex : index ∈ openBlocksOf s) :
    m.step (.event "content_block_delta" (.ofFields [("type", .string "content_block_delta"),
        ("index", .nat index), ("delta", delta)])) = some m := by
  have hopen : index ∈ m.openBlocks := h.blocks.mem_iff.mpr hindex
  simp [ClaudeMessage.step, Value.getU64, List.lookup_cons, h.running, hopen]

theorem step_stop {m : ClaudeMessage} (hrunning : m.stopped = false) {index : Nat}
    (hopen : index ∈ m.openBlocks) :
    m.step (.event "content_block_stop" (.ofFields [("type", .string "content_block_stop"),
        ("index", .nat index)])) = some { m with openBlocks := m.openBlocks.erase index } := by
  simp [ClaudeMessage.step, Value.getU64, List.lookup_cons, hrunning, hopen]

/-- An error can come at any time. -/
theorem step_error {m : ClaudeMessage} (h : m.stopped = false) (errorType message : String) :
    m.step (anthropicErrorEvent errorType message) = some m := by
  simp [ClaudeMessage.step, anthropicErrorEvent, h]

/-! ## Blocks -/

/-- Stopping a block takes it from both views. -/
theorem ClaudeSpeaks.stop {m : ClaudeMessage} {s s' : StreamState} {index : Nat}
    (h : ClaudeSpeaks calls m s) (hblocks : (openBlocksOf s).Perm (index :: openBlocksOf s'))
    (hstart : s'.messageStartSent = s.messageStartSent)
    (hnext : s'.nextBlockIndex = s.nextBlockIndex)
    (htext : s'.textBlockStarted = true → s'.textBlockClosed = false)
    (htools : s'.toolBlockIndices = s.toolBlockIndices) :
    ClaudeSpeaks calls { m with openBlocks := m.openBlocks.erase index } s' where
  running := h.running
  unfinished := h.unfinished
  started := h.started.trans hstart.symm
  first := fun hfirst => h.first (hstart ▸ hfirst)
  next := fun _ => (h.next h.speaking).trans hnext.symm
  blocks := by
    have hperm := (h.blocks.trans hblocks).erase index
    rwa [List.erase_cons_head] at hperm
  text := htext
  tools := h.tools
  indices := htools ▸ h.indices
  speaking := hstart.trans h.speaking

/-- Starting a block adds it to both views. -/
theorem ClaudeSpeaks.start {calls' : List (Nat × String)} {m : ClaudeMessage}
    {s s' : StreamState} {toolBlocks : List String} (h : ClaudeSpeaks calls m s)
    (hblocks : (openBlocksOf s').Perm (s.nextBlockIndex :: openBlocksOf s))
    (hstart : s'.messageStartSent = s.messageStartSent)
    (hnext : s'.nextBlockIndex = s.nextBlockIndex + 1)
    (htext : s'.textBlockStarted = true → s'.textBlockClosed = false)
    (htools : toolBlocks = calls'.map Prod.snd)
    (hindices : ∀ i, i ∈ s'.toolBlockIndices ↔ i ∈ calls'.map Prod.fst) :
    ClaudeSpeaks calls' { m with
      nextIndex := s.nextBlockIndex + 1
      openBlocks := s.nextBlockIndex :: m.openBlocks
      toolBlocks := toolBlocks } s' where
  running := h.running
  unfinished := h.unfinished
  started := h.started.trans hstart.symm
  first := fun hfirst => absurd (hfirst.symm.trans (hstart.trans h.speaking)) (by simp)
  next := fun _ => hnext.symm
  blocks := (h.blocks.cons _).trans hblocks.symm
  text := htext
  tools := htools
  indices := hindices
  speaking := hstart.trans h.speaking

theorem stopThinkingBlockClaude_state (k : Sink) :
    (stopThinkingBlockClaude k).state = { k.state with thinkingBlockStarted := false } := by
  unfold stopThinkingBlockClaude
  split
  · rfl
  · next h =>
    have hflag : k.state.thinkingBlockStarted = false := by simpa using h
    rw [← hflag]

theorem Speaks.stopThinking (h : Speaks calls m₀ k) :
    Speaks calls m₀ (stopThinkingBlockClaude k) := by
  unfold stopThinkingBlockClaude
  split
  · next hflag =>
    have hblocks : (openBlocksOf k.state).Perm (k.state.thinkingBlockIndex ::
        openBlocksOf { k.state with thinkingBlockStarted := false }) := by
      simp [openBlocksOf, hflag, toolBlocksOf]
    refine h.push fun m hm => ⟨_, step_stop hm.running ?_, hm.stop hblocks rfl rfl hm.text rfl⟩
    exact hm.blocks.mem_iff.mpr (hblocks.mem_iff.mpr List.mem_cons_self)
  · exact h

theorem Speaks.stopText (h : Speaks calls m₀ k) : Speaks calls m₀ (stopTextBlockClaude k) := by
  unfold stopTextBlockClaude
  split
  · exact h
  · next hflag =>
    have hstarted : k.state.textBlockStarted = true := by
      cases hs : k.state.textBlockStarted
      · simp [hs] at hflag
      · rfl
    have hblocks : (openBlocksOf k.state).Perm (k.state.textBlockIndex :: openBlocksOf
        { k.state with textBlockClosed := true, textBlockStarted := false }) := by
      simp only [openBlocksOf, hstarted, if_true, toolBlocksOf]
      exact List.perm_middle
    refine h.push fun m hm => ⟨_, step_stop hm.running ?_,
      hm.stop hblocks rfl rfl (fun hfalse => by cases hfalse) rfl⟩
    exact hm.blocks.mem_iff.mpr (hblocks.mem_iff.mpr List.mem_cons_self)

theorem Speaks.ensureThinking (h : Speaks calls m₀ k) :
    Speaks calls m₀ (ensureThinkingBlockClaude k) ∧
      (ensureThinkingBlockClaude k).state.thinkingBlockStarted = true := by
  unfold ensureThinkingBlockClaude
  split
  · next hflag => exact ⟨h, hflag⟩
  · next hflag =>
    refine ⟨h.push fun m hm => ⟨_, step_start hm rfl, ?_⟩, rfl⟩
    refine hm.start ?_ rfl rfl hm.text ?_ hm.indices
    · simp only [openBlocksOf, hflag, toolBlocksOf]
      exact List.Perm.refl _
    · simpa [ClaudeMessage.startedToolBlock, Value.getStr, List.lookup_cons] using hm.tools

theorem Speaks.ensureText (h : Speaks calls m₀ k) :
    Speaks calls m₀ (ensureTextBlockClaude k) ∧
      (ensureTextBlockClaude k).state.textBlockStarted = true := by
  unfold ensureTextBlockClaude
  split
  · next hflag => exact ⟨h, hflag⟩
  · next hflag =>
    refine ⟨h.push fun m hm => ⟨_, step_start hm rfl, ?_⟩, rfl⟩
    refine hm.start ?_ rfl rfl (fun _ => rfl) ?_ hm.indices
    · simp only [openBlocksOf, hflag, toolBlocksOf]
      exact List.perm_middle
    · simpa [ClaudeMessage.startedToolBlock, Value.getStr, List.lookup_cons] using hm.tools

theorem Speaks.delta (h : Speaks calls m₀ k) {index : Nat} {delta : Value}
    (hindex : index ∈ openBlocksOf k.state) :
    Speaks calls m₀ (contentBlockDelta k index delta) :=
  h.push fun m hm => ⟨m, step_delta hm hindex, hm⟩

/-! ## The parts of a chunk -/

theorem speaks_startMessage {m : ClaudeMessage} {s : StreamState} (chunk choice : Value)
    (h : ClaudeTracks calls m s) : Speaks calls m (startMessageClaude chunk choice ⟨s, []⟩) := by
  unfold startMessageClaude
  split
  · next hstarted => exact .nil { h with speaking := hstarted }
  · next hstarted =>
    have hfresh : s.messageStartSent = false := by simpa using hstarted
    refine (Monitor.Tracks.nil h).push fun m hm => ⟨{ m with started := true }, ?_, ?_⟩
    · simp [ClaudeMessage.step, hm.running, hm.started, hfresh]
    · exact { hm with
        started := rfl
        first := fun hfirst => by cases hfirst
        next := fun _ => hm.first hfresh
        speaking := rfl }

theorem Speaks.reasoning (h : Speaks calls m₀ k) (reasoning : Option String) :
    Speaks calls m₀ (reasoningClaude reasoning k) := by
  unfold reasoningClaude
  split
  · exact h
  · obtain ⟨hthinking, hflag⟩ := h.stopText.ensureThinking
    exact hthinking.delta (by simp [openBlocksOf, hflag])

theorem Speaks.content (h : Speaks calls m₀ k) (content : Option String) :
    Speaks calls m₀ (contentClaude content k) := by
  unfold contentClaude
  split
  · exact h
  · obtain ⟨htext, hflag⟩ := h.stopThinking.ensureText
    exact htext.delta (by simp [openBlocksOf, hflag])

theorem Speaks.toolArguments (h : Speaks calls m₀ k) (tc : Value) :
    Speaks calls m₀ (toolArgumentsClaude tc k) := by
  unfold toolArgumentsClaude
  split
  · exact h
  · split
    · exact h
    · next blockIndex hlookup =>
      refine h.delta ?_
      have hmem : blockIndex ∈ toolBlocksOf k.state :=
        List.mem_map.mpr ⟨_, FinMap.mem_entries_iff.mpr hlookup, rfl⟩
      simp [openBlocksOf, hmem]

/-- The tool calls that a list of deltas starts: those with an id. -/
def startedCalls (tcs : List Value) : List (Nat × String) :=
  (tcs.filter fun tc => (tc.get "id").isSome).map fun tc =>
    (toolCallIndex tc, (tc.getStr "id").getD "")

theorem toolUseType_cases {env : Env} {tc : Value} {toolUseType : String}
    (h : anthropicToolUseTypeForOpenaiToolCall env tc = .ok toolUseType) :
    toolUseType = "server_tool_use" ∨ toolUseType = "tool_use" := by
  obtain ⟨_, _, h⟩ := Result.bind_ok.mp h
  simp only at h
  split at h
  · cases h
  · obtain ⟨_, _, h⟩ := Result.bind_ok.mp h
    cases h
    exact .inl rfl
  · obtain ⟨_, _, h⟩ := Result.bind_ok.mp h
    cases h
    exact .inr rfl

/-- A delta with an id, for an index without a block. -/
theorem Speaks.startToolBlock {env : Env} {tc : Value} {toolUseType : String}
    (h : Speaks calls m₀ k) (htype : anthropicToolUseTypeForOpenaiToolCall env tc = .ok toolUseType)
    (hnodup : ((calls ++ startedCalls [tc]).map Prod.fst).Nodup) :
    ∃ k', startToolBlockClaude env tc k = .ok k' ∧ Speaks (calls ++ startedCalls [tc]) m₀ k' := by
  unfold startToolBlockClaude
  cases hid : tc.get "id" with
  | none =>
    have hnone : startedCalls [tc] = [] := by simp [startedCalls, hid]
    rw [hnone, List.append_nil]
    exact ⟨k, rfl, h⟩
  | some id =>
    have hcalls : startedCalls [tc] = [(toolCallIndex tc, (tc.getStr "id").getD "")] := by
      simp [startedCalls, hid]
    rw [hcalls] at hnodup ⊢
    have hstopped := h.stopThinking.stopText
    generalize stopTextBlockClaude (stopThinkingBlockClaude k) = stopped at hstopped
    simp only [Option.isNone_some, Bool.false_eq_true, if_false, htype]
    refine ⟨_, rfl, hstopped.push fun m hm => ⟨_, step_start hm rfl, ?_⟩⟩
    have hnew : toolCallIndex tc ∉ stopped.state.toolBlockIndices := by
      rw [hm.indices]
      rw [List.map_append] at hnodup
      exact fun hold => (List.nodup_append.mp hnodup).2.2 _ hold _ List.mem_cons_self rfl
    refine hm.start ?_ rfl rfl hm.text ?_ ?_
    · simp only [contentBlockStart_state, Sink.update_state, openBlocksOf, toolBlocksOf,
        AList.entries_insert_of_notMem hnew, List.map_cons, ← List.append_assoc]
      exact List.perm_middle
    · rw [hm.tools, List.map_append]
      rcases toolUseType_cases htype with rfl | rfl <;>
        simp [ClaudeMessage.startedToolBlock, Value.getStr, List.lookup_cons]
    · intro i
      refine (AList.mem_insert _).trans ?_
      rw [hm.indices, List.map_append, List.mem_append, or_comm]
      simp

theorem startedCalls_cons (tc : Value) (tcs : List Value) :
    startedCalls (tc :: tcs) = startedCalls [tc] ++ startedCalls tcs := by
  unfold startedCalls
  rw [← List.map_append, ← List.filter_append, List.singleton_append]

/-- The loop over the tool-call deltas, when none is rejected and no index starts a block twice. -/
theorem Speaks.toolCalls {env : Env} {tcs : List Value}
    (hok : ∀ tc ∈ tcs, ∃ toolUseType, anthropicToolUseTypeForOpenaiToolCall env tc =
      .ok toolUseType) :
    ∀ {calls : List (Nat × String)} {k : Sink}, Speaks calls m₀ k →
      ((calls ++ startedCalls tcs).map Prod.fst).Nodup →
      ∃ k', toolCallsClaude env tcs k = .ok k' ∧ Speaks (calls ++ startedCalls tcs) m₀ k' := by
  induction tcs with
  | nil =>
    intro calls k h _
    refine ⟨k, rfl, ?_⟩
    rwa [show startedCalls [] = [] from rfl, List.append_nil]
  | cons tc tcs ih =>
    intro calls k h hnodup
    rw [startedCalls_cons, ← List.append_assoc] at hnodup ⊢
    obtain ⟨toolUseType, htype⟩ := hok tc List.mem_cons_self
    have hfirst : ((calls ++ startedCalls [tc]).map Prod.fst).Nodup := by
      rw [List.map_append] at hnodup
      exact (List.nodup_append.mp hnodup).1
    obtain ⟨k₁, hstart, hspeaks⟩ := h.startToolBlock htype hfirst
    obtain ⟨k', hloop, hspeaks'⟩ := ih (fun tc htc => hok tc (List.mem_cons_of_mem _ htc))
      (hspeaks.toolArguments tc) hnodup
    refine ⟨k', ?_, hspeaks'⟩
    rw [toolCallsClaude, hstart]
    exact hloop

/-! ## The end of the message -/

/-- The client's view while the sink stops the blocks `rest`. -/
structure ClaudeStops (calls : List (Nat × String)) (rest : List Nat) (m : ClaudeMessage) :
    Prop where
  running : m.stopped = false
  unfinished : m.finished = false
  started : m.started = true
  blocks : m.openBlocks.Perm rest
  tools : m.toolBlocks = calls.map Prod.snd

theorem step_messageDelta {m : ClaudeMessage} (h : ClaudeStops calls [] m) (event : Value) :
    m.step (.event "message_delta" event) = some { m with finished := true } := by
  simp [ClaudeMessage.step, h.running, h.unfinished, h.started, List.perm_nil.mp h.blocks]

theorem step_messageStop {m : ClaudeMessage} (h : m.stopped = false) (event : Value) :
    m.step (.event "message_stop" event) = some { m with stopped := true } := by
  simp [ClaudeMessage.step, h]

theorem stops_all (rest : List Nat) :
    ∀ {k : Sink}, Monitor.Tracks ClaudeMessage.step (fun m _ => ClaudeStops calls rest m) m₀ k.out
        k.state →
      Monitor.Tracks ClaudeMessage.step (fun m _ => ClaudeStops calls [] m) m₀
        (rest.foldl contentBlockStop k).out (rest.foldl contentBlockStop k).state := by
  induction rest with
  | nil =>
    intro k h
    exact h
  | cons index rest ih =>
    intro k h
    rw [List.foldl_cons]
    refine ih (h.push fun m hm => ⟨_, step_stop hm.running ?_, ?_⟩)
    · exact hm.blocks.mem_iff.mpr List.mem_cons_self
    · have hperm := hm.blocks.erase index
      rw [List.erase_cons_head] at hperm
      exact { hm with blocks := hperm }

theorem Speaks.stopText_started (h : Speaks calls m₀ k) :
    (stopTextBlockClaude k).state.textBlockStarted = false := by
  obtain ⟨m, _, hm⟩ := h
  unfold stopTextBlockClaude
  split
  · next hflag =>
    cases hstarted : k.state.textBlockStarted
    · rfl
    · simp [hstarted, hm.text hstarted] at hflag
  · rfl

@[simp] theorem stopTextBlockClaude_thinkingBlockStarted (k : Sink) :
    (stopTextBlockClaude k).state.thinkingBlockStarted = k.state.thinkingBlockStarted := by
  unfold stopTextBlockClaude
  split <;> rfl

/-- What the client has been told at the end: one tool block for each call. -/
def ClaudeTold (calls : List (Nat × String)) (m : ClaudeMessage) (_ : StreamState) : Prop :=
  m.toolBlocks = calls.map Prod.snd

/-- The last two events. -/
theorem ends_message
    (h : Monitor.Tracks ClaudeMessage.step (fun m _ => ClaudeStops calls [] m) m₀ k.out k.state)
    (delta stop : Value) :
    Monitor.Tracks ClaudeMessage.step (ClaudeTold calls) m₀
      ((k.push "message_delta" delta).push "message_stop" stop).out k.state := by
  have hdelta : Monitor.Tracks ClaudeMessage.step
      (fun m _ => m.toolBlocks = calls.map Prod.snd ∧ m.stopped = false) m₀
      (k.push "message_delta" delta).out k.state :=
    h.push fun m hm => ⟨_, step_messageDelta hm delta, hm.tools, hm.running⟩
  exact hdelta.push fun m hm => ⟨_, step_messageStop hm.2 stop, hm.1⟩

/-- The finish stops every open block and then the message. -/
theorem Speaks.finish {env : Env} (h : Speaks calls m₀ k) (finishReason : Option String) :
    Monitor.Tracks ClaudeMessage.step (ClaudeTold calls) m₀ (finishClaude env finishReason k).out
      (finishClaude env finishReason k).state := by
  unfold finishClaude
  split
  · exact h.update fun m hm => hm.tools
  · have hstopped := h.stopThinking.stopText
    have hblocks : openBlocksOf (stopTextBlockClaude (stopThinkingBlockClaude k)).state =
        toolBlocksOf (stopTextBlockClaude (stopThinkingBlockClaude k)).state := by
      simp [openBlocksOf, h.stopThinking.stopText_started, stopThinkingBlockClaude_state]
    generalize stopTextBlockClaude (stopThinkingBlockClaude k) = stopped at hstopped hblocks
    have hwalk : ((hashWalk env stopped.state.toolBlockIndices).map Prod.snd).Perm
        (toolBlocksOf stopped.state) := by
      refine ((hashWalk_perm env stopped.state.toolBlockIndices).map Prod.snd).trans (.of_eq ?_)
      rw [List.map_map]
      rfl
    have hall := stops_all ((hashWalk env stopped.state.toolBlockIndices).map Prod.snd)
      (hstopped.update fun m hm => ⟨hm.running, hm.unfinished, hm.started.trans hm.speaking,
        (hblocks ▸ hm.blocks).trans hwalk.symm, hm.tools⟩)
    exact ends_message hall _ _
  · exact h.push fun m hm => ⟨m, step_error hm.running _ _, hm.tools⟩

/-! ## A chunk -/

/-- The tool-call deltas of a chunk that is translated: none when it is ignored, or answered with an
error. -/
def admittedDeltas (env : Env) (chunk : Value) (s : StreamState) : List Value :=
  if s.fatalRejection.isSome ∧ (chunk.get "error").isNone then []
  else
    match chunkChoice chunk with
    | none => []
    | some choice =>
        if (rejectedToolCall env choice).isSome ∨ (earlyError s choice).isSome then []
        else choice.toolCalls

def Finishes (chunk : Value) : Prop :=
  ((chunkChoice chunk).bind ChunkChoice.finishReason).isSome

/-- The chunk has no choice: all it can carry is usage. -/
def UsageOnly (chunk : Value) : Prop := (chunkChoice chunk).isNone

instance (chunk : Value) : Decidable (Finishes chunk) := inferInstanceAs (Decidable (_ = true))

instance (chunk : Value) : Decidable (UsageOnly chunk) := inferInstanceAs (Decidable (_ = true))

theorem earlyError_congr {s s' : StreamState} (h : s'.messageStartSent = s.messageStartSent)
    (choice : ChunkChoice) : earlyError s' choice = earlyError s choice := by
  unfold earlyError
  rw [h]

theorem earlyError_eq {s : StreamState} {choice : ChunkChoice} {frame : SseFrame}
    (h : earlyError s choice = some frame) :
    ∃ errorType message, frame = anthropicErrorEvent errorType message := by
  unfold earlyError at h
  split at h
  · split at h
    · cases h
      exact ⟨_, _, rfl⟩
    · cases h
  · cases h

theorem toolUseType_of_not_rejected {env : Env} {choice : ChunkChoice}
    (h : rejectedToolCall env choice = none) :
    ∀ tc ∈ choice.toolCalls, ∃ toolUseType,
      anthropicToolUseTypeForOpenaiToolCall env tc = .ok toolUseType := by
  intro tc htc
  have hnone := List.findSome?_eq_none_iff.mp h tc htc
  cases htype : anthropicToolUseTypeForOpenaiToolCall env tc with
  | error message => simp [htype] at hnone
  | ok toolUseType => exact ⟨toolUseType, rfl⟩

/-- Fields that the client's view does not depend on. -/
theorem ClaudeTracks.congr {m : ClaudeMessage} {s s' : StreamState} (h : ClaudeTracks calls m s)
    (hstart : s'.messageStartSent = s.messageStartSent)
    (hnext : s'.nextBlockIndex = s.nextBlockIndex) (hblocks : openBlocksOf s' = openBlocksOf s)
    (htext : s'.textBlockStarted = true → s'.textBlockClosed = false)
    (htools : s'.toolBlockIndices = s.toolBlockIndices) : ClaudeTracks calls m s' where
  running := h.running
  unfinished := h.unfinished
  started := h.started.trans hstart.symm
  first := fun hfirst => h.first (hstart ▸ hfirst)
  next := fun hnotFirst => (h.next (hstart ▸ hnotFirst)).trans hnext.symm
  blocks := hblocks ▸ h.blocks
  text := htext
  tools := h.tools
  indices := htools ▸ h.indices

theorem ClaudeTracks.captureUsage {m : ClaudeMessage} {s : StreamState}
    (h : ClaudeTracks calls m s) (chunk : Value) :
    ClaudeTracks calls m (captureUsageClaude chunk s) := by
  unfold captureUsageClaude
  split
  · exact h.congr rfl rfl rfl h.text rfl
  · exact h

theorem ClaudeTracks.reasoningDelta {m : ClaudeMessage} {s : StreamState}
    (h : ClaudeTracks calls m s) (delta : Value) :
    ClaudeTracks calls m (openaiChunkReasoningDelta delta s).2 := by
  unfold openaiChunkReasoningDelta
  split
  · exact h
  · exact h.congr rfl rfl rfl h.text rfl

theorem Speaks.contentDelta (h : Speaks calls m₀ k) (delta : Value) :
    Speaks calls m₀ ⟨(openaiChunkContentDelta delta k.state).2, k.out⟩ := by
  unfold openaiChunkContentDelta
  split
  · exact h
  · exact h.update fun m hm =>
      { hm.toClaudeTracks.congr rfl rfl rfl hm.text rfl with speaking := hm.speaking }

@[simp] theorem captureUsageClaude_messageStartSent (chunk : Value) (s : StreamState) :
    (captureUsageClaude chunk s).messageStartSent = s.messageStartSent := by
  unfold captureUsageClaude
  split <;> rfl

@[simp] theorem openaiChunkReasoningDelta_messageStartSent (delta : Value) (s : StreamState) :
    (openaiChunkReasoningDelta delta s).2.messageStartSent = s.messageStartSent := by
  unfold openaiChunkReasoningDelta
  split <;> rfl

/-- **One chunk.** When no tool call of it starts a second block for its index, its events belong
to the message; and the message goes on unless the chunk finishes it. -/
theorem openaiChunkToClaudeSse_tracks {env : Env} {chunk : Value} {m : ClaudeMessage}
    {s : StreamState} (h : ClaudeTracks calls m s)
    (hnodup : ((calls ++ startedCalls (admittedDeltas env chunk s)).map Prod.fst).Nodup) :
    (¬ Finishes chunk → Monitor.Tracks ClaudeMessage.step
      (ClaudeTracks (calls ++ startedCalls (admittedDeltas env chunk s))) m
      (openaiChunkToClaudeSse env chunk s).1 (openaiChunkToClaudeSse env chunk s).2) ∧
    Monitor.Tracks ClaudeMessage.step
      (ClaudeTold (calls ++ startedCalls (admittedDeltas env chunk s))) m
      (openaiChunkToClaudeSse env chunk s).1 (openaiChunkToClaudeSse env chunk s).2 := by
  -- it is enough to follow the message, except past a finish
  have hboth : ∀ {calls : List (Nat × String)} {out : List SseFrame} {s : StreamState},
      Monitor.Tracks ClaudeMessage.step (ClaudeTracks calls) m out s →
      (¬ Finishes chunk → Monitor.Tracks ClaudeMessage.step (ClaudeTracks calls) m out s) ∧
        Monitor.Tracks ClaudeMessage.step (ClaudeTold calls) m out s :=
    fun h => ⟨fun _ => h, h.update fun _ hm => hm.tools⟩
  have hnone : startedCalls [] = [] := rfl
  unfold openaiChunkToClaudeSse admittedDeltas at *
  split
  · rw [hnone, List.append_nil]
    exact hboth (.nil h)
  · next hfatal =>
    rw [if_neg hfatal] at hnodup
    cases hchoice : chunkChoice chunk with
    | none =>
      simp only [hnone, List.append_nil]
      exact hboth (.nil (h.captureUsage chunk))
    | some choice =>
      rw [hchoice] at hnodup
      have hread := (h.captureUsage chunk).reasoningDelta choice.delta
      have hearly : earlyError (openaiChunkReasoningDelta choice.delta
          (captureUsageClaude chunk s)).2 choice = earlyError s choice :=
        earlyError_congr (by simp) choice
      simp only
      generalize openaiChunkReasoningDelta choice.delta (captureUsageClaude chunk s) = reasoning
        at hread hearly
      rw [hearly]
      cases hrejected : rejectedToolCall env choice with
      | some message =>
        simp only [Option.isSome_some, true_or, if_true, hnone, List.append_nil]
        refine hboth ((Monitor.Tracks.nil hread).push fun m hm => ⟨m, step_error hm.running _ _, ?_⟩)
        exact hm.congr rfl rfl rfl hm.text rfl
      | none =>
        cases hframe : earlyError s choice with
        | some frame =>
          simp only [Option.isSome_some, or_true, if_true, hnone, List.append_nil]
          obtain ⟨errorType, message, rfl⟩ := earlyError_eq hframe
          exact hboth ((Monitor.Tracks.nil hread).push fun m hm =>
            ⟨m, step_error hm.running _ _, hm⟩)
        | none =>
          simp only [hrejected, hframe, Option.isSome_none, Bool.false_eq_true, or_self,
            if_false] at hnodup ⊢
          have hstart := speaks_startMessage chunk choice.choice hread
          have hthought := hstart.reasoning reasoning.1
          generalize reasoningClaude reasoning.1 _ = thought at hthought ⊢
          have hspoken := (hthought.contentDelta choice.delta).content
            (openaiChunkContentDelta choice.delta thought.state).1
          obtain ⟨k', hloop, hcalls⟩ := hspoken.toolCalls
            (toolUseType_of_not_rejected hrejected) hnodup
          rw [hloop]
          refine ⟨fun hgoes => ?_, hcalls.finish choice.finishReason⟩
          have hnone : choice.finishReason = none := by
            by_contra hsome
            refine hgoes ?_
            rw [Finishes, hchoice]
            exact Option.isSome_iff_ne_none.mpr hsome
          rw [hnone]
          exact hcalls.update fun m hm => hm.toClaudeTracks

/-! ## A whole stream -/

/-- The chunks of a stream, one after the other; each comes with its own surroundings. -/
def claudeRun : List (Env × Value) → StreamState → List SseFrame × StreamState
  | [], s => ([], s)
  | (env, chunk) :: chunks, s =>
      let (out, s) := openaiChunkToClaudeSse env chunk s
      let (rest, s) := claudeRun chunks s
      (out ++ rest, s)

/-- The tool-call deltas of a stream that are translated. -/
def claudeDeltas : List (Env × Value) → StreamState → List Value
  | [], _ => []
  | (env, chunk) :: chunks, s =>
      admittedDeltas env chunk s ++ claudeDeltas chunks (openaiChunkToClaudeSse env chunk s).2

/-- A delta belongs to the call of its index, which is a new one if there is none yet. A call has the
id of its first delta. -/
def collectCall (calls : List (Nat × String)) (tc : Value) : List (Nat × String) :=
  if toolCallIndex tc ∈ calls.map Prod.fst then calls
  else calls ++ [(toolCallIndex tc, (tc.getStr "id").getD "")]

def toolCallsOf (chunks : List (Env × Value)) : List (Nat × String) :=
  (claudeDeltas chunks {}).foldl collectCall []

/-- Of these deltas, the first one of each index carries an id, unless the index is known, and no
other one does. -/
def CarryIdsFirst : List Nat → List Value → Prop
  | _, [] => True
  | known, tc :: tcs =>
      ((tc.get "id").isSome = true ↔ toolCallIndex tc ∉ known) ∧
        CarryIdsFirst (toolCallIndex tc :: known) tcs

/-- In the chunks that are translated, a delta carries an id exactly when it is the first one of its
index. -/
def FirstDeltasCarryIds (chunks : List (Env × Value)) : Prop :=
  CarryIdsFirst [] (claudeDeltas chunks {})

/-- Behind a finish reason there is nothing but usage. -/
def NothingAfterFinish (chunks : List (Env × Value)) : Prop :=
  chunks.Pairwise fun chunk later => Finishes chunk.2 → UsageOnly later.2

instance decidableCarryIdsFirst : ∀ (known : List Nat) (tcs : List Value),
    Decidable (CarryIdsFirst known tcs)
  | _, [] => inferInstanceAs (Decidable True)
  | known, tc :: tcs =>
      have := decidableCarryIdsFirst (toolCallIndex tc :: known) tcs
      inferInstanceAs (Decidable (_ ∧ _))

instance (chunks : List (Env × Value)) : Decidable (FirstDeltasCarryIds chunks) :=
  inferInstanceAs (Decidable (CarryIdsFirst _ _))

instance (chunks : List (Env × Value)) : Decidable (NothingAfterFinish chunks) :=
  inferInstanceAs (Decidable (List.Pairwise _ _))

theorem claudeRun_usageOnly {chunks : List (Env × Value)}
    (h : ∀ chunk ∈ chunks, UsageOnly chunk.2) :
    ∀ s, (claudeRun chunks s).1 = [] ∧ claudeDeltas chunks s = [] := by
  induction chunks with
  | nil => exact fun s => ⟨rfl, rfl⟩
  | cons first chunks ih =>
    intro s
    obtain ⟨env, chunk⟩ := first
    have hchoice : chunkChoice chunk = none := Option.isNone_iff_eq_none.mp (h _ List.mem_cons_self)
    have hout : (openaiChunkToClaudeSse env chunk s).1 = [] := by
      unfold openaiChunkToClaudeSse
      split
      · rfl
      · simp only [hchoice]
    have hdeltas : admittedDeltas env chunk s = [] := by
      unfold admittedDeltas
      split
      · rfl
      · simp only [hchoice]
    obtain ⟨hrest, hrestDeltas⟩ := ih (fun c hc => h c (List.mem_cons_of_mem _ hc))
      (openaiChunkToClaudeSse env chunk s).2
    simp [claudeRun, claudeDeltas, hout, hdeltas, hrest, hrestDeltas]

/-! ## Calls by their index -/

theorem startedCalls_append (tcs tcs' : List Value) :
    startedCalls (tcs ++ tcs') = startedCalls tcs ++ startedCalls tcs' := by
  unfold startedCalls
  rw [List.filter_append, List.map_append]

/-- The deltas with an id are the first ones of their indices: they start all calls, and each once. -/
theorem CarryIdsFirst.startAll {tcs : List Value} :
    ∀ {known : List Nat} {calls : List (Nat × String)}, CarryIdsFirst known tcs →
      (∀ i, i ∈ known ↔ i ∈ calls.map Prod.fst) → (calls.map Prod.fst).Nodup →
      tcs.foldl collectCall calls = calls ++ startedCalls tcs ∧
        ((calls ++ startedCalls tcs).map Prod.fst).Nodup := by
  induction tcs with
  | nil => exact fun _ _ hnodup => ⟨(List.append_nil _).symm, by rwa [startedCalls, List.filter_nil,
      List.map_nil, List.append_nil]⟩
  | cons tc tcs ih =>
    intro known calls h hknown hnodup
    rw [startedCalls_cons, ← List.append_assoc, List.foldl_cons]
    by_cases hnew : toolCallIndex tc ∈ known
    · have hnone : startedCalls [tc] = [] := by
        have hid : ¬ (tc.get "id").isSome = true := fun hid => h.1.mp hid hnew
        simp [startedCalls, hid]
      rw [hnone, List.append_nil, collectCall, if_pos ((hknown _).mp hnew)]
      refine ih h.2 (fun i => ?_) hnodup
      rw [List.mem_cons, hknown]
      refine or_iff_right_of_imp ?_
      rintro rfl
      exact (hknown _).mp hnew
    · have hstarted : startedCalls [tc] = [(toolCallIndex tc, (tc.getStr "id").getD "")] := by
        simp [startedCalls, h.1.mpr hnew]
      rw [hstarted, collectCall, if_neg fun hold => hnew ((hknown _).mpr hold)]
      refine ih h.2 (fun i => ?_) ?_
      · rw [List.mem_cons, List.map_append, List.mem_append, hknown, or_comm]
        simp
      · rw [List.map_append]
        refine List.nodup_append.mpr ⟨hnodup, List.nodup_singleton _, ?_⟩
        rintro i hi j hj rfl
        rw [List.map_singleton, List.mem_singleton] at hj
        subst hj
        exact hnew ((hknown _).mpr hi)

/-- A stream, from any point of the message, where no index starts a block twice. -/
theorem claudeRun_tracks {chunks : List (Env × Value)} :
    ∀ {calls : List (Nat × String)} {m : ClaudeMessage} {s : StreamState},
      ClaudeTracks calls m s → NothingAfterFinish chunks →
      ((calls ++ startedCalls (claudeDeltas chunks s)).map Prod.fst).Nodup →
      Monitor.Tracks ClaudeMessage.step
        (ClaudeTold (calls ++ startedCalls (claudeDeltas chunks s))) m
        (claudeRun chunks s).1 (claudeRun chunks s).2 := by
  induction chunks with
  | nil =>
    intro calls m s h _ _
    have hnone : startedCalls [] = [] := rfl
    rw [claudeDeltas, hnone, List.append_nil]
    exact (Monitor.Tracks.nil h).update fun m hm => hm.tools
  | cons first chunks ih =>
    intro calls m s h hfinish hnodup
    obtain ⟨env, chunk⟩ := first
    obtain ⟨hlater, hrest⟩ := List.pairwise_cons.mp hfinish
    rw [claudeDeltas, startedCalls_append, ← List.append_assoc] at hnodup ⊢
    have hfirst : ((calls ++ startedCalls (admittedDeltas env chunk s)).map Prod.fst).Nodup := by
      rw [List.map_append] at hnodup
      exact (List.nodup_append.mp hnodup).1
    obtain ⟨hgoes, htold⟩ := openaiChunkToClaudeSse_tracks h hfirst
    simp only [claudeRun]
    by_cases hends : Finishes chunk
    · obtain ⟨hout, hdeltas⟩ := claudeRun_usageOnly (fun c hc => hlater c hc hends)
        (openaiChunkToClaudeSse env chunk s).2
      have hnone : startedCalls [] = [] := rfl
      rw [hout, hdeltas, hnone, List.append_nil, List.append_nil]
      exact htold.update fun m hm => hm
    · obtain ⟨m', htrace, hm'⟩ := hgoes hends
      obtain ⟨m'', htrace', htold'⟩ := ih hm' hrest hnodup
      refine ⟨m'', ?_, htold'⟩
      rw [Monitor.foldlM_append, htrace]
      exact htrace'

/-- **The events form a legal message**, with exactly one tool block for each tool call, as long as
the first delta of every tool index carries an id and no other one does. -/
theorem claude_events_legal {chunks : List (Env × Value)}
    (hfinish : NothingAfterFinish chunks) (hids : FirstDeltasCarryIds chunks) :
    ∃ m, (claudeRun chunks {}).1.foldlM ClaudeMessage.step {} = some m ∧
      m.toolBlocks = (toolCallsOf chunks).map Prod.snd := by
  have hinit : ClaudeTracks [] {} {} :=
    { running := rfl, unfinished := rfl, started := rfl, first := fun _ => rfl,
      next := fun h => (nomatch h), blocks := List.Perm.refl _, text := fun h => (nomatch h),
      tools := rfl, indices := fun i => by simp }
  obtain ⟨hcalls, hnodup⟩ := @CarryIdsFirst.startAll _ [] [] hids (fun i => by simp) List.nodup_nil
  obtain ⟨m, htrace, htold⟩ := claudeRun_tracks hinit hfinish hnodup
  refine ⟨m, htrace, ?_⟩
  rw [toolCallsOf, hcalls]
  exact htold

def chatChunk (delta : Value) (finishReason : Option String) : Env × Value :=
  (.still, .ofFields [("id", .string "chatcmpl-12345678"), ("model", .string "gpt"),
    ("choices", .array [.ofFields [("index", .nat 0), ("delta", delta),
      ("finish_reason", .ofOptionStr finishReason)]])])

def toolCallDelta (id : Option String) (arguments : String) : Value :=
  let fields := [("index", .nat 0), ("function", .ofFields [("name", .string "f"),
    ("arguments", .string arguments)])]
  .ofFields [("tool_calls", .array [.ofFields (match id with
    | some id => ("id", .string id) :: fields
    | none => fields)])]

/-- A tool call that is told of its id once. -/
def toolCallStream : List (Env × Value) :=
  [chatChunk (.ofFields [("content", .string "hi")]) none,
    chatChunk (toolCallDelta (some "call_1") "") none,
    chatChunk (toolCallDelta none "\x7b\x7d") none,
    chatChunk (.ofFields []) (some "tool_calls")]

theorem claude_events_legal_tool_call :
    ∃ m, (claudeRun toolCallStream {}).1.foldlM ClaudeMessage.step {} = some m ∧
      m.toolBlocks = (toolCallsOf toolCallStream).map Prod.snd :=
  claude_events_legal (by decide +kernel) (by decide +kernel)

/-- A tool call that repeats its id with every delta, as some upstreams do. -/
def repeatedIdStream : List (Env × Value) :=
  [chatChunk (toolCallDelta (some "call_1") "") none,
    chatChunk (toolCallDelta (some "call_1") "\x7b\x7d") none,
    chatChunk (.ofFields []) (some "tool_calls")]

/-- The second delta starts a second block, and the first block is never stopped. -/
theorem claude_events_repeated_id :
    ¬ ∀ chunks : List (Env × Value), NothingAfterFinish chunks →
      ∃ m, (claudeRun chunks {}).1.foldlM ClaudeMessage.step {} = some m := by
  intro h
  obtain ⟨m, hm⟩ := h repeatedIdStream (by decide +kernel)
  have hnone : (claudeRun repeatedIdStream {}).1.foldlM ClaudeMessage.step {} = none := by
    decide +kernel
  rw [hnone] at hm
  cases hm

end LlmUniversalProxy.Streaming
