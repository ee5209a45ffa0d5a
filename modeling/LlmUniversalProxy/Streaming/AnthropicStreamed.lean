import LlmUniversalProxy.Streaming.AnthropicSource
import LlmUniversalProxy.Streaming.Folded

/-!
# `Streaming.AnthropicStreamed` — what a Chat client is told of a streamed message

A message of texts and thoughts can be told in many streams. `RendersMessage` has them: the blocks
come one behind the other, each is cut into deltas anywhere, a signature may come in between, and a
block that Chat has no counterpart for (`IsForeign`) is announced like any other.

`fold_message` follows `claude_event_to_openai_chunks` (`anthropic_source.rs` 163-612) through such
a stream, from the first event to the last. A thinking block holds back what is marked as omitted;
the texts go out as they come, before it is known how the message ends. A foreign block rejects the
stream, and what has gone out before it stays with the client.
-/

set_option autoImplicit false

namespace LlmUniversalProxy.Streaming

open Json Lib Translate

/-! ## Renderings of a message -/

/-- An event with this type, of the block with this index. -/
def IsBlockEvent (eventType : String) (index : Nat) (event : Value) : Prop :=
  event.getStr "type" = some eventType ∧ blockIndexOf event = some index

def IsBlockStart (index : Nat) (event block : Value) : Prop :=
  IsBlockEvent "content_block_start" index event ∧ event.get "content_block" = some block

def IsBlockDelta (index : Nat) (event delta : Value) : Prop :=
  IsBlockEvent "content_block_delta" index event ∧ event.get "delta" = some delta

/-- The text of a block, cut into deltas. -/
inductive TextDeltas (index : Nat) : List Value → String → Prop
  | nil : TextDeltas index [] ""
  | text {event delta : Value} {events : List Value} {piece rest : String}
      (hevent : IsBlockDelta index event delta) (htype : delta.getStr "type" = some "text_delta")
      (hpiece : delta.getStr "text" = some piece) (hrest : TextDeltas index events rest) :
      TextDeltas index (event :: events) (piece ++ rest)
  | ping {event : Value} {events : List Value} {rest : String}
      (hevent : event.getStr "type" = some "ping") (hrest : TextDeltas index events rest) :
      TextDeltas index (event :: events) rest

/-- The thinking of a block, cut into deltas, with its signature in between. -/
inductive ThinkingDeltas (index : Nat) : List Value → String → Prop
  | nil : ThinkingDeltas index [] ""
  | thinking {event delta : Value} {events : List Value} {piece rest : String}
      (hevent : IsBlockDelta index event delta)
      (htype : delta.getStr "type" = some "thinking_delta")
      (hpiece : delta.getStr "thinking" = some piece) (hrest : ThinkingDeltas index events rest) :
      ThinkingDeltas index (event :: events) (piece ++ rest)
  | signature {event delta : Value} {events : List Value} {rest : String}
      (hevent : IsBlockDelta index event delta)
      (htype : delta.getStr "type" = some "signature_delta")
      (hrest : ThinkingDeltas index events rest) : ThinkingDeltas index (event :: events) rest
  | ping {event : Value} {events : List Value} {rest : String}
      (hevent : event.getStr "type" = some "ping") (hrest : ThinkingDeltas index events rest) :
      ThinkingDeltas index (event :: events) rest

/-- A block that has no counterpart in Chat: redacted thinking, a type that is not known, or no
type at all. -/
def IsForeign (block : Value) : Prop :=
  ∀ blockType, block.getStr "type" = some blockType →
    anthropicContentBlockSupported blockType = false

/-- The events of one block. Its text or thinking may have begun with the block, and the rest comes
in deltas. -/
inductive RendersBlock (index : Nat) : Value → List Value → Prop
  | text {block start started stop : Value} {deltas : List Value} {text rest : String}
      (htype : block.getStr "type" = some "text") (htext : block.getStr "text" = some text)
      (hcitations : (block.getArray "citations").getD [] = [])
      (hstart : IsBlockStart index start started) (hstarted : started.getStr "type" = some "text")
      (hdeltas : TextDeltas index deltas rest)
      (hbegun : (started.getStr "text").getD "" ++ rest = text)
      (hstop : IsBlockEvent "content_block_stop" index stop) :
      RendersBlock index block (start :: (deltas ++ [stop]))
  | thinking {block start started stop : Value} {deltas : List Value} {rest : String}
      (htype : block.getStr "type" = some "thinking") (hstart : IsBlockStart index start started)
      (hstarted : started.getStr "type" = some "thinking")
      (homitted : thinkingIsOmitted started = thinkingIsOmitted block)
      (hdeltas : ThinkingDeltas index deltas rest)
      (hthinking : (started.getStr "thinking").getD "" ++ rest =
        (block.getStr "thinking").getD "")
      (hstop : IsBlockEvent "content_block_stop" index stop) :
      RendersBlock index block (start :: (deltas ++ [stop]))
  | foreign {block start started : Value} {events : List Value} (hforeign : IsForeign block)
      (hstart : IsBlockStart index start started)
      (hstarted : started.getStr "type" = block.getStr "type") :
      RendersBlock index block (start :: events)

/-- The events of the blocks, one block behind the other. -/
inductive RendersBlocks : Nat → List Value → List Value → Prop
  | nil {index : Nat} : RendersBlocks index [] []
  | cons {index : Nat} {block : Value} {blocks events rest : List Value}
      (hblock : RendersBlock index block events) (hrest : RendersBlocks (index + 1) blocks rest) :
      RendersBlocks index (block :: blocks) (events ++ rest)

/-- The events of a message with these blocks. -/
structure RendersMessage (body : Value) (blocks events : List Value) : Prop where
  content : body.get "content" = some (.array blocks)
  rendered : ∃ start delta stop blockEvents, RendersBlocks 0 blocks blockEvents ∧
    start.getStr "type" = some "message_start" ∧ delta.getStr "type" = some "message_delta" ∧
    (delta.get "delta").bind (Value.getStr · "stop_reason") = body.getStr "stop_reason" ∧
    stop.getStr "type" = some "message_stop" ∧
    events = start :: (blockEvents ++ [delta, stop])

def TextsBeginEmpty (events : List Value) : Prop :=
  ∀ event ∈ events, ∀ started, event.getStr "type" = some "content_block_start" →
    event.get "content_block" = some started → started.getStr "type" = some "text" →
    (started.getStr "text").getD "" = ""

theorem TextsBeginEmpty.left {before after : List Value} (h : TextsBeginEmpty (before ++ after)) :
    TextsBeginEmpty before := fun event hevent => h event (List.mem_append_left _ hevent)

theorem TextsBeginEmpty.right {before after : List Value} (h : TextsBeginEmpty (before ++ after)) :
    TextsBeginEmpty after := fun event hevent => h event (List.mem_append_right _ hevent)

/-! ## What the blocks say -/

/-- The thinking that a stream shows. -/
def shownThinkingOf (blocks : List Value) : String :=
  thinkingOf (blocks.filter fun block => !thinkingIsOmitted block)

@[simp] theorem shownThinkingOf_nil : shownThinkingOf [] = "" := rfl

theorem shownThinkingOf_cons (block : Value) (blocks : List Value) :
    shownThinkingOf (block :: blocks) =
      (if block.getStr "type" = some "thinking" && !thinkingIsOmitted block then
        (block.getStr "thinking").getD "" else "") ++ shownThinkingOf blocks := by
  unfold shownThinkingOf
  cases h : thinkingIsOmitted block with
  | true => simp [h]
  | false => simp [h, thinkingOf_cons]

/-! ## The stream, event by event

`Calm` holds between two events of a message that has not been rejected; `Opened` while a thinking
block is open. What an event adds to the client is said next to the state it leaves behind. -/

structure Calm (s : StreamState) : Prop where
  accepted : s.fatalRejection = none
  noCalls : s.claudeToolUses = ∅
  running : s.finishReasonSent = false
  unfinished : s.finishReason = none

theorem calm_ensureRole {env : Env} {k : Source} (h : Calm k.state) :
    Calm (k.ensureRole env).state := by
  unfold Source.ensureRole emitOpenaiAssistantRoleIfNeeded
  split
  · exact h
  · exact ⟨h.accepted, h.noCalls, h.running, h.unfinished⟩

theorem claudeBlocks_ensureRole (env : Env) (k : Source) :
    (k.ensureRole env).state.claudeBlocks = k.state.claudeBlocks := by
  unfold Source.ensureRole emitOpenaiAssistantRoleIfNeeded
  split <;> rfl

section

variable (env : Env) {s : StreamState} {event : Value} {index : Nat}

/-- A thought goes out under its own field. -/
theorem emitReasoning {k : Source} (h : Calm k.state) (text : String) (f : Folded) :
    Calm (emitClaudeReasoningDelta env text k).state ∧
      (emitClaudeReasoningDelta env text k).state.claudeBlocks = k.state.claudeBlocks ∧
      (emitClaudeReasoningDelta env text k).folds f =
        { k.folds f with reasoning := (k.folds f).reasoning ++ text } := by
  unfold emitClaudeReasoningDelta
  split
  · next hempty =>
    have htext : text = "" := String.isEmpty_iff.mp hempty
    refine ⟨h, rfl, ?_⟩
    rw [htext, String.append_empty]
  · exact ⟨calm_ensureRole h, claudeBlocks_ensureRole env k, by simp⟩

theorem fold_ping (hevent : event.getStr "type" = some "ping") (f : Folded) :
    foldEvent (claudeEventToOpenaiChunks env) (s, f) event = (s, f) := by
  unfold foldEvent claudeEventToOpenaiChunks
  rw [hevent]
  split <;> rfl

theorem fold_textDelta (hs : Calm s) {delta : Value} {piece : String}
    (hevent : IsBlockDelta index event delta) (htype : delta.getStr "type" = some "text_delta")
    (hpiece : delta.getStr "text" = some piece) (f : Folded) :
    ∃ s', foldEvent (claudeEventToOpenaiChunks env) (s, f) event =
        (s', { f with content := f.content ++ piece }) ∧
      Calm s' ∧ s'.claudeBlocks = s.claudeBlocks := by
  obtain ⟨⟨hty, _⟩, hdelta⟩ := hevent
  have hstep : claudeEventToOpenaiChunks env event s = textDelta env delta s := by
    simp only [claudeEventToOpenaiChunks, hs.accepted, hty, contentBlockDeltaEvent, hdelta, htype,
      Option.isSome_none, Bool.false_eq_true, if_false, Option.getD_some]
  refine ⟨(textDelta env delta s).state, Prod.ext (by rw [foldEvent, hstep]) ?_, ?_⟩
  · rw [foldEvent, hstep]
    show (textDelta env delta s).folds f = _
    unfold textDelta
    rw [hpiece]
    by_cases hempty : piece = ""
    · have hnone : (some piece).filter (fun t => !t.isEmpty) = none := by simp [hempty]
      rw [hnone, hempty]
      simp
    · have hsome : (some piece).filter (fun t => !t.isEmpty) = some piece := by simp [hempty]
      rw [hsome]
      simp
  · unfold textDelta
    split
    · exact ⟨hs, rfl⟩
    · exact ⟨calm_ensureRole (k := ⟨s, []⟩) hs, claudeBlocks_ensureRole env ⟨s, []⟩⟩

theorem fold_textDeltas {deltas : List Value} {text : String} (h : TextDeltas index deltas text) :
    ∀ {s : StreamState} (f : Folded), Calm s →
      ∃ s', foldEvents (claudeEventToOpenaiChunks env) deltas (s, f) =
          (s', { f with content := f.content ++ text }) ∧
        Calm s' ∧ s'.claudeBlocks = s.claudeBlocks := by
  induction h with
  | nil =>
    intro s f hs
    exact ⟨s, by simp, hs, rfl⟩
  | text hevent htype hpiece _ ih =>
    intro s f hs
    obtain ⟨s₁, h₁, hs₁, hb₁⟩ := fold_textDelta env hs hevent htype hpiece f
    obtain ⟨s₂, h₂, hs₂, hb₂⟩ := ih _ hs₁
    refine ⟨s₂, ?_, hs₂, hb₂.trans hb₁⟩
    rw [foldEvents_cons, h₁, h₂, String.append_assoc]
  | ping hevent _ ih =>
    intro s f hs
    obtain ⟨s₁, h₁, hs₁, hb₁⟩ := ih f hs
    refine ⟨s₁, ?_, hs₁, hb₁⟩
    rw [foldEvents_cons, fold_ping env hevent, h₁]

/-! ### Thinking blocks -/

/-- A thinking block is open. What it holds back is shown at its end, so it holds back nothing that
has been shown. -/
def Opened (s : StreamState) (index : Nat) (omitted : Bool) : Prop :=
  ∃ block, s.claudeBlocks.lookup index = some block ∧ block.kind = some .thinking ∧
    block.omitted = omitted ∧ (omitted = false → block.thinking = "")

/-- What of a thought is shown. -/
def shown (omitted : Bool) (text : String) : String := if omitted then "" else text

theorem shown_append (omitted : Bool) (a b : String) :
    shown omitted (a ++ b) = shown omitted a ++ shown omitted b := by
  cases omitted <;> simp [shown]

theorem fold_thinkingStart (hs : Calm s) {started : Value}
    (hstart : IsBlockStart index event started) (htype : started.getStr "type" = some "thinking")
    (f : Folded) :
    ∃ s', foldEvent (claudeEventToOpenaiChunks env) (s, f) event =
        (s', { f with reasoning := (f.reasoning ++
          shown (thinkingIsOmitted started) ((started.getStr "thinking").getD "")) }) ∧
      Calm s' ∧ Opened s' index (thinkingIsOmitted started) := by
  obtain ⟨⟨hty, hindex⟩, hblock⟩ := hstart
  have hstep : claudeEventToOpenaiChunks env event s =
      thinkingBlockStart env event started index s := by
    simp only [claudeEventToOpenaiChunks, hs.accepted, hty, contentBlockStarted, hblock, htype,
      hindex, Option.isSome_none, Bool.false_eq_true, if_false, Option.getD_some]
  have hcalm : ∀ block, Calm (setBlock index block s) := fun block =>
    ⟨hs.accepted, hs.noCalls, hs.running, hs.unfinished⟩
  -- The block is in the state before anything of it is shown.
  have hopened : ∀ (t : StreamState) (block : ClaudeBlockState),
      t.claudeBlocks = (setBlock index block s).claudeBlocks → block.kind = some .thinking →
      block.omitted = thinkingIsOmitted started → block.thinking = "" →
      Opened t index (thinkingIsOmitted started) := by
    intro t block ht hkind homitted hthinking
    refine ⟨block, ?_, hkind, homitted, fun _ => hthinking⟩
    rw [ht]
    exact AList.lookup_insert _
  rw [foldEvent, hstep]
  show ∃ s', (_, (thinkingBlockStart env event started index s).folds f) = _ ∧ _
  unfold thinkingBlockStart
  cases homitted : thinkingIsOmitted started with
  | true =>
    rw [homitted] at hopened
    refine ⟨_, Prod.ext rfl (by simp [shown]), ?_,
      hopened _ { kind := some .thinking, signature := started.getStr "signature", omitted := true }
        rfl rfl rfl rfl⟩
    exact ⟨hs.accepted, hs.noCalls, hs.running, hs.unfinished⟩
  | false =>
    rw [homitted] at hopened
    let block : ClaudeBlockState :=
      { kind := some .thinking, signature := started.getStr "signature", omitted := false }
    obtain ⟨hcalm, hblocks, hfold⟩ := emitReasoning env
      (k := ⟨setBlock index block s, []⟩) (hcalm block) ((started.getStr "thinking").getD "") f
    exact ⟨_, Prod.ext rfl hfold, ⟨hcalm.accepted, hcalm.noCalls, hcalm.running, hcalm.unfinished⟩,
      hopened _ block hblocks rfl rfl rfl⟩

theorem blockForDelta_opened {omitted : Bool} (ho : Opened s index omitted)
    (hindex : blockIndexOf event = some index) (deltaType : String) :
    ∃ block, blockForDelta deltaType .thinking "thinking" event s = .ok (index, block) ∧
      s.claudeBlocks.lookup index = some block ∧ block.kind = some .thinking ∧
      block.omitted = omitted ∧ (omitted = false → block.thinking = "") := by
  obtain ⟨block, hlookup, hkind, homitted, hthinking⟩ := ho
  refine ⟨block, ?_, hlookup, hkind, homitted, hthinking⟩
  simp [blockForDelta, hindex, hlookup, hkind]

theorem fold_thinkingDelta (hs : Calm s) {omitted : Bool} (ho : Opened s index omitted)
    {delta : Value} {piece : String} (hevent : IsBlockDelta index event delta)
    (htype : delta.getStr "type" = some "thinking_delta")
    (hpiece : delta.getStr "thinking" = some piece) (f : Folded) :
    ∃ s', foldEvent (claudeEventToOpenaiChunks env) (s, f) event =
        (s', { f with reasoning := f.reasoning ++ shown omitted piece }) ∧
      Calm s' ∧ Opened s' index omitted := by
  obtain ⟨⟨hty, hindex⟩, hdelta⟩ := hevent
  obtain ⟨block, hblock, hlookup, hkind, homitted, hthinking⟩ :=
    blockForDelta_opened ho hindex "thinking_delta"
  have hstep : claudeEventToOpenaiChunks env event s = thinkingDelta env event delta s := by
    simp only [claudeEventToOpenaiChunks, hs.accepted, hty, contentBlockDeltaEvent, hdelta, htype,
      Option.isSome_none, Bool.false_eq_true, if_false, Option.getD_some]
  rw [foldEvent, hstep]
  show ∃ s', (_, (thinkingDelta env event delta s).folds f) = _ ∧ _
  unfold thinkingDelta
  rw [hblock, hpiece]
  by_cases hempty : piece = ""
  · have hnone : (some piece).filter (fun t => !t.isEmpty) = none := by simp [hempty]
    rw [hnone, hempty]
    exact ⟨s, by simp [shown], hs, ho⟩
  · have hsome : (some piece).filter (fun t => !t.isEmpty) = some piece := by simp [hempty]
    rw [hsome]
    cases omitted with
    | true =>
      simp only [homitted, if_true]
      refine ⟨_, Prod.ext rfl (by simp [shown]),
        ⟨hs.accepted, hs.noCalls, hs.running, hs.unfinished⟩, ?_⟩
      exact ⟨{ block with thinking := block.thinking ++ piece, omitted := true },
        AList.lookup_insert _, hkind, rfl, fun h => (nomatch h)⟩
    | false =>
      simp only [homitted, Bool.false_eq_true, if_false]
      obtain ⟨hcalm, hblocks, hfold⟩ := emitReasoning env (k := ⟨s, []⟩) hs piece f
      refine ⟨_, Prod.ext rfl hfold, hcalm, block, ?_, hkind, homitted, hthinking⟩
      rw [hblocks]
      exact hlookup

theorem fold_signatureDelta (hs : Calm s) {omitted : Bool} (ho : Opened s index omitted)
    {delta : Value} (hevent : IsBlockDelta index event delta)
    (htype : delta.getStr "type" = some "signature_delta") (f : Folded) :
    ∃ s', foldEvent (claudeEventToOpenaiChunks env) (s, f) event = (s', f) ∧
      Calm s' ∧ Opened s' index omitted := by
  obtain ⟨⟨hty, hindex⟩, hdelta⟩ := hevent
  obtain ⟨block, hblock, hlookup, hkind, homitted, hthinking⟩ :=
    blockForDelta_opened ho hindex "signature_delta"
  have hstep : claudeEventToOpenaiChunks env event s = signatureDelta env event delta s := by
    simp only [claudeEventToOpenaiChunks, hs.accepted, hty, contentBlockDeltaEvent, hdelta, htype,
      Option.isSome_none, Bool.false_eq_true, if_false, Option.getD_some]
  rw [foldEvent, hstep]
  show ∃ s', (_, (signatureDelta env event delta s).folds f) = _ ∧ _
  unfold signatureDelta
  rw [hblock]
  dsimp only
  split
  · exact ⟨s, rfl, hs, ho⟩
  · next signature _ =>
    refine ⟨_, rfl, ⟨hs.accepted, hs.noCalls, hs.running, hs.unfinished⟩, ?_⟩
    exact ⟨{ block with signature := some signature }, AList.lookup_insert _, hkind, homitted,
      hthinking⟩

theorem fold_thinkingDeltas {deltas : List Value} {text : String} {omitted : Bool}
    (h : ThinkingDeltas index deltas text) :
    ∀ {s : StreamState} (f : Folded), Calm s → Opened s index omitted →
      ∃ s', foldEvents (claudeEventToOpenaiChunks env) deltas (s, f) =
          (s', { f with reasoning := f.reasoning ++ shown omitted text }) ∧
        Calm s' ∧ Opened s' index omitted := by
  induction h with
  | nil =>
    intro s f hs ho
    exact ⟨s, by simp [shown], hs, ho⟩
  | thinking hevent htype hpiece _ ih =>
    intro s f hs ho
    obtain ⟨s₁, h₁, hs₁, ho₁⟩ := fold_thinkingDelta env hs ho hevent htype hpiece f
    obtain ⟨s₂, h₂, hs₂, ho₂⟩ := ih _ hs₁ ho₁
    refine ⟨s₂, ?_, hs₂, ho₂⟩
    rw [foldEvents_cons, h₁, h₂, String.append_assoc, shown_append]
  | signature hevent htype _ ih =>
    intro s f hs ho
    obtain ⟨s₁, h₁, hs₁, ho₁⟩ := fold_signatureDelta env hs ho hevent htype f
    obtain ⟨s₂, h₂, hs₂, ho₂⟩ := ih f hs₁ ho₁
    refine ⟨s₂, ?_, hs₂, ho₂⟩
    rw [foldEvents_cons, h₁, h₂]
  | ping hevent _ ih =>
    intro s f hs ho
    obtain ⟨s₁, h₁, hs₁, ho₁⟩ := ih f hs ho
    refine ⟨s₁, ?_, hs₁, ho₁⟩
    rw [foldEvents_cons, fold_ping env hevent, h₁]

/-! ### Blocks -/

theorem contentBlockStopped_eq (hs : Calm s) (hindex : blockIndexOf event = some index) :
    contentBlockStopped env event s =
      (stopBlock env index ⟨s, []⟩).update fun t =>
        { t with inThinkingBlock := (t.inThinkingBlock &&
          t.currentBlockIndex ≠ blockIndexOf event) } := by
  have hfinal : finalizeClaudeToolUseBlock env ⟨s, []⟩ index = ⟨s, []⟩ := by
    simp [finalizeClaudeToolUseBlock, hs.noCalls]
  unfold contentBlockStopped
  rw [hindex]
  dsimp only
  rw [hfinal]

/-- The end of a block whose thoughts have been shown. -/
theorem fold_stop (hs : Calm s) (hevent : IsBlockEvent "content_block_stop" index event)
    (hblock : ∀ block, s.claudeBlocks.lookup index = some block → block.kind = some .thinking →
      block.omitted = false → block.thinking = "") (f : Folded) :
    ∃ s', foldEvent (claudeEventToOpenaiChunks env) (s, f) event = (s', f) ∧ Calm s' := by
  obtain ⟨hty, hindex⟩ := hevent
  have hstep : claudeEventToOpenaiChunks env event s = contentBlockStopped env event s := by
    simp only [claudeEventToOpenaiChunks, hs.accepted, hty, Option.isSome_none,
      Bool.false_eq_true, if_false]
  rw [foldEvent, hstep, contentBlockStopped_eq env hs hindex]
  refine ⟨_, Prod.ext rfl ?_, ?_⟩
  · show (stopBlock env index ⟨s, []⟩).folds f = f
    unfold stopBlock
    dsimp only
    cases hlookup : s.claudeBlocks.lookup index with
    | none => rfl
    | some block =>
      dsimp only
      split
      · next hkind =>
        cases homitted : block.omitted with
        | true => rfl
        | false =>
          rw [hblock block hlookup hkind homitted]
          rfl
      · rfl
  · unfold stopBlock
    dsimp only
    cases hlookup : s.claudeBlocks.lookup index with
    | none => exact ⟨hs.accepted, hs.noCalls, hs.running, hs.unfinished⟩
    | some block =>
      dsimp only
      split
      · next hkind =>
        cases homitted : block.omitted with
        | true => exact ⟨hs.accepted, hs.noCalls, hs.running, hs.unfinished⟩
        | false =>
          rw [hblock block hlookup hkind homitted]
          exact ⟨hs.accepted, hs.noCalls, hs.running, hs.unfinished⟩
      · exact ⟨hs.accepted, hs.noCalls, hs.running, hs.unfinished⟩

theorem fold_textStart (hs : Calm s) {started : Value} (hstart : IsBlockStart index event started)
    (htype : started.getStr "type" = some "text") (f : Folded) :
    ∃ s', foldEvent (claudeEventToOpenaiChunks env) (s, f) event = (s', f) ∧ Calm s' ∧
      ∀ block, s'.claudeBlocks.lookup index = some block → block.kind ≠ some .thinking := by
  obtain ⟨⟨hty, hindex⟩, hblock⟩ := hstart
  have hstep : claudeEventToOpenaiChunks env event s = contentBlockStarted env event s := by
    simp only [claudeEventToOpenaiChunks, hs.accepted, hty, Option.isSome_none,
      Bool.false_eq_true, if_false]
  rw [foldEvent, hstep]
  unfold contentBlockStarted
  rw [hblock, hindex]
  dsimp only [Option.getD_some]
  rw [htype]
  refine ⟨_, rfl, ⟨hs.accepted, hs.noCalls, hs.running, hs.unfinished⟩, ?_⟩
  intro block hlookup
  have hinsert : some block = some { kind := some .text } :=
    hlookup.symm.trans (AList.lookup_insert _)
  rw [Option.some.inj hinsert]
  exact fun h => (nomatch h)

theorem rejected_events {p : StreamState × Folded} (h : Rejected p) (events : List Value) :
    Rejected (foldEvents (claudeEventToOpenaiChunks env) events p) := by
  induction events generalizing p with
  | nil => exact h
  | cons event events ih =>
    have hsame : foldEvent (claudeEventToOpenaiChunks env) p event = p := by
      unfold foldEvent claudeEventToOpenaiChunks
      rw [if_pos h.1]
      rfl
    rw [foldEvents_cons, hsame]
    exact ih h

theorem rejected_foreign (hs : Calm s) {started : Value} (hstart : IsBlockStart index event started)
    (hforeign : IsForeign started) (f : Folded) :
    Rejected (foldEvent (claudeEventToOpenaiChunks env) (s, f) event) := by
  obtain ⟨⟨hty, _⟩, hblock⟩ := hstart
  have hstep : claudeEventToOpenaiChunks env event s = contentBlockStarted env event s := by
    simp only [claudeEventToOpenaiChunks, hs.accepted, hty, Option.isSome_none,
      Bool.false_eq_true, if_false]
  have hreject : ∀ message, Rejected ((rejectAnthropicEvent env s message).state,
      (rejectAnthropicEvent env s message).out.foldl Folded.feed f) := by
    intro message
    refine ⟨?_, ?_⟩
    · show ((s.fatalRejection.or _).isSome) = true
      rw [hs.accepted]
      rfl
    · unfold rejectAnthropicEvent rejectOpenaiStream
      dsimp only [List.foldl_cons, List.foldl_nil]
      rw [feed_set _ _ (by decide)]
      split
      · rw [feed_set _ _ (by decide), feed_openaiChunk, feedDelta_finish]
      · rw [feed_openaiChunk, feedDelta_finish]
  rw [foldEvent, hstep]
  unfold contentBlockStarted
  rw [hblock]
  dsimp only [Option.getD_some]
  split
  all_goals first
    | exact hreject _
    | next htype => exact absurd (hforeign _ htype) (by decide)

/-- What one block does to the client, or that it ends the stream. -/
theorem fold_block {block : Value} {events : List Value} (h : RendersBlock index block events)
    (hs : Calm s) (f : Folded) :
    (¬ IsForeign block ∧ ∃ s' text, foldEvents (claudeEventToOpenaiChunks env) events (s, f) =
        (s', { f with content := f.content ++ text,
                      reasoning := f.reasoning ++ shownThinkingOf [block] }) ∧
        Calm s' ∧ (TextsBeginEmpty events → text = textOf [block])) ∨
      IsForeign block ∧
        Rejected (foldEvents (claudeEventToOpenaiChunks env) events (s, f)) := by
  cases h with
  | @text _ _ _ _ _ rest htype htext _ hstart hstarted hdeltas hbegun hstop =>
    refine .inl ⟨fun hforeign => absurd (hforeign _ htype) (by decide), ?_⟩
    obtain ⟨s₁, h₁, hs₁, hb₁⟩ := fold_textStart env hs hstart hstarted f
    obtain ⟨s₂, h₂, hs₂, hb₂⟩ := fold_textDeltas env hdeltas f hs₁
    obtain ⟨s₃, h₃, hs₃⟩ := fold_stop env hs₂ hstop (fun block hlookup hkind =>
      absurd hkind (hb₁ block (hb₂ ▸ hlookup))) { f with content := f.content ++ rest }
    refine ⟨s₃, rest, ?_, hs₃, fun hempty => ?_⟩
    · rw [foldEvents_cons, h₁, foldEvents_append, h₂, foldEvents_cons, h₃, foldEvents_nil,
        shownThinkingOf_cons]
      simp [htype]
    · rw [hempty _ List.mem_cons_self _ hstart.1.1 hstart.2 hstarted, String.empty_append] at hbegun
      rw [textOf_cons, hbegun]
      simp [htype, htext]
  | thinking htype hstart hstarted homitted hdeltas hthinking hstop =>
    refine .inl ⟨fun hforeign => absurd (hforeign _ htype) (by decide), ?_⟩
    obtain ⟨s₁, h₁, hs₁, ho₁⟩ := fold_thinkingStart env hs hstart hstarted f
    obtain ⟨s₂, h₂, hs₂, ho₂⟩ := fold_thinkingDeltas env hdeltas _ hs₁ ho₁
    obtain ⟨s₃, h₃, hs₃⟩ := fold_stop env hs₂ hstop (by
      intro block hlookup _ hfalse
      obtain ⟨other, hother, _, hom, hempty⟩ := ho₂
      rw [hlookup] at hother
      rw [Option.some.inj hother] at hfalse ⊢
      exact hempty (hom.symm.trans hfalse)) { f with reasoning := f.reasoning ++ _ ++ _ }
    refine ⟨s₃, "", ?_, hs₃, fun _ => by simp [textOf_cons, htype]⟩
    rw [foldEvents_cons, h₁, foldEvents_append, h₂, foldEvents_cons, h₃, foldEvents_nil]
    rw [shownThinkingOf_cons, ← homitted, String.append_assoc, ← shown_append, hthinking]
    cases thinkingIsOmitted _ <;> simp [shown, htype]
  | foreign hforeign hstart hstarted =>
    refine .inr ⟨hforeign, ?_⟩
    rw [foldEvents_cons]
    have hstarted' : IsForeign _ := fun t ht => hforeign t (hstarted ▸ ht)
    exact rejected_events env (rejected_foreign env hs hstart hstarted' f) _

/-- Some block of the message has no counterpart. -/
def HasForeign (blocks : List Value) : Prop := ∃ block ∈ blocks, IsForeign block

theorem shownThinkingOf_append (block : Value) (blocks : List Value) :
    shownThinkingOf [block] ++ shownThinkingOf blocks = shownThinkingOf (block :: blocks) := by
  simp [shownThinkingOf_cons]

theorem fold_blocks {blocks events : List Value} (h : RendersBlocks index blocks events) :
    ∀ {s : StreamState} (f : Folded), Calm s →
      (¬ HasForeign blocks ∧ ∃ s' text,
          foldEvents (claudeEventToOpenaiChunks env) events (s, f) =
            (s', { f with content := f.content ++ text,
                          reasoning := f.reasoning ++ shownThinkingOf blocks }) ∧
          Calm s' ∧ (TextsBeginEmpty events → text = textOf blocks)) ∨
        HasForeign blocks ∧
          Rejected (foldEvents (claudeEventToOpenaiChunks env) events (s, f)) := by
  induction h with
  | nil =>
    intro s f hs
    exact .inl ⟨fun ⟨_, hmem, _⟩ => absurd hmem List.not_mem_nil, s, "", by simp, hs, fun _ => rfl⟩
  | cons hblock _ ih =>
    intro s f hs
    rw [foldEvents_append]
    rcases fold_block env hblock hs f with
      ⟨hnot, s₁, first, h₁, hs₁, hfirst⟩ | ⟨hforeign, hrejected⟩
    · rw [h₁]
      rcases ih _ hs₁ with ⟨hrest, s₂, others, h₂, hs₂, hothers⟩ | ⟨hrest, hrejected⟩
      · refine .inl ⟨?_, s₂, first ++ others, ?_, hs₂, fun hempty => ?_⟩
        · rintro ⟨block, hmem, hforeign⟩
          rcases List.mem_cons.mp hmem with rfl | hmem
          · exact hnot hforeign
          · exact hrest ⟨block, hmem, hforeign⟩
        · rw [h₂]
          simp only [String.append_assoc, shownThinkingOf_append]
        · rw [hfirst hempty.left, hothers hempty.right, ← textOf_append, List.singleton_append]
      · obtain ⟨block, hmem, hforeign⟩ := hrest
        exact .inr ⟨⟨block, List.mem_cons_of_mem _ hmem, hforeign⟩, hrejected⟩
    · exact .inr ⟨⟨_, List.mem_cons_self, hforeign⟩, rejected_events env hrejected _⟩

/-! ### Messages -/

def streamedFinish (stopReason : Option String) : String :=
  if stopReason = some "tool_use" then "stop" else finishReasonOfStopReason (stopReason.getD "stop")

theorem convertClaudeStopReason_eq (stopReason : String) :
    convertClaudeStopReason stopReason = finishReasonOfStopReason stopReason := by
  unfold convertClaudeStopReason finishReasonOfStopReason
  split <;> first | rfl | (split <;> simp_all)

theorem finishReasonOfStopReason_toolCalls (stopReason : String) :
    finishReasonOfStopReason stopReason = "tool_calls" ↔ stopReason = "tool_use" := by
  unfold finishReasonOfStopReason
  split <;> simp_all

/-- The stop reason is known before the message is over. -/
theorem fold_end (hs : Calm s) {delta stop : Value} {stopReason : Option String}
    (hdelta : delta.getStr "type" = some "message_delta")
    (hreason : (delta.get "delta").bind (Value.getStr · "stop_reason") = stopReason)
    (hstop : stop.getStr "type" = some "message_stop") (f : Folded) :
    ∃ s', foldEvents (claudeEventToOpenaiChunks env) [delta, stop] (s, f) =
        (s', { f with finishReason := some (streamedFinish stopReason) }) ∧
      s'.fatalRejection = none := by
  have h₁ : foldEvent (claudeEventToOpenaiChunks env) (s, f) delta =
      (messageDeltaEvent delta s, f) := by
    unfold foldEvent claudeEventToOpenaiChunks
    simp only [hs.accepted, hdelta, Option.isSome_none, Bool.false_eq_true, if_false]
    rfl
  have hcalls : (messageDeltaEvent delta s).claudeToolUses = ∅ := hs.noCalls
  have hfinish : claudeFinishReason (messageDeltaEvent delta s) = streamedFinish stopReason := by
    have hnone : (messageDeltaEvent delta s).claudeToolUses.entries = [] := by
      rw [hcalls]
      rfl
    unfold claudeFinishReason
    rw [hnone]
    simp only [messageDeltaEvent, hreason, hs.unfinished, Option.or_none, List.any_nil,
      Bool.false_eq_true, if_false, Bool.not_false, Bool.and_true, decide_eq_true_eq]
    cases stopReason with
    | none => rfl
    | some reason =>
      simp only [Option.map_some, convertClaudeStopReason_eq, finishReasonOfStopReason_toolCalls,
        streamedFinish, Option.some.injEq, Option.getD_some]
  have hwalk : ((hashWalk env (messageDeltaEvent delta s).claudeToolUses).filter fun e =>
      !e.2.finalized) = [] := by
    rw [hcalls, hashWalk_empty]
    rfl
  have hstep : claudeEventToOpenaiChunks env stop (messageDeltaEvent delta s) =
      messageStop env (messageDeltaEvent delta s) := by
    unfold claudeEventToOpenaiChunks
    have hacc : (messageDeltaEvent delta s).fatalRejection = none := hs.accepted
    simp only [hacc, hstop, Option.isSome_none, Bool.false_eq_true, if_false]
  have hrunning : (messageDeltaEvent delta s).finishReasonSent = false := hs.running
  rw [foldEvents_cons, h₁, foldEvents_cons, foldEvents_nil, foldEvent, hstep]
  unfold messageStop
  rw [hrunning, hwalk]
  refine ⟨_, Prod.ext rfl ?_, hs.accepted⟩
  simp only [Bool.false_eq_true, if_false, List.map_nil, List.foldl_nil, List.nil_append,
    List.foldl_cons]
  split
  · rw [feed_set _ _ (by decide), feed_openaiChunk, feedDelta_finish, hfinish]
  · rw [feed_openaiChunk, feedDelta_finish, hfinish]

theorem fold_start (hevent : event.getStr "type" = some "message_start") :
    ∃ s', foldEvent (claudeEventToOpenaiChunks env) ({}, {}) event = (s', {}) ∧ Calm s' := by
  have hstep : claudeEventToOpenaiChunks env event {} = messageStart env event {} := by
    unfold claudeEventToOpenaiChunks
    simp only [hevent, Option.isSome_none, Bool.false_eq_true, if_false]
  rw [foldEvent, hstep]
  unfold messageStart
  refine ⟨_, Prod.ext rfl ((folds_ensureRole env _ _).trans rfl), calm_ensureRole ?_⟩
  exact ⟨rfl, rfl, rfl, rfl⟩

/-- A message that is streamed: what it comes to, or that it is rejected. -/
theorem fold_message {body : Value} {blocks events : List Value}
    (h : RendersMessage body blocks events) :
    (¬ HasForeign blocks ∧ ∃ s' text,
        foldEvents (claudeEventToOpenaiChunks env) events ({}, {}) =
          (s', { content := text, reasoning := shownThinkingOf blocks,
                 finishReason := some (streamedFinish (body.getStr "stop_reason")) }) ∧
        s'.fatalRejection = none ∧ (TextsBeginEmpty events → text = textOf blocks)) ∨
      HasForeign blocks ∧
        Rejected (foldEvents (claudeEventToOpenaiChunks env) events ({}, {})) := by
  obtain ⟨start, delta, stop, blockEvents, hblocks, hstart, hdelta, hreason, hstop, rfl⟩ :=
    h.rendered
  obtain ⟨s₁, h₁, hs₁⟩ := fold_start env hstart
  rw [foldEvents_cons, h₁, foldEvents_append]
  rcases fold_blocks env hblocks {} hs₁ with
    ⟨hnot, s₂, text, h₂, hs₂, htext⟩ | ⟨hforeign, hrejected⟩
  · obtain ⟨s₃, h₃, hs₃⟩ := fold_end env hs₂ hdelta hreason hstop _
    refine .inl ⟨hnot, s₃, text, ?_, hs₃, fun hempty => htext ?_⟩
    · rw [h₂, h₃]
      simp
    · have hbehind : TextsBeginEmpty (blockEvents ++ [delta, stop]) :=
        @TextsBeginEmpty.right [start] _ hempty
      exact hbehind.left
  · exact .inr ⟨hforeign, rejected_events env hrejected _⟩

end

end LlmUniversalProxy.Streaming
