import LlmUniversalProxy.Streaming.ToolUseEvents

/-!
# `Streaming.AnthropicToolUse` — a streamed tool call of Anthropic, from its start to its end

The input of a tool call comes in pieces of JSON, between events of other blocks. They are held back
until the block stops, or the message does. Then the call goes out, or a text in its place: which of
the two, `tool_use_block_iff` says for a call that starts with the input `{}`.

The text stands for a call whose input was cut off (`anthropic_source.rs` 4-14): a client must not
run it. The source takes a start of `{}` for no input at all, and a piece that is empty for one that
never came, so a call without arguments is told in two ways, only one of which makes it a call.
-/

set_option autoImplicit false

namespace LlmUniversalProxy.Streaming

open Json Lib Translate

/-! ## The block, event by event -/

/-- The start of a tool call with the input `{}`. -/
structure IsEmptyToolUseStart (index : Nat) (event block : Value) : Prop where
  start : IsBlockStart index event block
  type : block.getStr "type" = some "tool_use"
  input : block.get "input" = some (.object [])

/-- An event in the middle of a message that is not about this block. -/
structure Elsewhere (index : Nat) (event : Value) : Prop where
  middle : IsMiddle event
  start : event.getStr "type" = some "content_block_start" → (blockIndexOf event).getD 0 ≠ index
  delta : event.getStr "type" = some "content_block_delta" → blockIndexOf event ≠ some index
  stop : event.getStr "type" = some "content_block_stop" → blockIndexOf event ≠ some index

/-- The pieces of JSON of a block, with events of other blocks in between. A piece may lack its
text. -/
inductive JsonPieces (index : Nat) : List Value → List (Option String) → Prop
  | nil : JsonPieces index [] []
  | piece {event delta : Value} {events : List Value} {pieces : List (Option String)}
      (hevent : IsBlockDelta index event delta)
      (htype : delta.getStr "type" = some "input_json_delta")
      (hrest : JsonPieces index events pieces) :
      JsonPieces index (event :: events) (delta.getStr "partial_json" :: pieces)
  | other {event : Value} {events : List Value} {pieces : List (Option String)}
      (hevent : Elsewhere index event) (hrest : JsonPieces index events pieces) :
      JsonPieces index (event :: events) pieces

/-- The text that the pieces make up. -/
def joinPieces (pieces : List (Option String)) : String := String.join (pieces.filterMap id)

def ClosesBlock (index : Nat) (event : Value) : Prop :=
  IsBlockEvent "content_block_stop" index event ∨ event.getStr "type" = some "message_stop"

def NotReopened (index : Nat) (event : Value) : Prop :=
  event.getStr "type" ≠ some "message_start" ∧
    (event.getStr "type" = some "content_block_start" → (blockIndexOf event).getD 0 ≠ index)

/-- What the state knows of the block after some pieces. -/
def begunToolUse (openaiIndex : Nat) (block : Value) (pieces : List (Option String)) :
    ClaudeToolUseState where
  openaiIndex := openaiIndex
  id := block.get "id"
  name := (block.getStr "name").getD ""
  arguments := joinPieces pieces
  zeroArgCandidate := pieces.all Option.isNone
  sawInputJsonDelta := !pieces.isEmpty

/-- The middle of a message in which a block is open. -/
structure OpenBlock (index : Nat) (toolUse : ClaudeToolUseState) (s : StreamState) : Prop where
  accepted : s.fatalRejection = none
  role : s.openaiRoleSent = true
  running : s.finishReasonSent = false
  known : s.claudeToolUses.lookup index = some toolUse

section

variable (env : Env) {index : Nat}

theorem serializedInput_empty {block : Value} (h : block.get "input" = some (.object [])) :
    serializedInput block = "{}" := by
  unfold serializedInput
  rw [h]
  rfl

theorem open_of_start {event block : Value} {s : StreamState}
    (hstart : IsEmptyToolUseStart index event block) (haccepted : s.fatalRejection = none)
    (hrole : s.openaiRoleSent = true) (hrunning : s.finishReasonSent = false) :
    blockChunks env event s = [] ∧
      OpenBlock index (begunToolUse s.claudeToolUseIndex block [])
        (claudeEventToOpenaiChunks env event s).state := by
  obtain ⟨⟨⟨htype, hindex⟩, hblock⟩, hkind, hinput⟩ := hstart
  have hstep : claudeEventToOpenaiChunks env event s = toolUseBlockStart block index false s := by
    unfold claudeEventToOpenaiChunks contentBlockStarted
    simp only [haccepted, htype, hindex, hblock, hkind, Option.isSome_none, Bool.false_eq_true,
      if_false, Option.getD_some]
  refine ⟨blockChunks_middle env (by rw [htype]; decide) (by rw [htype]; decide), ?_⟩
  rw [hstep]
  refine ⟨haccepted, hrole, hrunning, ?_⟩
  unfold toolUseBlockStart
  rw [serializedInput_empty hinput]
  dsimp only
  rw [FinMap.lookup_insert_eq, if_pos rfl]
  rfl

theorem joinPieces_snoc (pieces : List (Option String)) (piece : Option String) :
    joinPieces (pieces ++ [piece]) = joinPieces pieces ++ piece.getD "" := by
  unfold joinPieces
  rw [List.filterMap_append, String.join_append]
  cases piece with
  | none => rfl
  | some text =>
    show _ = joinPieces pieces ++ text
    simp [joinPieces, String.join_cons]

theorem addInputJson_begun (serde : Serde) (openaiIndex : Nat) (block : Value)
    (pieces : List (Option String)) (piece : Option String) :
    (begunToolUse openaiIndex block pieces).addInputJson serde piece =
      begunToolUse openaiIndex block (pieces ++ [piece]) := by
  unfold ClaudeToolUseState.addInputJson begunToolUse
  rw [joinPieces_snoc, List.all_append]
  cases piece with
  | none => simp
  | some text => simp

theorem open_of_piece {event delta : Value} {s : StreamState} {openaiIndex : Nat} {block : Value}
    {pieces : List (Option String)} (hevent : IsBlockDelta index event delta)
    (hpiece : delta.getStr "type" = some "input_json_delta")
    (hopen : OpenBlock index (begunToolUse openaiIndex block pieces) s) :
    blockChunks env event s = [] ∧
      OpenBlock index (begunToolUse openaiIndex block (pieces ++ [delta.getStr "partial_json"]))
        (claudeEventToOpenaiChunks env event s).state := by
  obtain ⟨⟨htype, hindex⟩, hdelta⟩ := hevent
  have hstep : claudeEventToOpenaiChunks env event s = inputJsonDelta env event delta s := by
    unfold claudeEventToOpenaiChunks contentBlockDeltaEvent
    simp only [hopen.accepted, htype, hdelta, hpiece, Option.isSome_none, Bool.false_eq_true,
      if_false, Option.getD_some]
  refine ⟨blockChunks_middle env (by rw [htype]; decide) (by rw [htype]; decide), ?_⟩
  rw [hstep]
  unfold inputJsonDelta
  rw [hindex]
  have hlookup : (updateToolUse index (ClaudeToolUseState.addInputJson env.serde
      (delta.getStr "partial_json")) s).claudeToolUses.lookup index =
      some (begunToolUse openaiIndex block (pieces ++ [delta.getStr "partial_json"])) := by
    rw [lookup_updateToolUse, if_pos rfl, hopen.known, Option.map_some, addInputJson_begun]
  have hrest := kept_updateToolUse index (ClaudeToolUseState.addInputJson env.serde
    (delta.getStr "partial_json")) s
  refine ⟨?_, hrest.role hopen.role, hrest.finishReasonSent.trans hopen.running, hlookup⟩
  show (updateToolUse index _ s).fatalRejection = none
  unfold updateToolUse
  rw [hopen.known]
  exact hopen.accepted

/-! ### Events of other blocks -/

theorem lookup_blockStart {event : Value} {s : StreamState}
    (h : (blockIndexOf event).getD 0 ≠ index) :
    (contentBlockStarted env event s).state.claudeToolUses.lookup index =
      s.claudeToolUses.lookup index := by
  unfold contentBlockStarted
  dsimp only
  have hinsert : ∀ toolUse : ClaudeToolUseState,
      (s.claudeToolUses.insert ((blockIndexOf event).getD 0) toolUse).lookup index =
        s.claudeToolUses.lookup index := by
    intro toolUse
    rw [FinMap.lookup_insert_eq, if_neg (Ne.symm h)]
  split
  · rfl
  · rw [calls_thinkingStart]
  · exact hinsert _
  · exact hinsert _
  all_goals rw [calls_reject]

theorem lookup_blockDelta {event : Value} {s : StreamState} (h : blockIndexOf event ≠ some index) :
    (contentBlockDeltaEvent env event s).state.claudeToolUses.lookup index =
      s.claudeToolUses.lookup index := by
  unfold contentBlockDeltaEvent
  dsimp only
  split
  · rw [calls_textDelta]
  · rw [calls_thinkingDelta]
  · unfold inputJsonDelta
    split
    · rfl
    · next idx hindex =>
      rw [lookup_updateToolUse, if_neg]
      rintro rfl
      exact h hindex
  · rw [calls_signatureDelta]
  · rw [calls_citationsDelta]
  all_goals rw [calls_reject]

theorem lookup_blockStop {event : Value} {s : StreamState} (h : blockIndexOf event ≠ some index) :
    (contentBlockStopped env event s).state.claudeToolUses.lookup index =
      s.claudeToolUses.lookup index := by
  unfold contentBlockStopped
  rw [Source.update_state]
  split
  · rfl
  · next idx hindex =>
    dsimp only
    rw [calls_stopBlock, lookup_finalize_ne]
    rintro rfl
    exact h hindex

theorem lookup_elsewhere {event : Value} {s : StreamState} (h : Elsewhere index event) :
    (claudeEventToOpenaiChunks env event s).state.claudeToolUses.lookup index =
      s.claudeToolUses.lookup index := by
  unfold claudeEventToOpenaiChunks
  split
  · rfl
  · split
    · next htype => exact absurd htype h.middle.1
    · next htype => exact lookup_blockStart env (h.start htype)
    · next htype => exact lookup_blockDelta env (h.delta htype)
    · next htype => exact lookup_blockStop env (h.stop htype)
    · rfl
    · next htype => exact absurd htype h.middle.2
    · rfl

/-- An event in the middle of a message keeps the role, and does not end the message. -/
theorem running_middle {event : Value} {s : StreamState} (hmiddle : IsMiddle event)
    (haccepted : (claudeEventToOpenaiChunks env event s).state.fatalRejection = none)
    (hrole : s.openaiRoleSent = true) (hrunning : s.finishReasonSent = false) :
    (claudeEventToOpenaiChunks env event s).state.openaiRoleSent = true ∧
      (claudeEventToOpenaiChunks env event s).state.finishReasonSent = false := by
  by_cases hdelta : event.getStr "type" = some "message_delta"
  · rw [event_messageDelta env (accepted_before env haccepted) hdelta]
    exact ⟨hrole, hrunning⟩
  · have hkept := kept_event env haccepted hdelta hmiddle.2
    exact ⟨hkept.role hrole, hkept.finishReasonSent.trans hrunning⟩

theorem open_of_elsewhere {event : Value} {s : StreamState} {toolUse : ClaudeToolUseState}
    (helse : Elsewhere index event)
    (haccepted : (claudeEventToOpenaiChunks env event s).state.fatalRejection = none)
    (hopen : OpenBlock index toolUse s) :
    (blockChunks env event s).filter (fun e => e.1 = index) = [] ∧
      OpenBlock index toolUse (claudeEventToOpenaiChunks env event s).state := by
  obtain ⟨hrole, hrunning⟩ := running_middle env helse.middle haccepted hopen.role hopen.running
  refine ⟨closings_other env ?_ _, haccepted, hrole, hrunning,
    (lookup_elsewhere env helse).trans hopen.known⟩
  unfold closedBlocks
  simp only [helse.middle.2, false_and, if_false]
  split
  · exact List.not_mem_nil
  · split
    · next htype => simpa using helse.stop htype
    · exact List.not_mem_nil

/-- The pieces of a block, whatever comes between them. -/
theorem open_of_pieces {events : List Value} {pieces : List (Option String)}
    (hpieces : JsonPieces index events pieces) {s : StreamState} {openaiIndex : Nat} {block : Value}
    {before : List (Option String)} {out : List Value}
    (hopen : OpenBlock index (begunToolUse openaiIndex block before) s)
    (haccepted : (runEvents (claudeEventToOpenaiChunks env) events ⟨s, out⟩).state.fatalRejection =
      none) :
    chunksOfBlock env index events s = [] ∧
      OpenBlock index (begunToolUse openaiIndex block (before ++ pieces))
        (runEvents (claudeEventToOpenaiChunks env) events ⟨s, out⟩).state := by
  induction hpieces generalizing s before out with
  | nil => exact ⟨rfl, by rw [List.append_nil]; exact hopen⟩
  | piece hevent htype hrest ih =>
    obtain ⟨hnone, hnext⟩ := open_of_piece env hevent htype hopen
    obtain ⟨hchunks, hend⟩ := ih hnext haccepted
    refine ⟨?_, by rw [← List.append_cons] at hend; exact hend⟩
    rw [chunksOfBlock, hnone, hchunks]
    rfl
  | other hevent hrest ih =>
    have hthis := accepted_before_run env
      (k := runEvent (claudeEventToOpenaiChunks env) ⟨s, out⟩ _) haccepted
    obtain ⟨hnone, hnext⟩ := open_of_elsewhere env hevent hthis hopen
    obtain ⟨hchunks, hend⟩ := ih hnext haccepted
    refine ⟨?_, hend⟩
    rw [chunksOfBlock, hnone, hchunks]
    rfl

/-! ### The end of the block, and what follows -/

/-- A block that is done. -/
def Finished (index : Nat) (s : StreamState) : Prop :=
  ∃ toolUse, s.claudeToolUses.lookup index = some toolUse ∧ toolUse.finalized = true

theorem finished_of_waiting {indices : List Nat} {k : Source} {toolUse : ClaudeToolUseState}
    (hmem : index ∈ indices) (hlookup : k.state.claudeToolUses.lookup index = some toolUse)
    (hwaiting : Waiting toolUse) (hrole : k.state.openaiRoleSent = true) :
    Finished index (indices.foldl (finalizeClaudeToolUseBlock env) k).state := by
  induction indices generalizing k with
  | nil => cases hmem
  | cons first rest ih =>
    rw [List.foldl_cons]
    by_cases hsame : index = first
    · subst hsame
      obtain ⟨_, done, hdone, hfinal⟩ := finalize_waiting env hlookup hwaiting hrole
      exact ⟨done, (closings_done env rest hdone hfinal).2, hfinal⟩
    · rcases List.mem_cons.mp hmem with heq | hmem
      · exact absurd heq hsame
      · exact ih hmem ((lookup_finalize_ne env k hsame).trans hlookup) (role_finalize env hrole first)

/-- The tool calls that the end of a message closes. -/
def pendingBlocks (s : StreamState) : List Nat :=
  ((hashWalk env s.claudeToolUses).filter fun e => !e.2.finalized).map Prod.fst

theorem pendingBlocks_nodup (s : StreamState) : (pendingBlocks env s).Nodup := by
  have hwalk : ((hashWalk env s.claudeToolUses).map Prod.fst).Nodup := by
    refine ((hashWalk_perm env s.claudeToolUses).map Prod.fst).nodup_iff.mpr ?_
    rw [List.map_map]
    exact s.claudeToolUses.keys_nodup
  exact hwalk.sublist ((List.filter_sublist).map Prod.fst)

theorem mem_pendingBlocks {s : StreamState} {toolUse : ClaudeToolUseState}
    (hlookup : s.claudeToolUses.lookup index = some toolUse)
    (hunfinished : toolUse.finalized = false) : index ∈ pendingBlocks env s := by
  refine List.mem_map.mpr ⟨(index, toolUse), List.mem_filter.mpr ⟨mem_hashWalk.mpr hlookup, ?_⟩, rfl⟩
  show (!toolUse.finalized) = true
  rw [hunfinished]
  rfl

theorem calls_messageStop {s : StreamState} (h : s.finishReasonSent = false) :
    (messageStop env s).state.claudeToolUses =
      ((pendingBlocks env s).foldl (finalizeClaudeToolUseBlock env)
        ⟨s, []⟩).state.claudeToolUses := by
  unfold messageStop
  rw [h]
  rfl

theorem calls_blockStop {event : Value} (hindex : blockIndexOf event = some index)
    (s : StreamState) :
    (contentBlockStopped env event s).state.claudeToolUses =
      (finalizeClaudeToolUseBlock env ⟨s, []⟩ index).state.claudeToolUses := by
  unfold contentBlockStopped
  rw [hindex, Source.update_state]
  exact calls_stopBlock env index _

theorem begun_waiting (openaiIndex : Nat) (block : Value) (pieces : List (Option String)) :
    Waiting (begunToolUse openaiIndex block pieces) := ⟨rfl, rfl, rfl⟩

theorem close_of_open {event : Value} {s : StreamState} {toolUse : ClaudeToolUseState}
    (hcloses : ClosesBlock index event) (hopen : OpenBlock index toolUse s)
    (hwaiting : Waiting toolUse) :
    ((blockChunks env event s).filter fun e => e.1 = index).map (fun e => deltaOf e.2) =
        [closingDelta env.serde toolUse] ∧
      Finished index (claudeEventToOpenaiChunks env event s).state := by
  have hfirst : s.fatalRejection.isSome = false := by rw [hopen.accepted]; rfl
  unfold blockChunks closedBlocks claudeEventToOpenaiChunks
  rw [hfirst]
  rcases hcloses with ⟨htype, hindex⟩ | htype
  · simp only [htype, hindex, Bool.false_eq_true, if_false, if_true, Option.toList_some]
    constructor
    · rw [closings_waiting env (List.nodup_singleton index) hopen.known hwaiting hopen.role,
        if_pos List.mem_cons_self]
    · obtain ⟨done, hdone, hfinal⟩ :=
        finished_of_waiting env (k := ⟨s, []⟩) (List.mem_singleton.mpr rfl) hopen.known hwaiting
          hopen.role
      exact ⟨done, by rw [calls_blockStop env hindex]; exact hdone, hfinal⟩
  · have hmem := mem_pendingBlocks env hopen.known hwaiting.unfinished
    simp only [htype, hopen.running, Bool.false_eq_true, if_false, and_self, if_true,
      Option.some.injEq, String.reduceEq]
    constructor
    · show ((closings env (pendingBlocks env s) ⟨s, []⟩).filter _).map _ = _
      rw [closings_waiting env (pendingBlocks_nodup env s) hopen.known hwaiting hopen.role,
        if_pos hmem]
    · obtain ⟨done, hdone, hfinal⟩ :=
        finished_of_waiting env (k := ⟨s, []⟩) hmem hopen.known hwaiting hopen.role
      exact ⟨done, by rw [calls_messageStop env hopen.running]; exact hdone, hfinal⟩

theorem finished_congr {s s' : StreamState}
    (h : s'.claudeToolUses.lookup index = s.claudeToolUses.lookup index) (hs : Finished index s) :
    Finished index s' := by
  obtain ⟨toolUse, hlookup, hdone⟩ := hs
  exact ⟨toolUse, h.trans hlookup, hdone⟩

theorem finished_addInputJson {toolUse : ClaudeToolUseState} {piece : Option String}
    (h : toolUse.finalized = true) :
    (toolUse.addInputJson env.serde piece).finalized = true := by
  unfold ClaudeToolUseState.addInputJson
  cases piece with
  | none => exact h
  | some text =>
    dsimp only
    split <;> exact h

theorem finished_inputJson {event delta : Value} {s : StreamState} (hs : Finished index s) :
    Finished index (inputJsonDelta env event delta s).state := by
  unfold inputJsonDelta
  split
  · exact hs
  · next idx hindex =>
    obtain ⟨toolUse, hlookup, hdone⟩ := hs
    by_cases hsame : index = idx
    · refine ⟨toolUse.addInputJson env.serde (delta.getStr "partial_json"), ?_,
        finished_addInputJson env hdone⟩
      rw [lookup_updateToolUse, if_pos hsame, hlookup]
      rfl
    · exact ⟨toolUse, by rw [lookup_updateToolUse, if_neg hsame]; exact hlookup, hdone⟩

theorem finished_blockDelta {event : Value} {s : StreamState} (hs : Finished index s) :
    Finished index (contentBlockDeltaEvent env event s).state := by
  unfold contentBlockDeltaEvent
  dsimp only
  split
  · exact finished_congr (by rw [calls_textDelta]) hs
  · exact finished_congr (by rw [calls_thinkingDelta]) hs
  · exact finished_inputJson env hs
  · exact finished_congr (by rw [calls_signatureDelta]) hs
  · exact finished_congr (by rw [calls_citationsDelta]) hs
  all_goals exact finished_congr (by rw [calls_reject]) hs

theorem finished_blockStop {event : Value} {s : StreamState} (hs : Finished index s) :
    Finished index (contentBlockStopped env event s).state := by
  cases hindex : blockIndexOf event with
  | none =>
    unfold contentBlockStopped
    rw [hindex]
    exact hs
  | some idx =>
    obtain ⟨toolUse, hlookup, hdone⟩ := hs
    refine ⟨toolUse, ?_, hdone⟩
    rw [calls_blockStop env hindex]
    exact (closings_done env (k := ⟨s, []⟩) [idx] hlookup hdone).2

theorem finished_messageStop {s : StreamState} (hs : Finished index s) :
    Finished index (messageStop env s).state := by
  cases hsent : s.finishReasonSent with
  | true =>
    unfold messageStop
    rw [hsent]
    exact hs
  | false =>
    obtain ⟨toolUse, hlookup, hdone⟩ := hs
    refine ⟨toolUse, ?_, hdone⟩
    rw [calls_messageStop env hsent]
    exact (closings_done env (k := ⟨s, []⟩) _ hlookup hdone).2

theorem finished_event {event : Value} {s : StreamState} (hevent : NotReopened index event)
    (hs : Finished index s) :
    (blockChunks env event s).filter (fun e => e.1 = index) = [] ∧
      Finished index (claudeEventToOpenaiChunks env event s).state := by
  constructor
  · obtain ⟨toolUse, hlookup, hdone⟩ := hs
    exact (closings_done env (k := ⟨s, []⟩) _ hlookup hdone).1
  · unfold claudeEventToOpenaiChunks
    split
    · exact hs
    · split
      · next htype => exact absurd htype hevent.1
      · next htype => exact finished_congr (lookup_blockStart env (hevent.2 htype)) hs
      · exact finished_blockDelta env hs
      · exact finished_blockStop env hs
      · exact hs
      · exact finished_messageStop env hs
      · exact hs

/-- Nothing goes out for a block that is done. -/
theorem chunks_finished {events : List Value} (hevents : ∀ event ∈ events, NotReopened index event)
    {s : StreamState} (hs : Finished index s) : chunksOfBlock env index events s = [] := by
  induction events generalizing s with
  | nil => rfl
  | cons event rest ih =>
    obtain ⟨hnone, hnext⟩ := finished_event env (hevents event List.mem_cons_self) hs
    rw [chunksOfBlock, hnone, ih (fun e he => hevents e (List.mem_cons_of_mem _ he)) hnext]
    rfl

end

/-! ## What a block comes to -/

/-- What is to go out for a block with a text as its input: a call, or the text if it is not an
object. Without a text the input is `{}`. -/
def wantedDelta (serde : Serde) (openaiIndex : Nat) (block : Value) (input : String) : Value :=
  let name := (block.getStr "name").getD ""
  if Text.isBlank input then callDelta openaiIndex (block.get "id") name "{}"
  else if (fromStr serde input).any Value.isObject then
    callDelta openaiIndex (block.get "id") name input
  else replayDelta name input

theorem callDelta_ne_replayDelta (openaiIndex : Nat) (id : Option Value)
    (name arguments name' raw : String) :
    callDelta openaiIndex id name arguments ≠ replayDelta name' raw := by
  intro heq
  have hcontent : (callDelta openaiIndex id name arguments).get "content" =
      (replayDelta name' raw).get "content" := by rw [heq]
  unfold callDelta replayDelta at hcontent
  rw [Value.get_ofFields, Value.get_ofFields] at hcontent
  cases hcontent

theorem closingDelta_begun (serde : Serde) (openaiIndex : Nat) (block : Value)
    (pieces : List (Option String)) :
    closingDelta serde (begunToolUse openaiIndex block pieces) =
        wantedDelta serde openaiIndex block (joinPieces pieces) ↔
      (Text.isBlank (joinPieces pieces) = true → pieces = []) := by
  unfold closingDelta structuredFinal wantedDelta rawJsonIsValidObjectAnthropicSource begunToolUse
  cases pieces with
  | nil => exact ⟨fun _ _ => rfl, fun _ => rfl⟩
  | cons piece rest =>
    have hsaw : (!(piece :: rest).isEmpty) = true := rfl
    simp only [hsaw, Bool.not_true, Bool.and_false, Bool.false_and, Bool.false_eq_true, if_false]
    cases hblank : Text.isBlank (joinPieces (piece :: rest)) with
    | true =>
      -- A piece has come, and nothing but blanks: the text stands where a call should.
      simp only [Bool.not_true, Bool.false_and, Bool.false_eq_true, if_false, if_true]
      refine ⟨fun h => absurd h.symm (callDelta_ne_replayDelta _ _ _ _ _ _), fun h => ?_⟩
      exact absurd (h trivial) (List.cons_ne_nil piece rest)
    | false =>
      refine ⟨fun _ h => (nomatch h), fun _ => ?_⟩
      simp only [Bool.not_false, Bool.true_and, Bool.false_eq_true, if_false]
      cases (fromStr serde (joinPieces (piece :: rest))).any Value.isObject <;> rfl

section

variable (env : Env) {index : Nat} {opening start block closing : Value}
  {before middle after : List Value} {pieces : List (Option String)}

/-- A message that has begun, and has not ended, has told its role. -/
theorem running_run {events : List Value} (hevents : ∀ event ∈ events, IsMiddle event) {k : Source}
    (haccepted : (runEvents (claudeEventToOpenaiChunks env) events k).state.fatalRejection = none)
    (hrole : k.state.openaiRoleSent = true) (hrunning : k.state.finishReasonSent = false) :
    (runEvents (claudeEventToOpenaiChunks env) events k).state.openaiRoleSent = true ∧
      (runEvents (claudeEventToOpenaiChunks env) events k).state.finishReasonSent = false := by
  induction events generalizing k with
  | nil => exact ⟨hrole, hrunning⟩
  | cons event rest ih =>
    have hthis := accepted_before_run env
      (k := runEvent (claudeEventToOpenaiChunks env) k event) haccepted
    obtain ⟨hrole, hrunning⟩ :=
      running_middle env (hevents event List.mem_cons_self) hthis hrole hrunning
    exact ih (fun e he => hevents e (List.mem_cons_of_mem _ he)) haccepted hrole hrunning

theorem chunksOfBlock_append (xs ys : List Value) (k : Source) :
    chunksOfBlock env index (xs ++ ys) k.state = chunksOfBlock env index xs k.state ++
      chunksOfBlock env index ys (runEvents (claudeEventToOpenaiChunks env) xs k).state := by
  induction xs generalizing k with
  | nil => rfl
  | cons event rest ih =>
    rw [List.cons_append, chunksOfBlock, chunksOfBlock, List.append_assoc, runEvents_cons]
    exact congrArg _ (ih (runEvent (claudeEventToOpenaiChunks env) k event))

/-- The state behind some events. -/
def stateAt (env : Env) (events : List Value) : StreamState :=
  (runEvents (claudeEventToOpenaiChunks env) events ⟨{}, []⟩).state

/-- **A tool call with the input `{}` goes out as it should, whatever comes between its pieces**, if
and only if a call without a text has had no piece at all. -/
theorem tool_use_block_iff (hopening : opening.getStr "type" = some "message_start")
    (hbefore : ∀ event ∈ before, IsMiddle event) (hstart : IsEmptyToolUseStart index start block)
    (hmiddle : JsonPieces index middle pieces) (hclosing : ClosesBlock index closing)
    (hafter : ∀ event ∈ after, NotReopened index event)
    (haccepted : (stateAt env (opening :: (before ++ start :: middle))).fatalRejection = none) :
    (chunksOfBlock env index (start :: (middle ++ closing :: after))
        (stateAt env (opening :: before))).map deltaOf =
        [wantedDelta env.serde (stateAt env (opening :: before)).claudeToolUseIndex block
          (joinPieces pieces)] ↔
      (Text.isBlank (joinPieces pieces) = true → pieces = []) := by
  unfold stateAt at haccepted ⊢
  rw [← List.cons_append, runEvents_append, runEvents_cons] at haccepted
  generalize hbegun : runEvents (claudeEventToOpenaiChunks env) (opening :: before) ⟨{}, []⟩ = begun
    at haccepted ⊢
  -- Up to the start of the block nothing has ended, and the role has been told.
  have hstarted := accepted_before env (accepted_before_run env
    (k := runEvent (claudeEventToOpenaiChunks env) begun start) haccepted)
  obtain ⟨hrole, hrunning⟩ : begun.state.openaiRoleSent = true ∧
      begun.state.finishReasonSent = false := by
    rw [← hbegun] at hstarted ⊢
    have hmessage : claudeEventToOpenaiChunks env opening {} = messageStart env opening {} := by
      unfold claudeEventToOpenaiChunks
      simp only [hopening, Option.isSome_none, Bool.false_eq_true, if_false]
    refine running_run env hbefore hstarted ?_ ?_
    · show (claudeEventToOpenaiChunks env opening {}).state.openaiRoleSent = true
      rw [hmessage]
      exact role_messageStart env opening {}
    · show (claudeEventToOpenaiChunks env opening {}).state.finishReasonSent = false
      rw [hmessage]
      exact (kept_messageStart env opening {}).finishReasonSent
  -- From its start to its end the block is open, and then it is done.
  obtain ⟨hnone, hopen⟩ := open_of_start env hstart hstarted hrole hrunning
  obtain ⟨hpieces, hopen⟩ := open_of_pieces env hmiddle hopen haccepted
  obtain ⟨hclosed, hdone⟩ := close_of_open env hclosing hopen (begun_waiting _ _ _)
  have hrest := chunks_finished env hafter hdone
  have hchunks : (chunksOfBlock env index (start :: (middle ++ closing :: after))
      begun.state).map deltaOf = [closingDelta env.serde
        (begunToolUse begun.state.claudeToolUseIndex block pieces)] := by
    rw [chunksOfBlock, hnone, List.filter_nil, List.map_nil, List.nil_append]
    show (chunksOfBlock env index (middle ++ closing :: after)
      (runEvent (claudeEventToOpenaiChunks env) begun start).state).map deltaOf = _
    rw [chunksOfBlock_append]
    have hsilent : chunksOfBlock env index middle
        (runEvent (claudeEventToOpenaiChunks env) begun start).state = [] := hpieces
    rw [hsilent, List.nil_append, chunksOfBlock]
    refine Eq.trans ?_ hclosed
    refine Eq.trans (congrArg (List.map deltaOf) ((congrArg _ hrest).trans (List.append_nil _))) ?_
    exact List.map_map
  rw [hchunks, List.cons_eq_cons, and_iff_left rfl]
  exact closingDelta_begun _ _ _ _

end

/-! ### A call with no arguments and one empty piece -/

def toolUseNow : Value :=
  .ofFields [("type", .string "tool_use"), ("id", .string "toolu_1"), ("name", .string "now"),
    ("input", .object [])]

def blockEvent (eventType : String) (fields : List (String × Value)) : Value :=
  .ofFields (("type", .string eventType) :: ("index", .nat 0) :: fields)

def messageOpens : Value := .ofFields [("type", .string "message_start")]

def toolUseOpens : Value := blockEvent "content_block_start" [("content_block", toolUseNow)]

def emptyPiece : Value :=
  .ofFields [("type", .string "input_json_delta"), ("partial_json", .string "")]

def toolUseGrows : Value := blockEvent "content_block_delta" [("delta", emptyPiece)]

def toolUseCloses : Value := blockEvent "content_block_stop" []

theorem opens_empty : IsEmptyToolUseStart 0 toolUseOpens toolUseNow where
  start := ⟨⟨by decide +kernel, by decide +kernel⟩, by decide +kernel⟩
  type := by decide +kernel
  input := by decide +kernel

theorem grows_empty : JsonPieces 0 [toolUseGrows] [some ""] := by
  have hpiece : emptyPiece.getStr "partial_json" = some "" := by decide +kernel
  rw [← hpiece]
  exact .piece ⟨⟨by decide +kernel, by decide +kernel⟩, by decide +kernel⟩ (by decide +kernel) .nil

theorem closes_empty : ClosesBlock 0 toolUseCloses :=
  Or.inl ⟨by decide +kernel, by decide +kernel⟩

theorem empty_accepted :
    (stateAt Env.still [messageOpens, toolUseOpens, toolUseGrows]).fatalRejection = none := by
  decide +kernel

theorem tool_use_block_iff_empty :
    (chunksOfBlock Env.still 0 [toolUseOpens, toolUseGrows, toolUseCloses]
        (stateAt Env.still [messageOpens])).map deltaOf =
        [wantedDelta Env.still.serde (stateAt Env.still [messageOpens]).claudeToolUseIndex
          toolUseNow (joinPieces [some ""])] ↔
      (Text.isBlank (joinPieces [some ""]) = true → [some ""] = []) :=
  tool_use_block_iff Env.still
    (by decide +kernel : messageOpens.getStr "type" = some "message_start")
    (fun event (h : event ∈ ([] : List Value)) => (nomatch h)) opens_empty grows_empty closes_empty
    (fun event (h : event ∈ ([] : List Value)) => (nomatch h)) empty_accepted

/-- One empty piece, and the call is told as a text. -/
theorem empty_piece_is_replayed :
    ¬ ∀ (env : Env) (index : Nat) (opening start block closing : Value)
      (before middle after : List Value) (pieces : List (Option String)),
      opening.getStr "type" = some "message_start" → (∀ event ∈ before, IsMiddle event) →
      IsEmptyToolUseStart index start block → JsonPieces index middle pieces →
      ClosesBlock index closing → (∀ event ∈ after, NotReopened index event) →
      (stateAt env (opening :: (before ++ start :: middle))).fatalRejection = none →
      (chunksOfBlock env index (start :: (middle ++ closing :: after))
          (stateAt env (opening :: before))).map deltaOf =
        [wantedDelta env.serde (stateAt env (opening :: before)).claudeToolUseIndex block
          (joinPieces pieces)] := by
  intro h
  have heq := h Env.still 0 messageOpens toolUseOpens toolUseNow toolUseCloses [] [toolUseGrows] []
    [some ""] (by decide +kernel) (fun _ h => (nomatch h)) opens_empty grows_empty closes_empty
    (fun _ h => (nomatch h)) empty_accepted
  revert heq
  decide +kernel

end LlmUniversalProxy.Streaming
