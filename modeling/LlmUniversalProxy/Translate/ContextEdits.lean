import LlmUniversalProxy.Translate.ToolClearing

/-!
# `Translate.ContextEdits` — the edits of a context before it is converted

Anthropic lets a client ask for edits of the context: thinking is cleared from all but the last
turns, and tool uses are cleared. No other API knows them, so they are made here, one after the
other, before the request is converted. They touch the messages and nothing else.

The source is `translate/internal.rs` 1046-1179. An edit that is refused ends the loop, and those
before it have been made.
-/

set_option autoImplicit false

namespace LlmUniversalProxy.Translate

open Json Lib

/-! ## Thinking -/

/-- `AnthropicThinkingKeep`. -/
inductive AnthropicThinkingKeep where
  | all
  | recentTurns (turns : Nat)

/-- `anthropic_clear_thinking_keep_from_edit` (`internal.rs` 1095-1120). -/
def anthropicClearThinkingKeepFromEdit (edit : Value) : Except String AnthropicThinkingKeep :=
  match edit.get "keep" with
  | none => .ok (.recentTurns 1)
  | some (.string "all") => .ok .all
  | some keep =>
      if keep.getStr "type" = some "thinking_turns" then
        match (keep.getU64 "value").filter fun value => 0 < value with
        | some value => .ok (.recentTurns value)
        | none => .error "clear_thinking_20251015.keep.value must be a positive integer"
      else .error <| "clear_thinking_20251015.keep must be `all` or " ++
        "`\x7btype:\"thinking_turns\", value:N\x7d`"

/-- `anthropic_block_is_thinking`; redacted thinking is not meant. -/
def anthropicBlockIsThinking (block : Value) : Bool := block.getStr "type" = some "thinking"

/-- `anthropic_content_has_thinking_block`. -/
def anthropicContentHasThinkingBlock (message : Value) : Bool :=
  (visitedBlocks message).any anthropicBlockIsThinking

def contentWithoutThinking : Value → Value
  | .array blocks => .array (blocks.filter fun block => !anthropicBlockIsThinking block)
  | .object fields =>
      if anthropicBlockIsThinking (.object fields) then .array [] else .object fields
  | other => other

/-- `remove_anthropic_thinking_blocks_from_message`. -/
def removeAnthropicThinkingBlocksFromMessage (message : Value) : Value :=
  message.modify "content" contentWithoutThinking

/-- `thinking_turn_indices`. -/
def thinkingTurnIndices (messages : List Value) : List Nat :=
  messages.zipIdx.filterMap fun message =>
    if message.1.getStr "role" = some "assistant" && anthropicContentHasThinkingBlock message.1 then
      some message.2
    else none

/-- The messages, with thinking in the last `turns` turns that have any. -/
def keepRecentThinking (turns : Nat) (messages : List Value) : List Value :=
  let keepIndices := (thinkingTurnIndices messages).reverse.take turns
  messages.zipIdx.map fun message =>
    if message.2 ∈ keepIndices then message.1
    else removeAnthropicThinkingBlocksFromMessage message.1

/-- `apply_anthropic_clear_thinking_edit`. -/
def applyAnthropicClearThinkingEdit (keep : AnthropicThinkingKeep) (body : Value) : Value :=
  match keep with
  | .all => body
  | .recentTurns turns => body.modifyArray "messages" (keepRecentThinking turns)

/-! ## The edits of a request -/

def applyAnthropicContextEdit (edit body : Value) : Except String Value :=
  match edit.getStr "type" with
  | some "clear_thinking_20251015" =>
      (anthropicClearThinkingKeepFromEdit edit).map fun keep =>
        applyAnthropicClearThinkingEdit keep body
  | some "clear_tool_uses_20250919" =>
      (anthropicClearToolUsesOptionsFromEdit edit).map fun options =>
        applyAnthropicClearToolUsesEdit options body
  | some other => .error <| s!"Anthropic context_management edit `{other}` cannot be translated to " ++
      "OpenAI-family targets"
  | none => .error "Anthropic context_management edits require a string `type` field"

/-- The loop over the edits; one that is refused leaves what those before it made. -/
def applyAnthropicContextEdits : List Value → Value → Except String Unit × Value
  | [], body => (.ok (), body)
  | edit :: edits, body =>
      match applyAnthropicContextEdit edit body with
      | .error message => (.error message, body)
      | .ok body => applyAnthropicContextEdits edits body

/-- `apply_anthropic_context_management_request_edits`. -/
def applyAnthropicContextManagementRequestEdits (body : Value) : Except String Unit × Value :=
  applyAnthropicContextEdits
    ((((body.get "context_management").bind (Value.get · "edits")).bind Value.asArray).getD []) body

/-! ## What an edit leaves alone -/

theorem remove_clearThinkingEdit (keep : AnthropicThinkingKeep) (body : Value) :
    (applyAnthropicClearThinkingEdit keep body).remove "messages" = body.remove "messages" := by
  cases keep with
  | all => rfl
  | recentTurns turns => exact Value.remove_modify body "messages" _

theorem remove_clearToolUsesEdit (options : AnthropicToolClearOptions) (body : Value) :
    (applyAnthropicClearToolUsesEdit options body).remove "messages" = body.remove "messages" := by
  unfold applyAnthropicClearToolUsesEdit
  split
  · rfl
  split
  · exact Value.remove_modify body "messages" _
  · exact Value.remove_modify body "messages" _

theorem remove_contextEdit {edit body edited : Value}
    (h : applyAnthropicContextEdit edit body = .ok edited) :
    edited.remove "messages" = body.remove "messages" := by
  unfold applyAnthropicContextEdit at h
  split at h
  · obtain ⟨keep, _, rfl⟩ := Result.map_ok.mp h
    exact remove_clearThinkingEdit keep body
  · obtain ⟨options, _, rfl⟩ := Result.map_ok.mp h
    exact remove_clearToolUsesEdit options body
  · cases h
  · cases h

theorem remove_contextEdits (edits : List Value) (body : Value) :
    (applyAnthropicContextEdits edits body).2.remove "messages" = body.remove "messages" := by
  induction edits generalizing body with
  | nil => rfl
  | cons edit edits ih =>
    unfold applyAnthropicContextEdits
    split
    · rfl
    · next hedit => rw [ih, remove_contextEdit hedit]

/-- The edits that a request asks for change its messages only, also where one of them is
refused after others have been made. -/
theorem remove_contextManagementRequestEdits (body : Value) :
    (applyAnthropicContextManagementRequestEdits body).2.remove "messages" =
      body.remove "messages" :=
  remove_contextEdits _ body

end LlmUniversalProxy.Translate
