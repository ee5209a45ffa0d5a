import LlmUniversalProxy.Translate.Media
import LlmUniversalProxy.Translate.ToolCalls

/-!
# `Translate.Content` — the texts, refusals and tool results inside messages

What the conversions between the formats share: a text part is a text with annotations, the content
of a tool result is a text, a list of typed blocks or anything else, and the usage is copied field
by field.

The source is spread over `translate/internal`: `tools.rs` 93-150 and 231-282, `messages.rs` 13-41
and `openai_family.rs` 605-667.
-/

set_option autoImplicit false

namespace LlmUniversalProxy.Translate

open Json Lib

def messagesOf (body : Value) : List Value := (body.getArray "messages").getD []

/-! ## Messages of errors -/

/-- `single_candidate_choice_contract_message`. -/
def singleCandidateChoiceContractMessage (sourceLabel targetLabel fieldName : String)
    (count : Nat) : String :=
  s!"{sourceLabel} field `{fieldName}` has {count} items; cross-protocol translation to " ++
    s!"{targetLabel} only supports a single candidate/choice"

/-- `single_required_array_item` (`messages.rs` 24-41). -/
def singleRequiredArrayItem (items : Option (List Value))
    (sourceLabel targetLabel fieldName : String) : Except String Value :=
  match items with
  | some [item] => .ok item
  | some [] | none => .error s!"missing {fieldName}"
  | some items => .error
      (singleCandidateChoiceContractMessage sourceLabel targetLabel fieldName items.length)

/-- `openai_assistant_audio_not_portable_message`. -/
def openaiAssistantAudioNotPortableMessage (targetLabel : String) : String :=
  s!"OpenAI assistant audio output cannot be faithfully translated to {targetLabel}"

/-- `openai_assistant_audio_field_not_portable_message`. -/
def openaiAssistantAudioFieldNotPortableMessage (field targetLabel : String) : String :=
  s!"OpenAI assistant audio field `{field}` cannot be faithfully translated to {targetLabel}"

/-- `responses_multiple_output_audio_items_not_portable_message`. -/
def responsesMultipleOutputAudioItemsNotPortableMessage (targetLabel : String) : String :=
  "OpenAI Responses output has multiple `output_audio` items and cannot be faithfully " ++
    s!"translated to {targetLabel}"

/-! ## Text parts -/

/-- `SemanticTextPart`. -/
structure SemanticTextPart where
  text : String
  annotations : List Value

/-- `semantic_text_part_from_claude_block`. -/
def semanticTextPartFromClaudeBlock (block : Value) : Option SemanticTextPart :=
  (block.getStr "text").map fun text => ⟨text, (block.getArray "citations").getD []⟩

/-- `semantic_text_part_from_openai_part`. -/
def semanticTextPartFromOpenaiPart (part : Value) : Option SemanticTextPart :=
  if part.getStr "type" ≠ some "text" then none
  else some ⟨(part.getStr "text").getD "", (part.getArray "annotations").getD []⟩

/-- `semantic_text_part_to_responses_value`. -/
def semanticTextPartToResponsesValue (part : SemanticTextPart) (contentType : String) : Value :=
  let value := Value.ofFields [("type", .string contentType), ("text", .string part.text)]
  if part.annotations.isEmpty then value else value.set "annotations" (.array part.annotations)

/-- `semantic_text_part_to_openai_value`. -/
def semanticTextPartToOpenaiValue (part : SemanticTextPart) : Value :=
  semanticTextPartToResponsesValue part "text"

def isPlainTextPart (part : Value) : Bool :=
  part.getStr "type" = some "text" &&
    ((part.getArray "annotations").map List.isEmpty).getD true

/-- `collapse_openai_text_parts`. -/
def collapseOpenaiTextParts (parts : List Value) : Value :=
  if parts.all isPlainTextPart then .string (String.join (parts.filterMap (Value.getStr · "text")))
  else .array parts

theorem collapse_plainTexts (texts : List String) :
    collapseOpenaiTextParts (texts.map fun text => semanticTextPartToOpenaiValue ⟨text, []⟩) =
      .string (String.join texts) := by
  have hpart : ∀ text : String, isPlainTextPart (semanticTextPartToOpenaiValue ⟨text, []⟩) = true ∧
      (semanticTextPartToOpenaiValue ⟨text, []⟩).getStr "text" = some text := by
    intro text
    constructor
    · simp [isPlainTextPart, semanticTextPartToOpenaiValue, semanticTextPartToResponsesValue,
        Value.getStr, Value.getArray, List.lookup_cons]
    · simp [semanticTextPartToOpenaiValue, semanticTextPartToResponsesValue, Value.getStr,
        List.lookup_cons]
  have htexts : ∀ texts : List String, (texts.map fun text =>
      semanticTextPartToOpenaiValue ⟨text, []⟩).filterMap (Value.getStr · "text") = texts := by
    intro texts
    induction texts with
    | nil => rfl
    | cons text texts ih =>
      rw [List.map_cons, List.filterMap_cons, (hpart text).2, ih]
  have hplain : (texts.map fun text => semanticTextPartToOpenaiValue ⟨text, []⟩).all
      isPlainTextPart = true := by
    rw [List.all_map, List.all_eq_true]
    exact fun text _ => (hpart text).1
  unfold collapseOpenaiTextParts
  rw [if_pos hplain, htexts]

/-- `extract_openai_content_text`. -/
def extractOpenaiContentText : Option Value → String
  | some (.string text) => text
  | some (.array items) => String.join (items.filterMap (Value.getStr · "text"))
  | _ => ""

/-- `extract_openai_refusal`. -/
def extractOpenaiRefusal (message : Value) : Option String :=
  (message.getStr "refusal").filter fun text => !text.isEmpty

/-! ## Tool results -/

/-- `SemanticToolResultContent`. -/
inductive SemanticToolResultContent where
  | text (text : String)
  | json (value : Value)
  | typedBlocks (items : List Value)

/-- `semantic_tool_result_content_from_value` (`translate/internal/tools.rs` 93-114). -/
def semanticToolResultContentFromValue : Option Value → SemanticToolResultContent
  | some (.string text) => .text text
  | some .null | none => .text ""
  | some (.array items) =>
      if items.all fun item => ((item.getStr "type").map fun ty => !ty.isEmpty).getD false then
        .typedBlocks items
      else .json (.array items)
  | some other => .json other

/-- `semantic_tool_result_content_to_value`. -/
def semanticToolResultContentToValue : SemanticToolResultContent → Value
  | .text text => .string text
  | .json value => value
  | .typedBlocks items => .array items

/-- `semantic_tool_result_content_to_openai_chat_tool_content` (`translate/internal/tools.rs`
130-150). -/
def semanticToolResultContentToOpenaiChatToolContent :
    SemanticToolResultContent → Except String Value
  | .text text => .ok (.string text)
  | .json value => .ok value
  | .typedBlocks items =>
      match items.find? fun item => item.getStr "type" ≠ some "text" with
      | some item =>
          let found := (item.getStr "type").getD "unknown"
          .error <| "OpenAI Chat Completions tool message content arrays can only contain text " ++
            s!"parts when translating an Anthropic tool_result; found `{found}`."
      | none => .ok (.array items)

/-! ## Reasoning -/

/-- `reasoning_details_to_text`. -/
def reasoningDetailsToText : Option Value → Option String
  | some (.string s) => if s.isEmpty then none else some s
  | some (.array items) =>
      let joined := String.join (items.filterMap (Value.getStr · "text"))
      if joined.isEmpty then none else some joined
  | _ => none

/-- `openai_message_reasoning_text`. -/
def openaiMessageReasoningText (message : Value) : Option String :=
  ((message.getStr "reasoning_content").filter fun text => !text.isEmpty).or
    (reasoningDetailsToText (message.get "reasoning_details"))

/-- `OPENAI_ANTHROPIC_REASONING_REPLAY_FIELD`. -/
def openaiAnthropicReasoningReplayField : String := "_anthropic_reasoning_replay"

/-- `openai_message_anthropic_reasoning_replay_blocks`. -/
def openaiMessageAnthropicReasoningReplayBlocks (message : Value) : Option (List Value) :=
  message.getArray openaiAnthropicReasoningReplayField

/-- `append_openai_message_anthropic_reasoning_replay_blocks` (`openai_responses.rs` 152-168): a
field that is no array stays. -/
def appendOpenaiMessageAnthropicReasoningReplayBlocks (message : Value) (blocks : List Value) :
    Value :=
  if blocks.isEmpty || !message.isObject then message
  else
    match message.get openaiAnthropicReasoningReplayField with
    | none => message.set openaiAnthropicReasoningReplayField (.array blocks)
    | some (.array replay) =>
        message.set openaiAnthropicReasoningReplayField (.array (replay ++ blocks))
    | some _ => message

/-! ## Usage -/

/-- `copy_remaining_usage_fields`: what the target does not have yet. -/
def copyRemainingUsageFields (source target : Value) (consumedFields : List String) : Value :=
  if !target.isObject then target
  else
    (source.asObject.getD []).foldl (fun target field =>
      if field.1 ∈ consumedFields || (target.get field.1).isSome then target
      else target.set field.1 field.2) target

/-- `target[key] = details`, for details that are an object with fields. -/
def setUsageDetails (target : Value) (key : String) (details : Option Value) : Value :=
  match details with
  | some (.object fields) => if fields.isEmpty then target else target.set key (.object fields)
  | _ => target

end LlmUniversalProxy.Translate
