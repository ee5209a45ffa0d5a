import LlmUniversalProxy.Json.Modify
import LlmUniversalProxy.Lib.Text
import LlmUniversalProxy.Translate.ShownReasoning
import Mathlib.Data.List.Nodup

/-!
# `Translate.ToolClearing` — the edit that clears tool uses

Anthropic's `clear_tool_uses` edit is made before a request goes to a model of the OpenAI family. The
tool uses to clear are chosen by their place, all but the last few; what is cleared is found by its
id. Of a body in which an id stands for one use only, nothing else is touched.

The source is `translate/internal.rs` 1052-1056 and 1181-1442. That an id stands for one use is what
the assessment has checked before (`assessment.rs` 2487-2526).
-/

set_option autoImplicit false

namespace LlmUniversalProxy.Translate

open Json Lib

/-! ## Options -/

/-- `AnthropicToolClearOptions`. -/
structure AnthropicToolClearOptions where
  keepToolUses : Nat
  clearToolInputs : Bool
  excludeTools : List String

/-- `anthropic_clear_tool_uses_options_from_edit` (`internal.rs` 1181-1220). -/
def anthropicClearToolUsesOptionsFromEdit (edit : Value) :
    Except String AnthropicToolClearOptions :=
  let keepToolUses := (((edit.get "keep").filter Value.isObject).bind fun keep =>
    if keep.getStr "type" = some "tool_uses" then keep.getU64 "value" else none).getD 3
  if keepToolUses = 0 then .error "clear_tool_uses_20250919.keep.value must be positive"
  else .ok
    { keepToolUses := keepToolUses
      clearToolInputs := ((edit.get "clear_tool_inputs").bind Value.asBool).getD false
      excludeTools := ((((edit.getArray "exclude_tools").getD []).filterMap Value.asStr).map
        Text.trim).filter fun tool => !tool.isEmpty }

/-! ## Interactions -/

/-- `AnthropicToolInteraction`. -/
structure AnthropicToolInteraction where
  id : String
  name : Option String
  deriving DecidableEq, Repr

/-- The blocks that `anthropic_visit_content_blocks_for_translate` visits. -/
def visitedBlocks (message : Value) : List Value := ((message.get "content").map blocksOf).getD []

def trimmedText (block : Value) (field : String) : Option String :=
  ((block.getStr field).map Text.trim).filter fun text => !text.isEmpty

def isToolUse (block : Value) : Bool :=
  block.getStr "type" = some "tool_use" || block.getStr "type" = some "server_tool_use"

def isToolResult (block : Value) : Bool := block.getStr "type" = some "tool_result"

def resultIds (messages : List Value) : List String :=
  messages.flatMap fun message => (visitedBlocks message).filterMap fun block =>
    if isToolResult block then trimmedText block "tool_use_id" else none

/-- The blocks of the assistant's messages that use a tool, each with its id. -/
def assistantToolUses (messages : List Value) : List (String × Value) :=
  (messages.filter fun message => message.getStr "role" = some "assistant").flatMap fun message =>
    (visitedBlocks message).filterMap fun block =>
      if isToolUse block then (trimmedText block "id").map fun id => (id, block) else none

/-- `anthropic_paired_tool_interactions`. -/
def anthropicPairedToolInteractions (body : Value) : List AnthropicToolInteraction :=
  ((assistantToolUses (messagesOf body)).filter fun use =>
    use.1 ∈ resultIds (messagesOf body)).map fun use => ⟨use.1, trimmedText use.2 "name"⟩

/-! ## Clearing -/

def hasClearId (clearIds : List String) (block : Value) (field : String) : Bool :=
  ((block.getStr field).map Text.trim).any fun id => id ∈ clearIds

/-- `anthropic_tool_block_matches_clear_ids`. -/
def anthropicToolBlockMatchesClearIds (clearIds : List String) (role : String) (block : Value) :
    Bool :=
  if isToolUse block && role = "assistant" then hasClearId clearIds block "id"
  else if isToolResult block then hasClearId clearIds block "tool_use_id"
  else false

/-- A content without what is cleared, and whether there was any. -/
def contentWithout (clears : Value → Bool) : Value → Value × Bool
  | .array blocks =>
      let kept := blocks.filter fun block => !clears block
      (.array kept, kept.length ≠ blocks.length)
  | .object fields =>
      if clears (.object fields) then (.array [], true) else (.object fields, false)
  | content => (content, false)

/-- `anthropic_message_content_empty_after_context_edit`. -/
def anthropicMessageContentEmptyAfterContextEdit (message : Value) : Bool :=
  match message.get "content" with
  | some (.array blocks) => blocks.isEmpty
  | some (.string text) => Text.isBlank text
  | some .null | none => true
  | some _ => false

/-- A message without what is cleared; `none` drops one that has become empty by that. -/
def messageWithout (clearIds : List String) (message : Value) : Option Value :=
  let clears := anthropicToolBlockMatchesClearIds clearIds ((message.getStr "role").getD "")
  let edited := message.modify "content" fun content => (contentWithout clears content).1
  let changed := (message.get "content").any fun content => (contentWithout clears content).2
  if changed && anthropicMessageContentEmptyAfterContextEdit edited then none else some edited

/-- `remove_anthropic_tool_interactions`. -/
def removeAnthropicToolInteractions (clearIds : List String) (body : Value) : Value :=
  body.modifyArray "messages" (List.filterMap (messageWithout clearIds))

/-- What stands in the place of a result that has been cleared. -/
def clearedPlaceholder : Value :=
  .string "[tool result cleared by context_management.clear_tool_uses_20250919]"

/-- `replace_anthropic_tool_result_if_cleared`. -/
def replaceAnthropicToolResultIfCleared (clearIds : List String) (block : Value) : Value :=
  if isToolResult block && hasClearId clearIds block "tool_use_id" then
    block.set "content" clearedPlaceholder
  else block

def contentReplaced (clearIds : List String) : Value → Value
  | .array blocks => .array (blocks.map (replaceAnthropicToolResultIfCleared clearIds))
  | .object fields => replaceAnthropicToolResultIfCleared clearIds (.object fields)
  | content => content

/-- `replace_anthropic_tool_results_with_context_cleared_placeholder`. -/
def replaceAnthropicToolResultsWithContextClearedPlaceholder (clearIds : List String)
    (body : Value) : Value :=
  body.modifyArray "messages" (List.map (Value.modify · "content" (contentReplaced clearIds)))

/-- The name of the tool is one of those that are excluded. -/
def AnthropicToolClearOptions.excludes (self : AnthropicToolClearOptions)
    (interaction : AnthropicToolInteraction) : Bool :=
  interaction.name.any fun name => Text.trim name ∈ self.excludeTools

/-- The interactions that may be cleared, in their order. -/
def eligibleInteractions (options : AnthropicToolClearOptions) (body : Value) :
    List AnthropicToolInteraction :=
  (anthropicPairedToolInteractions body).filter fun interaction => !options.excludes interaction

/-- How many are to be cleared. -/
def clearCount (options : AnthropicToolClearOptions) (body : Value) : Nat :=
  (eligibleInteractions options body).length - options.keepToolUses

def clearIds (options : AnthropicToolClearOptions) (body : Value) : List String :=
  ((eligibleInteractions options body).take (clearCount options body)).map (·.id)

/-- `apply_anthropic_clear_tool_uses_edit`. -/
def applyAnthropicClearToolUsesEdit (options : AnthropicToolClearOptions) (body : Value) : Value :=
  if clearCount options body = 0 then body
  else if options.clearToolInputs then
    removeAnthropicToolInteractions (clearIds options body) body
  else replaceAnthropicToolResultsWithContextClearedPlaceholder (clearIds options body) body

/-! ## The check of the ids -/

def firstDuplicate (seen : List String) : List String → Option String
  | [] => none
  | id :: ids => if id ∈ seen then some id else firstDuplicate (id :: seen) ids

/-- `anthropic_duplicate_assistant_tool_use_id_message`: a request with such an id is refused before
the edit is made. -/
def anthropicDuplicateAssistantToolUseIdMessage (body : Value) (targetLabel : String) :
    Option String :=
  (firstDuplicate [] ((assistantToolUses (messagesOf body)).map Prod.fst)).map fun id =>
    s!"Anthropic assistant tool_use id `{id}` is duplicated and cannot be translated to " ++
      s!"{targetLabel}; OpenAI-family tool_call ids must be unique"

theorem nodup_of_firstDuplicate {ids : List String} :
    ∀ {seen : List String}, firstDuplicate seen ids = none →
      ids.Nodup ∧ ∀ id ∈ ids, id ∉ seen := by
  induction ids with
  | nil => exact fun _ => ⟨List.nodup_nil, fun id hid => (nomatch hid)⟩
  | cons id ids ih =>
    intro seen h
    rw [firstDuplicate] at h
    split at h
    · cases h
    · next hnew =>
      obtain ⟨hnodup, hseen⟩ := ih h
      refine ⟨List.nodup_cons.mpr ⟨fun hmem => hseen id hmem List.mem_cons_self, hnodup⟩, ?_⟩
      intro other hother
      rcases List.mem_cons.mp hother with rfl | hother
      · exact hnew
      · exact fun hmem => hseen other hother (List.mem_cons_of_mem _ hmem)

/-! ## The pieces of a body -/

/-- A block, or another content of a message, with the rest of the message that it is in. -/
structure Piece where
  rest : Value
  block : Value
  deriving DecidableEq

/-- What a content is made up of. -/
def partsIn : Value → List Value
  | .array blocks => blocks
  | content => [content]

def partsOf (message : Value) : List Value := ((message.get "content").map partsIn).getD []

def piecesOf (message : Value) : List Piece :=
  (partsOf message).map fun block => ⟨message.remove "content", block⟩

/-- All that has been said in a body, in its order. -/
def pieces (body : Value) : List Piece := (messagesOf body).flatMap piecesOf

namespace Piece

def role (self : Piece) : String := (self.rest.getStr "role").getD ""

def isUse (id : String) (self : Piece) : Bool :=
  isToolUse self.block && self.role = "assistant" && trimmedText self.block "id" = some id

def isResult (id : String) (self : Piece) : Bool :=
  isToolResult self.block && trimmedText self.block "tool_use_id" = some id

def isPlain (self : Piece) : Bool := !isToolUse self.block && !isToolResult self.block

def isCleared (clearIds : List String) (self : Piece) : Bool :=
  anthropicToolBlockMatchesClearIds clearIds self.role self.block

/-- The piece with its result replaced, should it be cleared. -/
def replaced (clearIds : List String) (self : Piece) : Piece :=
  { self with block := replaceAnthropicToolResultIfCleared clearIds self.block }

end Piece

def interactionPieces (id : String) (body : Value) : List Piece :=
  (pieces body).filter fun piece => piece.isUse id || piece.isResult id

theorem messagesOf_modifyArray (body : Value) (f : List Value → List Value) (hnil : f [] = []) :
    messagesOf (body.modifyArray "messages" f) = f (messagesOf body) := by
  unfold messagesOf
  rw [Value.getArray_modifyArray]
  cases body.getArray "messages" with
  | none => exact hnil.symm
  | some messages => rfl

theorem piecesOf_modify (message : Value) (f : Value → Value) :
    piecesOf (message.modify "content" f) =
      (((message.get "content").map fun content => partsIn (f content)).getD []).map
        fun block => ⟨message.remove "content", block⟩ := by
  unfold piecesOf partsOf
  rw [Value.get_modify_self, Value.remove_modify, Option.map_map]
  rfl

theorem role_of_remove (message : Value) :
    (message.remove "content").getStr "role" = message.getStr "role" := by
  unfold Value.getStr
  rw [Value.get_remove, if_neg (by decide)]

/-- Only a block of an object or an array has a type. -/
theorem contentWithout_parts {clears : Value → Bool}
    (hclears : ∀ block, clears block = true → block.isObject = true) (content : Value) :
    partsIn (contentWithout clears content).1 =
      (partsIn content).filter fun block => !clears block := by
  cases content with
  | array blocks => rfl
  | object fields =>
    unfold contentWithout
    cases hclear : clears (.object fields) with
    | true => simp [partsIn, hclear]
    | false => simp [partsIn, hclear]
  | _ =>
    simp only [contentWithout, partsIn]
    rw [List.filter_cons_of_pos]
    · rfl
    · rw [Bool.not_eq_true', Bool.eq_false_iff]
      intro hclear
      exact absurd (hclears _ hclear) (by simp [Value.isObject])

theorem isObject_of_matches {clearIds : List String} {role : String} {block : Value}
    (h : anthropicToolBlockMatchesClearIds clearIds role block = true) :
    block.isObject = true := by
  cases block with
  | object fields => rfl
  | _ =>
    simp [anthropicToolBlockMatchesClearIds, isToolUse, isToolResult, Value.getStr, Value.get] at h

/-- What has become empty has no parts left. -/
theorem parts_of_emptied {clears : Value → Bool} {content : Value} {message : Value}
    (hchanged : (contentWithout clears content).2 = true)
    (hcontent : message.get "content" = some (contentWithout clears content).1)
    (hempty : anthropicMessageContentEmptyAfterContextEdit message = true) :
    piecesOf message = [] := by
  unfold piecesOf partsOf
  unfold anthropicMessageContentEmptyAfterContextEdit at hempty
  rw [hcontent] at hempty ⊢
  cases content with
  | array blocks => simpa [contentWithout, partsIn] using hempty
  | object fields =>
    rw [contentWithout] at hchanged ⊢
    cases hclear : clears (.object fields) with
    | true => rfl
    | false => simp [hclear] at hchanged
  | _ => cases hchanged

/-- **A message keeps what is not cleared**, and is dropped only with nothing left in it. -/
theorem piecesOf_messageWithout (clearIds : List String) (message : Value) :
    ((messageWithout clearIds message).map piecesOf).getD [] =
      (piecesOf message).filter fun piece => !piece.isCleared clearIds := by
  have hedited : piecesOf (message.modify "content" fun content =>
      (contentWithout (anthropicToolBlockMatchesClearIds clearIds
        ((message.getStr "role").getD "")) content).1) =
      (piecesOf message).filter fun piece => !piece.isCleared clearIds := by
    rw [piecesOf_modify, piecesOf, partsOf, List.filter_map]
    congr 1
    cases message.get "content" with
    | none => rfl
    | some content =>
      simp only [Option.map_some, Option.getD_some]
      rw [contentWithout_parts fun block h => isObject_of_matches h]
      refine List.filter_congr fun block _ => ?_
      simp [Piece.isCleared, Piece.role, role_of_remove]
  unfold messageWithout
  dsimp only
  split
  · next hdropped =>
    rw [Option.map_none, Option.getD_none, ← hedited]
    rw [Bool.and_eq_true, Option.any_eq_true] at hdropped
    obtain ⟨⟨content, hcontent, hchanged⟩, hempty⟩ := hdropped
    refine (parts_of_emptied hchanged ?_ hempty).symm
    rw [Value.get_modify_self, hcontent, Option.map_some]
  · exact hedited

theorem pieces_remove (clearIds : List String) (body : Value) :
    pieces (removeAnthropicToolInteractions clearIds body) =
      (pieces body).filter fun piece => !piece.isCleared clearIds := by
  unfold pieces removeAnthropicToolInteractions
  rw [messagesOf_modifyArray _ _ rfl]
  induction messagesOf body with
  | nil => rfl
  | cons message messages ih =>
    rw [List.flatMap_cons, List.filter_append, ← piecesOf_messageWithout, ← ih, List.filterMap_cons]
    cases messageWithout clearIds message with
    | none => rfl
    | some edited => rfl

theorem isObject_of_isToolResult {block : Value} (h : isToolResult block = true) :
    block.isObject = true := by
  cases block with
  | object fields => rfl
  | _ => simp [isToolResult, Value.getStr, Value.get] at h

/-- An array stays one, and each of its blocks is one. -/
theorem contentReplaced_parts (clearIds : List String) (content : Value) :
    partsIn (contentReplaced clearIds content) =
      (partsIn content).map (replaceAnthropicToolResultIfCleared clearIds) ∧
    (contentReplaced clearIds content).asArray.isSome = content.asArray.isSome := by
  cases content with
  | array blocks => exact ⟨rfl, rfl⟩
  | object fields =>
    show partsIn (replaceAnthropicToolResultIfCleared clearIds (.object fields)) =
        [replaceAnthropicToolResultIfCleared clearIds (.object fields)] ∧
      (replaceAnthropicToolResultIfCleared clearIds (.object fields)).asArray.isSome = false
    unfold replaceAnthropicToolResultIfCleared
    split <;> exact ⟨rfl, rfl⟩
  | _ => exact ⟨rfl, rfl⟩

/-- **A message keeps all its pieces**, some of them with another result. -/
theorem piecesOf_replaced (clearIds : List String) (message : Value) :
    piecesOf (message.modify "content" (contentReplaced clearIds)) =
      (piecesOf message).map (Piece.replaced clearIds) := by
  rw [piecesOf_modify, piecesOf, partsOf, List.map_map]
  cases message.get "content" with
  | none => rfl
  | some content =>
    rw [Option.map_some, Option.getD_some, (contentReplaced_parts clearIds content).1, List.map_map]
    rfl

theorem pieces_replace (clearIds : List String) (body : Value) :
    pieces (replaceAnthropicToolResultsWithContextClearedPlaceholder clearIds body) =
      (pieces body).map (Piece.replaced clearIds) := by
  unfold pieces replaceAnthropicToolResultsWithContextClearedPlaceholder
  rw [messagesOf_modifyArray _ _ rfl, List.map_flatMap, List.flatMap_map]
  simp only [piecesOf_replaced]

/-! ## The pieces of one id -/

theorem hasClearId_of_trimmed {clearIds : List String} {block : Value} {field id : String}
    (h : trimmedText block field = some id) :
    hasClearId clearIds block field = decide (id ∈ clearIds) := by
  obtain ⟨hid, _⟩ := Option.filter_eq_some_iff.mp h
  rw [hasClearId, hid]
  rfl

theorem not_isToolUse_of_result {block : Value} (h : isToolResult block = true) :
    isToolUse block = false := by
  rw [isToolResult, decide_eq_true_eq] at h
  simp [isToolUse, h]

namespace Piece

variable {clearIds : List String} {id : String} {piece : Piece}

theorem isCleared_of_isUse (h : piece.isUse id = true) :
    piece.isCleared clearIds = decide (id ∈ clearIds) := by
  simp only [isUse, Bool.and_eq_true, decide_eq_true_eq] at h
  obtain ⟨⟨huse, hrole⟩, hid⟩ := h
  simp only [isCleared, anthropicToolBlockMatchesClearIds, huse, hrole, decide_true, Bool.and_self,
    if_true]
  exact hasClearId_of_trimmed hid

theorem isCleared_of_isResult (h : piece.isResult id = true) :
    piece.isCleared clearIds = decide (id ∈ clearIds) := by
  simp only [isResult, Bool.and_eq_true, decide_eq_true_eq] at h
  obtain ⟨hresult, hid⟩ := h
  simp only [isCleared, anthropicToolBlockMatchesClearIds, not_isToolUse_of_result hresult,
    Bool.false_and, Bool.false_eq_true, if_false, hresult, if_true]
  exact hasClearId_of_trimmed hid

theorem isCleared_of_isPlain (h : piece.isPlain = true) : piece.isCleared clearIds = false := by
  simp only [isPlain, Bool.and_eq_true, Bool.not_eq_true'] at h
  simp [isCleared, anthropicToolBlockMatchesClearIds, h.1, h.2]

theorem replaced_of_not_result (h : isToolResult piece.block = false) :
    piece.replaced clearIds = piece := by
  simp [replaced, replaceAnthropicToolResultIfCleared, h]

theorem replaced_of_isUse (h : piece.isUse id = true) : piece.replaced clearIds = piece := by
  refine replaced_of_not_result (Bool.eq_false_iff.mpr fun hresult => ?_)
  simp [isUse, not_isToolUse_of_result hresult] at h

theorem replaced_of_isResult (h : piece.isResult id = true) (hid : id ∉ clearIds) :
    piece.replaced clearIds = piece := by
  simp only [isResult, Bool.and_eq_true, decide_eq_true_eq] at h
  simp [replaced, replaceAnthropicToolResultIfCleared, hasClearId_of_trimmed h.2, hid]

theorem replaced_of_isPlain (h : piece.isPlain = true) : piece.replaced clearIds = piece := by
  simp only [isPlain, Bool.and_eq_true, Bool.not_eq_true'] at h
  exact replaced_of_not_result h.2

/-- No text but the content's is another one. -/
theorem getStr_replaced {field : String} (h : field ≠ "content") (clearIds : List String)
    (piece : Piece) : (piece.replaced clearIds).block.getStr field = piece.block.getStr field := by
  unfold replaced replaceAnthropicToolResultIfCleared
  dsimp only
  split
  · exact Value.getStr_set_of_ne _ _ h
  · rfl

theorem isUse_replaced (clearIds : List String) (id : String) (piece : Piece) :
    (piece.replaced clearIds).isUse id = piece.isUse id := by
  unfold isUse isToolUse trimmedText
  rw [getStr_replaced (by decide), getStr_replaced (by decide)]
  rfl

theorem isResult_replaced (clearIds : List String) (id : String) (piece : Piece) :
    (piece.replaced clearIds).isResult id = piece.isResult id := by
  unfold isResult isToolResult trimmedText
  rw [getStr_replaced (by decide), getStr_replaced (by decide)]

theorem isPlain_replaced (clearIds : List String) (piece : Piece) :
    (piece.replaced clearIds).isPlain = piece.isPlain := by
  unfold isPlain isToolUse isToolResult
  rw [getStr_replaced (by decide)]

end Piece

/-! ## What the edit keeps -/

/-- A result that may have another content. -/
def ResultChange (edited block : Value) : Prop :=
  edited = block ∨
    (isToolResult block = true ∧ edited.remove "content" = block.remove "content")

/-- A message whose results may have other contents. -/
structure MessageChange (edited message : Value) : Prop where
  rest : edited.remove "content" = message.remove "content"
  shape : (edited.getArray "content").isSome = (message.getArray "content").isSome
  parts : List.Forall₂ ResultChange (partsOf edited) (partsOf message)

/-- What becomes of the uses of an id and of the results for it: they are all there, or none of
them is. -/
def KeepsPairing (id : String) (edited body : Value) : Prop :=
  ((pieces edited).filter (Piece.isUse id) = (pieces body).filter (Piece.isUse id) ∧
    List.Forall₂ (fun p q : Piece => p.rest = q.rest ∧ ResultChange p.block q.block)
      ((pieces edited).filter (Piece.isResult id)) ((pieces body).filter (Piece.isResult id))) ∨
  interactionPieces id edited = []

/-- What has been said apart from tools, and all of the body but its messages, is as it was. -/
structure KeepsPlain (edited body : Value) : Prop where
  rest : edited.remove "messages" = body.remove "messages"
  pieces : (pieces edited).filter Piece.isPlain = (pieces body).filter Piece.isPlain

theorem resultChange_replaced (clearIds : List String) (block : Value) :
    ResultChange (replaceAnthropicToolResultIfCleared clearIds block) block := by
  unfold replaceAnthropicToolResultIfCleared
  split
  · next h =>
    rw [Bool.and_eq_true] at h
    exact .inr ⟨h.1, Value.remove_set (isObject_of_isToolResult h.1) _ _⟩
  · exact .inl rfl

theorem filter_removed {clearIds : List String} {q : Piece → Bool} (xs : List Piece)
    (h : ∀ piece, q piece = true → piece.isCleared clearIds = false) :
    (xs.filter fun piece => !piece.isCleared clearIds).filter q = xs.filter q := by
  rw [List.filter_filter]
  refine List.filter_congr fun piece _ => ?_
  cases hq : q piece with
  | true => simp [h piece hq]
  | false => rfl

theorem filter_replaced {clearIds : List String} {q : Piece → Bool} (xs : List Piece)
    (hq : ∀ piece : Piece, q (piece.replaced clearIds) = q piece) :
    (xs.map (Piece.replaced clearIds)).filter q = (xs.filter q).map (Piece.replaced clearIds) := by
  rw [List.filter_map]
  refine congrArg _ (List.filter_congr fun piece _ => ?_)
  exact hq piece

theorem filter_replaced_eq {clearIds : List String} {q : Piece → Bool} (xs : List Piece)
    (hq : ∀ piece : Piece, q (piece.replaced clearIds) = q piece)
    (h : ∀ piece, q piece = true → piece.replaced clearIds = piece) :
    (xs.map (Piece.replaced clearIds)).filter q = xs.filter q := by
  rw [filter_replaced xs hq]
  calc (xs.filter q).map (Piece.replaced clearIds)
      = (xs.filter q).map id :=
        List.map_congr_left fun piece hpiece => h piece (List.mem_filter.mp hpiece).2
    _ = xs.filter q := List.map_id _

section

variable {clearIds : List String} (body : Value)

/-! ### When the uses are removed -/

theorem interaction_remove {id : String} (hid : id ∉ clearIds) :
    interactionPieces id (removeAnthropicToolInteractions clearIds body) =
      interactionPieces id body := by
  unfold interactionPieces
  rw [pieces_remove]
  refine filter_removed _ fun piece hpiece => ?_
  rcases Bool.or_eq_true_iff.mp hpiece with huse | hresult
  · rw [Piece.isCleared_of_isUse huse, decide_eq_false hid]
  · rw [Piece.isCleared_of_isResult hresult, decide_eq_false hid]

theorem interaction_removed {id : String} (hid : id ∈ clearIds) :
    interactionPieces id (removeAnthropicToolInteractions clearIds body) = [] := by
  unfold interactionPieces
  rw [pieces_remove, List.filter_filter, List.filter_eq_nil_iff]
  intro piece _ hpiece
  rw [Bool.and_eq_true] at hpiece
  rcases Bool.or_eq_true_iff.mp hpiece.1 with huse | hresult
  · simp [Piece.isCleared_of_isUse huse, hid] at hpiece
  · simp [Piece.isCleared_of_isResult hresult, hid] at hpiece

theorem keepsPairing_of_interaction {id : String} {edited body : Value}
    (h : interactionPieces id edited = interactionPieces id body) : KeepsPairing id edited body := by
  have hpart : ∀ (q : Piece → Bool),
      (∀ piece, q piece = true → (piece.isUse id || piece.isResult id) = true) →
        (pieces edited).filter q = (pieces body).filter q := by
    intro q hq
    have hinner : ∀ xs : List Piece, xs.filter q =
        (xs.filter fun piece => piece.isUse id || piece.isResult id).filter q := by
      intro xs
      rw [List.filter_filter]
      refine List.filter_congr fun piece _ => ?_
      cases hpiece : q piece with
      | true => rw [hq piece hpiece, Bool.and_true]
      | false => rfl
    rw [hinner, hinner (pieces body)]
    exact congrArg _ h
  refine .inl ⟨hpart _ fun piece hpiece => by rw [hpiece, Bool.true_or], ?_⟩
  rw [hpart (Piece.isResult id) fun piece hpiece => by rw [hpiece, Bool.or_true]]
  exact List.forall₂_same.mpr fun piece _ => ⟨rfl, .inl rfl⟩

theorem keepsPairing_remove (id : String) :
    KeepsPairing id (removeAnthropicToolInteractions clearIds body) body := by
  by_cases hid : id ∈ clearIds
  · exact .inr (interaction_removed body hid)
  · exact keepsPairing_of_interaction (interaction_remove body hid)

theorem keepsPlain_remove : KeepsPlain (removeAnthropicToolInteractions clearIds body) body where
  rest := Value.remove_modify _ _ _
  pieces := by
    rw [pieces_remove]
    exact filter_removed _ fun piece => Piece.isCleared_of_isPlain

/-! ### When the results are replaced -/

theorem interaction_replace {id : String} (hid : id ∉ clearIds) :
    interactionPieces id (replaceAnthropicToolResultsWithContextClearedPlaceholder clearIds body) =
      interactionPieces id body := by
  unfold interactionPieces
  rw [pieces_replace]
  refine filter_replaced_eq _ (fun piece => ?_) fun piece hpiece => ?_
  · rw [Piece.isUse_replaced, Piece.isResult_replaced]
  · rcases Bool.or_eq_true_iff.mp hpiece with huse | hresult
    · exact Piece.replaced_of_isUse huse
    · exact Piece.replaced_of_isResult hresult hid

theorem keepsPairing_replace (id : String) : KeepsPairing id
    (replaceAnthropicToolResultsWithContextClearedPlaceholder clearIds body) body := by
  unfold KeepsPairing
  rw [pieces_replace]
  refine .inl ⟨filter_replaced_eq _ (Piece.isUse_replaced clearIds id) fun piece =>
    Piece.replaced_of_isUse, ?_⟩
  rw [filter_replaced _ (Piece.isResult_replaced clearIds id), List.forall₂_map_left_iff]
  exact List.forall₂_same.mpr fun piece _ => ⟨rfl, resultChange_replaced clearIds piece.block⟩

theorem keepsPlain_replace : KeepsPlain
    (replaceAnthropicToolResultsWithContextClearedPlaceholder clearIds body) body where
  rest := Value.remove_modify _ _ _
  pieces := by
    rw [pieces_replace]
    exact filter_replaced_eq _ (Piece.isPlain_replaced clearIds) fun piece =>
      Piece.replaced_of_isPlain

theorem messageChange_replace (message : Value) :
    MessageChange (message.modify "content" (contentReplaced clearIds)) message where
  rest := Value.remove_modify _ _ _
  shape := by
    unfold Value.getArray
    rw [Value.get_modify_self]
    cases message.get "content" with
    | none => rfl
    | some content => exact (contentReplaced_parts clearIds content).2
  parts := by
    unfold partsOf
    rw [Value.get_modify_self]
    cases message.get "content" with
    | none => exact .nil
    | some content =>
      simp only [Option.map_some, Option.getD_some]
      rw [(contentReplaced_parts clearIds content).1, List.forall₂_map_left_iff]
      exact List.forall₂_same.mpr fun block _ => resultChange_replaced clearIds block

theorem messages_replace : List.Forall₂ MessageChange
    (messagesOf (replaceAnthropicToolResultsWithContextClearedPlaceholder clearIds body))
    (messagesOf body) := by
  unfold replaceAnthropicToolResultsWithContextClearedPlaceholder
  rw [messagesOf_modifyArray _ _ rfl, List.forall₂_map_left_iff]
  exact List.forall₂_same.mpr fun message _ => messageChange_replace message

end

/-! ## The edit -/

/-- The interactions that are kept for being the last ones. -/
def keptInteractions (options : AnthropicToolClearOptions) (body : Value) :
    List AnthropicToolInteraction :=
  (eligibleInteractions options body).drop (clearCount options body)

/-- An interaction that the edit is to leave alone. -/
def IsSpared (options : AnthropicToolClearOptions) (body : Value)
    (interaction : AnthropicToolInteraction) : Prop :=
  interaction ∈ keptInteractions options body ∨
    (interaction ∈ anthropicPairedToolInteractions body ∧ options.excludes interaction = true)

theorem length_kept (options : AnthropicToolClearOptions) (body : Value) :
    (keptInteractions options body).length =
      min options.keepToolUses (eligibleInteractions options body).length := by
  rw [keptInteractions, List.length_drop, clearCount]
  omega

theorem id_notMem_clearIds {options : AnthropicToolClearOptions} {body : Value}
    (hnodup : ((assistantToolUses (messagesOf body)).map Prod.fst).Nodup)
    {interaction : AnthropicToolInteraction} (h : IsSpared options body interaction) :
    interaction.id ∉ clearIds options body := by
  have hids : ((anthropicPairedToolInteractions body).map (·.id)).Nodup := by
    unfold anthropicPairedToolInteractions
    rw [List.map_map]
    exact hnodup.sublist (List.filter_sublist.map Prod.fst)
  have hsame : ∀ i ∈ anthropicPairedToolInteractions body,
      ∀ j ∈ anthropicPairedToolInteractions body, i.id = j.id → i = j :=
    fun i hi j hj => List.inj_on_of_nodup_map hids hi hj
  have heligible : ∀ i ∈ eligibleInteractions options body,
      i ∈ anthropicPairedToolInteractions body := fun i hi => (List.mem_filter.mp hi).1
  intro hid
  obtain ⟨cleared, hcleared, hid⟩ := List.mem_map.mp hid
  have hclearedEligible := List.mem_of_mem_take hcleared
  rcases h with hkept | ⟨hinteraction, hexcluded⟩
  · have hkeptEligible := List.mem_of_mem_drop hkept
    have heq := hsame _ (heligible _ hclearedEligible) _ (heligible _ hkeptEligible) hid
    have hnodup : (eligibleInteractions options body).Nodup := (List.Nodup.of_map _ hids).filter _
    have hdisjoint := List.disjoint_take_drop hnodup (Nat.le_refl (clearCount options body))
    exact hdisjoint (heq ▸ hcleared) hkept
  · have heq := hsame _ (heligible _ hclearedEligible) _ hinteraction hid
    have hnot := (List.mem_filter.mp hclearedEligible).2
    rw [heq, hexcluded] at hnot
    cases hnot

/-- **The edit keeps the pairing of tools.** The last interactions and the excluded ones are as they
were, unless one of them has the id of one that is cleared, which the check of the ids sees to; uses
and results of an id stay or go together; the rest is not touched. -/
theorem clear_tool_uses_keeps_pairing (options : AnthropicToolClearOptions) (body : Value) :
    (keptInteractions options body).length =
      min options.keepToolUses (eligibleInteractions options body).length ∧
    (∀ interaction, IsSpared options body interaction →
      interaction.id ∉ clearIds options body →
      interactionPieces interaction.id (applyAnthropicClearToolUsesEdit options body) =
        interactionPieces interaction.id body) ∧
    (∀ targetLabel, anthropicDuplicateAssistantToolUseIdMessage body targetLabel = none →
      ∀ interaction, IsSpared options body interaction →
        interaction.id ∉ clearIds options body) ∧
    (∀ id, KeepsPairing id (applyAnthropicClearToolUsesEdit options body) body) ∧
    (options.clearToolInputs = false → List.Forall₂ MessageChange
      (messagesOf (applyAnthropicClearToolUsesEdit options body)) (messagesOf body)) ∧
    KeepsPlain (applyAnthropicClearToolUsesEdit options body) body := by
  refine ⟨length_kept options body, ?_, ?_, ?_, ?_, ?_⟩
  · intro interaction _ hid
    unfold applyAnthropicClearToolUsesEdit
    split
    · rfl
    split
    -- the uses go with their results when inputs are cleared; else the results are replaced
    · exact interaction_remove body hid
    · exact interaction_replace body hid
  · intro targetLabel hunique interaction hspared
    exact id_notMem_clearIds
      (nodup_of_firstDuplicate (Option.map_eq_none_iff.mp hunique)).1 hspared
  · intro id
    unfold applyAnthropicClearToolUsesEdit
    split
    · exact keepsPairing_of_interaction rfl
    split
    · exact keepsPairing_remove body id
    · exact keepsPairing_replace body id
  · intro hinputs
    unfold applyAnthropicClearToolUsesEdit
    rw [hinputs]
    split
    · exact List.forall₂_same.mpr fun message _ =>
        ⟨rfl, rfl, List.forall₂_same.mpr fun block _ => .inl rfl⟩
    · exact messages_replace body
  · unfold applyAnthropicClearToolUsesEdit
    split
    · exact ⟨rfl, rfl⟩
    split
    · exact keepsPlain_remove body
    · exact keepsPlain_replace body

/-- A body in which the id of a use comes back. -/
def repeatedIdBody : Value :=
  let use := Value.ofFields [("role", .string "assistant"), ("content", .array
    [.ofFields [("type", .string "tool_use"), ("id", .string "call_1"),
      ("name", .string "search"), ("input", .ofFields [])]])]
  let result (text : String) := Value.ofFields [("role", .string "user"), ("content", .array
    [.ofFields [("type", .string "tool_result"), ("tool_use_id", .string "call_1"),
      ("content", .string text)]])]
  .ofFields [("messages", .array [use, result "old", use, result "new"])]

/-- Its last use is to be kept, but has the id of the one that is cleared. -/
theorem repeated_id_is_cleared :
    ∃ interaction ∈ keptInteractions ⟨1, false, []⟩ repeatedIdBody,
      interactionPieces interaction.id
          (applyAnthropicClearToolUsesEdit ⟨1, false, []⟩ repeatedIdBody) ≠
        interactionPieces interaction.id repeatedIdBody := by
  decide +kernel

end LlmUniversalProxy.Translate
