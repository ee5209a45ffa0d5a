import LlmUniversalProxy.Json.Modify
import LlmUniversalProxy.Translate.Content

/-!
# `Translate.RoleRepair` — the messages of a completion, made safe for any upstream

Not every upstream takes instructions under a role of their own, or two messages in a row under one
role. So instructions become messages of the user, with a label in front, and messages that are
nothing but a role and a text are joined when they follow each other under the same role.

Where there is nothing to repair a repair changes nothing; this is what the last part is about.

The source is `translate/internal.rs` 441-661.
-/

set_option autoImplicit false

namespace LlmUniversalProxy.Translate

open Json Lib

/-! ## Instructions -/

def isInstructionRole (role : String) : Bool := role = "system" || role = "developer"

/-- `openai_instruction_part_is_text`. -/
def openaiInstructionPartIsText (part : Value) : Bool :=
  part.getStr "type" = some "text" && (part.getStr "text").isSome

/-- `openai_instruction_content_as_text` (`internal.rs` 536-550). -/
def openaiInstructionContentAsText : Value → Option String
  | .string text => some text
  | .array parts =>
      if parts.all openaiInstructionPartIsText then
        some (extractOpenaiContentText (some (.array parts)))
      else none
  | .object fields =>
      if openaiInstructionPartIsText (.object fields) then
        some (extractOpenaiContentText (some (.array [.object fields])))
      else none
  | .null => some ""
  | _ => none

/-- `annotate_openai_instruction_message_for_maximum_safe_compatibility`. -/
def annotateOpenaiInstructionMessage (message : Value) (role : String) : Value :=
  match (message.get "content").bind openaiInstructionContentAsText with
  | none => message
  | some text =>
      let label := if role = "developer" then "Developer instructions" else "System instructions"
      message.set "content" (.string (if text.isEmpty then label else s!"{label}:\n{text}"))

/-- One round of the loop that turns instructions into messages of the user. -/
def downgradeInstructionMessage (message : Value) : Value :=
  match message.getStr "role" with
  | none => message
  | some role =>
      if isInstructionRole role then
        (annotateOpenaiInstructionMessage message role).set "role" (.string "user")
      else message

/-! ## Messages that are joined -/

/-- `openai_string_message_role_if_coalescible`: the role of a message that has a role, a text and
nothing else. -/
def openaiStringMessageRoleIfCoalescible (message : Value) : Option String := do
  let role ← message.getStr "role"
  let _ ← message.getStr "content"
  let fields ← message.asObject
  if fields.all fun field => field.1 = "role" || field.1 = "content" then some role else none

/-- The two messages as one, when they can be joined. -/
def coalesced (previous message : Value) : Option Value := do
  let role ← openaiStringMessageRoleIfCoalescible message
  let content ← message.getStr "content"
  let previousContent ← previous.getStr "content"
  if openaiStringMessageRoleIfCoalescible previous = some role then
    some (previous.set "content" (.string s!"{previousContent}\n\n{content}"))
  else none

/-- The loop of `coalesce_openai_string_messages` behind the message that was pushed last. A joined
message is looked at again, so that a run of any length becomes one message. -/
def coalesceFrom (previous : Value) : List Value → List Value
  | [] => [previous]
  | message :: messages =>
      match coalesced previous message with
      | some joined => coalesceFrom joined messages
      | none => previous :: coalesceFrom message messages

/-- The loop of `coalesce_openai_string_messages`. -/
def coalesceMessages : List Value → List Value
  | [] => []
  | message :: messages => coalesceFrom message messages

/-- `coalesce_openai_string_messages`. -/
def coalesceOpenaiStringMessages (body : Value) : Value :=
  body.modifyArray "messages" coalesceMessages

/-! ## Repairs -/

/-- `downgrade_openai_instruction_messages_to_user_for_maximum_safe_compatibility`, which is all
that `apply_openai_completion_maximum_safe_role_repairs` does. -/
def applyOpenaiCompletionMaximumSafeRoleRepairs (body : Value) : Value :=
  match body.getArray "messages" with
  | none => body
  | some _ => coalesceOpenaiStringMessages
      (body.modifyArray "messages" (List.map downgradeInstructionMessage))

/-- One round of a loop that knows no developers. -/
def systemForDeveloper (isMessage : Value → Bool) (message : Value) : Value :=
  if isMessage message && message.getStr "role" = some "developer" then
    message.set "role" (.string "system")
  else message

/-- `normalize_openai_message_roles`. -/
def normalizeOpenaiMessageRoles (body : Value) : Value :=
  body.modifyArray "messages" (List.map (systemForDeveloper fun _ => true))

/-- `normalize_openai_responses_roles`. -/
def normalizeOpenaiResponsesRoles (body : Value) : Value :=
  body.modifyArray "input"
    (List.map (systemForDeveloper fun item => item.getStr "type" = some "message"))

/-- `normalize_openai_roles_for_compatibility`. -/
def normalizeOpenaiRolesForCompatibility : UpstreamFormat → Value → Value
  | .openAiChatCompletions, body => coalesceOpenaiStringMessages (normalizeOpenaiMessageRoles body)
  | .openAiResponses, body => normalizeOpenaiResponsesRoles body
  | .anthropic, body => body

/-- `is_minimax_model`. -/
def isMinimaxModel (model : String) : Bool := Text.startsWith model "MiniMax-"

/-- The reasoning of an assistant, in the form MiniMax reads it. -/
def withReasoningDetails (message : Value) : Value :=
  if message.getStr "role" ≠ some "assistant" || (message.get "reasoning_details").isSome then
    message
  else
    match (message.getStr "reasoning_content").filter fun text => !text.isEmpty with
    | none => message
    | some reasoning =>
        message.set "reasoning_details" (.array [.ofFields [("text", .string reasoning)]])

/-- `obj.entry(key).or_insert(value)` on an object. -/
def entryOrInsert (v : Value) (k : String) (value : Value) : Value :=
  if (v.get k).isSome || !v.isObject then v else v.set k value

/-- `obj.insert(key, value)`, where there is an object. -/
def insertField (k : String) (value : Value) (v : Value) : Value :=
  if v.isObject then v.set k value else v

/-- `apply_openai_completion_compat_overrides` (`internal.rs` 441-472). -/
def applyOpenaiCompletionCompatOverrides (model : String) (body : Value) : Value :=
  if !isMinimaxModel model then body
  else
    let body := insertField "reasoning_split" (.bool true) body
    let body := entryOrInsert body "stream_options" (.ofFields [])
    let body := body.modify "stream_options" (insertField "include_usage" (.bool true))
    body.modifyArray "messages" (List.map withReasoningDetails)

/-! ## Nothing to repair -/

/-- Some two neighbours are related. -/
def anyAdjacent (related : Value → Value → Bool) : List Value → Bool
  | first :: second :: rest => related first second || anyAdjacent related (second :: rest)
  | _ => false

/-- Two messages that are joined when they follow each other. -/
def sameCoalescibleRole (left right : Value) : Bool :=
  (openaiStringMessageRoleIfCoalescible left).isSome &&
    openaiStringMessageRoleIfCoalescible right = openaiStringMessageRoleIfCoalescible left

theorem coalesced_none {previous message : Value} (h : sameCoalescibleRole previous message = false) :
    coalesced previous message = none := by
  unfold coalesced
  cases hrole : openaiStringMessageRoleIfCoalescible message with
  | none => rfl
  | some role =>
    have hne : openaiStringMessageRoleIfCoalescible previous ≠ some role := by
      intro heq
      simp [sameCoalescibleRole, hrole, heq] at h
    cases message.getStr "content" with
    | none => rfl
    | some content =>
      cases previous.getStr "content" with
      | none => rfl
      | some previousContent => exact if_neg hne

theorem coalesceFrom_eq_self {previous : Value} {messages : List Value}
    (h : anyAdjacent sameCoalescibleRole (previous :: messages) = false) :
    coalesceFrom previous messages = previous :: messages := by
  induction messages generalizing previous with
  | nil => rfl
  | cons message messages ih =>
    obtain ⟨hpair, hrest⟩ := Bool.or_eq_false_iff.mp h
    rw [coalesceFrom, coalesced_none hpair, ih hrest]

/-- Messages without two neighbours of one role stay as they are. -/
theorem coalesceMessages_eq_self {messages : List Value}
    (h : anyAdjacent sameCoalescibleRole messages = false) :
    coalesceMessages messages = messages := by
  cases messages with
  | nil => rfl
  | cons message messages => exact coalesceFrom_eq_self h

theorem downgrade_eq_self {message : Value}
    (h : ∀ role, message.getStr "role" = some role → isInstructionRole role = false) :
    downgradeInstructionMessage message = message := by
  unfold downgradeInstructionMessage
  cases hrole : message.getStr "role" with
  | none => rfl
  | some role => simp [h role hrole]

/-- A completion without instructions and without two neighbours of one role needs no repair. -/
theorem repairs_eq_self {body : Value}
    (hroles : ∀ messages, body.getArray "messages" = some messages → ∀ message ∈ messages,
      ∀ role, message.getStr "role" = some role → isInstructionRole role = false)
    (hpairs : ∀ messages, body.getArray "messages" = some messages →
      anyAdjacent sameCoalescibleRole messages = false) :
    applyOpenaiCompletionMaximumSafeRoleRepairs body = body := by
  have hdowngrade : body.modifyArray "messages" (List.map downgradeInstructionMessage) = body := by
    refine Value.modifyArray_eq_self fun messages hmessages => ?_
    calc messages.map downgradeInstructionMessage
        = messages.map id := List.map_congr_left fun message hmem =>
          downgrade_eq_self (hroles messages hmessages message hmem)
      _ = messages := List.map_id messages
  have hcoalesce : coalesceOpenaiStringMessages body = body :=
    Value.modifyArray_eq_self fun messages hmessages =>
      coalesceMessages_eq_self (hpairs messages hmessages)
  unfold applyOpenaiCompletionMaximumSafeRoleRepairs
  rw [hdowngrade, hcoalesce]
  cases body.getArray "messages" with
  | none => rfl
  | some messages => rfl

theorem responsesRoles_eq_self {body : Value}
    (h : ∀ items, body.getArray "input" = some items → ∀ item ∈ items,
      (item.getStr "type" = some "message" && item.getStr "role" = some "developer") = false) :
    normalizeOpenaiResponsesRoles body = body := by
  refine Value.modifyArray_eq_self fun items hitems => ?_
  calc items.map (systemForDeveloper fun item => item.getStr "type" = some "message")
      = items.map id := List.map_congr_left fun item hmem => by
        unfold systemForDeveloper
        rw [h items hitems item hmem]
        rfl
    _ = items := List.map_id items

theorem compatOverrides_eq_self {model : String} {body : Value} (h : isMinimaxModel model = false) :
    applyOpenaiCompletionCompatOverrides model body = body := by
  unfold applyOpenaiCompletionCompatOverrides
  rw [h]
  rfl

end LlmUniversalProxy.Translate
