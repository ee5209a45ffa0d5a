import LlmUniversalProxy.Json.Modify
import LlmUniversalProxy.Server.Dialect
import LlmUniversalProxy.Translate.RoleRepair

/-!
# `Translate.DialectEmit` — reasoning effort in the dialect of an upstream

The effort a client asks for is read from its own request, and put into the request for the
upstream last, over whatever the translation has put there. Where it is found again is where a
client of the upstream's format would have put it, so the result can be read the same way as the
request: it is the client's effort, or the ceiling of the dialect if that is lower.

The source is `translate/internal/dialect_emit.rs` 44-233. A request may have something under
`reasoning` that is no object, and then it cannot be given an effort; the source does not warn of it
(152-161).
-/

set_option autoImplicit false

namespace LlmUniversalProxy.Translate

open Json
open Server (ReasoningLevel ReasoningMechanism DialectBlock ResolvedDialect
  UpstreamDialect)

/-- The member of an object that may be there (`get`, then `as_object`). -/
def objectField (body : Value) (name : String) : Option Value :=
  (body.get name).filter Value.isObject

/-- `parse_client_reasoning_effort` (`dialect_emit.rs` 44-64). -/
def parseClientReasoningEffort (body : Value) (clientFormat : UpstreamFormat) :
    Option ReasoningLevel :=
  let raw := match clientFormat with
    | .openAiChatCompletions => body.getStr "reasoning_effort"
    | .openAiResponses => (objectField body "reasoning").bind (Value.getStr · "effort")
    | .anthropic => (objectField body "output_config").bind (Value.getStr · "effort")
  raw.bind fun raw => (ReasoningLevel.parse raw).toOption

/-- `cap_to_ceiling`, without the flag: a level was capped when it changed. -/
def capToCeiling (effort : ReasoningLevel) (dialect : ResolvedDialect) : ReasoningLevel × Bool :=
  if effort > dialect.ceilingFor then (dialect.ceilingFor, true) else (effort, false)

/-- `cap_warning`. -/
def capWarning (original capped : ReasoningLevel) : String :=
  s!"reasoning effort `{original.display}` exceeds this upstream dialect's ceiling " ++
    s!"`{capped.display}` and was capped"

/-- The effort under `effort` in an object that is made if need be. -/
def emitNestedEffort (place : String) (level : ReasoningLevel) (body : Value) : Value :=
  if body.isObject then
    (entryOrInsert body place (.ofFields [])).modify place
      (insertField "effort" (.string level.display))
  else body

/-- `emit_openai_effort`. -/
def emitOpenaiEffort (upstreamFormat : UpstreamFormat) (level : ReasoningLevel) (body : Value) :
    Value :=
  match upstreamFormat with
  | .openAiChatCompletions | .anthropic =>
      insertField "reasoning_effort" (.string level.display) body
  | .openAiResponses => emitNestedEffort "reasoning" level (body.remove "reasoning_effort")

/-- `emit_anthropic_effort`. -/
def emitAnthropicEffort (level : ReasoningLevel) (body : Value) : Value :=
  emitNestedEffort "output_config" level body

/-- `budget_tokens_for` (`dialect_emit.rs` 200-210). -/
def budgetTokensFor : ReasoningLevel → Nat
  | .minimal => 1024
  | .low => 2048
  | .medium => 8000
  | .high => 16000
  | .xhigh => 24000
  | .max | .ultra => 32000
  | .none => 1024

/-- The `thinking` of `emit_anthropic_thinking`. -/
def thinkingFor (level : ReasoningLevel) : Value :=
  match level with
  | .none => .ofFields [("type", .string "disabled")]
  | other => .ofFields [("type", .string "enabled"),
      ("budget_tokens", .nat (budgetTokensFor other))]

/-- `emit_anthropic_thinking`. -/
def emitAnthropicThinking (level : ReasoningLevel) (body : Value) : Value :=
  insertField "thinking" (thinkingFor level) body

/-- `strip_reasoning_fields`. -/
def stripReasoningFields (upstreamFormat : UpstreamFormat) (body : Value) : Value :=
  match upstreamFormat with
  | .openAiChatCompletions => body.remove "reasoning_effort"
  | .openAiResponses =>
      (body.remove "reasoning_effort").modify "reasoning" (Value.remove · "effort")
  | .anthropic => (body.modify "output_config" (Value.remove · "effort")).remove "thinking"

/-- `apply_dialect_reasoning_emit` (`dialect_emit.rs` 72-105): the body, and the warning if there is
one. -/
def applyDialectReasoningEmit (upstreamFormat : UpstreamFormat) (dialect : ResolvedDialect)
    (effort : ReasoningLevel) (body : Value) : Value × Option String :=
  let (level, capped) := capToCeiling effort dialect
  let warning := if capped then some (capWarning effort level) else none
  match dialect.block.reasoning with
  | .openAiEffort => (emitOpenaiEffort upstreamFormat level body, warning)
  | .anthropicEffort => (emitAnthropicEffort level body, warning)
  | .anthropicThinking => (emitAnthropicThinking level body, warning)
  | .autoOnly | .none =>
      (stripReasoningFields upstreamFormat body,
        some (s!"reasoning effort `{effort.display}` is not translatable to this upstream's " ++
          s!"dialect mechanism (`{dialect.block.reasoning.asStr}`) and was dropped"))

/-- The third step of the proxy, which comes after the translation. The effort is taken from the
request as the client sent it, and the dialect only counts where it resolves. -/
def emitClientEffort (clientFormat upstreamFormat : UpstreamFormat)
    (dialect : Option UpstreamDialect) (originalBody body : Value) : Value × Option String :=
  match dialect.bind fun dialect => dialect.resolve.toOption with
  | none => (body, none)
  | some dialect =>
      match parseClientReasoningEffort originalBody clientFormat with
      | none => (body, none)
      | some effort => applyDialectReasoningEmit upstreamFormat dialect effort body

/-! ## An effort in an object of its own -/

theorem exists_place {body : Value} (hbody : body.isObject = true) {place : String}
    (hplace : ∀ x, body.get place = some x → x.isObject = true) :
    ∃ x, (entryOrInsert body place (.ofFields [])).get place = some x ∧ x.isObject = true := by
  unfold entryOrInsert
  cases hget : body.get place with
  | none => exact ⟨.ofFields [], by simp [hbody, Value.get_set_self], rfl⟩
  | some x => exact ⟨x, by simp [hget], hplace x hget⟩

theorem get_entryOrInsert_of_ne (body x : Value) {k l : String} (h : l ≠ k) :
    (entryOrInsert body k x).get l = body.get l := by
  unfold entryOrInsert
  split
  · rfl
  · exact Value.get_set_of_ne body x h

theorem getStr_emitNestedEffort {body : Value} (hbody : body.isObject = true) {place : String}
    (hplace : ∀ x, body.get place = some x → x.isObject = true) (level : ReasoningLevel) :
    (objectField (emitNestedEffort place level body) place).bind (Value.getStr · "effort") =
      some level.display := by
  obtain ⟨x, hx, hobject⟩ := exists_place hbody hplace
  have hset := Value.isObject_set hobject "effort" (.string level.display)
  have hget : (emitNestedEffort place level body).get place =
      some (x.set "effort" (.string level.display)) := by
    simp [emitNestedEffort, hbody, Value.get_modify_self, hx, insertField, hobject]
  unfold objectField
  rw [hget, Option.filter_some, if_pos hset]
  simp [Value.getStr, Value.get_set_self hobject]

/-- A place that something else is in stays as it is, and no effort is read from it. -/
theorem getStr_emitNestedEffort_of_taken {body x : Value} {place : String}
    (hx : body.get place = some x) (htaken : x.isObject = false) (level : ReasoningLevel) :
    (objectField (emitNestedEffort place level body) place).bind (Value.getStr · "effort") =
      none := by
  have hget : (emitNestedEffort place level body).get place = some x := by
    unfold emitNestedEffort
    split
    · have hentry : entryOrInsert body place (.ofFields []) = body := by
        simp [entryOrInsert, hx]
      rw [hentry, Value.get_modify_self, hx, Option.map_some, insertField, htaken, if_neg (by simp)]
    · exact hx
  unfold objectField
  rw [hget, Option.filter_some, htaken]
  rfl

/-- The other fields stay. -/
theorem get_emitNestedEffort_of_ne (place : String) (level : ReasoningLevel) (body : Value)
    {k : String} (h : k ≠ place) : (emitNestedEffort place level body).get k = body.get k := by
  unfold emitNestedEffort
  split
  · rw [Value.get_modify_of_ne _ _ h, get_entryOrInsert_of_ne _ _ h]
  · rfl

/-- And so does what the place holds beside the effort. -/
theorem get_get_emitNestedEffort (place : String) (level : ReasoningLevel) (body : Value)
    {k : String} (h : k ≠ "effort") :
    ((emitNestedEffort place level body).get place).bind (Value.get · k) =
      (body.get place).bind (Value.get · k) := by
  unfold emitNestedEffort
  split
  · next hbody =>
    have hinsert : ∀ x : Value,
        (insertField "effort" (.string level.display) x).get k = x.get k := by
      intro x
      unfold insertField
      split
      · exact Value.get_set_of_ne _ _ h
      · rfl
    rw [Value.get_modify_self]
    unfold entryOrInsert
    cases hget : body.get place with
    | none =>
      simp only [Option.isSome_none, hbody, Bool.not_true, Bool.or_self, Bool.false_eq_true,
        if_false, Value.get_set_self hbody, Option.map_some, Option.bind_some, hinsert]
      simp
    | some x => simp [hget, hinsert]
  · rfl

theorem isObject_emitNestedEffort {body : Value} (hbody : body.isObject = true) (place : String)
    (level : ReasoningLevel) : (emitNestedEffort place level body).isObject = true := by
  have hentry : (entryOrInsert body place (.ofFields [])).isObject = true := by
    unfold entryOrInsert
    split
    · exact hbody
    · exact Value.isObject_set hbody _ _
  unfold emitNestedEffort
  rw [if_pos hbody, Value.isObject_modify, hentry]

/-- An effort that is there already is put there once more. -/
theorem emitNestedEffort_twice {body : Value} (hbody : body.isObject = true) (place : String)
    (level : ReasoningLevel) :
    emitNestedEffort place level (emitNestedEffort place level body) =
      emitNestedEffort place level body := by
  have hobject := isObject_emitNestedEffort hbody place level
  -- the place is taken the second time
  have hsome : ((emitNestedEffort place level body).get place).isSome = true := by
    unfold emitNestedEffort entryOrInsert
    rw [if_pos hbody, Value.get_modify_self, Option.isSome_map]
    cases hget : body.get place with
    | none => simp [hbody, Value.get_set_self hbody]
    | some x => simp [hget]
  have hagain : emitNestedEffort place level (emitNestedEffort place level body) =
      (emitNestedEffort place level body).modify place
        (insertField "effort" (.string level.display)) := by
    rw [emitNestedEffort, if_pos hobject, entryOrInsert, if_pos (by simp [hsome])]
  rw [hagain]
  unfold emitNestedEffort
  rw [if_pos hbody, Value.modify_modify]
  congr 1
  funext x
  unfold insertField
  by_cases hx : x.isObject = true
  · simp [hx, Value.isObject_set hx, Value.set_set]
  · simp [hx]

/-! ## The effort is found again -/

theorem capToCeiling_eq (effort : ReasoningLevel) (dialect : ResolvedDialect) :
    capToCeiling effort dialect =
      (min effort dialect.ceilingFor, decide (dialect.ceilingFor < effort)) := by
  unfold capToCeiling
  split
  · next h => simp [min_eq_right (le_of_lt h), h]
  · next h => simp [min_eq_left (le_of_not_gt h), not_lt.mpr (le_of_not_gt h)]

/-- The mechanism puts an effort where a client of the format puts it. -/
def Carries (mechanism : ReasoningMechanism) (format : UpstreamFormat) : Prop :=
  mechanism = .openAiEffort ∧ format ≠ .anthropic ∨
    mechanism = .anthropicEffort ∧ format = .anthropic

/-- Where an effort goes into an object, nothing else is in the place of the object: the emission
makes the object when there is none and fills one that is there (dialect_emit.rs 152-161 and
173-183), but a `null` or a string it leaves where it is. -/
def PlaceFree (body : Value) : UpstreamFormat → Prop
  | .openAiChatCompletions => True
  | .openAiResponses => ∀ x, body.get "reasoning" = some x → x.isObject = true
  | .anthropic => ∀ x, body.get "output_config" = some x → x.isObject = true

/-- The body with a level emitted, or without one where the mechanism has no levels. -/
def emitted (mechanism : ReasoningMechanism) (format : UpstreamFormat) (level : ReasoningLevel)
    (body : Value) : Value :=
  match mechanism with
  | .openAiEffort => emitOpenaiEffort format level body
  | .anthropicEffort => emitAnthropicEffort level body
  | .anthropicThinking => emitAnthropicThinking level body
  | .autoOnly | .none => stripReasoningFields format body

theorem applyDialect_body (format : UpstreamFormat) (dialect : ResolvedDialect)
    (effort : ReasoningLevel) (body : Value) :
    (applyDialectReasoningEmit format dialect effort body).1 =
      emitted dialect.block.reasoning format (min effort dialect.ceilingFor) body := by
  simp only [applyDialectReasoningEmit, capToCeiling_eq]
  cases dialect.block.reasoning <;> rfl

theorem applyDialect_warning (format : UpstreamFormat) (dialect : ResolvedDialect)
    (effort : ReasoningLevel) (body : Value) :
    (applyDialectReasoningEmit format dialect effort body).2 = none ↔
      dialect.block.reasoning.mapsReasoning = true ∧ effort ≤ dialect.ceilingFor := by
  simp only [applyDialectReasoningEmit, capToCeiling_eq]
  cases dialect.block.reasoning <;> simp [ReasoningMechanism.mapsReasoning]

/-- **A level that is emitted is the level that is read.** -/
theorem parse_emitted {mechanism : ReasoningMechanism} {format : UpstreamFormat}
    (hcarries : Carries mechanism format) (level : ReasoningLevel) {body : Value}
    (hbody : body.isObject = true) (hplace : PlaceFree body format) :
    parseClientReasoningEffort (emitted mechanism format level body) format = some level := by
  rcases hcarries with ⟨rfl, hformat⟩ | ⟨rfl, rfl⟩
  · cases format with
    | anthropic => exact absurd rfl hformat
    | openAiChatCompletions =>
      simp [parseClientReasoningEffort, emitted, emitOpenaiEffort, insertField, hbody, Value.getStr,
        Value.get_set_self, Except.toOption]
    | openAiResponses =>
      have hkept : (body.remove "reasoning_effort").isObject = true := by
        rw [Value.isObject_remove, hbody]
      have hplace' : ∀ x, (body.remove "reasoning_effort").get "reasoning" = some x →
          x.isObject = true := by
        intro x hx
        rw [Value.get_remove, if_neg (by decide)] at hx
        exact hplace x hx
      simp only [parseClientReasoningEffort, emitted, emitOpenaiEffort,
        getStr_emitNestedEffort hkept hplace']
      simp [Except.toOption]
  · simp only [parseClientReasoningEffort, emitted, emitAnthropicEffort,
      getStr_emitNestedEffort hbody hplace]
    simp [Except.toOption]

/-- And where something else is in the place, none is read. -/
theorem parse_emitted_of_taken {mechanism : ReasoningMechanism} {format : UpstreamFormat}
    (hcarries : Carries mechanism format) (level : ReasoningLevel) {body : Value}
    (htaken : ¬ PlaceFree body format) :
    parseClientReasoningEffort (emitted mechanism format level body) format = none := by
  rcases hcarries with ⟨rfl, hformat⟩ | ⟨rfl, rfl⟩
  · cases format with
    | anthropic => exact absurd rfl hformat
    | openAiChatCompletions => exact absurd trivial htaken
    | openAiResponses =>
      obtain ⟨x, hx, hobject⟩ : ∃ x, body.get "reasoning" = some x ∧ x.isObject = false := by
        simpa [PlaceFree] using htaken
      have hx' : (body.remove "reasoning_effort").get "reasoning" = some x := by
        rw [Value.get_remove, if_neg (by decide), hx]
      simp only [parseClientReasoningEffort, emitted, emitOpenaiEffort,
        getStr_emitNestedEffort_of_taken hx' hobject]
      rfl
  · obtain ⟨x, hx, hobject⟩ : ∃ x, body.get "output_config" = some x ∧ x.isObject = false := by
      simpa [PlaceFree] using htaken
    simp only [parseClientReasoningEffort, emitted, emitAnthropicEffort,
      getStr_emitNestedEffort_of_taken hx hobject]
    rfl

/-- An effort is not read from an object that has been rid of it. -/
theorem getStr_stripped (body : Value) (place : String) :
    (objectField (body.modify place (Value.remove · "effort")) place).bind
      (Value.getStr · "effort") = none := by
  unfold objectField
  rw [Value.get_modify_self]
  cases body.get place with
  | none => rfl
  | some x =>
    cases hx : (x.remove "effort").isObject <;> simp [hx, Value.getStr, Value.get_remove]

/-- Where the mechanism does not translate it, no effort is read. -/
theorem parse_stripped {mechanism : ReasoningMechanism} (hmaps : mechanism.mapsReasoning = false)
    (format : UpstreamFormat) (level : ReasoningLevel) (body : Value) :
    parseClientReasoningEffort (emitted mechanism format level body) format = none := by
  have hemitted : emitted mechanism format level body = stripReasoningFields format body := by
    cases mechanism <;> first | rfl | cases hmaps
  rw [hemitted]
  cases format with
  | openAiChatCompletions =>
    simp [parseClientReasoningEffort, stripReasoningFields, Value.getStr, Value.get_remove]
  | openAiResponses =>
    simp only [parseClientReasoningEffort, stripReasoningFields, getStr_stripped]
    rfl
  | anthropic =>
    have hthinking : objectField ((body.modify "output_config" (Value.remove · "effort")).remove
        "thinking") "output_config" =
        objectField (body.modify "output_config" (Value.remove · "effort")) "output_config" := by
      unfold objectField
      rw [Value.get_remove, if_neg (by decide)]
    simp only [parseClientReasoningEffort, stripReasoningFields, hthinking, getStr_stripped]
    rfl

/-! ## What stays -/

/-- The members of a request that say something of reasoning. -/
def reasoningMembers : List String := ["reasoning_effort", "reasoning", "output_config", "thinking"]

theorem get_insertField_of_ne (v x : Value) {k l : String} (h : l ≠ k) :
    (insertField k x v).get l = v.get l := by
  unfold insertField
  split
  · exact Value.get_set_of_ne v x h
  · rfl

/-- **Everything else in the request stays.** -/
theorem get_emitted (mechanism : ReasoningMechanism) (format : UpstreamFormat)
    (level : ReasoningLevel) (body : Value) {k : String} (h : k ∉ reasoningMembers) :
    (emitted mechanism format level body).get k = body.get k := by
  simp only [reasoningMembers, List.mem_cons, List.not_mem_nil, or_false, not_or] at h
  obtain ⟨heffort, hreasoning, hconfig, hthinking⟩ := h
  have hstripped : (stripReasoningFields format body).get k = body.get k := by
    cases format <;>
      simp [stripReasoningFields, Value.get_remove, Value.get_modify_of_ne, *]
  cases mechanism with
  | openAiEffort =>
    cases format <;>
      simp [emitted, emitOpenaiEffort, get_insertField_of_ne, get_emitNestedEffort_of_ne,
        Value.get_remove, *]
  | anthropicEffort => simp [emitted, emitAnthropicEffort, get_emitNestedEffort_of_ne, *]
  | anthropicThinking => simp [emitted, emitAnthropicThinking, get_insertField_of_ne, *]
  | autoOnly => exact hstripped
  | none => exact hstripped

/-- What an object holds beside an effort that is taken out of it. -/
theorem get_get_stripped (body : Value) (place : String) {k : String} (h : k ≠ "effort") :
    ((body.modify place (Value.remove · "effort")).get place).bind (Value.get · k) =
      (body.get place).bind (Value.get · k) := by
  rw [Value.get_modify_self]
  cases body.get place with
  | none => rfl
  | some x => simp [Value.get_remove, h]

/-- **What stands beside an effort stays too.** -/
theorem get_get_emitted (mechanism : ReasoningMechanism) (format : UpstreamFormat)
    (level : ReasoningLevel) (body : Value) {place : String}
    (hplace : place ∈ ["reasoning", "output_config"]) {k : String} (h : k ≠ "effort") :
    ((emitted mechanism format level body).get place).bind (Value.get · k) =
      (body.get place).bind (Value.get · k) := by
  have hstripped : ((stripReasoningFields format body).get place).bind (Value.get · k) =
      (body.get place).bind (Value.get · k) := by
    simp only [List.mem_cons, List.not_mem_nil, or_false] at hplace
    rcases hplace with rfl | rfl <;> cases format <;>
      simp [stripReasoningFields, Value.get_remove, Value.get_modify_of_ne, get_get_stripped, h]
  simp only [List.mem_cons, List.not_mem_nil, or_false] at hplace
  cases mechanism with
  | openAiEffort =>
    rcases hplace with rfl | rfl <;> cases format <;>
      simp [emitted, emitOpenaiEffort, get_insertField_of_ne, get_emitNestedEffort_of_ne,
        get_get_emitNestedEffort, Value.get_remove, h]
  | anthropicEffort =>
    rcases hplace with rfl | rfl <;>
      simp [emitted, emitAnthropicEffort, get_emitNestedEffort_of_ne, get_get_emitNestedEffort, h]
  | anthropicThinking =>
    rcases hplace with rfl | rfl <;>
      simp [emitted, emitAnthropicThinking, get_insertField_of_ne]
  | autoOnly => exact hstripped
  | none => exact hstripped

/-- **A level that has been emitted is emitted again** without a change. -/
theorem emitted_twice {mechanism : ReasoningMechanism} {format : UpstreamFormat}
    (hcarries : Carries mechanism format) (level : ReasoningLevel) {body : Value}
    (hbody : body.isObject = true) :
    emitted mechanism format level (emitted mechanism format level body) =
      emitted mechanism format level body := by
  rcases hcarries with ⟨rfl, hformat⟩ | ⟨rfl, rfl⟩
  · cases format with
    | anthropic => exact absurd rfl hformat
    | openAiChatCompletions =>
      simp [emitted, emitOpenaiEffort, insertField, hbody, Value.isObject_set hbody, Value.set_set]
    | openAiResponses =>
      have hkept : (body.remove "reasoning_effort").isObject = true := by
        rw [Value.isObject_remove, hbody]
      have hgone : (emitNestedEffort "reasoning" level (body.remove "reasoning_effort")).get
          "reasoning_effort" = none := by
        rw [get_emitNestedEffort_of_ne _ _ _ (by decide), Value.get_remove, if_pos rfl]
      simp only [emitted, emitOpenaiEffort]
      rw [Value.remove_eq_self hgone, emitNestedEffort_twice hkept]
  · exact emitNestedEffort_twice hbody "output_config" level

/-! ## The effort of the client at the upstream -/

/-- **The effort of a client arrives as far as the dialect lets it.** An upstream whose dialect puts
an effort where a client of its format would, is asked for the effort of the client or the greatest
level it declares, whichever is the lower, exactly when nothing else is in the place; and a proxy
before that upstream changes nothing of it. A dialect with a budget of thinking gives the budget of
that level. A dialect without levels leaves no effort to be read. A warning comes exactly with an
effort that the dialect lowers or has no levels for: not with one that found its place taken, so a
client that sends `"reasoning": null` beside its effort is not told that it has none. Nothing but
the effort is touched. -/
theorem client_effort_arrives_up_to_ceiling (clientFormat upstreamFormat : UpstreamFormat)
    (configured : UpstreamDialect) (dialect : ResolvedDialect)
    (hdialect : configured.resolve = .ok dialect) (effort : ReasoningLevel)
    (originalBody body : Value)
    (heffort : parseClientReasoningEffort originalBody clientFormat = some effort)
    (hbody : body.isObject = true) :
    let level := min effort dialect.ceilingFor
    let sent := emitClientEffort clientFormat upstreamFormat (some configured) originalBody body
    (Carries dialect.block.reasoning upstreamFormat →
      (PlaceFree body upstreamFormat →
        parseClientReasoningEffort sent.1 upstreamFormat = some level) ∧
      (¬ PlaceFree body upstreamFormat →
        parseClientReasoningEffort sent.1 upstreamFormat = none) ∧
      emitClientEffort upstreamFormat upstreamFormat (some configured) sent.1 sent.1 =
        (sent.1, none)) ∧
    (dialect.block.reasoning = .anthropicThinking →
      sent.1.get "thinking" = some (thinkingFor level)) ∧
    (dialect.block.reasoning.mapsReasoning = false →
      parseClientReasoningEffort sent.1 upstreamFormat = none) ∧
    (∀ levels, dialect.block.reasoningLevels = some levels →
      dialect.ceilingFor ∈ levels ∧ ∀ other ∈ levels, other ≤ dialect.ceilingFor) ∧
    (sent.2 = none ↔
      dialect.block.reasoning.mapsReasoning = true ∧ effort ≤ dialect.ceilingFor) ∧
    (∀ k, k ∉ reasoningMembers → sent.1.get k = body.get k) ∧
    (∀ place ∈ ["reasoning", "output_config"], ∀ k, k ≠ "effort" →
      (sent.1.get place).bind (Value.get · k) = (body.get place).bind (Value.get · k)) := by
  intro level sent
  have hresolved : (some configured).bind (fun dialect => dialect.resolve.toOption) =
      some dialect := by
    simp [hdialect, Except.toOption]
  have hsent : sent = applyDialectReasoningEmit upstreamFormat dialect effort body := by
    simp only [sent, emitClientEffort, hresolved, heffort]
  have hemitted : sent.1 = emitted dialect.block.reasoning upstreamFormat level body := by
    rw [hsent, applyDialect_body]
  refine ⟨?_, ?_, ?_, ?_, ?_, ?_, ?_⟩
  · intro hcarries
    rw [hemitted]
    by_cases hplace : PlaceFree body upstreamFormat
    swap
    · have hread := parse_emitted_of_taken hcarries level hplace
      refine ⟨fun hfree => absurd hfree hplace, fun _ => hread, ?_⟩
      simp only [emitClientEffort, hresolved, hread]
    have hread := parse_emitted hcarries level hbody hplace
    refine ⟨fun _ => hread, fun htaken => absurd hplace htaken, ?_⟩
    -- the level is below the ceiling already, so the second emission caps nothing
    have hbelow : level ≤ dialect.ceilingFor := min_le_right _ _
    have hmaps : dialect.block.reasoning.mapsReasoning = true := by
      rcases hcarries with ⟨h, -⟩ | ⟨h, -⟩ <;> rw [h] <;> rfl
    simp only [emitClientEffort, hresolved, hread]
    refine Prod.ext ?_ ?_
    · rw [applyDialect_body, min_eq_left hbelow]
      exact emitted_twice hcarries level hbody
    · exact (applyDialect_warning _ _ _ _).mpr ⟨hmaps, hbelow⟩
  · intro hthinking
    rw [hemitted, hthinking]
    simp [emitted, emitAnthropicThinking, insertField, hbody, Value.get_set_self]
  · intro hmaps
    rw [hemitted]
    exact parse_stripped hmaps _ _ _
  · intro levels hlevels
    exact dialect.ceilingFor_isGreatest hlevels
  · rw [hsent]
    exact applyDialect_warning _ _ _ _
  · intro k hk
    rw [hemitted]
    exact get_emitted _ _ _ _ hk
  · intro place hplace k hk
    rw [hemitted]
    exact get_get_emitted _ _ _ _ hplace hk

/-- A client of the Responses format asks an upstream of the DeepSeek dialect for more than it
has. -/
theorem client_effort_arrives_up_to_ceiling_deepseek :
    let originalBody := Value.ofFields
      [("reasoning", .ofFields [("effort", .string "ultra")]), ("input", .string "Hi")]
    let body := Value.ofFields [("model", .string "deepseek-chat")]
    let sent := emitClientEffort .openAiResponses .openAiChatCompletions
      (some (.preset "deepseek-openai")) originalBody body
    parseClientReasoningEffort sent.1 .openAiChatCompletions = some .max ∧
      emitClientEffort .openAiChatCompletions .openAiChatCompletions
        (some (.preset "deepseek-openai")) sent.1 sent.1 = (sent.1, none) :=
  have harrives := (client_effort_arrives_up_to_ceiling .openAiResponses .openAiChatCompletions
    (.preset "deepseek-openai") ⟨⟨.openAiEffort, some true, some [.low, .high, .max]⟩, rfl⟩ rfl
    .ultra _ _ rfl rfl).1 (.inl ⟨rfl, by decide⟩)
  ⟨harrives.1 trivial, harrives.2.2⟩

end LlmUniversalProxy.Translate
