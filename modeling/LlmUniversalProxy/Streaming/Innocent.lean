import LlmUniversalProxy.Streaming.Stream

/-!
# `Streaming.Innocent` — frames that mention nothing of the proxy's own

The names of the proxy are looked for in many places: in the text of a frame, in its event type, in
the keys of an event and in the names of its tools. A frame that has them nowhere passes all of
these checks. An error event is also sanitised, and `sanitize_eq_self_iff` says when that changes
it: a text that is blank is taken for one that must not be seen.

The checks are `streaming/stream.rs` 218-361 and 515-574.
-/

set_option autoImplicit false

namespace LlmUniversalProxy.Streaming

open Json Lib Translate

/-! ## Values -/

mutual

/-- A text or a key of the value holds the name of an internal artifact, or a reserved tool name,
which begins with one. -/
def mentionsArtifact : Value → Bool
  | .string text => containsInternalArtifactText text
  | .array items => itemsMentionArtifact items
  | .object fields => fieldsMentionArtifact fields
  | _ => false

def itemsMentionArtifact : List Value → Bool
  | [] => false
  | v :: rest => mentionsArtifact v || itemsMentionArtifact rest

def fieldsMentionArtifact : List (String × Value) → Bool
  | [] => false
  | (k, v) :: rest =>
      (containsInternalArtifactText k || mentionsArtifact v) || fieldsMentionArtifact rest

end

mutual

def hasBlankString : Value → Bool
  | .string text => Text.isBlank text
  | .array items => itemsHaveBlankString items
  | .object fields => fieldsHaveBlankString fields
  | _ => false

def itemsHaveBlankString : List Value → Bool
  | [] => false
  | v :: rest => hasBlankString v || itemsHaveBlankString rest

def fieldsHaveBlankString : List (String × Value) → Bool
  | [] => false
  | (_, v) :: rest => hasBlankString v || fieldsHaveBlankString rest

end

theorem itemsMentionArtifact_eq_false {items : List Value} :
    itemsMentionArtifact items = false ↔ ∀ v ∈ items, mentionsArtifact v = false := by
  induction items with
  | nil => simp [itemsMentionArtifact]
  | cons v rest ih => simp [itemsMentionArtifact, ih]

theorem mentionsArtifact_of_lookup {fields : List (String × Value)} {k : String} {v : Value}
    (h : fieldsMentionArtifact fields = false) (hv : fields.lookup k = some v) :
    mentionsArtifact v = false := by
  induction fields with
  | nil => cases hv
  | cons field rest ih =>
    obtain ⟨key, value⟩ := field
    simp only [fieldsMentionArtifact, Bool.or_eq_false_iff] at h
    rw [List.lookup_cons] at hv
    split at hv
    · cases hv
      exact h.1.2
    · exact ih h.2 hv

theorem mentionsArtifact_get {value v : Value} {k : String} (h : mentionsArtifact value = false)
    (hv : value.get k = some v) : mentionsArtifact v = false := by
  cases value with
  | object fields => exact mentionsArtifact_of_lookup h hv
  | _ => cases hv

theorem mentionsArtifact_asArray {value : Value} {items : List Value}
    (h : mentionsArtifact value = false) (hv : value.asArray = some items) :
    ∀ v ∈ items, mentionsArtifact v = false := by
  cases value with
  | array items' =>
    cases hv
    exact itemsMentionArtifact_eq_false.mp h
  | _ => cases hv

theorem mentionsArtifact_getArray {value : Value} {items : List Value} {k : String}
    (h : mentionsArtifact value = false) (hv : value.getArray k = some items) :
    ∀ v ∈ items, mentionsArtifact v = false := by
  obtain ⟨v, hget, hitems⟩ := Option.bind_eq_some_iff.mp hv
  exact mentionsArtifact_asArray (mentionsArtifact_get h hget) hitems

theorem notReserved_of_asStr {value : Value} {name : String} (h : mentionsArtifact value = false)
    (hname : value.asStr = some name) :
    openaiResponsesCustomToolBridgePrefixIsReserved name = false := by
  cases value with
  | string text =>
    cases hname
    rw [Bool.eq_false_iff]
    intro hreserved
    have hmentions : containsInternalArtifactText name = true := by
      rw [containsInternalArtifactText, Bool.or_eq_true]
      exact .inr (Text.contains_of_startsWith hreserved)
    rw [mentionsArtifact, hmentions] at h
    cases h
  | _ => cases hname

/-! ## The checks of names -/

theorem nameNotReserved_of_asStr {value : Value} {name : String}
    (h : mentionsArtifact value = false) (hname : value.asStr = some name) :
    validatePublicToolNameNotReserved name = .ok () :=
  nameNotReserved_ok.mpr (notReserved_of_asStr h hname)

theorem nameNotReserved_getStr {value : Value} {k name : String}
    (h : mentionsArtifact value = false) (hname : value.getStr k = some name) :
    validatePublicToolNameNotReserved name = .ok () := by
  obtain ⟨v, hget, hstr⟩ := Option.bind_eq_some_iff.mp hname
  exact nameNotReserved_of_asStr (mentionsArtifact_get h hget) hstr

theorem identityValue_innocent {value : Option Value}
    (h : ∀ v ∈ value, mentionsArtifact v = false) :
    validatePublicToolIdentityValueNotReserved value = .ok () := by
  refine identityValue_ok.mpr fun name hname => ?_
  obtain ⟨v, hv, hstr⟩ := Option.bind_eq_some_iff.mp hname
  exact notReserved_of_asStr (h v hv) hstr

theorem identityValue_get {value : Value} {k : String} (h : mentionsArtifact value = false) :
    validatePublicToolIdentityValueNotReserved (value.get k) = .ok () :=
  identityValue_innocent fun _ hv => mentionsArtifact_get h hv

theorem selectorField_innocent {fields : List (String × Value)} {path key : String}
    (h : fieldsMentionArtifact fields = false) :
    validateSelectorField fields path key = .ok () := by
  unfold validateSelectorField
  cases hname : (fields.lookup key).bind Value.asStr with
  | none => rfl
  | some name =>
    obtain ⟨v, hv, hstr⟩ := Option.bind_eq_some_iff.mp hname
    simp only [nameNotReserved_of_asStr (mentionsArtifact_of_lookup h hv) hstr]
    rfl

mutual

theorem selectorIdentity_innocent : ∀ {value : Value} {path : String},
    mentionsArtifact value = false → validatePublicSelectorVisibleIdentityAt value path = .ok ()
  | .string name, path, h => by
    rw [validatePublicSelectorVisibleIdentityAt, nameNotReserved_of_asStr h rfl]
    split <;> rfl
  | .array items, path, h => by
    rw [validatePublicSelectorVisibleIdentityAt]
    exact selectorItems_innocent h
  | .object fields, path, h => by
    rw [validatePublicSelectorVisibleIdentityAt, selectorField_innocent h,
      selectorField_innocent h]
    exact selectorFields_innocent h
  | .null, _, _ | .bool _, _, _ | .number _, _, _ => by
    rw [validatePublicSelectorVisibleIdentityAt]
    · rfl
    all_goals nofun

theorem selectorItems_innocent : ∀ {items : List Value} {index : Nat} {path : String},
    itemsMentionArtifact items = false → validateSelectorItems items index path = .ok ()
  | [], _, _, _ => rfl
  | item :: items, index, path, h => by
    rw [itemsMentionArtifact, Bool.or_eq_false_iff] at h
    rw [validateSelectorItems, selectorIdentity_innocent h.1]
    exact selectorItems_innocent h.2

theorem selectorFields_innocent : ∀ {fields : List (String × Value)} {path : String},
    fieldsMentionArtifact fields = false → validateSelectorFields fields path = .ok ()
  | [], _, _ => rfl
  | (key, nested) :: fields, path, h => by
    simp only [fieldsMentionArtifact, Bool.or_eq_false_iff] at h
    rw [validateSelectorFields]
    split
    · rw [selectorIdentity_innocent h.1.2]
      exact selectorFields_innocent h.2
    · exact selectorFields_innocent h.2

end

theorem forM_innocent {α : Type} {check : α → Except String Unit} {items : List α}
    (h : ∀ v ∈ items, check v = .ok ()) : items.forM check = .ok () := by
  induction items with
  | nil => rfl
  | cons v rest ih =>
    rw [List.forM_eq_forM, List.forM_cons, h v List.mem_cons_self]
    exact ih fun w hw => h w (List.mem_cons_of_mem _ hw)

/-- An entry of a list of optional values that is there. -/
theorem mem_reduceOption {α : Type} {items : List (Option α)} {v : α}
    (h : v ∈ items.reduceOption) : some v ∈ items := by
  obtain ⟨entry, hentry, hv⟩ := List.mem_filterMap.mp h
  exact hv ▸ hentry

theorem openaiToolCallName_innocent {toolCall : Value} (h : mentionsArtifact toolCall = false) :
    validateOpenaiStreamToolCallName toolCall = .ok () := by
  unfold validateOpenaiStreamToolCallName validatePublicSelectorVisibleIdentity
  rw [selectorIdentity_innocent h]
  refine forM_innocent fun name hmem => ?_
  have hmem := mem_reduceOption hmem
  simp only [List.mem_cons, List.not_mem_nil, or_false] at hmem
  rcases hmem with hfunction | hcustom | hown
  · obtain ⟨v, hv, hstr⟩ := Option.bind_eq_some_iff.mp hfunction.symm
    exact nameNotReserved_getStr (mentionsArtifact_get h hv) hstr
  · obtain ⟨v, hv, hstr⟩ := Option.bind_eq_some_iff.mp hcustom.symm
    exact nameNotReserved_getStr (mentionsArtifact_get h hv) hstr
  · exact nameNotReserved_getStr h hown.symm

theorem openaiEvent_innocent {event : Value} (h : mentionsArtifact event = false) :
    validateOpenaiStreamEventToolNames event = .ok () := by
  have hitems {value : Value} {k : String} (hvalue : mentionsArtifact value = false) :
      ∀ v ∈ (value.getArray k).getD [], mentionsArtifact v = false := by
    cases hget : value.getArray k with
    | none => exact nofun
    | some items => exact mentionsArtifact_getArray hvalue hget
  refine forM_innocent fun choice hchoice => ?_
  have hclean := hitems h choice hchoice
  refine forM_innocent fun container hcontainer => ?_
  have hcontainer : mentionsArtifact container = false := by
    have hcontainer := mem_reduceOption hcontainer
    simp only [List.mem_cons, List.not_mem_nil, or_false] at hcontainer
    rcases hcontainer with hdelta | hmessage
    · exact mentionsArtifact_get hclean hdelta.symm
    · exact mentionsArtifact_get hclean hmessage.symm
  have hcalls : ((container.getArray "tool_calls").getD []).forM validateOpenaiStreamToolCallName =
      .ok () :=
    forM_innocent fun call hcall => openaiToolCallName_innocent (hitems hcontainer call hcall)
  simp only [hcalls]
  refine forM_innocent fun call hcall => openaiToolCallName_innocent ?_
  exact mentionsArtifact_get hcontainer (Option.mem_toList.mp hcall)

theorem anthropicBlock_innocent {block : Value} (h : mentionsArtifact block = false) :
    validateAnthropicBlockToolName block = .ok () := by
  have hname : (block.getStr "name").toList.forM validatePublicToolNameNotReserved = .ok () :=
    forM_innocent fun _ hname => nameNotReserved_getStr h (Option.mem_toList.mp hname)
  unfold validateAnthropicBlockToolName
  split
  · exact hname
  · exact hname
  · rfl

theorem anthropicContent_innocent {content : Value} (h : mentionsArtifact content = false) :
    validateAnthropicStreamContentToolNames content = .ok () := by
  refine forM_innocent fun block hblock => anthropicBlock_innocent ?_
  cases harray : content.asArray with
  | none =>
    rw [harray] at hblock
    cases hblock
  | some items =>
    rw [harray] at hblock
    exact mentionsArtifact_asArray h harray block hblock

theorem anthropicEvent_innocent {event : Value} (h : mentionsArtifact event = false) :
    validateAnthropicStreamEventToolNames event = .ok () := by
  have hblock : mentionsArtifact ((event.get "content_block").getD .null) = false := by
    cases hget : event.get "content_block" with
    | none => rfl
    | some block => exact mentionsArtifact_get h hget
  have hcontent : (event.get "content").toList.forM validateAnthropicStreamContentToolNames =
      .ok () := forM_innocent fun content hmem =>
    anthropicContent_innocent (mentionsArtifact_get h (Option.mem_toList.mp hmem))
  have hmessage : ((event.get "message").bind (Value.get · "content")).toList.forM
      validateAnthropicStreamContentToolNames = .ok () := forM_innocent fun content hmem => by
    obtain ⟨message, hget, hinner⟩ := Option.bind_eq_some_iff.mp (Option.mem_toList.mp hmem)
    exact anthropicContent_innocent (mentionsArtifact_get (mentionsArtifact_get h hget) hinner)
  unfold validateAnthropicStreamEventToolNames
  rw [anthropicBlock_innocent hblock, hcontent, hmessage]
  rfl

theorem nestedReference_innocent {value : Option Value}
    (h : ∀ v ∈ value, mentionsArtifact v = false) :
    validateResponsesPublicNestedToolReferenceIdentity value = .ok () := by
  cases value with
  | none => rfl
  | some value =>
    have hvalue := h value rfl
    rw [validateResponsesPublicNestedToolReferenceIdentity, identityValue_innocent h,
      identityValue_get hvalue, identityValue_get hvalue]
    rfl

theorem toolReference_innocent {value : Value} (h : mentionsArtifact value = false) :
    validateResponsesPublicToolReferenceIdentity value = .ok () := by
  unfold validateResponsesPublicToolReferenceIdentity validatePublicSelectorVisibleIdentity
  rw [selectorIdentity_innocent h, identityValue_get h, identityValue_get h,
    identityValue_innocent (by simpa using h),
    nestedReference_innocent fun v hv => mentionsArtifact_get h hv,
    nestedReference_innocent fun v hv => mentionsArtifact_get h hv]
  rfl

theorem selectedTools_innocent {choice : Value} (h : mentionsArtifact choice = false) :
    ∀ v ∈ (selectedTools choice).getD [], mentionsArtifact v = false := by
  cases htools : selectedTools choice with
  | none => exact nofun
  | some items =>
    obtain ⟨tools, hsource, harray⟩ := Option.bind_eq_some_iff.mp htools
    refine mentionsArtifact_asArray ?_ harray
    rcases Option.or_eq_some_iff.mp hsource with hallowed | ⟨-, hown⟩
    · obtain ⟨allowed, hfilter, hget⟩ := Option.bind_eq_some_iff.mp hallowed
      exact mentionsArtifact_get
        (mentionsArtifact_get h (Option.filter_eq_some_iff.mp hfilter).1) hget
    · exact mentionsArtifact_get h hown

theorem toolMetadata_innocent {value : Value} (h : mentionsArtifact value = false) :
    validateResponsesPublicToolMetadataIdentity value = .ok () := by
  have htools : ((value.getArray "tools").getD []).forM
      validateResponsesPublicToolReferenceIdentity = .ok () := by
    refine forM_innocent fun tool htool => toolReference_innocent ?_
    cases hget : value.getArray "tools" with
    | none =>
      rw [hget] at htool
      cases htool
    | some items =>
      rw [hget] at htool
      exact mentionsArtifact_getArray h hget tool htool
  unfold validateResponsesPublicToolMetadataIdentity
  rw [htools]
  cases hchoice : (value.get "tool_choice").filter fun choice => !choice.isNull with
  | none => rfl
  | some choice =>
    have hclean := mentionsArtifact_get h (Option.filter_eq_some_iff.mp hchoice).1
    show validateResponsesPublicToolChoiceIdentity choice = .ok ()
    unfold validateResponsesPublicToolChoiceIdentity
    rw [toolReference_innocent hclean]
    exact forM_innocent fun tool htool =>
      toolReference_innocent (selectedTools_innocent hclean tool htool)

theorem callItem_innocent {item : Value} (h : mentionsArtifact item = false) :
    validateResponsesPublicToolCallItemIdentity item = .ok () := by
  unfold validateResponsesPublicToolCallItemIdentity
  rw [identityValue_get h, identityValue_get h]
  split <;> rfl

theorem output_innocent {output : Value} (h : mentionsArtifact output = false) :
    validateResponsesPublicOutputToolIdentity output = .ok () := by
  refine forM_innocent fun item hitem => callItem_innocent ?_
  cases harray : output.asArray with
  | none =>
    rw [harray] at hitem
    cases hitem
  | some items =>
    rw [harray] at hitem
    exact mentionsArtifact_asArray h harray item hitem

theorem responseObject_innocent {response : Value} (h : mentionsArtifact response = false) :
    validateResponsesPublicResponseObjectToolIdentity response = .ok () := by
  unfold validateResponsesPublicResponseObjectToolIdentity
  rw [toolMetadata_innocent h]
  cases hget : response.get "output" with
  | none => rfl
  | some output => exact output_innocent (mentionsArtifact_get h hget)

theorem responsesEvent_innocent {event : Value} (h : mentionsArtifact event = false) :
    validateResponsesStreamEventToolNames event = .ok () := by
  have hidentity : validateResponsesPublicStreamEventToolIdentity event = .ok () := by
    unfold validateResponsesPublicStreamEventToolIdentity
    rw [toolMetadata_innocent h, identityValue_get h, identityValue_get h]
    show (pure () >>= fun _ => _) = _
    rw [pure_bind]
    split <;> rfl
  have hitem : (event.get "item").toList.forM validateResponsesPublicToolCallItemIdentity =
      .ok () := forM_innocent fun item hmem =>
    callItem_innocent (mentionsArtifact_get h (Option.mem_toList.mp hmem))
  have houtput : (event.get "output").toList.forM validateResponsesPublicOutputToolIdentity =
      .ok () := forM_innocent fun output hmem =>
    output_innocent (mentionsArtifact_get h (Option.mem_toList.mp hmem))
  have hresponse : (event.get "response").toList.forM
      validateResponsesPublicResponseObjectToolIdentity = .ok () :=
    forM_innocent fun response hmem =>
      responseObject_innocent (mentionsArtifact_get h (Option.mem_toList.mp hmem))
  unfold validateResponsesStreamEventToolNames
  rw [hidentity, hitem, houtput, hresponse]
  rfl

mutual

theorem contextField_innocent : ∀ {value : Value}, mentionsArtifact value = false →
    containsInternalContextField value = false
  | .object fields, h => by
    rw [containsInternalContextField]
    exact contextFields_innocent h
  | .array items, h => by
    rw [containsInternalContextField]
    exact contextItems_innocent h
  | .null, _ | .bool _, _ | .number _, _ | .string _, _ => by
    rw [containsInternalContextField] <;> nofun

theorem contextItems_innocent : ∀ {items : List Value}, itemsMentionArtifact items = false →
    containsInternalContextItems items = false
  | [], _ => rfl
  | v :: rest, h => by
    rw [itemsMentionArtifact, Bool.or_eq_false_iff] at h
    rw [containsInternalContextItems, contextField_innocent h.1, contextItems_innocent h.2]
    rfl

theorem contextFields_innocent : ∀ {fields : List (String × Value)},
    fieldsMentionArtifact fields = false → containsInternalContextFields fields = false
  | [], _ => rfl
  | (k, v) :: rest, h => by
    simp only [fieldsMentionArtifact, Bool.or_eq_false_iff] at h
    have hkey : k ≠ requestScopedToolBridgeContextField := by
      rintro rfl
      have hself : containsInternalArtifactText requestScopedToolBridgeContextField = true := by
        decide +kernel
      rw [hself] at h
      cases h.1.1
    rw [containsInternalContextFields, contextField_innocent h.1.2, contextFields_innocent h.2]
    simp [hkey]

end

/-- **An event that mentions nothing of the proxy's own passes the checks**, whichever format it
is of. -/
theorem publicEvent_innocent (format : UpstreamFormat) {event : Value}
    (h : mentionsArtifact event = false) :
    validatePublicStreamResponseEventToolNames format event = .ok () := by
  unfold validatePublicStreamResponseEventToolNames
  rw [contextField_innocent h]
  cases format with
  | openAiChatCompletions => exact openaiEvent_innocent h
  | openAiResponses => exact responsesEvent_innocent h
  | anthropic => exact anthropicEvent_innocent h

/-! ## Sanitising -/

mutual

/-- **What sanitising changes** of an event that mentions nothing of the proxy's own: the texts that
are blank. -/
theorem sanitize_eq_self_iff : ∀ {value : Value}, mentionsArtifact value = false →
    (sanitizeInternalArtifactStrings value = value ↔ hasBlankString value = false)
  | .string text, h => by
    rw [mentionsArtifact] at h
    rw [sanitizeInternalArtifactStrings, hasBlankString, sanitizePublicErrorMessage, h,
      Bool.or_false, Value.string.injEq]
    cases hblank : Text.isBlank text with
    | false => simp
    | true =>
      simp only [if_true, Bool.true_eq_false, iff_false]
      intro heq
      rw [← heq] at hblank
      exact absurd hblank (by decide +kernel)
  | .array items, h => by
    rw [sanitizeInternalArtifactStrings, hasBlankString, Value.array.injEq]
    exact sanitizeItems_eq_self_iff h
  | .object fields, h => by
    rw [sanitizeInternalArtifactStrings, hasBlankString, Value.object.injEq]
    exact sanitizeFields_eq_self_iff h
  | .null, _ | .bool _, _ | .number _, _ => by
    simp [sanitizeInternalArtifactStrings, hasBlankString]

theorem sanitizeItems_eq_self_iff : ∀ {items : List Value}, itemsMentionArtifact items = false →
    (sanitizeItems items = items ↔ itemsHaveBlankString items = false)
  | [], _ => by simp [sanitizeItems, itemsHaveBlankString]
  | v :: rest, h => by
    rw [itemsMentionArtifact, Bool.or_eq_false_iff] at h
    rw [sanitizeItems, itemsHaveBlankString, List.cons_eq_cons, sanitize_eq_self_iff h.1,
      sanitizeItems_eq_self_iff h.2, Bool.or_eq_false_iff]

theorem sanitizeFields_eq_self_iff : ∀ {fields : List (String × Value)},
    fieldsMentionArtifact fields = false →
    (sanitizeFields fields = fields ↔ fieldsHaveBlankString fields = false)
  | [], _ => by simp [sanitizeFields, fieldsHaveBlankString]
  | (k, v) :: rest, h => by
    simp only [fieldsMentionArtifact, Bool.or_eq_false_iff] at h
    have hkeep : sanitizeFields ((k, v) :: rest) =
        (k, sanitizeInternalArtifactStrings v) :: sanitizeFields rest := by
      rw [sanitizeFields, h.1.1]
      rfl
    rw [hkeep, fieldsHaveBlankString, List.cons_eq_cons, Prod.mk.injEq,
      sanitize_eq_self_iff h.1.2, sanitizeFields_eq_self_iff h.2, Bool.or_eq_false_iff]
    simp

end

mutual

/-- Sanitising brings nothing of the proxy's own into an event. -/
theorem mentionsArtifact_sanitize : ∀ {value : Value}, mentionsArtifact value = false →
    mentionsArtifact (sanitizeInternalArtifactStrings value) = false
  | .string text, h => by
    rw [sanitizeInternalArtifactStrings, mentionsArtifact, sanitizePublicErrorMessage]
    split
    · decide +kernel
    · exact h
  | .array items, h => by
    rw [sanitizeInternalArtifactStrings, mentionsArtifact]
    exact itemsMentionArtifact_sanitize h
  | .object fields, h => by
    rw [sanitizeInternalArtifactStrings, mentionsArtifact]
    exact fieldsMentionArtifact_sanitize h
  | .null, _ | .bool _, _ | .number _, _ => by
    simp [sanitizeInternalArtifactStrings, mentionsArtifact]

theorem itemsMentionArtifact_sanitize : ∀ {items : List Value},
    itemsMentionArtifact items = false → itemsMentionArtifact (sanitizeItems items) = false
  | [], _ => rfl
  | v :: rest, h => by
    rw [itemsMentionArtifact, Bool.or_eq_false_iff] at h
    rw [sanitizeItems, itemsMentionArtifact, mentionsArtifact_sanitize h.1,
      itemsMentionArtifact_sanitize h.2]
    rfl

theorem fieldsMentionArtifact_sanitize : ∀ {fields : List (String × Value)},
    fieldsMentionArtifact fields = false → fieldsMentionArtifact (sanitizeFields fields) = false
  | [], _ => rfl
  | (k, v) :: rest, h => by
    simp only [fieldsMentionArtifact, Bool.or_eq_false_iff] at h
    rw [sanitizeFields, h.1.1]
    simp only [Bool.false_eq_true, if_false, fieldsMentionArtifact, h.1.1,
      mentionsArtifact_sanitize h.1.2, fieldsMentionArtifact_sanitize h.2, Bool.or_false]

end

theorem mentionsArtifact_publicEvent {event : Value} (h : mentionsArtifact event = false) :
    mentionsArtifact (sanitizePublicStreamErrorEvent event) = false := by
  unfold sanitizePublicStreamErrorEvent
  split
  · exact mentionsArtifact_sanitize h
  · exact h

end LlmUniversalProxy.Streaming
