import LlmUniversalProxy.Streaming.ResponsesOutput

/-!
# `Streaming.ResponsesItems` — reasoning and messages, from the sink's side and the client's

For each function of the sink that has to do with reasoning or with messages, what it does to the
client and to the state (`ToldSoFar`; openai_sink.rs 294-700). Reasoning is open until the end, and
a message until a tool call comes up. A message that is open has something to say, except while it
is filled: the end of the stream drops an empty message, so one that had been added without a word
would stay open for ever (`Sound.filled` is the invariant that excludes it).
-/

set_option autoImplicit false

namespace LlmUniversalProxy.Streaming

open Json Lib Translate

variable {env : Env} {ids : Nat → String} {p : Phase} {m₀ : ResponsesOutput} {k : Sink}

/-! ## Reasoning -/

theorem ToldSoFar.reasoningIndex (h : ToldSoFar env ids p m₀ k) {index : Nat} {s : StreamState}
    (hplace : responsesReasoningOutputIndex k.state = (index, s)) :
    ToldSoFar env ids p m₀ ⟨s, k.out⟩ ∧ s.responsesReasoningOutputIndex = some index := by
  suffices htold : ToldSoFar env ids p m₀ ⟨(responsesReasoningOutputIndex k.state).2, k.out⟩ ∧
      (responsesReasoningOutputIndex k.state).2.responsesReasoningOutputIndex =
        some (responsesReasoningOutputIndex k.state).1 by rwa [hplace] at htold
  unfold responsesReasoningOutputIndex
  cases hindex : k.state.responsesReasoningOutputIndex with
  | some index => exact ⟨h, hindex⟩
  | none =>
    have hadded : k.state.responsesReasoningAdded = false := by
      by_contra hadded
      have hplaced := (h.sound.reasoning (Bool.not_eq_false _ ▸ hadded)).1
      rw [hindex] at hplaced
      cases hplaced
    refine ⟨h.reserve .reasoning ⟨rfl, rfl, ?_, ?_, ?_⟩ ?_ rfl
      { h.sound with reasoning := ?_ }, rfl⟩
    · intro holder hne
      cases holder with
      | reasoning => exact absurd rfl hne
      | message => rfl
      | past n => rfl
      | call t => rfl
    · intro holder
      cases holder <;> rfl
    · intro holder
      cases holder <;> rfl
    · have hdone := h.sound.reasoningDone
      rw [hadded, Bool.and_false] at hdone
      simp [board, hadded, hdone]
    · intro hcontra
      rw [show k.state.responsesReasoningAdded = true from hcontra] at hadded
      cases hadded

/-- Until the end the reasoning is not done. -/
theorem ToldSoFar.reasoningOpen (h : ToldSoFar env ids p m₀ k) (hopen : p.closing = false) :
    k.state.responsesReasoningDone = false := by
  rw [h.sound.reasoningDone, hopen, Bool.false_and]

theorem ToldSoFar.ensureReasoning (h : ToldSoFar env ids p m₀ k) (hopen : p.closing = false)
    (responseId : String) {index : Nat}
    (hindex : k.state.responsesReasoningOutputIndex = some index) :
    ToldSoFar env ids p m₀ (ensureReasoningItem env responseId index k) ∧
      (ensureReasoningItem env responseId index k).state.responsesReasoningAdded = true ∧
      (ensureReasoningItem env responseId index k).state.responsesReasoningOutputIndex =
        some index := by
  have hdone := h.reasoningOpen hopen
  unfold ensureReasoningItem
  by_cases hadded : k.state.responsesReasoningAdded = true
  · rw [if_pos hadded]
    exact ⟨h, hadded, hindex⟩
  · rw [if_neg hadded]
    generalize k.state.responsesReasoningId.getD s!"rs_{env.uuid k.state.responsesSeq}" = itemId
    refine ⟨?_, rfl, hindex⟩
    have hnew := h.add .reasoning index (.string itemId)
      { k.state with
        responsesReasoningAdded := true
        responsesReasoningId := some itemId
        responsesSeq := k.state.responsesSeq + 1 }
      [("response_id", .string responseId), ("output_index", .nat index),
        ("item", .ofFields [("id", .string itemId), ("type", .string "reasoning"),
          ("summary", .array [])])] hindex
      (by simp [board, hadded, hdone]) ⟨rfl, ?_, ?_, ?_, ?_⟩ rfl
      { h.sound with
        started := Nat.le_succ_of_le h.sound.started
        reasoning := fun _ => ⟨congrArg Option.isSome hindex, rfl⟩
        reasoningDone := by simp [hdone, hopen] }
      ⟨rfl, rfl, by simp⟩
    · have hopen : (board env p.context p.carrier { k.state with
          responsesReasoningAdded := true
          responsesReasoningId := some itemId
          responsesSeq := k.state.responsesSeq + 1 }).opened .reasoning =
          some (.string itemId) := by
        simp [board, hdone]
      exact hnew.speak .reasoning _ _ hindex hopen (by decide) ⟨rfl, rfl⟩
    · intro holder
      cases holder <;> rfl
    · simp [board, hdone]
    · intro holder hne
      cases holder with
      | reasoning => exact absurd rfl hne
      | message => rfl
      | past n => rfl
      | call t => rfl
    · intro holder
      cases holder with
      | reasoning => simp [board, hdone]
      | message => rfl
      | past n => rfl
      | call t => rfl

theorem ToldSoFar.reasoning (h : ToldSoFar env ids p m₀ k) (hopen : p.closing = false)
    (responseId : String) (reasoning : Option String) :
    ToldSoFar env ids p m₀ (reasoningResponses env responseId reasoning k) := by
  unfold reasoningResponses
  split
  · exact h
  · next reasoning _ =>
    have hdone := h.reasoningOpen hopen
    have htext : ToldSoFar env ids p m₀ ⟨{ k.state with
        responsesReasoningText := k.state.responsesReasoningText ++ reasoning }, k.out⟩ := by
      refine h.state ⟨rfl, fun _ => rfl, fun _ => rfl, ?_⟩ rfl { h.sound with }
      intro holder
      cases holder with
      | reasoning => simp [board, hdone]
      | message => rfl
      | past n => rfl
      | call t => rfl
    generalize hplace : responsesReasoningOutputIndex { k.state with
      responsesReasoningText := k.state.responsesReasoningText ++ reasoning } = place
    obtain ⟨index, placed⟩ := place
    obtain ⟨hplaced, hindex⟩ := htext.reasoningIndex hplace
    obtain ⟨hadded, hflag, hindex⟩ := hplaced.ensureReasoning hopen responseId hindex
    simp only
    obtain ⟨id, hid⟩ := Option.isSome_iff_exists.mp (hadded.sound.reasoning hflag).2
    have hitem : (board env p.context p.carrier (ensureReasoningItem env responseId index
        ⟨placed, k.out⟩).state).opened .reasoning = some (.string id) := by
      simp [board, hflag, hadded.reasoningOpen hopen, hid]
    refine hadded.speak .reasoning _ _ hindex hitem (by decide) ⟨rfl, ?_⟩
    rw [hid]
    rfl

/-! ## Messages -/

theorem ToldSoFar.messageIndex (h : ToldSoFar env ids p m₀ k) {index : Nat} {s : StreamState}
    (hplace : responsesMessageOutputIndex k.state = (index, s)) :
    ToldSoFar env ids p m₀ ⟨s, k.out⟩ ∧ s.responsesMessageOutputIndex = some index := by
  suffices htold : ToldSoFar env ids p m₀ ⟨(responsesMessageOutputIndex k.state).2, k.out⟩ ∧
      (responsesMessageOutputIndex k.state).2.responsesMessageOutputIndex =
        some (responsesMessageOutputIndex k.state).1 by rwa [hplace] at htold
  unfold responsesMessageOutputIndex
  cases hindex : k.state.responsesMessageOutputIndex with
  | some index => exact ⟨h, hindex⟩
  | none =>
    have hadded : k.state.outputItemAdded = false := by
      by_contra hadded
      have hplaced := (h.sound.message (Bool.not_eq_false _ ▸ hadded)).1
      rw [hindex] at hplaced
      cases hplaced
    refine ⟨h.reserve .message ⟨rfl, rfl, ?_, ?_, ?_⟩ ?_ rfl
      { h.sound with message := ?_ }, rfl⟩
    · intro holder hne
      cases holder with
      | reasoning => rfl
      | message => exact absurd rfl hne
      | past n => rfl
      | call t => rfl
    · intro holder
      cases holder <;> rfl
    · intro holder
      cases holder <;> rfl
    · simp [board, hadded]
    · intro hcontra
      rw [show k.state.outputItemAdded = true from hcontra] at hadded
      cases hadded

/-- A message may be filled at any time. -/
theorem ToldSoFar.filling (h : ToldSoFar env ids p m₀ k) :
    ToldSoFar env ids { p with filling := true } m₀ k :=
  h.state (q := { p with filling := true }) ⟨rfl, fun _ => rfl, fun _ => rfl, fun _ => rfl⟩ rfl
    { h.sound with filled := fun hcontra => by cases hcontra }

theorem ToldSoFar.ensureMessageItem (h : ToldSoFar env ids p m₀ k) (hfilling : p.filling = true)
    (responseId : String) {index : Nat}
    (hindex : k.state.responsesMessageOutputIndex = some index) :
    ToldSoFar env ids p m₀ (ensureResponsesMessageItemAdded env responseId index k) ∧
      (ensureResponsesMessageItemAdded env responseId index k).state.outputItemAdded = true ∧
      (ensureResponsesMessageItemAdded env responseId index k).state.responsesMessageOutputIndex =
        some index := by
  unfold ensureResponsesMessageItemAdded
  by_cases hadded : k.state.outputItemAdded = true
  · rw [if_pos hadded]
    exact ⟨h, hadded, hindex⟩
  · rw [if_neg hadded]
    generalize k.state.outputItemId.getD _ = itemId
    refine ⟨?_, rfl, hindex⟩
    refine h.add .message index (.string itemId) _ _ hindex
      (by simp [board, hadded]) ⟨rfl, ?_, rfl, ?_, ?_⟩ rfl
      { h.sound with
        started := Nat.le_succ_of_le h.sound.started
        message := fun _ => ⟨congrArg Option.isSome hindex, rfl⟩
        filled := fun hcontra => absurd (hcontra.symm.trans hfilling) (by decide) }
      ⟨rfl, rfl, by simp⟩
    · intro holder
      cases holder <;> rfl
    · intro holder hne
      cases holder with
      | reasoning => rfl
      | message => exact absurd rfl hne
      | past n => rfl
      | call t => rfl
    · intro holder
      cases holder <;> rfl

theorem ToldSoFar.messageOpen (h : ToldSoFar env ids p m₀ k)
    (hadded : k.state.outputItemAdded = true) :
    (board env p.context p.carrier k.state).opened .message =
      some (.string (messageItemId k.state)) := by
  obtain ⟨id, hid⟩ := Option.isSome_iff_exists.mp (h.sound.message hadded).2
  simp [board, hadded, messageItemId, hid]

/-- What the parts of a message are does not show on the board. -/
theorem ToldSoFar.refill (h : ToldSoFar env ids p m₀ k) (hfilling : p.filling = true)
    {parts : List ResponsesMessagePartState} {text refusal : Option Nat} {partAdded : Bool}
    {outputText : String} (htext : ∀ index, text = some index → index < parts.length)
    (hrefusal : ∀ index, refusal = some index → index < parts.length) :
    ToldSoFar env ids p m₀ ⟨{ k.state with
      responsesContentPartAdded := partAdded
      responsesOutputText := outputText
      responsesMessageParts := parts
      responsesTextPartIndex := text
      responsesRefusalPartIndex := refusal }, k.out⟩ := by
  refine h.state ⟨rfl, fun _ => rfl, fun _ => rfl, fun _ => rfl⟩ rfl
    { h.sound with
      parts := ?_
      filled := fun hcontra => absurd (hcontra.symm.trans hfilling) (by decide) }
  intro kind index hexisting
  cases kind with
  | outputText => exact htext index hexisting
  | refusal => exact hrefusal index hexisting

theorem ToldSoFar.ensureMessagePart (h : ToldSoFar env ids p m₀ k) (hfilling : p.filling = true)
    (responseId : String) {index : Nat} (hadded : k.state.outputItemAdded = true)
    (hindex : k.state.responsesMessageOutputIndex = some index) (kind : ResponsesMessagePartKind)
    {contentIndex : Nat} {k' : Sink}
    (hpart : ensureResponsesMessagePart responseId index kind k = (contentIndex, k')) :
    ToldSoFar env ids p m₀ k' ∧ k'.state.outputItemAdded = true ∧
      k'.state.responsesMessageOutputIndex = some index ∧
      contentIndex < k'.state.responsesMessageParts.length := by
  unfold ensureResponsesMessagePart at hpart
  cases hexisting : existingPartIndex k.state kind with
  | some existing =>
    rw [hexisting] at hpart
    cases hpart
    exact ⟨h, hadded, hindex, h.sound.parts kind _ hexisting⟩
  | none =>
    rw [hexisting] at hpart
    cases hpart
    have hlast : ∀ part : ResponsesMessagePartState, k.state.responsesMessageParts.length <
        (k.state.responsesMessageParts ++ [part]).length := by
      intro part
      rw [List.length_append]
      exact Nat.lt_succ_self _
    -- the new part stands last, and the places of the others stay
    have hparts : ∀ kind index, existingPartIndex k.state kind = some index →
        ∀ part, index < (k.state.responsesMessageParts ++ [part]).length := by
      intro kind index hindex part
      exact Nat.lt_trans (h.sound.parts kind index hindex) (hlast part)
    have hnew : ToldSoFar env ids p m₀ (k.update (addPart kind)) := by
      cases kind with
      | outputText =>
        refine h.refill hfilling ?_ (fun index hindex => hparts .refusal index hindex _)
        intro index hindex
        cases hindex
        exact hlast _
      | refusal =>
        refine h.refill hfilling (fun index hindex => hparts .outputText index hindex _) ?_
        intro index hindex
        cases hindex
        exact hlast _
    have hsame : (addPart kind k.state).outputItemAdded = true ∧
        (addPart kind k.state).responsesMessageOutputIndex = some index ∧
        messageItemId (addPart kind k.state) = messageItemId k.state ∧
        (addPart kind k.state).responsesMessageParts =
          k.state.responsesMessageParts ++ [⟨kind, "", []⟩] := by
      cases kind <;> exact ⟨hadded, hindex, rfl, rfl⟩
    refine ⟨hnew.speak .message _ _ hsame.2.1 (hnew.messageOpen hsame.1) (by decide) ⟨rfl, ?_⟩,
      hsame.1, hsame.2.1, ?_⟩
    · simp only [Sink.update_state, hsame.2.2.1]
      rfl
    · show _ < (addPart kind k.state).responsesMessageParts.length
      rw [hsame.2.2.2]
      exact hlast _

/-- A part for a delta, in a message that is open. -/
theorem ToldSoFar.part (h : ToldSoFar env ids p m₀ k) (hfilling : p.filling = true)
    (responseId : String)
    (kind : ResponsesMessagePartKind) {index contentIndex : Nat} {k' : Sink}
    (hpart : ensurePart env responseId kind k = (index, contentIndex, k')) :
    ToldSoFar env ids p m₀ k' ∧ k'.state.outputItemAdded = true ∧
      k'.state.responsesMessageOutputIndex = some index ∧
      contentIndex < k'.state.responsesMessageParts.length := by
  unfold ensurePart at hpart
  generalize hplace : responsesMessageOutputIndex k.state = place at hpart
  obtain ⟨outputIndex, placed⟩ := place
  obtain ⟨hplaced, hindex⟩ := h.messageIndex hplace
  obtain ⟨hitem, hadded, hindex⟩ := hplaced.ensureMessageItem hfilling responseId hindex
  simp only at hpart
  generalize hcontent : ensureResponsesMessagePart responseId outputIndex kind
    (ensureResponsesMessageItemAdded env responseId outputIndex ⟨placed, k.out⟩) = content at hpart
  obtain ⟨contentIndex', k''⟩ := content
  cases hpart
  exact hitem.ensureMessagePart hfilling responseId hadded hindex kind hcontent

/-- A message with a part that says something has something to say. -/
theorem filled_modify {parts : List ResponsesMessagePartState} {index : Nat}
    (hindex : index < parts.length) {f : ResponsesMessagePartState → ResponsesMessagePartState}
    (hf : ∀ part, responsesMessagePartHasMeaningfulContent (f part) = true) :
    (parts.modify index f).any responsesMessagePartHasMeaningfulContent = true := by
  refine List.any_eq_true.mpr ⟨f parts[index], ?_, hf _⟩
  refine List.mem_of_getElem? (i := index) ?_
  rw [List.getElem?_modify_eq, List.getElem?_eq_getElem hindex]
  rfl

theorem ToldSoFar.fill (h : ToldSoFar env ids { p with filling := true } m₀ k) (outputText : String)
    {contentIndex : Nat}
    (hcontent : contentIndex < k.state.responsesMessageParts.length)
    {f : ResponsesMessagePartState → ResponsesMessagePartState}
    (hf : ∀ part, responsesMessagePartHasMeaningfulContent (f part) = true) :
    ToldSoFar env ids p m₀ ⟨{ k.state with
      responsesOutputText := outputText
      responsesMessageParts := k.state.responsesMessageParts.modify contentIndex f }, k.out⟩ := by
  refine h.state (q := p)
    ⟨rfl, fun _ => rfl, fun _ => rfl, fun _ => rfl⟩ rfl
    { h.sound with
      parts := ?_
      filled := fun _ _ => filled_modify hcontent hf }
  intro kind index hexisting
  rw [List.length_modify]
  exact h.sound.parts kind index hexisting

theorem nonempty_append {text more : String} (h : more.isEmpty = false) :
    (text ++ more).isEmpty = false := by
  rw [← Bool.not_eq_true] at h ⊢
  intro hempty
  refine h ?_
  rw [String.isEmpty_iff] at hempty ⊢
  exact (String.append_eq_empty_iff.mp hempty).2

theorem ToldSoFar.messageDelta (h : ToldSoFar env ids p m₀ k) (responseId : String)
    (kind : ResponsesMessagePartKind) (text : Option String) (annotations : List Value) :
    ToldSoFar env ids p m₀ (messageDelta env responseId kind text annotations k) := by
  unfold Streaming.messageDelta
  cases htext : text.filter fun text => !text.isEmpty with
  | none => exact h
  | some text =>
    have hnonempty : text.isEmpty = false := by
      have hkept := (Option.filter_eq_some_iff.mp htext).2
      simpa using hkept
    generalize hpart : ensurePart env responseId kind k = part
    obtain ⟨index, contentIndex, k'⟩ := part
    obtain ⟨hpart, hadded, hindex, hcontent⟩ := h.filling.part rfl responseId kind hpart
    have hfill := hpart.fill (if kind = .outputText then k'.state.responsesOutputText ++ text
        else k'.state.responsesOutputText) hcontent
      (f := fun part => { part with
        text := part.text ++ text, annotations := part.annotations ++ annotations })
      (by simp [responsesMessagePartHasMeaningfulContent, nonempty_append hnonempty])
    have htype : kind.deltaEventType ∈ itemEventTypes := by cases kind <;> decide
    exact hfill.speak .message _ _ hindex (hfill.messageOpen hadded) htype ⟨rfl, rfl⟩

theorem ToldSoFar.annotations (h : ToldSoFar env ids p m₀ k) (responseId : String)
    (annotations : List Value) (hadContentDelta : Bool) :
    ToldSoFar env ids p m₀ (annotationsResponses env responseId annotations hadContentDelta k) := by
  unfold annotationsResponses
  split
  · exact h
  · next hsome =>
    generalize hpart : ensurePart env responseId .outputText k = part
    obtain ⟨index, contentIndex, k'⟩ := part
    obtain ⟨hpart, -, -, hcontent⟩ := h.filling.part rfl responseId .outputText hpart
    have hfill := hpart.fill k'.state.responsesOutputText hcontent
      (f := fun part => { part with annotations := part.annotations ++ annotations })
      (by
        intro part
        have hannotations : annotations ≠ [] := by
          rintro rfl
          exact hsome (by simp)
        simp [responsesMessagePartHasMeaningfulContent, hannotations])
    exact hfill

theorem ToldSoFar.partsDone (responseId : String) {index : Nat} {itemId : String}
    (parts : List ResponsesMessagePartState) :
    ∀ {k : Sink} (contentIndex : Nat), ToldSoFar env ids p m₀ k →
      (board env p.context p.carrier k.state).index .message = some index →
      (board env p.context p.carrier k.state).opened .message = some (.string itemId) →
      ∃ seq, ToldSoFar env ids p m₀ (emitPartsDone responseId index itemId contentIndex parts k) ∧
        (emitPartsDone responseId index itemId contentIndex parts k).state =
          { k.state with responsesSeq := seq } := by
  induction parts with
  | nil =>
    intro k contentIndex h _ _
    exact ⟨k.state.responsesSeq, h, rfl⟩
  | cons part parts ih =>
    intro k contentIndex h hindex hopen
    have htype : part.kind.doneEventType ∈ itemEventTypes := by cases part.kind <;> decide
    have hfirst := h.speak .message part.kind.doneEventType [("response_id", .string responseId),
      ("output_index", .nat index), ("content_index", .nat contentIndex),
      ("item_id", .string itemId), (part.kind.textField, .string part.text)]
      hindex hopen htype ⟨rfl, rfl⟩
    have hsecond := hfirst.speak .message "response.content_part.done"
      [("response_id", .string responseId), ("output_index", .nat index),
        ("content_index", .nat contentIndex), ("item_id", .string itemId),
        ("part", responsesMessagePartValue part)] hindex hopen (by decide) ⟨rfl, rfl⟩
    obtain ⟨seq, hrest, hstate⟩ := ih (contentIndex + 1) hsecond hindex hopen
    exact ⟨seq, hrest, hstate⟩

theorem getElem?_snoc_ne {α : Type} {xs : List α} {x : α} {n : Nat} (h : n ≠ xs.length) :
    (xs ++ [x])[n]? = xs[n]? := by
  rcases Nat.lt_or_gt_of_ne h with hlt | hgt
  · exact List.getElem?_append_left hlt
  · rw [List.getElem?_eq_none (Nat.le_of_lt hgt), List.getElem?_eq_none]
    rw [List.length_append]
    exact hgt

/-- The open message is closed, and its item is one of those that are complete. -/
theorem ToldSoFar.messageDone (h : ToldSoFar env ids p m₀ k) (hfilled : p.filling = false)
    (responseId : String) (phase : Option String) :
    ToldSoFar env ids p m₀ (emitResponsesMessageDone responseId phase k) ∧
      (emitResponsesMessageDone responseId phase k).state.outputItemAdded = false := by
  unfold emitResponsesMessageDone
  by_cases hadded : k.state.outputItemAdded = true
  · have hmeaningful := h.sound.filled hfilled hadded
    obtain ⟨index, hindex⟩ := Option.isSome_iff_exists.mp (h.sound.message hadded).1
    have hplace : responsesMessageOutputIndex k.state = (index, k.state) := by
      unfold responsesMessageOutputIndex
      rw [hindex]
    simp only [hadded, hmeaningful, hplace, Bool.not_true, Bool.or_self, Bool.false_eq_true,
      if_false]
    refine ⟨?_, rfl⟩
    obtain ⟨seq, hparts, hstate⟩ := ToldSoFar.partsDone responseId k.state.responsesMessageParts 0 h
      hindex (h.messageOpen hadded)
    generalize emitPartsDone responseId index (messageItemId k.state) 0
      k.state.responsesMessageParts k = parts at hparts hstate
    obtain ⟨state, out⟩ := parts
    cases hstate
    -- the state for the next message: no item, and no part that is open
    have hreset : Sound ids p { resetResponsesMessageSegment k.state with
        responsesSeq := seq + 1
        responsesCompletedMessageItems := k.state.responsesCompletedMessageItems ++
          [⟨index, messageItem (messageItemId k.state) k.state.responsesMessageParts phase⟩] } := by
      refine { hparts.sound with
        started := Nat.le_succ_of_le hparts.sound.started
        message := fun hcontra => by cases hcontra
        parts := ?_
        filled := fun _ hcontra => by cases hcontra }
      intro kind index hexisting
      cases kind <;> cases hexisting
    -- the open message becomes the last of those that are complete
    refine hparts.finish .message (.past k.state.responsesCompletedMessageItems.length)
      (messageItem (messageItemId k.state) k.state.responsesMessageParts phase)
      { resetResponsesMessageSegment k.state with
        responsesSeq := seq + 1
        responsesCompletedMessageItems := k.state.responsesCompletedMessageItems ++
          [⟨index, messageItem (messageItemId k.state) k.state.responsesMessageParts phase⟩] }
      hindex (h.messageOpen hadded) ⟨rfl, ?_, ⟨?_, rfl, ?_⟩, ?_⟩ rfl hreset
      ⟨rfl, rfl, by simp [messageItem]⟩
    · intro _
      exact ⟨rfl, by simp [board]⟩
    · simp [board]
    · simp [board]
    · intro holder hmessage hpast
      cases holder with
      | reasoning => exact ⟨rfl, rfl, rfl⟩
      | message => exact absurd rfl hmessage
      | past n =>
        have hne : n ≠ k.state.responsesCompletedMessageItems.length := by
          rintro rfl
          exact hpast rfl
        simp [board, getElem?_snoc_ne hne]
      | call t => exact ⟨rfl, rfl, rfl⟩
  · have hclosed : k.state.outputItemAdded = false := Bool.not_eq_true _ ▸ hadded
    simp only [hclosed, Bool.not_false, Bool.true_or, if_true]
    exact ⟨h, trivial⟩

end LlmUniversalProxy.Streaming
