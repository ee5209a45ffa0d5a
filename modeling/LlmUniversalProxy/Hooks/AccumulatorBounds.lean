import LlmUniversalProxy.Hooks.Accumulators
import LlmUniversalProxy.Lib.Monitor
import Mathlib.Data.List.Induction

/-!
# `Hooks.AccumulatorBounds` — when an accumulator can take an event

An accumulator writes into values that came from the upstream. It can go on as long as these have
the shape it expects: a message that is an object and has a list under `content`, blocks that are
objects, and an index that is not far behind the blocks there are. Where it can not, it panics, or
it fills up the content with empty blocks.

The source is `hooks.rs` 2033-2193. The index is a number of the event, so it is the upstream that
says how far the content is filled up. `EventFits` is what an event must be to be taken, given the
message and the events about blocks so far.
-/

set_option autoImplicit false

namespace LlmUniversalProxy.Hooks

open Json Lib

def isContentBlockEvent (event : Value) : Bool :=
  match event.getStr "type" with
  | some "content_block_start" | some "content_block_delta" | some "content_block_stop" => true
  | _ => false

/-- The events about blocks among the events. -/
def contentBlockEvents (events : List Value) : Nat := events.countP isContentBlockEvent

/-- What `IndexMut` can write into. -/
def IsSlot (v : Value) : Prop := v.isObject = true ∨ v.isNull = true

def contentOf (message : Value) : List Value := (message.getArray "content").getD []

/-- A message that blocks can be put into: one with a list of them, or none at all yet. -/
def HasContent (message : Value) : Prop :=
  message.isNull = true ∨ (message.getArray "content").isSome = true

def writesBlock (delta : Value) : Bool :=
  match delta.getStr "type" with
  | some "text_delta" | some "thinking_delta" | some "input_json_delta" => true
  | _ => false

/-- An event that an Anthropic accumulator can take behind so many events about blocks. -/
def EventFits (self : AnthropicAccumulator) (seen : Nat) (event : Value) : Prop :=
  match event.getStr "type" with
  | some "message_start" => ∀ message, event.get "message" = some message → IsSlot message
  | some "content_block_start" => ∀ index block, event.getU64 "index" = some index →
      event.get "content_block" = some block → HasContent self.message ∧ index ≤ seen
  | some "content_block_delta" => ∀ index delta, event.getU64 "index" = some index →
      event.get "delta" = some delta → HasContent self.message ∧ index ≤ seen ∧
        (writesBlock delta = true →
          ∀ block, (contentOf self.message)[index]? = some block → IsSlot block)
  | _ => True

/-! ## Writing -/

theorem assign_isSome {v : Value} {k : String} {x : Value} :
    (∃ w, assign v k x = some w) ↔ IsSlot v := by
  unfold assign IsSlot
  rw [← Bool.or_eq_true]
  cases v.isObject || v.isNull with
  | true => simp
  | false => simp

theorem isObject_of_assign {v w : Value} {k : String} {x : Value} (h : assign v k x = some w) :
    w.isObject = true := by
  unfold assign at h
  cases v with
  | object fields => cases h; rfl
  | null => cases h; rfl
  | _ => cases h

theorem get_assign {v w : Value} {k : String} {x : Value} (h : assign v k x = some w) :
    w.get k = some x := by
  unfold assign at h
  cases v with
  | object fields =>
    cases h
    exact Value.get_set_self rfl k x
  | null =>
    cases h
    exact List.lookup_cons_self
  | _ => cases h

theorem get_assign_of_ne {v w : Value} {k l : String} {x : Value} (h : assign v k x = some w)
    (hne : l ≠ k) : w.get l = v.get l := by
  unfold assign at h
  split at h
  · cases h
    exact Value.get_set_of_ne v x hne
  · cases h

/-- A delta fails only where it writes into something that is no block. -/
theorem blockWithDelta_isSome {block delta : Value} :
    (∃ after, blockWithDelta block delta = some after) ↔
      (writesBlock delta = true → IsSlot block) := by
  have htwice : ∀ (k l : String) (x y : Value),
      (∃ after, ((assign block k x).bind fun grown => assign grown l y) = some after) ↔
        IsSlot block := by
    intro k l x y
    rw [← assign_isSome (k := k) (x := x)]
    constructor
    · rintro ⟨after, hafter⟩
      obtain ⟨grown, hgrown, _⟩ := Option.bind_eq_some_iff.mp hafter
      exact ⟨grown, hgrown⟩
    · rintro ⟨grown, hgrown⟩
      obtain ⟨after, hafter⟩ := assign_isSome (k := l) (x := y).mpr
        (.inl (isObject_of_assign hgrown))
      exact ⟨after, Option.bind_eq_some_iff.mpr ⟨grown, hgrown, hafter⟩⟩
  unfold blockWithDelta
  split
  · next htype =>
    have hwrites : writesBlock delta = true := by unfold writesBlock; rw [htype]; rfl
    simpa [hwrites] using htwice _ _ _ _
  · next htype =>
    have hwrites : writesBlock delta = true := by unfold writesBlock; rw [htype]; rfl
    simpa [hwrites] using htwice _ _ _ _
  · next htype =>
    have hwrites : writesBlock delta = true := by unfold writesBlock; rw [htype]; rfl
    simpa [hwrites, appendText] using assign_isSome
  · next htext hthinking hinput =>
    have hwrites : writesBlock delta = false := by
      unfold writesBlock
      split
      · next htype => exact absurd htype htext
      · next htype => exact absurd htype hthinking
      · next htype => exact absurd htype hinput
      · rfl
    simp [hwrites]

theorem length_grownTo (index : Nat) (content : List Value) :
    (grownTo index content).length = max content.length (index + 1) := by
  unfold grownTo
  rw [List.length_append, List.length_replicate]
  omega

/-- What is behind the old content are empty blocks. -/
theorem getElem?_grownTo (index : Nat) (content : List Value) :
    (grownTo index content)[index]? = some ((content[index]?).getD (.ofFields [])) := by
  unfold grownTo
  by_cases hlt : index < content.length
  · rw [List.getElem?_append_left hlt, List.getElem?_eq_getElem hlt]
    rfl
  · have hnone : content[index]? = none := List.getElem?_eq_none (by omega)
    rw [List.getElem?_append_right (by omega), List.getElem?_replicate, hnone]
    exact if_pos (by omega)

/-- Where there is a message for blocks, it is the message with the blocks it has. -/
theorem ensureContentArray_some {message : Value} (h : HasContent message) :
    ∃ ensured, ensureContentArray message = some (ensured, contentOf message) ∧
      ensured.isObject = true := by
  unfold ensureContentArray contentOf
  rcases h with hnull | hcontent
  · cases message with
    | null => exact ⟨placeholderMessage, by simp only [Value.isNull, if_true]; rfl, rfl⟩
    | _ => cases hnull
  · obtain ⟨content, hcontent⟩ := Option.isSome_iff_exists.mp hcontent
    have hobject : message.isObject = true := by
      obtain ⟨value, hget, _⟩ := Option.bind_eq_some_iff.mp hcontent
      exact Value.isObject_of_get hget
    have hnull : message.isNull = false := by
      cases message with
      | object fields => rfl
      | _ => cases hobject
    refine ⟨message, ?_, hobject⟩
    simp [hnull, hcontent]

theorem ensureContentArray_none {message : Value} (h : ¬ HasContent message) :
    ensureContentArray message = none := by
  unfold HasContent at h
  rw [not_or, Bool.not_eq_true, Bool.not_eq_true, Option.isSome_eq_false_iff,
    Option.isNone_iff_eq_none] at h
  unfold ensureContentArray
  simp [h.1, h.2]

theorem contentOf_set {message : Value} (h : message.isObject = true) (content : List Value) :
    contentOf (message.set "content" (.array content)) = content := by
  unfold contentOf Value.getArray
  rw [Value.get_set_self h]
  rfl

/-- A change of the content fails where there is no message for it, or where the change fails. -/
theorem changeContent_iff {self after : AnthropicAccumulator} {f : List Value → Option (List Value)} :
    self.changeContent f = some after ↔ ∃ ensured content, HasContent self.message ∧
      ensureContentArray self.message = some (ensured, contentOf self.message) ∧
      ensured.isObject = true ∧ f (contentOf self.message) = some content ∧
      after = { self with message := ensured.set "content" (.array content) } := by
  unfold AnthropicAccumulator.changeContent
  by_cases hcontent : HasContent self.message
  · obtain ⟨ensured, hensured, hobject⟩ := ensureContentArray_some hcontent
    rw [hensured]
    simp only [Option.bind_eq_bind, Option.bind_some, Option.bind_eq_some_iff, Option.some.injEq]
    constructor
    · rintro ⟨content, hf, hafter⟩
      exact ⟨ensured, content, hcontent, rfl, hobject, hf, hafter.symm⟩
    · rintro ⟨ensured', content, _, heq, _, hf, hafter⟩
      cases heq
      exact ⟨content, hf, hafter.symm⟩
  · rw [ensureContentArray_none hcontent]
    constructor
    · intro h
      cases h
    · rintro ⟨_, _, hcontent', _⟩
      exact absurd hcontent' hcontent

/-! ## One event -/

/-- A message that can be written into, with no more blocks than there were events about blocks. -/
structure Bounded (accumulator : AnthropicAccumulator) (seen : Nat) : Prop where
  slot : IsSlot accumulator.message
  blocks : (contentOf accumulator.message).length ≤ seen

theorem Bounded.mono {self : AnthropicAccumulator} {seen more : Nat} (h : Bounded self seen)
    (hle : seen ≤ more) : Bounded self more := ⟨h.slot, Nat.le_trans h.blocks hle⟩

theorem contentOf_assign {message after : Value} {k : String} {x : Value}
    (h : assign message k x = some after) (hne : "content" ≠ k) :
    contentOf after = contentOf message := by
  unfold contentOf Value.getArray
  rw [get_assign_of_ne h hne]

/-- A field of the message other than its content. -/
theorem Bounded.setMessage {self : AnthropicAccumulator} {seen : Nat} (h : Bounded self seen)
    {k : String} (x : Value) (hne : "content" ≠ k) :
    ∃ after, self.setMessage true k x = some after ∧ Bounded after seen := by
  obtain ⟨message, hmessage⟩ := assign_isSome.mpr h.slot
  refine ⟨{ self with message }, ?_, .inl (isObject_of_assign hmessage), ?_⟩
  · unfold AnthropicAccumulator.setMessage
    rw [if_pos rfl, hmessage]
    rfl
  · show (contentOf message).length ≤ seen
    rw [contentOf_assign hmessage hne]
    exact h.blocks

theorem changeContent_bounded {self : AnthropicAccumulator} {seen index : Nat}
    {f : List Value → Option (List Value)} (h : Bounded self seen)
    (hlength : ∀ content after, f content = some after →
      after.length = max content.length (index + 1)) :
    (∃ after, self.changeContent f = some after ∧ Bounded after (seen + 1)) ↔
      HasContent self.message ∧ index ≤ seen ∧ ∃ content, f (contentOf self.message) = some content := by
  have hblocks := h.blocks
  constructor
  · rintro ⟨after, hafter, hbounded⟩
    obtain ⟨ensured, content, hcontent, _, hobject, hf, rfl⟩ := changeContent_iff.mp hafter
    have hle := hbounded.blocks
    rw [contentOf_set hobject, hlength _ _ hf] at hle
    exact ⟨hcontent, by omega, content, hf⟩
  · rintro ⟨hcontent, hindex, content, hf⟩
    obtain ⟨ensured, hensured, hobject⟩ := ensureContentArray_some hcontent
    refine ⟨_, changeContent_iff.mpr ⟨ensured, content, hcontent, hensured, hobject, hf, rfl⟩, ?_, ?_⟩
    · exact .inl (Value.isObject_set hobject _ _)
    · rw [contentOf_set hobject, hlength _ _ hf]
      omega

theorem delta_isSome {delta : Value} {index : Nat} {content : List Value} :
    (∃ after, (do
      let block ← (grownTo index content)[index]?
      let block ← blockWithDelta block delta
      some ((grownTo index content).set index block)) = some after) ↔
      (writesBlock delta = true → ∀ block, content[index]? = some block → IsSlot block) := by
  rw [getElem?_grownTo]
  have hblock : (writesBlock delta = true →
      IsSlot ((content[index]?).getD (.ofFields []))) ↔
      (writesBlock delta = true → ∀ block, content[index]? = some block → IsSlot block) := by
    cases content[index]? with
    | none => simp [IsSlot]
    | some block => simp
  rw [← hblock, ← blockWithDelta_isSome]
  simp only [Option.bind_eq_bind, Option.bind_some]
  cases blockWithDelta ((content[index]?).getD (.ofFields [])) delta with
  | none => simp
  | some after => simp

theorem messageDelta_bounded {self : AnthropicAccumulator} {seen : Nat} (h : Bounded self seen)
    (event : Value) : ∃ after, self.messageDelta event true = some after ∧ Bounded after seen := by
  have hstop : ∃ after, self.takeStopReason event true = some after ∧ Bounded after seen := by
    unfold AnthropicAccumulator.takeStopReason
    cases (event.get "delta").bind (Value.getStr · "stop_reason") with
    | none => exact ⟨self, rfl, h⟩
    | some stopReason =>
      have hreason : Bounded { self with lastStopReason := some stopReason } seen :=
        ⟨h.slot, h.blocks⟩
      exact hreason.setMessage (.string stopReason) (by decide)
  obtain ⟨stopped, hstopped, hbounded⟩ := hstop
  unfold AnthropicAccumulator.messageDelta
  rw [hstopped, Option.bind_some]
  unfold AnthropicAccumulator.takeUsage
  cases event.get "usage" with
  | none => exact ⟨stopped, rfl, hbounded⟩
  | some usage =>
    obtain ⟨after, hafter, hbounded'⟩ := hbounded.setMessage usage (k := "usage") (by decide)
    refine ⟨{ after with usage := some usage }, ?_, hbounded'.slot, hbounded'.blocks⟩
    dsimp only
    rw [hafter]
    rfl

theorem messageStop_bounded {self : AnthropicAccumulator} {seen : Nat} (h : Bounded self seen)
    (serde : Serde) : Bounded (self.messageStop serde) seen := by
  unfold AnthropicAccumulator.messageStop
  cases hcontent : self.message.getArray "content" with
  | none => exact h
  | some content =>
    have hobject : self.message.isObject = true := by
      obtain ⟨value, hget, _⟩ := Option.bind_eq_some_iff.mp hcontent
      exact Value.isObject_of_get hget
    have hblocks := h.blocks
    unfold contentOf at hblocks
    rw [hcontent] at hblocks
    refine ⟨.inl (Value.isObject_set hobject _ _), ?_⟩
    rw [contentOf_set hobject, List.length_map]
    exact hblocks

theorem messageStart_bounded {self : AnthropicAccumulator} {seen : Nat} (h : Bounded self seen)
    (event : Value) :
    (∃ after, self.messageStart event = some after ∧ Bounded after seen) ↔
      ∀ message, event.get "message" = some message → IsSlot message := by
  unfold AnthropicAccumulator.messageStart
  cases event.get "message" with
  | none => simpa using h
  | some message =>
    simp only [Option.some.injEq, forall_eq']
    rw [← assign_isSome (k := "content") (x := .array [])]
    constructor
    · rintro ⟨after, hafter, _⟩
      obtain ⟨started, hstarted, _⟩ := Option.map_eq_some_iff.mp hafter
      exact ⟨started, hstarted⟩
    · rintro ⟨started, hstarted⟩
      refine ⟨{ self with message := started }, ?_, .inl (isObject_of_assign hstarted), ?_⟩
      · rw [hstarted]
        rfl
      · show (contentOf started).length ≤ seen
        unfold contentOf Value.getArray
        rw [get_assign hstarted]
        exact Nat.zero_le _

theorem contentBlockStart_bounded {self : AnthropicAccumulator} {seen : Nat}
    (h : Bounded self seen) (event : Value) :
    (∃ after, self.contentBlockStart event = some after ∧ Bounded after (seen + 1)) ↔
      ∀ index block, event.getU64 "index" = some index →
        event.get "content_block" = some block → HasContent self.message ∧ index ≤ seen := by
  unfold AnthropicAccumulator.contentBlockStart
  cases event.getU64 "index" with
  | none => simpa using h.mono (Nat.le_succ seen)
  | some index =>
    cases event.get "content_block" with
    | none => simpa using h.mono (Nat.le_succ seen)
    | some block =>
      dsimp only
      rw [@changeContent_bounded self seen index _ h]
      · simp
      · intro content after hafter
        rw [← Option.some.inj hafter, List.length_set, length_grownTo]

theorem contentBlockDelta_bounded {self : AnthropicAccumulator} {seen : Nat}
    (h : Bounded self seen) (event : Value) :
    (∃ after, self.contentBlockDelta event = some after ∧ Bounded after (seen + 1)) ↔
      ∀ index delta, event.getU64 "index" = some index → event.get "delta" = some delta →
        HasContent self.message ∧ index ≤ seen ∧ (writesBlock delta = true →
          ∀ block, (contentOf self.message)[index]? = some block → IsSlot block) := by
  unfold AnthropicAccumulator.contentBlockDelta
  cases event.getU64 "index" with
  | none => simpa using h.mono (Nat.le_succ seen)
  | some index =>
    cases event.get "delta" with
    | none => simpa using h.mono (Nat.le_succ seen)
    | some delta =>
      dsimp only
      rw [@changeContent_bounded self seen index _ h, delta_isSome]
      · simp
      · intro content after hafter
        obtain ⟨block, _, hblock⟩ := Option.bind_eq_some_iff.mp hafter
        obtain ⟨changed, _, hchanged⟩ := Option.bind_eq_some_iff.mp hblock
        rw [← Option.some.inj hchanged, List.length_set, length_grownTo]

/-- An event is taken without a panic, and within the bound, just when it fits. -/
theorem take_iff {self : AnthropicAccumulator} {seen : Nat} (h : Bounded self seen) (serde : Serde)
    (event : Value) :
    (∃ after, self.take serde event true = some after ∧
      Bounded after (seen + if isContentBlockEvent event then 1 else 0)) ↔
        EventFits self seen event := by
  unfold AnthropicAccumulator.take
  split
  · next htype =>
    have hfits : EventFits self seen event := by unfold EventFits; rw [htype]; trivial
    exact iff_of_true ⟨_, rfl, h.slot, Nat.le_trans h.blocks (Nat.le_add_right _ _)⟩ hfits
  · next htype =>
    have hkind : isContentBlockEvent event = false := by unfold isContentBlockEvent; rw [htype]; rfl
    rw [hkind, if_pos rfl]
    unfold EventFits
    rw [htype]
    exact messageStart_bounded h event
  · next htype =>
    have hkind : isContentBlockEvent event = true := by unfold isContentBlockEvent; rw [htype]; rfl
    rw [hkind, if_pos rfl, if_pos rfl]
    unfold EventFits
    rw [htype]
    exact contentBlockStart_bounded h event
  · next htype =>
    have hkind : isContentBlockEvent event = true := by unfold isContentBlockEvent; rw [htype]; rfl
    rw [hkind, if_pos rfl, if_pos rfl]
    unfold EventFits
    rw [htype]
    exact contentBlockDelta_bounded h event
  · next htype =>
    have hfits : EventFits self seen event := by unfold EventFits; rw [htype]; trivial
    obtain ⟨after, hafter, hbounded⟩ := messageDelta_bounded h event
    exact iff_of_true ⟨after, hafter, hbounded.mono (Nat.le_add_right _ _)⟩ hfits
  · next htype =>
    have hfits : EventFits self seen event := by unfold EventFits; rw [htype]; trivial
    exact iff_of_true ⟨_, rfl, (messageStop_bounded h serde).mono (Nat.le_add_right _ _)⟩ hfits
  · next _ hstart hblock hdelta _ _ =>
    have hfits : EventFits self seen event := by
      unfold EventFits
      split
      · next htype => exact absurd htype hstart
      · next htype => exact absurd htype hblock
      · next htype => exact absurd htype hdelta
      · trivial
    exact iff_of_true ⟨self, rfl, h.mono (Nat.le_add_right _ _)⟩ hfits

/-- A message that could be written into still can. -/
theorem slot_of_take {self after : AnthropicAccumulator} {serde : Serde} {event : Value}
    (hslot : IsSlot self.message) (h : self.take serde event true = some after) :
    IsSlot after.message := by
  have hbounded : Bounded self (contentOf self.message).length := ⟨hslot, Nat.le_refl _⟩
  unfold AnthropicAccumulator.take at h
  split at h
  · cases h
    exact hslot
  · rw [if_pos rfl] at h
    unfold AnthropicAccumulator.messageStart at h
    split at h
    · cases h
      exact hslot
    · obtain ⟨started, hstarted, rfl⟩ := Option.map_eq_some_iff.mp h
      exact .inl (isObject_of_assign hstarted)
  · rw [if_pos rfl] at h
    unfold AnthropicAccumulator.contentBlockStart at h
    split at h
    · obtain ⟨ensured, content, _, _, hobject, _, rfl⟩ := changeContent_iff.mp h
      exact .inl (Value.isObject_set hobject _ _)
    · cases h
      exact hslot
  · rw [if_pos rfl] at h
    unfold AnthropicAccumulator.contentBlockDelta at h
    split at h
    · obtain ⟨ensured, content, _, _, hobject, _, rfl⟩ := changeContent_iff.mp h
      exact .inl (Value.isObject_set hobject _ _)
    · cases h
      exact hslot
  · obtain ⟨after', hafter', hbounded'⟩ := messageDelta_bounded hbounded event
    rw [hafter'] at h
    cases h
    exact hbounded'.slot
  · cases h
    exact (messageStop_bounded hbounded serde).slot
  · cases h
    exact hslot

/-! ## All events -/

/-- The blocks that have been put together so far. -/
def capturedBlocks : ClientSseAccumulator → List Value
  | .anthropic accumulator => contentOf accumulator.message
  | _ => []

/-- The events are taken without a panic, and leave no more blocks than there were events about
blocks. The body is then read off without a further failure. -/
def TakenInBounds (serde : Serde) (format : UpstreamFormat) (events : List Value) : Prop :=
  ∃ accumulator, (ClientSseAccumulator.new format).run serde events true = some accumulator ∧
    (capturedBlocks accumulator).length ≤ contentBlockEvents events

theorem run_snoc (serde : Serde) (self : ClientSseAccumulator) (events : List Value) (event : Value)
    (captureExchange : Bool) : self.run serde (events ++ [event]) captureExchange =
      (self.run serde events captureExchange).bind
        fun self => self.onEvent serde event captureExchange :=
  Monitor.foldlM_snoc self events event

theorem slot_of_run {serde : Serde} {format : UpstreamFormat} (events : List Value) :
    ∀ {self : AnthropicAccumulator},
      (ClientSseAccumulator.new format).run serde events true = some (.anthropic self) →
      IsSlot self.message := by
  induction events using List.reverseRecOn with
  | nil =>
    intro self h
    cases format with
    | anthropic =>
      cases h
      exact .inr rfl
    | _ => cases h
  | append_singleton events event ih =>
    intro self h
    rw [run_snoc] at h
    obtain ⟨before, hbefore, h⟩ := Option.bind_eq_some_iff.mp h
    cases before with
    | anthropic accumulator =>
      obtain ⟨after, hafter, heq⟩ := Option.map_eq_some_iff.mp h
      cases heq
      obtain ⟨taken, htaken, rfl⟩ := Option.map_eq_some_iff.mp hafter
      have hslot : IsSlot taken.message := slot_of_take (ih hbefore) htaken
      exact hslot
    | _ => cases h

/-- One more event is taken within the bound just when it fits. -/
theorem onEvent_iff {self : ClientSseAccumulator} {seen : Nat} (serde : Serde) (event : Value)
    (hslot : ∀ accumulator, self = .anthropic accumulator → IsSlot accumulator.message)
    (hblocks : (capturedBlocks self).length ≤ seen) :
    (∃ after, self.onEvent serde event true = some after ∧
      (capturedBlocks after).length ≤ seen + if isContentBlockEvent event then 1 else 0) ↔
        ∀ accumulator, self = .anthropic accumulator → EventFits accumulator seen event := by
  cases self with
  | openAiChatCompletions accumulator =>
    exact iff_of_true ⟨_, rfl, Nat.zero_le _⟩ fun _ h => nomatch h
  | responses accumulator => exact iff_of_true ⟨_, rfl, Nat.zero_le _⟩ fun _ h => nomatch h
  | anthropic accumulator =>
    have hslot := hslot accumulator rfl
    rw [show (∀ other, ClientSseAccumulator.anthropic accumulator = .anthropic other →
      EventFits other seen event) ↔ EventFits accumulator seen event by simp,
      ← take_iff ⟨hslot, hblocks⟩ serde event]
    constructor
    · rintro ⟨after, hafter, hle⟩
      obtain ⟨reported, hreported, rfl⟩ := Option.map_eq_some_iff.mp hafter
      obtain ⟨taken, htaken, rfl⟩ := Option.map_eq_some_iff.mp hreported
      exact ⟨taken, htaken, slot_of_take hslot htaken, hle⟩
    · rintro ⟨taken, htaken, hbounded⟩
      refine ⟨.anthropic { taken with protocolTerminal :=
        (anthropicProtocolTerminal event taken.lastStopReason).or taken.protocolTerminal }, ?_,
        hbounded.blocks⟩
      unfold ClientSseAccumulator.onEvent AnthropicAccumulator.onEvent
      dsimp only
      rw [htaken]
      rfl

/-- The events of a stream are taken without a panic and within the bound, all the way, just when
each of them fits what the ones before it have left. -/
theorem taken_in_bounds_iff (serde : Serde) (format : UpstreamFormat) (events : List Value) :
    (∀ before, before <+: events → TakenInBounds serde format before) ↔
      ∀ before event, before ++ [event] <+: events → ∀ self,
        (ClientSseAccumulator.new format).run serde before true = some (.anthropic self) →
          EventFits self (contentBlockEvents before) event := by
  -- from the back: a stream is taken when its events but the last are, and the last one fits
  induction events using List.reverseRecOn with
  | nil =>
    refine iff_of_true ?_ ?_
    · intro before hbefore
      rw [List.prefix_nil.mp hbefore]
      refine ⟨ClientSseAccumulator.new format, rfl, ?_⟩
      cases format <;> exact Nat.zero_le _
    · intro before event hbefore
      exact absurd (List.prefix_nil.mp hbefore) (by simp)
  | append_singleton events last ih =>
    have hlast : TakenInBounds serde format events →
        (TakenInBounds serde format (events ++ [last]) ↔ ∀ self,
          (ClientSseAccumulator.new format).run serde events true = some (.anthropic self) →
            EventFits self (contentBlockEvents events) last) := by
      rintro ⟨accumulator, hrun, hblocks⟩
      have hslot : ∀ self, accumulator = .anthropic self → IsSlot self.message := by
        rintro self rfl
        exact slot_of_run events hrun
      have hcount : contentBlockEvents (events ++ [last]) =
          contentBlockEvents events + if isContentBlockEvent last then 1 else 0 := by
        unfold contentBlockEvents
        rw [List.countP_append, List.countP_singleton]
      unfold TakenInBounds
      rw [hcount, run_snoc, hrun, Option.bind_some, onEvent_iff serde last hslot hblocks]
      simp only [Option.some.injEq]
    constructor
    · intro h before event hbefore self hself
      have hprefix := ih.mp fun other hother => h other (hother.trans (List.prefix_append _ _))
      rcases List.prefix_concat_iff.mp hbefore with heq | hbefore
      · obtain ⟨rfl, hevent⟩ := List.append_inj' heq rfl
        cases hevent
        exact (hlast (h before (List.prefix_append _ _))).mp (h _ (List.prefix_refl _)) self hself
      · exact hprefix before event hbefore self hself
    · intro h before hbefore
      have hevents := ih.mpr fun other event hother =>
        h other event (hother.trans (List.prefix_append _ _))
      rcases List.prefix_concat_iff.mp hbefore with rfl | hbefore
      · exact (hlast (hevents events (List.prefix_refl _))).mpr
          (h events last (List.prefix_refl _))
      · exact hevents before hbefore

/-- A stop reason before any message was started: the next block has no place to go. -/
theorem block_without_message_panics :
    ¬ ∀ (serde : Serde) (format : UpstreamFormat) (events : List Value),
      TakenInBounds serde format events := by
  intro h
  obtain ⟨accumulator, hrun, _⟩ := h ⟨some, fun _ => ""⟩ .anthropic
    [.ofFields [("type", .string "message_delta"),
        ("delta", .ofFields [("stop_reason", .string "end_turn")])],
      .ofFields [("type", .string "content_block_start"), ("index", .nat 0),
        ("content_block", .ofFields [("type", .string "text"), ("text", .string "")])]]
  revert hrun
  have hpanic : (ClientSseAccumulator.new .anthropic).run ⟨some, fun _ => ""⟩
    [.ofFields [("type", .string "message_delta"),
        ("delta", .ofFields [("stop_reason", .string "end_turn")])],
      .ofFields [("type", .string "content_block_start"), ("index", .nat 0),
        ("content_block", .ofFields [("type", .string "text"), ("text", .string "")])]] true =
      none := by decide +kernel
  rw [hpanic]
  exact nofun

end LlmUniversalProxy.Hooks
