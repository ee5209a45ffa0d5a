import LlmUniversalProxy.Hooks.BlockReplay

/-!
# `Hooks.MessageReplay` — an Anthropic message, put together again

The events of a message come in four parts: its start, its blocks, what changes about it, and its
end. `Holds` says what the accumulator has in between; every part has one lemma about it.

The usage of the body is the one that came last, and nothing is kept of those before. What is billed
is the usage of the last `message_delta` only, so that of the start is never billed.
-/

set_option autoImplicit false

namespace LlmUniversalProxy.Hooks

open Json Lib Streaming

/-- What an accumulator has of a message, and the usage it has kept for the bill. -/
structure Holds (accumulator : AnthropicAccumulator) (content : List Value) (stopReason : Option String)
    (told kept : Option Value) : Prop where
  object : accumulator.message.isObject = true
  content : accumulator.message.get "content" = some (.array content)
  stopReason : accumulator.message.getStr "stop_reason" = stopReason
  told : accumulator.message.get "usage" = told
  kept : accumulator.usage = kept
  error : accumulator.error = none

/-- The events of a stream, with a body to capture. -/
def replay (serde : Serde) (self : AnthropicAccumulator) (events : List Value) :
    Option AnthropicAccumulator :=
  events.foldlM (fun self event => self.onEvent serde event true) self

theorem run_anthropic (serde : Serde) (events : List Value) : ∀ self : AnthropicAccumulator,
    (ClientSseAccumulator.anthropic self).run serde events true =
      (replay serde self events).map .anthropic := by
  induction events with
  | nil => exact fun _ => rfl
  | cons event events ih =>
    intro self
    unfold ClientSseAccumulator.run replay
    rw [List.foldlM_cons, List.foldlM_cons]
    unfold ClientSseAccumulator.onEvent
    dsimp only
    cases self.onEvent serde event true with
    | none => rfl
    | some after => exact ih after

section

variable {serde : Serde} {self : AnthropicAccumulator} {content : List Value}
  {stopReason : Option String} {told kept : Option Value} {event : Value}

/-- The terminal that an event brings is no part of the message. -/
theorem Holds.onEvent
    (h : ∃ taken, self.take serde event true = some taken ∧
      Holds taken content stopReason told kept) :
    ∃ after, self.onEvent serde event true = some after ∧
      Holds after content stopReason told kept := by
  obtain ⟨taken, htaken, hholds⟩ := h
  refine ⟨_, Option.map_eq_some_iff.mpr ⟨taken, htaken, rfl⟩, ?_⟩
  exact ⟨hholds.object, hholds.content, hholds.stopReason, hholds.told, hholds.kept, hholds.error⟩

/-- A field other than the content. -/
theorem Holds.setMessage {k : String} {x : Value} (h : Holds self content stopReason told kept)
    (hcontent : "content" ≠ k) : ∃ after, self.setMessage true k x = some after ∧
      after.usage = self.usage ∧ after.error = none ∧ after.message.isObject = true ∧
      after.message.get "content" = some (.array content) ∧
      ∀ l, after.message.get l = if l = k then some x else self.message.get l := by
  obtain ⟨message, hmessage⟩ := assign_isSome (k := k) (x := x).mpr (.inl h.object)
  refine ⟨{ self with message }, ?_, rfl, h.error, isObject_of_assign hmessage, ?_, ?_⟩
  · unfold AnthropicAccumulator.setMessage
    rw [if_pos rfl, hmessage]
    rfl
  · rw [get_assign_of_ne hmessage hcontent, h.content]
  · intro l
    by_cases hl : l = k
    · rw [if_pos hl, hl]
      exact get_assign hmessage
    · rw [if_neg hl]
      exact get_assign_of_ne hmessage hl

/-! ## The blocks -/

theorem Holds.changeContent {f : List Value → Option (List Value)} {after : List Value}
    (h : Holds self content stopReason told kept) (hf : f content = some after) :
    ∃ taken, self.changeContent f = some taken ∧ Holds taken after stopReason told kept := by
  have hensured : ensureContentArray self.message = some (self.message, content) := by
    unfold ensureContentArray Value.getArray
    have hnull : self.message.isNull = false := by
      cases hmessage : self.message with
      | object fields => rfl
      | _ => exact absurd (hmessage ▸ h.object) (by simp [Value.isObject])
    rw [hnull]
    simp [h.content]
  refine ⟨{ self with message := self.message.set "content" (.array after) }, ?_,
    Value.isObject_set h.object _ _, Value.get_set_self h.object _ _, ?_, ?_, h.kept, h.error⟩
  · unfold AnthropicAccumulator.changeContent
    rw [hensured]
    simp only [Option.bind_eq_bind, Option.bind_some, hf]
  · rw [Value.getStr_set_of_ne _ _ (by decide), h.stopReason]
  · rw [Value.get_set_of_ne _ _ (by decide), h.told]

/-- An event that can stand among the blocks. -/
def IsAmongBlocks (event : Value) : Prop :=
  isPing event = true ∨ (blockIndexOf event).isSome = true ∧
    (event.getStr "type" = some "content_block_start" ∨
      event.getStr "type" = some "content_block_delta" ∨
      event.getStr "type" = some "content_block_stop")

theorem Holds.block (serde : Serde) {after : List Value} (h : Holds self content stopReason told kept)
    (hamong : IsAmongBlocks event) (hchanged : changedContent content event = some after) :
    ∃ taken, self.onEvent serde event true = some taken ∧
      Holds taken after stopReason told kept := by
  refine Holds.onEvent ?_
  unfold changedContent toldIndex at hchanged
  rcases hamong with hping | ⟨hindex, htype⟩
  · rw [if_pos hping] at hchanged
    cases hchanged
    refine ⟨self, ?_, h⟩
    unfold AnthropicAccumulator.take
    rw [of_decide_eq_true hping]
    rfl
  -- start, delta or stop of a block; the accumulator and the content make the same change
  · obtain ⟨index, hindex⟩ := Option.isSome_iff_exists.mp hindex
    have hping : isPing event = false := by
      unfold isPing
      rcases htype with htype | htype | htype <;> simp [htype]
    rw [hping, if_neg Bool.false_ne_true, hindex] at hchanged
    dsimp only at hchanged
    unfold AnthropicAccumulator.take
    rcases htype with htype | htype | htype
    · rw [htype]
      simp only [if_true]
      unfold AnthropicAccumulator.contentBlockStart
      unfold bringsContent changedBlock at hchanged
      rw [htype] at hchanged
      rw [show event.getU64 "index" = some index from hindex]
      cases hblock : event.get "content_block" with
      | none =>
        rw [hblock] at hchanged
        cases hchanged
        exact ⟨self, rfl, h⟩
      | some block =>
        rw [hblock] at hchanged
        exact h.changeContent hchanged
    · rw [htype]
      simp only [if_true]
      unfold AnthropicAccumulator.contentBlockDelta
      unfold bringsContent changedBlock at hchanged
      rw [htype] at hchanged
      rw [show event.getU64 "index" = some index from hindex]
      cases hdelta : event.get "delta" with
      | none =>
        rw [hdelta] at hchanged
        cases hchanged
        exact ⟨self, rfl, h⟩
      | some delta =>
        rw [hdelta] at hchanged
        refine h.changeContent ?_
        dsimp only
        rw [getElem?_grownTo]
        obtain ⟨block, hblock, rfl⟩ := Option.map_eq_some_iff.mp hchanged
        have hblock : blockWithDelta ((content[index]?).getD (.ofFields [])) delta = some block :=
          hblock
        simp only [Option.bind_eq_bind, Option.bind_some, hblock]
    · rw [htype]
      unfold bringsContent at hchanged
      rw [htype] at hchanged
      cases hchanged
      exact ⟨self, rfl, h⟩

end

theorem Holds.blocks {serde : Serde} {stopReason : Option String} {told kept : Option Value}
    {after : List Value} (events : List Value) : ∀ {self : AnthropicAccumulator}
    {content : List Value}, Holds self content stopReason told kept →
      (∀ event ∈ events, IsAmongBlocks event) →
      events.foldlM changedContent content = some after →
      ∃ taken, replay serde self events = some taken ∧ Holds taken after stopReason told kept := by
  induction events with
  | nil =>
    intro self content h _ hafter
    cases hafter
    exact ⟨self, rfl, h⟩
  | cons event events ih =>
    intro self content h hamong hafter
    rw [List.foldlM_cons, Option.bind_eq_bind, Option.bind_eq_some_iff] at hafter
    obtain ⟨first, hfirst, hrest⟩ := hafter
    obtain ⟨next, hnext, hholds⟩ := h.block serde (hamong event List.mem_cons_self) hfirst
    obtain ⟨taken, htaken, hdone⟩ :=
      ih hholds (fun other hother => hamong other (List.mem_cons_of_mem _ hother)) hrest
    refine ⟨taken, ?_, hdone⟩
    unfold replay
    rw [List.foldlM_cons, hnext]
    exact htaken

/-! ## What changes about the message -/

/-- An event that can stand among those that change the message. -/
def IsAmongDeltas (event : Value) : Prop :=
  isPing event = true ∨ event.getStr "type" = some "message_delta"

section

variable {serde : Serde} {self : AnthropicAccumulator} {content : List Value}
  {stopReason : Option String} {told kept : Option Value} {event : Value}

theorem Holds.takeStopReason (event : Value) (h : Holds self content stopReason told kept) :
    ∃ taken, self.takeStopReason event true = some taken ∧ Holds taken content
      (((event.get "delta").bind (Value.getStr · "stop_reason")).or stopReason) told kept := by
  unfold AnthropicAccumulator.takeStopReason
  cases (event.get "delta").bind (Value.getStr · "stop_reason") with
  | none => exact ⟨self, rfl, h⟩
  | some reason =>
    have hnoted : Holds { self with lastStopReason := some reason } content stopReason told kept :=
      ⟨h.object, h.content, h.stopReason, h.told, h.kept, h.error⟩
    obtain ⟨after, hafter, husage, herror, hobject, hcontent, hget⟩ :=
      hnoted.setMessage (k := "stop_reason") (x := .string reason) (by decide)
    refine ⟨after, hafter, hobject, hcontent, ?_, ?_, husage.trans h.kept, herror⟩
    · unfold Value.getStr
      rw [hget, if_pos rfl]
      rfl
    · rw [hget, if_neg (by decide)]
      exact h.told

theorem Holds.takeUsage (event : Value) (h : Holds self content stopReason told kept) :
    ∃ taken, self.takeUsage event true = some taken ∧ Holds taken content stopReason
      ((event.get "usage").or told) ((event.get "usage").or kept) := by
  unfold AnthropicAccumulator.takeUsage
  cases event.get "usage" with
  | none => exact ⟨self, rfl, h⟩
  | some usage =>
    obtain ⟨after, hafter, _, herror, hobject, hcontent, hget⟩ :=
      h.setMessage (k := "usage") (x := usage) (by decide)
    refine ⟨{ after with usage := some usage }, ?_, hobject, hcontent, ?_, ?_, rfl, herror⟩
    · dsimp only
      rw [hafter]
      rfl
    · show after.message.getStr "stop_reason" = stopReason
      unfold Value.getStr
      rw [hget, if_neg (by decide)]
      exact h.stopReason
    · show after.message.get "usage" = some usage
      rw [hget, if_pos rfl]

theorem Holds.delta (serde : Serde) (h : Holds self content stopReason told kept) (hamong : IsAmongDeltas event) :
    ∃ taken, self.onEvent serde event true = some taken ∧ Holds taken content
      ((deltaStopReason event).or stopReason) ((deltaUsage event).or told)
      ((deltaUsage event).or kept) := by
  refine Holds.onEvent ?_
  unfold AnthropicAccumulator.take deltaStopReason deltaUsage
  rcases hamong with hping | htype
  · rw [of_decide_eq_true hping]
    exact ⟨self, rfl, h⟩
  · rw [htype, if_pos rfl, if_pos rfl]
    obtain ⟨stopped, hstopped, hholds⟩ := h.takeStopReason event
    obtain ⟨taken, htaken, hdone⟩ := hholds.takeUsage event
    refine ⟨taken, ?_, hdone⟩
    show self.messageDelta event true = some taken
    unfold AnthropicAccumulator.messageDelta
    rw [hstopped]
    exact htaken

end

theorem Holds.deltas (serde : Serde) {content : List Value} (events : List Value) :
    ∀ {self : AnthropicAccumulator} {stopReason : Option String} {told kept : Option Value},
      Holds self content stopReason told kept → (∀ event ∈ events, IsAmongDeltas event) →
      ∃ taken, replay serde self events = some taken ∧ Holds taken content
        ((events.filterMap deltaStopReason).getLast?.or stopReason)
        ((lastDeltaUsage events).or told) ((lastDeltaUsage events).or kept) := by
  induction events with
  | nil => exact fun h _ => ⟨_, rfl, h⟩
  | cons event events ih =>
    intro self stopReason told kept h hamong
    obtain ⟨next, hnext, hholds⟩ := h.delta serde (hamong event List.mem_cons_self)
    obtain ⟨taken, htaken, hdone⟩ :=
      ih hholds fun other hother => hamong other (List.mem_cons_of_mem _ hother)
    refine ⟨taken, ?_, ?_⟩
    · unfold replay
      rw [List.foldlM_cons, hnext]
      exact htaken
    · unfold lastDeltaUsage
      rw [getLast?_filterMap_cons, getLast?_filterMap_cons, getLast?_filterMap_cons]
      exact hdone

/-! ## The whole message -/

theorem Holds.started (serde : Serde) {start message : Value}
    (htype : start.getStr "type" = some "message_start") (hget : start.get "message" = some message)
    (hobject : message.isObject = true) :
    ∃ taken, ({} : AnthropicAccumulator).onEvent serde start true = some taken ∧
      Holds taken [] (message.getStr "stop_reason") (message.get "usage") none := by
  refine Holds.onEvent ?_
  obtain ⟨emptied, hemptied⟩ := assign_isSome (k := "content") (x := .array []).mpr (.inl hobject)
  refine ⟨{ message := emptied }, ?_, isObject_of_assign hemptied, get_assign hemptied, ?_, ?_, rfl,
    rfl⟩
  · unfold AnthropicAccumulator.take
    rw [htype]
    simp only [if_true]
    unfold AnthropicAccumulator.messageStart
    rw [hget]
    dsimp only
    rw [hemptied]
    rfl
  · show emptied.getStr "stop_reason" = _
    unfold Value.getStr
    rw [get_assign_of_ne hemptied (by decide)]
  · exact get_assign_of_ne hemptied (by decide)

theorem Holds.stopped (serde : Serde) {self : AnthropicAccumulator} {content : List Value}
    {stopReason : Option String} {told kept : Option Value} {stop : Value}
    (h : Holds self content stopReason told kept)
    (htype : stop.getStr "type" = some "message_stop") :
    ∃ taken, self.onEvent serde stop true = some taken ∧
      Holds taken (content.map (finishedBlock serde)) stopReason told kept := by
  refine Holds.onEvent ?_
  let finished := self.message.set "content" (.array (content.map (finishedBlock serde)))
  refine ⟨{ self with message := finished }, ?_, Value.isObject_set h.object _ _,
    Value.get_set_self h.object _ _, ?_, ?_, h.kept, h.error⟩
  · unfold AnthropicAccumulator.take
    rw [htype]
    simp only [if_true]
    unfold AnthropicAccumulator.messageStop Value.getArray
    rw [h.content]
    rfl
  · show finished.getStr "stop_reason" = _
    rw [Value.getStr_set_of_ne _ _ (by decide), h.stopReason]
  · show finished.get "usage" = _
    rw [Value.get_set_of_ne _ _ (by decide), h.told]

theorem replay_append (serde : Serde) (self : AnthropicAccumulator) (before after : List Value) :
    replay serde self (before ++ after) =
      (replay serde self before).bind fun self => replay serde self after :=
  List.foldlM_append

theorem isAmongBlocks_of_tells {serde : Serde} {blocks events : List Value}
    (h : TellsBlocks serde blocks events) : ∀ event ∈ events, IsAmongBlocks event := by
  intro event hevent
  by_cases hping : isPing event = true
  · exact .inl hping
  · obtain ⟨index, hlt, hindex⟩ := (h.indexed event hevent).resolve_left hping
    have htold : toldIndex event = some index := by
      unfold toldIndex
      rw [if_neg hping, hindex]
    refine .inr ⟨by rw [hindex]; rfl, ?_⟩
    obtain ⟨start, started, deltaEvents, deltas, stop, hevents, hstart, hdeltas, hstop, _⟩ :=
      h.each index _ (List.getElem?_eq_getElem hlt)
    have hmem : event ∈ start :: (deltaEvents ++ [stop]) :=
      hevents ▸ List.mem_filter.mpr ⟨hevent, decide_eq_true htold⟩
    rcases List.mem_cons.mp hmem with rfl | hmem
    · exact .inl hstart.1.1
    · rcases List.mem_append.mp hmem with hmem | hmem
      · exact .inr (.inl (type_of_deltas hdeltas event hmem))
      · exact .inr (.inr (List.mem_singleton.mp hmem ▸ hstop.1))

/-- **What the accumulator has in the end.** -/
theorem replay_tells {serde : Serde} {message start started stop : Value}
    {blocks blockEvents messageDeltas : List Value}
    (h : TellsMessage serde message blocks start started blockEvents messageDeltas stop) :
    ∃ accumulator content,
      replay serde {} (start :: (blockEvents ++ (messageDeltas ++ [stop]))) = some accumulator ∧
      blockEvents.foldlM changedContent [] = some content ∧
      Holds accumulator (content.map (finishedBlock serde)) (message.getStr "stop_reason")
        ((lastDeltaUsage messageDeltas).or (started.get "usage"))
        (lastDeltaUsage messageDeltas) := by
  obtain ⟨content, hcontent, _⟩ := content_iff h.told
  obtain ⟨first, hfirst, hstarted⟩ := Holds.started serde h.startType h.holds h.object
  obtain ⟨second, hsecond, hblocks⟩ :=
    Holds.blocks blockEvents hstarted (isAmongBlocks_of_tells h.told) hcontent
  obtain ⟨third, hthird, hdeltas⟩ := hblocks.deltas serde messageDeltas h.deltas
  obtain ⟨last, hlast, hstopped⟩ := hdeltas.stopped serde h.stopType
  refine ⟨last, content, ?_, hcontent, ?_⟩
  · have hcons : replay serde {} (start :: (blockEvents ++ (messageDeltas ++ [stop]))) =
        replay serde first (blockEvents ++ (messageDeltas ++ [stop])) := by
      unfold replay
      rw [List.foldlM_cons, hfirst]
      rfl
    rw [hcons, replay_append, hsecond, Option.bind_some, replay_append, hthird, Option.bind_some]
    unfold replay
    rw [List.foldlM_cons, hlast]
    rfl
  · rw [h.stopReason]
    rwa [Option.or_none] at hstopped

end LlmUniversalProxy.Hooks
