import LlmUniversalProxy.Streaming.PollNext
import LlmUniversalProxy.Streaming.TerminalEvents

/-!
# `Streaming.TerminalOnce` — a response ends once

What a Responses client receives is the work of a stream that meets upstream events, frames that
must not be seen and limits, in any order, and yields what it has queued in between. Whatever comes
through the Chat chunks ends the response at most once: every way there asks the flag. The way past
them, which errors of an Anthropic upstream and the stream's own limits take, does not ask, so a
response may end twice; it does not when the error, or the limit, comes in time.

The two ways meet in `translate_sse_event` (`streaming/stream.rs` 420-495);
`translateSseStream_delivers` says that the runs here are those of the stream.
-/

set_option autoImplicit false

namespace LlmUniversalProxy.Streaming

open Json Lib

/-! ## The sources leave the flag alone -/

section Sources

variable (env : Env)

@[simp] theorem ensureRole_sent (k : Source) :
    (k.ensureRole env).state.responsesTerminalSent = k.state.responsesTerminalSent := by
  unfold Source.ensureRole emitOpenaiAssistantRoleIfNeeded
  split <;> rfl

@[simp] theorem rejectOpenaiStream_sent (s : StreamState) (errorType code message : String) :
    (rejectOpenaiStream env s errorType code message).2.responsesTerminalSent =
      s.responsesTerminalSent := rfl

@[simp] theorem closeCustomToolCall_sent (idx : Nat) (id : ToolCallState → Value)
    (fullInput : ToolCallState → String) (k : Source) :
    (closeCustomToolCall env idx id fullInput k).state.responsesTerminalSent =
      k.state.responsesTerminalSent := by
  unfold closeCustomToolCall
  split
  · rfl
  · split <;> rfl

theorem closeFinalCustomCalls_sent (items : List Value) : ∀ k : Source,
    (items.foldl (closeFinalCustomCall env) k).state.responsesTerminalSent =
      k.state.responsesTerminalSent := by
  induction items with
  | nil => exact fun _ => rfl
  | cons item items ih =>
    refine fun k => (ih _).trans ?_
    unfold closeFinalCustomCall
    split
    · rfl
    · split <;> simp

@[simp] theorem captureResponse_sent (event : Value) (s : StreamState) :
    (captureResponse event s).responsesTerminalSent = s.responsesTerminalSent := by
  unfold captureResponse
  split
  · rfl
  · simp only
    split <;> rfl

theorem responseEnded_sent (ty : String) (event : Value) (s : StreamState) :
    (responseEnded env ty event s).state.responsesTerminalSent = s.responsesTerminalSent := by
  have hclosed : ((responsesTerminalCustomToolBridgeChunk env event s).update
      (captureResponse event)).state.responsesTerminalSent = s.responsesTerminalSent :=
    (captureResponse_sent event _).trans (closeFinalCustomCalls_sent env _ _)
  unfold responseEnded
  simp only
  split
  · exact hclosed
  · exact hclosed

theorem pushText_sent (field : String) (text : Option String) (s : StreamState) :
    (pushText env field text s).state.responsesTerminalSent = s.responsesTerminalSent := by
  unfold pushText
  split <;> rfl

theorem toolCallAdded_sent (event item : Value) (isCustom : Bool) (s : StreamState) :
    (toolCallAdded env event item isCustom s).state.responsesTerminalSent =
      s.responsesTerminalSent := by
  unfold toolCallAdded
  split <;> rfl

theorem toolCallDelta_sent (event : Value) (isCustom : Bool) (s : StreamState) :
    (toolCallDeltaEvent env event isCustom s).state.responsesTerminalSent =
      s.responsesTerminalSent := by
  unfold toolCallDeltaEvent
  split <;> rfl

/-- **A Responses event of the upstream does not end the client's response by itself.** -/
theorem responsesEvent_sent (event : Value) (s : StreamState) :
    (responsesEventToOpenaiChunks env event s).state.responsesTerminalSent =
      s.responsesTerminalSent := by
  simp only [responsesEventToOpenaiChunks]
  split
  · rfl
  · split
    · exact ensureRole_sent env _
    · exact pushText_sent env _ _ s
    · exact pushText_sent env _ _ _
    · exact pushText_sent env _ _ _
    · exact pushText_sent env _ _ s
    · unfold outputItemAddedEvent
      simp only
      split
      · exact toolCallAdded_sent env _ _ _ s
      · exact toolCallAdded_sent env _ _ _ s
      · rfl
    · exact toolCallDelta_sent env _ _ s
    · exact toolCallDelta_sent env _ _ s
    · exact closeCustomToolCall_sent env _ _ _ _
    · exact responseEnded_sent env _ event s
    · exact responseEnded_sent env _ event s
    · exact responseEnded_sent env _ event s
    · rfl

end Sources

/-! ## Events of the translation -/

/-- One answer behind another. -/
theorem EndsProperly.append {s s₁ s₂ : StreamState} {frames more : List SseFrame}
    (h : EndsProperly s (frames, s₁)) (h' : EndsProperly s₁ (more, s₂)) :
    EndsProperly s (frames ++ more, s₂) where
  silent := fun hs => by
    obtain ⟨hframes, hs₁⟩ := h.silent hs
    obtain ⟨hmore, hs₂⟩ := h'.silent hs₁
    exact ⟨by simp_all, hs₂⟩
  once := by
    by_cases hended : ∃ f ∈ frames, f.isTerminal = true
    · have hmore : more = [] := (h'.silent (h.sent hended)).1
      simpa [hmore] using h.once
    · have hquiet : ∀ f ∈ frames, f.isTerminal = false := by simpa using hended
      exact EndsOnce.append hquiet h'.once
  sent := by
    rintro ⟨f, hf, hterminal⟩
    cases List.mem_append.mp hf with
    | inl hf => exact (h'.silent (h.sent ⟨f, hf, hterminal⟩)).2
    | inr hf => exact h'.sent ⟨f, hf, hterminal⟩

/-- A change of the state before the answer that leaves the flag alone. -/
theorem EndsProperly.of_sent {s s' : StreamState} {output : List SseFrame × StreamState}
    (hs : s'.responsesTerminalSent = s.responsesTerminalSent) (h : EndsProperly s' output) :
    EndsProperly s output :=
  ⟨fun hsent => h.silent (hs.trans hsent), h.once, h.sent⟩

theorem chunks_endProperly (env : Env) (chunks : List Value) : ∀ s : StreamState,
    EndsProperly s (openaiChunksToClientSse env .openAiResponses chunks s) := by
  induction chunks with
  | nil => exact fun _ => .nothing rfl
  | cons chunk chunks ih => exact fun s => (chunk_endsProperly env chunk s).append (ih _)

theorem rejectedName_endsProperly (env : Env) (s : StreamState) (message : String) :
    EndsProperly s (rejectPublicStreamToolName env .openAiResponses s message) :=
  .of_sent (rejectOpenaiStream_sent env s "invalid_request_error"
    "reserved_openai_custom_bridge_prefix" message) (chunks_endProperly env _ _)

theorem done_endsProperly (env : Env) (s : StreamState) :
    EndsProperly s (responsesDone env s) := by
  unfold responsesDone
  split
  · exact .nothing rfl
  · next hopen =>
    exact .of_sink (by simpa using hopen) rfl
      (.inr (((continues_flushToolCalls _ _ _ _).endsKeeping (endsKeeping_terminal _ _ _ _)).ends))

theorem upstreamChunks_sent (env : Env) (upstreamFormat clientFormat : UpstreamFormat)
    (event : Value) (s : StreamState) :
    (upstreamChunks env upstreamFormat clientFormat event s).2.responsesTerminalSent =
      s.responsesTerminalSent := by
  by_cases hformat : upstreamFormat = .openAiResponses
  · subst hformat
    exact responsesEvent_sent env event s
  · exact congrArg ResponseEnding.terminalSent (upstreamChunks_ending env hformat clientFormat event s)

theorem validateOpenaiChunks_sent (env : Env) (chunks : List Value) (s : StreamState) :
    (validateOpenaiChunks env chunks s).2.responsesTerminalSent = s.responsesTerminalSent :=
  congrArg ResponseEnding.terminalSent (validatedChunks_ending env chunks s)

theorem convert_endsProperly (env : Env) (upstreamFormat : UpstreamFormat) (event : Value)
    (s : StreamState) :
    EndsProperly s (convertSseEvent env upstreamFormat .openAiResponses event s) := by
  simp only [convertSseEvent]
  split
  · exact rejectedName_endsProperly env s _
  · exact .of_sent ((validateOpenaiChunks_sent _ _ _).trans (upstreamChunks_sent _ _ _ _ _))
      (chunks_endProperly env _ _)

/-- An error that comes in time ends the response. -/
theorem error_endsProperly (env : Env) (event : Value) (s : StreamState)
    (hopen : s.responsesTerminalSent = false) :
    EndsProperly s (anthropicErrorEventToClientSse env event .openAiResponses s) :=
  ⟨fun hs => by simp [hopen] at hs, EndsOnce.single _, fun _ => rfl⟩

/-- The event is one that `translate_sse_event` takes for an error of the upstream. -/
def isUpstreamError (upstreamFormat : UpstreamFormat) (event : Value) : Bool :=
  upstreamFormat = .anthropic && event.getStr "type" = some "error"

/-- **An event that is translated ends the response properly**, unless it is an error that comes
too late. -/
theorem translated_endsProperly (env : Env) {upstreamFormat : UpstreamFormat} (event : Value)
    (s : StreamState) (hformat : upstreamFormat ≠ .openAiResponses)
    (herror : isUpstreamError upstreamFormat event = true →
      s.fatalRejection = none → s.responsesTerminalSent = false) :
    EndsProperly s (translateSseEvent env upstreamFormat .openAiResponses event s) := by
  unfold translateSseEvent
  split
  · exact .nothing rfl
  · next hfatal =>
    split
    · exact done_endsProperly env s
    · split
      · next hevent =>
        exact error_endsProperly env event s
          (herror (by simp [isUpstreamError, hevent]) (by simpa using hfatal))
      · exact convert_endsProperly env upstreamFormat event s

/-! ## An event that is passed on -/

/-- A text that names the end of a response is not replaced by one that does. -/
theorem sanitized_terminal {text : String}
    (h : isTerminalType (sanitizePublicErrorMessage text) = true) : isTerminalType text = true := by
  unfold sanitizePublicErrorMessage at h
  split at h
  · exact absurd h (by decide)
  · exact h

theorem lookup_sanitizeFields (fields : List (String × Value)) (k : String)
    (hk : containsInternalArtifactText k = false) :
    (sanitizeFields fields).lookup k =
      (fields.lookup k).map sanitizeInternalArtifactStrings := by
  induction fields with
  | nil => simp [sanitizeFields]
  | cons field rest ih =>
    obtain ⟨l, v⟩ := field
    rw [sanitizeFields, List.lookup_cons]
    by_cases hkl : k = l
    · subst hkl
      simp [hk]
    · have hne : (k == l) = false := beq_eq_false_iff_ne.mpr hkl
      split
      · rw [ih, hne]
      · rw [List.lookup_cons, hne, ih]

/-- What is passed on ends a response only when the upstream's own event does. -/
theorem passed_terminal {event : Value}
    (h : (SseFrame.data (sanitizePublicStreamErrorEvent event)).isTerminal = true) :
    (event.getStr "type").any isTerminalType = true := by
  unfold sanitizePublicStreamErrorEvent at h
  split at h
  · cases event with
    | object fields =>
      simp only [SseFrame.isTerminal, sanitizeInternalArtifactStrings, Value.getStr, Value.get,
        lookup_sanitizeFields fields "type" (by decide +kernel)] at h ⊢
      cases hlookup : fields.lookup "type" with
      | none => simp [hlookup] at h
      | some v =>
        cases v with
        | string text =>
          simp only [hlookup, Option.map_some, Option.bind_some, sanitizeInternalArtifactStrings,
            Value.asStr, Option.any_some] at h ⊢
          exact sanitized_terminal h
        | _ =>
          simp [hlookup, sanitizeInternalArtifactStrings, Value.asStr] at h
    | _ =>
      simp [SseFrame.isTerminal, sanitizeInternalArtifactStrings, Value.getStr, Value.get] at h
  · exact h

/-! ## What the client receives -/

/-- A stream and its client: what the stream has queued, and what the client has received. -/
structure Delivery where
  state : StreamState
  queue : List SseFrame := []
  closed : Bool := false
  received : List SseFrame := []

/-- What may happen to a stream: it meets an upstream event, a frame that must not be seen or one
of its limits, or it yields the first frame of its queue. -/
inductive Happening where
  | event (env : Env) (event : Value)
  | artifactFrame (env : Env)
  | limit (env : Env) (limit : StreamResourceLimit)
  | yield

namespace Delivery

/-- The stream of a request: its state is fresh but for what the request brings. -/
def start (bridgeContext : Option Value) (responseId : Option String) : Delivery where
  state := { requestScopedToolBridgeContext := bridgeContext
             responsesResponseIdOverride := responseId }

/-- Everything that was sent, or waits to be. -/
def sent (d : Delivery) : List SseFrame := d.received ++ d.queue

def answer (d : Delivery) (output : List SseFrame × StreamState) (closed : Bool) : Delivery :=
  { d with state := output.2, queue := d.queue ++ output.1, closed := closed }

/-- A closed stream only yields. A state that has grown too large takes the queue with it. -/
def step (upstreamFormat : UpstreamFormat) (d : Delivery) : Happening → Delivery
  | .yield =>
      match d.queue with
      | [] => d
      | frame :: rest => { d with queue := rest, received := d.received ++ [frame] }
  | .event env event =>
      if d.closed then d
      else
        let output := translateSseEvent env upstreamFormat .openAiResponses event d.state
        d.answer output output.2.fatalRejection.isSome
  | .artifactFrame env =>
      if d.closed then d
      -- a frame with the proxy's own names in it ends the stream with an error
      else d.answer (rejectPublicStreamToolName env .openAiResponses d.state
        internalArtifactErrorMessage) true
  | .limit env limit =>
      if d.closed then d
      else
        { d with queue := if limit = StreamResourceLimit.stateTooLarge then [] else d.queue }.answer
          (rejectStreamResourceLimit env .openAiResponses d.state limit) true

/-- What has come of a stream after a number of happenings. -/
def run (upstreamFormat : UpstreamFormat) (d : Delivery) (happenings : List Happening) :
    Delivery :=
  happenings.foldl (step upstreamFormat) d

end Delivery

/-- The response has ended: the flag says so, or the upstream has passed its own end on. -/
def ResponseOver (upstreamFormat : UpstreamFormat) (earlier : List Happening) (d : Delivery) :
    Prop :=
  d.state.responsesTerminalSent = true ∨
    (upstreamFormat = .openAiResponses ∧ ∃ env event, Happening.event env event ∈ earlier ∧
      (event.getStr "type").any isTerminalType = true)

/-- What ends the response without asking the flag comes in time: an error of the upstream, an
event or a rejection where events are passed on, and a limit. A state that has grown too large is
in time as long as the client has not received the end. -/
def InTime (upstreamFormat : UpstreamFormat) (earlier : List Happening) (d : Delivery) :
    Happening → Prop
  | .yield => True
  | .event _ event =>
      isUpstreamError upstreamFormat event = true ∨
        (upstreamFormat = .openAiResponses ∧ isDone event = false) →
      ¬ResponseOver upstreamFormat earlier d
  | .artifactFrame _ => upstreamFormat = .openAiResponses → ¬ResponseOver upstreamFormat earlier d
  | .limit _ limit =>
      if limit = .stateTooLarge then ∀ f ∈ d.received, f.isTerminal = false
      else ¬ResponseOver upstreamFormat earlier d

/-- What holds of a stream whose happenings all came in time. -/
structure Orderly (upstreamFormat : UpstreamFormat) (earlier : List Happening) (d : Delivery) :
    Prop where
  once : EndsOnce d.sent
  noMore : (∃ f ∈ d.sent, f.isTerminal = true) → ResponseOver upstreamFormat earlier d

/-- Frames that come when nothing but end markers may, or when everything may. -/
theorem EndsOnce.append_of {frames more : List SseFrame} (h : EndsOnce frames)
    (hmore : EndsOnce more)
    (hafter : (∃ f ∈ frames, f.isTerminal = true) → ∀ g ∈ more, g = .done) :
    EndsOnce (frames ++ more) :=
  List.pairwise_append.mpr ⟨h, hmore, fun f hf g hg hterminal => hafter ⟨f, hf, hterminal⟩ g hg⟩

theorem ResponseOver.mono {upstreamFormat : UpstreamFormat} {earlier : List Happening}
    {d d' : Delivery} (h : ResponseOver upstreamFormat earlier d) (happening : Happening)
    (hflag : d.state.responsesTerminalSent = true → d'.state.responsesTerminalSent = true) :
    ResponseOver upstreamFormat (earlier ++ [happening]) d' := by
  refine h.imp hflag ?_
  rintro ⟨hformat, env, event, hevent, hterminal⟩
  exact ⟨hformat, env, event, List.mem_append_left _ hevent, hterminal⟩

/-- An answer that ends the response properly, when the flag is all there is to ask. -/
theorem Orderly.answer {upstreamFormat : UpstreamFormat} {earlier : List Happening}
    {d : Delivery} (h : Orderly upstreamFormat earlier d) (happening : Happening)
    {output : List SseFrame × StreamState} (closed : Bool)
    (hanswer : EndsProperly d.state output)
    (hformat : upstreamFormat = .openAiResponses → ¬ResponseOver upstreamFormat earlier d) :
    Orderly upstreamFormat (earlier ++ [happening]) (d.answer output closed) := by
  have hsent : (d.answer output closed).sent = d.sent ++ output.1 := by
    simp [Delivery.answer, Delivery.sent, List.append_assoc]
  have hsilent : (∃ f ∈ d.sent, f.isTerminal = true) → output.1 = [] ∧
      output.2.responsesTerminalSent = true := by
    intro hended
    cases h.noMore hended with
    | inl hflag => exact hanswer.silent hflag
    | inr hpassed => exact absurd (.inr hpassed) (hformat hpassed.1)
  constructor
  · rw [hsent]
    refine h.once.append_of hanswer.once fun hended g hg => ?_
    rw [(hsilent hended).1] at hg
    cases hg
  · rw [hsent]
    rintro ⟨f, hf, hterminal⟩
    cases List.mem_append.mp hf with
    | inl hf => exact .inl (hsilent ⟨f, hf, hterminal⟩).2
    | inr hf => exact .inl (hanswer.sent ⟨f, hf, hterminal⟩)

/-- Nothing new is sent. -/
theorem Orderly.same {upstreamFormat : UpstreamFormat} {earlier : List Happening}
    {d d' : Delivery} (h : Orderly upstreamFormat earlier d) (happening : Happening)
    (hsent : d'.sent = d.sent) (hstate : d'.state = d.state) :
    Orderly upstreamFormat (earlier ++ [happening]) d' where
  once := hsent ▸ h.once
  noMore := fun hended => (h.noMore (hsent ▸ hended)).mono happening fun hflag => hstate ▸ hflag

/-- An event that is passed on. -/
theorem Orderly.pass {earlier : List Happening} {d : Delivery}
    (h : Orderly .openAiResponses earlier d) (env : Env) (event : Value)
    (htime : InTime .openAiResponses earlier d (.event env event)) (closed : Bool) :
    Orderly .openAiResponses (earlier ++ [.event env event])
      (d.answer (passSseEvent env .openAiResponses event d.state) closed) := by
  unfold passSseEvent
  split
  · have hsent : (d.answer ([.done], d.state) closed).sent = d.sent ++ [.done] := by
      simp [Delivery.answer, Delivery.sent]
    constructor
    · rw [hsent]
      exact h.once.append_of (EndsOnce.single _) fun _ g hg => List.mem_singleton.mp hg
    · rw [hsent]
      rintro ⟨f, hf, hterminal⟩
      cases List.mem_append.mp hf with
      | inl hf => exact (h.noMore ⟨f, hf, hterminal⟩).mono _ id
      | inr hf =>
        rw [List.mem_singleton.mp hf] at hterminal
        cases hterminal
  · next hdone =>
    have hopen := htime (.inr ⟨rfl, by simpa using hdone⟩)
    simp only
    split
    · exact h.answer _ closed (rejectedName_endsProperly env _ _) fun _ => hopen
    · have hsent : (d.answer ([.data (sanitizePublicStreamErrorEvent event)], d.state)
          closed).sent = d.sent ++ [.data (sanitizePublicStreamErrorEvent event)] := by
        simp [Delivery.answer, Delivery.sent]
      constructor
      · rw [hsent]
        exact h.once.append_of (EndsOnce.single _) fun hended => absurd (h.noMore hended) hopen
      · rw [hsent]
        rintro ⟨f, hf, hterminal⟩
        cases List.mem_append.mp hf with
        | inl hf => exact absurd (h.noMore ⟨f, hf, hterminal⟩) hopen
        | inr hf =>
          rw [List.mem_singleton.mp hf] at hterminal
          exact .inr ⟨rfl, env, event, by simp, passed_terminal hterminal⟩

theorem Orderly.limit {upstreamFormat : UpstreamFormat} {earlier : List Happening} {d : Delivery}
    (h : Orderly upstreamFormat earlier d) (env : Env) (limit : StreamResourceLimit)
    (htime : InTime upstreamFormat earlier d (.limit env limit)) (hopen : d.closed = false) :
    Orderly upstreamFormat (earlier ++ [.limit env limit])
      (d.step upstreamFormat (.limit env limit)) := by
  simp only [InTime] at htime
  simp only [Delivery.step, hopen, Bool.false_eq_true, if_false]
  split at htime
  · next hlimit =>
    rw [if_pos hlimit]
    constructor
    · simp only [Delivery.sent, Delivery.answer, List.nil_append]
      exact EndsOnce.append htime (EndsOnce.single _)
    · exact fun _ => .inl rfl
  · next hlimit =>
    rw [if_neg hlimit]
    exact h.answer _ true (error_endsProperly env _ _ (by simpa using fun hflag => htime (.inl hflag)))
      fun _ => htime

/-- **Whatever happens in time keeps the stream orderly.** -/
theorem Orderly.step {upstreamFormat : UpstreamFormat} {earlier : List Happening} {d : Delivery}
    (h : Orderly upstreamFormat earlier d) {happening : Happening}
    (htime : InTime upstreamFormat earlier d happening) :
    Orderly upstreamFormat (earlier ++ [happening]) (d.step upstreamFormat happening) := by
  cases happening with
  | yield =>
    cases hqueue : d.queue with
    | nil => exact h.same _ (by simp [Delivery.step, hqueue]) (by simp [Delivery.step, hqueue])
    | cons frame rest =>
      exact h.same _ (by simp [Delivery.step, Delivery.sent, hqueue])
        (by simp [Delivery.step, hqueue])
  | event env event =>
    simp only [Delivery.step]
    split
    · exact h.same _ rfl rfl
    · by_cases hformat : upstreamFormat = .openAiResponses
      · subst hformat
        simp only [translateSseEvent, reduceCtorEq, false_and, if_false, if_true]
        split
        · exact h.same _ (by simp [Delivery.answer, Delivery.sent]) rfl
        · exact h.pass env event htime _
      · refine h.answer _ _ (translated_endsProperly env event d.state hformat fun herror _ => ?_)
          fun hresponses => absurd hresponses hformat
        simpa using fun hflag => htime (.inl herror) (.inl hflag)
  | artifactFrame env =>
    simp only [Delivery.step]
    split
    · exact h.same _ rfl rfl
    · exact h.answer _ true (rejectedName_endsProperly env _ _) htime
  | limit env limit =>
    cases hclosed : d.closed with
    | true => exact h.same _ (by simp [Delivery.step, hclosed]) (by simp [Delivery.step, hclosed])
    | false => exact h.limit env limit htime hclosed

/-- The run of the steps: whatever happens later comes in time, too. -/
theorem Orderly.run {upstreamFormat : UpstreamFormat} (later : List Happening) :
    ∀ {earlier : List Happening} {d : Delivery}, Orderly upstreamFormat earlier d →
      (∀ before happening after, later = before ++ happening :: after →
        InTime upstreamFormat (earlier ++ before) (d.run upstreamFormat before) happening) →
      Orderly upstreamFormat (earlier ++ later) (d.run upstreamFormat later) := by
  induction later with
  | nil =>
    intro earlier d h _
    simpa [Delivery.run] using h
  | cons happening later ih =>
    intro earlier d h htime
    have hfirst : InTime upstreamFormat earlier d happening := by
      simpa [Delivery.run] using htime [] happening later rfl
    have hrest := ih (h.step hfirst) fun before next after hlater => by
      have hnext := htime (happening :: before) next after (by rw [hlater, List.cons_append])
      rwa [List.append_cons] at hnext
    rwa [← List.append_cons] at hrest

/-- **A response ends once when its errors and limits come in time.** Whatever the upstream speaks,
whatever happens to a fresh stream, in whatever order and surroundings, and wherever it yields: as
long as what does not ask whether the response is over happens while it is not (`InTime`), the
client is sent one last event at most, and behind it no event: only `[DONE]`, which is none, may
follow. -/
theorem response_ends_once (upstreamFormat : UpstreamFormat) (bridgeContext : Option Value)
    (responseId : Option String) (happenings : List Happening)
    (htime : ∀ earlier happening later, happenings = earlier ++ happening :: later →
      InTime upstreamFormat earlier
        ((Delivery.start bridgeContext responseId).run upstreamFormat earlier) happening) :
    EndsOnce ((Delivery.start bridgeContext responseId).run upstreamFormat happenings).sent := by
  have hstart : Orderly upstreamFormat [] (Delivery.start bridgeContext responseId) :=
    ⟨List.Pairwise.nil, by simp [Delivery.start, Delivery.sent]⟩
  exact (hstart.run happenings htime).once

instance : DecidablePred EndsOnce := fun frames =>
  inferInstanceAs (Decidable (frames.Pairwise fun f g => f.isTerminal = true → g = .done))

/-- A Chat chunk that finishes its choice. -/
def finishChunk (finishReason : String) : Value :=
  .ofFields [("choices", .array [.ofFields [("delta", .ofFields []),
    ("finish_reason", .string finishReason)]])]

/-- The end marker of a Chat upstream, as it is parsed. -/
def doneMarker : Value := .ofFields [("_done", .bool true)]

/-- An answer that is finished, followed by the end marker. -/
theorem response_ends_once_chat :
    EndsOnce ((Delivery.start none none).run .openAiChatCompletions
      [.event .still (finishChunk "stop"), .yield, .event .still doneMarker]).sent := by
  refine response_ends_once _ none none _ fun earlier happening later h => ?_
  cases happening with
  | yield => exact trivial
  | event env event =>
    rintro (herror | ⟨hformat, -⟩)
    · cases herror
    · cases hformat
  | artifactFrame env => exact fun hformat => by cases hformat
  | limit env limit =>
    have hmem : Happening.limit env limit ∈ earlier ++ Happening.limit env limit :: later := by simp
    rw [← h] at hmem
    simp at hmem

/-- **A limit that comes too late ends the response a second time**: the answer is finished, and
the end marker behind it is one event too many. -/
theorem response_ends_twice :
    ¬EndsOnce (pushChunkWithFrameLimit (translateFrame .openAiChatCompletions) (fun _ => .still)
      ((SseFrame.data (finishChunk "stop")).bytes ++ SseFrame.done.bytes)
      { clientFormat := .openAiResponses, resourceLimits := ⟨1000, 1, 100000⟩ }).outputQueue := by
  decide +kernel

/-! ## The stream delivers -/

/-- The stream together with what its client has received. -/
def SseStream.delivery (st : SseStream) (received : List SseFrame) : Delivery :=
  ⟨st.state, st.outputQueue, st.closeAfterOutput, received⟩

/-- Something may happen that leads from one delivery to the other. -/
def Reaches (upstreamFormat : UpstreamFormat) (d d' : Delivery) : Prop :=
  ∃ happenings, d' = d.run upstreamFormat happenings

theorem Reaches.refl (upstreamFormat : UpstreamFormat) (d : Delivery) :
    Reaches upstreamFormat d d := ⟨[], rfl⟩

theorem Reaches.of_step {upstreamFormat : UpstreamFormat} {d d' : Delivery} (happening : Happening)
    (h : d' = d.step upstreamFormat happening) : Reaches upstreamFormat d d' := ⟨[happening], h⟩

theorem Reaches.trans {upstreamFormat : UpstreamFormat} {d₁ d₂ d₃ : Delivery}
    (h : Reaches upstreamFormat d₁ d₂) (h' : Reaches upstreamFormat d₂ d₃) :
    Reaches upstreamFormat d₁ d₃ := by
  obtain ⟨happenings, rfl⟩ := h
  obtain ⟨happenings', rfl⟩ := h'
  exact ⟨happenings ++ happenings', by simp [Delivery.run]⟩

/-- The stream speaks to a Responses client before and after, and what it delivers is reached by
happenings. -/
def Delivers (upstreamFormat : UpstreamFormat) (received : List SseFrame) (st st' : SseStream) :
    Prop :=
  st.clientFormat = .openAiResponses → st'.clientFormat = .openAiResponses ∧
    Reaches upstreamFormat (st.delivery received) (st'.delivery received)

namespace Delivers

variable {upstreamFormat : UpstreamFormat} {received : List SseFrame}

theorem refl (st : SseStream) : Delivers upstreamFormat received st st :=
  fun hclient => ⟨hclient, Reaches.refl _ _⟩

theorem trans {st₁ st₂ st₃ : SseStream} (h : Delivers upstreamFormat received st₁ st₂)
    (h' : Delivers upstreamFormat received st₂ st₃) :
    Delivers upstreamFormat received st₁ st₃ := fun hclient =>
  ⟨(h' (h hclient).1).1, (h hclient).2.trans (h' (h hclient).1).2⟩

/-- What a Responses client does not see. -/
theorem same {st st' : SseStream} (hclient : st'.clientFormat = st.clientFormat)
    (h : st'.delivery received = st.delivery received) :
    Delivers upstreamFormat received st st' := fun hresponses =>
  ⟨hclient.trans hresponses, h ▸ Reaches.refl _ _⟩

theorem limit (env : Env) (limit : StreamResourceLimit) {st : SseStream}
    (hopen : st.closeAfterOutput = false) :
    Delivers upstreamFormat received st
      ({ st with outputQueue := if limit = StreamResourceLimit.stateTooLarge then []
          else st.outputQueue }.rejectStreamResourceLimit env limit) := fun hclient => by
  refine ⟨hclient, .of_step (.limit env limit) ?_⟩
  simp [SseStream.delivery, Delivery.step, Delivery.answer, SseStream.rejectStreamResourceLimit,
    SseStream.extend, hopen, hclient]

theorem rejectedFrame (env : Env) {st : SseStream} (hopen : st.closeAfterOutput = false) :
    Delivers upstreamFormat received st (st.rejectFrame env internalArtifactErrorMessage) :=
  fun hclient => by
    refine ⟨hclient, .of_step (.artifactFrame env) ?_⟩
    simp [SseStream.delivery, Delivery.step, Delivery.answer, SseStream.rejectFrame,
      SseStream.extend, hopen, hclient]

end Delivers

variable {upstreamFormat : UpstreamFormat} {received : List SseFrame}

/-- A frame that goes over the limit of events is not looked at. -/
theorem registerSseEvent_delivers (env : Env) {st : SseStream} (hopen : st.closeAfterOutput = false) :
    Delivers upstreamFormat received st (st.registerSseEventOrReject env) := by
  simp only [SseStream.registerSseEventOrReject]
  have hregister : Delivers upstreamFormat received st st.registerSseEvent := .same rfl rfl
  split
  · exact hregister.trans (.limit env .maxEvents hopen)
  · exact hregister

theorem stateTooLarge_delivers (env : Env) {st : SseStream} (hopen : st.closeAfterOutput = false) :
    Delivers upstreamFormat received st (st.rejectIfStateTooLarge env) := by
  unfold SseStream.rejectIfStateTooLarge
  split
  · exact .limit env .stateTooLarge hopen
  · exact .refl st

/-- An event ends the stream when the state says that it was fatal. -/
theorem Delivers.event (env : Env) (event : Value) {st next : SseStream}
    (hopen : st.closeAfterOutput = false)
    (hnext : next = st.extend
      (translateSseEvent env upstreamFormat st.clientFormat event st.state)) :
    Delivers upstreamFormat received st
      { next with closeAfterOutput := next.state.fatalRejection.isSome } := fun hclient => by
  refine ⟨by rw [hnext]; exact hclient, .of_step (.event env event) ?_⟩
  simp [hnext, SseStream.delivery, Delivery.step, Delivery.answer, SseStream.extend, hopen,
    hclient]

/-- One frame of the upstream; the state is checked only when the stream is still open. -/
theorem translateFrame_delivers (env : Env) (frame : List UInt8) (event : Option Value)
    {st : SseStream} (hopen : st.closeAfterOutput = false) :
    let (next, checked) := translateFrame upstreamFormat env frame event st
    Delivers upstreamFormat received st next ∧
      (checked = true → next.closeAfterOutput = false) := by
  have hregister : Delivers upstreamFormat received st (st.registerSseEventOrReject env) :=
    registerSseEvent_delivers env hopen
  simp only [translateFrame]
  generalize st.registerSseEventOrReject env = next at hregister ⊢
  split
  · exact ⟨hregister, by simp⟩
  · next hclosed =>
    have hopen' : next.closeAfterOutput = false := by simpa using hclosed
    split
    · exact ⟨hregister.trans ((Delivers.same rfl rfl).trans (.rejectedFrame env hopen')), by simp⟩
    · cases event with
      | none =>
        simp only
        split <;> split
        · exact ⟨hregister.trans ((Delivers.same rfl rfl).trans (.rejectedFrame env hopen')),
            by simp⟩
        · exact ⟨hregister.trans ((Delivers.same rfl rfl).trans (.rejectedFrame env hopen')),
            by simp⟩
        · exact ⟨hregister.trans (.same rfl rfl), by simp⟩
        · exact ⟨hregister, by simp⟩
      | some event =>
        have hevent := hregister.trans (Delivers.event env event hopen' rfl)
        simp only [closeIfFatal]
        split
        · next hfatal =>
          exact ⟨hevent.trans (.same rfl (by simp [SseStream.delivery, hfatal])), by simp⟩
        · next hfatal =>
          refine ⟨hevent.trans (.same rfl ?_), fun _ => hopen'⟩
          simpa [SseStream.delivery, SseStream.extend, hopen'] using hfatal

/-- One frame of the upstream, and the check of the state behind it. -/
theorem handleFrame_delivers (env : Env) (frame : List UInt8) (event : Option Value)
    {st : SseStream} (hopen : st.closeAfterOutput = false) :
    Delivers upstreamFormat received st
      (handleFrame (translateFrame upstreamFormat) env frame event st) := by
  obtain ⟨hframe, hstill⟩ :=
    @translateFrame_delivers upstreamFormat received env frame event st hopen
  simp only [handleFrame]
  split
  · next hchecked => exact hframe.trans (stateTooLarge_delivers env (hstill hchecked))
  · exact hframe

variable (surroundings : Nat → Env)

/-- Whatever a stream does when it is polled. -/
theorem goesWith_delivers :
    GoesWith (.translating upstreamFormat) surroundings (Delivers upstreamFormat received) where
  refl := .refl
  trans := .trans
  buffer := fun _ _ => .same rfl rfl
  frame := fun frame event _ hopen => handleFrame_delivers _ frame event hopen
  limit := fun limit st hopen hlimit => by
    have hlimited : Delivers upstreamFormat received st
        ({ st with outputQueue := if limit = StreamResourceLimit.stateTooLarge then []
          else st.outputQueue }.rejectStreamResourceLimit (surroundings st.eventsSeen) limit) :=
      .limit _ limit hopen
    rwa [if_neg hlimit] at hlimited
  finish := fun _ => .same rfl rfl

/-- **The stream delivers**: whatever a Responses client has received of a stream, and whatever is
queued for it, is what happenings lead to. -/
theorem translateSseStream_delivers {st st' : SseStream} {labels : List (Upstream ⊕ SseFrame)}
    (hrun : Run (SseStream.Step (.translating upstreamFormat) surroundings) st labels st')
    (hclient : st.clientFormat = .openAiResponses) :
    st'.clientFormat = .openAiResponses ∧
      Reaches upstreamFormat (st.delivery []) (st'.delivery (yieldedFrames labels)) := by
  refine hrun.invariant_history (I := fun labels st' => st'.clientFormat = .openAiResponses ∧
    Reaches upstreamFormat (st.delivery []) (st'.delivery (yieldedFrames labels)))
    ⟨hclient, .refl _ _⟩ ?_
  rintro labels t u label ⟨ht, hreaches⟩ hstep
  cases hstep with
  | @yielded frame rest hqueue =>
    refine ⟨ht, hreaches.trans (.of_step .yield ?_)⟩
    simp [SseStream.delivery, Delivery.step, hqueue, yieldedFrames]
  | polled upstream _ hopen =>
    have hpoll : Delivers upstreamFormat (yieldedFrames labels) t
        (t.poll (.translating upstreamFormat) surroundings upstream) :=
      (goesWith_delivers surroundings).poll upstream hopen
    have hlabels : yieldedFrames (labels ++ [.inl upstream]) = yieldedFrames labels := by
      simp [yieldedFrames, List.filterMap_cons]
    rw [hlabels]
    exact ⟨(hpoll ht).1, hreaches.trans (hpoll ht).2⟩

end LlmUniversalProxy.Streaming
