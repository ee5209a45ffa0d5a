import LlmUniversalProxy.Streaming.UnsignedItems

/-!
# `Streaming.ServerToolEcho` — server tools that come back

A call of one of Anthropic's server tools goes out to the other clients with its kind. When it comes
back, the kind is believed only with a signature of the proxy for the name of the tool. A whole
answer to a Chat client has that signature; a stream does not have it, and neither do the items for a
Responses client.

A comment beside the signing (`translate/internal.rs` 2218-2220) has the echo in mind: it is what
the signature is for. So a call that comes back without it has become one of an ordinary function.
-/

set_option autoImplicit false

namespace LlmUniversalProxy.Streaming

open Json Lib Translate

/-! ## The chunks of a stream -/

def IsUnsignedChunk (chunk : Value) : Prop := ∀ call ∈ toolCallsOfChunk chunk, IsUnsigned call

theorem toolCallsOfChunk_openaiChunk (env : Env) (s : StreamState) (delta : Value)
    (finishReason : Option String) :
    toolCallsOfChunk (openaiChunk env s delta finishReason) =
      (delta.getArray "tool_calls").getD [] := by
  have hchoices : (openaiChunk env s delta finishReason).getArray "choices" =
      some [.ofFields [("index", .nat 0), ("delta", delta),
        ("finish_reason", .ofOptionStr finishReason)]] := by
    rw [openaiChunk, Value.getArray, Value.get_ofFields]
    rfl
  rw [toolCallsOfChunk, hchoices]
  show (((Value.get (.ofFields _) "delta").bind (Value.getArray · "tool_calls")).getD []) ++ [] = _
  rw [Value.get_ofFields, List.append_nil]
  rfl

theorem unsignedChunk_silent (env : Env) (s : StreamState) {fields : List (String × Value)}
    (finishReason : Option String) (h : fields.lookup "tool_calls" = none) :
    IsUnsignedChunk (openaiChunk env s (.ofFields fields) finishReason) := by
  intro call hcall
  rw [toolCallsOfChunk_openaiChunk, Value.getArray, Value.get_ofFields, h] at hcall
  cases hcall

theorem IsUnsignedChunk.set {chunk : Value} (h : IsUnsignedChunk chunk) {field : String} (x : Value)
    (hfield : "choices" ≠ field) : IsUnsignedChunk (chunk.set field x) := by
  unfold IsUnsignedChunk toolCallsOfChunk Value.getArray
  rw [Value.get_set_of_ne chunk x hfield]
  exact h

/-- The source has pushed chunks with unsigned calls only, and has left the finished items alone. -/
structure PushesUnsigned (k k' : Source) : Prop where
  kept : k'.state.responsesCompletedMessageItems = k.state.responsesCompletedMessageItems
  pushed : (∀ chunk ∈ k.out, IsUnsignedChunk chunk) → ∀ chunk ∈ k'.out, IsUnsignedChunk chunk

namespace PushesUnsigned

theorem refl (k : Source) : PushesUnsigned k k := ⟨rfl, id⟩

theorem trans {k₁ k₂ k₃ : Source} (h : PushesUnsigned k₁ k₂) (h' : PushesUnsigned k₂ k₃) :
    PushesUnsigned k₁ k₃ := ⟨h'.kept.trans h.kept, h'.pushed ∘ h.pushed⟩

theorem state {k k' : Source} (h : PushesUnsigned k k') {s : StreamState}
    (hs : s.responsesCompletedMessageItems = k'.state.responsesCompletedMessageItems) :
    PushesUnsigned k { k' with state := s } := ⟨hs.trans h.kept, h.pushed⟩

theorem chunk {k k' : Source} (h : PushesUnsigned k k') {chunk : Value}
    (hchunk : IsUnsignedChunk chunk) : PushesUnsigned k { k' with out := k'.out ++ [chunk] } := by
  refine ⟨h.kept, ?_⟩
  intro hout c hc
  rcases List.mem_append.mp hc with hc | hc
  · exact h.pushed hout c hc
  · rw [List.mem_singleton.mp hc]
    exact hchunk

theorem push (env : Env) {k k' : Source} (h : PushesUnsigned k k') {fields : List (String × Value)}
    (hfields : fields.lookup "tool_calls" = none) :
    PushesUnsigned k (k'.push env (.ofFields fields)) :=
  h.chunk (unsignedChunk_silent env k'.state none hfields)

theorem ensureRole (env : Env) {k k' : Source} (h : PushesUnsigned k k') :
    PushesUnsigned k (k'.ensureRole env) := by
  unfold Source.ensureRole emitOpenaiAssistantRoleIfNeeded
  split
  · simpa using h
  · exact (h.chunk (unsignedChunk_silent env _ none rfl)).state rfl

end PushesUnsigned

section

variable (env : Env) {k : Source}

theorem unsigned_reasoningDelta (reasoning : String) (k : Source) :
    PushesUnsigned k (emitClaudeReasoningDelta env reasoning k) := by
  unfold emitClaudeReasoningDelta
  split
  · exact .refl k
  · exact ((PushesUnsigned.refl k).ensureRole env).push env rfl

/-- A server tool's call is sent with its kind, but without a signature for it. -/
theorem unsigned_structuredDelta (toolUse : ClaudeToolUseState) (arguments : String) (k : Source) :
    PushesUnsigned k (emitStructuredClaudeToolUseDelta env toolUse arguments k) := by
  unfold emitStructuredClaudeToolUseDelta
  split
  · exact .refl k
  · refine ((PushesUnsigned.refl k).ensureRole env).chunk ?_
    intro call hcall
    rw [toolCallsOfChunk_openaiChunk, Value.getArray, Value.get_ofFields] at hcall
    have hcall := List.mem_singleton.mp hcall
    subst hcall
    unfold IsUnsigned
    split
    · rw [Value.get_set_of_ne _ _ (by decide), Value.get_ofFields]
      rfl
    · rw [Value.get_ofFields]
      rfl

theorem updateToolUse_kept (blockIndex : Nat) (f : ClaudeToolUseState → ClaudeToolUseState)
    (s : StreamState) : (updateToolUse blockIndex f s).responsesCompletedMessageItems =
      s.responsesCompletedMessageItems := by
  unfold updateToolUse
  split <;> rfl

theorem unsigned_finalizeToolUse (k : Source) (blockIndex : Nat) :
    PushesUnsigned k (finalizeClaudeToolUseBlock env k blockIndex) := by
  unfold finalizeClaudeToolUseBlock
  split
  · exact .refl k
  split
  · exact .refl k
  split
  · split
    · exact (PushesUnsigned.refl k).state (updateToolUse_kept _ _ _)
    · exact (unsigned_structuredDelta env _ _ k).state (updateToolUse_kept _ _ _)
  · exact (((PushesUnsigned.refl k).ensureRole env).push env rfl).state (updateToolUse_kept _ _ _)

theorem unsigned_finalizeToolUses (pending : List Nat) (k : Source) :
    PushesUnsigned k (pending.foldl (finalizeClaudeToolUseBlock env) k) := by
  induction pending generalizing k with
  | nil => exact .refl k
  | cons index pending ih => exact (unsigned_finalizeToolUse env k index).trans (ih _)

theorem unsignedChunks_reject (s : StreamState) (errorType code message : String) :
    ∀ chunk ∈ (rejectOpenaiStream env s errorType code message).1, IsUnsignedChunk chunk := by
  intro chunk hchunk
  rw [List.mem_singleton.mp hchunk]
  refine IsUnsignedChunk.set ?_ _ (by decide)
  split
  · exact (unsignedChunk_silent env _ _ rfl).set _ (by decide)
  · exact unsignedChunk_silent env _ _ rfl

theorem unsigned_rejectEvent (s : StreamState) (message : String) :
    PushesUnsigned ⟨s, []⟩ (rejectAnthropicEvent env s message) :=
  ⟨rfl, fun _ => unsignedChunks_reject env s "invalid_request_error"
    "unsupported_anthropic_stream_event" message⟩

theorem unsigned_blockStarted (event : Value) (s : StreamState) :
    PushesUnsigned ⟨s, []⟩ (contentBlockStarted env event s) := by
  simp only [contentBlockStarted]
  split
  · exact ⟨rfl, id⟩
  · unfold thinkingBlockStart
    refine PushesUnsigned.state ?_ rfl
    split
    · exact ⟨rfl, id⟩
    · refine PushesUnsigned.trans ?_ (unsigned_reasoningDelta env _ _)
      exact ⟨rfl, id⟩
  · exact ⟨rfl, id⟩
  · exact ⟨rfl, id⟩
  · exact unsigned_rejectEvent env s _
  · exact unsigned_rejectEvent env s _
  · exact unsigned_rejectEvent env s _

theorem unsigned_blockDelta (event : Value) (s : StreamState) :
    PushesUnsigned ⟨s, []⟩ (contentBlockDeltaEvent env event s) := by
  have hsame : ∀ s' : StreamState,
      s'.responsesCompletedMessageItems = s.responsesCompletedMessageItems →
        PushesUnsigned ⟨s, []⟩ ⟨s', []⟩ := fun s' h => ⟨h, id⟩
  simp only [contentBlockDeltaEvent]
  split
  · unfold textDelta
    split
    · exact .refl _
    · exact ((PushesUnsigned.refl _).ensureRole env).push env rfl
  · unfold thinkingDelta
    split
    · exact unsigned_rejectEvent env s _
    split
    · exact .refl _
    split
    · exact hsame _ rfl
    · exact unsigned_reasoningDelta env _ _
  · unfold inputJsonDelta
    split
    · exact .refl _
    · exact hsame _ (updateToolUse_kept _ _ _)
  · unfold signatureDelta
    split
    · exact unsigned_rejectEvent env s _
    split
    · exact .refl _
    · exact hsame _ rfl
  · unfold citationsDelta
    split
    · exact unsigned_rejectEvent env s _
    dsimp only
    split
    · exact .refl _
    · refine PushesUnsigned.push env (PushesUnsigned.ensureRole env (hsame _ ?_)) ?_
      · rfl
      · rfl
  · exact unsigned_rejectEvent env s _
  · exact unsigned_rejectEvent env s _

theorem unsigned_stopBlock (idx : Nat) (k : Source) :
    PushesUnsigned k (stopBlock env idx k) := by
  unfold stopBlock
  refine PushesUnsigned.state ?_ rfl
  split
  · exact .refl k
  dsimp only
  split
  · refine PushesUnsigned.state ?_ rfl
    split
    · exact .refl k
    · exact unsigned_reasoningDelta env _ k
  · exact .refl k

theorem unsigned_blockStopped (event : Value) (s : StreamState) :
    PushesUnsigned ⟨s, []⟩ (contentBlockStopped env event s) := by
  unfold contentBlockStopped
  refine PushesUnsigned.state ?_ rfl
  split
  · exact .refl _
  · exact (unsigned_finalizeToolUse env _ _).trans (unsigned_stopBlock env _ _)

theorem unsigned_messageStop (s : StreamState) :
    PushesUnsigned ⟨s, []⟩ (messageStop env s) := by
  unfold messageStop
  split
  · exact .refl _
  · refine ((unsigned_finalizeToolUses env _ _).chunk ?_).state rfl
    split
    · exact (unsignedChunk_silent env _ _ rfl).set _ (by decide)
    · exact unsignedChunk_silent env _ _ rfl

/-- **No call of a chunk is signed.** -/
theorem unsigned_claudeEvent (event : Value) (s : StreamState) :
    PushesUnsigned ⟨s, []⟩ (claudeEventToOpenaiChunks env event s) := by
  unfold claudeEventToOpenaiChunks
  split
  · exact .refl _
  split
  · exact PushesUnsigned.ensureRole env ⟨rfl, id⟩
  · exact unsigned_blockStarted env event s
  · exact unsigned_blockDelta env event s
  · exact unsigned_blockStopped env event s
  · exact ⟨rfl, id⟩
  · exact unsigned_messageStop env s
  · exact .refl _

end

/-! ## A whole stream -/

/-- What goes out for the events of an upstream; each comes with its own surroundings. -/
def translatedRun (upstreamFormat clientFormat : UpstreamFormat) :
    List (Env × Value) → StreamState → List SseFrame × StreamState
  | [], s => ([], s)
  | (env, event) :: events, s =>
      let (frames, s) := translateSseEvent env upstreamFormat clientFormat event s
      let (more, s) := translatedRun upstreamFormat clientFormat events s
      (frames ++ more, s)

theorem AnswersUnsigned.append {first more : List SseFrame} {s t : StreamState}
    (h : AnswersUnsigned (first, s)) (h' : AnswersUnsigned (more, t)) :
    AnswersUnsigned (first ++ more, t) := by
  refine ⟨h'.kept, ?_⟩
  intro f hf
  rcases List.mem_append.mp hf with hf | hf
  · exact h.sent f hf
  · exact h'.sent f hf

theorem chatChunks_unsigned (env : Env) {chunks : List Value} {s : StreamState}
    (h : KeptUnsigned s) (hchunks : ∀ chunk ∈ chunks, IsUnsignedChunk chunk) :
    AnswersUnsigned (openaiChunksToClientSse env .openAiChatCompletions chunks s) := by
  induction chunks with
  | nil => exact ⟨h, fun f hf => (nomatch hf)⟩
  | cons chunk chunks ih =>
    refine AnswersUnsigned.append (s := s) ⟨h, ?_⟩
      (ih fun c hc => hchunks c (List.mem_cons_of_mem _ hc))
    intro f hf
    rw [List.mem_singleton.mp hf]
    exact hchunks chunk List.mem_cons_self

theorem clientChunks_unsigned (env : Env) {clientFormat : UpstreamFormat}
    (hclient : clientFormat ≠ .anthropic) {chunks : List Value} {s : StreamState}
    (h : KeptUnsigned s) (hchunks : ∀ chunk ∈ chunks, IsUnsignedChunk chunk) :
    AnswersUnsigned (openaiChunksToClientSse env clientFormat chunks s) := by
  cases clientFormat with
  | anthropic => exact absurd rfl hclient
  | openAiChatCompletions => exact chatChunks_unsigned env h hchunks
  | openAiResponses => exact chunks_unsigned env chunks h

theorem rejectedName_unsigned (env : Env) {clientFormat : UpstreamFormat}
    (hclient : clientFormat ≠ .anthropic) {s : StreamState} (h : KeptUnsigned s)
    (message : String) :
    AnswersUnsigned (rejectPublicStreamToolName env clientFormat s message) :=
  clientChunks_unsigned env hclient h (unsignedChunks_reject env s _ _ message)

theorem error_unsigned (env : Env) (event : Value) {clientFormat : UpstreamFormat}
    (hclient : clientFormat ≠ .anthropic) {s : StreamState} (h : KeptUnsigned s) :
    AnswersUnsigned (anthropicErrorEventToClientSse env event clientFormat s) := by
  cases clientFormat with
  | anthropic => exact absurd rfl hclient
  | openAiChatCompletions =>
    refine ⟨h, ?_⟩
    intro f hf
    rcases List.mem_pair.mp hf with rfl | rfl
    · exact (unsignedChunk_silent env s _ rfl).set _ (by decide)
    · exact fun item hitem => (nomatch hitem)
  | openAiResponses =>
    refine ⟨h, ?_⟩
    intro f hf item hitem
    rw [List.mem_singleton.mp hf] at hitem
    simp [SseFrame.items, Value.getArray, List.lookup_cons] at hitem

theorem convertedEvent_unsigned (env : Env) (event : Value) {clientFormat : UpstreamFormat}
    (hclient : clientFormat ≠ .anthropic) {s : StreamState} (h : KeptUnsigned s) :
    AnswersUnsigned (convertSseEvent env .anthropic clientFormat event s) := by
  have hpushed := unsigned_claudeEvent env event s
  have hkept : KeptUnsigned (claudeEventToOpenaiChunks env event s).state := by
    unfold KeptUnsigned
    rw [hpushed.kept]
    exact h
  have hchunks := hpushed.pushed fun chunk hchunk => (nomatch hchunk)
  unfold convertSseEvent
  dsimp only
  split
  · exact rejectedName_unsigned env hclient h _
  · simp only [upstreamChunks, validateOpenaiChunks]
    split
    · exact clientChunks_unsigned env hclient hkept hchunks
    · exact clientChunks_unsigned env hclient hkept (unsignedChunks_reject env _ _ _ _)

/-- **An event of Anthropic sends nothing that is signed.** -/
theorem event_unsigned (env : Env) (event : Value) {clientFormat : UpstreamFormat}
    (hclient : clientFormat ≠ .anthropic) {s : StreamState} (h : KeptUnsigned s) :
    AnswersUnsigned (translateSseEvent env .anthropic clientFormat event s) := by
  unfold translateSseEvent
  split
  · exact ⟨h, fun f hf => (nomatch hf)⟩
  split
  · next hdone => exact absurd hdone.1 (by decide)
  split
  · exact error_unsigned env event hclient h
  split
  · next hsame => exact absurd hsame.symm hclient
  · exact convertedEvent_unsigned env event hclient h

theorem translatedRun_unsigned {clientFormat : UpstreamFormat} (hclient : clientFormat ≠ .anthropic)
    (events : List (Env × Value)) {s : StreamState} (h : KeptUnsigned s) :
    AnswersUnsigned (translatedRun .anthropic clientFormat events s) := by
  induction events generalizing s with
  | nil => exact ⟨h, fun f hf => (nomatch hf)⟩
  | cons first events ih =>
    obtain ⟨env, event⟩ := first
    have hfirst := event_unsigned env event hclient h
    exact hfirst.append (ih hfirst.kept)

/-! ## Coming back -/

/-- An answer of an Anthropic upstream. -/
inductive UpstreamAnswer where
  | whole (body : Value) (context : ResponseTranslationContext)
  | streamed (events : List (Env × Value)) (bridgeContext : Option Value)
      (responseId : Option String)

def UpstreamAnswer.isWhole : UpstreamAnswer → Bool
  | whole _ _ => true
  | streamed _ _ _ => false

/-- What of an answer to a client may come back with the next request. -/
def UpstreamAnswer.items (env : TranslationEnv) (clientFormat : UpstreamFormat) :
    UpstreamAnswer → List Value
  | whole body context =>
      match translateResponseWithContext env .anthropic clientFormat body context with
      | .ok out => answerItems clientFormat out
      | .error _ => []
  | streamed events bridgeContext responseId =>
      (translatedRun .anthropic clientFormat events
        { requestScopedToolBridgeContext := bridgeContext
          responsesResponseIdOverride := responseId }).1.flatMap SseFrame.items

section

variable {env : TranslationEnv} {clientFormat : UpstreamFormat}

theorem mem_items_whole {body item : Value} {context : ResponseTranslationContext}
    (h : item ∈ (UpstreamAnswer.whole body context).items env clientFormat) :
    ∃ out, translateResponseWithContext env .anthropic clientFormat body context = .ok out ∧
      item ∈ answerItems clientFormat out := by
  rw [UpstreamAnswer.items] at h
  cases hout : translateResponseWithContext env .anthropic clientFormat body context with
  | ok out =>
    rw [hout] at h
    exact ⟨out, rfl, h⟩
  | error e =>
    rw [hout] at h
    cases h

theorem kind_of_wholeChat {body call : Value} {context : ResponseTranslationContext}
    (hcall : call ∈ (UpstreamAnswer.whole body context).items env .openAiChatCompletions)
    (hserver : isServerToolCall call = true) :
    semanticToolKindFromValue env.toEnv call = .anthropicServerTool := by
  obtain ⟨out, hout, hcall⟩ := mem_items_whole hcall
  obtain ⟨content, _, hitems⟩ := answerItems_chat hout
  rw [hitems] at hcall
  obtain ⟨block, _, hcall⟩ := List.mem_flatMap.mp hcall
  exact kind_of_callsOfBlock hcall hserver

theorem unsigned_wholeResponses {body item : Value} {context : ResponseTranslationContext}
    (hitem : item ∈ (UpstreamAnswer.whole body context).items env .openAiResponses) :
    IsUnsigned item := by
  obtain ⟨out, hout, hitem⟩ := mem_items_whole hitem
  exact answerItems_unsigned hout item hitem

theorem unsigned_streamed (hclient : clientFormat ≠ .anthropic) {events : List (Env × Value)}
    {bridgeContext : Option Value} {responseId : Option String} {item : Value}
    (hitem : item ∈ (UpstreamAnswer.streamed events bridgeContext responseId).items env
      clientFormat) : IsUnsigned item := by
  obtain ⟨f, hf, hitem⟩ := List.mem_flatMap.mp hitem
  refine (translatedRun_unsigned hclient events ?_).sent f hf item hitem
  exact fun message hmessage => (nomatch hmessage)

theorem kind_of_echo (hclient : clientFormat ≠ .anthropic) {answer : UpstreamAnswer} {call : Value}
    (hcall : call ∈ answer.items env clientFormat) (hserver : isServerToolCall call = true) :
    semanticToolKindFromValue env.toEnv call = .anthropicServerTool ↔
      clientFormat = .openAiChatCompletions ∧ answer.isWhole = true := by
  cases answer with
  | whole body context =>
    cases clientFormat with
    | anthropic => exact absurd rfl hclient
    | openAiChatCompletions => exact iff_of_true (kind_of_wholeChat hcall hserver) ⟨rfl, rfl⟩
    | openAiResponses =>
      exact iff_of_false ((unsigned_wholeResponses hcall).kind env.toEnv) fun h => nomatch h.1
  | streamed events bridgeContext responseId =>
    exact iff_of_false ((unsigned_streamed hclient hcall).kind env.toEnv) fun h => nomatch h.2

end

/-- What the proxy has not attested is taken for an ordinary function. -/
structure RefusesForgeries (env : Env) : Prop where
  renamed : ∀ call renamed, semanticToolKindFromValue env call = .anthropicServerTool →
    renamed.getStr proxiedToolKindSigField = call.getStr proxiedToolKindSigField →
    proxiedToolKindName renamed ≠ proxiedToolKindName call →
    (∀ type ∈ customToolTypes, renamed.getStr "type" ≠ some type) →
    semanticToolKindFromValue env renamed = .function
  unminted : ∀ call, (∀ signature, call.getStr proxiedToolKindSigField = some signature →
      ¬ IsMinted env signature) →
    (∀ type ∈ customToolTypes, call.getStr "type" ≠ some type) →
    semanticToolKindFromValue env call = .function
  otherProcess : ∀ other : Env, other.sha256Hex = env.sha256Hex →
    other.internalReplayMarkerKey ≠ env.internalReplayMarkerKey →
    ∀ signature, IsMinted other signature → ¬ IsMinted env signature

/-- **A server tool is known again by what a whole answer to a Chat client has sent**, and by that
alone: streams and the items for a Responses client come back as ordinary functions. -/
theorem server_tool_known_iff {env : TranslationEnv}
    (hcollisionFree : Function.Injective env.sha256Hex) :
    RefusesForgeries env.toEnv ∧
    (∀ body context blocks out, body.get "content" = some (.array blocks) →
      translateResponseWithContext env .anthropic .openAiChatCompletions body context = .ok out →
      ∀ block ∈ blocks, block.getStr "type" = some "server_tool_use" →
        openaiToolCallOfServerToolUse env.toEnv block ∈
          (UpstreamAnswer.whole body context).items env .openAiChatCompletions) ∧
    (∀ (clientFormat : UpstreamFormat) (answer : UpstreamAnswer), clientFormat ≠ .anthropic →
      ∀ call ∈ answer.items env clientFormat, isServerToolCall call = true →
      ∀ echo, SameBut "index" echo call →
        (semanticToolKindFromValue env.toEnv echo = .anthropicServerTool ↔
          clientFormat = .openAiChatCompletions ∧ answer.isWhole = true)) := by
  refine ⟨⟨?_, ?_, ?_⟩, ?_, ?_⟩
  · intro call renamed hkind hsig hname htype
    exact kind_function htype (kind_of_renamed hcollisionFree hkind hsig hname)
  · intro call hunminted htype
    exact kind_function htype (kind_of_unminted hunminted)
  · intro other hdigest hkey signature hminted
    exact unminted_of_key hcollisionFree hdigest hkey hminted
  · intro body context blocks out hcontent hout block hblock htype
    obtain ⟨content, hget, hitems⟩ := answerItems_chat hout
    cases hcontent.symm.trans hget
    simp only [UpstreamAnswer.items, hout, hitems]
    refine List.mem_flatMap.mpr ⟨block, hblock, ?_⟩
    simp [callsOfBlock, htype]
  · intro clientFormat answer hclient call hcall hserver echo hecho
    rw [semanticKind_sameBut (by decide) hecho]
    exact kind_of_echo hclient hcall hserver

/-! ## A search on the web -/

/-- Surroundings with a key, and with the SHA-256 of the one text that is signed below. -/
def searchEnv : TranslationEnv := { TranslationEnv.still with
  internalReplayMarkerKey := "5f2d0c9a7b1e4836a0d4c2e19f67b358"
  sha256Hex := pinnedDigest (bytesOf "5f2d0c9a7b1e4836a0d4c2e19f67b358" ++ [0] ++ bytesOf
    "\x7b\"kind\":\"anthropic_server_tool_use\",\"name\":\"web_search\",\"v\":1\x7d")
    "296ee92b7ce47eacbb962b82f0386575b2cfdbf5c6855fdc772f484e5b09c5df" }

theorem searchEnv_collisionFree : Function.Injective searchEnv.sha256Hex :=
  pinnedDigest_injective (by decide)

def searchBlock : Value := .ofFields [("type", .string "server_tool_use"),
  ("id", .string "srvtoolu_1"), ("name", .string "web_search"),
  ("input", .ofFields [("query", .string "lean")])]

theorem web_search_known : semanticToolKindFromValue searchEnv.toEnv
    (openaiToolCallOfServerToolUse searchEnv.toEnv searchBlock) = .anthropicServerTool := by
  refine ((server_tool_known_iff searchEnv_collisionFree).2.2 .openAiChatCompletions
    (.whole (.ofFields [("content", .array [searchBlock]), ("stop_reason", .string "tool_use")]) {})
    (by decide) _ ?_ (by decide +kernel) _ (fun _ _ => rfl)).mpr ⟨rfl, rfl⟩
  decide +kernel

/-- The events of the same answer, when it is streamed. -/
def searchEvents : List (Env × Value) :=
  [.ofFields [("type", .string "message_start"),
      ("message", .ofFields [("id", .string "msg_1"), ("model", .string "claude")])],
    .ofFields [("type", .string "content_block_start"), ("index", .nat 0),
      ("content_block", searchBlock)],
    .ofFields [("type", .string "content_block_stop"), ("index", .nat 0)],
    .ofFields [("type", .string "message_delta"),
      ("delta", .ofFields [("stop_reason", .string "tool_use")])],
    .ofFields [("type", .string "message_stop")]].map fun event => (searchEnv.toEnv, event)

/-- The call of the stream comes back as one of a function. -/
theorem streamed_search_unknown :
    ∃ call ∈ (UpstreamAnswer.streamed searchEvents none none).items searchEnv
        .openAiChatCompletions,
      isServerToolCall call = true ∧
        semanticToolKindFromValue searchEnv.toEnv call = .function := by
  decide +kernel

end LlmUniversalProxy.Streaming
