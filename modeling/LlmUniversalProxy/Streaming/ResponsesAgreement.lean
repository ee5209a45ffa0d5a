import LlmUniversalProxy.Streaming.ResponsesStreamed
import LlmUniversalProxy.Streaming.ResponsesBody

/-!
# `Streaming.ResponsesAgreement` — a Responses response, streamed or in one piece

A response of messages, reasoning, function calls and hosted-tool items can come as a stream of
events, cut anywhere, or as one body. The body passes a gate: an item that Chat has no place for is
an error, and a name in a namespace is written out in full. The stream knows a few event types and
passes over the rest, so it says nothing of a hosted tool, of encrypted reasoning or of a namespace.
`responses_stream_agrees_iff` says when the two come to the same: on the items of the output alone,
for every stream that renders them.

What is compared is what a client ends up with: content, reasoning, calls and finish reason. The
usage and the model are not, and neither are the boundaries of the chunks.
-/

set_option autoImplicit false

namespace LlmUniversalProxy.Streaming

open Json Lib Translate

/-! ## Main result -/

/-- What is compared of two readings: all but the refusal. -/
structure SaysTheSame (streamed whole : Folded) : Prop where
  content : streamed.content = whole.content
  reasoning : streamed.reasoning = whole.reasoning
  toolCalls : streamed.toolCalls = whole.toolCalls
  finish : streamed.finishReason = whole.finishReason

/-- The stream comes to what the body comes to, or is rejected when the body is an error. -/
def StreamAgrees (env : TranslationEnv) (body : Value) (streamed : StreamState × Folded) : Prop :=
  match responsesResponseToOpenai env body with
  | .ok completion =>
      streamed.1.fatalRejection = none ∧ SaysTheSame streamed.2 (Folded.ofCompletion completion)
  | .error _ => Rejected streamed

def isPortableItem (item : Value) : Bool :=
  passesGate item && convertsItem item && (!isCallItem item || (item.getStr "namespace").isNone)

/-- Both ways a name of the proxy's own is refused; but for that every item must go to Chat as it
is. -/
def agreesWhen (items : List Value) : Bool :=
  items.any hasReservedName || items.all isPortableItem

theorem flatToolName_ne (namespaceName name : String) : flatToolName namespaceName name ≠ name := by
  intro h
  have hflat : flatToolName namespaceName name = namespaceName ++ "__" ++ name := rfl
  have hlength := congrArg String.length (hflat.symm.trans h)
  rw [String.length_append, String.length_append] at hlength
  have htwo : "__".length = 2 := rfl
  omega

/-- A name of the proxy's own is not accepted in a body either. -/
theorem not_converts_of_reserved {item : Value} (h : hasReservedName item = true) :
    convertsItem item = false := by
  obtain ⟨hcall, hreserved⟩ := Bool.and_eq_true_iff.mp h
  have htype : item.getStr "type" = some "function_call" := by simpa [isCallItem] using hcall
  cases hidentity : validateResponsesPublicToolCallItemIdentity item with
  | error e => simp [convertsItem, hcall, hidentity, Except.toBool]
  | ok _ =>
    rw [identity_of_call htype] at hidentity
    obtain ⟨_, hpublic, _⟩ := Result.bind_ok.mp hidentity
    cases hname : item.getStr "name" with
    | none => simp [convertsItem, hcall, hname]
    | some name =>
      rw [hname, Option.getD_some, identityValue_ok.mp hpublic name hname] at hreserved
      cases hreserved

theorem calls_eq_iff {items : List Value} (hplain : ∀ item ∈ items, PlainItem item) :
    streamedCalls 0 items = wholeCalls items ↔
      items.all (fun item => !isCallItem item || (item.getStr "namespace").isNone) = true := by
  have hcall : ∀ item ∈ items.filter isCallItem, ∀ i,
      streamedCall i item = wholeCall i item ↔ (item.getStr "namespace").isNone = true := by
    intro item hitem i
    obtain ⟨hmem, hcall⟩ := List.mem_filter.mp hitem
    obtain ⟨callId, name, _, hname⟩ := (hplain item hmem).call_id hcall
    unfold streamedCall wholeCall flatName
    rw [hname]
    cases hnamespace : item.getStr "namespace" with
    | none => simp
    | some namespaceName => simpa using (flatToolName_ne namespaceName name).symm
  unfold streamedCalls wholeCalls
  simp only [Nat.zero_add]
  rw [List.mapIdx_eq_mapIdx_iff, List.all_eq_true]
  constructor
  · intro h item hitem
    cases hcallItem : isCallItem item with
    | false => rfl
    | true =>
      obtain ⟨i, hi, heq⟩ := List.getElem_of_mem (List.mem_filter.mpr ⟨hitem, hcallItem⟩)
      have hsame := h i hi
      rw [heq] at hsame
      exact (hcall item (List.mem_filter.mpr ⟨hitem, hcallItem⟩) i).mp hsame
  · intro h i hi
    have hmem := List.getElem_mem hi
    obtain ⟨hitem, hcallItem⟩ := List.mem_filter.mp hmem
    have hnone := h _ hitem
    rw [hcallItem] at hnone
    exact (hcall _ hmem i).mpr hnone

/-- What is asked of every item, in two parts. -/
theorem all_portable (items : List Value) :
    items.all isPortableItem = ((items.all passesGate && items.all convertsItem) &&
      items.all fun item => !isCallItem item || (item.getStr "namespace").isNone) := by
  induction items with
  | nil => rfl
  | cons item items ih =>
    rw [List.all_cons, List.all_cons, List.all_cons, List.all_cons, ih, isPortableItem]
    ac_rfl

/-- **A response comes to the same, streamed or in one piece, exactly when** one of its calls has a
name of the proxy's own, which both refuse, or all of its items go to Chat as they are. -/
theorem responses_stream_agrees_iff (env : TranslationEnv) (body : Value)
    (items events : List Value) (h : RendersResponse body items events) :
    StreamAgrees env body
        (foldEvents (responsesEventToOpenaiChunks env.toEnv) events ({}, {})) ↔
      agreesWhen items = true := by
  obtain ⟨_, _, _, hitems, _⟩ := h.rendered
  have hplain := hitems.plain
  unfold StreamAgrees agreesWhen
  rw [all_portable]
  rcases fold_response env.toEnv h with
    ⟨hpublic, haccepted, refusal, hstreamed⟩ | ⟨hreserved, hrejected⟩
  · rw [hpublic, Bool.false_or]
    rcases completion_of_items env h.output hplain with
      ⟨hconverts, completion, hok, refusal', hwhole⟩ | ⟨hnot, e, herror⟩
    · rw [hok, hconverts, Bool.true_and, ← calls_eq_iff hplain]
      simp only [haccepted, true_and, hstreamed, hwhole]
      exact ⟨fun hsame => hsame.toolCalls, fun hcalls => ⟨rfl, rfl, hcalls, rfl⟩⟩
    · -- The body is an error, and the stream goes on as if nothing had happened.
      rw [herror, hnot, Bool.false_and]
      refine ⟨fun hrejected => ?_, fun hfalse => (nomatch hfalse)⟩
      have hsome := hrejected.1
      rw [haccepted] at hsome
      cases hsome
  · have hnot : items.all convertsItem = false := by
      obtain ⟨item, hitem, hname⟩ := List.any_eq_true.mp hreserved
      exact List.all_eq_false.mpr ⟨item, hitem, by simp [not_converts_of_reserved hname]⟩
    rcases completion_of_items env h.output hplain with ⟨hconverts, _⟩ | ⟨_, e, herror⟩
    · rw [hnot, Bool.and_false] at hconverts
      cases hconverts
    · rw [herror, hreserved, Bool.true_or]
      exact ⟨fun _ => rfl, fun _ => hrejected⟩

/-! ### A response with a hosted tool -/

def hostedItem : Value :=
  .ofFields [("type", .string "web_search_call"), ("id", .string "ws_1")]

def completedBody (items : List Value) : Value :=
  .ofFields [("output", .array items), ("status", .string "completed")]

/-- The events of a response with these items, of which the stream has these events. -/
def completedEvents (items itemEvents : List Value) : List Value :=
  .ofFields [("type", .string "response.created")] :: (itemEvents ++
    [.ofFields [("type", .string "response.completed"), ("response", completedBody items)]])

/-- The event that announces the first item. -/
def firstAdded (item : Value) : Value :=
  .ofFields [("type", .string "response.output_item.added"), ("output_index", .nat 0),
    ("item", item)]

theorem renders_completed {items itemEvents : List Value}
    (h : RendersItems 0 [] items itemEvents) :
    RendersResponse (completedBody items) items (completedEvents items itemEvents) where
  output := Value.get_ofFields _ _
  rendered := by
    have hstatus : (completedBody items).getStr "status" = some "completed" :=
      Value.getStr_ofFields _ _
    refine ⟨_, _, itemEvents, h, by decide +kernel, ?_, Value.get_ofFields _ _, rfl⟩
    rw [hstatus, Value.getStr_ofFields]
    rfl

theorem firstAdded_isAdded (item : Value) : IsAdded 0 (firstAdded item) item where
  type := Value.getStr_ofFields _ _
  item := Value.get_ofFields _ _
  index := by
    rw [firstAdded, Value.getU64, Value.get_ofFields]
    rfl

theorem hostedItem_renders :
    RendersResponse (completedBody [hostedItem]) [hostedItem]
      (completedEvents [hostedItem] [firstAdded hostedItem]) := by
  have htype : hostedItem.getStr "type" = some "web_search_call" := Value.getStr_ofFields _ _
  exact renders_completed (.hosted htype (by decide) (firstAdded_isAdded _) htype .nil)

theorem responses_stream_agrees_iff_hosted :
    StreamAgrees .still (completedBody [hostedItem])
        (foldEvents (responsesEventToOpenaiChunks Env.still)
          (completedEvents [hostedItem] [firstAdded hostedItem]) ({}, {})) ↔
      agreesWhen [hostedItem] = true :=
  responses_stream_agrees_iff .still _ _ _ hostedItem_renders

/-- The body is an error, and the stream ends as if there had been no search. -/
theorem hosted_tool_is_not_streamed :
    ¬ ∀ (env : TranslationEnv) (body : Value) (items events : List Value),
      RendersResponse body items events → StreamAgrees env body
        (foldEvents (responsesEventToOpenaiChunks env.toEnv) events ({}, {})) := by
  intro h
  have hagrees := h .still _ _ _ hostedItem_renders
  have herror : (responsesResponseToOpenai .still (completedBody [hostedItem])).toBool = false := by
    decide +kernel
  have hstop : (foldEvents (responsesEventToOpenaiChunks Env.still)
      (completedEvents [hostedItem] [firstAdded hostedItem]) ({}, {})).2.finishReason =
      some "stop" := by decide +kernel
  unfold StreamAgrees at hagrees
  cases hresult : responsesResponseToOpenai .still (completedBody [hostedItem]) with
  | ok completion =>
    rw [hresult] at herror
    cases herror
  | error e =>
    rw [hresult] at hagrees
    have htold := hagrees.2
    rw [show (TranslationEnv.still).toEnv = Env.still from rfl, hstop] at htold
    exact absurd htold (by decide)

end LlmUniversalProxy.Streaming
