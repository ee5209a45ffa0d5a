import LlmUniversalProxy.Streaming.ResponsesSink
import LlmUniversalProxy.Streaming.ResponsesSource
import LlmUniversalProxy.Translate.CallConversions

/-!
# `Streaming.NonReplayableCalls` — calls that are cut off

A call whose arguments were cut off is marked where the Responses stream ends, and the marker is
looked for when the call comes back with the next request. Both sides sign the name and the payload.
A bridged call of a namespace comes back under the name of the tool and is renamed to its flat name
before its marker is looked at.

The markers are `streaming/openai_sink.rs` 153-260 on the way out and `translate/internal/tools.rs`
1065-1182 on the way back.
-/

set_option autoImplicit false

namespace LlmUniversalProxy.Streaming

open Json Lib Translate

/-! ## Both sides sign the same -/

theorem signedMarker_isFor (env : Env) (name raw : String) :
    markerIsFor env name raw (signedNonReplayableToolCallMarkerStream env name raw) = true := by
  simp [markerIsFor, signedNonReplayableToolCallMarkerStream, Value.getStr, Value.getU64,
    List.lookup_cons, nonReplayableToolCallSignatureStream, nonReplayablePayload]

/-- An item of a Responses call: its name and payload are found in the item itself. -/
structure IsCallItem (env : Env) (item : Value) (name raw : String) : Prop where
  noFunction : item.get "function" = none
  type : item.getStr "type" ≠ some "custom"
  name : item.getStr "name" = some name
  payload : (openaiToolArgumentsRaw item).or (responsesToolCallInputRaw env item) = some raw

theorem IsCallItem.nameAndRaw {env : Env} {item : Value} {name raw : String}
    (h : IsCallItem env item name raw) :
    nonReplayableToolCallNameAndRaw env item = (some name, some raw) := by
  have hpayload : openaiCustomToolPayload item = none := by
    unfold openaiCustomToolPayload
    rw [if_pos h.type]
  have hname : openaiCustomToolName item = none := by
    unfold openaiCustomToolName
    rw [hpayload]
    rfl
  have hinput : openaiCustomToolInputRaw item = none := by
    unfold openaiCustomToolInputRaw
    rw [hpayload]
    rfl
  simp only [nonReplayableToolCallNameAndRaw, h.noFunction, hname, hinput, h.name, Option.or_none,
    h.payload]
  rfl

/-- The optional fields of a tool call are no others. -/
theorem lookup_toolCallExtras (proxiedToolKind namespaceName : Option String) {k : String}
    (hkind : k ≠ "proxied_tool_kind") (hnamespace : k ≠ "namespace") :
    (toolCallExtras proxiedToolKind namespaceName).lookup k = none := by
  have hkind := beq_eq_false_iff_ne.mpr hkind
  have hnamespace := beq_eq_false_iff_ne.mpr hnamespace
  cases proxiedToolKind <;> cases namespaceName <;>
    simp [toolCallExtras, optionalField, List.lookup_cons, hkind, hnamespace]

theorem lookup_nonReplayableField (env : Env) (name toolType arguments : String)
    (context : TerminalContext) {k : String} (h : k ≠ internalNonReplayableToolCallField) :
    (nonReplayableField env name toolType arguments context).lookup k = none := by
  have h := beq_eq_false_iff_ne.mpr h
  unfold nonReplayableField
  split <;> simp [List.lookup_cons, h]

section

variable (env : Env) (context : TerminalContext) (done : ResponsesToolCallDone)

theorem get_doneItem {k : String} (hkind : k ≠ "proxied_tool_kind") (hnamespace : k ≠ "namespace")
    (hmarker : k ≠ internalNonReplayableToolCallField) :
    (doneItem env context done).get k = List.lookup k [("id", .string s!"fc_{done.callId}"),
      ("type", .string (responsesToolCallItemType done.toolType)),
      ("call_id", .string done.callId), ("name", .string done.name),
      (responsesToolCallPayloadField done.toolType, .string done.arguments)] := by
  unfold doneItem toolCallItem
  rw [Value.get_ofFields, List.lookup_append, List.lookup_append,
    lookup_toolCallExtras _ _ hkind hnamespace, lookup_nonReplayableField env _ _ _ _ hmarker,
    Option.or_none, Option.or_none]

theorem get_doneItem_marker :
    (doneItem env context done).get nonReplayableToolCallField =
      if toolCallShouldBeMarkedNonReplayable env.serde done.toolType done.arguments context then
        some (signedNonReplayableToolCallMarkerStream env done.name done.arguments)
      else none := by
  have hpayload : (nonReplayableToolCallField == responsesToolCallPayloadField done.toolType) =
      false := by
    unfold responsesToolCallPayloadField
    split <;> decide
  have hplain : List.lookup nonReplayableToolCallField [("id", .string s!"fc_{done.callId}"),
      ("type", .string (responsesToolCallItemType done.toolType)),
      ("call_id", .string done.callId), ("name", .string done.name),
      (responsesToolCallPayloadField done.toolType, Value.string done.arguments)] = none := by
    rw [nonReplayableToolCallField] at hpayload ⊢
    simp [List.lookup_cons, hpayload]
  unfold doneItem toolCallItem
  rw [Value.get_ofFields, List.lookup_append, List.lookup_append, hplain,
    lookup_toolCallExtras _ _ (by decide) (by decide), Option.none_or, Option.none_or]
  unfold nonReplayableField
  split
  · simp [nonReplayableToolCallField, internalNonReplayableToolCallField]
  · rfl

theorem doneItem_isCallItem :
    IsCallItem env (doneItem env context done) done.name done.arguments := by
  have hnone : ∀ {k : String}, k ∈ ["function", "_llmup_proxied_tool_kind_sig"] →
      (doneItem env context done).get k = none := by
    intro k hk
    rw [List.mem_pair] at hk
    rcases hk with rfl | rfl
    · rw [get_doneItem env context done (by decide) (by decide) (by decide)]
      unfold responsesToolCallPayloadField
      split <;> simp [List.lookup_cons]
    · rw [get_doneItem env context done (by decide) (by decide) (by decide)]
      unfold responsesToolCallPayloadField
      split <;> simp [List.lookup_cons]
  have htype : (doneItem env context done).getStr "type" =
      some (responsesToolCallItemType done.toolType) := by
    rw [Value.getStr, get_doneItem env context done (by decide) (by decide) (by decide)]
    simp [List.lookup_cons]
  have hkind : proxiedToolKindIsAttested env (doneItem env context done) = false := by
    unfold proxiedToolKindIsAttested
    rw [Value.getStr, Value.getStr, hnone (k := "_llmup_proxied_tool_kind_sig") (by simp)]
    simp
  refine ⟨hnone (by simp), ?_, ?_, ?_⟩
  · rw [htype]
    unfold responsesToolCallItemType
    split <;> decide
  · rw [Value.getStr, get_doneItem env context done (by decide) (by decide) (by decide)]
    simp [List.lookup_cons]
  have harguments := get_doneItem env context done (k := "arguments") (by decide) (by decide)
    (by decide)
  have hinput := get_doneItem env context done (k := "input") (by decide) (by decide) (by decide)
  unfold openaiToolArgumentsRaw responsesToolCallInputRaw semanticToolKindFromValue
  rw [hnone (k := "function") (by simp), hkind, htype, Value.getStr, Value.getStr, harguments,
    hinput]
  by_cases hcustom : done.toolType = "custom"
  · simp [responsesToolCallItemType, responsesToolCallPayloadField, hcustom, List.lookup_cons]
  · simp [responsesToolCallItemType, responsesToolCallPayloadField, hcustom, List.lookup_cons]

/-- **The stream's marker is found** where it was set, and only there. -/
theorem isMarked_doneItem : toolCallIsMarkedNonReplayable env (doneItem env context done) =
    toolCallShouldBeMarkedNonReplayable env.serde done.toolType done.arguments context := by
  have hmarker := get_doneItem_marker env context done
  cases hshould : toolCallShouldBeMarkedNonReplayable env.serde done.toolType done.arguments
      context with
  | false =>
    rw [hshould, if_neg (by simp)] at hmarker
    exact isMarked_of_absent hmarker
  | true =>
    rw [hshould, if_pos rfl] at hmarker
    rw [isMarked_of_get hmarker, signedName, signedRaw,
      (doneItem_isCallItem env context done).nameAndRaw]
    exact signedMarker_isFor env done.name done.arguments

end

/-! ## Flat names -/

/-- A name inside of the item, as a call of Chat has it, is looked at first. -/
def hasFunctionName (item : Value) : Bool :=
  ((item.get "function").bind (Value.getStr · "name")).isSome

/-- The marker of the item is one for this name, with the payload that a call of that name has. -/
def isMarkedAs (env : Env) (name : String) (item : Value) : Bool :=
  (item.get nonReplayableToolCallField).any
    (markerIsFor env name (signedRaw env (item.set "name" (.string name))))

theorem flatToolName_ne_child (ns child : String) : flatToolName ns child ≠ child := by
  intro h
  have hlength := congrArg String.length h
  have hseparator : ("__" : String).length = 2 := by decide
  simp only [flatToolName, String.length_append, hseparator, toString] at hlength
  omega

section

variable {env : Env} {entries : List (String × NamespaceBridgeContextEntry)} {item : Value}

theorem customPayload_toolCallItem (h : isToolCallItem item = true) :
    openaiCustomToolPayload item = none := by
  unfold openaiCustomToolPayload
  rw [if_pos]
  rw [isToolCallItem, Bool.or_eq_true, decide_eq_true_eq, decide_eq_true_eq] at h
  rcases h with h | h <;> simp [h]

theorem nameAndRaw_toolCallItem (h : isToolCallItem item = true) :
    nonReplayableToolCallNameAndRaw env item =
      (((item.get "function").bind (Value.getStr · "name")).or (item.getStr "name"),
        (openaiToolArgumentsRaw item).or (responsesToolCallInputRaw env item)) := by
  simp [nonReplayableToolCallNameAndRaw, openaiCustomToolName, openaiCustomToolInputRaw,
    customPayload_toolCallItem h]

section

variable (hflat : isBridgedNamespaceCall entries item = true)

include hflat

theorem flatten_eq : flattenNamespaceCall entries item =
    (item.set "name" (.string (flatCallName item))).remove "namespace" := by
  rw [flattenNamespaceCall, if_pos hflat]

theorem get_flatten {k : String} (hname : k ≠ "name") (hnamespace : k ≠ "namespace") :
    (flattenNamespaceCall entries item).get k = item.get k := by
  rw [flatten_eq hflat, Value.get_remove, if_neg hnamespace, Value.get_set_of_ne item _ hname]

theorem getStr_flatten_name :
    (flattenNamespaceCall entries item).getStr "name" = some (flatCallName item) := by
  have hobject : item.isObject = true := by
    rw [isBridgedNamespaceCall, Bool.and_eq_true] at hflat
    obtain ⟨ns, hns⟩ := Option.isSome_iff_exists.mp hflat.1
    exact Value.isObject_of_get hns
  rw [flatten_eq hflat, Value.getStr, Value.get_remove, if_neg (by decide),
    Value.get_set_self hobject]
  rfl

theorem isToolCallItem_flatten :
    isToolCallItem (flattenNamespaceCall entries item) = isToolCallItem item := by
  have htype : (flattenNamespaceCall entries item).getStr "type" = item.getStr "type" :=
    congrArg (Option.bind · Value.asStr) (get_flatten hflat (by decide) (by decide))
  rw [isToolCallItem, isToolCallItem, htype]

/-- With a name inside of it, an item is signed for that name before and behind. -/
theorem nameAndRaw_flatten_of_function (hitem : isToolCallItem item = true)
    (hfunction : hasFunctionName item = true) :
    nonReplayableToolCallNameAndRaw env (flattenNamespaceCall entries item) =
      nonReplayableToolCallNameAndRaw env item := by
  obtain ⟨name, hname⟩ := Option.isSome_iff_exists.mp hfunction
  have hget {k : String} (hk : k ≠ "name") (hk' : k ≠ "namespace") :=
    get_flatten hflat hk hk'
  have hstr {k : String} (hk : k ≠ "name") (hk' : k ≠ "namespace") :
      (flattenNamespaceCall entries item).getStr k = item.getStr k :=
    congrArg (Option.bind · Value.asStr) (hget hk hk')
  have hkind : semanticToolKindFromValue env (flattenNamespaceCall entries item) =
      semanticToolKindFromValue env item := by
    unfold semanticToolKindFromValue proxiedToolKindIsAttested proxiedToolKindName
    rw [hstr (k := "proxied_tool_kind") (by decide) (by decide),
      hstr (k := "_llmup_proxied_tool_kind_sig") (by decide) (by decide),
      hget (k := "function") (by decide) (by decide), hname,
      hstr (k := "type") (by decide) (by decide)]
    rfl
  rw [nameAndRaw_toolCallItem hitem,
    nameAndRaw_toolCallItem ((isToolCallItem_flatten hflat).trans hitem)]
  unfold openaiToolArgumentsRaw responsesToolCallInputRaw
  rw [hkind, hget (k := "function") (by decide) (by decide),
    hget (k := "arguments") (by decide) (by decide), hname,
    hstr (k := "input") (by decide) (by decide), hstr (k := "arguments") (by decide) (by decide)]
  rfl

/-- Without one, it is signed for the flat name. -/
theorem isMarked_flatten (hitem : isToolCallItem item = true)
    (hfunction : hasFunctionName item = false) :
    toolCallIsMarkedNonReplayable env (flattenNamespaceCall entries item) =
      isMarkedAs env (flatCallName item) item := by
  have hsame : SameBut "namespace" (flattenNamespaceCall entries item)
      (item.set "name" (.string (flatCallName item))) := by
    intro k hk
    rw [flatten_eq hflat, Value.get_remove, if_neg hk]
  have hnone : (item.get "function").bind (Value.getStr · "name") = none :=
    Option.not_isSome_iff_eq_none.mp (by rw [← hasFunctionName, hfunction]; simp)
  have hname : signedName env (flattenNamespaceCall entries item) = flatCallName item := by
    rw [signedName, nameAndRaw_toolCallItem ((isToolCallItem_flatten hflat).trans hitem),
      get_flatten hflat (by decide) (by decide), hnone, getStr_flatten_name hflat]
    rfl
  rw [isMarked_eq, hname, signedRaw, nameAndRaw_sameBut (by decide) hsame env,
    get_flatten hflat (by decide) (by decide)]
  rfl

end

/-- **A renamed call keeps its marking** when it has none, under either name. -/
theorem isMarked_flatten_iff (hcollisionFree : Function.Injective env.sha256Hex)
    (hitem : isToolCallItem item = true) :
    toolCallIsMarkedNonReplayable env (flattenNamespaceCall entries item) =
        toolCallIsMarkedNonReplayable env item ↔
      (isBridgedNamespaceCall entries item = true → hasFunctionName item = false →
        toolCallIsMarkedNonReplayable env item = false ∧
          isMarkedAs env (flatCallName item) item = false) := by
  cases hflat : isBridgedNamespaceCall entries item with
  | false =>
    rw [flattenNamespaceCall, if_neg (by rw [hflat]; simp)]
    exact iff_of_true rfl (fun h => by cases h)
  | true =>
    cases hfunction : hasFunctionName item with
    | true =>
      refine iff_of_true ?_ (fun _ h => by cases h)
      rw [isMarked_eq, isMarked_eq, signedName, signedRaw,
        nameAndRaw_flatten_of_function hflat hitem hfunction,
        get_flatten hflat (by decide) (by decide)]
      rfl
    | false =>
      rw [isMarked_flatten hflat hitem hfunction]
      -- the marker cannot be for both names
      have hnotBoth : ¬ (isMarkedAs env (flatCallName item) item = true ∧
          toolCallIsMarkedNonReplayable env item = true) := by
        rintro ⟨has, hmarked⟩
        obtain ⟨marker, hget, hfor⟩ := (Option.any_eq_true _ _).mp has
        rw [isMarked_of_get hget] at hmarked
        obtain ⟨hname, -⟩ := markerIsFor_inj hcollisionFree hfor hmarked
        have hnone : (item.get "function").bind (Value.getStr · "name") = none :=
          Option.not_isSome_iff_eq_none.mp (by rw [← hasFunctionName, hfunction]; simp)
        rw [signedName, nameAndRaw_toolCallItem hitem, hnone] at hname
        exact flatToolName_ne_child _ _ hname
      constructor
      · intro heq _ _
        cases hmarked : toolCallIsMarkedNonReplayable env item with
        | false => exact ⟨rfl, heq.trans hmarked⟩
        | true => exact absurd ⟨heq.trans hmarked, hmarked⟩ hnotBoth
      · intro h
        obtain ⟨hmarked, has⟩ := h rfl rfl
        rw [hmarked, has]

end

/-! ## All conversions -/

/-- What each conversion of a call makes is marked just when the call is. -/
structure KeepsMarking (env : Env) (bridgeContext : ToolBridgeContext)
    (entries : List (String × NamespaceBridgeContextEntry)) (value : Value) : Prop where
  toCall : ∀ call, responsesToolCallItemToOpenaiToolCall env value = some call →
    toolCallIsMarkedNonReplayable env call = toolCallIsMarkedNonReplayable env value
  toCallStrict : ∀ call, responsesToolCallItemToOpenaiToolCallStrict env value = .ok (some call) →
    toolCallIsMarkedNonReplayable env call = toolCallIsMarkedNonReplayable env value
  toBridgedCall : ∀ call,
    responsesToolCallItemToBridgedOpenaiToolCallStrict env value = .ok (some call) →
      toolCallIsMarkedNonReplayable env call = toolCallIsMarkedNonReplayable env value
  toItem : toolCallIsMarkedNonReplayable env (openaiToolCallToResponsesItem env value) =
    toolCallIsMarkedNonReplayable env value
  toBridgedItem : ∀ context item,
    openaiToolCallToResponsesItemDecodingCustomBridge env context value = .ok item →
      toolCallIsMarkedNonReplayable env item = toolCallIsMarkedNonReplayable env value
  repaired : ∀ call, repairMessageToolCall env bridgeContext value = .ok call →
    toolCallIsMarkedNonReplayable env call = toolCallIsMarkedNonReplayable env value
  flattened : isToolCallItem value = true →
    toolCallIsMarkedNonReplayable env (flattenNamespaceCall entries value) =
      toolCallIsMarkedNonReplayable env value

/-- **Marks are kept** from the end of the stream to the next request, and a marker is worth nothing
for another name or payload. Of the conversions, the renaming of a bridged call loses the mark: it
keeps the marking of a call that is not marked, under its own name or the flat one. -/
theorem marking_kept_iff {env : Env} (hcollisionFree : Function.Injective env.sha256Hex) :
    (∀ context done, toolCallIsMarkedNonReplayable env (doneItem env context done) =
      toolCallShouldBeMarkedNonReplayable env.serde done.toolType done.arguments context) ∧
    (∀ value other, toolCallIsMarkedNonReplayable env value = true →
      other.get nonReplayableToolCallField = value.get nonReplayableToolCallField →
      signedName env other ≠ signedName env value ∨ signedRaw env other ≠ signedRaw env value →
      toolCallIsMarkedNonReplayable env other = false) ∧
    (∀ bridgeContext entries value, KeepsMarking env bridgeContext entries value ↔
      (isToolCallItem value = true → isBridgedNamespaceCall entries value = true →
        hasFunctionName value = false → toolCallIsMarkedNonReplayable env value = false ∧
          isMarkedAs env (flatCallName value) value = false)) := by
  refine ⟨fun context done => isMarked_doneItem env context done, ?_, ?_⟩
  · intro value other hmarked hcopied hdifferent
    obtain ⟨marker, hget, hfor⟩ := (Option.any_eq_true _ _).mp (isMarked_eq env value ▸ hmarked)
    rw [isMarked_of_get (hcopied.trans hget)]
    by_contra htrue
    rw [Bool.not_eq_false] at htrue
    obtain ⟨hname, hraw⟩ := markerIsFor_inj hcollisionFree htrue hfor
    exact hdifferent.elim (fun h => h hname) fun h => h hraw
  · intro bridgeContext entries value
    constructor
    · intro h hitem
      exact (isMarked_flatten_iff hcollisionFree hitem).mp (h.flattened hitem)
    · intro h
      exact {
        toCall := fun _ => isMarked_toCall
        toCallStrict := fun _ => isMarked_toCallStrict
        toBridgedCall := fun _ => isMarked_toBridgedCall
        toItem := isMarked_toItem value
        toBridgedItem := fun _ _ => isMarked_toBridgedItem
        repaired := fun _ => isMarked_repaired
        flattened := fun hitem => (isMarked_flatten_iff hcollisionFree hitem).mpr (h hitem) }

/-! ## A call that is cut off -/

/-- Surroundings with a key, and with the SHA-256 of the one text that is signed below. -/
def keyedEnv : Env := { Env.still with
  internalReplayMarkerKey := "5f2d0c9a7b1e4836a0d4c2e19f67b358"
  sha256Hex := pinnedDigest (bytesOf "5f2d0c9a7b1e4836a0d4c2e19f67b358" ++ [0] ++ bytesOf
    "\x7b\"name\":\"search\",\"raw\":\"\x7b\",\"reason\":\"incomplete_arguments\",\"v\":1\x7d")
    "371669688223d5bbb088814ab641f2feb9b4ce6ebe1a202c9777b47d4901cb39" }

theorem keyedEnv_collisionFree : Function.Injective keyedEnv.sha256Hex :=
  pinnedDigest_injective (by decide)

/-- A call of a tool `search` in the namespace `web`, at the limit of the output tokens. -/
def cutOffCall : ResponsesToolCallDone where
  callId := "call_1"
  name := "search"
  arguments := "\x7b"
  outputIndex := 0
  toolType := "function"
  proxiedToolKind := none
  namespaceName := some "web"

def cutOffItem : Value := doneItem keyedEnv ⟨some "max_output_tokens", false⟩ cutOffCall

theorem marking_kept_cut_off : toolCallIsMarkedNonReplayable keyedEnv cutOffItem = true ∧
    KeepsMarking keyedEnv ⟨[], []⟩ [] cutOffItem := by
  constructor
  · exact ((marking_kept_iff keyedEnv_collisionFree).1 _ cutOffCall).trans (by decide +kernel)
  · refine ((marking_kept_iff keyedEnv_collisionFree).2.2 _ _ _).mpr ?_
    intro _ hbridged
    rw [isBridgedNamespaceCall] at hbridged
    simp at hbridged

/-- The next request declares the namespace, so that the call is renamed; its marker is for the old
name, and it is replayed with the arguments as far as they go. -/
theorem marking_lost :
    ¬ KeepsMarking keyedEnv ⟨[], []⟩ [("web__search", ⟨"web", "search"⟩)] cutOffItem ∧
      historyCall keyedEnv .anthropic [("web__search", ⟨"web", "search"⟩)] cutOffItem =
        .ok (some (.call (openaiFunctionCall (some (.string "call_1")) "web__search" "\x7b"))) := by
  constructor
  · intro h
    have hmarked : toolCallIsMarkedNonReplayable keyedEnv cutOffItem = true := by decide +kernel
    have hlost : toolCallIsMarkedNonReplayable keyedEnv
        (flattenNamespaceCall [("web__search", ⟨"web", "search"⟩)] cutOffItem) = false := by
      decide +kernel
    have hkept := h.flattened (by decide +kernel)
    rw [hlost, hmarked] at hkept
    cases hkept
  · decide +kernel

end LlmUniversalProxy.Streaming
