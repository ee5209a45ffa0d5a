import LlmUniversalProxy.Json.ReadBack
import LlmUniversalProxy.Lib.Digest
import LlmUniversalProxy.Lib.Fields
import LlmUniversalProxy.Lib.Utf8
import LlmUniversalProxy.Translate.ToolCalls

/-!
# `Translate.Attestation` — what the proxy's signatures are bound to

Both markers are signed over a JSON text with the strings in it that they are bound to. As these can
be read back from the text, a marker is the right one for a single name and payload only, as long as
the hash has no collisions.

The signatures are `translate/internal/tools.rs` 1110-1124 and 1203-1232. That there are no
collisions is a hypothesis of the results that need it.
-/

set_option autoImplicit false

namespace LlmUniversalProxy.Translate

open Json Lib

/-! ## What is signed -/

/-- What the marker of a call is signed over. -/
def nonReplayablePayload (name raw : String) : Value :=
  .ofFields [("v", .nat 1), ("reason", .string "incomplete_arguments"), ("name", .string name),
    ("raw", .string raw)]

/-- What the marker of a server tool is signed over. -/
def serverToolPayload (name : String) : Value :=
  .ofFields [("v", .nat 1), ("kind", .string "anthropic_server_tool_use"),
    ("name", .string name)]

/-- The two texts in the JSON of a marker's payload. -/
theorem nonReplayablePayload_chars (name raw : String) :
    valueChars (nonReplayablePayload name raw) = '\x7b' :: (stringChars "name" ++ ':' ::
      (stringChars name ++ ',' :: (stringChars "raw" ++ ':' :: (stringChars raw ++ ',' ::
        (fieldsChars [("reason", .string "incomplete_arguments"), ("v", .nat 1)] ++
          ['\x7d']))))) := by
  have hfields : nonReplayablePayload name raw = .object [("name", .string name),
      ("raw", .string raw), ("reason", .string "incomplete_arguments"), ("v", .nat 1)] := by
    simp only [nonReplayablePayload, Value.ofFields, List.foldr, insertSorted]
    rfl
  rw [hfields]
  simp [valueChars, fieldsChars]

theorem serverToolPayload_fields (name : String) : serverToolPayload name =
    .object [("kind", .string "anthropic_server_tool_use"), ("name", .string name),
      ("v", .nat 1)] := by
  simp only [serverToolPayload, Value.ofFields, List.foldr, insertSorted]
  rfl

theorem serverToolPayload_chars (name : String) :
    valueChars (serverToolPayload name) = '\x7b' ::
      (fieldsChars [("kind", .string "anthropic_server_tool_use")] ++ ',' ::
        (stringChars "name" ++ ':' :: (stringChars name ++ ',' ::
          (fieldsChars [("v", .nat 1)] ++ ['\x7d'])))) := by
  rw [serverToolPayload_fields]
  simp [valueChars, fieldsChars]

theorem serverToolPayload_floats (name : String) : (serverToolPayload name).floats = [] := by
  rw [serverToolPayload_fields]
  simp [Value.nat, Value.floats, fieldsFloats]

theorem nonReplayablePayload_inj {name name' raw raw' : String}
    (h : valueChars (nonReplayablePayload name raw) =
      valueChars (nonReplayablePayload name' raw')) : name = name' ∧ raw = raw' := by
  rw [nonReplayablePayload_chars, nonReplayablePayload_chars] at h
  have h := List.append_cancel_left (List.cons.inj h).2
  obtain ⟨hname, h⟩ := stringChars_inj (List.cons.inj h).2
  have h := List.append_cancel_left (List.cons.inj h).2
  obtain ⟨hraw, -⟩ := stringChars_inj (List.cons.inj h).2
  exact ⟨hname, hraw⟩

theorem serverToolPayload_inj {name name' : String}
    (h : valueChars (serverToolPayload name) = valueChars (serverToolPayload name')) :
    name = name' := by
  rw [serverToolPayload_chars, serverToolPayload_chars] at h
  have h := List.append_cancel_left (List.cons.inj h).2
  have h := List.append_cancel_left (List.cons.inj h).2
  exact (stringChars_inj (List.cons.inj h).2).1

section

variable {env : Env} (hcollisionFree : Function.Injective env.sha256Hex)

include hcollisionFree

/-- Without collisions, a signature is that of a single text. -/
theorem signature_inj {payload payload' : Value}
    (h : env.signature payload = env.signature payload') :
    valueChars payload = valueChars payload' := by
  have hbytes := List.append_cancel_left (hcollisionFree h)
  exact String.ofList_injective (bytesOf_injective hbytes)

theorem nonReplayableSignature_inj {name name' raw raw' : String}
    (h : env.signature (nonReplayablePayload name raw) =
      env.signature (nonReplayablePayload name' raw')) : name = name' ∧ raw = raw' :=
  nonReplayablePayload_inj (signature_inj hcollisionFree h)

theorem serverToolSignature_inj {name name' : String}
    (h : env.signature (serverToolPayload name) = env.signature (serverToolPayload name')) :
    name = name' := serverToolPayload_inj (signature_inj hcollisionFree h)

/-- Keys are told apart whatever is signed, as there is no zero byte in JSON. -/
theorem signature_key_inj {other : Env} (hdigest : other.sha256Hex = env.sha256Hex)
    {payload payload' : Value} (hfloats : payload.floats = []) (hfloats' : payload'.floats = [])
    (h : other.signature payload' = env.signature payload) :
    other.internalReplayMarkerKey = env.internalReplayMarkerKey := by
  have hnoZero : ∀ {payload : Value}, payload.floats = [] → 0 ∉ bytesOf payload.toJson := by
    intro payload hfloats hmem
    have hcontrol : NoControl (valueChars payload) := noControl_valueChars (by simp [hfloats])
    have hchar := Utf8.mem_of_mem_bytesOf (c := Char.ofNat 0) (by decide) hmem
    rw [Value.toJson, String.toList_ofList] at hchar
    exact absurd (hcontrol _ hchar) (by decide)
  unfold Env.signature at h
  rw [hdigest] at h
  have hbytes := hcollisionFree h
  rw [List.append_assoc, List.append_assoc] at hbytes
  exact bytesOf_injective (lastField_inj (hnoZero hfloats') (hnoZero hfloats) hbytes).1

end

/-! ## The marker of a call -/

/-- A marker that the proxy has made for this name and payload. -/
def markerIsFor (env : Env) (name raw : String) (marker : Value) : Bool :=
  marker.getStr "reason" = some "incomplete_arguments" && marker.getU64 "v" = some 1 &&
    marker.getStr "sig" = some (env.signature (nonReplayablePayload name raw))

/-- The name and the payload that the marker of a call has to be for. -/
def signedName (env : Env) (value : Value) : String :=
  (nonReplayableToolCallNameAndRaw env value).1.getD ""

def signedRaw (env : Env) (value : Value) : String :=
  (nonReplayableToolCallNameAndRaw env value).2.getD ""

theorem isMarked_eq (env : Env) (value : Value) : toolCallIsMarkedNonReplayable env value =
    (value.get nonReplayableToolCallField).any
      (markerIsFor env (signedName env value) (signedRaw env value)) := rfl

theorem isMarked_of_get {env : Env} {value marker : Value}
    (h : value.get nonReplayableToolCallField = some marker) :
    toolCallIsMarkedNonReplayable env value =
      markerIsFor env (signedName env value) (signedRaw env value) marker := by
  rw [isMarked_eq, h]
  rfl

theorem isMarked_of_absent {env : Env} {value : Value}
    (h : value.get nonReplayableToolCallField = none) :
    toolCallIsMarkedNonReplayable env value = false := by
  rw [isMarked_eq, h]
  rfl

/-- **A marker is for one name and one payload.** -/
theorem markerIsFor_inj {env : Env} (hcollisionFree : Function.Injective env.sha256Hex)
    {name name' raw raw' : String} {marker : Value} (h : markerIsFor env name raw marker = true)
    (h' : markerIsFor env name' raw' marker = true) : name = name' ∧ raw = raw' := by
  simp only [markerIsFor, Bool.and_eq_true, decide_eq_true_eq] at h h'
  exact nonReplayableSignature_inj hcollisionFree (Option.some.inj (h.2.symm.trans h'.2))

def SameBut (field : String) (v w : Value) : Prop := ∀ k, k ≠ field → v.get k = w.get k

theorem SameBut.getStr {field : String} {v w : Value} (h : SameBut field v w) {k : String}
    (hk : k ≠ field) : v.getStr k = w.getStr k := congrArg (Option.bind · Value.asStr) (h k hk)

theorem sameBut_mark (env : Env) (value : Value) :
    SameBut nonReplayableToolCallField (markToolCallAsNonReplayable env value) value :=
  fun _ hk => get_markToolCall env value hk

/-- The fields that the name and the payload of a call are looked for in. -/
def callFields : List String :=
  ["type", "function", "custom", "name", "input", "arguments", "proxied_tool_kind",
    "_llmup_proxied_tool_kind_sig"]

section

variable {field : String} (hfield : field ∉ callFields) {v w : Value} (h : SameBut field v w)

include hfield

theorem ne_field {k : String} (hk : k ∈ callFields) : k ≠ field := fun heq => hfield (heq ▸ hk)

include h

theorem customPayload_sameBut {k : String} (hk : k ∈ callFields) :
    (openaiCustomToolPayload v).bind (Value.get · k) =
      (openaiCustomToolPayload w).bind (Value.get · k) := by
  unfold openaiCustomToolPayload
  rw [h.getStr (ne_field hfield (k := "type") (by decide)),
    h "custom" (ne_field hfield (by decide)), h "function" (ne_field hfield (by decide)),
    h "name" (ne_field hfield (by decide))]
  split
  · rfl
  · cases ((w.get "custom").filter Value.isObject).or ((w.get "function").filter Value.isObject) with
    | some payload => rfl
    | none =>
      simp only [Option.none_or]
      split
      · exact h k (ne_field hfield hk)
      · rfl

theorem semanticKind_sameBut (env : Env) :
    semanticToolKindFromValue env v = semanticToolKindFromValue env w := by
  unfold semanticToolKindFromValue proxiedToolKindIsAttested proxiedToolKindName
  rw [h.getStr (ne_field hfield (k := "proxied_tool_kind") (by decide)),
    h.getStr (ne_field hfield (k := "_llmup_proxied_tool_kind_sig") (by decide)),
    h "function" (ne_field hfield (by decide)),
    h.getStr (ne_field hfield (k := "name") (by decide)),
    h.getStr (ne_field hfield (k := "type") (by decide))]

theorem customInput_sameBut : openaiCustomToolInputRaw v = openaiCustomToolInputRaw w := by
  have hfirst := customPayload_sameBut hfield h (k := "input") (by decide)
  have hsecond := customPayload_sameBut hfield h (k := "arguments") (by decide)
  unfold openaiCustomToolInputRaw
  cases hv : openaiCustomToolPayload v with
  | none =>
    cases hw : openaiCustomToolPayload w with
    | none => rfl
    | some other =>
      rw [hv, hw] at hfirst hsecond
      simp only [Option.bind_none, Option.bind_some] at hfirst hsecond ⊢
      rw [← hfirst, ← hsecond]
      rfl
  | some payload =>
    cases hw : openaiCustomToolPayload w with
    | none =>
      rw [hv, hw] at hfirst hsecond
      simp only [Option.bind_none, Option.bind_some] at hfirst hsecond ⊢
      rw [hfirst, hsecond]
      rfl
    | some other =>
      rw [hv, hw] at hfirst hsecond
      simp only [Option.bind_some] at hfirst hsecond ⊢
      rw [hfirst, hsecond]

theorem customName_sameBut : openaiCustomToolName v = openaiCustomToolName w := by
  have hget := congrArg (Option.bind · Value.asStr)
    (customPayload_sameBut hfield h (k := "name") (by decide))
  have hname : (openaiCustomToolPayload v).bind (Value.getStr · "name") =
      (openaiCustomToolPayload w).bind (Value.getStr · "name") := by
    simpa [Option.bind_assoc, Value.getStr] using hget
  unfold openaiCustomToolName
  rw [hname]

/-- No other field is looked at for what the marker has to be for. -/
theorem nameAndRaw_sameBut (env : Env) :
    nonReplayableToolCallNameAndRaw env v = nonReplayableToolCallNameAndRaw env w := by
  have harguments : openaiToolArgumentsRaw v = openaiToolArgumentsRaw w := by
    unfold openaiToolArgumentsRaw
    rw [h "function" (ne_field hfield (by decide)), h "arguments" (ne_field hfield (by decide))]
  have hitem : responsesToolCallInputRaw env v = responsesToolCallInputRaw env w := by
    unfold responsesToolCallInputRaw
    rw [semanticKind_sameBut hfield h env, h.getStr (ne_field hfield (k := "input") (by decide)),
      h.getStr (ne_field hfield (k := "arguments") (by decide))]
  unfold nonReplayableToolCallNameAndRaw
  rw [h "function" (ne_field hfield (by decide)), customName_sameBut hfield h,
    h.getStr (ne_field hfield (k := "name") (by decide)), harguments, customInput_sameBut hfield h,
    hitem]

end

/-- A call is marked for its own name and payload. -/
theorem isMarked_mark (env : Env) {value : Value} (h : value.isObject = true) :
    toolCallIsMarkedNonReplayable env (markToolCallAsNonReplayable env value) = true := by
  have hmarker : (markToolCallAsNonReplayable env value).get nonReplayableToolCallField =
      some (.ofFields [("reason", .string "incomplete_arguments"), ("v", .nat 1),
        ("sig", .string (nonReplayableToolCallSignature env value))]) := by
    unfold markToolCallAsNonReplayable
    rw [if_pos h]
    exact Value.get_set_self h _ _
  have hsame := nameAndRaw_sameBut (by decide) (sameBut_mark env value) env
  rw [isMarked_of_get hmarker, signedName, signedRaw, hsame]
  simp [markerIsFor, Value.getStr, Value.getU64, List.lookup_cons, nonReplayableToolCallSignature,
    nonReplayablePayload]

/-- **A copied marker says of the copy what the original says of its call.** -/
theorem isMarked_copy (env : Env) (source : Value) {dest : Value} (hobject : dest.isObject = true)
    (hdest : dest.get nonReplayableToolCallField = none) :
    toolCallIsMarkedNonReplayable env (copyNonReplayableToolCallMarker env source dest) =
      toolCallIsMarkedNonReplayable env source := by
  unfold copyNonReplayableToolCallMarker
  cases hsource : toolCallIsMarkedNonReplayable env source with
  | true => exact isMarked_mark env hobject
  | false => exact isMarked_of_absent hdest

end LlmUniversalProxy.Translate
