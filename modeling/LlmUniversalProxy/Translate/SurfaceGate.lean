import LlmUniversalProxy.Translate.PairAssessment

/-!
# `Translate.SurfaceGate` — which media the surface of a model keeps out

The surface of a model may declare the media it takes, and a request that carries another one is to be
turned away before it is translated or forwarded: between equal formats the body goes out as it is
after this one check (`translate/internal/assessment.rs` 1380-1440, `docs/configuration.md` 290-309).

What a request carries is said here without a look at the code. `mediumOf` goes by the word that a
part has for itself, whatever the format, and for files by their MIME type; `CarriedPart` goes through
the content of messages, the system prompt, the items of an input, and all that is nested in them.
`ShownMedium` is what the collectors of `Translate.Assessment` see of that. They pass by

- a content of the OpenAI formats that is a single object, though the walk of the MIME conflicts over
  the same content does look at it,
- the output of the tool calls of Responses,
- all that is in the content of an Anthropic tool result or of a document,
- parts with a word for their medium that the reader of the format does not know, such as `video_url`
  in Chat, or a `video` of Anthropic that has no MIME type.

Such a medium gets past the gate unless one of its kind is shown as well, or the request is rejected
for another reason (`RefusedAnyway`). `surface_gate_complete_iff` says so, for every pair of formats.
-/

set_option autoImplicit false

namespace LlmUniversalProxy.Translate

open Json Lib
open Server (ModelModality ModelSurface)

/-! ## What a request carries -/

/-- Text is no medium. -/
def unlessText (modality : ModelModality) : Option ModelModality :=
  if modality = .text then none else some modality

def sourceModality (part : Value) : Option ModelModality :=
  ((part.get "source").bind (Value.getStr · "media_type")).bind mimeTypeToInputModality

/-- The medium that a part is. The words for a medium are those of all formats together, since a part
that one format has no word for is passed on all the same. The MIME type of a file of OpenAI is the
one that its fields come to (`Translate.MediaSources`); a document is a PDF or another file; and a
part with another word is what the MIME type of its source says. -/
def mediumOf (part : Value) : Option ModelModality :=
  match part.getStr "type" with
  | some "image" | some "image_url" | some "input_image" | some "computer_screenshot" =>
      some .image
  | some "audio" | some "audio_url" | some "input_audio" | some "output_audio" => some .audio
  | some "video" | some "video_url" | some "input_video" => some .video
  | some "file" | some "input_file" => unlessText (openaiFilePartModality part)
  | some "document" | some "container_upload" =>
      if sourceModality part = some .pdf then some .pdf else some .file
  | _ => (sourceModality part).bind unlessText

/-- What a part has inside: its content, its output, and the content of its source. -/
def partsInside (part : Value) : List Value :=
  contentParts (part.get "content") ++ contentParts (part.get "output") ++
    contentParts ((part.get "source").bind (Value.get · "content"))

/-- The parts that a request carries, at any depth. -/
inductive CarriedPart (format : UpstreamFormat) (body : Value) : Value → Prop
  | message {message part : Value} (hformat : format ≠ .openAiResponses)
      (hmessage : message ∈ messagesOf body) (hpart : part ∈ contentParts (message.get "content")) :
      CarriedPart format body part
  | system {part : Value} (hformat : format = .anthropic)
      (hpart : part ∈ contentParts (body.get "system")) : CarriedPart format body part
  | item {item : Value} (hformat : format = .openAiResponses) (hitem : item ∈ inputItemsOf body) :
      CarriedPart format body item
  | inside {outer part : Value} (houter : CarriedPart format body outer)
      (hpart : part ∈ partsInside outer) : CarriedPart format body part

/-- A request carries a medium: one of its parts is one, or a message of Chat refers to audio that the
provider keeps. -/
inductive CarriesMedium (format : UpstreamFormat) (body : Value) : ModelModality → Prop
  | part {part : Value} {modality : ModelModality} (hpart : CarriedPart format body part)
      (hmedium : mediumOf part = some modality) : CarriesMedium format body modality
  | keptAudio {message audio : Value} (hformat : format = .openAiChatCompletions)
      (hmessage : message ∈ messagesOf body) (haudio : message.get "audio" = some audio)
      (hnull : audio.isNull = false) : CarriesMedium format body .audio

/-! ## What the collectors see -/

/-- A block of the system prompt or of a message of Anthropic. -/
def AnthropicBlock (body block : Value) : Prop :=
  block ∈ contentParts (body.get "system") ∨
    ∃ message ∈ messagesOf body, block ∈ contentParts (message.get "content")

/-- The media that are seen: at these places, and of the kind that the reader of a part takes it for. -/
inductive ShownMedium : UpstreamFormat → Value → ModelModality → Prop
  | messageAudio {body message audio : Value} (hmessage : message ∈ messagesOf body)
      (haudio : message.get "audio" = some audio) (hnull : audio.isNull = false) :
      ShownMedium .openAiChatCompletions body .audio
  | messagePart {body message part : Value} {parts : List Value} {modality : ModelModality}
      (hmessage : message ∈ messagesOf body) (hparts : message.getArray "content" = some parts)
      (hpart : part ∈ parts) (hmodality : modality ∈ openaiInputPartModalities part) :
      ShownMedium .openAiChatCompletions body modality
  | item {body item : Value} {modality : ModelModality} (hitem : item ∈ inputItemsOf body)
      (hmodality : modality ∈ openaiInputPartModalities item) :
      ShownMedium .openAiResponses body modality
  | outputAudio {body item : Value} (hitem : item ∈ inputItemsOf body)
      (htype : responsesInputItemType item = some "output_audio") :
      ShownMedium .openAiResponses body .audio
  | itemPart {body item part : Value} {parts : List Value} {modality : ModelModality}
      (hitem : item ∈ inputItemsOf body) (htype : responsesInputItemType item = some "message")
      (hparts : item.getArray "content" = some parts) (hpart : part ∈ parts)
      (hmodality : modality ∈ openaiInputPartModalities part) :
      ShownMedium .openAiResponses body modality
  | block {body block : Value} {modality : ModelModality} (hblock : AnthropicBlock body block)
      (hmodality : modality ∈ anthropicBlockInputModalities block) :
      ShownMedium .anthropic body modality

theorem mem_anthropicRequest {body : Value} {modality : ModelModality} :
    modality ∈ anthropicRequestInputModalities body ↔
      ∃ block, AnthropicBlock body block ∧ modality ∈ anthropicBlockInputModalities block := by
  unfold anthropicRequestInputModalities anthropicContentInputModalities AnthropicBlock messagesOf
  simp only [List.mem_append, List.mem_flatMap]
  constructor
  · rintro (⟨block, hblock, hmodality⟩ | ⟨message, hmessage, block, hblock, hmodality⟩)
    · exact ⟨block, .inl hblock, hmodality⟩
    · exact ⟨block, .inr ⟨message, hmessage, hblock⟩, hmodality⟩
  · rintro ⟨block, hblock | ⟨message, hmessage, hblock⟩, hmodality⟩
    · exact .inl ⟨block, hblock, hmodality⟩
    · exact .inr ⟨message, hmessage, block, hblock, hmodality⟩

/-- The parts of a content that is a list. -/
theorem mem_parts {value part : Value} {field : String} :
    part ∈ (value.getArray field).getD [] ↔
      ∃ parts, value.getArray field = some parts ∧ part ∈ parts := by
  cases value.getArray field with
  | none => simp
  | some parts => simp

theorem messageAudio_iff {message : Value} :
    ((message.get "audio").any fun audio => !audio.isNull) = true ↔
      ∃ audio, message.get "audio" = some audio ∧ audio.isNull = false := by
  simp [Option.any_eq_true]

theorem shown_of_message {body message : Value} {modality : ModelModality}
    (hmessage : message ∈ messagesOf body)
    (h : modality ∈ openaiCompletionMessageInputModalities message) :
    ShownMedium .openAiChatCompletions body modality := by
  rcases List.mem_append.mp h with h | h
  · split at h
    · next haudio =>
      obtain ⟨audio, haudio, hnull⟩ := messageAudio_iff.mp haudio
      cases List.mem_singleton.mp h
      exact .messageAudio hmessage haudio hnull
    · cases h
  · obtain ⟨part, hpart, hmodality⟩ := List.mem_flatMap.mp h
    obtain ⟨parts, hparts, hpart⟩ := mem_parts.mp hpart
    exact .messagePart hmessage hparts hpart hmodality

theorem shown_of_completion {body : Value} {modality : ModelModality}
    (h : modality ∈ openaiCompletionInputModalities body) :
    ShownMedium .openAiChatCompletions body modality := by
  rcases List.mem_append.mp h with h | h
  · split at h
    · next hhistory =>
      obtain ⟨message, hmessage, haudio⟩ := List.any_eq_true.mp hhistory
      obtain ⟨audio, haudio, hnull⟩ := messageAudio_iff.mp (Bool.and_eq_true_iff.mp haudio).2
      cases List.mem_singleton.mp h
      exact .messageAudio hmessage haudio hnull
    · cases h
  · obtain ⟨message, hmessage, hmodality⟩ := List.mem_flatMap.mp h
    exact shown_of_message hmessage hmodality

theorem shown_of_item {body item : Value} {modality : ModelModality}
    (hitem : item ∈ inputItemsOf body)
    (h : modality ∈ openaiResponsesInputItemModalities item) :
    ShownMedium .openAiResponses body modality := by
  rcases List.mem_append.mp h with h | h
  · exact .item hitem h
  · split at h
    · next htype =>
      obtain ⟨part, hpart, hmodality⟩ := List.mem_flatMap.mp h
      obtain ⟨parts, hparts, hpart⟩ := mem_parts.mp hpart
      exact .itemPart hitem htype hparts hpart hmodality
    · next htype =>
      cases List.mem_singleton.mp h
      exact .outputAudio hitem htype
    · cases h

/-- Nothing is found that is not at one of the places. -/
theorem shown_of_found {format : UpstreamFormat} {body : Value} {modality : ModelModality}
    (h : modality ∈ foundInputModalities format body) : ShownMedium format body modality := by
  cases format with
  | anthropic =>
    obtain ⟨block, hblock, hmodality⟩ := mem_anthropicRequest.mp h
    exact .block hblock hmodality
  | openAiChatCompletions => exact shown_of_completion h
  | openAiResponses =>
    obtain ⟨item, hitem, hmodality⟩ := List.mem_flatMap.mp h
    exact shown_of_item hitem hmodality

/-- What is at one of the places is found. -/
theorem ShownMedium.found {format : UpstreamFormat} {body : Value} {modality : ModelModality}
    (h : ShownMedium format body modality) : modality ∈ foundInputModalities format body := by
  cases h with
  | @messageAudio _ message _ hmessage haudio hnull =>
    refine List.mem_append_right _ (List.mem_flatMap.mpr ⟨message, hmessage, ?_⟩)
    refine List.mem_append_left _ ?_
    rw [if_pos (messageAudio_iff.mpr ⟨_, haudio, hnull⟩)]
    exact List.mem_singleton_self _
  | @messagePart _ message part _ _ hmessage hparts hpart hmodality =>
    refine List.mem_append_right _ (List.mem_flatMap.mpr ⟨message, hmessage, ?_⟩)
    refine List.mem_append_right _ (List.mem_flatMap.mpr ⟨part, ?_, hmodality⟩)
    exact mem_parts.mpr ⟨_, hparts, hpart⟩
  | @item _ item _ hitem hmodality =>
    exact List.mem_flatMap.mpr ⟨item, hitem, List.mem_append_left _ hmodality⟩
  | @outputAudio _ item hitem htype =>
    refine List.mem_flatMap.mpr ⟨item, hitem, List.mem_append_right _ ?_⟩
    rw [htype]
    exact List.mem_singleton_self _
  | @itemPart _ item part _ _ hitem htype hparts hpart hmodality =>
    refine List.mem_flatMap.mpr ⟨item, hitem, List.mem_append_right _ ?_⟩
    rw [htype]
    exact List.mem_flatMap.mpr ⟨part, mem_parts.mpr ⟨_, hparts, hpart⟩, hmodality⟩
  | @block _ block _ hblock hmodality =>
    exact mem_anthropicRequest.mpr ⟨block, hblock, hmodality⟩

theorem mem_requestInput_iff {format : UpstreamFormat} {body : Value} {modality : ModelModality} :
    modality ∈ requestInputModalities format body ↔ ShownMedium format body modality :=
  mem_requestInputModalities.trans ⟨shown_of_found, ShownMedium.found⟩

/-! ## Surfaces -/

/-- A declared list of media leaves a modality out. What takes files takes a PDF. -/
def LeavesOut (allowed : List ModelModality) (modality : ModelModality) : Prop :=
  modality ∉ allowed ∧ (modality = .pdf → ModelModality.file ∉ allowed)

instance (allowed : List ModelModality) (modality : ModelModality) :
    Decidable (LeavesOut allowed modality) := inferInstanceAs (Decidable (_ ∧ _))

theorem surfaceAllowsModality_eq_false {allowed : List ModelModality} {modality : ModelModality} :
    surfaceAllowsModality (some allowed) modality = false ↔ LeavesOut allowed modality := by
  simp [LeavesOut, surfaceAllowsModality]

theorem LeavesOut.file_of_pdf {allowed : List ModelModality} (h : LeavesOut allowed .pdf) :
    LeavesOut allowed .file :=
  ⟨h.2 rfl, fun h => (nomatch h)⟩

/-- A shown medium that the surface leaves out is held against the request. -/
theorem rejects_of_shown {format : UpstreamFormat} {body : Value} {surface : ModelSurface}
    {allowed : List ModelModality} {modality : ModelModality}
    (hallowed : surface.inputModalities = some allowed) (hout : LeavesOut allowed modality)
    (h : ShownMedium format body modality) :
    Rejects (assessSurfaceRequestPolicy format body surface) := by
  unfold assessSurfaceRequestPolicy
  refine rejects_append.mpr (.inl (rejects_append.mpr (.inr (rejects_map.mpr ⟨modality, ?_⟩))))
  refine List.mem_filter.mpr ⟨mem_requestInput_iff.mpr h, ?_⟩
  rw [hallowed, surfaceAllowsModality_eq_false.mpr hout]
  rfl

/-- The modalities of a surface that leaves out `modality` and as little else as it can. -/
def allBut (modality : ModelModality) : List ModelModality :=
  ModelModality.all.filter fun other => other ≠ modality && !(modality = .pdf && other = .file)

/-- A surface that declares these modalities and nothing else. -/
def inputOnly (allowed : List ModelModality) : ModelSurface :=
  { modalities := some { input := some allowed } }

theorem leavesOut_allBut (modality : ModelModality) : LeavesOut (allBut modality) modality := by
  cases modality <;> decide

theorem not_rejects_inputOnly {format : UpstreamFormat} {body : Value}
    {allowed : List ModelModality}
    (h : ∀ modality, ShownMedium format body modality → ¬ LeavesOut allowed modality) :
    ¬ Rejects (assessSurfaceRequestPolicy format body (inputOnly allowed)) := by
  unfold assessSurfaceRequestPolicy
  rw [rejects_append, rejects_append, rejects_map, rejects_map]
  rintro ((⟨_, hmem⟩ | ⟨modality, hmodality⟩) | ⟨modality, hmodality⟩)
  · cases hmem
  · obtain ⟨hshown, hout⟩ := List.mem_filter.mp hmodality
    rw [Bool.not_eq_true'] at hout
    exact h modality (mem_requestInput_iff.mp hshown) (surfaceAllowsModality_eq_false.mp hout)
  · cases (List.mem_filter.mp hmodality).2

/-! ## The gate -/

/-- A medium is shown, or it is a PDF and a file is: then no surface leaves it out without leaving
out something that is shown. -/
def Covered (format : UpstreamFormat) (body : Value) (modality : ModelModality) : Prop :=
  ShownMedium format body modality ∨ (modality = .pdf ∧ ShownMedium format body .file)

/-- A medium that is not covered passes the surface that is made for it. -/
theorem not_leavesOut_allBut {format : UpstreamFormat} {body : Value} {hidden : ModelModality}
    (h : ¬ Covered format body hidden) {modality : ModelModality}
    (hshown : ShownMedium format body modality) : ¬ LeavesOut (allBut hidden) modality := by
  have hne : modality ≠ hidden := by
    rintro rfl
    exact h (.inl hshown)
  have hfile : hidden = .pdf → modality ≠ .file := by
    rintro rfl rfl
    exact h (.inr ⟨rfl, hshown⟩)
  intro hout
  refine hout.1 (List.mem_filter.mpr ⟨modality.mem_all, ?_⟩)
  simp only [Bool.and_eq_true, decide_eq_true_eq, Bool.not_eq_true', Bool.and_eq_false_iff,
    decide_eq_false_iff_not]
  refine ⟨hne, ?_⟩
  by_cases hpdf : hidden = .pdf
  · exact .inr (hfile hpdf)
  · exact .inl hpdf

section

variable (env : Env) (clientFormat upstreamFormat : UpstreamFormat)
  (body : Value) (resolvedUpstreamModel : String) (reasoningMapped : Bool)

/-- **The gate is complete** for a request, whatever the surface declares, if and only if every medium
of the request has one of its kind that is shown, or the request is rejected anyway. -/
theorem surface_gate_complete_iff :
    (∀ (surface : ModelSurface) (allowed : List ModelModality) (modality : ModelModality),
      surface.inputModalities = some allowed → LeavesOut allowed modality →
      CarriesMedium clientFormat body modality →
      ∃ message, decision (assessRequestTranslationWithSurface (assessPair env) clientFormat
        upstreamFormat body surface resolvedUpstreamModel reasoningMapped) = .reject message) ↔
    (∀ modality, CarriesMedium clientFormat body modality → Covered clientFormat body modality) ∨
      RefusedAnyway env clientFormat upstreamFormat body := by
  simp only [decision_reject, rejects_withSurface, rejects_withDialect_iff]
  constructor
  · intro hgate
    by_cases hrefused : RefusedAnyway env clientFormat upstreamFormat body
    · exact .inr hrefused
    refine .inl fun modality hcarries => Classical.byContradiction fun hcovered => ?_
    -- the surface that leaves out this medium and nothing that is shown
    rcases hgate (inputOnly (allBut modality)) (allBut modality) modality rfl
      (leavesOut_allBut modality) hcarries with h | h
    · exact not_rejects_inputOnly (fun _ hshown => not_leavesOut_allBut hcovered hshown) h
    · exact hrefused h
  · rintro (hcovered | hrefused) surface allowed modality hallowed hout hcarries
    · refine .inl ?_
      rcases hcovered modality hcarries with hshown | ⟨rfl, hshown⟩
      · exact rejects_of_shown hallowed hout hshown
      · exact rejects_of_shown hallowed hout.file_of_pdf hshown
    · exact .inr hrefused

end

/-! ## An image in a tool result -/

/-- An image in the answer of a tool. -/
def imageBlock : Value :=
  .ofFields [("type", .string "image"), ("source", .ofFields [("type", .string "base64"),
    ("media_type", .string "image/png"), ("data", .string "iVBORw0KGgo=")])]

/-- The answer of a tool that took a picture. -/
def screenshotResult : Value :=
  .ofFields [("type", .string "tool_result"), ("tool_use_id", .string "toolu_1"),
    ("content", .array [imageBlock])]

/-- A request of Anthropic whose last message is the answer of a tool. -/
def screenshotBody : Value :=
  .ofFields [("model", .string "claude"), ("max_tokens", .nat 16), ("messages", .array [
    .ofFields [("role", .string "assistant"), ("content", .array [.ofFields [
      ("type", .string "tool_use"), ("id", .string "toolu_1"), ("name", .string "screenshot"),
      ("input", .ofFields [])]])],
    .ofFields [("role", .string "user"), ("content", .array [screenshotResult])]])]

theorem screenshot_carries : CarriesMedium .anthropic screenshotBody .image := by
  have hresult : CarriedPart .anthropic screenshotBody screenshotResult :=
    .message (by decide) (List.mem_cons_of_mem _ (List.mem_singleton_self _))
      (List.mem_singleton_self _)
  exact .part (.inside hresult (List.mem_singleton_self _)) rfl

/-- A model that takes text only is sent the image in the answer of a tool. -/
theorem screenshot_passes_the_gate :
    ¬ ∀ (env : Env) (clientFormat upstreamFormat : UpstreamFormat) (body : Value)
      (resolvedUpstreamModel : String) (reasoningMapped : Bool) (surface : ModelSurface)
      (allowed : List ModelModality) (modality : ModelModality),
      surface.inputModalities = some allowed → LeavesOut allowed modality →
      CarriesMedium clientFormat body modality →
      ∃ message, decision (assessRequestTranslationWithSurface (assessPair env) clientFormat
        upstreamFormat body surface resolvedUpstreamModel reasoningMapped) = .reject message := by
  intro h
  obtain ⟨message, hmessage⟩ := h .still .anthropic .anthropic screenshotBody "claude" false
    (inputOnly [.text]) [.text] .image rfl (by decide) screenshot_carries
  have hallow : decision (assessRequestTranslationWithSurface (assessPair .still) .anthropic
      .anthropic screenshotBody (inputOnly [.text]) "claude" false) = .allow := by decide +kernel
  rw [hallow] at hmessage
  cases hmessage

end LlmUniversalProxy.Translate
