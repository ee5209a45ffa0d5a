import LlmUniversalProxy.Json.ReadBack
import LlmUniversalProxy.Streaming.ChunkReader

/-!
# `Streaming.WireRoundTrip` — what is written on the wire is read off it

An event is written as a frame of one line or two. The value goes out as JSON, which has no line
breaks, so the blank line that ends the frame is the first one of the stream, and the frames that
follow are not touched. The values come back as they were. Of an event type the white space around
it does not come back, and a blank one not at all: the reader takes it for no type.

The writers are `format_sse_data` and `format_sse_event` (`streaming/wire.rs` 115-131).
-/

set_option autoImplicit false

namespace LlmUniversalProxy.Streaming

open Json Lib

/-! ## The end of a frame -/

/-- Text without line breaks. -/
def IsLine (s : String) : Prop := '\n' ∉ s.toList ∧ '\r' ∉ s.toList

instance (s : String) : Decidable (IsLine s) := inferInstanceAs (Decidable (_ ∧ _))

theorem sseFrameEnd_skip {b : UInt8} {rest : List UInt8} (hlf : b ≠ lf) (hcr : b ≠ cr) :
    sseFrameEnd (b :: rest) = (sseFrameEnd rest).map (· + 1) := by
  rw [sseFrameEnd_cons, if_neg, if_neg]
  · rintro hprefix
    exact hcr (List.cons_prefix_cons.mp hprefix).1.symm
  · rintro hprefix
    exact hlf (List.cons_prefix_cons.mp hprefix).1.symm

/-- A line without a line feed is gone through to its end, unless it ends in a carriage return. -/
theorem sseFrameEnd_line {line : List UInt8} (hlf : lf ∉ line) (hcr : line.getLast? ≠ some cr)
    (rest : List UInt8) :
    sseFrameEnd (line ++ lf :: rest) = (sseFrameEnd (lf :: rest)).map (· + line.length) := by
  induction line with
  | nil => simp
  | cons b line ih =>
    rw [List.mem_cons, not_or] at hlf
    have hskip : sseFrameEnd (b :: (line ++ lf :: rest)) =
        (sseFrameEnd (line ++ lf :: rest)).map (· + 1) := by
      by_cases hb : b = cr
      · subst hb
        cases line with
        | nil => exact absurd rfl hcr
        | cons c line =>
          have hc : c ≠ lf := fun h => hlf.2 (h ▸ List.mem_cons_self)
          rw [sseFrameEnd_cons, if_neg, if_neg]
          · intro hprefix
            have hrest := (List.cons_prefix_cons.mp hprefix).2
            exact hc (List.cons_prefix_cons.mp hrest).1.symm
          · intro hprefix
            exact absurd (List.cons_prefix_cons.mp hprefix).1 (by decide)
      · exact sseFrameEnd_skip (Ne.symm hlf.1) hb
    have hlast : line.getLast? ≠ some cr := by
      cases line with
      | nil => simp
      | cons c line => rwa [List.getLast?_cons_cons] at hcr
    rw [List.cons_append, hskip, ih hlf.2 hlast, Option.map_map]
    rfl

theorem sseFrameEnd_break {b : UInt8} {rest : List UInt8} (hb : b ≠ lf) :
    sseFrameEnd (lf :: b :: rest) = (sseFrameEnd (b :: rest)).map (· + 1) := by
  rw [sseFrameEnd_cons, if_neg, if_neg]
  · intro hprefix
    exact absurd (List.cons_prefix_cons.mp hprefix).1 (by decide)
  · intro hprefix
    exact hb (List.cons_prefix_cons.mp (List.cons_prefix_cons.mp hprefix).2).1.symm

theorem lf_notMem_bytesOf {s : String} (h : '\n' ∉ s.toList) : lf ∉ bytesOf s :=
  fun hmem => h (Utf8.mem_of_mem_bytesOf (c := '\n') (by decide) hmem)

theorem cr_notMem_bytesOf {s : String} (h : '\r' ∉ s.toList) : cr ∉ bytesOf s :=
  fun hmem => h (Utf8.mem_of_mem_bytesOf (c := '\r') (by decide) hmem)

/-- The last byte is a carriage return when the last character is one. -/
theorem getLast?_bytesOf {s : String} (h : s.toList.getLast? ≠ some '\r') :
    (bytesOf s).getLast? ≠ some cr := by
  rw [Utf8.bytesOf_eq]
  cases hchar : s.toList.getLast? with
  | none =>
    rw [List.getLast?_eq_none_iff.mp hchar]
    simp
  | some c =>
    obtain ⟨cs, hcs⟩ := List.getLast?_eq_some_iff.mp hchar
    rw [hcs, List.flatMap_append, List.flatMap_singleton]
    intro hlast
    have hne : String.utf8EncodeChar c ≠ [] := by
      intro hnil
      have hsize := String.length_utf8EncodeChar c
      rw [hnil] at hsize
      exact absurd hsize.symm (Nat.ne_of_gt c.utf8Size_pos)
    rw [List.getLast?_append_of_ne_nil _ hne] at hlast
    have hmem := List.mem_of_getLast? hlast
    have hc := Utf8.eq_of_mem_encode hmem (by decide)
    exact h (hchar.trans (congrArg some (Char.toNat_inj.mp hc)))

/-! ## The text of a frame -/

/-- The lines of a frame, each with its end, and the blank line. -/
def frameText : List String → String
  | [] => "\n"
  | line :: rest => line ++ "\n" ++ frameText rest

/-- Text that is a line, or the end of one, and keeps its last character: a carriage return would
be taken for a part of the break. -/
def KeepsEnd (s : String) : Prop := '\n' ∉ s.toList ∧ s.toList.getLast? ≠ some '\r'

theorem IsLine.keepsEnd {s : String} (h : IsLine s) : KeepsEnd s :=
  ⟨h.1, fun hlast => h.2 (List.mem_of_getLast? hlast)⟩

theorem KeepsEnd.append {s t : String} (hs : IsLine s) (ht : KeepsEnd t) : KeepsEnd (s ++ t) := by
  unfold KeepsEnd
  simp only [String.toList_append, List.mem_append, not_or]
  refine ⟨⟨hs.1, ht.1⟩, ?_⟩
  rw [List.getLast?_append]
  cases hlast : t.toList.getLast? with
  | none => exact fun h => hs.2 (List.mem_of_getLast? h)
  | some c =>
    rw [Option.some_or, ← hlast]
    exact ht.2

def AreLines (ls : List String) : Prop := ∀ line ∈ ls, KeepsEnd line ∧ line ≠ ""

theorem bytes_frameText_cons (line : String) (rest : List String) :
    bytesOf (frameText (line :: rest)) = bytesOf line ++ lf :: bytesOf (frameText rest) := by
  rw [frameText, Text.bytesOf_append, Text.bytesOf_append, List.append_assoc]
  rfl

theorem bytesOf_ne_nil {s : String} (h : s ≠ "") : bytesOf s ≠ [] := by
  intro hnil
  refine h (String.toList_inj.mp ?_)
  rw [← Utf8.fromUtf8Lossy_bytesOf, hnil]
  rfl

theorem sseFrameEnd_lf_frameText {ls : List String} (hls : AreLines ls) :
    sseFrameEnd (lf :: bytesOf (frameText ls)) = some ((bytesOf (frameText ls)).length + 1) := by
  induction ls with
  | nil => rfl
  | cons line rest ih =>
    obtain ⟨⟨hline, hlast⟩, hne⟩ := hls line List.mem_cons_self
    have hlf := lf_notMem_bytesOf hline
    have hcr := getLast?_bytesOf hlast
    have hrest := ih fun other hother => hls other (List.mem_cons_of_mem _ hother)
    rw [bytes_frameText_cons]
    obtain ⟨b, bs, hbytes⟩ := List.exists_cons_of_ne_nil (bytesOf_ne_nil hne)
    have hb : b ≠ lf := by
      rintro rfl
      exact hlf (hbytes ▸ List.mem_cons_self)
    rw [hbytes, List.cons_append, sseFrameEnd_break hb, ← List.cons_append, ← hbytes,
      sseFrameEnd_line hlf hcr, hrest, List.length_append, List.length_cons]
    refine congrArg some ?_
    dsimp only
    omega

/-- **A frame ends where its text does**, and not before. -/
theorem sseFrameEnd_frameText {ls : List String} (hls : AreLines ls) (hne : ls ≠ []) :
    sseFrameEnd (bytesOf (frameText ls)) = some (bytesOf (frameText ls)).length := by
  obtain ⟨line, rest, rfl⟩ := List.exists_cons_of_ne_nil hne
  obtain ⟨⟨hline, hlast⟩, -⟩ := hls line List.mem_cons_self
  have hrest := sseFrameEnd_lf_frameText fun other hother =>
    hls other (List.mem_cons_of_mem _ hother)
  rw [bytes_frameText_cons, sseFrameEnd_line (lf_notMem_bytesOf hline) (getLast?_bytesOf hlast),
    hrest, List.length_append, List.length_cons]
  refine congrArg some ?_
  dsimp only
  omega

theorem linesFrom_line {cs rest : List Char} (hlf : '\n' ∉ cs) :
    ∀ {line : List Char}, (line.reverse ++ cs).getLast? ≠ some '\r' →
      linesFrom line (cs ++ '\n' :: rest) = (line.reverse ++ cs) :: linesFrom [] rest := by
  induction cs with
  | nil =>
    intro line hlast
    cases line with
    | nil => rfl
    | cons c line =>
      rw [List.nil_append, linesFrom, List.append_nil]
      rintro before heq
      cases heq
      simp at hlast
  | cons c cs ih =>
    intro line hlast
    rw [List.mem_cons, not_or] at hlf
    have hlast' : ((c :: line).reverse ++ cs).getLast? ≠ some '\r' := by
      rwa [List.reverse_cons, List.append_assoc, List.singleton_append]
    have hnext := ih hlf.2 hlast'
    rw [List.cons_append, linesFrom, hnext, List.reverse_cons, List.append_assoc]
    · rfl
    · exact fun h => hlf.1 h.symm

/-- The lines of a frame are read off it, with the blank one behind them. -/
theorem lines_frameText {ls : List String} (hls : AreLines ls) :
    lines (Utf8.fromUtf8Lossy (bytesOf (frameText ls))) = ls ++ [""] := by
  rw [Utf8.fromUtf8Lossy_bytesOf]
  unfold lines
  induction ls with
  | nil => rfl
  | cons line rest ih =>
    obtain ⟨⟨hlf, hlast⟩, -⟩ := hls line List.mem_cons_self
    have hchars : (frameText (line :: rest)).toList =
        line.toList ++ '\n' :: (frameText rest).toList := by
      simp [frameText]
    rw [hchars, linesFrom_line hlf (List.nil_append _ ▸ hlast), List.map_cons,
      ih fun other hother => hls other (List.mem_cons_of_mem _ hother)]
    simp

/-! ## The frame of an event -/

/-- The frame of an event with a type, by `format_sse_event`, or without one, by
`format_sse_data`. -/
def formatSse (eventType : Option String) (value : Value) : SseFrame :=
  match eventType with
  | some eventType => .event eventType value
  | none => .data value

def eventLines (eventType : Option String) (value : Value) : List String :=
  (eventType.map ("event: " ++ ·)).toList ++ ["data: " ++ value.toJson]

theorem bytes_formatSse (eventType : Option String) (value : Value) :
    (formatSse eventType value).bytes = bytesOf (frameText (eventLines eventType value)) := by
  cases eventType with
  | none =>
    refine congrArg bytesOf (String.toList_inj.mp ?_)
    simp [eventLines, frameText, toString]
  | some eventType =>
    refine congrArg bytesOf (String.toList_inj.mp ?_)
    simp [eventLines, frameText, toString]

/-- What the JSON of a value is relied on for: it can be read back, and no control character comes
out of the text of a float. -/
structure ReadsBack (serde : Serde) (value : Value) : Prop where
  readBack : fromStr serde value.toJson = some value
  floats : ∀ text ∈ value.floats, NoControl text.toList

theorem isLine_toJson {serde : Serde} {value : Value} (h : ReadsBack serde value) :
    IsLine value.toJson := by
  have hchars : NoControl value.toJson.toList := by
    rw [Value.toJson, String.toList_ofList]
    exact noControl_valueChars h.floats
  exact ⟨fun hlf => absurd (hchars _ hlf) (by decide), fun hcr => absurd (hchars _ hcr) (by decide)⟩

theorem append_ne_empty {s t : String} (hs : s ≠ "") : s ++ t ≠ "" := by
  intro h
  rw [String.append_eq_empty_iff] at h
  exact hs h.1

theorem areLines_event {serde : Serde} {eventType : Option String} {value : Value}
    (htype : ∀ text ∈ eventType, KeepsEnd text) (hvalue : ReadsBack serde value) :
    AreLines (eventLines eventType value) := by
  intro line hline
  rcases List.mem_append.mp hline with hline | hline
  · obtain ⟨text, htext, rfl⟩ := Option.map_eq_some_iff.mp (Option.mem_toList.mp hline)
    exact ⟨.append (by decide) (htype text htext), append_ne_empty (by decide)⟩
  · obtain rfl := List.mem_singleton.mp hline
    exact ⟨.append (by decide) (isLine_toJson hvalue).keepsEnd, append_ne_empty (by decide)⟩

theorem sseFrameEnd_formatSse {serde : Serde} {eventType : Option String} {value : Value}
    (htype : ∀ text ∈ eventType, KeepsEnd text) (hvalue : ReadsBack serde value) :
    sseFrameEnd (formatSse eventType value).bytes =
      some (formatSse eventType value).bytes.length := by
  rw [bytes_formatSse]
  refine sseFrameEnd_frameText (areLines_event htype hvalue) ?_
  simp [eventLines]

/-! ## Reading it -/

theorem fieldValue_self (name value : String) :
    fieldValue name (name ++ " " ++ value) = some value := by
  unfold fieldValue
  rw [String.append_assoc, Text.stripPrefix_append, Option.map_some, Text.stripPrefix_append,
    Option.getD_some]

theorem fieldValue_none {name line : String} (h : name.toList.isPrefixOf line.toList = false) :
    fieldValue name line = none := by
  unfold fieldValue Text.stripPrefix Text.startsWith
  rw [h]
  rfl

theorem data_of_event (text : String) : fieldValue "data:" ("event: " ++ text) = none :=
  fieldValue_none (by rw [String.toList_append]; rfl)

theorem event_of_data (text : String) : fieldValue "event:" ("data: " ++ text) = none :=
  fieldValue_none (by rw [String.toList_append]; rfl)

theorem dataLines_frame {serde : Serde} {eventType : Option String} {value : Value}
    (htype : ∀ text ∈ eventType, KeepsEnd text) (hvalue : ReadsBack serde value) :
    dataLines (formatSse eventType value).bytes = [value.toJson] := by
  have hdata : fieldValue "data:" ("data: " ++ value.toJson) = some value.toJson :=
    fieldValue_self "data:" value.toJson
  unfold dataLines
  rw [bytes_formatSse, lines_frameText (areLines_event htype hvalue)]
  cases eventType with
  | none => simp [eventLines, hdata, fieldValue_none]
  | some text => simp [eventLines, hdata, data_of_event, fieldValue_none]

/-- **The value of an event is read back.** -/
theorem parseSseEventJson_frame {serde : Serde} {eventType : Option String} {value : Value}
    (htype : ∀ text ∈ eventType, KeepsEnd text) (hvalue : ReadsBack serde value) :
    parseSseEventJson serde (formatSse eventType value).bytes = some value := by
  have hdone : value.toJson ≠ "[DONE]" := by
    intro heq
    have hread := hvalue.readBack
    rw [heq] at hread
    cases hread
  unfold parseSseEventJson
  rw [dataLines_frame htype hvalue]
  simp [hdone, notBlank_of_fromStr hvalue.readBack, hvalue.readBack]

/-- An event type as it is read: trimmed, and none if nothing is left. -/
def readType (eventType : String) : Option String :=
  (some (Text.trim eventType)).filter fun text => !text.isEmpty

theorem sseFrameEventType_frame {serde : Serde} {eventType : Option String} {value : Value}
    (htype : ∀ text ∈ eventType, KeepsEnd text) (hvalue : ReadsBack serde value) :
    sseFrameEventType (formatSse eventType value).bytes = eventType.bind readType := by
  unfold sseFrameEventType
  rw [bytes_formatSse, lines_frameText (areLines_event htype hvalue)]
  cases eventType with
  | none => simp [eventLines, event_of_data, fieldValue_none]
  | some text =>
    have hevent : fieldValue "event:" ("event: " ++ text) = some text := fieldValue_self "event:" text
    simp only [eventLines, Option.map_some, Option.toList_some, List.cons_append, List.nil_append,
      List.findSome?_cons, hevent, event_of_data, Option.map_none, Option.filter_none]
    rw [Option.bind_some, readType]
    cases (some (Text.trim text)).filter fun text => !text.isEmpty with
    | none => rfl
    | some eventType => rfl


/-! ## Reading a stream -/

/-- `read_one_sse_frame` (`streaming/wire.rs` 67-72), again and again: the frames with their events,
and what is left. -/
def readSseFrames (serde : Serde) : Nat → List UInt8 →
    List (List UInt8 × Option Value) × List UInt8
  | 0, buffer => ([], buffer)
  | fuel + 1, buffer =>
      match readOneSseFrame serde buffer with
      | none => ([], buffer)
      | some (frame, event, consumed) =>
          let (frames, rest) := readSseFrames serde fuel (buffer.drop consumed)
          ((frame, event) :: frames, rest)

def encodeEvents (events : List (Option String × Value)) : List UInt8 :=
  events.flatMap fun event => (formatSse event.1 event.2).bytes

/-- The first frame is the first event, whatever is behind it. -/
theorem readOneSseFrame_frame {serde : Serde} {eventType : Option String} {value : Value}
    (htype : ∀ text ∈ eventType, KeepsEnd text) (hvalue : ReadsBack serde value)
    (rest : List UInt8) :
    readOneSseFrame serde ((formatSse eventType value).bytes ++ rest) =
      some ((formatSse eventType value).bytes, some value,
        (formatSse eventType value).bytes.length) := by
  unfold readOneSseFrame
  rw [sseFrameEnd_append rest (sseFrameEnd_formatSse htype hvalue), Option.map_some, List.take_left,
    parseSseEventJson_frame htype hvalue]

theorem readSseFrames_encode {serde : Serde} {events : List (Option String × Value)}
    (htypes : ∀ event ∈ events, ∀ text ∈ event.1, KeepsEnd text)
    (hvalues : ∀ event ∈ events, ReadsBack serde event.2) {fuel : Nat}
    (hfuel : events.length ≤ fuel) :
    readSseFrames serde fuel (encodeEvents events) =
      (events.map fun event => ((formatSse event.1 event.2).bytes, some event.2), []) := by
  induction events generalizing fuel with
  | nil => cases fuel <;> rfl
  | cons event events ih =>
    obtain ⟨fuel, rfl⟩ := Nat.exists_eq_succ_of_ne_zero (Nat.ne_of_gt (Nat.zero_lt_of_lt hfuel))
    have hfirst := readOneSseFrame_frame (htypes event List.mem_cons_self)
      (hvalues event List.mem_cons_self) (encodeEvents events)
    have hrest := ih (fun other hother => htypes other (List.mem_cons_of_mem _ hother))
      (fun other hother => hvalues other (List.mem_cons_of_mem _ hother))
      (Nat.le_of_succ_le_succ hfuel)
    have hbytes : encodeEvents (event :: events) =
        (formatSse event.1 event.2).bytes ++ encodeEvents events := List.flatMap_cons
    rw [hbytes, readSseFrames, hfirst]
    dsimp only
    rw [List.drop_left, hrest]
    rfl

/-- There are at least as many bytes as events. -/
theorem length_le_encodeEvents (events : List (Option String × Value)) :
    events.length ≤ (encodeEvents events).length := by
  induction events with
  | nil => exact Nat.le_refl 0
  | cons event events ih =>
    have hbytes : encodeEvents (event :: events) =
        (formatSse event.1 event.2).bytes ++ encodeEvents events := List.flatMap_cons
    have hne : 0 < (formatSse event.1 event.2).bytes.length := by
      rw [bytes_formatSse]
      refine List.length_pos_iff.mpr (bytesOf_ne_nil fun hempty => ?_)
      have hchars := congrArg String.toList hempty
      cases htype : event.1 with
      | none => simp [htype, eventLines, frameText] at hchars
      | some text => simp [htype, eventLines, frameText] at hchars
    rw [hbytes, List.length_append, List.length_cons]
    omega

/-- **What is written is read**, frame by frame and to the last byte: the values as they were, and
the event types trimmed. -/
theorem sse_round_trip (serde : Serde) (events : List (Option String × Value))
    (htypes : ∀ event ∈ events, ∀ text ∈ event.1, IsLine text)
    (hvalues : ∀ event ∈ events, ReadsBack serde event.2) :
    ∃ frames, readSseFrames serde (encodeEvents events).length (encodeEvents events) =
        (frames, []) ∧
      frames.map Prod.snd = events.map (fun event => some event.2) ∧
      frames.map (fun frame => sseFrameEventType frame.1) =
        events.map fun event => event.1.bind readType := by
  have hkept : ∀ event ∈ events, ∀ text ∈ event.1, KeepsEnd text := fun event hevent text htext =>
    (htypes event hevent text htext).keepsEnd
  refine ⟨_, readSseFrames_encode hkept hvalues (length_le_encodeEvents events), ?_, ?_⟩
  · rw [List.map_map]
    rfl
  · rw [List.map_map]
    refine List.map_congr_left fun event hevent => ?_
    exact sseFrameEventType_frame (hkept event hevent) (hvalues event hevent)

/-- Two events, one with a text in it that looks like the end of the stream. -/
theorem sse_round_trip_done : ∃ frames,
    let value := Value.object [("text", .string "a\n\ndata: [DONE]\n\n")]
    let events := [(some "message", value), (none, .null)]
    readSseFrames ⟨some, fun _ => ""⟩ (encodeEvents events).length (encodeEvents events) =
        (frames, []) ∧
      frames.map Prod.snd = [some value, some .null] ∧
      frames.map (fun frame => sseFrameEventType frame.1) = [some "message", none] := by
  refine sse_round_trip ⟨some, fun _ => ""⟩ _ ?_ ?_
  · simp only [List.forall_mem_cons]
    refine ⟨?_, ?_, ?_⟩
    · intro text htext
      cases htext
      decide
    · intro text htext
      cases htext
    · simp
  · simp only [List.forall_mem_cons]
    refine ⟨⟨fromStr_singleton _ _ _, by simp [Value.floats, fieldsFloats]⟩, ⟨rfl, ?_⟩, by simp⟩
    simp [Value.floats]

/-- A type with a blank in front is not read as it was written, and a blank one is not read. -/
theorem padded_type_is_trimmed :
    IsLine " message" ∧ IsLine "" ∧ ReadsBack ⟨some, fun _ => ""⟩ .null ∧
      sseFrameEventType (formatSse (some " message") .null).bytes ≠ some " message" ∧
      sseFrameEventType (formatSse (some "") .null).bytes ≠ some "" := by
  have hnull : ReadsBack ⟨some, fun _ => ""⟩ .null := ⟨rfl, by simp [Value.floats]⟩
  have hread {text : String} (h : IsLine text) :
      sseFrameEventType (formatSse (some text) .null).bytes = readType text :=
    sseFrameEventType_frame (fun other hother => by
      cases hother
      exact h.keepsEnd) hnull
  refine ⟨by decide, by decide, hnull, ?_, ?_⟩
  · rw [hread (by decide)]
    decide
  · rw [hread (by decide)]
    decide

end LlmUniversalProxy.Streaming
