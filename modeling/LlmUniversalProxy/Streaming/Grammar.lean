import LlmUniversalProxy.Streaming.WireRoundTrip
import Mathlib.Data.List.TakeWhile

/-!
# `Streaming.Grammar` — the event-stream grammar, and what the scanner makes of it

A stream is lines, each of which ends in `\n` or `\r\n`; an empty line ends a frame, and a frame's
lines are fields. The scanner knows none of this: it looks for two byte patterns. It finds the empty
line of a frame unless there is no line before it, or the line before it ends in `\n` and it ends in
`\r\n` itself (`cuts_iff`); where it finds all of them, it reads the stream as the grammar does
(`read_follows_grammar`).

The scanner is `streaming/wire.rs` 42-59. The comment over it (28-41) asks for the first blank line,
as the grammar does.
-/

set_option autoImplicit false

namespace LlmUniversalProxy.Streaming

open Json Lib

/-! ## The grammar -/

/-- A line and its end. -/
structure StreamLine where
  text : String
  crlf : Bool
  isLine : IsLine text

namespace StreamLine

def isBlank (line : StreamLine) : Bool := line.text.isEmpty

/-- The end of a line. -/
def terminator (crlf : Bool) : List Char := if crlf then ['\r', '\n'] else ['\n']

def chars (line : StreamLine) : List Char := line.text.toList ++ terminator line.crlf

/-- The name and the value of a field, between which there is a colon and perhaps a space. -/
def field (line : StreamLine) : String × String :=
  let value := (line.text.toList.dropWhile (· ≠ ':')).drop 1
  (String.ofList (line.text.toList.takeWhile (· ≠ ':')), String.ofList (match value with
    | ' ' :: value => value
    | value => value))

end StreamLine

def linesBytes (frame : List StreamLine) : List UInt8 :=
  bytesOf (String.ofList (frame.flatMap StreamLine.chars))

def fieldValues (name : String) (frame : List StreamLine) : List String :=
  ((frame.filter fun line => !line.isBlank).map StreamLine.field).filterMap fun field =>
    if field.1 = name then some field.2 else none

/-- The event of a frame: the JSON in its `data` fields, or the end marker. -/
def frameEvent (serde : Serde) (frame : List StreamLine) : Option Value :=
  let data := fieldValues "data" frame
  if data.isEmpty then none
  else if "\n".intercalate data = "[DONE]" then some (.ofFields [("_done", .bool true)])
  else fromStr serde ("\n".intercalate data)

def frameType (frame : List StreamLine) : Option String := (fieldValues "event" frame).head?

/-- A stream: lines that are blank or fields, and what is behind the last line end. -/
structure EventStream where
  lines : List StreamLine
  tail : String
  noBreak : '\n' ∉ tail.toList
  fields : ∀ line ∈ lines, line.isBlank = false → ':' ∈ line.text.toList

/-- A frame ends behind its empty line. -/
def blankLineEnd (lines : List StreamLine) : Option Nat :=
  (lines.findIdx? StreamLine.isBlank).map (· + 1)

namespace EventStream

def bytes (stream : EventStream) : List UInt8 := linesBytes stream.lines ++ bytesOf stream.tail

def frames (stream : EventStream) : List (List StreamLine) :=
  (Framing.cutAll blankLineEnd stream.lines).1

/-- The lines behind the last of them. -/
def rest (stream : EventStream) : List StreamLine := (Framing.cutAll blankLineEnd stream.lines).2

end EventStream

/-! ## Frames of lines -/

/-- Lines in front of a blank one. -/
structure IsFrame (frame : List StreamLine) : Prop where
  split : ∃ before blank, frame = before ++ [blank] ∧ blank.isBlank = true ∧
    ∀ line ∈ before, line.isBlank = false

theorem blankLineEnd_findsEnd : Framing.FindsEnd blankLineEnd := by
  constructor
  · intro lines n h
    obtain ⟨i, -, rfl⟩ := Option.map_eq_some_iff.mp h
    exact Nat.succ_pos i
  · intro lines n h
    obtain ⟨i, hi, rfl⟩ := Option.map_eq_some_iff.mp h
    exact (List.findIdx?_eq_some_iff_getElem.mp hi).1

theorem blankLineEnd_none {lines : List StreamLine} :
    blankLineEnd lines = none ↔ ∀ line ∈ lines, line.isBlank = false := by
  rw [blankLineEnd, Option.map_eq_none_iff, List.findIdx?_eq_none_iff]

theorem isFrame_take {lines : List StreamLine} {n : Nat} (h : blankLineEnd lines = some n) :
    IsFrame (lines.take n) := by
  obtain ⟨i, hi, rfl⟩ := Option.map_eq_some_iff.mp h
  obtain ⟨hlength, hblank, hbefore⟩ := List.findIdx?_eq_some_iff_getElem.mp hi
  refine ⟨⟨lines.take i, lines[i], ?_, hblank, fun line hline => ?_⟩⟩
  · rw [List.take_succ_eq_append_getElem hlength]
  · obtain ⟨j, hj, rfl⟩ := List.mem_iff_getElem.mp hline
    rw [List.length_take] at hj
    rw [List.getElem_take]
    exact Bool.eq_false_iff.mpr (hbefore j (by omega))

theorem isFrame_of_mem {stream : EventStream} {frame : List StreamLine}
    (h : frame ∈ stream.frames) : IsFrame frame := by
  unfold EventStream.frames at h
  generalize stream.lines = lines at h
  induction hlength : lines.length using Nat.strongRecOn generalizing lines with
  | _ length ih =>
    cases hend : blankLineEnd lines with
    | none =>
      rw [Framing.cutAll_none hend] at h
      exact absurd h List.not_mem_nil
    | some n =>
      have hpos := blankLineEnd_findsEnd.pos hend
      have hle := blankLineEnd_findsEnd.le hend
      rw [Framing.cutAll_some blankLineEnd_findsEnd hend] at h
      rcases List.mem_cons.mp h with rfl | h
      · exact isFrame_take hend
      · exact ih (lines.drop n).length (by rw [List.length_drop]; omega) _ h rfl

/-! ## The scanner -/

/-- Bytes of a line's text are gone through. -/
theorem sseFrameEnd_text {text : List UInt8} (hlf : lf ∉ text) (hcr : cr ∉ text)
    (rest : List UInt8) :
    sseFrameEnd (text ++ rest) = (sseFrameEnd rest).map (· + text.length) := by
  induction text with
  | nil => simp
  | cons b text ih =>
    rw [List.mem_cons, not_or] at hlf hcr
    rw [List.cons_append, sseFrameEnd_skip (Ne.symm hlf.1) (Ne.symm hcr.1), ih hlf.2 hcr.2,
      Option.map_map]
    rfl

def terminatorBytes (crlf : Bool) : List UInt8 := if crlf then [cr, lf] else [lf]

/-- The end of a line is gone through when another text comes behind it. -/
theorem sseFrameEnd_terminator (crlf : Bool) {b : UInt8} {rest : List UInt8} (hlf : b ≠ lf)
    (hcr : b ≠ cr) :
    sseFrameEnd (terminatorBytes crlf ++ b :: rest) =
      (sseFrameEnd (b :: rest)).map (· + (terminatorBytes crlf).length) := by
  cases crlf with
  | false => exact sseFrameEnd_break hlf
  | true =>
    have hskip : sseFrameEnd (cr :: lf :: b :: rest) = (sseFrameEnd (lf :: b :: rest)).map (· + 1) := by
      rw [sseFrameEnd_cons, if_neg, if_neg]
      · intro hprefix
        have hrest := (List.cons_prefix_cons.mp (List.cons_prefix_cons.mp hprefix).2).2
        exact hcr (List.cons_prefix_cons.mp hrest).1.symm
      · intro hprefix
        exact absurd (List.cons_prefix_cons.mp hprefix).1 (by decide)
    refine hskip.trans ?_
    rw [sseFrameEnd_break hlf, Option.map_map]
    rfl

theorem linesBytes_nil : linesBytes [] = [] := rfl

theorem bytesOf_chars (line : StreamLine) :
    bytesOf (String.ofList line.chars) = bytesOf line.text ++ terminatorBytes line.crlf := by
  rw [Utf8.bytesOf_eq, Utf8.bytesOf_eq, String.toList_ofList, StreamLine.chars,
    List.flatMap_append]
  cases line.crlf <;> rfl

theorem linesBytes_append (frame more : List StreamLine) :
    linesBytes (frame ++ more) = linesBytes frame ++ linesBytes more := by
  simp only [linesBytes, Utf8.bytesOf_eq, String.toList_ofList, List.flatMap_append]

theorem linesBytes_cons (line : StreamLine) (frame : List StreamLine) :
    linesBytes (line :: frame) =
      bytesOf line.text ++ (terminatorBytes line.crlf ++ linesBytes frame) := by
  rw [← List.singleton_append, linesBytes_append, ← List.append_assoc, ← bytesOf_chars]
  simp [linesBytes]

theorem StreamLine.noBreak (line : StreamLine) :
    lf ∉ bytesOf line.text ∧ cr ∉ bytesOf line.text :=
  ⟨lf_notMem_bytesOf line.isLine.1, cr_notMem_bytesOf line.isLine.2⟩

/-- The text of a line that is not blank, as it follows the end of another. -/
theorem sseFrameEnd_line_behind (crlf : Bool) {line : StreamLine} (h : line.isBlank = false)
    (rest : List UInt8) :
    sseFrameEnd (terminatorBytes crlf ++ (bytesOf line.text ++ rest)) =
      (sseFrameEnd rest).map
        (· + ((bytesOf line.text).length + (terminatorBytes crlf).length)) := by
  have hne : line.text ≠ "" := fun hempty => by
    rw [StreamLine.isBlank, hempty] at h
    cases h
  obtain ⟨b, bytes, hbytes⟩ := List.exists_cons_of_ne_nil (bytesOf_ne_nil hne)
  obtain ⟨hlf, hcr⟩ := line.noBreak
  have hb : b ∈ bytesOf line.text := hbytes ▸ List.mem_cons_self
  have htext := sseFrameEnd_text hlf hcr rest
  rw [hbytes, List.cons_append] at htext ⊢
  rw [sseFrameEnd_terminator crlf (fun heq => hlf (heq ▸ hb)) (fun heq => hcr (heq ▸ hb)), htext,
    Option.map_map]
  refine congrArg (fun f => (sseFrameEnd rest).map f) (funext fun n => ?_)
  exact Nat.add_assoc _ _ _

/-- The blank line of a frame is seen from behind a line that ends so: one that ends in `\r\n` not
from behind one that ends in `\n`. -/
def seenFrom (crlf : Bool) : List StreamLine → Bool
  | [] => false
  | line :: rest => if line.isBlank then !line.crlf || crlf else seenFrom line.crlf rest

def blankLineSeen : List StreamLine → Bool
  | [] => false
  | line :: rest => !line.isBlank && seenFrom line.crlf rest

theorem linesBytes_blank {blank : StreamLine} (h : blank.isBlank = true) :
    linesBytes [blank] = terminatorBytes blank.crlf := by
  have hempty : blank.text = "" := String.isEmpty_iff.mp h
  rw [linesBytes_cons, hempty, linesBytes_nil, List.append_nil]
  rfl

theorem map_add_eq_some {o : Option Nat} {k m n : Nat} (h : n = m + k) :
    o.map (· + k) = some n ↔ o = some m := by
  subst h
  rw [Option.map_eq_some_iff]
  constructor
  · rintro ⟨m', rfl, heq⟩
    exact congrArg some (Nat.add_right_cancel heq)
  · exact fun hm => ⟨m, hm, rfl⟩

theorem sseFrameEnd_frame_behind {before : List StreamLine} {blank : StreamLine}
    (hbefore : ∀ line ∈ before, line.isBlank = false) (hblank : blank.isBlank = true) :
    ∀ crlf : Bool, sseFrameEnd (terminatorBytes crlf ++ linesBytes (before ++ [blank])) =
        some (terminatorBytes crlf ++ linesBytes (before ++ [blank])).length ↔
      seenFrom crlf (before ++ [blank]) = true := by
  induction before with
  | nil =>
    intro crlf
    rw [List.nil_append, linesBytes_blank hblank, seenFrom, hblank, if_pos rfl]
    cases blank.crlf <;> cases crlf <;> decide
  | cons line before ih =>
    intro crlf
    have hline := hbefore line List.mem_cons_self
    have hrest := ih (fun other hother => hbefore other (List.mem_cons_of_mem _ hother)) line.crlf
    rw [List.cons_append, seenFrom, hline, if_neg (by decide), ← hrest, linesBytes_cons,
      sseFrameEnd_line_behind crlf hline]
    refine map_add_eq_some ?_
    rw [List.length_append, List.length_append]
    omega

/-- **The scanner finds the empty line of a frame**, unless it is the first one or ends in `\r\n`
behind a line that ends in `\n`. -/
theorem sseFrameEnd_frame {frame : List StreamLine} (h : IsFrame frame) :
    sseFrameEnd (linesBytes frame) = some (linesBytes frame).length ↔
      blankLineSeen frame = true := by
  obtain ⟨before, blank, rfl, hblank, hbefore⟩ := h.split
  cases before with
  | nil =>
    rw [List.nil_append, linesBytes_blank hblank, blankLineSeen, hblank]
    cases blank.crlf <;> decide
  | cons line before =>
    have hline := hbefore line List.mem_cons_self
    have hrest := sseFrameEnd_frame_behind
      (fun other hother => hbefore other (List.mem_cons_of_mem _ hother)) hblank line.crlf
    obtain ⟨hlf, hcr⟩ := line.noBreak
    rw [List.cons_append, blankLineSeen, hline, Bool.not_false, Bool.true_and, ← hrest,
      linesBytes_cons, sseFrameEnd_text hlf hcr]
    refine map_add_eq_some ?_
    rw [List.length_append, Nat.add_comm]

theorem sseFrameEnd_noBreak {bytes : List UInt8} (h : lf ∉ bytes) : sseFrameEnd bytes = none := by
  induction bytes with
  | nil => rfl
  | cons b bytes ih =>
    rw [List.mem_cons, not_or] at h
    rw [sseFrameEnd_cons, if_neg, if_neg, ih h.2]
    · rfl
    · intro hprefix
      have hlf := (List.cons_prefix_cons.mp hprefix).2.subset List.mem_cons_self
      exact h.2 hlf
    · intro hprefix
      exact h.1 (List.cons_prefix_cons.mp hprefix).1

theorem sseFrameEnd_tail (crlf : Bool) {tail : List UInt8} (h : lf ∉ tail) :
    sseFrameEnd (terminatorBytes crlf ++ tail) = none := by
  have hbreak : sseFrameEnd (lf :: tail) = none := by
    cases tail with
    | nil => rfl
    | cons b tail =>
      have hb : b ≠ lf := fun heq => h (heq ▸ List.mem_cons_self)
      rw [sseFrameEnd_break hb, sseFrameEnd_noBreak h]
      rfl
  cases crlf with
  | false => exact hbreak
  | true =>
    have hskip : sseFrameEnd (cr :: lf :: tail) = (sseFrameEnd (lf :: tail)).map (· + 1) := by
      rw [sseFrameEnd_cons, if_neg, if_neg]
      · intro hprefix
        have hrest := (List.cons_prefix_cons.mp (List.cons_prefix_cons.mp hprefix).2).2
        exact h (hrest.subset (List.mem_cons_of_mem _ List.mem_cons_self))
      · intro hprefix
        exact absurd (List.cons_prefix_cons.mp hprefix).1 (by decide)
    refine hskip.trans ?_
    rw [hbreak]
    rfl

theorem sseFrameEnd_rest {rest : List StreamLine} {tail : List UInt8}
    (hrest : ∀ line ∈ rest, line.isBlank = false) (htail : lf ∉ tail) :
    sseFrameEnd (linesBytes rest ++ tail) = none := by
  have hbehind : ∀ (rest : List StreamLine) (crlf : Bool), (∀ line ∈ rest, line.isBlank = false) →
      sseFrameEnd (terminatorBytes crlf ++ (linesBytes rest ++ tail)) = none := by
    intro rest
    induction rest with
    | nil => exact fun crlf _ => sseFrameEnd_tail crlf htail
    | cons line rest ih =>
      intro crlf hlines
      have hmore := ih line.crlf fun other hother => hlines other (List.mem_cons_of_mem _ hother)
      rw [linesBytes_cons, List.append_assoc, List.append_assoc,
        sseFrameEnd_line_behind crlf (hlines line List.mem_cons_self), hmore]
      rfl
  cases rest with
  | nil => exact sseFrameEnd_noBreak htail
  | cons line rest =>
    obtain ⟨hlf, hcr⟩ := line.noBreak
    have hmore := hbehind rest line.crlf fun other hother =>
      hrest other (List.mem_cons_of_mem _ hother)
    rw [linesBytes_cons, List.append_assoc, List.append_assoc, sseFrameEnd_text hlf hcr, hmore]
    rfl

/-! ## The cuts -/

section Cuts

variable (stream : EventStream)

theorem linesBytes_flatten (frames : List (List StreamLine)) :
    linesBytes frames.flatten = (frames.map linesBytes).flatten := by
  induction frames with
  | nil => rfl
  | cons frame frames ih =>
    rw [List.flatten_cons, linesBytes_append, ih, List.map_cons, List.flatten_cons]

theorem EventStream.bytes_eq : stream.bytes = (stream.frames.map linesBytes).flatten ++
    (linesBytes stream.rest ++ bytesOf stream.tail) := by
  have hlines := Framing.flatten_cutAll blankLineEnd_findsEnd stream.lines
  rw [EventStream.bytes, ← hlines, linesBytes_append, linesBytes_flatten, List.append_assoc]
  rfl

theorem EventStream.noFrame_rest :
    sseFrameEnd (linesBytes stream.rest ++ bytesOf stream.tail) = none :=
  sseFrameEnd_rest (blankLineEnd_none.mp (Framing.cutAll_rest blankLineEnd_findsEnd stream.lines))
    (lf_notMem_bytesOf stream.noBreak)

/-- Where the scanner sees every empty line, it cuts behind each of them. -/
theorem cutAll_stream (hseen : ∀ frame ∈ stream.frames, blankLineSeen frame = true) :
    Framing.cutAll sseFrameEnd stream.bytes =
      (stream.frames.map linesBytes, linesBytes stream.rest ++ bytesOf stream.tail) := by
  rw [stream.bytes_eq]
  refine Framing.cutAll_flatten_append sseScanner (fun bytes hbytes => ?_) stream.noFrame_rest
  obtain ⟨frame, hframe, rfl⟩ := List.mem_map.mp hbytes
  exact (sseFrameEnd_frame (isFrame_of_mem hframe)).mpr (hseen frame hframe)

/-- **The scanner cuts a stream behind each empty line** exactly if it sees all of them. -/
theorem cuts_iff : (Framing.cutAll sseFrameEnd stream.bytes).1 = stream.frames.map linesBytes ↔
    ∀ frame ∈ stream.frames, blankLineSeen frame = true := by
  constructor
  · intro hcuts frame hframe
    have hmem : linesBytes frame ∈ (Framing.cutAll sseFrameEnd stream.bytes).1 :=
      hcuts ▸ List.mem_map_of_mem hframe
    exact (sseFrameEnd_frame (isFrame_of_mem hframe)).mp
      (Framing.frameEnd_of_mem_cutAll sseScanner hmem)
  · intro hseen
    rw [cutAll_stream stream hseen]

end Cuts

/-! ## The fields of a frame -/

theorem linesFrom_chars (line : StreamLine) (rest : List Char) :
    linesFrom [] (line.chars ++ rest) = line.text.toList :: linesFrom [] rest := by
  obtain ⟨hlf, hcr⟩ := line.isLine
  unfold StreamLine.chars
  cases line.crlf with
  | false =>
    have hlast : ([].reverse ++ line.text.toList).getLast? ≠ some '\r' :=
      fun h => hcr (List.mem_of_getLast? h)
    rw [StreamLine.terminator, if_neg (by decide), List.append_assoc]
    exact linesFrom_line hlf hlast
  | true =>
    rw [StreamLine.terminator, if_pos rfl, List.append_assoc]
    -- The carriage return is gathered with the line, and dropped at its end.
    have hgather : ∀ (cs line : List Char), '\n' ∉ cs →
        linesFrom line (cs ++ (['\r', '\n'] ++ rest)) =
          (line.reverse ++ cs) :: linesFrom [] rest := by
      intro cs
      induction cs with
      | nil =>
        intro line _
        rw [List.append_nil]
        rfl
      | cons c cs ih =>
        intro line hcs
        rw [List.mem_cons, not_or] at hcs
        have hstep : linesFrom line (c :: (cs ++ (['\r', '\n'] ++ rest))) =
            linesFrom (c :: line) (cs ++ (['\r', '\n'] ++ rest)) := by
          rw [linesFrom]
          exact fun h => hcs.1 h.symm
        rw [List.cons_append, hstep, ih (c :: line) hcs.2, List.reverse_cons, List.append_assoc,
          List.singleton_append]
    exact hgather line.text.toList [] hlf

theorem lines_linesBytes (frame : List StreamLine) :
    lines (Utf8.fromUtf8Lossy (linesBytes frame)) = frame.map StreamLine.text := by
  unfold linesBytes lines
  rw [Utf8.fromUtf8Lossy_bytesOf, String.toList_ofList]
  induction frame with
  | nil => rfl
  | cons line frame ih =>
    rw [List.flatMap_cons, linesFrom_chars, List.map_cons, ih, List.map_cons, String.ofList_toList]

theorem colon_split {text : List Char} (h : ':' ∈ text) :
    ∃ rest, text = text.takeWhile (· ≠ ':') ++ ':' :: rest ∧
      (text.dropWhile (· ≠ ':')).drop 1 = rest := by
  have hne : text.dropWhile (· ≠ ':') ≠ [] := by
    intro hnil
    exact absurd rfl (of_decide_eq_true (List.dropWhile_eq_nil_iff.mp hnil ':' h))
  obtain ⟨c, rest, hdrop⟩ := List.exists_cons_of_ne_nil hne
  have hc : c = ':' := by
    have hhead := List.head?_dropWhile_not (· ≠ ':') text
    rw [hdrop] at hhead
    simpa using hhead
  subst hc
  refine ⟨rest, ?_, by rw [hdrop, List.drop_one, List.tail_cons]⟩
  rw [← hdrop, List.takeWhile_append_dropWhile]

/-- A name that the line begins with, with its colon, is all there is in front of the first one. -/
theorem takeWhile_of_prefix {name rest : List Char} (h : ':' ∉ name) :
    (name ++ ':' :: rest).takeWhile (· ≠ ':') = name := by
  have hall : ∀ c ∈ name, decide (c ≠ ':') = true := fun c hc =>
    decide_eq_true fun heq => h (heq ▸ hc)
  rw [List.takeWhile_append_of_pos hall]
  exact List.append_nil name

theorem getD_stripPrefix_space (value : List Char) :
    (Text.stripPrefix (String.ofList value) " ").getD (String.ofList value) =
      String.ofList (match value with
        | ' ' :: value => value
        | value => value) := by
  cases value with
  | nil => rfl
  | cons c value =>
    by_cases hc : c = ' '
    · subst hc
      have hsplit : String.ofList (' ' :: value) = " " ++ String.ofList value :=
        String.toList_inj.mp (by simp)
      rw [hsplit, Text.stripPrefix_append]
      rfl
    · have hstarts : Text.startsWith (String.ofList (c :: value)) " " = false := by
        simp [Text.startsWith, List.isPrefixOf, Ne.symm hc]
      rw [Text.stripPrefix, hstarts, if_neg (by decide), Option.getD_none]
      split
      · next heq => exact absurd (List.cons_eq_cons.mp heq).1 hc
      · rfl

/-- What the reader takes for the value behind a name is the value of the field of that name. -/
theorem fieldValue_field {name : String} {line : StreamLine} (hname : ':' ∉ name.toList)
    (hcolon : ':' ∈ line.text.toList) :
    fieldValue (name ++ ":") line.text =
      if line.field.1 = name then some line.field.2 else none := by
  obtain ⟨rest, htext, hrest⟩ := colon_split hcolon
  by_cases hsame : line.field.1 = name
  · have htake : line.text.toList.takeWhile (· ≠ ':') = name.toList := by
      rw [← hsame]
      exact (String.toList_ofList ..).symm
    rw [htake] at htext
    have hline : line.text = name ++ ":" ++ String.ofList rest := by
      refine String.toList_inj.mp ?_
      rw [htext]
      simp
    have hvalue : line.field.2 =
        (Text.stripPrefix (String.ofList rest) " ").getD (String.ofList rest) := by
      unfold StreamLine.field
      rw [hrest]
      exact (getD_stripPrefix_space rest).symm
    rw [if_pos hsame, hvalue, hline, fieldValue, Text.stripPrefix_append, Option.map_some]
  · rw [if_neg hsame]
    refine fieldValue_none ?_
    rw [Bool.eq_false_iff]
    intro hprefix
    obtain ⟨behind, hbehind⟩ := List.isPrefixOf_iff_prefix.mp hprefix
    refine hsame (String.toList_inj.mp ?_)
    unfold StreamLine.field
    rw [String.toList_ofList, ← hbehind, String.toList_append, List.append_assoc]
    exact takeWhile_of_prefix hname

theorem fieldValue_blank {name : String} {line : StreamLine} (h : line.isBlank = true) :
    fieldValue (name ++ ":") line.text = none := by
  have hempty : line.text = "" := String.isEmpty_iff.mp h
  refine fieldValue_none ?_
  rw [hempty, String.toList_append]
  cases name.toList <;> rfl

/-- The values of a frame's fields are what the reader collects. -/
theorem filterMap_fieldValue {name : String} (hname : ':' ∉ name.toList) {frame : List StreamLine}
    (hfields : ∀ line ∈ frame, line.isBlank = false → ':' ∈ line.text.toList) :
    (frame.map StreamLine.text).filterMap (fieldValue (name ++ ":")) = fieldValues name frame := by
  induction frame with
  | nil => rfl
  | cons line frame ih =>
    have hrest := ih fun other hother => hfields other (List.mem_cons_of_mem _ hother)
    rw [List.map_cons, List.filterMap_cons, hrest]
    unfold fieldValues
    cases hblank : line.isBlank with
    | true =>
      rw [fieldValue_blank hblank, List.filter_cons_of_neg (by simp [hblank])]
    | false =>
      rw [fieldValue_field hname (hfields line List.mem_cons_self hblank),
        List.filter_cons_of_pos (by simp [hblank]), List.map_cons, List.filterMap_cons]

section Fields

variable {frame : List StreamLine}
  (hfields : ∀ line ∈ frame, line.isBlank = false → ':' ∈ line.text.toList)

include hfields

/-- **The event of a frame is the JSON of its `data` fields.** -/
theorem parseSseEventJson_linesBytes (serde : Serde) :
    parseSseEventJson serde (linesBytes frame) = frameEvent serde frame := by
  have hdata : dataLines (linesBytes frame) = fieldValues "data" frame := by
    unfold dataLines
    rw [lines_linesBytes]
    exact filterMap_fieldValue (show ':' ∉ "data".toList by decide) hfields
  unfold parseSseEventJson frameEvent
  rw [hdata]
  dsimp only
  split
  · rfl
  · split
    · rfl
    · split
      · next hblank =>
        cases hread : fromStr serde ("\n".intercalate (fieldValues "data" frame)) with
        | none => rfl
        | some value =>
          rw [notBlank_of_fromStr hread] at hblank
          cases hblank
      · rfl

/-- **The type of an event is read trimmed**, and a blank one is none. -/
theorem sseFrameEventType_linesBytes (hone : (fieldValues "event" frame).length ≤ 1) :
    sseFrameEventType (linesBytes frame) = (frameType frame).bind readType := by
  have hevent := filterMap_fieldValue (show ':' ∉ "event".toList by decide) hfields
  have hread : sseFrameEventType (linesBytes frame) =
      (fieldValues "event" frame).findSome? readType := by
    unfold sseFrameEventType
    rw [lines_linesBytes, ← hevent, ← List.head?_filterMap, ← List.head?_filterMap,
      List.filterMap_filterMap]
    refine congrArg (fun f => ((frame.map StreamLine.text).filterMap f).head?)
      (funext fun text => ?_)
    show ((fieldValue "event:" text).map Text.trim).filter _ = (fieldValue "event:" text).bind _
    cases fieldValue "event:" text <;> rfl
  rw [hread, frameType]
  cases h : fieldValues "event" frame with
  | nil => rfl
  | cons value more =>
    obtain rfl : more = [] := by simpa [h] using hone
    rw [List.findSome?_cons, List.findSome?_nil, List.head?_cons, Option.bind_some]
    cases readType value <;> rfl

end Fields

/-! ## Reading -/

/-- Reading again and again is cutting, and parsing what is cut off. -/
theorem readSseFrames_eq_cut (serde : Serde) (fuel : Nat) : ∀ (buffer : List UInt8),
    readSseFrames serde fuel buffer =
      ((Framing.cut sseFrameEnd fuel buffer).1.map fun frame =>
        (frame, parseSseEventJson serde frame), (Framing.cut sseFrameEnd fuel buffer).2) := by
  induction fuel with
  | zero => exact fun _ => rfl
  | succ fuel ih =>
    intro buffer
    rw [readSseFrames, readOneSseFrame_eq]
    cases hend : sseFrameEnd buffer with
    | none => simp [Framing.cut_none hend]
    | some n => simp [Framing.cut_some hend, ih (buffer.drop n)]

/-- **A stream is read as the grammar says**, if the scanner sees every empty line: it is cut behind
each of them, the event of a frame is the JSON of its `data` fields, and its type the value of its
`event` field, trimmed. -/
theorem read_follows_grammar (serde : Serde) (stream : EventStream)
    (hseen : ∀ frame ∈ stream.frames, blankLineSeen frame = true) :
    readSseFrames serde stream.bytes.length stream.bytes =
        (stream.frames.map fun frame => (linesBytes frame, frameEvent serde frame),
          linesBytes stream.rest ++ bytesOf stream.tail) ∧
      ∀ frame ∈ stream.frames, (fieldValues "event" frame).length ≤ 1 →
        sseFrameEventType (linesBytes frame) = (frameType frame).bind readType := by
  have hfields : ∀ frame ∈ stream.frames, ∀ line ∈ frame, line.isBlank = false →
      ':' ∈ line.text.toList := fun frame hframe line hline =>
    stream.fields line ((Framing.infix_of_mem_cutAll blankLineEnd_findsEnd hframe).subset hline)
  refine ⟨?_, fun frame hframe => sseFrameEventType_linesBytes (hfields frame hframe)⟩
  have hcut : Framing.cut sseFrameEnd stream.bytes.length stream.bytes =
      (stream.frames.map linesBytes, linesBytes stream.rest ++ bytesOf stream.tail) :=
    cutAll_stream stream hseen
  rw [readSseFrames_eq_cut, hcut, List.map_map]
  refine Prod.ext (List.map_congr_left fun frame hframe => ?_) rfl
  exact Prod.ext rfl (parseSseEventJson_linesBytes (hfields frame hframe) serde)

/-- An event with a type and two lines of data, the end marker, and the beginning of a line. -/
def typedEvent : EventStream where
  lines := [⟨"event: list", true, by decide⟩, ⟨"data: [1,", true, by decide⟩,
    ⟨"data:2]", false, by decide⟩, ⟨"", false, by decide⟩, ⟨"data: [DONE]", true, by decide⟩,
    ⟨"", true, by decide⟩]
  tail := "da"
  noBreak := by decide
  fields := by decide

theorem typedEvent_is_read :
    readSseFrames ⟨some, fun _ => ""⟩ typedEvent.bytes.length typedEvent.bytes =
        (typedEvent.frames.map fun frame =>
          (linesBytes frame, frameEvent ⟨some, fun _ => ""⟩ frame), bytesOf "da") ∧
      typedEvent.frames.map (fun frame => sseFrameEventType (linesBytes frame)) =
        [some "list", none] := by
  obtain ⟨hread, htypes⟩ := read_follows_grammar ⟨some, fun _ => ""⟩ typedEvent (by decide +kernel)
  refine ⟨hread, ?_⟩
  have hmap := List.map_congr_left fun frame hframe =>
    htypes frame hframe ((by decide +kernel :
      ∀ frame ∈ typedEvent.frames, (fieldValues "event" frame).length ≤ 1) frame hframe)
  rw [hmap]
  decide +kernel

/-- An empty line that ends otherwise than the line before it, and a type with a space more. -/
def mixedEnds : EventStream where
  lines := [⟨"data: 1", false, by decide⟩, ⟨"", true, by decide⟩,
    ⟨"event:  message", false, by decide⟩, ⟨"", false, by decide⟩]
  tail := ""
  noBreak := by decide
  fields := by decide

/-- The two frames are read as one, and the type of the second is not the value of its field. -/
theorem mixedEnds_not_read :
    (readSseFrames ⟨some, fun _ => ""⟩ mixedEnds.bytes.length mixedEnds.bytes).1.map Prod.fst ≠
        mixedEnds.frames.map linesBytes ∧
      (∀ frame ∈ mixedEnds.frames, (fieldValues "event" frame).length ≤ 1) ∧
      ¬∀ frame ∈ mixedEnds.frames, sseFrameEventType (linesBytes frame) = frameType frame := by
  refine ⟨by decide +kernel, by decide +kernel, by decide +kernel⟩

end LlmUniversalProxy.Streaming
