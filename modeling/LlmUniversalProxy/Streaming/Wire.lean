import LlmUniversalProxy.Json.Text
import LlmUniversalProxy.Lib.Utf8

/-!
# `Streaming.Wire` — frames of a server-sent event stream

A frame ends at the first blank line. What the stream emits is kept as frames, so that a result can
speak of events; `SseFrame.bytes` is what goes out on the wire.

The source is `streaming/wire.rs` 3-131.
-/

set_option autoImplicit false

namespace LlmUniversalProxy.Streaming

open Json Lib

/-! ## Out -/

/-- A frame that is emitted: by `format_sse_data`, by `format_sse_event`, the `[DONE]` marker, or
an upstream frame as it came. -/
inductive SseFrame where
  | data (value : Value)
  | event (eventType : String) (value : Value)
  | done
  | raw (bytes : List UInt8)
  deriving DecidableEq

def SseFrame.bytes : SseFrame → List UInt8
  | .data value => bytesOf s!"data: {value.toJson}\n\n"
  | .event eventType value => bytesOf s!"event: {eventType}\ndata: {value.toJson}\n\n"
  | .done => bytesOf "data: [DONE]\n\n"
  | .raw bytes => bytes

/-! ## In -/

def lf : UInt8 := 10
def cr : UInt8 := 13

/-- `sse_frame_end`: the first blank line, of either kind. -/
def sseFrameEnd : List UInt8 → Option Nat
  | [] => none
  | b :: rest =>
      if [lf, lf].isPrefixOf (b :: rest) then some 2
      else if [cr, lf, cr, lf].isPrefixOf (b :: rest) then some 4
      else (sseFrameEnd rest).map (· + 1)

/-- `str::lines`: `\n` and `\r\n` end a line, and the last line may go without. -/
def linesFrom : List Char → List Char → List (List Char)
  | line, [] => if line.isEmpty then [] else [line.reverse]
  | line, '\n' :: rest =>
      (match line with
        | '\r' :: line => line.reverse
        | line => line.reverse) :: linesFrom [] rest
  | line, c :: rest => linesFrom (c :: line) rest

def lines (text : List Char) : List String := (linesFrom [] text).map String.ofList

/-- What a line holds behind a field name and its optional blank. -/
def fieldValue (name line : String) : Option String :=
  (Text.stripPrefix line name).map fun value => (Text.stripPrefix value " ").getD value

/-- The values of a frame's `data:` lines. -/
def dataLines (frame : List UInt8) : List String :=
  (lines (Utf8.fromUtf8Lossy frame)).filterMap (fieldValue "data:")

/-- `parse_sse_event_json` (`streaming/wire.rs` 3-24). -/
def parseSseEventJson (serde : Serde) (frame : List UInt8) : Option Value :=
  if (dataLines frame).isEmpty then none
  else
    let data := "\n".intercalate (dataLines frame)
    if data = "[DONE]" then some (.ofFields [("_done", .bool true)])
    else if Text.isBlank data then none
    else fromStr serde data

/-- `read_one_sse_frame`: the frame, its event, and the number of bytes it takes up. -/
def readOneSseFrame (serde : Serde) (buffer : List UInt8) :
    Option (List UInt8 × Option Value × Nat) :=
  (sseFrameEnd buffer).map fun frameEnd =>
    (buffer.take frameEnd, parseSseEventJson serde (buffer.take frameEnd), frameEnd)

/-- `drop_sse_prefix`. -/
def dropSsePrefix (buffer : List UInt8) (consumed : Nat) : List UInt8 :=
  buffer.drop (min consumed buffer.length)

/-- `sse_frame_event_type`. -/
def sseFrameEventType (frame : List UInt8) : Option String :=
  (lines (Utf8.fromUtf8Lossy frame)).findSome? fun line =>
    ((fieldValue "event:" line).map Text.trim).filter fun eventType => !eventType.isEmpty

end LlmUniversalProxy.Streaming
