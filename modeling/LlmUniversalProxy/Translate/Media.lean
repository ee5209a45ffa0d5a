import LlmUniversalProxy.Translate.Env

/-!
# `Translate.Media` — where the bytes of an image or a file come from

A text that names a source is one of four things: a data URI, a remote URL, a reference that only
the provider or the machine it came from understands, or bare Base64. Anything else is refused. A
file says its MIME type in up to four places; they have to agree.

What the `url` crate makes of a text is left open; only the scheme and the host are asked for.

The source is `translate/internal/media.rs`, whole.
-/

set_option autoImplicit false

namespace LlmUniversalProxy

open Json Lib

/-- What is read of a `Url`. -/
structure Url where
  scheme : String
  host : Option String

/-- The surroundings of a translation that looks at media: with `Url::parse`. -/
structure TranslationEnv extends Env where
  parseUrl : String → Option Url

/-- Surroundings in which nothing happens and nothing is a URL. -/
def TranslationEnv.still : TranslationEnv := { Env.still with parseUrl := fun _ => none }

namespace Translate

/-! ## Base64 -/

/-- `base64_data_value` (`media.rs` 61-70). -/
def base64DataValue (b : UInt8) : Option UInt8 :=
  if 65 ≤ b && b ≤ 90 then some (b - 65)
  else if 97 ≤ b && b ≤ 122 then some (b - 97 + 26)
  else if 48 ≤ b && b ≤ 57 then some (b - 48 + 52)
  else if b = 43 then some 62
  else if b = 47 then some 63
  else none

/-- The padding at the end of a payload: one `=` or two. -/
def base64Padding (bytes : List UInt8) : Nat :=
  match bytes.reverse with
  | b :: c :: _ => if b = 61 then (if c = 61 then 2 else 1) else 0
  | _ => 0

/-- The bits of the last data byte that belong to no output byte are zero. -/
def unusedBitsAreZero (data : List UInt8) (unused : UInt8) : Bool :=
  ((data.getLast?.bind base64DataValue).getD 0xff) &&& unused = 0

/-- `canonical_base64_payload` (`media.rs` 81-119). -/
def canonicalBase64Payload (value : String) (allowEmpty : Bool) : Bool :=
  let bytes := bytesOf value
  if bytes.isEmpty then allowEmpty
  else if bytes.length % 4 ≠ 0 then false
  else
    let padding := base64Padding bytes
    let data := bytes.take (bytes.length - padding)
    data.all (fun b => (base64DataValue b).isSome) &&
      (padding ≠ 1 || unusedBitsAreZero data 0x03) && (padding ≠ 2 || unusedBitsAreZero data 0x0f)

/-- `validate_inline_base64_payload`. -/
def validateInlineBase64Payload (value : String) : Option String :=
  if canonicalBase64Payload value false then some value else none

/-! ## URIs -/

/-- `uri_scheme` (`media.rs` 187-197). -/
def uriScheme (value : String) : Option String := do
  let (scheme, _) ← Text.splitOnce value ':'
  match scheme.toList with
  | [] => none
  | first :: rest =>
      if !first.isAlpha then none
      else if rest.all fun ch => ch.isAlphanum || ch ∈ ['+', '-', '.'] then some scheme
      else none

/-- `char::is_control`. -/
def isControl (ch : Char) : Bool := ch.toNat < 32 || (127 ≤ ch.toNat && ch.toNat < 160)

/-- `has_raw_forbidden_uri_char`; the one format character that is forbidden is the zero-width
space. -/
def hasRawForbiddenUriChar (value : String) : Bool :=
  value.toList.any fun ch => Text.isWhitespace ch || isControl ch || ch.toNat = 0x200B

/-- `has_percent_encoded_c0_or_del`. -/
def hasPercentEncodedC0OrDel : List Char → Bool
  | a :: b :: c :: rest =>
      (a = '%' && ((hexVal b).bind fun high => (hexVal c).map fun low => high * 16 + low).any
        fun decoded => decoded ≤ 0x1f || decoded = 0x7f) || hasPercentEncodedC0OrDel (b :: c :: rest)
  | _ => false

/-- `clean_uri_like_source_reference`. -/
def cleanUriLikeSourceReference (value : String) : Option String :=
  if value.isEmpty || hasRawForbiddenUriChar value || hasPercentEncodedC0OrDel value.toList then none
  else some value

/-- `http_or_https_remote_url`. -/
def httpOrHttpsRemoteUrl (parseUrl : String → Option Url) (value : String) : Option String := do
  let value ← cleanUriLikeSourceReference value
  let parsed ← parseUrl value
  if (parsed.scheme = "http" || parsed.scheme = "https") && parsed.host.isSome then some value
  else none

/-- A value starts with `data:`, in any case. -/
def startsWithData (value : String) : Option String :=
  (Text.splitAtByte value 5).bind fun parts =>
    if Text.eqIgnoreAsciiCase parts.1 "data:" then some parts.2 else none

/-- `base64_data_uri_parts` (`media.rs` 125-139): the MIME type and the payload. -/
def base64DataUriParts (value : String) : Option (String × String) := do
  let rest ← startsWithData value
  let (metadata, data) ← Text.splitOnce rest ','
  let metadata ← cleanUriLikeSourceReference metadata
  let data ← validateInlineBase64Payload data
  match Text.splitChar metadata ';' with
  | [] => none
  | mimeType :: parts =>
      if mimeType.isEmpty || !(parts.any fun part => Text.eqIgnoreAsciiCase part "base64") then none
      else some (mimeType, data)

/-- `MediaSourceReference`. -/
inductive MediaSourceReference where
  | mimeDataUri (mimeType data : String)
  | httpRemoteUrl (url : String)
  | providerOrLocalUri (uri : String)
  | bareBase64 (data : String)
  | unsupported (value : String)

/-- The two schemes of a remote URL. -/
def isHttpScheme (scheme : String) : Bool :=
  Text.eqIgnoreAsciiCase scheme "http" || Text.eqIgnoreAsciiCase scheme "https"

/-- `classify_media_source_reference` (`media.rs` 262-287). -/
def classifyMediaSourceReference (parseUrl : String → Option Url) (value : String) :
    MediaSourceReference :=
  match base64DataUriParts value with
  | some (mimeType, data) => .mimeDataUri mimeType data
  | none =>
      -- a data URI that is not of base64 is nothing else either
      if (startsWithData value).isSome then .unsupported value
      else
        match httpOrHttpsRemoteUrl parseUrl value with
        | some url => .httpRemoteUrl url
        | none =>
            match (cleanUriLikeSourceReference value).bind uriScheme with
            | some scheme =>
                -- an address with credentials or blanks in it, say: not clean, so not taken
                if isHttpScheme scheme then .unsupported value else .providerOrLocalUri value
            | none =>
                if (validateInlineBase64Payload value).isSome then .bareBase64 value
                else .unsupported value

/-- `validate_media_source_reference`. -/
def validateMediaSourceReference (parseUrl : String → Option Url) (value : String) : Bool :=
  match classifyMediaSourceReference parseUrl value with
  | .unsupported _ => false
  | _ => true

/-! ## MIME types -/

/-- `normalized_mime_type`. -/
def normalizedMimeType (value : String) : Option String :=
  let mimeType := Text.asciiLower (Text.trim (Text.beforeChar value ';'))
  if mimeType.isEmpty then none else some mimeType

/-- `is_pdf_mime`. -/
def isPdfMime (mimeType : String) : Bool := normalizedMimeType mimeType = some "application/pdf"

/-- `mime_type_from_filename` (`media.rs` 150-185). -/
def mimeTypeFromFilename (filename : String) : Option String :=
  [("pdf", "application/pdf"), ("json", "application/json"), ("txt", "text/plain"),
    ("csv", "text/csv"), ("md", "text/markdown"), ("html", "text/html"), ("htm", "text/html"),
    ("xml", "application/xml"), ("png", "image/png"), ("jpg", "image/jpeg"),
    ("jpeg", "image/jpeg"), ("gif", "image/gif"), ("webp", "image/webp"), ("bmp", "image/bmp"),
    ("tif", "image/tiff"), ("tiff", "image/tiff"), ("heic", "image/heic"), ("heif", "image/heif"),
    ("svg", "image/svg+xml"), ("wav", "audio/wav"), ("mp3", "audio/mpeg"), ("m4a", "audio/mp4"),
    ("aac", "audio/aac"), ("ogg", "audio/ogg"), ("oga", "audio/ogg"), ("flac", "audio/flac"),
    ("opus", "audio/opus"), ("mp4", "video/mp4"), ("m4v", "video/x-m4v"),
    ("mov", "video/quicktime"), ("webm", "video/webm"), ("mpeg", "video/mpeg"),
    ("mpg", "video/mpeg"), ("avi", "video/x-msvideo"), ("mkv", "video/x-matroska")].lookup
    (Text.asciiLower (Text.trim (Text.afterLastChar filename '.')))

/-! ## Files -/

/-- `OpenAiFileMimeSource`. -/
inductive OpenAiFileMimeSource where
  | explicit
  | fileData
  | filename
  deriving DecidableEq

/-- `OpenAiFileMimeCandidate`. -/
structure OpenAiFileMimeCandidate where
  source : OpenAiFileMimeSource
  sourceLabel : String
  mimeType : String

/-- `openai_file_part_maps`: the part itself, and its `file` object. -/
def openaiFilePartMaps (part : Value) : List Value :=
  (if part.isObject then [part] else []) ++ ((part.get "file").filter Value.isObject).toList

/-- `openai_file_part_field`. -/
def openaiFilePartField (part : Value) (field : String) : Option Value :=
  (openaiFilePartMaps part).findSome? fun map => map.get field

def dataUriMimeType (map : Value) (field : String) : Option String :=
  ((map.getStr field).bind base64DataUriParts).bind fun parts => normalizedMimeType parts.1

def mimeCandidates (map : Value) : List OpenAiFileMimeCandidate :=
  (["mime_type", "mimeType"].filterMap fun field =>
      ((map.getStr field).bind normalizedMimeType).map
        (⟨.explicit, "`mime_type`/`mimeType`", ·⟩)) ++
    ((dataUriMimeType map "file_data").map (⟨.fileData, "`file_data` data URI", ·⟩)).toList ++
    ((dataUriMimeType map "file_url").map (⟨.fileData, "`file_url` data URI", ·⟩)).toList ++
    (((map.getStr "filename").bind mimeTypeFromFilename).bind normalizedMimeType).toList.map
      (⟨.filename, "`filename`", ·⟩)

/-- `openai_file_mime_conflict_message`. -/
def openaiFileMimeConflictMessage (left right : OpenAiFileMimeCandidate) : String :=
  s!"OpenAI file MIME conflict: {left.sourceLabel} MIME `{left.mimeType}` conflicts with " ++
    s!"{right.sourceLabel} MIME `{right.mimeType}`; `mime_type`/`mimeType`, `file_data`, " ++
    "`file_url`, and `filename` MIME provenance must agree."

/-- `resolve_openai_file_mime` (`media.rs` 380-403). -/
def resolveOpenaiFileMime (candidates : List OpenAiFileMimeCandidate) :
    Except String (Option String) :=
  match candidates with
  | [] => .ok none
  | first :: rest =>
      match rest.find? fun candidate => candidate.mimeType ≠ first.mimeType with
      | some candidate => .error (openaiFileMimeConflictMessage first candidate)
      | none => .ok ([OpenAiFileMimeSource.fileData, .explicit, .filename].findSome? fun source =>
          (candidates.find? fun candidate => candidate.source = source).map (·.mimeType))

/-- `openai_file_part_resolved_mime_type`. -/
def openaiFilePartResolvedMimeType (part : Value) : Except String (Option String) :=
  resolveOpenaiFileMime ((openaiFilePartMaps part).flatMap mimeCandidates)

/-- `openai_file_part_mime_conflict_message`. -/
def openaiFilePartMimeConflictMessage (part : Value) : Option String :=
  match openaiFilePartResolvedMimeType part with
  | .error message => some message
  | .ok _ => none

/-- `OpenAiFileSource`. -/
inductive OpenAiFileSource where
  | providerFileId (fileId : Option String)
  | payload (payload field : String)
  | conflictingPayloads
  | invalidPayload (field : String)
  | missing

def filePayloads (map : Value) : List (String × Value) :=
  ["file_data", "file_url"].filterMap fun field => (map.get field).map fun value => (field, value)

/-- `openai_file_source` (`media.rs` 438-468): an id in any of the maps comes before the payloads.
-/
def openaiFileSource (part : Value) : OpenAiFileSource :=
  let maps := openaiFilePartMaps part
  match maps.findSome? fun map => map.get "file_id" with
  | some fileId => .providerFileId fileId.asStr
  | none =>
      match maps.flatMap filePayloads with
      | [] => .missing
      | [(field, value)] =>
          match value.asStr with
          | some payload => .payload payload field
          | none => .invalidPayload field
      | _ => .conflictingPayloads

/-- `openai_file_reference_payload` (`media.rs` 415-436). -/
def openaiFileReferencePayload (part : Value) : Except String (Option (String × String)) :=
  match openaiFileSource part with
  | .providerFileId (some fileId) => .error <|
      s!"OpenAI provider file_id `{fileId}` cannot be treated as bytes or a URI for " ++
        "cross-provider media translation."
  | .providerFileId none => .error <|
      "OpenAI provider file_id fields cannot be treated as bytes or a URI for cross-provider " ++
        "media translation."
  | .payload payload field => .ok (some (payload, field))
  | .conflictingPayloads => .error <|
      "OpenAI file parts must include exactly one of file_data or file_url; multiple source " ++
        "fields across the part and nested file object are ambiguous."
  | .invalidPayload field => .error <|
      s!"OpenAI file `{field}` must be a string source payload for cross-provider media " ++
        "translation."
  | .missing => .ok none

/-- `OpenAiFileDataReference`. -/
inductive OpenAiFileDataReference where
  | inlineData (mimeType data : String)
  | httpRemoteUrl (mimeType url : String)
  | providerOrLocalUri (mimeType uri : String)
  | bareBase64 (mimeType : Option String) (data : String)

/-- `openai_file_data_reference_from_payload` (`media.rs` 482-518). -/
def openaiFileDataReferenceFromPayload (parseUrl : String → Option Url) (payload field : String)
    (resolvedMimeType : Option String) : Except String OpenAiFileDataReference :=
  let provenance := fun kind => s!"OpenAI {field} {kind} need mime_type/mimeType or filename " ++
    "provenance to translate media; include file.mime_type/file.mimeType or a filename with a " ++
    "known extension."
  match classifyMediaSourceReference parseUrl payload with
  | .mimeDataUri mimeType data =>
      match normalizedMimeType mimeType with
      | some mimeType => .ok (.inlineData mimeType data)
      | none => .error
          s!"OpenAI {field} data URIs need a non-empty MIME type to translate media."
  | .httpRemoteUrl url =>
      match resolvedMimeType with
      | some mimeType => .ok (.httpRemoteUrl mimeType url)
      | none => .error (provenance "HTTP(S) URLs")
  | .providerOrLocalUri uri =>
      match resolvedMimeType with
      | some mimeType => .ok (.providerOrLocalUri mimeType uri)
      | none => .error (provenance "provider/local URI references")
  -- no MIME type is asked for here: what becomes of bare base64 is up to the caller
  | .bareBase64 data => .ok (.bareBase64 resolvedMimeType data)
  | .unsupported value => .error <|
      s!"OpenAI {field} must be a MIME-bearing data URI, an HTTP(S) URL, a provider/local URI " ++
        "reference, or a base64 payload with filename provenance to translate media; got " ++
        s!"unsupported source `{value}`."

/-- `openai_file_data_reference_from_part` (`media.rs` 470-480). -/
def openaiFileDataReferenceFromPart (parseUrl : String → Option Url) (part : Value) :
    Except String OpenAiFileDataReference := do
  match ← openaiFileReferencePayload part with
  | none => throw <|
      "OpenAI file parts require file_data or file_url for portable cross-protocol file " ++
        "translation."
  | some (payload, field) => do
      let resolvedMimeType ← openaiFilePartResolvedMimeType part
      openaiFileDataReferenceFromPayload parseUrl payload field resolvedMimeType

end Translate
end LlmUniversalProxy
