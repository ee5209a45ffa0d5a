import LlmUniversalProxy.Lib.Base64
import LlmUniversalProxy.Lib.Result
import LlmUniversalProxy.Translate.Assessment

/-!
# `Translate.MediaSources` — what the checks on a source let through

The check for Base64 looks at every byte once and at the last data byte twice. What it lets through
is what an encoder puts out, and nothing else.

A file may say its MIME type in several places. Where the proxy takes the file, they all say the
same, and where in the part they say it makes no difference.

The encoder is `Lib.Base64`, which is written down without a look at the check.
-/

set_option autoImplicit false

namespace LlmUniversalProxy.Translate

open Json Lib

/-! ## Base64 -/

theorem value_of_base64DataValue (b : UInt8) :
    (base64DataValue b).map UInt8.toNat = Base64.value b := by
  have hb := b.toNat_lt
  unfold base64DataValue Base64.value
  simp only [Bool.and_eq_true, decide_eq_true_eq, UInt8.le_iff_toNat_le, ← UInt8.toNat_inj,
    UInt8.reduceToNat]
  split_ifs with hupper hlower hdigit hplus hslash
  · rw [Option.map_some, UInt8.toNat_sub]
    exact congrArg some (by simp only [UInt8.reduceToNat]; omega)
  · rw [Option.map_some, UInt8.toNat_add, UInt8.toNat_sub]
    exact congrArg some (by simp only [UInt8.reduceToNat]; omega)
  · rw [Option.map_some, UInt8.toNat_add, UInt8.toNat_sub]
    exact congrArg some (by simp only [UInt8.reduceToNat]; omega)
  · rfl
  · rfl
  · rfl

theorem isSome_base64DataValue (b : UInt8) :
    (base64DataValue b).isSome = true ↔ Base64.IsDigit 1 b := by
  rw [← Option.isSome_map (f := UInt8.toNat), value_of_base64DataValue, Option.isSome_iff_exists]
  exact exists_congr fun n => (and_iff_left (Nat.mod_one n)).symm

theorem unusedBitsAreZero_iff {data : List UInt8} {last unused : UInt8} {k : Nat}
    (hlast : data.getLast? = some last) (hmask : unused.toNat = 2 ^ k - 1)
    (hfull : (0xff : UInt8) &&& unused ≠ 0) :
    unusedBitsAreZero data unused = true ↔ Base64.IsDigit (2 ^ k) last := by
  have hvalue := value_of_base64DataValue last
  unfold unusedBitsAreZero Base64.IsDigit
  rw [hlast, Option.bind_some, decide_eq_true_eq, ← hvalue]
  cases base64DataValue last with
  | none => simpa using hfull
  | some v =>
    have hbits : v &&& unused = 0 ↔ v.toNat % 2 ^ k = 0 := by
      rw [← UInt8.toNat_inj, UInt8.toNat_and, hmask, Nat.and_two_pow_sub_one_eq_mod]
      rfl
    simpa using hbits

/-- What `canonical_base64_payload` looks for once it knows that the length is right. -/
def scanned (bytes : List UInt8) : Bool :=
  let padding := base64Padding bytes
  let data := bytes.take (bytes.length - padding)
  data.all (fun b => (base64DataValue b).isSome) &&
    (padding ≠ 1 || unusedBitsAreZero data 0x03) && (padding ≠ 2 || unusedBitsAreZero data 0x0f)

theorem canonicalBase64Payload_eq_true_iff {value : String} :
    canonicalBase64Payload value false = true ↔
      bytesOf value ≠ [] ∧ (bytesOf value).length % 4 = 0 ∧ scanned (bytesOf value) = true := by
  unfold canonicalBase64Payload scanned
  cases hbytes : bytesOf value with
  | nil => simp
  | cons b rest =>
    simp

theorem base64Padding_append (front : List UInt8) {rest : List UInt8} (h : 2 ≤ rest.length) :
    base64Padding (front ++ rest) = base64Padding rest := by
  unfold base64Padding
  rw [List.reverse_append]
  obtain ⟨b, c, tail, hrest⟩ : ∃ b c tail, rest.reverse = b :: c :: tail := by
    have hlength : 2 ≤ rest.reverse.length := by rwa [List.length_reverse]
    cases hrev : rest.reverse with
    | nil =>
      rw [hrev] at hlength
      exact absurd hlength (by simp)
    | cons b tail =>
      cases tail with
      | nil =>
        rw [hrev] at hlength
        exact absurd hlength (by simp)
      | cons c tail => exact ⟨b, c, tail, rfl⟩
  rw [hrest]
  rfl

theorem base64Padding_le (bytes : List UInt8) : base64Padding bytes ≤ 2 := by
  unfold base64Padding
  split
  · split_ifs <;> omega
  · omega

/-- Behind the first group there is another one, so the first has only data in it. -/
theorem scanned_append (w x y z : UInt8) {rest : List UInt8} (h : 4 ≤ rest.length) :
    scanned (w :: x :: y :: z :: rest) = true ↔
      (Base64.IsDigit 1 w ∧ Base64.IsDigit 1 x ∧ Base64.IsDigit 1 y ∧ Base64.IsDigit 1 z) ∧
        scanned rest = true := by
  have hpadding : base64Padding (w :: x :: y :: z :: rest) = base64Padding rest :=
    base64Padding_append [w, x, y, z] (by omega)
  have hle := base64Padding_le rest
  have htake : (w :: x :: y :: z :: rest).take ((w :: x :: y :: z :: rest).length -
      base64Padding rest) =
      w :: x :: y :: z :: rest.take (rest.length - base64Padding rest) := by
    rw [show (w :: x :: y :: z :: rest).length - base64Padding rest =
      (rest.length - base64Padding rest) + 4 by simp only [List.length_cons]; omega]
    rfl
  have hlast : (w :: x :: y :: z :: rest.take (rest.length - base64Padding rest)).getLast? =
      (rest.take (rest.length - base64Padding rest)).getLast? := by
    have hne : rest.take (rest.length - base64Padding rest) ≠ [] := by
      intro hnil
      have := congrArg List.length hnil
      rw [List.length_take, List.length_nil] at this
      omega
    obtain ⟨b, data, hdata⟩ := List.exists_cons_of_ne_nil hne
    rw [hdata]
    rfl
  unfold scanned unusedBitsAreZero
  simp only [hpadding, htake, hlast, List.all_cons, Bool.and_eq_true, isSome_base64DataValue]
  tauto

theorem scanned_group (w x y z : UInt8) :
    scanned [w, x, y, z] = true ↔ Base64.Canonical [w, x, y, z] := by
  have hpad : ∀ {unit : Nat}, ¬ Base64.IsDigit unit Base64.pad := by
    rintro unit ⟨n, hn, _⟩
    cases hn
  have hweak : ∀ {unit : Nat} {b : UInt8}, Base64.IsDigit unit b → Base64.IsDigit 1 b :=
    fun ⟨n, hn, _⟩ => ⟨n, hn, Nat.mod_one n⟩
  -- the bits that the padding leaves unused: two of three digits, four of two
  have htwo : unusedBitsAreZero [w, x, y] 0x03 = true ↔ Base64.IsDigit 4 y :=
    unusedBitsAreZero_iff (k := 2) rfl rfl (by decide)
  have hfour : unusedBitsAreZero [w, x] 0x0f = true ↔ Base64.IsDigit 16 x :=
    unusedBitsAreZero_iff (k := 4) rfl rfl (by decide)
  -- two, one or no characters of padding
  by_cases hz : z = Base64.pad
  · subst hz
    by_cases hy : y = Base64.pad
    · subst hy
      have hscan : scanned [w, x, Base64.pad, Base64.pad] =
          (((base64DataValue w).isSome && ((base64DataValue x).isSome && true)) && true &&
            unusedBitsAreZero [w, x] 0x0f) := rfl
      rw [hscan]
      simp only [Bool.and_eq_true, isSome_base64DataValue, and_true, hfour]
      constructor
      · rintro ⟨⟨hw, _⟩, hx⟩
        exact .inr (.inr ⟨rfl, hw, hx, rfl, rfl⟩)
      · rintro (⟨_, _, hy, _⟩ | ⟨_, _, _, hy, _⟩ | ⟨_, hw, hx, _⟩)
        · exact absurd hy hpad
        · exact absurd hy hpad
        · exact ⟨⟨hw, hweak hx⟩, hx⟩
    · have hpadding : base64Padding [w, x, y, Base64.pad] = 1 := if_neg hy
      have hscan : scanned [w, x, y, Base64.pad] =
          (((base64DataValue w).isSome && ((base64DataValue x).isSome &&
            ((base64DataValue y).isSome && true))) && unusedBitsAreZero [w, x, y] 0x03 && true) := by
        unfold scanned
        rw [hpadding]
        rfl
      rw [hscan]
      simp only [Bool.and_eq_true, isSome_base64DataValue, and_true, htwo]
      constructor
      · rintro ⟨⟨hw, hx, _⟩, hy⟩
        exact .inr (.inl ⟨rfl, hw, hx, hy, rfl⟩)
      · rintro (⟨_, _, _, hz, _⟩ | ⟨_, hw, hx, hy, _⟩ | ⟨_, _, _, hy', _⟩)
        · exact absurd hz hpad
        · exact ⟨⟨hw, hx, hweak hy⟩, hy⟩
        · exact absurd hy' hy
  · have hpadding : base64Padding [w, x, y, z] = 0 := if_neg hz
    have hscan : scanned [w, x, y, z] =
        (((base64DataValue w).isSome && ((base64DataValue x).isSome &&
          ((base64DataValue y).isSome && ((base64DataValue z).isSome && true)))) && true && true) := by
      unfold scanned
      rw [hpadding]
      rfl
    rw [hscan]
    simp only [Bool.and_eq_true, isSome_base64DataValue, and_true]
    constructor
    · rintro ⟨hw, hx, hy, hz⟩
      exact .inl ⟨hw, hx, hy, hz, trivial⟩
    · rintro (⟨hw, hx, hy, hz, _⟩ | ⟨_, _, _, _, hz'⟩ | ⟨_, _, _, _, hz'⟩)
      · exact ⟨hw, hx, hy, hz⟩
      · exact absurd hz' hz
      · exact absurd hz' hz

/-- The scan goes group by group. -/
theorem scanned_iff_canonical {bytes : List UInt8} (hne : bytes ≠ []) (h : bytes.length % 4 = 0) :
    scanned bytes = true ↔ Base64.Canonical bytes := by
  induction bytes using Base64.Canonical.induct with
  | case1 => exact absurd rfl hne
  | case2 w x y z rest ih =>
    by_cases hrest : rest = []
    · subst hrest
      exact scanned_group w x y z
    · have hlength : rest.length % 4 = 0 := by
        simp only [List.length_cons] at h
        omega
      have hfour : 4 ≤ rest.length := by
        have := List.length_pos_of_ne_nil hrest
        omega
      rw [scanned_append w x y z hfour, ih hrest hlength]
      simp only [Base64.Canonical, hrest, false_and, or_false, and_assoc]
  | case3 bytes hnil hgroup =>
    exfalso
    rcases bytes with _ | ⟨w, _ | ⟨x, _ | ⟨y, _ | ⟨z, rest⟩⟩⟩⟩
    · exact hnil rfl
    · simp at h
    · simp at h
    · simp at h
    · exact hgroup w x y z rest rfl

/-- A text passes just when it is what an encoder makes of some bytes, and not of none. -/
theorem canonicalBase64Payload_iff_encode (value : String) :
    canonicalBase64Payload value false = true ↔
      ∃ bytes, bytes ≠ [] ∧ Base64.encode bytes = bytesOf value := by
  rw [canonicalBase64Payload_eq_true_iff]
  constructor
  · rintro ⟨hne, hlength, hscan⟩
    obtain ⟨bytes, hbytes⟩ :=
      Base64.canonical_iff.mp ((scanned_iff_canonical hne hlength).mp hscan)
    refine ⟨bytes, ?_, hbytes⟩
    rintro rfl
    exact hne hbytes.symm
  · rintro ⟨bytes, hbytes, hencode⟩
    have hcanonical : Base64.Canonical (bytesOf value) := Base64.canonical_iff.mpr ⟨bytes, hencode⟩
    have hne : bytesOf value ≠ [] := by
      rw [← hencode]
      exact Base64.encode_ne_nil hbytes
    have hlength : (bytesOf value).length % 4 = 0 := by
      rw [← hencode]
      exact Base64.length_encode_mod bytes
    exact ⟨hne, hlength, (scanned_iff_canonical hne hlength).mpr hcanonical⟩

/-! ## The MIME type of a file -/

def openaiFileFields : List String :=
  ["file_id", "mime_type", "mimeType", "file_data", "file_url", "filename"]

/-- What a part says about its file, at its top or in its `file` object. -/
def fileDeclarations (part : Value) : List (String × Value) :=
  (openaiFilePartMaps part).flatMap fun map =>
    openaiFileFields.filterMap fun field => (map.get field).map fun value => (field, value)

/-- The MIME type that a field stands for. -/
def declaredMimeType (declaration : String × Value) : Option String :=
  if declaration.1 = "mime_type" ∨ declaration.1 = "mimeType" then
    declaration.2.asStr.bind normalizedMimeType
  else if declaration.1 = "file_data" ∨ declaration.1 = "file_url" then
    declaration.2.asStr.bind fun text =>
      (base64DataUriParts text).bind fun parts => normalizedMimeType parts.1
  else if declaration.1 = "filename" then
    declaration.2.asStr.bind fun text => (mimeTypeFromFilename text).bind normalizedMimeType
  else none

/-- A field that holds the file itself. -/
def isPayloadField (field : String) : Bool := field = "file_data" || field = "file_url"

def OpenAiFileDataReference.mimeType? : OpenAiFileDataReference → Option String
  | .inlineData mimeType _ => some mimeType
  | .httpRemoteUrl mimeType _ => some mimeType
  | .providerOrLocalUri mimeType _ => some mimeType
  | .bareBase64 mimeType _ => mimeType

theorem filter_filterMap_field (p : String → Bool) (get : String → Option Value)
    (fields : List String) :
    (fields.filterMap fun field => (get field).map fun value => (field, value)).filter
        (fun declaration => p declaration.1) =
      (fields.filter p).filterMap fun field => (get field).map fun value => (field, value) := by
  induction fields with
  | nil => rfl
  | cons field fields ih =>
    cases hget : get field <;> cases hp : p field <;> simp [hget, hp, ih]

/-- The payloads are among the declarations, in their order. -/
theorem filter_fileDeclarations (part : Value) :
    (fileDeclarations part).filter (fun declaration => isPayloadField declaration.1) =
      (openaiFilePartMaps part).flatMap filePayloads := by
  unfold fileDeclarations
  rw [List.filter_flatMap]
  refine List.flatMap_congr fun map _ => ?_
  rw [filter_filterMap_field]
  rfl

theorem declared_field {field : String} {f : String → Option String}
    (h : ∀ value, declaredMimeType (field, value) = value.asStr.bind f) (map : Value) :
    ((map.get field).map fun value => (field, value)).bind declaredMimeType =
      (map.getStr field).bind f := by
  unfold Value.getStr
  cases map.get field with
  | none => rfl
  | some value => exact h value

theorem undeclared_field {field : String} (h : ∀ value, declaredMimeType (field, value) = none)
    (map : Value) : ((map.get field).map fun value => (field, value)).bind declaredMimeType = none := by
  cases map.get field with
  | none => rfl
  | some value => exact h value

theorem filterMap_fileDeclarations (part : Value) :
    (fileDeclarations part).filterMap declaredMimeType =
      ((openaiFilePartMaps part).flatMap mimeCandidates).map (·.mimeType) := by
  unfold fileDeclarations
  rw [List.filterMap_flatMap, List.map_flatMap]
  refine List.flatMap_congr fun map _ => ?_
  have hid : ((map.get "file_id").map fun value => ("file_id", value)).bind declaredMimeType =
      none := undeclared_field (fun _ => rfl) map
  have hmime : ((map.get "mime_type").map fun value => ("mime_type", value)).bind declaredMimeType =
      (map.getStr "mime_type").bind normalizedMimeType := declared_field (fun _ => rfl) map
  have hmime' : ((map.get "mimeType").map fun value => ("mimeType", value)).bind declaredMimeType =
      (map.getStr "mimeType").bind normalizedMimeType := declared_field (fun _ => rfl) map
  have hdata : ((map.get "file_data").map fun value => ("file_data", value)).bind declaredMimeType =
      (map.getStr "file_data").bind fun text =>
        (base64DataUriParts text).bind fun parts => normalizedMimeType parts.1 :=
    declared_field (fun _ => rfl) map
  have hurl : ((map.get "file_url").map fun value => ("file_url", value)).bind declaredMimeType =
      (map.getStr "file_url").bind fun text =>
        (base64DataUriParts text).bind fun parts => normalizedMimeType parts.1 :=
    declared_field (fun _ => rfl) map
  have hname : ((map.get "filename").map fun value => ("filename", value)).bind declaredMimeType =
      (map.getStr "filename").bind fun text =>
        (mimeTypeFromFilename text).bind normalizedMimeType :=
    declared_field (fun _ => rfl) map
  rw [List.filterMap_filterMap]
  simp only [openaiFileFields, mimeCandidates, dataUriMimeType, List.filterMap_cons,
    List.filterMap_nil, hid, hmime, hmime', hdata, hurl, hname, Option.bind_assoc]
  generalize (map.getStr "mime_type").bind normalizedMimeType = a
  generalize (map.getStr "mimeType").bind normalizedMimeType = b
  generalize ((map.getStr "file_data").bind fun text =>
    (base64DataUriParts text).bind fun parts => normalizedMimeType parts.1) = c
  generalize ((map.getStr "file_url").bind fun text =>
    (base64DataUriParts text).bind fun parts => normalizedMimeType parts.1) = d
  generalize ((map.getStr "filename").bind fun text =>
    (mimeTypeFromFilename text).bind normalizedMimeType) = e
  cases a <;> cases b <;> cases c <;> cases d <;> cases e <;> rfl

theorem file_id_declared (part : Value) :
    (∃ declaration ∈ fileDeclarations part, declaration.1 = "file_id") ↔
      ((openaiFilePartMaps part).findSome? fun map => map.get "file_id").isSome = true := by
  unfold fileDeclarations
  rw [List.findSome?_isSome_iff]
  constructor
  · rintro ⟨⟨field, value⟩, hmem, rfl⟩
    obtain ⟨map, hmap, hfield⟩ := List.mem_flatMap.mp hmem
    obtain ⟨field, _, hget⟩ := List.mem_filterMap.mp hfield
    obtain ⟨value', hvalue, heq⟩ := Option.map_eq_some_iff.mp hget
    cases heq
    exact ⟨map, hmap, Option.isSome_iff_exists.mpr ⟨value, hvalue⟩⟩
  · rintro ⟨map, hmap, hsome⟩
    obtain ⟨value, hvalue⟩ := Option.isSome_iff_exists.mp hsome
    refine ⟨("file_id", value), List.mem_flatMap.mpr ⟨map, hmap, ?_⟩, rfl⟩
    exact List.mem_filterMap.mpr ⟨"file_id", by decide, by rw [hvalue]; rfl⟩

theorem findSome_source {candidates : List OpenAiFileMimeCandidate} {mimeType : String}
    (hne : candidates ≠ []) (h : ∀ candidate ∈ candidates, candidate.mimeType = mimeType) :
    ([OpenAiFileMimeSource.fileData, .explicit, .filename].findSome? fun source =>
      (candidates.find? fun candidate => candidate.source = source).map (·.mimeType)) =
        some mimeType := by
  obtain ⟨first, rest, rfl⟩ := List.exists_cons_of_ne_nil hne
  have hsome : ([OpenAiFileMimeSource.fileData, .explicit, .filename].findSome? fun source =>
      ((first :: rest).find? fun candidate => candidate.source = source).map
        (·.mimeType)).isSome = true := by
    rw [List.findSome?_isSome_iff]
    refine ⟨first.source, by cases first.source <;> decide, ?_⟩
    simp
  obtain ⟨found, hfound⟩ := Option.isSome_iff_exists.mp hsome
  obtain ⟨source, _, hsource⟩ := List.exists_of_findSome?_eq_some hfound
  obtain ⟨candidate, hcandidate, rfl⟩ := Option.map_eq_some_iff.mp hsource
  rw [hfound, h candidate (List.mem_of_find?_eq_some hcandidate)]

/-- The declared types are one type, or there are none. -/
theorem resolveOpenaiFileMime_ok {candidates : List OpenAiFileMimeCandidate}
    {resolved : Option String} :
    resolveOpenaiFileMime candidates = .ok resolved ↔
      (∀ mimeType ∈ candidates.map (·.mimeType), resolved = some mimeType) ∧
        (candidates.map (·.mimeType) = [] → resolved = none) := by
  cases candidates with
  | nil =>
    constructor
    · rintro ⟨⟩
      exact ⟨by simp, fun _ => rfl⟩
    · rintro ⟨_, hnone⟩
      rw [hnone rfl]
      rfl
  | cons first rest =>
    unfold resolveOpenaiFileMime
    cases hfind : rest.find? fun candidate => candidate.mimeType ≠ first.mimeType with
    | some other =>
      have hne : other.mimeType ≠ first.mimeType := by simpa using List.find?_some hfind
      have hother := List.mem_of_find?_eq_some hfind
      simp only [hfind]
      constructor
      · intro h
        cases h
      · rintro ⟨hall, _⟩
        have hfirst := hall first.mimeType (List.mem_map_of_mem List.mem_cons_self)
        have hsecond :=
          hall other.mimeType (List.mem_map_of_mem (List.mem_cons_of_mem first hother))
        exact absurd (Option.some.inj (hsecond.symm.trans hfirst)) hne
    | none =>
      have hsame : ∀ candidate ∈ first :: rest, candidate.mimeType = first.mimeType := by
        intro candidate hmem
        rcases List.mem_cons.mp hmem with rfl | hmem
        · rfl
        · simpa using List.find?_eq_none.mp hfind candidate hmem
      simp only [hfind, findSome_source (List.cons_ne_nil first rest) hsame, Except.ok.injEq]
      constructor
      · rintro rfl
        refine ⟨?_, fun hnil => absurd hnil (by simp)⟩
        intro mimeType hmem
        obtain ⟨candidate, hcandidate, rfl⟩ := List.mem_map.mp hmem
        rw [hsame candidate hcandidate]
      · rintro ⟨hall, _⟩
        exact (hall first.mimeType (List.mem_map_of_mem List.mem_cons_self)).symm

theorem openaiFilePartResolvedMimeType_ok {part : Value} {resolved : Option String} :
    openaiFilePartResolvedMimeType part = .ok resolved ↔
      (∀ mimeType ∈ (fileDeclarations part).filterMap declaredMimeType, resolved = some mimeType) ∧
        ((fileDeclarations part).filterMap declaredMimeType = [] → resolved = none) := by
  rw [filterMap_fileDeclarations]
  exact resolveOpenaiFileMime_ok

theorem openaiFileReferencePayload_ok {part : Value} {payload field : String} :
    openaiFileReferencePayload part = .ok (some (payload, field)) ↔
      (¬ ∃ declaration ∈ fileDeclarations part, declaration.1 = "file_id") ∧
        (fileDeclarations part).filter (fun declaration => isPayloadField declaration.1) =
          [(field, .string payload)] := by
  rw [file_id_declared, filter_fileDeclarations]
  unfold openaiFileReferencePayload openaiFileSource
  dsimp only
  cases (openaiFilePartMaps part).findSome? fun map => map.get "file_id" with
  | some fileId => cases hstr : fileId.asStr <;> simp [hstr]
  | none =>
    cases hpayloads : (openaiFilePartMaps part).flatMap filePayloads with
    | nil => simp
    | cons first rest =>
      obtain ⟨field', value⟩ := first
      cases rest with
      | nil =>
        cases value with
        | string text => simp [Value.asStr, and_comm]
        | _ => simp [Value.asStr]
      | cons second rest => simp

theorem openaiFileDataReferenceFromPart_ok {parseUrl : String → Option Url} {part : Value}
    {reference : OpenAiFileDataReference} :
    openaiFileDataReferenceFromPart parseUrl part = .ok reference ↔
      ∃ payload field resolved, openaiFileReferencePayload part = .ok (some (payload, field)) ∧
        openaiFilePartResolvedMimeType part = .ok resolved ∧
        openaiFileDataReferenceFromPayload parseUrl payload field resolved = .ok reference := by
  unfold openaiFileDataReferenceFromPart
  rw [Result.bind_ok]
  constructor
  · rintro ⟨_ | ⟨payload, field⟩, hpayload, hrest⟩
    · cases hrest
    · obtain ⟨resolved, hresolved, hreference⟩ := Result.bind_ok.mp hrest
      exact ⟨payload, field, resolved, hpayload, hresolved, hreference⟩
  · rintro ⟨payload, field, resolved, hpayload, hresolved, hreference⟩
    exact ⟨some (payload, field), hpayload, Result.bind_ok.mpr ⟨resolved, hresolved, hreference⟩⟩

theorem classify_mimeDataUri {parseUrl : String → Option Url} {value mimeType data : String}
    (h : classifyMediaSourceReference parseUrl value = .mimeDataUri mimeType data) :
    base64DataUriParts value = some (mimeType, data) := by
  unfold classifyMediaSourceReference at h
  cases hparts : base64DataUriParts value with
  | some parts =>
    simp only [hparts, MediaSourceReference.mimeDataUri.injEq] at h
    rw [← h.1, ← h.2]
  | none =>
    simp only [hparts] at h
    split at h
    · cases h
    · split at h
      · cases h
      · split at h
        · split at h <;> cases h
        · split at h <;> cases h

theorem declaredMimeType_payload {field payload : String} (h : isPayloadField field = true) :
    declaredMimeType (field, .string payload) =
      (base64DataUriParts payload).bind fun parts => normalizedMimeType parts.1 := by
  unfold isPayloadField at h
  rw [Bool.or_eq_true, decide_eq_true_eq, decide_eq_true_eq] at h
  rcases h with rfl | rfl
  · rfl
  · rfl

theorem mimeType_resolved {parseUrl : String → Option Url} {part : Value}
    {reference : OpenAiFileDataReference} {mimeType : String}
    (h : openaiFileDataReferenceFromPart parseUrl part = .ok reference)
    (hmime : reference.mimeType? = some mimeType) :
    openaiFilePartResolvedMimeType part = .ok (some mimeType) := by
  obtain ⟨payload, field, resolved, hpayload, hresolved, hreference⟩ :=
    openaiFileDataReferenceFromPart_ok.mp h
  obtain ⟨_, hfilter⟩ := openaiFileReferencePayload_ok.mp hpayload
  have hdeclared : (field, Value.string payload) ∈ fileDeclarations part ∧ isPayloadField field := by
    have hmem : (field, Value.string payload) ∈
        (fileDeclarations part).filter fun declaration => isPayloadField declaration.1 := by
      rw [hfilter]
      exact List.mem_singleton_self _
    exact List.mem_filter.mp hmem
  have hall := (openaiFilePartResolvedMimeType_ok.mp hresolved).1
  suffices hsuffices : resolved = some mimeType by rw [hresolved, hsuffices]
  unfold openaiFileDataReferenceFromPayload at hreference
  dsimp only at hreference
  cases hclass : classifyMediaSourceReference parseUrl payload with
  | mimeDataUri declared data =>
    -- the payload itself is one of the declarations
    have hparts := classify_mimeDataUri hclass
    simp only [hclass] at hreference
    cases hnormal : normalizedMimeType declared with
    | none =>
      simp only [hnormal, reduceCtorEq] at hreference
    | some normal =>
      simp only [hnormal, Except.ok.injEq] at hreference
      subst hreference
      cases hmime
      refine hall mimeType (List.mem_filterMap.mpr ⟨_, hdeclared.1, ?_⟩)
      rw [declaredMimeType_payload hdeclared.2, hparts, Option.bind_some]
      exact hnormal
  | httpRemoteUrl url =>
    simp only [hclass] at hreference
    cases resolved with
    | none => simp only [reduceCtorEq] at hreference
    | some found =>
      simp only [Except.ok.injEq] at hreference
      subst hreference
      exact hmime
  | providerOrLocalUri uri =>
    simp only [hclass] at hreference
    cases resolved with
    | none => simp only [reduceCtorEq] at hreference
    | some found =>
      simp only [Except.ok.injEq] at hreference
      subst hreference
      exact hmime
  | bareBase64 data =>
    simp only [hclass, Except.ok.injEq] at hreference
    subst hreference
    exact hmime
  | unsupported value =>
    simp only [hclass, reduceCtorEq] at hreference

theorem perm_resolved {part other : Value} (h : (fileDeclarations part).Perm (fileDeclarations other))
    {resolved : Option String} (hresolved : openaiFilePartResolvedMimeType part = .ok resolved) :
    openaiFilePartResolvedMimeType other = .ok resolved := by
  have hmimes := h.filterMap declaredMimeType
  rw [openaiFilePartResolvedMimeType_ok] at hresolved ⊢
  obtain ⟨hall, hnone⟩ := hresolved
  refine ⟨fun mimeType hmem => hall mimeType (hmimes.mem_iff.mpr hmem), fun hnil => hnone ?_⟩
  rw [hnil] at hmimes
  exact hmimes.eq_nil

theorem perm_reference {parseUrl : String → Option Url} {part other : Value}
    (h : (fileDeclarations part).Perm (fileDeclarations other))
    {reference : OpenAiFileDataReference}
    (hreference : openaiFileDataReferenceFromPart parseUrl part = .ok reference) :
    openaiFileDataReferenceFromPart parseUrl other = .ok reference := by
  obtain ⟨payload, field, resolved, hpayload, hresolved, hreference⟩ :=
    openaiFileDataReferenceFromPart_ok.mp hreference
  refine openaiFileDataReferenceFromPart_ok.mpr
    ⟨payload, field, resolved, ?_, perm_resolved h hresolved, hreference⟩
  obtain ⟨hid, hfilter⟩ := openaiFileReferencePayload_ok.mp hpayload
  refine openaiFileReferencePayload_ok.mpr ⟨?_, ?_⟩
  · rintro ⟨declaration, hmem, hfield⟩
    exact hid ⟨declaration, h.mem_iff.mpr hmem, hfield⟩
  · have hpayloads := h.filter fun declaration => isPayloadField declaration.1
    rw [hfilter] at hpayloads
    exact List.perm_singleton.mp hpayloads.symm

theorem toOption_eq {ε α : Type} {x y : Except ε α} (h : ∀ a, x = .ok a ↔ y = .ok a) :
    x.toOption = y.toOption := by
  cases x with
  | ok a =>
    rw [(h a).mp rfl]
  | error e =>
    cases y with
    | ok a => cases (h a).mpr rfl
    | error e' => rfl

/-- Where a file is taken with a type, everything in the part that declares one declares this one,
and it is the one that the surface is asked about. How the part is laid out has no part in the
verdict. -/
theorem file_mime_provenance_agrees (parseUrl : String → Option Url) (part : Value) :
    (∀ reference mimeType, openaiFileDataReferenceFromPart parseUrl part = .ok reference →
      reference.mimeType? = some mimeType →
        (∀ declaration ∈ fileDeclarations part, ∀ declared,
          declaredMimeType declaration = some declared → declared = mimeType) ∧
        openaiFilePartResolvedMimeType part = .ok (some mimeType) ∧
        openaiFilePartModality part = (mimeTypeToInputModality mimeType).getD .file) ∧
    ∀ other, (fileDeclarations part).Perm (fileDeclarations other) →
      (openaiFileDataReferenceFromPart parseUrl part).toOption =
          (openaiFileDataReferenceFromPart parseUrl other).toOption ∧
        (openaiFilePartResolvedMimeType part).toOption =
          (openaiFilePartResolvedMimeType other).toOption ∧
        openaiFilePartModality part = openaiFilePartModality other := by
  constructor
  · intro reference mimeType hreference hmime
    have hresolved := mimeType_resolved hreference hmime
    refine ⟨?_, hresolved, ?_⟩
    · intro declaration hmem declared hdeclared
      have hall := (openaiFilePartResolvedMimeType_ok.mp hresolved).1 declared
        (List.mem_filterMap.mpr ⟨declaration, hmem, hdeclared⟩)
      exact (Option.some.inj hall).symm
    · unfold openaiFilePartModality
      rw [hresolved]
  · intro other hperm
    have hresolved : (openaiFilePartResolvedMimeType part).toOption =
        (openaiFilePartResolvedMimeType other).toOption :=
      toOption_eq fun resolved => ⟨perm_resolved hperm, perm_resolved hperm.symm⟩
    refine ⟨toOption_eq fun reference => ⟨perm_reference hperm, perm_reference hperm.symm⟩,
      hresolved, ?_⟩
    unfold openaiFilePartModality
    cases hpart : openaiFilePartResolvedMimeType part with
    | ok resolved => rw [perm_resolved hperm hpart]
    | error message =>
      rw [hpart] at hresolved
      cases hother : openaiFilePartResolvedMimeType other with
      | ok resolved =>
        rw [hother] at hresolved
        cases hresolved
      | error message' => rfl

/-- A file that says its type twice, once at the top and once by its name. -/
def nestedPdf : Value := .ofFields
  [("mime_type", .string "Application/PDF; version=1"),
    ("file", .ofFields [("file_data", .string "QUJD"), ("filename", .string "report.pdf")])]

theorem nested_pdf_is_pdf : openaiFilePartModality nestedPdf = .pdf := by
  have hclass : classifyMediaSourceReference (fun _ => none) "QUJD" = .bareBase64 "QUJD" := by
    have hparts : base64DataUriParts "QUJD" = none := by decide +kernel
    have hdata : (startsWithData "QUJD").isSome = false := by decide +kernel
    have hremote : httpOrHttpsRemoteUrl (fun _ => none) "QUJD" = none := by decide +kernel
    have hscheme : (cleanUriLikeSourceReference "QUJD").bind uriScheme = none := by decide +kernel
    have hvalid : (validateInlineBase64Payload "QUJD").isSome = true := by decide +kernel
    simp [classifyMediaSourceReference, hparts, hdata, hremote, hscheme, hvalid]
  have hreference : openaiFileDataReferenceFromPart (fun _ => none) nestedPdf =
      .ok (.bareBase64 (some "application/pdf") "QUJD") := by
    refine openaiFileDataReferenceFromPart_ok.mpr
      ⟨"QUJD", "file_data", some "application/pdf", by decide +kernel, by decide +kernel, ?_⟩
    simp [openaiFileDataReferenceFromPayload, hclass]
  have h := (file_mime_provenance_agrees (fun _ => none) nestedPdf).1 _ _ hreference rfl
  rw [h.2.2]
  decide +kernel

end LlmUniversalProxy.Translate
