import LlmUniversalProxy.Lib.Multimap
import LlmUniversalProxy.Server.Admin
import LlmUniversalProxy.Server.ModelRouting

/-!
# `Server.Headers` — the headers of a request to an upstream

Of the client's headers some are passed on, none of them a credential. The upstream's own credential
is put behind them, the version header of the protocol where there is none, and then the headers
that are configured for the upstream, each of which takes the place of one that is there already.

A header may occur more than once. A configured header replaces its first occurrence, so that what
is left of the others is what the client sent.

The source is `server/headers.rs` 16-116 and 224-301. A configured name is checked with the letters
of ASCII folded and sent with all of Unicode folded, and the Kelvin sign is a `k` to the second
alone (`config.rs` 1619-1630).
-/

set_option autoImplicit false

namespace LlmUniversalProxy.Server

open Json Lib

/-- `str::to_lowercase`: on ASCII it is `to_ascii_lowercase`, and it leaves no ASCII capitals. -/
structure Lowercase where
  toLowercase : String → String
  ascii : ∀ s, (∀ c ∈ s.toList, c.toNat < 128) → toLowercase s = Text.asciiLower s
  folded : ∀ s, Text.asciiLower (toLowercase s) = toLowercase s

/-- `hooks::CredentialSource`. -/
inductive CredentialSource where
  | client
  | server
  deriving DecidableEq, Repr

/-- `headers::EffectiveCredential`. -/
structure EffectiveCredential where
  source : CredentialSource
  fingerprint : Option String
  deriving DecidableEq, Repr

/-- The names of `strip_auth_headers`. -/
def credentialNames : List String :=
  ["authorization", "x-api-key", "x-goog-api-key", "api-key", "openai-api-key",
    "anthropic-api-key"]

/-- `FORWARDABLE`. -/
def forwardable : List String :=
  ["authorization", "x-api-key", "x-goog-api-key", "api-key", "openai-api-key",
    "anthropic-api-key", "anthropic-version", "anthropic-beta", "openai-organization",
    "openai-project", "idempotency-key", "x-stainless-helper-method"]

/-- `extract_forwardable_headers`. -/
def extractForwardableHeaders (lower : Lowercase) (headers : HeaderMap) :
    List (String × String) :=
  headers.filterMap fun header =>
    let nameStr := lower.toLowercase header.1
    if forwardable.contains nameStr then header.2.map (nameStr, ·) else none

/-- `strip_auth_headers`. -/
def stripAuthHeaders (lower : Lowercase) (headers : List (String × String)) :
    List (String × String) :=
  headers.filter fun header => !credentialNames.contains (lower.toLowercase header.1)

/-- `auth_header_for_format`. -/
def authHeaderForFormat (format : UpstreamFormat) (apiKey : String) : String × String :=
  match format with
  | .openAiChatCompletions | .openAiResponses => ("authorization", s!"Bearer {apiKey}")
  | .anthropic => ("x-api-key", apiKey)

/-- `build_auth_headers` (`server/headers.rs` 58-116); `fingerprint` is `fingerprint_credential`.
The policy was read when the request came in and the key when the namespace was built; where the two
do not go together the request fails, and is not sent with the wrong key. -/
def buildAuthHeaders (lower : Lowercase) (fingerprint : String → String)
    (requestHeaders : HeaderMap) (authContext : RequestAuthContext)
    (upstreamState : UpstreamState) (upstreamFormat : UpstreamFormat) :
    Except String (List (String × String) × EffectiveCredential) :=
  -- what the client sends for authentication is dropped, whatever the mode
  let headers := stripAuthHeaders lower (extractForwardableHeaders lower requestHeaders)
  match authContext.mode, authContext.access, authContext.authorization with
  | .clientProviderKey, .clientProviderKey, .clientProviderKey providerKey =>
      if upstreamState.providerKey.isSome then
        throw (s!"request auth snapshot mismatch at generation {authContext.generation}: " ++
          "client_provider_key mode has server provider key")
      else pure (headers ++ [authHeaderForFormat upstreamFormat providerKey],
        ⟨.client, some (fingerprint providerKey)⟩)
  | .proxyKey, .proxyKey _, .proxyKey =>
      match upstreamState.providerKey with
      | none => throw (s!"request auth snapshot mismatch at generation {authContext.generation}: " ++
          "proxy_key mode missing server provider key")
      | some providerKey => pure (headers ++ [authHeaderForFormat upstreamFormat providerKey],
          ⟨.server, some (fingerprint providerKey)⟩)
  | _, .unconfigured, _ => throw "data auth is not configured"
  | _, .misconfigured message, _ => throw s!"data auth misconfigured: {message}"
  | _, _, _ => throw ("request auth snapshot authorization does not match data auth mode at " ++
      s!"generation {authContext.generation}")

/-- `default_protocol_headers`. -/
def defaultProtocolHeaders : UpstreamFormat → List (String × String)
  | .anthropic => [("anthropic-version", "2023-06-01")]
  | _ => []

/-- `upsert_header`. -/
def upsertHeader (name value : String) : List (String × String) → List (String × String)
  | [] => [(name, value)]
  | existing :: rest =>
      if Text.eqIgnoreAsciiCase existing.1 name then (existing.1, value) :: rest
      else existing :: upsertHeader name value rest

/-- The first loop of `apply_upstream_headers`. -/
def addDefaultHeader (headers : List (String × String)) (default : String × String) :
    List (String × String) :=
  if headers.any fun existing => Text.eqIgnoreAsciiCase existing.1 default.1 then headers
  else headers ++ [default]

/-- `apply_upstream_headers`. -/
def applyUpstreamHeaders (lower : Lowercase) (extraHeaders : List (String × String))
    (targetFormat : UpstreamFormat) (headers : List (String × String)) : List (String × String) :=
  extraHeaders.foldl (fun headers extra => upsertHeader (lower.toLowercase extra.1) extra.2 headers)
    ((defaultProtocolHeaders targetFormat).foldl addDefaultHeader headers)

/-! ## What is sent -/

/-- The provider key that a request is to be made with: the client's own, or the server's. -/
def ownProviderKey (authContext : RequestAuthContext) (upstreamState : UpstreamState) :
    Option String :=
  match authContext.mode, authContext.authorization with
  | .clientProviderKey, .clientProviderKey providerKey => some providerKey
  | .clientProviderKey, .proxyKey => none
  | .proxyKey, _ => upstreamState.providerKey

/-- The configured headers, under the names they are sent with. -/
def sentAs (lower : Lowercase) (configured : List (String × String)) : List (String × String) :=
  configured.map fun header => (lower.toLowercase header.1, header.2)

def headersNamed (name : String) (headers : List (String × String)) : List (String × String) :=
  headers.filter fun header => Text.eqIgnoreAsciiCase header.1 name

/-- One credential is sent, and every configured header once, with the value it has last. -/
structure WellAddressed (lower : Lowercase) (format : UpstreamFormat) (providerKey : String)
    (configured headers : List (String × String)) : Prop where
  credential : (headers.filter fun header => credentialNames.contains (Text.asciiLower header.1)) =
    [authHeaderForFormat format providerKey]
  configured : ∀ header ∈ configured, ∃ value,
    (Multimap.valuesOf (lower.toLowercase header.1) (sentAs lower configured)).getLast? =
        some value ∧
      headersNamed (lower.toLowercase header.1) headers =
        [(lower.toLowercase header.1, value)]

/-- No configured header turns out to be another credential, and the client sends none of them more
than once. -/
structure Replaceable (lower : Lowercase) (format : UpstreamFormat) (providerKey : String)
    (configured : List (String × String)) (requestHeaders : HeaderMap) : Prop where
  credential : ∀ header ∈ configured, lower.toLowercase header.1 ∈ credentialNames →
    ∃ value, (Multimap.valuesOf (lower.toLowercase header.1) (sentAs lower configured)).getLast? =
        some value ∧
      (lower.toLowercase header.1, value) = authHeaderForFormat format providerKey
  once : ∀ header ∈ configured, lower.toLowercase header.1 ∉ credentialNames →
    (headersNamed (lower.toLowercase header.1)
      (extractForwardableHeaders lower requestHeaders)).length ≤ 1

/-! ## Names

All names on the way are in lower case already, and a comparison that ignores case is equality. -/

/-- No name has capitals. -/
def Lowered (headers : List (String × String)) : Prop :=
  ∀ header ∈ headers, Text.asciiLower header.1 = header.1

section

variable {headers : List (String × String)} {name : String}

theorem eqIgnoreAsciiCase_iff {other : String} (hname : Text.asciiLower name = name)
    (hother : Text.asciiLower other = other) :
    Text.eqIgnoreAsciiCase other name = true ↔ other = name := by
  rw [Text.eqIgnoreAsciiCase, beq_iff_eq, hname, hother]

theorem Lowered.append {others : List (String × String)} (h : Lowered headers)
    (hothers : Lowered others) : Lowered (headers ++ others) := by
  intro header hheader
  rcases List.mem_append.mp hheader with hheader | hheader
  · exact h header hheader
  · exact hothers header hheader

theorem Lowered.singleton {header : String × String} (h : Text.asciiLower header.1 = header.1) :
    Lowered [header] := by
  intro other hother
  rw [List.mem_singleton.mp hother]
  exact h

theorem Lowered.filter (h : Lowered headers) (p : String × String → Bool) :
    Lowered (headers.filter p) :=
  fun header hheader => h header (List.mem_filter.mp hheader).1

theorem Lowered.upsertHeader_eq (h : Lowered headers) (hname : Text.asciiLower name = name)
    (value : String) : upsertHeader name value headers = Multimap.upsert name value headers := by
  induction headers with
  | nil => rfl
  | cons existing rest ih =>
    have hexisting := h existing List.mem_cons_self
    have hrest : Lowered rest := fun header hheader => h header (List.mem_cons_of_mem _ hheader)
    rw [upsertHeader, Multimap.upsert, ih hrest]
    simp only [eqIgnoreAsciiCase_iff hname hexisting]

theorem Lowered.upsert (h : Lowered headers) (hname : Text.asciiLower name = name)
    (value : String) : Lowered (Multimap.upsert name value headers) := by
  induction headers with
  | nil => exact Lowered.singleton hname
  | cons existing rest ih =>
    have hexisting := h existing List.mem_cons_self
    have hrest : Lowered rest := fun header hheader => h header (List.mem_cons_of_mem _ hheader)
    rw [Multimap.upsert]
    split
    · have hchanged : Lowered [(existing.1, value)] := Lowered.singleton hexisting
      exact Lowered.append hchanged hrest
    · exact Lowered.append (Lowered.singleton hexisting) (ih hrest)

theorem Lowered.headersNamed_eq (h : Lowered headers) (hname : Text.asciiLower name = name) :
    headersNamed name headers = (Multimap.valuesOf name headers).map (name, ·) := by
  rw [← Multimap.filter_key]
  refine List.filter_congr fun header hheader => ?_
  exact Bool.eq_iff_iff.mpr
    ((eqIgnoreAsciiCase_iff hname (h header hheader)).trans decide_eq_true_iff.symm)

theorem Lowered.filter_credentials (h : Lowered headers) :
    (headers.filter fun header => credentialNames.contains (Text.asciiLower header.1)) =
      headers.filter fun header => credentialNames.contains header.1 := by
  refine List.filter_congr fun header hheader => ?_
  rw [h header hheader]

end

/-! ## The headers before the configured ones -/

section

variable (lower : Lowercase)

theorem lowered_extract (headers : HeaderMap) :
    Lowered (extractForwardableHeaders lower headers) := by
  intro header hheader
  obtain ⟨sent, _, hsent⟩ := List.mem_filterMap.mp hheader
  dsimp only at hsent
  split at hsent
  · obtain ⟨value, _, rfl⟩ := Option.map_eq_some_iff.mp hsent
    exact lower.folded sent.1
  · cases hsent

theorem forwardable_of_mem {headers : HeaderMap} {header : String × String}
    (h : header ∈ extractForwardableHeaders lower headers) : header.1 ∈ forwardable := by
  obtain ⟨sent, _, hsent⟩ := List.mem_filterMap.mp h
  dsimp only at hsent
  split at hsent
  · next hname =>
    obtain ⟨value, _, rfl⟩ := Option.map_eq_some_iff.mp hsent
    exact List.contains_iff_mem.mp hname
  · cases hsent

theorem toLowercase_forwardable {name : String} (h : name ∈ forwardable) :
    lower.toLowercase name = name := by
  have hforwardable : (forwardable.all fun name =>
      name.toList.all (fun c => c.toNat < 128) && Text.asciiLower name == name) = true := by
    decide +kernel
  obtain ⟨hascii, hlower⟩ := Bool.and_eq_true_iff.mp (List.all_eq_true.mp hforwardable name h)
  have hchars : ∀ c ∈ name.toList, c.toNat < 128 := by
    intro c hc
    exact of_decide_eq_true (List.all_eq_true.mp hascii c hc)
  rw [lower.ascii name hchars, eq_of_beq hlower]

theorem stripAuthHeaders_extract (headers : HeaderMap) :
    stripAuthHeaders lower (extractForwardableHeaders lower headers) =
      (extractForwardableHeaders lower headers).filter fun header =>
        !credentialNames.contains header.1 := by
  refine List.filter_congr fun header hheader => ?_
  rw [toLowercase_forwardable lower (forwardable_of_mem lower hheader)]

theorem authHeaderForFormat_mem (format : UpstreamFormat) (providerKey : String) :
    (authHeaderForFormat format providerKey).1 ∈ credentialNames := by
  cases format <;> exact List.contains_iff_mem.mp rfl

theorem asciiLower_credential {name : String} (h : name ∈ credentialNames) :
    Text.asciiLower name = name := by
  have hlower : ∀ name ∈ credentialNames, Text.asciiLower name = name := by decide +kernel
  exact hlower name h

/-- What a successful `build_auth_headers` gives: the client's other headers, and the credential. -/
theorem buildAuthHeaders_ok {fingerprint : String → String} {requestHeaders : HeaderMap}
    {authContext : RequestAuthContext} {upstreamState : UpstreamState} {format : UpstreamFormat}
    {headers : List (String × String)} {credential : EffectiveCredential}
    (h : buildAuthHeaders lower fingerprint requestHeaders authContext upstreamState format =
      .ok (headers, credential)) :
    ∃ providerKey, ownProviderKey authContext upstreamState = some providerKey ∧
      headers = stripAuthHeaders lower (extractForwardableHeaders lower requestHeaders) ++
        [authHeaderForFormat format providerKey] := by
  unfold buildAuthHeaders at h
  split at h
  · next providerKey hmode haccess hauth =>
    split at h
    · cases h
    · cases h
      refine ⟨providerKey, ?_, rfl⟩
      unfold ownProviderKey
      rw [hmode, hauth]
  · next key hmode haccess hauth =>
    split at h
    · cases h
    · next providerKey hkey =>
      cases h
      refine ⟨providerKey, ?_, rfl⟩
      unfold ownProviderKey
      rw [hmode, hauth]
      exact hkey
  · cases h
  · cases h
  · cases h

theorem defaultProtocolHeaders_name {format : UpstreamFormat} {header : String × String}
    (h : header ∈ defaultProtocolHeaders format) :
    Text.asciiLower header.1 = header.1 ∧ header.1 ∉ credentialNames := by
  cases format with
  | anthropic =>
    rw [List.mem_singleton.mp h]
    decide +kernel
  | openAiChatCompletions => cases h
  | openAiResponses => cases h

end

theorem Lowered.addDefaultHeader {headers : List (String × String)} (h : Lowered headers)
    {default : String × String} (hdefault : Text.asciiLower default.1 = default.1) :
    Lowered (addDefaultHeader headers default) ∧ ∀ name,
      Multimap.valuesOf name (Server.addDefaultHeader headers default) =
          Multimap.valuesOf name headers ∨
        name = default.1 ∧ Multimap.valuesOf name headers = [] ∧
          Multimap.valuesOf name (Server.addDefaultHeader headers default) = [default.2] := by
  unfold Server.addDefaultHeader
  split
  · exact ⟨h, fun _ => .inl rfl⟩
  · next hnone =>
    refine ⟨h.append (Lowered.singleton hdefault), fun name => ?_⟩
    rw [Multimap.valuesOf_append, Multimap.valuesOf_cons]
    by_cases hname : default.1 = name
    · right
      have hempty : Multimap.valuesOf name headers = [] := by
        refine Multimap.valuesOf_eq_nil_iff.mpr fun hmem => hnone ?_
        obtain ⟨header, hheader, hsame⟩ := List.mem_map.mp hmem
        refine List.any_eq_true.mpr ⟨header, hheader, ?_⟩
        exact (eqIgnoreAsciiCase_iff hdefault (h header hheader)).mpr (hsame.trans hname.symm)
      rw [hempty, if_pos hname]
      exact ⟨hname.symm, rfl, rfl⟩
    · left
      rw [if_neg hname, Multimap.valuesOf_nil, List.append_nil]

/-- The headers that the configured ones are put over: the credential, and of every other name what
the client has sent, or the default. -/
structure Base (lower : Lowercase) (format : UpstreamFormat) (providerKey : String)
    (requestHeaders : HeaderMap) (headers : List (String × String)) : Prop where
  lowered : Lowered headers
  credential : ∀ name ∈ credentialNames, Multimap.valuesOf name headers =
    if name = (authHeaderForFormat format providerKey).1 then
      [(authHeaderForFormat format providerKey).2] else []
  other : ∀ name, name ∉ credentialNames →
    Multimap.valuesOf name headers =
        Multimap.valuesOf name (extractForwardableHeaders lower requestHeaders) ∨
      Multimap.valuesOf name (extractForwardableHeaders lower requestHeaders) = [] ∧
        (Multimap.valuesOf name headers).length ≤ 1

theorem base_of_auth (lower : Lowercase) (format : UpstreamFormat) (providerKey : String)
    (requestHeaders : HeaderMap) :
    Base lower format providerKey requestHeaders
      (stripAuthHeaders lower (extractForwardableHeaders lower requestHeaders) ++
        [authHeaderForFormat format providerKey]) := by
  rw [stripAuthHeaders_extract]
  have hauth := authHeaderForFormat_mem format providerKey
  refine ⟨?_, fun name hname => ?_, fun name hname => .inl ?_⟩
  · exact (Lowered.filter (lowered_extract lower requestHeaders) _).append
      (Lowered.singleton (asciiLower_credential hauth))
  · have hstripped : (!credentialNames.contains name) = false := by
      rw [List.contains_iff_mem.mpr hname]
      rfl
    rw [Multimap.valuesOf_append,
      Multimap.valuesOf_filter_none (p := fun name => !credentialNames.contains name) hstripped,
      List.nil_append, Multimap.valuesOf_cons, Multimap.valuesOf_nil]
    simp only [eq_comm]
  · have hne : (authHeaderForFormat format providerKey).1 ≠ name := fun h => hname (h ▸ hauth)
    have hkept : (!credentialNames.contains name) = true := by
      rw [Bool.not_eq_true', ← Bool.not_eq_true, List.contains_iff_mem]
      exact hname
    rw [Multimap.valuesOf_append,
      Multimap.valuesOf_filter (p := fun name => !credentialNames.contains name) hkept,
      Multimap.valuesOf_cons, if_neg hne, Multimap.valuesOf_nil, List.append_nil]

theorem Base.withDefaults {lower : Lowercase} {format : UpstreamFormat} {providerKey : String}
    {requestHeaders : HeaderMap} {headers : List (String × String)}
    (h : Base lower format providerKey requestHeaders headers) :
    Base lower format providerKey requestHeaders
      ((defaultProtocolHeaders format).foldl addDefaultHeader headers) := by
  cases format with
  | openAiChatCompletions => exact h
  | openAiResponses => exact h
  | anthropic =>
    let default := ("anthropic-version", "2023-06-01")
    have hdefault : default ∈ defaultProtocolHeaders .anthropic := List.mem_singleton_self default
    obtain ⟨hlower, hother⟩ := defaultProtocolHeaders_name hdefault
    obtain ⟨hlowered, hvalues⟩ := h.lowered.addDefaultHeader hlower
    refine ⟨hlowered, fun name hname => ?_, fun name hname => ?_⟩
    · rcases hvalues name with hsame | ⟨hnamed, _⟩
      · exact hsame.trans (h.credential name hname)
      · exact absurd (hnamed ▸ hname) hother
    · change Multimap.valuesOf name (Server.addDefaultHeader headers default) = _ ∨
        _ ∧ (Multimap.valuesOf name (Server.addDefaultHeader headers default)).length ≤ 1
      rcases hvalues name with hsame | ⟨_, hempty, hone⟩
      · rw [hsame]
        exact h.other name hname
      · rw [hone]
        rcases h.other name hname with hclient | ⟨hclient, _⟩
        · exact .inr ⟨hclient.symm.trans hempty, Nat.le_refl _⟩
        · exact .inr ⟨hclient, Nat.le_refl _⟩

/-! ## The configured headers -/

section

variable {lower : Lowercase} {configured headers : List (String × String)}

theorem applied_eq (lower : Lowercase) (configured : List (String × String))
    (hlowered : Lowered headers) :
    configured.foldl (fun headers extra =>
        upsertHeader (lower.toLowercase extra.1) extra.2 headers) headers =
      Multimap.upsertAll (sentAs lower configured) headers ∧
    Lowered (Multimap.upsertAll (sentAs lower configured) headers) := by
  induction configured generalizing headers with
  | nil => exact ⟨rfl, hlowered⟩
  | cons extra configured ih =>
    have hname := lower.folded extra.1
    rw [List.foldl_cons, hlowered.upsertHeader_eq hname, sentAs, List.map_cons,
      Multimap.upsertAll_cons]
    exact ih (hlowered.upsert hname extra.2)

theorem exists_last (lower : Lowercase) {header : String × String} (h : header ∈ configured) :
    ∃ value, (Multimap.valuesOf (lower.toLowercase header.1)
      (sentAs lower configured)).getLast? = some value := by
  refine Option.ne_none_iff_exists'.mp fun hnone => ?_
  have hempty := Multimap.valuesOf_eq_nil_iff.mp (List.getLast?_eq_none_iff.mp hnone)
  refine hempty (List.mem_map.mpr ⟨(lower.toLowercase header.1, header.2), ?_, rfl⟩)
  exact List.mem_map.mpr ⟨header, h, rfl⟩

theorem valuesOf_configured (headers : List (String × String)) {name value : String}
    (hlast : (Multimap.valuesOf name (sentAs lower configured)).getLast? = some value) :
    Multimap.valuesOf name (Multimap.upsertAll (sentAs lower configured) headers) =
      value :: (Multimap.valuesOf name headers).tail := by
  rw [Multimap.valuesOf_upsertAll, hlast]
  rfl

theorem valuesOf_unconfigured {name : String}
    (h : ∀ header ∈ configured, lower.toLowercase header.1 ≠ name) :
    Multimap.valuesOf name (Multimap.upsertAll (sentAs lower configured) headers) =
      Multimap.valuesOf name headers := by
  have hempty : Multimap.valuesOf name (sentAs lower configured) = [] := by
    refine Multimap.valuesOf_eq_nil_iff.mpr fun hmem => ?_
    obtain ⟨sent, hsent, rfl⟩ := List.mem_map.mp hmem
    obtain ⟨header, hheader, rfl⟩ := List.mem_map.mp hsent
    exact h header hheader rfl
  rw [Multimap.valuesOf_upsertAll, hempty]
  rfl

variable {format : UpstreamFormat} {providerKey : String} {requestHeaders : HeaderMap}

/-- Nothing stays behind the first value of a name but what the client has repeated. -/
theorem Base.tail_eq_nil_iff (h : Base lower format providerKey requestHeaders headers)
    {name : String} (hname : Text.asciiLower name = name) :
    (Multimap.valuesOf name headers).tail = [] ↔ (name ∉ credentialNames →
      (headersNamed name (extractForwardableHeaders lower requestHeaders)).length ≤ 1) := by
  rw [(lowered_extract lower requestHeaders).headersNamed_eq hname, List.length_map,
    ← List.length_eq_zero_iff, List.length_tail]
  by_cases hcredential : name ∈ credentialNames
  · rw [h.credential name hcredential]
    refine ⟨fun _ hnot => absurd hcredential hnot, fun _ => ?_⟩
    split <;> rfl
  · rcases h.other name hcredential with hsame | ⟨hempty, hone⟩
    · rw [hsame]
      exact ⟨fun hzero _ => by omega, fun hone => by have := hone hcredential; omega⟩
    · rw [hempty]
      exact ⟨fun _ _ => Nat.zero_le 1, fun _ => by omega⟩

theorem wellAddressed_iff_replaceable
    (h : Base lower format providerKey requestHeaders headers) :
    WellAddressed lower format providerKey configured
        (Multimap.upsertAll (sentAs lower configured) headers) ↔
      Replaceable lower format providerKey configured requestHeaders := by
  have hsent := (applied_eq lower configured h.lowered).2
  -- The values of a configured name, and what they have to be.
  have hnamed : ∀ header ∈ configured, ∀ value,
      (Multimap.valuesOf (lower.toLowercase header.1) (sentAs lower configured)).getLast? =
        some value →
      headersNamed (lower.toLowercase header.1)
        (Multimap.upsertAll (sentAs lower configured) headers) =
        (value :: (Multimap.valuesOf (lower.toLowercase header.1) headers).tail).map
          (lower.toLowercase header.1, ·) := by
    intro header _ value hlast
    rw [hsent.headersNamed_eq (lower.folded header.1), valuesOf_configured headers hlast]
  have hauth := authHeaderForFormat_mem format providerKey
  constructor
  · intro hwell
    have hcredential := hwell.credential
    rw [hsent.filter_credentials] at hcredential
    obtain ⟨hown, hothers⟩ := (Multimap.filter_eq_singleton_iff (p := credentialNames.contains)
      (List.contains_iff_mem.mpr hauth)).mp hcredential
    refine ⟨fun header hheader hname => ?_, fun header hheader => ?_⟩
    · obtain ⟨value, hlast⟩ := exists_last lower hheader
      refine ⟨value, hlast, ?_⟩
      have hvalues := valuesOf_configured headers hlast
      have hsame : lower.toLowercase header.1 = (authHeaderForFormat format providerKey).1 := by
        by_contra hne
        rw [hothers _ (List.contains_iff_mem.mpr hname) hne] at hvalues
        cases hvalues
      rw [hsame] at hvalues ⊢
      rw [hown] at hvalues
      exact Prod.ext rfl (List.cons.inj hvalues).1.symm
    · obtain ⟨value, hlast, hone⟩ := hwell.configured header hheader
      rw [hnamed header hheader value hlast, List.map_cons] at hone
      have htail := List.map_eq_nil_iff.mp (List.cons.inj hone).2
      exact (h.tail_eq_nil_iff (lower.folded header.1)).mp htail
  · intro hreplaceable
    have htail : ∀ header ∈ configured,
        (Multimap.valuesOf (lower.toLowercase header.1) headers).tail = [] :=
      fun header hheader => (h.tail_eq_nil_iff (lower.folded header.1)).mpr
        (hreplaceable.once header hheader)
    refine ⟨?_, fun header hheader => ?_⟩
    · have hown : Multimap.valuesOf (authHeaderForFormat format providerKey).1
          (Multimap.upsertAll (sentAs lower configured) headers) =
            [(authHeaderForFormat format providerKey).2] := by
        by_cases hconfigured : ∃ header ∈ configured,
            lower.toLowercase header.1 = (authHeaderForFormat format providerKey).1
        · obtain ⟨header, hheader, hsame⟩ := hconfigured
          obtain ⟨value, hlast, heq⟩ := hreplaceable.credential header hheader (hsame ▸ hauth)
          rw [← hsame, valuesOf_configured headers hlast, htail header hheader]
          exact congrArg (fun auth => [auth.2]) heq
        · rw [valuesOf_unconfigured fun header hheader hsame =>
            hconfigured ⟨header, hheader, hsame⟩, h.credential _ hauth, if_pos rfl]
      have hothers : ∀ name, credentialNames.contains name = true →
          name ≠ (authHeaderForFormat format providerKey).1 →
          Multimap.valuesOf name (Multimap.upsertAll (sentAs lower configured) headers) = [] := by
        intro name hname hne
        have hmem := List.contains_iff_mem.mp hname
        rw [valuesOf_unconfigured, h.credential name hmem, if_neg hne]
        rintro header hheader rfl
        obtain ⟨value, _, heq⟩ := hreplaceable.credential header hheader hmem
        exact hne (congrArg Prod.fst heq)
      rw [hsent.filter_credentials]
      exact (Multimap.filter_eq_singleton_iff (p := credentialNames.contains)
        (List.contains_iff_mem.mpr hauth)).mpr ⟨hown, hothers⟩
    · obtain ⟨value, hlast⟩ := exists_last lower hheader
      refine ⟨value, hlast, ?_⟩
      rw [hnamed header hheader value hlast, htail header hheader]
      rfl

/-- In a valid configuration only a name beyond ASCII can turn into that of a credential. -/
theorem beyond_ascii_of_valid {checks : ConfigChecks} {config : RoutedConfig}
    (hvalid : config.validate checks = .ok ()) {upstream : UpstreamConfig}
    (hupstream : upstream ∈ config.upstreams) {header : String × String}
    (hheader : header ∈ upstream.upstreamHeaders)
    (hname : lower.toLowercase header.1 ∈ credentialNames) :
    ∃ c ∈ header.1.toList, 128 ≤ c.toNat := by
  by_contra hascii
  have hchars : ∀ c ∈ header.1.toList, c.toNat < 128 := fun c hc =>
    Nat.lt_of_not_le fun hbeyond => hascii ⟨c, hc, hbeyond⟩
  rw [lower.ascii header.1 hchars] at hname
  have hforbidden := validate_headers hvalid hupstream hheader
  have hnames : ∀ name ∈ credentialNames, name ∈ ["authorization", "proxy-authorization",
      "x-api-key", "x-goog-api-key", "api-key", "openai-api-key", "anthropic-api-key"] := by
    decide +kernel
  rw [isForbiddenUpstreamHeaderName, List.contains_iff_mem.mpr (hnames _ hname)] at hforbidden
  cases hforbidden

/-- **Outgoing headers.** Of a request that may be made, one credential goes out, that of its own
provider key, and every configured header once, with the value it has last, if and only if no
configured header turns into another credential in lower case and the client repeats none of the
others. -/
theorem outgoing_headers_iff {fingerprint : String → String} {authContext : RequestAuthContext}
    {upstreamState : UpstreamState} {credential : EffectiveCredential}
    (hauth : buildAuthHeaders lower fingerprint requestHeaders authContext upstreamState format =
      .ok (headers, credential)) :
    ∃ providerKey, ownProviderKey authContext upstreamState = some providerKey ∧
      (WellAddressed lower format providerKey upstreamState.config.upstreamHeaders
          (applyUpstreamHeaders lower upstreamState.config.upstreamHeaders format headers) ↔
        Replaceable lower format providerKey upstreamState.config.upstreamHeaders
          requestHeaders) := by
  obtain ⟨providerKey, hkey, rfl⟩ := buildAuthHeaders_ok lower hauth
  refine ⟨providerKey, hkey, ?_⟩
  have hbase := (base_of_auth lower format providerKey requestHeaders).withDefaults
  unfold applyUpstreamHeaders
  rw [(applied_eq lower upstreamState.config.upstreamHeaders hbase.lowered).1]
  exact wellAddressed_iff_replaceable hbase

end

/-! ## Two upstreams that do not get what is configured -/

theorem asciiLower_asciiLower (s : String) :
    Text.asciiLower (Text.asciiLower s) = Text.asciiLower s := by
  have hchar (c : Char) : Text.asciiLowerChar (Text.asciiLowerChar c) = Text.asciiLowerChar c := by
    unfold Text.asciiLowerChar
    by_cases hc : 'A' ≤ c ∧ c ≤ 'Z'
    · have hlow : 65 ≤ c.toNat := UInt32.le_iff_toNat_le.mp hc.1
      have hhigh : c.toNat ≤ 90 := UInt32.le_iff_toNat_le.mp hc.2
      have hnat : (Char.ofNat (c.toNat + 32)).toNat = c.toNat + 32 :=
        Text.toNat_ofNat (.inl (by omega))
      have hnot : ¬ ('A' ≤ Char.ofNat (c.toNat + 32) ∧ Char.ofNat (c.toNat + 32) ≤ 'Z') := by
        rintro ⟨_, hle⟩
        have hle : (Char.ofNat (c.toNat + 32)).toNat ≤ 90 := UInt32.le_iff_toNat_le.mp hle
        omega
      rw [if_pos hc, if_neg hnot]
    · rw [if_neg hc, if_neg hc]
  unfold Text.asciiLower
  rw [String.toList_ofList, List.map_map]
  exact congrArg String.ofList (List.map_congr_left fun c _ => hchar c)

/-- The Kelvin sign is the capital of `k`. -/
def unkelvin (c : Char) : Char := if c = '\u212a' then 'k' else c

def kelvinLowercase : Lowercase where
  toLowercase s := Text.asciiLower (String.ofList (s.toList.map unkelvin))
  ascii s hs := by
    have hchars : ∀ c ∈ s.toList, unkelvin c = id c := by
      intro c hc
      refine if_neg fun hkelvin => ?_
      have hascii := hs c hc
      rw [hkelvin] at hascii
      revert hascii
      decide
    rw [List.map_congr_left hchars, List.map_id, String.ofList_toList]
  folded s := asciiLower_asciiLower _

def betaUpstream (headers : List (String × String)) : UpstreamConfig :=
  ⟨"main", "https://api.example.com/v1", some .anthropic, none, headers, .null⟩

def betaConfig (headers : List (String × String)) : RoutedConfig where
  upstreams := [betaUpstream headers]
  settings := .null
  modelAliases := ∅

def betaState (headers : List (String × String)) : UpstreamState :=
  ⟨betaUpstream headers, none, none, .available⟩

def clientContext : RequestAuthContext :=
  ⟨"g1", .clientProviderKey, .clientProviderKey, .clientProviderKey "sk-1", ⟨∅⟩⟩

/-- A client that sends one header twice, as it may. -/
def betaHeaders : HeaderMap :=
  [("x-api-key", some "sk-1"), ("anthropic-beta", some "one"), ("anthropic-beta", some "two")]

/-- Headers that replace one of the client's and the version that is sent by default; the version is
configured twice. -/
def overridingHeaders : List (String × String) :=
  [("anthropic-beta", "ours"), ("Anthropic-Version", "2024-01-01"),
    ("anthropic-version", "2025-01-01")]

/-- The client sends each header once, so what is configured takes its place. -/
theorem outgoing_headers_iff_overriding :
    ∃ providerKey, ownProviderKey clientContext (betaState overridingHeaders) = some providerKey ∧
      WellAddressed kelvinLowercase .anthropic providerKey overridingHeaders
        (applyUpstreamHeaders kelvinLowercase overridingHeaders .anthropic
          [("anthropic-beta", "one"), ("x-api-key", "sk-1")]) := by
  have hauth : buildAuthHeaders kelvinLowercase id
      [("x-api-key", some "sk-1"), ("anthropic-beta", some "one")] clientContext
      (betaState overridingHeaders) .anthropic =
        .ok ([("anthropic-beta", "one"), ("x-api-key", "sk-1")], ⟨.client, some "sk-1"⟩) := by
    decide +kernel
  obtain ⟨providerKey, hkey, hiff⟩ := outgoing_headers_iff hauth
  refine ⟨providerKey, hkey, hiff.mpr ⟨fun header hheader hcredential => ?_, ?_⟩⟩
  · have hnone : ∀ header ∈ overridingHeaders,
        kelvinLowercase.toLowercase header.1 ∉ credentialNames := by decide +kernel
    exact absurd hcredential (hnone header hheader)
  · have honce : ∀ header ∈ overridingHeaders,
        (headersNamed (kelvinLowercase.toLowercase header.1)
          (extractForwardableHeaders kelvinLowercase
            [("x-api-key", some "sk-1"), ("anthropic-beta", some "one")])).length ≤ 1 := by
      decide +kernel
    exact fun header hheader _ => honce header hheader

def AlwaysWellAddressed : Prop :=
  ∀ (lower : Lowercase) (fingerprint : String → String) (checks : ConfigChecks)
    (config : RoutedConfig) (requestHeaders : HeaderMap) (authContext : RequestAuthContext)
    (upstreamState : UpstreamState) (format : UpstreamFormat) (headers : List (String × String))
    (credential : EffectiveCredential), config.validate checks = .ok () →
    upstreamState.config ∈ config.upstreams →
    buildAuthHeaders lower fingerprint requestHeaders authContext upstreamState format =
      .ok (headers, credential) →
    ∃ providerKey, ownProviderKey authContext upstreamState = some providerKey ∧
      WellAddressed lower format providerKey upstreamState.config.upstreamHeaders
        (applyUpstreamHeaders lower upstreamState.config.upstreamHeaders format headers)

theorem repeated_header_stays : ¬ AlwaysWellAddressed := by
  intro halways
  have hvalid : (betaConfig [("anthropic-beta", "ours")]).validate lenient = .ok () := by
    decide +kernel
  have hauth : buildAuthHeaders kelvinLowercase id betaHeaders clientContext
      (betaState [("anthropic-beta", "ours")]) .anthropic =
        .ok ([("anthropic-beta", "one"), ("anthropic-beta", "two"), ("x-api-key", "sk-1")],
          ⟨.client, some "sk-1"⟩) := by decide +kernel
  obtain ⟨providerKey, _, hwell⟩ := halways kelvinLowercase id lenient _ betaHeaders clientContext
    _ .anthropic _ _ hvalid List.mem_cons_self hauth
  obtain ⟨value, _, hone⟩ := hwell.configured ("anthropic-beta", "ours") List.mem_cons_self
  have hlength := congrArg List.length hone
  rw [List.length_singleton] at hlength
  revert hlength
  decide +kernel

-- A name with a Kelvin sign passes the validation, and is sent as a second credential.
example :
    (betaConfig [("x-goog-api-\u212aey", "other")]).validate lenient = .ok () ∧
      applyUpstreamHeaders kelvinLowercase [("x-goog-api-\u212aey", "other")] .anthropic
          [("x-api-key", "sk-1")] =
        [("x-api-key", "sk-1"), ("anthropic-version", "2023-06-01"),
          ("x-goog-api-key", "other")] := by
  decide +kernel

end LlmUniversalProxy.Server
