import LlmUniversalProxy.Lib.Digest
import LlmUniversalProxy.Lib.Percent
import LlmUniversalProxy.Lib.Split
import LlmUniversalProxy.Server.DataAuth

/-!
# `Server.ResourcePaths` — where a request for a resource goes

Besides new responses, a Responses client may ask for responses and conversations that there are
already. Their ids come from the client as any text at all, and become segments of the path the
upstream is asked under. `segments` is what a request is about; its path is read back as just
that, so an id never reaches into another part of the path, and no two requests are one to the
upstream.

URL libraries drop the segments `.` and `..`, written with or without percent signs. A path with
one is sent past them or not at all.

The source is `server/responses_resources.rs` 1896-1959 and `upstream.rs` 41-91 and 386-480.
-/

set_option autoImplicit false

namespace LlmUniversalProxy.Server

open Lib

/-! ## Paths -/

/-- The bytes that `encode_resource_path_segment` keeps. -/
def isResourcePathByte (b : UInt8) : Bool :=
  (65 ≤ b.toNat && b.toNat ≤ 90) || (97 ≤ b.toNat && b.toNat ≤ 122) ||
    (48 ≤ b.toNat && b.toNat ≤ 57) ||
    ("-._~!$&'()*+,;=:@".toList.map fun c => UInt8.ofNat c.toNat).contains b

/-- `encode_resource_path_segment`. -/
def encodeResourcePathSegment (segment : String) : String :=
  if segment = "." then "%2E"
  else if segment = ".." then "%2E%2E"
  else String.ofList (Percent.encode isResourcePathByte (bytesOf segment))

/-- The requests for resources that have a handler, each for its namespace. -/
inductive ResourceRequest where
  | compact
  | inputTokens
  | responseGet (responseId : String)
  | responseInputItems (responseId : String)
  | responseDelete (responseId : String)
  | responseCancel (responseId : String)
  | conversationsCreate
  | conversationGet (conversationId : String)
  | conversationUpdate (conversationId : String)
  | conversationDelete (conversationId : String)
  | conversationItems (conversationId : String)
  | conversationItemCreate (conversationId : String)
  | conversationItemGet (conversationId itemId : String)
  | conversationItemDelete (conversationId itemId : String)
  deriving DecidableEq, Repr

/-- The methods of the handlers. -/
inductive Method where
  | get
  | post
  | delete
  deriving DecidableEq, Repr

namespace ResourceRequest

def method : ResourceRequest → Method
  | responseGet _ | responseInputItems _ | conversationGet _ | conversationItems _
  | conversationItemGet _ _ => .get
  | compact | inputTokens | responseCancel _ | conversationsCreate | conversationUpdate _
  | conversationItemCreate _ => .post
  | responseDelete _ | conversationDelete _ | conversationItemDelete _ _ => .delete

/-- The `resource_path` that its handler gives it. -/
def resourcePath : ResourceRequest → String
  | compact => "responses/compact"
  | inputTokens => "responses/input_tokens"
  | responseGet id => s!"responses/{encodeResourcePathSegment id}"
  | responseInputItems id => s!"responses/{encodeResourcePathSegment id}/input_items"
  | responseDelete id => s!"responses/{encodeResourcePathSegment id}"
  | responseCancel id => s!"responses/{encodeResourcePathSegment id}/cancel"
  | conversationsCreate => "conversations"
  | conversationGet id => s!"conversations/{encodeResourcePathSegment id}"
  | conversationUpdate id => s!"conversations/{encodeResourcePathSegment id}"
  | conversationDelete id => s!"conversations/{encodeResourcePathSegment id}"
  | conversationItems id => s!"conversations/{encodeResourcePathSegment id}/items"
  | conversationItemCreate id => s!"conversations/{encodeResourcePathSegment id}/items"
  | conversationItemGet id itemId =>
      s!"conversations/{encodeResourcePathSegment id}/items/{encodeResourcePathSegment itemId}"
  | conversationItemDelete id itemId =>
      s!"conversations/{encodeResourcePathSegment id}/items/{encodeResourcePathSegment itemId}"

/-- What a request is about: the names on the way to the resource, as they are meant. -/
def segments : ResourceRequest → List String
  | compact => ["responses", "compact"]
  | inputTokens => ["responses", "input_tokens"]
  | responseGet responseId | responseDelete responseId => ["responses", responseId]
  | responseInputItems responseId => ["responses", responseId, "input_items"]
  | responseCancel responseId => ["responses", responseId, "cancel"]
  | conversationsCreate => ["conversations"]
  | conversationGet conversationId | conversationUpdate conversationId
  | conversationDelete conversationId => ["conversations", conversationId]
  | conversationItems conversationId | conversationItemCreate conversationId =>
      ["conversations", conversationId, "items"]
  | conversationItemGet conversationId itemId | conversationItemDelete conversationId itemId =>
      ["conversations", conversationId, "items", itemId]

end ResourceRequest

/-- How an upstream reads a path: it is cut at the slashes, and each segment is decoded. -/
def readPath (path : String) : List (List UInt8) :=
  (Text.splitChar path '/').map fun segment => Percent.decode segment.toList

/-- `url_stack_normalizes_dot_segment`. -/
def urlStackNormalizesDotSegment (segment : String) : Bool :=
  Text.asciiLower segment ∈ [".", "..", "%2e", "%2e%2e", "%2e.", ".%2e"]

/-- `resource_path_requires_raw_path_fidelity`. -/
def resourcePathRequiresRawPathFidelity (resourcePath : String) : Bool :=
  (Text.splitChar (Text.trimMatches resourcePath '/') '/').any urlStackNormalizesDotSegment

/-- `resource_path_is_response_retrieve`. -/
def resourcePathIsResponseRetrieve (resourcePath : String) : Bool :=
  (Text.stripPrefix resourcePath "responses/").any fun responseId =>
    !responseId.isEmpty && !responseId.toList.contains '/'

/-- `is_streamed_responses_retrieve`; the pairs of a query come from the URL library. -/
def isStreamedResponsesRetrieve (parseForm : String → List (String × String)) (method : Method)
    (resourcePath : String) (query : Option String) : Bool :=
  if method ≠ .get || !resourcePathIsResponseRetrieve resourcePath then false
  else
    query.any fun query => (parseForm query).any fun pair =>
      Text.eqIgnoreAsciiCase pair.1 "stream" && Text.eqIgnoreAsciiCase pair.2 "true"

/-! ## A path is read back -/

theorem isResourcePathByte_ascii :
    ∀ b : UInt8, isResourcePathByte b = true → b.toNat < 128 ∧ b ≠ 37 :=
  Percent.forall_byte (by decide +kernel)

/-- What an encoded segment is read as. -/
theorem decode_encodeResourcePathSegment (segment : String) :
    Percent.decode (encodeResourcePathSegment segment).toList = bytesOf segment := by
  unfold encodeResourcePathSegment
  split
  · next hdot =>
    subst hdot
    rfl
  · split
    · next hdots =>
      subst hdots
      rfl
    · rw [String.toList_ofList]
      exact Percent.decode_encode isResourcePathByte_ascii _

/-- An encoded segment has no slash in it, nor anything else that would end a path. -/
theorem notMem_encodeResourcePathSegment {segment : String} {c : Char}
    (hc : c ∈ ['/', '?', '#']) : c ∉ (encodeResourcePathSegment segment).toList := by
  have hkept : ∀ b : UInt8, isResourcePathByte b = true → Char.ofNat b.toNat ∉ ['/', '?', '#'] :=
    Percent.forall_byte (by decide +kernel)
  have hdigit : ∀ n < 16, Percent.digit n ∉ ['/', '?', '#'] := by decide
  have hfixed : ∀ dots ∈ ["%2E", "%2E%2E"], c ∉ dots.toList := by
    simp only [List.mem_cons, List.not_mem_nil, or_false] at hc
    rcases hc with rfl | rfl | rfl <;> decide
  unfold encodeResourcePathSegment
  split
  · exact hfixed _ List.mem_cons_self
  · split
    · exact hfixed _ (List.mem_cons_of_mem _ List.mem_cons_self)
    · intro hmem
      rw [String.toList_ofList] at hmem
      rcases Percent.mem_encode hmem with ⟨b, hb, rfl⟩ | rfl | ⟨n, hn, rfl⟩
      · exact hkept b hb hc
      · exact absurd hc (by decide)
      · exact hdigit n hn hc

/-- The names that the proxy itself puts into paths stand for themselves. -/
theorem encode_name : ∀ name ∈ ["responses", "compact", "input_tokens", "input_items", "cancel",
    "conversations", "items"], encodeResourcePathSegment name = name := by
  decide +kernel

namespace ResourceRequest

/-- A path is its segments, encoded, with slashes between them. -/
theorem resourcePath_eq (r : ResourceRequest) :
    r.resourcePath.toList =
      ['/'].intercalate (r.segments.map fun name => (encodeResourcePathSegment name).toList) := by
  have hresponses := encode_name "responses" (by simp)
  have hcompact := encode_name "compact" (by simp)
  have htokens := encode_name "input_tokens" (by simp)
  have hinput := encode_name "input_items" (by simp)
  have hcancel := encode_name "cancel" (by simp)
  have hconversations := encode_name "conversations" (by simp)
  have hitems := encode_name "items" (by simp)
  delta resourcePath
  cases r <;> simp [segments, List.intercalate, toString, hresponses, hcompact, htokens, hinput,
    hcancel, hconversations, hitems]

theorem splitChar_resourcePath (r : ResourceRequest) :
    Text.splitChar r.resourcePath '/' = r.segments.map encodeResourcePathSegment := by
  have hne : r.segments ≠ [] := by
    cases r <;> simp [segments]
  rw [Text.splitChar, resourcePath_eq, Text.splitChars_intercalate]
  · simp
  · simpa using hne
  · intro piece hpiece
    obtain ⟨segment, -, rfl⟩ := List.mem_map.mp hpiece
    exact notMem_encodeResourcePathSegment (by simp)

/-- **The path of a request is read as what the request is about.** -/
theorem readPath_resourcePath (r : ResourceRequest) :
    readPath r.resourcePath = r.segments.map bytesOf := by
  simp [readPath, splitChar_resourcePath, decode_encodeResourcePathSegment]

/-- No path has a query or a fragment in it. -/
theorem notMem_resourcePath (r : ResourceRequest) {c : Char} (hc : c = '?' ∨ c = '#') :
    c ∉ r.resourcePath.toList := by
  rw [resourcePath_eq]
  intro hmem
  rcases Text.mem_intercalate hmem with rfl | ⟨piece, hpiece, hin⟩
  · simp at hc
  · obtain ⟨segment, -, rfl⟩ := List.mem_map.mp hpiece
    refine notMem_encodeResourcePathSegment ?_ hin
    rcases hc with rfl | rfl <;> simp

/-- A request can be told from its method and what it is about. -/
theorem eq_of_segments {r r' : ResourceRequest} (hmethod : r.method = r'.method)
    (hsegments : r.segments = r'.segments) : r = r' := by
  cases r <;> cases r' <;> simp_all [method, segments]

end ResourceRequest

theorem encodeResourcePathSegment_isEmpty {segment : String} (h : segment ≠ "") :
    (encodeResourcePathSegment segment).isEmpty = false := by
  rw [String.isEmpty_eq_false_iff]
  intro hempty
  have hdecode := decode_encodeResourcePathSegment segment
  rw [hempty] at hdecode
  exact h (bytesOf_injective hdecode.symm)

theorem stripPrefix_responses (rest : String) :
    Text.stripPrefix ("responses/" ++ rest) "responses/" = some rest :=
  Text.stripPrefix_append _ _

theorem stripPrefix_conversations (rest : String) :
    Text.stripPrefix ("conversations/" ++ rest) "responses/" = none := by
  have hstart : Text.startsWith ("conversations/" ++ rest) "responses/" = false := by
    rw [Text.startsWith, String.toList_append]
    rfl
  simp [Text.stripPrefix, hstart]

/-- Among the requests of the method `GET`, only the one for a response itself has the path of a
retrieval. -/
theorem isResponseRetrieve_iff (r : ResourceRequest) (hmethod : r.method = .get) :
    resourcePathIsResponseRetrieve r.resourcePath = true ↔ ∃ id, id ≠ "" ∧ r = .responseGet id := by
  unfold resourcePathIsResponseRetrieve
  cases r with
  -- an encoded id has no slash in it, and is empty only if the id is
  | responseGet id =>
    have hpath : (ResourceRequest.responseGet id).resourcePath =
        "responses/" ++ encodeResourcePathSegment id := by
      rfl
    have hslash : '/' ∉ (encodeResourcePathSegment id).toList :=
      notMem_encodeResourcePathSegment (by simp)
    rw [hpath, stripPrefix_responses]
    simp only [Option.any_some, List.contains_eq_mem, hslash, decide_false, Bool.not_false,
      Bool.and_true, Bool.not_eq_true']
    constructor
    · intro hfull
      refine ⟨id, ?_, rfl⟩
      rintro rfl
      exact absurd hfull (by decide +kernel)
    · rintro ⟨_, hfull, heq⟩
      cases heq
      exact encodeResourcePathSegment_isEmpty hfull
  -- the others have another prefix, or a slash behind the id
  | responseInputItems id =>
    have hpath : (ResourceRequest.responseInputItems id).resourcePath =
        "responses/" ++ (encodeResourcePathSegment id ++ "/input_items") := by
      simp only [← String.append_assoc]
      rfl
    rw [hpath, stripPrefix_responses]
    simp
  | conversationGet id =>
    have hpath : (ResourceRequest.conversationGet id).resourcePath =
        "conversations/" ++ encodeResourcePathSegment id := by
      rfl
    rw [hpath, stripPrefix_conversations]
    simp
  | conversationItems id =>
    have hpath : (ResourceRequest.conversationItems id).resourcePath =
        "conversations/" ++ (encodeResourcePathSegment id ++ "/items") := by
      simp only [← String.append_assoc]
      rfl
    rw [hpath, stripPrefix_conversations]
    simp
  | conversationItemGet id itemId =>
    have hpath : (ResourceRequest.conversationItemGet id itemId).resourcePath =
        "conversations/" ++ (encodeResourcePathSegment id ++
          ("/items/" ++ encodeResourcePathSegment itemId)) := by
      simp only [← String.append_assoc]
      rfl
    rw [hpath, stripPrefix_conversations]
    simp
  | _ => cases hmethod

/-- A request is answered with a stream when it asks for one, and asks for a response. -/
theorem isStreamedRetrieve_iff (parseForm : String → List (String × String)) (r : ResourceRequest)
    (query : Option String) :
    isStreamedResponsesRetrieve parseForm r.method r.resourcePath query = true ↔
      (∃ id, id ≠ "" ∧ r = .responseGet id) ∧ ∃ text, query = some text ∧
        ∃ pair ∈ parseForm text, Text.eqIgnoreAsciiCase pair.1 "stream" = true ∧
          Text.eqIgnoreAsciiCase pair.2 "true" = true := by
  unfold isStreamedResponsesRetrieve
  by_cases hmethod : r.method = .get
  · rw [← isResponseRetrieve_iff r hmethod]
    cases query <;> simp [hmethod]
  · have hother : ¬ ∃ id, id ≠ "" ∧ r = .responseGet id := by
      rintro ⟨id, -, rfl⟩
      exact hmethod rfl
    simp [hmethod, hother]

/-- **Every request has an address of its own**, whatever the ids in it are. -/
theorem resource_requests_have_own_addresses (parseForm : String → List (String × String))
    (r r' : ResourceRequest) (query : Option String) :
    readPath r.resourcePath = r.segments.map bytesOf ∧
      (∀ c ∈ r.resourcePath.toList, c ≠ '?' ∧ c ≠ '#') ∧
      (r.method = r'.method ∧ r.resourcePath = r'.resourcePath → r = r') ∧
      (isStreamedResponsesRetrieve parseForm r.method r.resourcePath query = true ↔
        (∃ id, id ≠ "" ∧ r = .responseGet id) ∧ ∃ text, query = some text ∧
          ∃ pair ∈ parseForm text, Text.eqIgnoreAsciiCase pair.1 "stream" = true ∧
            Text.eqIgnoreAsciiCase pair.2 "true" = true) := by
  refine ⟨r.readPath_resourcePath, ?_, ?_, isStreamedRetrieve_iff parseForm r query⟩
  · intro c hc
    constructor
    · rintro rfl
      exact r.notMem_resourcePath (.inl rfl) hc
    · rintro rfl
      exact r.notMem_resourcePath (.inr rfl) hc
  · rintro ⟨hmethod, hpath⟩
    have hread := r.readPath_resourcePath
    rw [hpath, r'.readPath_resourcePath] at hread
    have hsegments : r'.segments = r.segments :=
      (List.map_inj_right fun _ _ => bytesOf_injective).mp hread
    exact ResourceRequest.eq_of_segments hmethod hsegments.symm

/-! ## Segments that would be dropped -/

theorem eq_dot_of_lowerByte : ∀ b : UInt8, Percent.lowerByte b = 46 → b = 46 :=
  Percent.forall_byte (by decide +kernel)

theorem eq_dots_of_lowerByte {bytes : List UInt8} {n : Nat}
    (h : List.replicate n 46 = bytes.map Percent.lowerByte) : bytes = List.replicate n 46 := by
  obtain ⟨hlength, hall⟩ := List.eq_replicate_iff.mp h.symm
  rw [List.length_map] at hlength
  refine List.eq_replicate_iff.mpr ⟨hlength, ?_⟩
  intro b hb
  exact eq_dot_of_lowerByte b (hall _ (List.mem_map_of_mem hb))

/-- The texts that the URL libraries take for a dot or two have no other bytes in them. -/
theorem decode_dotSegment {text : String}
    (h : text ∈ [".", "..", "%2e", "%2e%2e", "%2e.", ".%2e"]) :
    Percent.decode text.toList = [46] ∨ Percent.decode text.toList = [46, 46] := by
  revert text
  decide +kernel

/-- A segment is in danger when it is a dot or two, and only then: a percent sign of the client's
own is encoded like other characters. -/
theorem urlStackNormalizesDotSegment_encode (segment : String) :
    urlStackNormalizesDotSegment (encodeResourcePathSegment segment) = true ↔
      segment = "." ∨ segment = ".." := by
  constructor
  · intro h
    have hlower := of_decide_eq_true h
    have hbytes : (Percent.decode (Text.asciiLower (encodeResourcePathSegment segment)).toList).map
        Percent.lowerByte = (bytesOf segment).map Percent.lowerByte := by
      rw [← decode_encodeResourcePathSegment, Text.asciiLower, String.toList_ofList]
      exact Percent.decodeFrom_asciiLower 0 _
    rcases decode_dotSegment hlower with hdot | hdots
    · left
      rw [hdot] at hbytes
      exact bytesOf_injective (eq_dots_of_lowerByte (n := 1) hbytes)
    · right
      rw [hdots] at hbytes
      exact bytesOf_injective (eq_dots_of_lowerByte (n := 2) hbytes)
  · rintro (rfl | rfl) <;> decide +kernel

/-- **A path needs to go out as it is when an id in it is a dot or two.** -/
theorem requiresRawPathFidelity_iff (r : ResourceRequest) :
    resourcePathRequiresRawPathFidelity r.resourcePath = true ↔
      "." ∈ r.segments ∨ ".." ∈ r.segments := by
  rw [resourcePathRequiresRawPathFidelity,
    Text.any_splitChar_trimMatches (by decide +kernel), r.splitChar_resourcePath]
  simp only [List.any_map, List.any_eq_true, Function.comp_apply,
    urlStackNormalizesDotSegment_encode]
  constructor
  · rintro ⟨segment, hsegment, rfl | rfl⟩
    · exact .inl hsegment
    · exact .inr hsegment
  · rintro (hdot | hdots)
    · exact ⟨".", hdot, .inl rfl⟩
    · exact ⟨"..", hdots, .inr rfl⟩

/-! ## Who sends it -/

/-- `config::ProxyConfig`. -/
inductive ProxyConfig where
  | direct
  | proxy (url : String)
  deriving DecidableEq, Repr

inductive ResolvedProxySource where
  | upstream
  | namespace
  | environment
  | none
  deriving DecidableEq, Repr

inductive ResolvedProxyTarget where
  | inherited
  | direct
  | proxy (url : String)
  deriving DecidableEq, Repr

structure ResolvedProxyMetadata where
  source : ResolvedProxySource
  target : ResolvedProxyTarget
  deriving DecidableEq, Repr

/-- `resolved_proxy_target`. -/
def resolvedProxyTarget : ProxyConfig → ResolvedProxyTarget
  | .direct => .direct
  | .proxy url => .proxy url

/-- `has_environment_proxy_configuration`. -/
def hasEnvironmentProxyConfiguration (env : EnvVars) : Bool :=
  ["ALL_PROXY", "all_proxy", "HTTPS_PROXY", "https_proxy", "HTTP_PROXY", "http_proxy"].any
    fun key => ((env key).toOption.map fun value => !Text.isBlank value).getD false

/-- `resolve_upstream_proxy` (`upstream.rs` 41-67). -/
def resolveUpstreamProxy (env : EnvVars) (upstreamProxy namespaceProxy : Option ProxyConfig) :
    ResolvedProxyMetadata :=
  match upstreamProxy, namespaceProxy with
  | some proxy, _ => ⟨.upstream, resolvedProxyTarget proxy⟩
  | none, some proxy => ⟨.namespace, resolvedProxyTarget proxy⟩
  | none, none =>
      if hasEnvironmentProxyConfiguration env then ⟨.environment, .inherited⟩
      else ⟨.none, .inherited⟩

/-- `raw_path_fidelity_sender_can_use_direct_connection`. -/
def rawPathFidelitySenderCanUseDirectConnection (resolvedProxy : ResolvedProxyMetadata) : Bool :=
  match resolvedProxy.source, resolvedProxy.target with
  | .none, .inherited => true
  | _, .direct => true
  | _, _ => false

/-- The two clients of `send_upstream_resource_request_preserving_path`: one sends a path as it is,
on a connection of its own, and one by the URL library, which drops segments. -/
inductive ResourceSender where
  | rawPath
  | urlNormalizing
  deriving DecidableEq, Repr

/-- The choice that `send_upstream_resource_request_preserving_path` makes. -/
def resourceSender (resourcePath : String) (resolvedProxy : ResolvedProxyMetadata) :
    Except String ResourceSender :=
  if resourcePathRequiresRawPathFidelity resourcePath then
    if !rawPathFidelitySenderCanUseDirectConnection resolvedProxy then
      .error ("Responses resource path contains a dot segment that requires raw request-target " ++
        "fidelity, but the configured upstream proxy would route this request through the " ++
        "URL-normalizing client")
    else .ok .rawPath
  else .ok .urlNormalizing

/-- Nothing stands between the proxy and the upstream: the upstream is said to be reached directly,
or else its namespace is, or else neither says anything and the environment has no proxy. -/
def ReachedDirectly (env : EnvVars) (upstreamProxy namespaceProxy : Option ProxyConfig) : Prop :=
  upstreamProxy = some .direct ∨ upstreamProxy = none ∧ (namespaceProxy = some .direct ∨
    namespaceProxy = none ∧ hasEnvironmentProxyConfiguration env = false)

theorem canUseDirectConnection_iff (env : EnvVars)
    (upstreamProxy namespaceProxy : Option ProxyConfig) :
    rawPathFidelitySenderCanUseDirectConnection
        (resolveUpstreamProxy env upstreamProxy namespaceProxy) = true ↔
      ReachedDirectly env upstreamProxy namespaceProxy := by
  unfold ReachedDirectly
  rcases upstreamProxy with _ | _ | url
  · rcases namespaceProxy with _ | _ | url
    · cases henv : hasEnvironmentProxyConfiguration env <;>
        simp [resolveUpstreamProxy, henv, rawPathFidelitySenderCanUseDirectConnection]
    · simp [resolveUpstreamProxy, resolvedProxyTarget, rawPathFidelitySenderCanUseDirectConnection]
    · simp [resolveUpstreamProxy, resolvedProxyTarget, rawPathFidelitySenderCanUseDirectConnection]
  · simp [resolveUpstreamProxy, resolvedProxyTarget, rawPathFidelitySenderCanUseDirectConnection]
  · simp [resolveUpstreamProxy, resolvedProxyTarget, rawPathFidelitySenderCanUseDirectConnection]

/-- **An id of dots never reaches a client that would drop it.** The request goes out on a direct
connection, or not at all; every other request takes the ordinary way. -/
theorem dot_segments_go_out_raw (env : EnvVars) (upstreamProxy namespaceProxy : Option ProxyConfig)
    (r : ResourceRequest) :
    let sender := resourceSender r.resourcePath
      (resolveUpstreamProxy env upstreamProxy namespaceProxy)
    (sender = .ok .urlNormalizing ↔ "." ∉ r.segments ∧ ".." ∉ r.segments) ∧
      (sender = .ok .rawPath ↔ ("." ∈ r.segments ∨ ".." ∈ r.segments) ∧
        ReachedDirectly env upstreamProxy namespaceProxy) := by
  intro sender
  have hraw := requiresRawPathFidelity_iff r
  have hdirect := canUseDirectConnection_iff env upstreamProxy namespaceProxy
  have hplain : ¬ ("." ∈ r.segments ∨ ".." ∈ r.segments) ↔
      "." ∉ r.segments ∧ ".." ∉ r.segments := not_or
  rw [← hplain, ← hraw, ← hdirect]
  show (resourceSender _ _ = _ ↔ _) ∧ (resourceSender _ _ = _ ↔ _)
  unfold resourceSender
  cases resourcePathRequiresRawPathFidelity r.resourcePath with
  | false => simp
  | true =>
    cases rawPathFidelitySenderCanUseDirectConnection
      (resolveUpstreamProxy env upstreamProxy namespaceProxy) <;> simp

end LlmUniversalProxy.Server
