import LlmUniversalProxy.Server.ConversationStateBridge
import LlmUniversalProxy.Server.RequestProcessing
import LlmUniversalProxy.Server.State

/-!
# `Server.ResponsesOwner` — which upstream keeps a client's responses

A Responses client may refer to state that an upstream keeps, in a request that names no model, or
by asking for the state itself. The proxy keeps no record of whose state it is: it goes by the
configuration. A namespace has an owner only where the configuration leaves no doubt, so the same
upstream is found in every round of discovery, and along either way.

The source is `server/responses_resources.rs` 1398-1765 and 1993-2085.
-/

set_option autoImplicit false

namespace LlmUniversalProxy.Server

open Json Lib

/-- `pinned_native_responses_upstreams`. -/
def pinnedNativeResponsesUpstreams (namespaceState : RuntimeNamespaceState) : List UpstreamState :=
  (namespaceState.upstreams.entries.map Prod.snd).filter fun upstream =>
    upstream.config.fixedUpstreamFormat = some .openAiResponses

/-- `provenance_free_native_responses_upstreams`. -/
def provenanceFreeNativeResponsesUpstreams (namespaceState : RuntimeNamespaceState) :
    List UpstreamState :=
  if namespaceState.config.upstreams.length = 1 then
    (namespaceState.upstreams.entries.map Prod.snd).filter fun upstream =>
      upstream.capability.any fun capability => capability.supported.contains .openAiResponses
  else pinnedNativeResponsesUpstreams namespaceState

/-- `responses_owner_provenance_is_ambiguous`. -/
def responsesOwnerProvenanceIsAmbiguous (namespaceState : RuntimeNamespaceState) : Bool :=
  namespaceState.config.upstreams.length > 1 &&
    namespaceState.config.upstreams.any fun upstream => upstream.fixedUpstreamFormat.isNone

/-- `quoted_field_list`. -/
def quotedFieldList (fields : List String) : String :=
  ", ".intercalate (fields.map fun field => "`" ++ field ++ "`")

/-- `resolve_native_responses_stateful_route_or_error` (`server/responses_resources.rs` 1993-2028).
-/
def resolveNativeResponsesStatefulRouteOrError (namespaceState : RuntimeNamespaceState)
    (requestedModel : String) (clientFormat : UpstreamFormat) (body : Value) :
    Except String (Option ResolvedModel) :=
  let statefulControls := responsesStatefulRequestControls body
  let quotedControls := quotedFieldList statefulControls
  -- `none` leaves the request to the routing by its model
  if clientFormat ≠ .openAiResponses || !Text.isBlank requestedModel then .ok none
  else if statefulControls.isEmpty then .ok none
  -- discovery may find other upstreams the next time, and the state would be at another one
  else if responsesOwnerProvenanceIsAmbiguous namespaceState then
    .error (s!"Responses requests with stateful controls {quotedControls} must include a " ++
      "routable `model` in namespaces that use auto-discovery; set `fixed_upstream_format` on " ++
      "the owning upstream because provenance-free routing cannot rely on discovery-time " ++
      "capabilities")
  else
    match provenanceFreeNativeResponsesUpstreams namespaceState with
    | [upstream] => .ok (some ⟨upstream.config.name, ""⟩)
    | [] => .error (s!"Responses requests with stateful controls {quotedControls} require " ++
        "exactly one configured native OpenAI Responses upstream when `model` is omitted; the " ++
        "proxy does not reconstruct provider state")
    | _ => .error (s!"Responses requests with stateful controls {quotedControls} must include a " ++
        "routable `model` when this namespace has multiple configured native OpenAI Responses " ++
        "upstreams; the proxy does not reconstruct response-to-upstream state")

/-- The upstream that `handle_openai_responses_resource_with_downstream_cancellation` asks, or the
status it answers with instead. -/
def resourceUpstream (namespaceState : RuntimeNamespaceState) : Except Nat UpstreamState :=
  if responsesOwnerProvenanceIsAmbiguous namespaceState then .error 400
  else
    match provenanceFreeNativeResponsesUpstreams namespaceState with
    | [upstream] =>
        if upstream.availability = .available then .ok upstream else .error 503
    | [] => .error 503
    | _ => .error 400

/-- The upstream takes requests of the format as they are (`should_passthrough`). -/
def UpstreamState.Speaks (self : UpstreamState) (format : UpstreamFormat) : Prop :=
  ∃ capability, self.capability = some capability ∧ format ∈ capability.supported

/-! ## What a round of discovery leaves as it was -/

section Rounds

variable {host : Host} {discovery : Discovery} {config : Config} {access : DataAccess}

theorem resolveUpstream_fixed {upstream : UpstreamConfig} {state : UpstreamState}
    (h : resolveUpstream host discovery config access upstream = .ok state)
    {format : UpstreamFormat} (hfixed : upstream.fixedUpstreamFormat = some format) :
    state.Speaks format := by
  simp only [resolveUpstream, bind, Except.bind, hfixed] at h
  cases hclients : host.buildClients config upstream with
  | error error => simp [hclients] at h
  | ok _ =>
    cases hkey : access.providerKeyForUpstream host.env upstream with
    | error error => simp [hclients, hkey] at h
    | ok key =>
      simp only [hclients, hkey, pure, Except.pure, Except.ok.injEq] at h
      subst h
      exact ⟨⟨[format], format⟩, rfl, by simp⟩

/-- The configurations of the states, in the order of their names. -/
def configsOf (upstreams : SortedMap UpstreamState) : List (String × UpstreamConfig) :=
  upstreams.entries.map fun entry => (entry.1, entry.2.config)

theorem resolveUpstreamsFrom_configs {upstreams : List UpstreamConfig}
    {done result : SortedMap UpstreamState}
    (h : resolveUpstreamsFrom host discovery config access upstreams done = .ok result) :
    configsOf result = upstreams.foldl
      (fun m upstream => insertSorted upstream.name upstream m) (configsOf done) := by
  induction upstreams generalizing done with
  | nil =>
    simp only [resolveUpstreamsFrom, pure, Except.pure, Except.ok.injEq] at h
    rw [h]
    rfl
  | cons upstream upstreams ih =>
    simp only [resolveUpstreamsFrom, bind, Except.bind] at h
    cases hstate : resolveUpstream host discovery config access upstream with
    | error error => simp [hstate] at h
    | ok state =>
      rw [hstate] at h
      rw [ih h, List.foldl_cons]
      congr 1
      have hconfig := (resolveUpstream_ok hstate).1
      simp [configsOf, SortedMap.insert, map_insertSorted, hconfig]

/-- A state of a namespace is what its upstream was resolved to. -/
theorem resolveUpstreamsFrom_states {upstreams : List UpstreamConfig}
    {done result : SortedMap UpstreamState}
    (h : resolveUpstreamsFrom host discovery config access upstreams done = .ok result)
    (hdone : ∀ entry ∈ done.entries,
      resolveUpstream host discovery config access entry.2.config = .ok entry.2) :
    ∀ entry ∈ result.entries,
      resolveUpstream host discovery config access entry.2.config = .ok entry.2 := by
  induction upstreams generalizing done with
  | nil =>
    simp only [resolveUpstreamsFrom, pure, Except.pure, Except.ok.injEq] at h
    rwa [← h]
  | cons upstream upstreams ih =>
    simp only [resolveUpstreamsFrom, bind, Except.bind] at h
    cases hstate : resolveUpstream host discovery config access upstream with
    | error error => simp [hstate] at h
    | ok state =>
      rw [hstate] at h
      refine ih h ?_
      intro entry hentry
      rcases mem_insertSorted hentry with rfl | hold
      · simpa [(resolveUpstream_ok hstate).1] using hstate
      · exact hdone entry hold

end Rounds

/-- What a namespace that has been built is made of. -/
structure BuiltOf (config : Config) (namespaceState : RuntimeNamespaceState) : Prop where
  config_eq : namespaceState.config = config
  configs : configsOf namespaceState.upstreams =
    config.upstreams.foldl (fun m upstream => insertSorted upstream.name upstream m) []
  speaks : ∀ upstream ∈ namespaceState.upstreams.entries.map Prod.snd, ∀ format,
    upstream.config.fixedUpstreamFormat = some format → upstream.Speaks format

theorem BuiltOf.of_build {host : Host} {discovery : Discovery} {revision : String} {config : Config}
    {access : DataAccess} {namespaceState : RuntimeNamespaceState}
    (h : buildRuntimeNamespaceState host discovery revision config access = .ok namespaceState) :
    BuiltOf config namespaceState := by
  obtain ⟨-, hconfig, -⟩ := buildRuntimeNamespaceState_ok h
  have hupstreams : resolveUpstreams host discovery config access =
      .ok namespaceState.upstreams := by
    simp only [buildRuntimeNamespaceState, bind, Except.bind] at h
    cases hresolved : resolveUpstreams host discovery config access with
    | error error => rw [hresolved] at h; split at h <;> first | cases h | (split at h <;> cases h)
    | ok upstreams =>
      rw [hresolved] at h
      split at h
      · split at h <;> cases h
        rfl
      · cases h
        rfl
  refine ⟨hconfig, resolveUpstreamsFrom_configs hupstreams, ?_⟩
  intro upstream hupstream format hfixed
  obtain ⟨entry, hentry, rfl⟩ := List.mem_map.mp hupstream
  have hstate := resolveUpstreamsFrom_states hupstreams (by simp [EmptyCollection.emptyCollection])
    entry hentry
  exact resolveUpstream_fixed hstate hfixed

section Owner

variable {config : Config} {namespaceState other : RuntimeNamespaceState}

theorem BuiltOf.upstream_configs (h : BuiltOf config namespaceState) :
    namespaceState.upstreams.entries.map (fun entry => entry.2.config) =
      (config.upstreams.foldl (fun m upstream => insertSorted upstream.name upstream m) []).map
        Prod.snd := by
  rw [← h.configs, configsOf, List.map_map]
  rfl

/-- The upstreams that are fixed to Responses are the same in every round. -/
theorem pinned_configs (h : BuiltOf config namespaceState) (h' : BuiltOf config other) :
    (pinnedNativeResponsesUpstreams namespaceState).map UpstreamState.config =
      (pinnedNativeResponsesUpstreams other).map UpstreamState.config := by
  have hpinned : ∀ state : RuntimeNamespaceState,
      (pinnedNativeResponsesUpstreams state).map UpstreamState.config =
        (state.upstreams.entries.map fun entry => entry.2.config).filter fun upstream =>
          upstream.fixedUpstreamFormat = some .openAiResponses := by
    intro state
    rw [pinnedNativeResponsesUpstreams, List.filter_map, List.map_map, List.filter_map]
    rfl
  rw [hpinned, hpinned, h.upstream_configs, h'.upstream_configs]

/-- Who the owner is, if there is one: the one upstream that native requests may go to. -/
def IsOwner (namespaceState : RuntimeNamespaceState) (upstream : UpstreamState) : Prop :=
  responsesOwnerProvenanceIsAmbiguous namespaceState = false ∧
    provenanceFreeNativeResponsesUpstreams namespaceState = [upstream]

/-- **The owner is the same in every round.** -/
theorem isOwner_config (h : BuiltOf config namespaceState) (h' : BuiltOf config other)
    {upstream upstream' : UpstreamState} (howner : IsOwner namespaceState upstream)
    (howner' : IsOwner other upstream') : upstream.config = upstream'.config := by
  obtain ⟨-, hlist⟩ := howner
  obtain ⟨-, hlist'⟩ := howner'
  unfold provenanceFreeNativeResponsesUpstreams at hlist hlist'
  rw [h.config_eq] at hlist
  rw [h'.config_eq] at hlist'
  by_cases hone : config.upstreams.length = 1
  · -- a namespace with one upstream has no other
    rw [if_pos hone] at hlist hlist'
    obtain ⟨only, honly⟩ := List.length_eq_one_iff.mp hone
    have hconfig : ∀ {state : RuntimeNamespaceState} {found : UpstreamState}, BuiltOf config state →
        found ∈ state.upstreams.entries.map Prod.snd → found.config = only := by
      intro state found hbuilt hfound
      have hall := hbuilt.upstream_configs
      rw [honly] at hall
      obtain ⟨entry, hentry, rfl⟩ := List.mem_map.mp hfound
      have hmem := List.mem_map_of_mem (f := fun entry => entry.2.config) hentry
      rw [hall] at hmem
      simpa [insertSorted] using hmem
    rw [hconfig h (List.mem_of_mem_filter (hlist ▸ List.mem_singleton_self upstream)),
      hconfig h' (List.mem_of_mem_filter (hlist' ▸ List.mem_singleton_self upstream'))]
  · rw [if_neg hone] at hlist hlist'
    have hsame := pinned_configs h h'
    rw [hlist, hlist'] at hsame
    simpa using hsame

/-- The owner takes native requests. -/
theorem IsOwner.speaks (h : BuiltOf config namespaceState) {upstream : UpstreamState}
    (howner : IsOwner namespaceState upstream) : upstream.Speaks .openAiResponses := by
  obtain ⟨-, hlist⟩ := howner
  have hmem : upstream ∈ provenanceFreeNativeResponsesUpstreams namespaceState :=
    hlist ▸ List.mem_singleton_self upstream
  unfold provenanceFreeNativeResponsesUpstreams at hmem
  split at hmem
  · have hfound := (List.mem_filter.mp hmem).2
    cases hcapability : upstream.capability with
    | none => simp [hcapability] at hfound
    | some capability =>
      refine ⟨capability, hcapability, ?_⟩
      simpa [hcapability] using hfound
  · obtain ⟨hupstream, hfixed⟩ := List.mem_filter.mp hmem
    exact h.speaks upstream hupstream _ (of_decide_eq_true hfixed)

theorem isOwner_of_route {body : Value} {model : String} {format : UpstreamFormat}
    {resolved : ResolvedModel}
    (h : resolveNativeResponsesStatefulRouteOrError namespaceState model format body =
      .ok (some resolved)) :
    ∃ upstream, IsOwner namespaceState upstream ∧ resolved = ⟨upstream.config.name, ""⟩ := by
  simp only [resolveNativeResponsesStatefulRouteOrError] at h
  split at h
  · cases h
  split at h
  · cases h
  split at h
  · cases h
  next hclear =>
  split at h
  · next upstream hlist =>
    cases h
    exact ⟨upstream, ⟨by simpa using hclear, hlist⟩, rfl⟩
  · cases h
  · cases h

theorem isOwner_of_resource {upstream : UpstreamState}
    (h : resourceUpstream namespaceState = .ok upstream) : IsOwner namespaceState upstream := by
  unfold resourceUpstream at h
  split at h
  · cases h
  next hclear =>
  split at h
  · next owner hlist =>
    split at h
    · cases h
      exact ⟨by simpa using hclear, hlist⟩
    · cases h
  · cases h
  · cases h

/-- Where there are several upstreams, the way of a request is settled by the configuration. -/
theorem route_eq (h : BuiltOf config namespaceState) (h' : BuiltOf config other)
    (hmany : config.upstreams.length ≠ 1) (model : String) (format : UpstreamFormat)
    (body : Value) :
    resolveNativeResponsesStatefulRouteOrError namespaceState model format body =
      resolveNativeResponsesStatefulRouteOrError other model format body := by
  have hambiguous : responsesOwnerProvenanceIsAmbiguous namespaceState =
      responsesOwnerProvenanceIsAmbiguous other := by
    rw [responsesOwnerProvenanceIsAmbiguous, responsesOwnerProvenanceIsAmbiguous, h.config_eq,
      h'.config_eq]
  have hsame := pinned_configs h h'
  simp only [resolveNativeResponsesStatefulRouteOrError, provenanceFreeNativeResponsesUpstreams,
    hambiguous, h.config_eq, h'.config_eq, if_neg hmany]
  generalize pinnedNativeResponsesUpstreams namespaceState = mine at hsame ⊢
  generalize pinnedNativeResponsesUpstreams other = yours at hsame ⊢
  rcases mine with _ | ⟨a, _ | ⟨b, mine⟩⟩ <;> rcases yours with _ | ⟨a', _ | ⟨b', yours⟩⟩ <;>
    simp_all

end Owner

/-- **State kept by an upstream has one owner.** Whatever discovery finds in two rounds over one
configuration, a request with stateful controls that names no model and a request for a resource go
to one upstream, which speaks Responses; two such requests, whatever controls they have, go to one
upstream; and with several upstreams configured a request goes the same way, or is refused in the
same words, in both rounds. With one upstream that is probed the last does not hold: a round may
find that it does not speak Responses. (A continuation of a response that the proxy keeps itself
does not come this way, see `ConversationStateBridge`.) -/
theorem stateful_requests_share_an_owner {host host' : Host} {discovery discovery' : Discovery}
    {revision revision' : String} {config : Config} {access access' : DataAccess}
    {first later : RuntimeNamespaceState}
    (hfirst : buildRuntimeNamespaceState host discovery revision config access = .ok first)
    (hlater : buildRuntimeNamespaceState host' discovery' revision' config access' = .ok later)
    (model model' : String) (format format' : UpstreamFormat) (body body' : Value) :
    (∀ resolved upstream,
      resolveNativeResponsesStatefulRouteOrError first model format body = .ok (some resolved) →
      resourceUpstream later = .ok upstream →
        upstream.config.name = resolved.upstreamName ∧ upstream.Speaks .openAiResponses) ∧
    (∀ resolved resolved',
      resolveNativeResponsesStatefulRouteOrError first model format body = .ok (some resolved) →
      resolveNativeResponsesStatefulRouteOrError later model' format' body' =
        .ok (some resolved') →
        resolved = resolved') ∧
    (config.upstreams.length ≠ 1 →
      resolveNativeResponsesStatefulRouteOrError first model format body =
        resolveNativeResponsesStatefulRouteOrError later model format body) := by
  have hfirst' := BuiltOf.of_build hfirst
  have hlater' := BuiltOf.of_build hlater
  refine ⟨?_, ?_, fun hmany => route_eq hfirst' hlater' hmany model format body⟩
  · intro resolved upstream hroute hresource
    obtain ⟨owner, howner, rfl⟩ := isOwner_of_route hroute
    have hupstream := isOwner_of_resource hresource
    rw [← isOwner_config hfirst' hlater' howner hupstream]
    exact ⟨rfl, hupstream.speaks hlater'⟩
  · intro resolved resolved' hroute hroute'
    obtain ⟨owner, howner, rfl⟩ := isOwner_of_route hroute
    obtain ⟨owner', howner', rfl⟩ := isOwner_of_route hroute'
    rw [isOwner_config hfirst' hlater' howner howner']

/-- A namespace with one upstream, whose formats are found by asking it. -/
def probedUpstream : UpstreamConfig :=
  ⟨"replies", "https://replies.example/v1", none, none, [], .null⟩

/-- The upstream after a round that found these formats. -/
def probedState (supported : List UpstreamFormat) : UpstreamState :=
  ⟨probedUpstream, none, UpstreamCapability.fromSupported supported, .available⟩

def probedNamespace (supported : List UpstreamFormat) : RuntimeNamespaceState where
  revision := "1"
  config := ⟨[probedUpstream], .null⟩
  upstreams := (∅ : SortedMap UpstreamState).insert "replies" (probedState supported)

/-- The second round finds that the upstream has learnt another format. -/
theorem stateful_requests_share_an_owner_replies :
    let first := probedNamespace [.openAiResponses]
    let later := probedNamespace [.openAiChatCompletions, .openAiResponses]
    let owner := probedState [.openAiChatCompletions, .openAiResponses]
    (owner.config.name = "replies" ∧ owner.Speaks .openAiResponses) ∧
      resolveNativeResponsesStatefulRouteOrError first "" .openAiResponses
          (.object [("previous_response_id", .string "resp_1")]) =
        resolveNativeResponsesStatefulRouteOrError later " " .openAiResponses
          (.object [("conversation", .string "conv_1"), ("store", .bool true)]) := by
  intro first later owner
  have hfirst : buildRuntimeNamespaceState
      ⟨fun _ => .error .notPresent, fun _ => .ok (), fun _ _ => .ok ()⟩
      (fun _ _ => [.openAiResponses]) "1" ⟨[probedUpstream], .null⟩ .clientProviderKey =
        .ok first := rfl
  have hlater : buildRuntimeNamespaceState
      ⟨fun _ => .error .notPresent, fun _ => .ok (), fun _ _ => .ok ()⟩
      (fun _ _ => [.openAiChatCompletions, .openAiResponses]) "1" ⟨[probedUpstream], .null⟩
      .clientProviderKey = .ok later := rfl
  have hshare := stateful_requests_share_an_owner hfirst hlater "" " " .openAiResponses
    .openAiResponses (.object [("previous_response_id", .string "resp_1")])
    (.object [("conversation", .string "conv_1"), ("store", .bool true)])
  exact ⟨hshare.1 ⟨"replies", ""⟩ owner rfl rfl,
    congrArg (Except.ok ∘ some) (hshare.2.1 ⟨"replies", ""⟩ ⟨"replies", ""⟩ rfl rfl)⟩

end LlmUniversalProxy.Server
