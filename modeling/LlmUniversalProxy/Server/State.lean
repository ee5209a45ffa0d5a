import LlmUniversalProxy.Server.DataAuth

/-!
# `Server.State` — the runtime state of the namespaces, and how one is built

`buildRuntimeNamespaceState` reads three things that are not this program's: the process
environment, the answers of the upstreams to the discovery probes, and whether an HTTP client can
be made for a proxy setting. They come in through `Host` and `Discovery`; so does
`Config::validate`, which reads only the configuration and can only refuse it.

The clients themselves, hooks and traces are left out: they are made from the configuration and
nothing here reads them.

The source is `server/state.rs` 53-243 and `discovery.rs` 9-183.
-/

set_option autoImplicit false

namespace LlmUniversalProxy.Server

open Json Lib

/-- What the process runs on. -/
structure Host where
  env : EnvVars
  /-- `Config::validate`. -/
  validate : Config → Except String Unit
  /-- Whether `build_upstream_clients` and its two siblings succeed for an upstream. -/
  buildClients : Config → UpstreamConfig → Except String Unit

/-- What `discover_supported_formats` finds for an upstream with a provider key, this time. -/
abbrev Discovery := UpstreamConfig → Option String → List UpstreamFormat

/-- `discovery::UpstreamCapability`. -/
structure UpstreamCapability where
  supported : List UpstreamFormat
  defaultTarget : UpstreamFormat
  deriving DecidableEq, Repr

/-- `discovery::UpstreamAvailability`. -/
inductive UpstreamAvailability where
  | available
  | unavailable (reason : String)
  deriving DecidableEq, Repr

/-- `discovery::DiscoveredUpstream`. -/
structure DiscoveredUpstream where
  capability : Option UpstreamCapability
  availability : UpstreamAvailability
  deriving DecidableEq, Repr

/-- `server::state::UpstreamState`. -/
structure UpstreamState where
  config : UpstreamConfig
  providerKey : Option String
  capability : Option UpstreamCapability
  availability : UpstreamAvailability
  deriving DecidableEq, Repr

/-- `server::state::RuntimeNamespaceState`. -/
structure RuntimeNamespaceState where
  revision : String
  config : Config
  upstreams : SortedMap UpstreamState

/-- `server::state::RuntimeState`. -/
structure RuntimeState where
  namespaces : SortedMap RuntimeNamespaceState

/-! ## Discovery -/

/-- `DEFAULT_TARGET_ORDER`. -/
def defaultTargetOrder : List UpstreamFormat :=
  [.openAiChatCompletions, .openAiResponses, .anthropic]

/-- `UpstreamCapability::from_supported`. -/
def UpstreamCapability.fromSupported (supported : List UpstreamFormat) :
    Option UpstreamCapability :=
  (defaultTargetOrder.find? fun format => supported.contains format).map
    fun target => ⟨supported, target⟩

/-- `DiscoveredUpstream::fixed`. -/
def DiscoveredUpstream.fixed (format : UpstreamFormat) : DiscoveredUpstream :=
  ⟨some ⟨[format], format⟩, .available⟩

/-- `DiscoveredUpstream::from_supported`. -/
def DiscoveredUpstream.fromSupported (supported : List UpstreamFormat) : DiscoveredUpstream :=
  match UpstreamCapability.fromSupported supported with
  | some capability => ⟨some capability, .available⟩
  | none => ⟨none, .unavailable "protocol discovery returned no supported formats"⟩

/-- `test_forced_upstream_unavailable`. -/
def testForcedUpstreamUnavailable (env : EnvVars) (name : String) : Bool :=
  match env "LLM_UNIVERSAL_PROXY_TEST_FORCE_UNAVAILABLE_UPSTREAMS" with
  | .ok value => ((value.splitOn ",").map Text.trim).any fun candidate =>
      !candidate.isEmpty && candidate == name
  | .error _ => false

/-! ## Building a namespace -/

/-- One round of `resolve_upstreams`: the state of one upstream. -/
def resolveUpstream (host : Host) (discovery : Discovery) (config : Config) (access : DataAccess)
    (upstream : UpstreamConfig) : Except String UpstreamState := do
  host.buildClients config upstream
  let providerKey ← access.providerKeyForUpstream host.env upstream
  let discovered := match upstream.fixedUpstreamFormat with
    | some format => DiscoveredUpstream.fixed format
    | none => DiscoveredUpstream.fromSupported (discovery upstream providerKey)
  let availability :=
    if testForcedUpstreamUnavailable host.env upstream.name then
      .unavailable "forced unavailable by test override"
    else discovered.availability
  pure ⟨upstream, providerKey, discovered.capability, availability⟩

/-- The loop of `resolve_upstreams`, from the states made so far. -/
def resolveUpstreamsFrom (host : Host) (discovery : Discovery) (config : Config)
    (access : DataAccess) :
    List UpstreamConfig → SortedMap UpstreamState → Except String (SortedMap UpstreamState)
  | [], upstreams => pure upstreams
  | upstream :: rest, upstreams => do
      let state ← resolveUpstream host discovery config access upstream
      resolveUpstreamsFrom host discovery config access rest (upstreams.insert upstream.name state)

/-- `resolve_upstreams`. -/
def resolveUpstreams (host : Host) (discovery : Discovery) (config : Config)
    (access : DataAccess) : Except String (SortedMap UpstreamState) :=
  resolveUpstreamsFrom host discovery config access config.upstreams ∅

/-- `build_runtime_namespace_state`. -/
def buildRuntimeNamespaceState (host : Host) (discovery : Discovery) (revision : String)
    (config : Config) (access : DataAccess) : Except String RuntimeNamespaceState := do
  if !config.upstreams.isEmpty then host.validate config
  let upstreams ← resolveUpstreams host discovery config access
  pure ⟨revision, config, upstreams⟩

/-- `build_runtime_state`: at start the configured upstreams are the namespace `default`. -/
def buildRuntimeState (host : Host) (discovery : Discovery) (revision : String) (config : Config)
    (access : DataAccess) : Except String RuntimeState :=
  if !config.upstreams.isEmpty then do
    let state ← buildRuntimeNamespaceState host discovery revision config access
    pure ⟨(∅ : SortedMap RuntimeNamespaceState).insert "default" state⟩
  else pure ⟨∅⟩

/-! ## What a built namespace is -/

/-- Every provider key of a namespace is the one `access` gives for that upstream. -/
def RuntimeNamespaceState.BuiltFrom (host : Host) (access : DataAccess)
    (namespaceState : RuntimeNamespaceState) : Prop :=
  ∀ name upstream, namespaceState.upstreams.lookup name = some upstream →
    access.providerKeyForUpstream host.env upstream.config = .ok upstream.providerKey

theorem resolveUpstream_ok {host : Host} {discovery : Discovery} {config : Config}
    {access : DataAccess} {upstream : UpstreamConfig} {state : UpstreamState}
    (h : resolveUpstream host discovery config access upstream = .ok state) :
    state.config = upstream ∧
      access.providerKeyForUpstream host.env upstream = .ok state.providerKey := by
  simp only [resolveUpstream, bind, Except.bind] at h
  cases hclients : host.buildClients config upstream with
  | error e => rw [hclients] at h; cases h
  | ok u =>
    rw [hclients] at h
    cases hkey : access.providerKeyForUpstream host.env upstream with
    | error e => rw [hkey] at h; cases h
    | ok key =>
      rw [hkey] at h
      cases h
      exact ⟨rfl, rfl⟩

theorem resolveUpstreamsFrom_keys {host : Host} {discovery : Discovery} {config : Config}
    {access : DataAccess} {upstreams : List UpstreamConfig} :
    ∀ {done result : SortedMap UpstreamState},
      resolveUpstreamsFrom host discovery config access upstreams done = .ok result →
      (∀ name state, done.lookup name = some state →
        access.providerKeyForUpstream host.env state.config = .ok state.providerKey) →
      ∀ name state, result.lookup name = some state →
        access.providerKeyForUpstream host.env state.config = .ok state.providerKey := by
  induction upstreams with
  | nil =>
    intro done result h hdone
    cases h
    exact hdone
  | cons upstream rest ih =>
    intro done result h hdone
    simp only [resolveUpstreamsFrom, bind, Except.bind] at h
    cases hstate : resolveUpstream host discovery config access upstream with
    | error e => rw [hstate] at h; cases h
    | ok state =>
      rw [hstate] at h
      obtain ⟨hconfig, hkey⟩ := resolveUpstream_ok hstate
      refine ih h fun name other hother => ?_
      rw [SortedMap.lookup_insert] at hother
      split at hother
      · obtain rfl := Option.some.inj hother
        rw [hconfig]
        exact hkey
      · exact hdone name other hother

/-- **A successful build has the revision and the configuration it was given, and its keys are
those of the access it was given.** -/
theorem buildRuntimeNamespaceState_ok {host : Host} {discovery : Discovery} {revision : String}
    {config : Config} {access : DataAccess} {state : RuntimeNamespaceState}
    (h : buildRuntimeNamespaceState host discovery revision config access = .ok state) :
    state.revision = revision ∧ state.config = config ∧ state.BuiltFrom host access := by
  have hresolved : ∃ upstreams, resolveUpstreams host discovery config access = .ok upstreams ∧
      state = ⟨revision, config, upstreams⟩ := by
    simp only [buildRuntimeNamespaceState, bind, Except.bind] at h
    cases hres : resolveUpstreams host discovery config access with
    | error e => rw [hres] at h; split at h <;> first | cases h | (split at h <;> cases h)
    | ok upstreams =>
      rw [hres] at h
      refine ⟨upstreams, rfl, ?_⟩
      split at h
      · split at h <;> cases h
        rfl
      · cases h
        rfl
  obtain ⟨upstreams, hres, rfl⟩ := hresolved
  exact ⟨rfl, rfl, resolveUpstreamsFrom_keys hres fun name s hs => by simp at hs⟩

end LlmUniversalProxy.Server
