import LlmUniversalProxy.Formats
import LlmUniversalProxy.Json.Value
import LlmUniversalProxy.Lib.Text

/-!
# `Server.Config` — the configuration the admin handlers write

A namespace's configuration is kept to what the handlers decide on: the upstreams with their
names, formats and provider keys. The remaining settings (timeouts, proxies, hooks, limits, model
aliases) are validated and stored but steer nothing that is modelled here; they are carried along
as the JSON they were sent as.

The source is `config.rs`, from 194 on.
-/

set_option autoImplicit false

namespace LlmUniversalProxy.Server

open Json Lib

/-- `config::DataAuthMode`. -/
inductive DataAuthMode where
  | proxyKey
  | clientProviderKey
  deriving DecidableEq, Repr

/-- `config::SecretSourceConfig`: exactly one of the two should be there. -/
structure SecretSourceConfig where
  inline : Option String
  env : Option String
  deriving DecidableEq, Repr

/-- `config::SecretSourceRef`. -/
inductive SecretSourceRef where
  | inline (value : String)
  | env (name : String)
  deriving DecidableEq, Repr

/-- `config::AdminCredentialSourceView`. -/
structure AdminCredentialSourceView where
  source : String
  configured : Bool
  redacted : Bool
  envName : Option String
  deriving DecidableEq, Repr

/-- `config::DataAuthConfig`. -/
structure DataAuthConfig where
  mode : DataAuthMode
  proxyKey : Option SecretSourceConfig
  deriving DecidableEq, Repr

/-- `config::UpstreamConfig`. -/
structure UpstreamConfig where
  name : String
  apiRoot : String
  fixedUpstreamFormat : Option UpstreamFormat
  providerKey : Option SecretSourceConfig
  upstreamHeaders : List (String × String)
  settings : Value
  deriving DecidableEq, Repr

/-- `config::Config`. -/
structure Config where
  upstreams : List UpstreamConfig
  settings : Value
  deriving DecidableEq, Repr

/-- `config::ResolvedModel`. -/
structure ResolvedModel where
  upstreamName : String
  upstreamModel : String
  deriving DecidableEq, Repr

/-- `SecretSourceConfig::source` (`config.rs` 358-380). -/
def SecretSourceConfig.sourceRef (self : SecretSourceConfig) (owner : String) :
    Except String SecretSourceRef := do
  let inlineSources ← match self.inline with
    | some value =>
        if Text.isBlank value then throw s!"{owner}.inline must not be empty"
        else pure [SecretSourceRef.inline value]
    | none => pure []
  let envSources ← match self.env with
    | some value =>
        if Text.isBlank value then throw s!"{owner}.env must not be empty"
        else pure [SecretSourceRef.env value]
    | none => pure []
  match inlineSources ++ envSources with
  | [source] => pure source
  | [] => throw s!"{owner} must include exactly one of inline or env"
  | _ => throw s!"{owner}.inline and {owner}.env are mutually exclusive"

/-- `DataAuthConfig::validate` (`config.rs` 410-428). -/
def DataAuthConfig.validate (self : DataAuthConfig) (owner : String) : Except String Unit :=
  match self.mode with
  | .proxyKey =>
      match self.proxyKey with
      | none => throw s!"{owner}.proxy_key is required when mode=proxy_key"
      | some proxyKey => (proxyKey.sourceRef s!"{owner}.proxy_key").map fun _ => ()
  | .clientProviderKey =>
      if self.proxyKey.isSome then
        throw s!"{owner}.proxy_key must be omitted when mode=client_provider_key"
      else pure ()

/-- `DataAuthConfig::validate_admin_payload`. -/
def DataAuthConfig.validateAdminPayload (self : DataAuthConfig) : Except String Unit :=
  self.validate "data_auth config"

/-- `UpstreamConfig::provider_key_source`. There is one list of sources and one place that adds
to it, so its third case (both kinds at once) is taken care of inside `source`. -/
def UpstreamConfig.providerKeySource (self : UpstreamConfig) :
    Except String (Option SecretSourceRef) :=
  match self.providerKey with
  | some providerKey =>
      (providerKey.sourceRef s!"upstream `{self.name}` provider_key").map some
  | none => pure none

end LlmUniversalProxy.Server
