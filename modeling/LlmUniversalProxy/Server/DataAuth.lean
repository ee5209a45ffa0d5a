import LlmUniversalProxy.Server.Config

/-!
# `Server.DataAuth` — who may use the data plane, and with which provider key

A `DataAccess` is the policy in force. It decides two things: how a request is authorised
(`authorizeDataRequest`), and which provider key the proxy itself holds for an upstream
(`providerKeyForUpstream`). The second is resolved when a namespace is built and then sits in the
namespace's state, so a change of policy has to rebuild every namespace; `Server.Admin` is about
that.

The process environment is a parameter, read through `EnvVars`. So are the fresh UUIDs.

The source is `server/data_auth.rs` 30-96, 237-433, 505-584 and 629-725.
-/

set_option autoImplicit false

namespace LlmUniversalProxy.Server

open Json Lib

/-- `std::env::VarError`. -/
inductive VarError where
  | notPresent
  | notUnicode
  deriving DecidableEq, Repr

/-- `std::env::var`. -/
abbrev EnvVars := String → Except VarError String

/-- `data_auth::DataAccess`. -/
inductive DataAccess where
  | unconfigured
  | clientProviderKey
  | proxyKey (key : String)
  | misconfigured (message : String)
  deriving DecidableEq, Repr

/-- `data_auth::AdminDataAuthConfigView`. -/
structure AdminDataAuthConfigView where
  configured : Bool
  mode : DataAuthMode
  proxyKey : Option AdminCredentialSourceView
  deriving DecidableEq, Repr

/-- `data_auth::RuntimeDataAuthState`. -/
structure RuntimeDataAuthState where
  revision : String
  access : DataAccess
  config : AdminDataAuthConfigView
  deriving DecidableEq, Repr

/-- `data_auth::RequestAuthorization`. -/
inductive RequestAuthorization where
  | clientProviderKey (providerKey : String)
  | proxyKey
  deriving DecidableEq, Repr

/-! ## Reading a policy from its configuration -/

/-- `resolve_secret_env` (`data_auth.rs` 422-433). -/
def resolveSecretEnv (env : EnvVars) (owner envName : String) : Except String String :=
  match env envName with
  | .ok value =>
      if Text.isBlank value then throw s!"{owner}.env `{envName}` must not be empty"
      else pure value
  | .error .notPresent => throw s!"{owner}.env `{envName}` is not set"
  | .error .notUnicode => throw s!"{owner}.env `{envName}` must be valid UTF-8"

/-- `resolve_proxy_key_source` (`data_auth.rs` 393-420). -/
def resolveProxyKeySource (env : EnvVars) (source : SecretSourceConfig) (owner : String) :
    Except String (String × AdminCredentialSourceView) := do
  match ← source.sourceRef owner with
  | .inline value => pure (value, ⟨"inline", true, true, none⟩)
  | .env envName =>
      let key ← resolveSecretEnv env owner envName
      pure (key, ⟨"env", true, true, some envName⟩)

/-- `data_access_from_config` (`data_auth.rs` 361-391). -/
def dataAccessFromConfig (env : EnvVars) (config : DataAuthConfig) (owner : String) :
    Except String (DataAccess × AdminDataAuthConfigView) := do
  config.validateAdminPayload
  match config.mode with
  | .clientProviderKey => pure (.clientProviderKey, ⟨true, .clientProviderKey, none⟩)
  | .proxyKey =>
      match config.proxyKey with
      | none => throw s!"{owner}.proxy_key is required when mode=proxy_key"
      | some proxyKey =>
          let (key, view) ← resolveProxyKeySource env proxyKey s!"{owner}.proxy_key"
          pure (.proxyKey key, ⟨true, .proxyKey, some view⟩)

/-- `RuntimeDataAuthState::from_admin_config`; `revision` is the fresh UUID. -/
def RuntimeDataAuthState.fromAdminConfig (env : EnvVars) (revision : String)
    (config : DataAuthConfig) : Except String RuntimeDataAuthState := do
  config.validateAdminPayload
  let (access, view) ← dataAccessFromConfig env config "data_auth config"
  pure ⟨revision, access, view⟩

/-! ## Provider keys -/

/-- `resolve_provider_key` (`data_auth.rs` 543-566). -/
def resolveProviderKey (env : EnvVars) (upstream : UpstreamConfig) : Except String String := do
  match ← upstream.providerKeySource with
  | some (.inline value) => pure value
  | some (.env name) =>
      match env name with
      | .ok value =>
          if Text.isBlank value then
            throw s!"upstream `{upstream.name}` provider_key.env `{name}` must not be empty"
          else pure value
      | .error .notPresent =>
          throw s!"upstream `{upstream.name}` provider_key.env `{name}` is not set"
      | .error .notUnicode =>
          throw s!"upstream `{upstream.name}` provider_key.env `{name}` must be valid UTF-8"
  | none =>
      throw (s!"upstream `{upstream.name}` provider_key is required when " ++
        "LLM_UNIVERSAL_PROXY_AUTH_MODE=proxy_key; configure provider_key: " ++
        "\x7b env: ENV \x7d or provider_key.inline")

/-- `DataAccess::provider_key_for_upstream` (`data_auth.rs` 314-324). -/
def DataAccess.providerKeyForUpstream (env : EnvVars) (self : DataAccess)
    (upstream : UpstreamConfig) : Except String (Option String) :=
  match self with
  | .unconfigured => throw "data auth is not configured"
  | .clientProviderKey => pure none
  | .proxyKey _ => (resolveProviderKey env upstream).map some
  | .misconfigured message => throw s!"data auth misconfigured: {message}"

/-- `validate_runtime_config` (`data_auth.rs` 505-541). -/
def validateRuntimeConfig (env : EnvVars) (config : Config) (access : DataAccess) :
    Except String Unit :=
  match access with
  | .unconfigured =>
      if config.upstreams.isEmpty then pure () else throw "data auth is not configured"
  | .misconfigured message => throw s!"data auth misconfigured: {message}"
  | .clientProviderKey =>
      config.upstreams.forM fun upstream => do
        match ← upstream.providerKeySource with
        | some (.inline _) =>
            throw (s!"upstream `{upstream.name}` provider_key.inline is not allowed when " ++
              "LLM_UNIVERSAL_PROXY_AUTH_MODE=client_provider_key")
        | _ => pure ()
  | .proxyKey _ => config.upstreams.forM fun upstream => do
      let _ ← resolveProviderKey env upstream

/-! ## Authorising a request

A header map is the list of its headers with lower-case names; a value that is not visible ASCII
has no text (`HeaderValue::to_str`). -/

abbrev HeaderMap := List (String × Option String)

/-- `data_auth::CredentialError`. -/
inductive CredentialError where
  | empty
  | multiple
  | nonBearerAuthorization
  | invalidHeaderValue
  deriving DecidableEq, Repr

/-- `CredentialError::message`. -/
def CredentialError.message : CredentialError → String
  | .empty => "credential must not be empty"
  | .multiple => "multiple credential headers are not supported"
  | .nonBearerAuthorization => "authorization credential must use Bearer"
  | .invalidHeaderValue => "credential header must be valid UTF-8"

def HeaderMap.getAll (headers : HeaderMap) (name : String) : List (Option String) :=
  (headers.filter fun header => header.1 = name).map Prod.snd

/-- One value of `authorization`: the token behind `Bearer `. -/
def authorizationCredential (value : Option String) : Except CredentialError String :=
  match value with
  | none => throw .invalidHeaderValue
  | some text =>
      if Text.eqIgnoreAsciiCase (String.ofList (text.toList.take 7)) "Bearer " then
        let token := String.ofList (text.toList.drop 7)
        if Text.isBlank token then throw .empty else pure token
      else throw .nonBearerAuthorization

def apiKeyCredential (value : Option String) : Except CredentialError String :=
  match value with
  | none => throw .invalidHeaderValue
  | some text => if Text.isBlank text then throw .empty else pure text

/-- `extract_standard_credential` (`data_auth.rs` 708-725). -/
def extractStandardCredential (headers : HeaderMap) : Except CredentialError (Option String) := do
  let bearer ← (headers.getAll "authorization").mapM authorizationCredential
  let apiKeys ← (["x-api-key", "x-goog-api-key", "api-key", "openai-api-key",
    "anthropic-api-key"].flatMap headers.getAll).mapM apiKeyCredential
  match bearer ++ apiKeys with
  | [] => pure none
  | [credential] => pure (some credential)
  | _ => throw .multiple

/-- `authorize_data_request` (`data_auth.rs` 629-673): an error is the status code and the message.
-/
def authorizeDataRequest (access : DataAccess) (headers : HeaderMap) :
    Except (Nat × String) RequestAuthorization :=
  if headers.any fun header => header.1 = "x-llmup-data-token" then
    throw (400, "x-llmup-data-token is no longer supported")
  else
    -- before the mode: more than one credential is refused in every mode
    match extractStandardCredential headers with
    | .error error => throw (400, error.message)
    | .ok credential =>
        match access with
        | .unconfigured => throw (503, "data auth unconfigured")
        | .clientProviderKey =>
            match credential with
            | none => throw (401, "provider credential required")
            | some providerKey => pure (.clientProviderKey providerKey)
        | .proxyKey key =>
            match credential with
            | none => throw (401, "proxy key required")
            | some proxyKey =>
                if proxyKey = key then pure .proxyKey else throw (403, "proxy key invalid")
        -- the reason is not told to the client
        | .misconfigured _ => throw (503, "data auth misconfigured")

end LlmUniversalProxy.Server
