import LlmUniversalProxy.Lib.Result
import LlmUniversalProxy.Lib.SortedMap
import LlmUniversalProxy.Server.Config
import LlmUniversalProxy.Server.ModelSurface

/-!
# `Server.ModelRouting` — which upstream a model name means

A client names a model; `resolveModel` finds the upstream for it and the name the model has there.
A name is read as `upstream:model` first, as an alias next, and is passed on as it is where there is
one upstream only. The models endpoint goes the other way about it: an alias is listed as an alias
whatever its name looks like.

`Config::validate` stands between a configuration and its use. What it asks of addresses is modelled
over the answers of the URL parser, which is a parameter, as is what it asks of the settings that
are carried along unread; they can only make it refuse more.

The source is `config.rs` 564-669, 877-1146 and 1299-1355, and `server/models.rs` 251-396.
-/

set_option autoImplicit false

namespace LlmUniversalProxy.Server

open Json Lib
open Lib.Result (refuseIf)

/-- `config::ModelAlias`; the surface is the JSON it serialises to. -/
structure ModelAlias where
  upstreamName : String
  upstreamModel : String
  limits : Option ModelLimits
  surface : Option Value
  deriving DecidableEq, Repr

/-- `config::Config`, with its aliases. -/
structure RoutedConfig extends Config where
  modelAliases : SortedMap ModelAlias

/-! ## Validation -/

/-- What is read of a `url::Url`. -/
structure Url where
  scheme : String
  hostStr : Option String
  username : String
  password : Option String
  deriving DecidableEq, Repr

/-- `url_has_userinfo`. -/
def Url.hasUserinfo (self : Url) : Bool := !self.username.isEmpty || self.password.isSome

/-- What `Config::validate` calls. -/
structure ConfigChecks where
  /-- `url::Url::parse`. -/
  parseUrl : String → Except String Url
  /-- Resource limits, the bridge's limits, static data auth and the proxy of the namespace. -/
  settings : Value → Except String Unit
  /-- Proxy, limits, surface defaults and dialect of an upstream. -/
  upstreamSettings : UpstreamConfig → Except String Unit
  hooks : Value → Except String Unit
  /-- `ModelSurfacePatch::validate`, with the owner it names. -/
  surface : String → Value → Except String Unit

/-- `is_forbidden_upstream_header_name`. -/
def isForbiddenUpstreamHeaderName (name : String) : Bool :=
  ["authorization", "proxy-authorization", "x-api-key", "x-goog-api-key", "api-key",
    "openai-api-key", "anthropic-api-key"].contains (Text.asciiLower name)

/-- The loop of `Config::validate` over the headers of an upstream. -/
def UpstreamConfig.validateHeaders (self : UpstreamConfig) : Except String Unit :=
  self.upstreamHeaders.forM fun header =>
    refuseIf (isForbiddenUpstreamHeaderName header.1)
      (s!"upstream `{self.name}` upstream_headers must not override forbidden " ++
        s!"auth/secret header `{header.1}`")

/-- One round of the loop of `Config::validate` over the upstreams; `seen` are the names so far. -/
def UpstreamConfig.validate (checks : ConfigChecks) (seen : List String) (self : UpstreamConfig) :
    Except String Unit := do
  refuseIf (Text.isBlank self.name) "upstream name must not be empty"
  refuseIf (Text.isBlank self.apiRoot) s!"upstream `{self.name}` api_root must not be empty"
  let parsed ← (checks.parseUrl self.apiRoot).mapError fun error =>
    s!"upstream `{self.name}` api_root must be a valid absolute URL: {error}"
  refuseIf (parsed.scheme ≠ "http" ∧ parsed.scheme ≠ "https")
    s!"upstream `{self.name}` api_root must use http or https, got `{parsed.scheme}`"
  refuseIf parsed.hostStr.isNone s!"upstream `{self.name}` api_root must include a host"
  refuseIf parsed.hasUserinfo s!"upstream `{self.name}` api_root must not include userinfo"
  let _ ← self.providerKeySource
  self.validateHeaders
  refuseIf (self.name ∈ seen) s!"duplicate upstream name `{self.name}`"
  checks.upstreamSettings self

def validateUpstreams (checks : ConfigChecks) :
    List String → List UpstreamConfig → Except String Unit
  | _, [] => pure ()
  | seen, upstream :: rest => do
      upstream.validate checks seen
      validateUpstreams checks (upstream.name :: seen) rest

/-- `ModelLimits::validate`. -/
def ModelLimits.validate (self : ModelLimits) (owner : String) : Except String Unit := do
  refuseIf (self.contextWindow = some 0) s!"{owner} limits.context_window must be greater than zero"
  refuseIf (self.maxOutputTokens = some 0)
    s!"{owner} limits.max_output_tokens must be greater than zero"

/-- `Config::upstream`. -/
def Config.upstream (self : Config) (name : String) : Option UpstreamConfig :=
  self.upstreams.find? fun upstream => upstream.name = name

/-- One round of the loop of `Config::validate` over the aliases. -/
def RoutedConfig.validateAlias (checks : ConfigChecks) (self : RoutedConfig)
    (aliasName : String) (target : ModelAlias) : Except String Unit := do
  refuseIf (Text.isBlank aliasName) "model alias name must not be empty"
  refuseIf (self.upstream target.upstreamName).isNone
    s!"model alias `{aliasName}` references unknown upstream `{target.upstreamName}`"
  refuseIf (Text.isBlank target.upstreamModel)
    s!"model alias `{aliasName}` must point to a non-empty upstream model"
  target.limits.forM fun limits => limits.validate s!"model alias `{aliasName}`"
  target.surface.forM fun surface => checks.surface s!"model alias `{aliasName}`" surface

/-- `Config::validate`. -/
def RoutedConfig.validate (checks : ConfigChecks) (self : RoutedConfig) : Except String Unit := do
  refuseIf self.upstreams.isEmpty "at least one upstream must be configured"
  checks.settings self.settings
  validateUpstreams checks [] self.upstreams
  checks.hooks self.settings
  self.modelAliases.entries.forM fun entry => self.validateAlias checks entry.1 entry.2

/-! ## Resolution -/

/-- The first case of `Config::resolve_model`: the name begins with the name of an upstream. -/
def RoutedConfig.explicitModel (self : RoutedConfig) (requestedModel : String) :
    Option (Except String ResolvedModel) := do
  let (upstreamName, upstreamModel) ← Text.splitOnce requestedModel ':'
  let _ ← self.upstream upstreamName
  some (if Text.isBlank upstreamModel then
      throw s!"model `{requestedModel}` must include a non-empty upstream model after `:`"
    else pure ⟨upstreamName, upstreamModel⟩)

/-- `Config::resolve_model` (`config.rs` 1323-1355). The explicit form comes first, so an alias with
the name of an upstream in front of a colon is never found. -/
def RoutedConfig.resolveModel (self : RoutedConfig) (requestedModel : String) :
    Except String ResolvedModel :=
  match self.explicitModel requestedModel with
  | some resolved => resolved
  | none =>
      match self.modelAliases.lookup requestedModel with
      | some target => pure ⟨target.upstreamName, target.upstreamModel⟩
      | none =>
          match self.upstreams with
          | [upstream] => pure ⟨upstream.name, requestedModel⟩
          | _ => throw (s!"model `{requestedModel}` is ambiguous; use `upstream:model` or " ++
              "configure model_aliases")

/-! ## A configuration file -/

/-- `config::StructuredModelAliasFile`. -/
structure StructuredModelAliasFile where
  target : String
  limits : Option ModelLimits
  surface : Option Value
  deriving DecidableEq, Repr

/-- `config::ModelAliasFile`. -/
inductive ModelAliasFile where
  | target (target : String)
  | structured (item : StructuredModelAliasFile)
  deriving DecidableEq, Repr

/-- `config::UpstreamConfigFile`. -/
structure UpstreamConfigFile where
  apiRoot : String
  fixedUpstreamFormat : Option UpstreamFormat
  providerKey : Option SecretSourceConfig
  upstreamHeaders : SortedMap String
  settings : Value

/-- `config::FileConfig`. -/
structure FileConfig where
  upstreams : SortedMap UpstreamConfigFile
  modelAliases : SortedMap ModelAliasFile
  settings : Value

/-- The target, the limits and the surface that an alias is written with. -/
def ModelAliasFile.parts : ModelAliasFile → String × Option ModelLimits × Option Value
  | .target text => (text, none, none)
  | .structured item => (item.target, item.limits, item.surface)

/-- The alias that `Config::from_yaml_str` makes of an entry, if any. -/
def ModelAliasFile.modelAlias (self : ModelAliasFile) : Option ModelAlias := do
  let (text, limits, surface) := self.parts
  let (upstreamName, upstreamModel) ← Text.splitOnce text ':'
  some ⟨upstreamName, upstreamModel, limits, surface⟩

def RoutedConfig.ofFile (parsed : FileConfig) : RoutedConfig where
  upstreams := parsed.upstreams.entries.map fun entry =>
    ⟨entry.1, entry.2.apiRoot, entry.2.fixedUpstreamFormat, entry.2.providerKey,
      entry.2.upstreamHeaders.entries, entry.2.settings⟩
  settings := parsed.settings
  modelAliases := parsed.modelAliases.filterMap ModelAliasFile.modelAlias

/-- `Config::from_yaml_str`; `parse` is `serde_yaml::from_str`, with the message for its errors. -/
def RoutedConfig.fromYamlStr (parse : String → Except String FileConfig) (raw : String) :
    Except String RoutedConfig :=
  (parse raw).map ofFile

/-! ## The models endpoint -/

/-- What the models endpoint reads of the settings that are carried along. -/
structure ModelSurfaces where
  /-- The `limits` of an upstream. -/
  upstreamLimits : UpstreamConfig → Option ModelLimits
  /-- `Config::effective_model_surface`, serialised. -/
  effectiveModelSurface : RoutedConfig → ModelAlias → Value

/-- `ModelLimits::merged_with`. -/
def ModelLimits.mergedWith (self : ModelLimits) (overrides : Option ModelLimits) :
    Option ModelLimits :=
  let merged : ModelLimits :=
    ⟨(overrides.bind (·.contextWindow)).or self.contextWindow,
      (overrides.bind (·.maxOutputTokens)).or self.maxOutputTokens⟩
  if merged.contextWindow.isNone && merged.maxOutputTokens.isNone then none else some merged

/-- `ModelLimits`, serialised. -/
def ModelLimits.toJson (self : ModelLimits) : Value :=
  .ofFields ((self.contextWindow.map fun n => ("context_window", Value.nat n)).toList ++
    (self.maxOutputTokens.map fun n => ("max_output_tokens", Value.nat n)).toList)

/-- `Config::effective_model_limits`. -/
def RoutedConfig.effectiveModelLimits (surfaces : ModelSurfaces) (self : RoutedConfig)
    (target : ModelAlias) : Option ModelLimits :=
  match (self.upstream target.upstreamName).bind surfaces.upstreamLimits with
  | some base => base.mergedWith target.limits
  | none => target.limits

/-- `synthetic_model_alias` (`server/models.rs` 251-266). -/
def syntheticModelAlias (config : RoutedConfig) (id : String) : Option (String × ModelAlias) :=
  match config.modelAliases.lookup id with
  | some target => some (id, target)
  | none =>
      match config.resolveModel id with
      | .ok resolved => some (id, ⟨resolved.upstreamName, resolved.upstreamModel, none, none⟩)
      | .error _ => none

/-- `public_model_metadata` (`server/models.rs` 282-299). -/
def publicModelMetadata (surfaces : ModelSurfaces) (config : RoutedConfig) (target : ModelAlias) :
    Option ModelLimits × Value :=
  let limits := config.effectiveModelLimits surfaces target
  (limits, .ofFields [("upstream_name", .string target.upstreamName),
    ("upstream_model", .string target.upstreamModel),
    ("limits", .ofOption (limits.map ModelLimits.toJson)),
    ("surface", surfaces.effectiveModelSurface config target)])

/-- `openai_model_value`. -/
def openaiModelValue (surfaces : ModelSurfaces) (config : RoutedConfig) (id : String)
    (target : ModelAlias) : Value :=
  .ofFields [("id", .string id), ("object", .string "model"), ("created", .nat 0),
    ("owned_by", .string "llmup"), ("llmup", (publicModelMetadata surfaces config target).2)]

/-- `openai_model_object`. -/
def openaiModelObject (surfaces : ModelSurfaces) (config : RoutedConfig) (id : String) :
    Option Value :=
  (syntheticModelAlias config id).map fun model =>
    openaiModelValue surfaces config model.1 model.2

/-- `anthropic_model_value` (`server/models.rs` 376-396). -/
def anthropicModelValue (surfaces : ModelSurfaces) (config : RoutedConfig) (id : String)
    (target : ModelAlias) : Value :=
  let (limits, metadata) := publicModelMetadata surfaces config target
  .ofFields ([("id", .string id), ("type", .string "model"), ("display_name", .string id),
      ("created_at", .string "1970-01-01T00:00:00Z"), ("llmup", metadata)] ++
    ((limits.bind (·.contextWindow)).map fun n => ("max_input_tokens", Value.nat n)).toList ++
    ((limits.bind (·.maxOutputTokens)).map fun n => ("max_tokens", Value.nat n)).toList)

/-- `anthropic_model_object`. -/
def anthropicModelObject (surfaces : ModelSurfaces) (config : RoutedConfig) (id : String) :
    Option Value :=
  (syntheticModelAlias config id).map fun model =>
    anthropicModelValue surfaces config model.1 model.2

/-! ## When no name goes astray -/

/-- The upstream and its model that an object of the models endpoint reports. -/
def reportedTarget (model : Value) : Option ResolvedModel := do
  let metadata ← model.get "llmup"
  let upstreamName ← metadata.getStr "upstream_name"
  let upstreamModel ← metadata.getStr "upstream_model"
  some ⟨upstreamName, upstreamModel⟩

/-- Every name stands for one upstream and model, in routing and in the models endpoint. -/
structure RoutedConfig.Unambiguous (surfaces : ModelSurfaces) (config : RoutedConfig) : Prop where
  aliases : ∀ aliasName target, config.modelAliases.lookup aliasName = some target →
    config.resolveModel aliasName = .ok ⟨target.upstreamName, target.upstreamModel⟩
  explicit : ∀ upstream ∈ config.upstreams, ∀ model, Text.isBlank model = false →
    config.resolveModel (upstream.name ++ ":" ++ model) = .ok ⟨upstream.name, model⟩
  openai : ∀ id model, openaiModelObject surfaces config id = some model →
    ∃ resolved, reportedTarget model = some resolved ∧ config.resolveModel id = .ok resolved
  anthropic : ∀ id model, anthropicModelObject surfaces config id = some model →
    ∃ resolved, reportedTarget model = some resolved ∧ config.resolveModel id = .ok resolved

/-- No upstream has the separator in its name, and an alias that begins with the name of an upstream
spells out its own target. -/
structure RoutedConfig.Separated (config : RoutedConfig) : Prop where
  upstreams : ∀ upstream ∈ config.upstreams, ':' ∉ upstream.name.toList
  aliases : ∀ aliasName target, config.modelAliases.lookup aliasName = some target →
    ∀ upstreamName upstreamModel,
      Text.splitOnce aliasName ':' = some (upstreamName, upstreamModel) →
      (config.upstream upstreamName).isSome = true →
      target.upstreamName = upstreamName ∧ target.upstreamModel = upstreamModel

/-- Every alias of the file is there, with the target it was written with. -/
def FileConfig.KeptIn (parsed : FileConfig) (config : RoutedConfig) : Prop :=
  ∀ aliasName item, parsed.modelAliases.lookup aliasName = some item →
    ∃ target, config.modelAliases.lookup aliasName = some target ∧
      item.parts =
        (target.upstreamName ++ ":" ++ target.upstreamModel, target.limits, target.surface)

/-- The target of every alias of the file has a separator. -/
def FileConfig.Targeted (parsed : FileConfig) : Prop :=
  ∀ aliasName item, parsed.modelAliases.lookup aliasName = some item → ':' ∈ item.parts.1.toList

/-! ## What a valid configuration is -/

section

variable {checks : ConfigChecks} {config : RoutedConfig}

theorem validate_alias (h : config.validate checks = .ok ()) {aliasName : String}
    {target : ModelAlias} (halias : config.modelAliases.lookup aliasName = some target) :
    Text.isBlank target.upstreamModel = false := by
  unfold RoutedConfig.validate at h
  obtain ⟨_, _, h⟩ := Result.bind_ok.mp h
  obtain ⟨_, _, h⟩ := Result.bind_ok.mp h
  obtain ⟨_, _, h⟩ := Result.bind_ok.mp h
  obtain ⟨_, _, h⟩ := Result.bind_ok.mp h
  have hentry := Result.forM_ok h (aliasName, target) (SortedMap.mem_entries_iff.mpr halias)
  unfold RoutedConfig.validateAlias at hentry
  obtain ⟨_, _, hentry⟩ := Result.bind_ok.mp hentry
  obtain ⟨_, _, hentry⟩ := Result.bind_ok.mp hentry
  obtain ⟨_, hmodel, _⟩ := Result.bind_ok.mp hentry
  exact Bool.eq_false_iff.mpr (Result.refuseIf_ok.mp hmodel)

theorem validateUpstreams_ok {seen : List String} {upstreams : List UpstreamConfig}
    (h : validateUpstreams checks seen upstreams = .ok ()) {upstream : UpstreamConfig}
    (hupstream : upstream ∈ upstreams) : ∃ seen, upstream.validate checks seen = .ok () := by
  induction upstreams generalizing seen with
  | nil => cases hupstream
  | cons first rest ih =>
    obtain ⟨_, hfirst, hrest⟩ := Result.bind_ok.mp h
    rcases List.mem_cons.mp hupstream with rfl | hupstream
    · exact ⟨seen, hfirst⟩
    · exact ih hrest hupstream

/-- No upstream of a valid configuration is given a header with the name of a credential. -/
theorem validate_headers (h : config.validate checks = .ok ()) {upstream : UpstreamConfig}
    (hupstream : upstream ∈ config.upstreams) {header : String × String}
    (hheader : header ∈ upstream.upstreamHeaders) :
    isForbiddenUpstreamHeaderName header.1 = false := by
  unfold RoutedConfig.validate at h
  obtain ⟨_, _, h⟩ := Result.bind_ok.mp h
  obtain ⟨_, _, h⟩ := Result.bind_ok.mp h
  obtain ⟨_, hupstreams, _⟩ := Result.bind_ok.mp h
  obtain ⟨seen, h⟩ := validateUpstreams_ok hupstreams hupstream
  unfold UpstreamConfig.validate at h
  obtain ⟨_, _, h⟩ := Result.bind_ok.mp h
  obtain ⟨_, _, h⟩ := Result.bind_ok.mp h
  obtain ⟨_, _, h⟩ := Result.bind_ok.mp h
  obtain ⟨_, _, h⟩ := Result.bind_ok.mp h
  obtain ⟨_, _, h⟩ := Result.bind_ok.mp h
  obtain ⟨_, _, h⟩ := Result.bind_ok.mp h
  obtain ⟨_, _, h⟩ := Result.bind_ok.mp h
  obtain ⟨_, hheaders, _⟩ := Result.bind_ok.mp h
  exact Bool.eq_false_iff.mpr (Result.refuseIf_ok.mp (Result.forM_ok hheaders header hheader))

/-! ## Resolution, case by case -/

theorem explicitModel_of_upstream {requestedModel upstreamName upstreamModel : String}
    (hsplit : Text.splitOnce requestedModel ':' = some (upstreamName, upstreamModel))
    (hupstream : (config.upstream upstreamName).isSome = true) :
    config.explicitModel requestedModel = some (if Text.isBlank upstreamModel then
      .error s!"model `{requestedModel}` must include a non-empty upstream model after `:`"
    else .ok ⟨upstreamName, upstreamModel⟩) := by
  obtain ⟨upstream, hupstream⟩ := Option.isSome_iff_exists.mp hupstream
  unfold RoutedConfig.explicitModel
  simp only [hsplit, hupstream, Option.bind_eq_bind, Option.bind_some]
  rfl

theorem explicitModel_none {requestedModel : String}
    (h : ∀ upstreamName upstreamModel,
      Text.splitOnce requestedModel ':' = some (upstreamName, upstreamModel) →
      config.upstream upstreamName = none) :
    config.explicitModel requestedModel = none := by
  unfold RoutedConfig.explicitModel
  cases hsplit : Text.splitOnce requestedModel ':' with
  | none => rfl
  | some parts => simp only [h parts.1 parts.2 hsplit, Option.bind_eq_bind, Option.bind_some,
      Option.bind_none]

theorem resolveModel_explicit {requestedModel upstreamName upstreamModel : String}
    (hsplit : Text.splitOnce requestedModel ':' = some (upstreamName, upstreamModel))
    (hupstream : (config.upstream upstreamName).isSome = true)
    (hmodel : Text.isBlank upstreamModel = false) :
    config.resolveModel requestedModel = .ok ⟨upstreamName, upstreamModel⟩ := by
  unfold RoutedConfig.resolveModel
  rw [explicitModel_of_upstream hsplit hupstream, hmodel]
  rfl

/-- An alias is resolved as one unless its name begins with the name of an upstream. -/
theorem resolveModel_alias_iff {aliasName : String} {target : ModelAlias}
    (halias : config.modelAliases.lookup aliasName = some target)
    (hmodel : Text.isBlank target.upstreamModel = false) :
    config.resolveModel aliasName = .ok ⟨target.upstreamName, target.upstreamModel⟩ ↔
      ∀ upstreamName upstreamModel,
        Text.splitOnce aliasName ':' = some (upstreamName, upstreamModel) →
        (config.upstream upstreamName).isSome = true →
        target.upstreamName = upstreamName ∧ target.upstreamModel = upstreamModel := by
  constructor
  · intro hresolved upstreamName upstreamModel hsplit hupstream
    unfold RoutedConfig.resolveModel at hresolved
    rw [explicitModel_of_upstream hsplit hupstream] at hresolved
    by_cases hblank : Text.isBlank upstreamModel = true
    · rw [if_pos hblank] at hresolved
      cases hresolved
    · rw [if_neg hblank] at hresolved
      cases hresolved
      exact ⟨rfl, rfl⟩
  · intro hown
    by_cases hprefixed : ∃ upstreamName upstreamModel,
        Text.splitOnce aliasName ':' = some (upstreamName, upstreamModel) ∧
        (config.upstream upstreamName).isSome = true
    · obtain ⟨upstreamName, upstreamModel, hsplit, hupstream⟩ := hprefixed
      obtain ⟨rfl, rfl⟩ := hown upstreamName upstreamModel hsplit hupstream
      exact resolveModel_explicit hsplit hupstream hmodel
    · have hnone : config.explicitModel aliasName = none :=
        explicitModel_none fun upstreamName upstreamModel hsplit =>
          Option.not_isSome_iff_eq_none.mp fun hsome =>
            hprefixed ⟨upstreamName, upstreamModel, hsplit, hsome⟩
      unfold RoutedConfig.resolveModel
      rw [hnone, halias]
      rfl

theorem upstream_isSome {upstream : UpstreamConfig} (h : upstream ∈ config.upstreams) :
    (config.upstream upstream.name).isSome = true := by
  unfold Config.upstream
  exact List.find?_isSome.mpr ⟨upstream, h, decide_eq_true rfl⟩

theorem length_le_join {text : String} {texts : List String} (h : text ∈ texts) :
    text.length ≤ (String.join texts).length := by
  induction texts with
  | nil => cases h
  | cons first texts ih =>
    rw [String.join_cons, String.length_append]
    rcases List.mem_cons.mp h with rfl | h
    · exact Nat.le_add_right _ _
    · exact Nat.le_trans (ih h) (Nat.le_add_left _ _)

/-- An upstream with a separator in its name is out of reach: there is a model of it that is looked
for elsewhere. -/
theorem exists_misrouted (config : RoutedConfig) {upstream : UpstreamConfig}
    (hmem : ':' ∈ upstream.name.toList) :
    ∃ model, Text.isBlank model = false ∧
      config.resolveModel (upstream.name ++ ":" ++ model) ≠ .ok ⟨upstream.name, model⟩ := by
  -- A model name that is longer than the aliases: together with the upstream it is not one.
  let model := "m" ++ String.join (config.modelAliases.entries.map Prod.fst)
  obtain ⟨⟨first, rest⟩, hname⟩ :=
    Option.isSome_iff_exists.mp (Text.splitOnce_isSome_iff.mpr hmem)
  obtain ⟨hupstream, hfirst⟩ := Text.splitOnce_some hname
  have hsplit : Text.splitOnce (upstream.name ++ ":" ++ model) ':' =
      some (first, rest ++ ":" ++ model) := by
    have hwhole : upstream.name ++ ":" ++ model =
        first ++ String.singleton ':' ++ (rest ++ ":" ++ model) := by
      rw [hupstream]
      simp only [String.append_assoc]
    rw [hwhole, Text.splitOnce_append hfirst]
  refine ⟨model, Text.isBlank_eq_false (c := 'm') ?_ rfl, fun hresolved => ?_⟩
  · simp [model]
  by_cases hsome : (config.upstream first).isSome = true
  · -- The first part names an upstream, but not this one.
    have hblank : Text.isBlank (rest ++ ":" ++ model) = false :=
      Text.isBlank_eq_false (c := ':') (by simp) rfl
    rw [resolveModel_explicit hsplit hsome hblank] at hresolved
    injection hresolved with hresolved
    injection hresolved with hsame
    rw [hsame] at hfirst
    exact hfirst hmem
  · have hexplicit : config.explicitModel (upstream.name ++ ":" ++ model) = none := by
      refine explicitModel_none fun upstreamName upstreamModel hother => ?_
      rw [hsplit] at hother
      cases hother
      exact Option.not_isSome_iff_eq_none.mp hsome
    have halias : config.modelAliases.lookup (upstream.name ++ ":" ++ model) = none := by
      refine Option.eq_none_iff_forall_ne_some.mpr fun target htarget => ?_
      have hlength := length_le_join
        (List.mem_map_of_mem (f := Prod.fst) (SortedMap.mem_entries_iff.mpr htarget))
      simp only [model, String.length_append] at hlength
      have hm : "m".length = 1 := rfl
      omega
    have hlonger : upstream.name ++ ":" ++ model ≠ model := by
      intro hsame
      have hlength := congrArg String.length hsame
      have hcolon : ":".length = 1 := rfl
      rw [String.length_append, String.length_append] at hlength
      omega
    unfold RoutedConfig.resolveModel at hresolved
    rw [hexplicit, halias] at hresolved
    cases hupstreams : config.upstreams with
    | nil =>
      rw [hupstreams] at hresolved
      cases hresolved
    | cons only others =>
      rw [hupstreams] at hresolved
      cases others with
      | nil =>
        injection hresolved with hresolved
        injection hresolved with _ hsame
        exact hlonger hsame
      | cons other others => cases hresolved

/-! ## The models endpoint -/

theorem reportedTarget_of_metadata (surfaces : ModelSurfaces) (config : RoutedConfig)
    {model : Value} {target : ModelAlias}
    (h : model.get "llmup" = some (publicModelMetadata surfaces config target).2) :
    reportedTarget model = some ⟨target.upstreamName, target.upstreamModel⟩ := by
  unfold publicModelMetadata at h
  simp only [reportedTarget, h, Option.bind_eq_bind, Option.bind_some, Value.getStr_ofFields]
  rfl

theorem reportedTarget_openai (surfaces : ModelSurfaces) (id : String) (target : ModelAlias) :
    reportedTarget (openaiModelValue surfaces config id target) =
      some ⟨target.upstreamName, target.upstreamModel⟩ := by
  refine reportedTarget_of_metadata surfaces config ?_
  unfold openaiModelValue
  rw [Value.get_ofFields]
  rfl

theorem reportedTarget_anthropic (surfaces : ModelSurfaces) (id : String) (target : ModelAlias) :
    reportedTarget (anthropicModelValue surfaces config id target) =
      some ⟨target.upstreamName, target.upstreamModel⟩ := by
  refine reportedTarget_of_metadata surfaces config ?_
  unfold anthropicModelValue
  rw [Value.get_ofFields]
  rfl

theorem syntheticModelAlias_routed (haliases : ∀ aliasName target,
      config.modelAliases.lookup aliasName = some target →
      config.resolveModel aliasName = .ok ⟨target.upstreamName, target.upstreamModel⟩)
    {id : String} {model : String × ModelAlias} (h : syntheticModelAlias config id = some model) :
    config.resolveModel id = .ok ⟨model.2.upstreamName, model.2.upstreamModel⟩ := by
  unfold syntheticModelAlias at h
  cases halias : config.modelAliases.lookup id with
  | some target =>
    rw [halias] at h
    cases h
    exact haliases id target halias
  | none =>
    rw [halias] at h
    cases hresolved : config.resolveModel id with
    | ok resolved =>
      rw [hresolved] at h
      cases h
      rfl
    | error message =>
      rw [hresolved] at h
      cases h

/-- **No name goes astray** if and only if the configuration keeps its names apart. -/
theorem unambiguous_iff_separated (surfaces : ModelSurfaces)
    (hvalid : config.validate checks = .ok ()) :
    config.Unambiguous surfaces ↔ config.Separated := by
  constructor
  · intro hclear
    refine ⟨fun upstream hupstream hmem => ?_, fun aliasName target halias => ?_⟩
    · obtain ⟨model, hmodel, hastray⟩ := exists_misrouted config hmem
      exact hastray (hclear.explicit upstream hupstream model hmodel)
    · exact (resolveModel_alias_iff halias (validate_alias hvalid halias)).mp
        (hclear.aliases aliasName target halias)
  · intro hapart
    have haliases : ∀ aliasName target, config.modelAliases.lookup aliasName = some target →
        config.resolveModel aliasName = .ok ⟨target.upstreamName, target.upstreamModel⟩ := by
      intro aliasName target halias
      exact (resolveModel_alias_iff halias (validate_alias hvalid halias)).mpr
        (hapart.aliases aliasName target halias)
    refine ⟨haliases, fun upstream hupstream model hmodel => ?_, fun id model hmodel => ?_,
      fun id model hmodel => ?_⟩
    · exact resolveModel_explicit (Text.splitOnce_append (hapart.upstreams upstream hupstream) model)
        (upstream_isSome hupstream) hmodel
    · obtain ⟨listed, hlisted, rfl⟩ := Option.map_eq_some_iff.mp hmodel
      exact ⟨_, reportedTarget_openai _ _ _, syntheticModelAlias_routed haliases hlisted⟩
    · obtain ⟨listed, hlisted, rfl⟩ := Option.map_eq_some_iff.mp hmodel
      exact ⟨_, reportedTarget_anthropic _ _ _, syntheticModelAlias_routed haliases hlisted⟩

end

/-! ## Files -/

theorem modelAlias_parts {item : ModelAliasFile} {target : ModelAlias}
    (h : item.modelAlias = some target) :
    item.parts = (target.upstreamName ++ ":" ++ target.upstreamModel, target.limits,
      target.surface) := by
  unfold ModelAliasFile.modelAlias at h
  obtain ⟨⟨upstreamName, upstreamModel⟩, hsplit, htarget⟩ := Option.bind_eq_some_iff.mp h
  cases htarget
  exact Prod.ext (Text.splitOnce_some hsplit).1 rfl

theorem modelAlias_isSome_iff {item : ModelAliasFile} :
    item.modelAlias.isSome = true ↔ ':' ∈ item.parts.1.toList := by
  rw [← Text.splitOnce_isSome_iff]
  unfold ModelAliasFile.modelAlias
  cases hsplit : Text.splitOnce item.parts.1 ':' with
  | none => simp [hsplit]
  | some names => simp [hsplit]

theorem keptIn_ofFile_iff (parsed : FileConfig) :
    parsed.KeptIn (RoutedConfig.ofFile parsed) ↔ parsed.Targeted := by
  constructor
  · intro hkept aliasName item hitem
    obtain ⟨target, htarget, _⟩ := hkept aliasName item hitem
    rw [RoutedConfig.ofFile, SortedMap.lookup_filterMap, hitem] at htarget
    exact modelAlias_isSome_iff.mp (Option.isSome_iff_exists.mpr ⟨target, htarget⟩)
  · intro htargeted aliasName item hitem
    obtain ⟨target, htarget⟩ :=
      Option.isSome_iff_exists.mp (modelAlias_isSome_iff.mpr (htargeted aliasName item hitem))
    refine ⟨target, ?_, modelAlias_parts htarget⟩
    rw [RoutedConfig.ofFile, SortedMap.lookup_filterMap, hitem]
    exact htarget

/-- **Model addressing.** A valid configuration routes and lists every name as it should if and only
if it keeps its names apart, and a file gives all its aliases if and only if their targets have a
separator. -/
theorem model_addressing_iff {checks : ConfigChecks} {config : RoutedConfig}
    (surfaces : ModelSurfaces) (hvalid : config.validate checks = .ok ())
    {parse : String → Except String FileConfig} {raw : String} {parsed : FileConfig}
    (hparsed : parse raw = .ok parsed) {loaded : RoutedConfig}
    (hloaded : RoutedConfig.fromYamlStr parse raw = .ok loaded) :
    (config.Unambiguous surfaces ↔ config.Separated) ∧
      (parsed.KeptIn loaded ↔ parsed.Targeted) := by
  rw [RoutedConfig.fromYamlStr, hparsed] at hloaded
  cases hloaded
  exact ⟨unambiguous_iff_separated surfaces hvalid, keptIn_ofFile_iff parsed⟩

section

def lenient : ConfigChecks where
  parseUrl _ := .ok ⟨"https", some "api.example.com", "", none⟩
  settings _ := .ok ()
  upstreamSettings _ := .ok ()
  hooks _ := .ok ()
  surface _ _ := .ok ()

def bare : ModelSurfaces where
  upstreamLimits _ := none
  effectiveModelSurface _ _ := .null

def upstreamNamed (name : String) : UpstreamConfig :=
  ⟨name, "https://api.example.com/v1", none, none, [], .null⟩

def aliasFile : FileConfig where
  upstreams := ∅
  modelAliases := (∅ : SortedMap ModelAliasFile).insert "fast" (.target "main:small")
  settings := .null

def readAliasFile (_ : String) : Except String FileConfig := .ok aliasFile

def oneAlias : RoutedConfig where
  upstreams := [upstreamNamed "main"]
  settings := .null
  modelAliases := (∅ : SortedMap ModelAlias).insert "fast" ⟨"main", "small", none, none⟩

/-- Two upstreams, and an alias to the second one with a name that begins with the first. -/
def crossedAlias : RoutedConfig where
  upstreams := [upstreamNamed "main", upstreamNamed "spare"]
  settings := .null
  modelAliases := (∅ : SortedMap ModelAlias).insert "main:fast" ⟨"spare", "small", none, none⟩

theorem model_addressing_iff_oneAlias :
    (oneAlias.Unambiguous bare ↔ oneAlias.Separated) ∧
      (aliasFile.KeptIn (RoutedConfig.ofFile aliasFile) ↔ aliasFile.Targeted) :=
  have hvalid : oneAlias.validate lenient = .ok () := by decide +kernel
  have hparsed : readAliasFile "" = .ok aliasFile := rfl
  model_addressing_iff bare hvalid hparsed rfl

theorem alias_is_taken_for_a_model :
    ¬ ∀ (checks : ConfigChecks) (surfaces : ModelSurfaces) (config : RoutedConfig),
      config.validate checks = .ok () → config.Unambiguous surfaces := by
  intro hclear
  have hvalid : crossedAlias.validate lenient = .ok () := by decide +kernel
  have hrouted := (hclear lenient bare crossedAlias hvalid).aliases "main:fast"
    ⟨"spare", "small", none, none⟩ rfl
  revert hrouted
  decide +kernel

end

end LlmUniversalProxy.Server
