import LlmUniversalProxy.Json.Text
import LlmUniversalProxy.Lib.Text

/-!
# `UserTools.CodexSetup` — what `codex-setup` writes

The texts of the profile, the agent and the manifest, and the patched catalog. The functions are
pure: which file a text goes to is `UserTools.CodexInstall`.

The source is `user_tools/codex_setup.rs` 97-339 and 629-634.
-/

set_option autoImplicit false

namespace LlmUniversalProxy.UserTools

open Json Lib

def providerId : String := "llmup"
def envKeyName : String := "LLMUP_PROXY_KEY"
def schemaVersion : Nat := 1
def defaultWireApi : String := "responses"
def developerInstructions : String :=
  "Complete the delegated task. Return results to the parent agent."

/-! ## Texts -/

/-- `str::trim_end_matches('/')`. -/
def trimEndSlashes (s : String) : String :=
  String.ofList (s.toList.reverse.dropWhile (· = '/')).reverse

/-- `normalize_base_url`. -/
def normalizeBaseUrl (baseUrl : String) : String := trimEndSlashes (Text.trim baseUrl)

def upperHexDigit (n : Nat) : Char := "0123456789ABCDEF".toList.getD n '0'

/-- A character of `escape_toml_basic_string`. -/
def escapeTomlChar (c : Char) : List Char :=
  if c = '\\' then ['\\', '\\']
  else if c = '"' then ['\\', '"']
  else if c = '\n' then ['\\', 'n']
  else if c = '\t' then ['\\', 't']
  else if c = '\r' then ['\\', 'r']
  else if c.toNat < 0x20 then
    ['\\', 'u', '0', '0', upperHexDigit (c.toNat / 16), upperHexDigit (c.toNat % 16)]
  else [c]

/-- `escape_toml_basic_string`. -/
def escapeTomlBasicString (s : String) : String := String.ofList (s.toList.flatMap escapeTomlChar)

/-- `agent_file_name`. -/
def agentFileName (model : String) : String := s!"llmup-{model}.toml"

/-- `agent_name`. -/
def agentName (model : String) : String := s!"llmup_{model}"

/-- A `key = "value"` line. -/
def stringLine (key value : String) : String := s!"{key} = \"{value}\"\n"

/-- `generate_provider_block`. -/
def generateProviderBlock (baseUrl : String) : String :=
  s!"[model_providers.{providerId}]\n" ++ stringLine "name" "LLMUP" ++
    stringLine "base_url" (escapeTomlBasicString (normalizeBaseUrl baseUrl)) ++
    stringLine "wire_api" defaultWireApi ++ "requires_openai_auth = false\n" ++
    stringLine "env_key" envKeyName

/-- `generate_features_block`. -/
def generateFeaturesBlock : String := "[features]\nmulti_agent_v2 = false\n"

/-- `generate_agent_content` (`codex_setup.rs` 164-189). -/
def generateAgentContent (model : String) (reasoningEffort : Option String)
    (contextWindow : Option Nat) : String :=
  let escModel := escapeTomlBasicString model
  stringLine "name" (escapeTomlBasicString (agentName model)) ++
    stringLine "description" s!"LLMUP sub-agent for {escModel}" ++
    stringLine "model" escModel ++ stringLine "model_provider" providerId ++
    stringLine "developer_instructions" developerInstructions ++
    (match reasoningEffort with
      | some effort => stringLine "model_reasoning_effort" (escapeTomlBasicString effort)
      | none => "") ++
    (match contextWindow with
      | some window => s!"model_context_window = {window}\n"
      | none => "")

/-! ## The profile -/

/-- `str::split_inclusive('\n')`, behind the part of a line that was read. -/
def splitInclusiveFrom : List Char → List Char → List (List Char)
  | line, [] => if line.isEmpty then [] else [line.reverse]
  | line, c :: cs =>
      if c = '\n' then ('\n' :: line).reverse :: splitInclusiveFrom [] cs
      else splitInclusiveFrom (c :: line) cs

def splitInclusive (content : String) : List String :=
  (splitInclusiveFrom [] content.toList).map String.ofList

/-- A line that sets one of the keys. -/
def isManagedKey (bareKeys : List String) (trimmed : String) : Bool :=
  bareKeys.any fun key => (Text.stripPrefix trimmed key).any fun rest =>
    Text.startsWith (String.ofList (Text.trimStartChars rest.toList)) "="

/-- The loop of `strip_managed`: the lines it keeps. -/
def keptLines (headers bareKeys : List String) : Bool → List String → List String
  | _, [] => []
  | skippingTable, line :: rest =>
      let trimmed := Text.trim line
      let isHeader := Text.startsWith trimmed "["
      let skippingTable := if isHeader then headers.contains trimmed else skippingTable
      if skippingTable || isManagedKey bareKeys trimmed then
        keptLines headers bareKeys skippingTable rest
      else line :: keptLines headers bareKeys skippingTable rest

/-- `strip_managed`. -/
def stripManaged (content : String) (headers bareKeys : List String) : String :=
  String.join (keptLines headers bareKeys false (splitInclusive content))

/-- `build_profile_content` (`codex_setup.rs` 200-227). -/
def buildProfileContent (existing : Option String) (baseUrl : String)
    (catalogJsonPath : Option String) : String :=
  let stripped := stripManaged (existing.getD "") ["[model_providers.llmup]", "[features]"]
    ["model_catalog_json"]
  let stripped := String.ofList (Text.trimEndChars stripped.toList)
  (match catalogJsonPath with
    | some path => stringLine "model_catalog_json" (escapeTomlBasicString path)
    | none => "") ++
    (if stripped.isEmpty then "" else stripped ++ "\n") ++
    "\n" ++ generateProviderBlock baseUrl ++ "\n" ++ generateFeaturesBlock

/-! ## The manifest -/

/-- `generate_state_content` (`codex_setup.rs` 271-294). -/
def generateStateContent (codexVersion : String) (managedFiles : List String)
    (createdAt : String) : String :=
  let filesBuf := "[" ++ ",".intercalate (managedFiles.map fun file => (Value.string file).toJson)
    ++ "]"
  "\x7b\n\"schema_version\": " ++ toString schemaVersion ++ ",\n\"codex_version\": \"" ++
    codexVersion ++ "\",\n\"provider_id\": \"" ++ providerId ++ "\",\n\"managed_files\": " ++
    filesBuf ++ ",\n\"created_at\": \"" ++ createdAt ++ "\"\n\x7d\n"

/-! ## The catalog -/

/-- `patch_catalog_v1` (`codex_setup.rs` 308-339). A catalog of another shape is left as it is. -/
def patchCatalogV1 (catalog : Value) : Value :=
  match catalog.get "models" with
  | some (.array models) =>
      if models.all Value.isObject then
        catalog.set "models" (.array
          (models.map fun model => model.set "multi_agent_version" (.string "v1")))
      else catalog
  | _ => catalog

/-! ## Names -/

/-- `is_valid_model_name`. -/
def isValidModelName (model : String) : Bool :=
  !model.isEmpty && model.toList.all fun c =>
    ('a' ≤ c && c ≤ 'z') || ('A' ≤ c && c ≤ 'Z') || ('0' ≤ c && c ≤ '9') ||
      c = '.' || c = '_' || c = '-'

end LlmUniversalProxy.UserTools
