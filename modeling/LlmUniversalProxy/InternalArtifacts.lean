import LlmUniversalProxy.Json.Value
import LlmUniversalProxy.Lib.Text

/-!
# `InternalArtifacts` — what must not leak out of the proxy

The proxy rides some of its own data on requests: a context field and a tool-name prefix. An
upstream that sends one of them back is answered with a generic message.

The search in a text finds either of them anywhere; the one in JSON looks for the field alone, among
the keys at any depth (`internal_artifacts.rs` 3-32). Who asks which of the two is up to the
callers.
-/

set_option autoImplicit false

namespace LlmUniversalProxy

open Json Lib

/-- `REQUEST_SCOPED_TOOL_BRIDGE_CONTEXT_FIELD`. -/
def requestScopedToolBridgeContextField : String := "_llmup_tool_bridge_context"

/-- `OPENAI_RESPONSES_CUSTOM_BRIDGE_PREFIX`. -/
def openaiResponsesCustomBridgePrefix : String := "__llmup_custom__"

/-- `GENERIC_UPSTREAM_ERROR_MESSAGE`. -/
def genericUpstreamErrorMessage : String := "The upstream provider returned an error."

/-- `INTERNAL_ARTIFACT_ERROR_MESSAGE`. -/
def internalArtifactErrorMessage : String := "upstream payload contained an internal proxy artifact"

/-- `contains_internal_artifact_text`. -/
def containsInternalArtifactText (value : String) : Bool :=
  Text.contains value requestScopedToolBridgeContextField ||
    Text.contains value openaiResponsesCustomBridgePrefix

/-- `sanitize_public_error_message`. -/
def sanitizePublicErrorMessage (value : String) : String :=
  if Text.isBlank value || containsInternalArtifactText value then genericUpstreamErrorMessage
  else value

mutual

/-- `contains_internal_context_field`. -/
def containsInternalContextField : Value → Bool
  | .object fields => containsInternalContextFields fields
  | .array items => containsInternalContextItems items
  | _ => false

def containsInternalContextItems : List Value → Bool
  | [] => false
  | v :: rest => containsInternalContextField v || containsInternalContextItems rest

def containsInternalContextFields : List (String × Value) → Bool
  | [] => false
  | (k, v) :: rest =>
      (k = requestScopedToolBridgeContextField || containsInternalContextField v) ||
        containsInternalContextFields rest

end

end LlmUniversalProxy
