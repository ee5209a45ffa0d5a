/-!
# `Formats` — the API shapes the proxy speaks

The upstream speaks one of them, the client speaks one, and the streaming pass translates between
the two.

These are all there are (`formats.rs` 8-29), so what is said of any two formats is said of nine
pairs.
-/

set_option autoImplicit false

namespace LlmUniversalProxy

/-- `formats::UpstreamFormat`. -/
inductive UpstreamFormat where
  | anthropic
  | openAiChatCompletions
  | openAiResponses
  deriving DecidableEq, Repr

namespace UpstreamFormat

/-- The `Display` text of a format. -/
def display : UpstreamFormat → String
  | anthropic => "anthropic"
  | openAiChatCompletions => "openai-chat-completions"
  | openAiResponses => "openai-responses"

end UpstreamFormat
end LlmUniversalProxy
