import LlmUniversalProxy.Json.Text
import LlmUniversalProxy.Server.AdminCas
import LlmUniversalProxy.Server.BridgeOwner
import LlmUniversalProxy.Server.BridgeReplay
import LlmUniversalProxy.Streaming.ClaudeProtocol
import LlmUniversalProxy.Lib.Framing
import LlmUniversalProxy.Streaming.AnthropicSource
import LlmUniversalProxy.Streaming.Chunking
import LlmUniversalProxy.Streaming.TerminalEvents
import LlmUniversalProxy.Streaming.StreamGuards
import LlmUniversalProxy.Streaming.TerminalOnce
import LlmUniversalProxy.Translate.AnthropicContent
import LlmUniversalProxy.Translate.ReasoningSuppression
import LlmUniversalProxy.Streaming.AnthropicAgreement
import LlmUniversalProxy.Streaming.CallAgreement
import LlmUniversalProxy.Streaming.ClaudeAgreement
import LlmUniversalProxy.Streaming.ResponsesAgreement
import LlmUniversalProxy.Streaming.IncrementalText
import LlmUniversalProxy.Server.SecretRedaction
import LlmUniversalProxy.Server.BridgeContinuation
import LlmUniversalProxy.Server.Headers
import LlmUniversalProxy.Streaming.AnthropicUsage
import LlmUniversalProxy.Streaming.AnthropicToolUse
import LlmUniversalProxy.Streaming.InterleavedCalls
import LlmUniversalProxy.Translate.SurfaceGate
import LlmUniversalProxy.Server.RequestProcessing
import LlmUniversalProxy.Usage
import LlmUniversalProxy.Server.Telemetry
import LlmUniversalProxy.Server.TrackedBody
import LlmUniversalProxy.Server.TrustedToolBridge
import LlmUniversalProxy.Streaming.WireRoundTrip
import LlmUniversalProxy.Streaming.StreamedUsage
import LlmUniversalProxy.Streaming.NonReplayableCalls
import LlmUniversalProxy.Streaming.ServerToolEcho
import LlmUniversalProxy.Translate.ToolClearing
import LlmUniversalProxy.Translate.ClaudeTurns
import LlmUniversalProxy.Translate.ContextEdits
import LlmUniversalProxy.Translate.ClaudeToOpenai
import LlmUniversalProxy.Translate.MediaSources
import LlmUniversalProxy.Translate.RoleRuns
import LlmUniversalProxy.Hooks.BackPressure
import LlmUniversalProxy.Hooks.AccumulatorBounds
import LlmUniversalProxy.Hooks.SpoolRuns
import LlmUniversalProxy.DebugTrace.Streams
import LlmUniversalProxy.PromptCacheKey
import LlmUniversalProxy.Translate.ChatRoundTrip
import LlmUniversalProxy.Hooks.Reconstruction
import LlmUniversalProxy.Server.BridgeCapture
import LlmUniversalProxy.Streaming.Passthrough
import LlmUniversalProxy.Streaming.Grammar
import LlmUniversalProxy.UserTools.CodexInstall
import LlmUniversalProxy.Server.ResourcePaths
import LlmUniversalProxy.Server.ResponsesOwner
import LlmUniversalProxy.Translate.DialectEmit
import LlmUniversalProxy.Translate.SignedThinking
import LlmUniversalProxy.Streaming.ResponsesProtocol
