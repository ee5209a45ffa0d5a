import LlmUniversalProxy.Streaming.State
import LlmUniversalProxy.Translate.Finish

/-!
# `Streaming.Source` — what the upstream sides of the translation share

A source turns an upstream event into Chat chunks. It works on a `Source`: the state, and the
chunks it has pushed for this event.

The source is `streaming/state.rs` 482-521 and 638-657.
-/

set_option autoImplicit false

namespace LlmUniversalProxy.Streaming

open Json Lib

/-- The state and the output vector of a source function. -/
structure Source where
  state : StreamState
  out : List Value

namespace Source

/-- `out.push(openai_chunk(state, delta, None))`. -/
def push (env : Env) (delta : Value) (k : Source) : Source :=
  { k with out := k.out ++ [openaiChunk env k.state delta none] }

/-- A change of the state. -/
def update (k : Source) (f : StreamState → StreamState) : Source := { k with state := f k.state }

/-- `emit_openai_assistant_role_if_needed(state, &mut out)`. -/
def ensureRole (env : Env) (k : Source) : Source :=
  { state := (emitOpenaiAssistantRoleIfNeeded env k.state).1
    out := k.out ++ (emitOpenaiAssistantRoleIfNeeded env k.state).2 }

/-- A chunk whose delta is one tool call. -/
def pushToolCall (env : Env) (toolCall : Value) (k : Source) : Source :=
  k.push env (.ofFields [("tool_calls", .array [toolCall])])

@[simp] theorem push_state (env : Env) (delta : Value) (k : Source) :
    (k.push env delta).state = k.state := rfl

@[simp] theorem update_state (k : Source) (f : StreamState → StreamState) :
    (k.update f).state = f k.state := rfl

@[simp] theorem pushToolCall_state (env : Env) (toolCall : Value) (k : Source) :
    (k.pushToolCall env toolCall).state = k.state := rfl

end Source

end LlmUniversalProxy.Streaming
