import Mathlib.Data.List.Chain
import Mathlib.Order.Lattice

/-!
# `Server.Dialect` — what an upstream understands of reasoning effort

An upstream may be given a dialect: the shape it takes an effort in, and the levels it knows. A
dialect comes from the configuration as the name of a preset or as a block, and is resolved before
it is used. Only a block whose levels go strictly upwards is resolved, so a resolved dialect has
its highest level at the end of the list.

The source is `config/dialect.rs` 18-216, with the ceiling from `translate/internal/dialect_emit.rs`
109-123.
-/

set_option autoImplicit false

namespace LlmUniversalProxy.Server

/-- `config::ReasoningLevel`, from the lowest on. -/
inductive ReasoningLevel where
  | none
  | minimal
  | low
  | medium
  | high
  | xhigh
  | max
  | ultra
  deriving DecidableEq, Repr

namespace ReasoningLevel

/-- The place of a level in the declaration, by which the derived `Ord` goes. -/
def rank : ReasoningLevel → Nat
  | none => 0
  | minimal => 1
  | low => 2
  | medium => 3
  | high => 4
  | xhigh => 5
  | max => 6
  | ultra => 7

theorem rank_injective : Function.Injective rank := by
  intro a b h
  cases a <;> cases b <;> first | rfl | cases h

instance : LinearOrder ReasoningLevel := LinearOrder.lift' rank rank_injective

/-- The `Display` text of a level, which is its name in the configuration too. -/
def display : ReasoningLevel → String
  | none => "none"
  | minimal => "minimal"
  | low => "low"
  | medium => "medium"
  | high => "high"
  | xhigh => "xhigh"
  | max => "max"
  | ultra => "ultra"

/-- `ReasoningLevel::parse` (`dialect.rs` 39-51). -/
def parse (name : String) : Except String ReasoningLevel :=
  if name = "none" then .ok none
  else if name = "minimal" then .ok minimal
  else if name = "low" then .ok low
  else if name = "medium" then .ok medium
  else if name = "high" then .ok high
  else if name = "xhigh" then .ok xhigh
  else if name = "max" then .ok max
  else if name = "ultra" then .ok ultra
  else .error s!"unknown reasoning level `{name}`"

@[simp] theorem parse_display (level : ReasoningLevel) : parse level.display = .ok level := by
  cases level <;> rfl

end ReasoningLevel

/-- `config::ReasoningMechanism`. -/
inductive ReasoningMechanism where
  | openAiEffort
  | anthropicEffort
  | anthropicThinking
  | autoOnly
  | none
  deriving DecidableEq, Repr

namespace ReasoningMechanism

/-- `as_str`, and the `Display` text. -/
def asStr : ReasoningMechanism → String
  | openAiEffort => "openai-effort"
  | anthropicEffort => "anthropic-effort"
  | anthropicThinking => "anthropic-thinking"
  | autoOnly => "auto-only"
  | none => "none"

/-- `maps_reasoning`. -/
def mapsReasoning : ReasoningMechanism → Bool
  | openAiEffort | anthropicEffort | anthropicThinking => true
  | autoOnly | none => false

end ReasoningMechanism

/-- `config::DialectBlock`. -/
structure DialectBlock where
  reasoning : ReasoningMechanism
  reasoningEcho : Option Bool
  reasoningLevels : Option (List ReasoningLevel)
  deriving DecidableEq, Repr

/-- The first two neighbours that do not go upwards. -/
def firstDescent : List ReasoningLevel → Option (ReasoningLevel × ReasoningLevel)
  | a :: b :: levels => if a ≥ b then some (a, b) else firstDescent (b :: levels)
  | _ => none

/-- `DialectBlock::validate` (`dialect.rs` 128-143). -/
def DialectBlock.validate (self : DialectBlock) : Except String Unit :=
  match self.reasoningLevels with
  | none => .ok ()
  | some levels =>
      if levels.isEmpty then .error "dialect.reasoning_levels must not be empty"
      else
        match firstDescent levels with
        | some (a, b) => .error ("dialect.reasoning_levels must be strictly increasing in union " ++
            s!"order; `{a.display}` before `{b.display}`")
        | none => .ok ()

theorem firstDescent_eq_none_iff (levels : List ReasoningLevel) :
    firstDescent levels = none ↔ levels.Pairwise (· < ·) := by
  rw [← List.isChain_iff_pairwise]
  induction levels with
  | nil => simp [firstDescent]
  | cons a levels ih =>
    cases levels with
    | nil => simp [firstDescent]
    | cons b levels =>
      rw [firstDescent, List.isChain_cons_cons, ← ih]
      split
      · next h => simp [not_lt_of_ge h]
      · next h => simp [lt_of_not_ge h]

/-- **What passes validation** is a list of levels that is not empty and goes strictly upwards. -/
theorem DialectBlock.validate_eq_ok_iff (block : DialectBlock) :
    block.validate = .ok () ↔ ∀ levels, block.reasoningLevels = some levels →
      levels ≠ [] ∧ levels.Pairwise (· < ·) := by
  unfold validate
  cases hlevels : block.reasoningLevels with
  | none => simp
  | some levels =>
    simp only [Option.some.injEq, forall_eq']
    rw [← firstDescent_eq_none_iff]
    cases levels with
    | nil => simp
    | cons level levels =>
      cases hdescent : firstDescent (level :: levels) with
      | none => simp
      | some pair => simp

/-- A dialect that has been validated. -/
structure ResolvedDialect where
  block : DialectBlock
  valid : block.validate = .ok ()

/-- `resolve_dialect_preset` (`dialect.rs` 182-216). -/
def resolveDialectPreset (name : String) : Option DialectBlock :=
  if name = "deepseek-openai" then some ⟨.openAiEffort, some true, some [.low, .high, .max]⟩
  else if name = "glm-openai" then
    some ⟨.openAiEffort, some true, some [.none, .minimal, .high, .max]⟩
  else if name = "glm-anthropic" then some ⟨.autoOnly, some false, none⟩
  else if name = "qwen-openai" then some ⟨.autoOnly, some true, none⟩
  else none

/-- Every preset would pass the validation that blocks have to pass. -/
theorem validate_preset {name : String} {block : DialectBlock}
    (h : resolveDialectPreset name = some block) : block.validate = .ok () := by
  unfold resolveDialectPreset at h
  repeat' split at h
  all_goals first | cases h; rfl | cases h

/-- `config::UpstreamDialect`. -/
inductive UpstreamDialect where
  | preset (name : String)
  | detailed (block : DialectBlock)
  deriving DecidableEq, Repr

/-- `UpstreamDialect::resolve` (`dialect.rs` 166-175). -/
def UpstreamDialect.resolve : UpstreamDialect → Except String ResolvedDialect
  | preset name =>
      match h : resolveDialectPreset name with
      | some block => .ok ⟨block, validate_preset h⟩
      | none => .error s!"unknown dialect preset `{name}`"
  | detailed block =>
      match h : block.validate with
      | .ok _ => .ok ⟨block, h⟩
      | .error error => .error error

/-- `ceiling_for` (`dialect_emit.rs` 109-123). -/
def ResolvedDialect.ceilingFor (self : ResolvedDialect) : ReasoningLevel :=
  match h : self.block.reasoningLevels with
  | some levels => levels.getLast ((self.block.validate_eq_ok_iff.mp self.valid) levels h).1
  | none =>
      match self.block.reasoning with
      | .openAiEffort | .anthropicEffort => .max
      | .anthropicThinking | .autoOnly | .none => .ultra

/-- **The ceiling of a dialect** is the greatest of the levels it declares. -/
theorem ResolvedDialect.ceilingFor_isGreatest (dialect : ResolvedDialect)
    {levels : List ReasoningLevel} (h : dialect.block.reasoningLevels = some levels) :
    dialect.ceilingFor ∈ levels ∧ ∀ level ∈ levels, level ≤ dialect.ceilingFor := by
  obtain ⟨hne, hsorted⟩ := dialect.block.validate_eq_ok_iff.mp dialect.valid levels h
  have hceiling : dialect.ceilingFor = levels.getLast hne := by
    unfold ceilingFor
    split
    · next other hother =>
      obtain rfl := Option.some.inj (hother.symm.trans h)
      rfl
    · next hnone => simp [h] at hnone
  rw [hceiling]
  refine ⟨List.getLast_mem hne, ?_⟩
  intro level hlevel
  -- the list is what comes before its last level, and that level
  rw [← List.dropLast_append_getLast hne] at hlevel hsorted
  rcases List.mem_append.mp hlevel with hbefore | hlast
  · have hbelow := (List.pairwise_append.mp hsorted).2.2 level hbefore _ (List.mem_singleton_self _)
    exact le_of_lt hbelow
  · rw [List.mem_singleton.mp hlast]

end LlmUniversalProxy.Server
