import LlmUniversalProxy.Translate.OpenaiToClaude

/-!
# `Translate.ClaudeTurns` — every message of a conversation, in its turn

The message loop of `openai_to_claude` puts the messages of a request into turns, one message of
Anthropic for each: results of tools, in front of the message of the user that follows them, or any
other message alone. A message is named by itself and its place, so that two that look the same are
still two.

The loop is `translate/internal.rs` 2344-2507.
-/

set_option autoImplicit false

namespace LlmUniversalProxy.Translate

open Json Lib

/-! ## Turns -/

def isToolMessage (message : Value) : Bool := roleOf message = "tool"

def isUserMessage (message : Value) : Bool := roleOf message = "user"

/-- The blocks of a message; none of one that is dropped. -/
def claudeBlocksOf (env : TranslationEnv) (message : Value) : List Value :=
  match openaiMessageToClaudeBlocks env message with
  | .ok (some claudeBlocks) => claudeBlocks
  | _ => []

theorem claudeBlocksOf_ok {env : TranslationEnv} {message : Value} {blocks : Option (List Value)}
    (h : openaiMessageToClaudeBlocks env message = .ok blocks) :
    claudeBlocksOf env message = blocks.getD [] := by
  unfold claudeBlocksOf
  rw [h]
  cases blocks <;> rfl

/-- A message that is not dropped. -/
def isConveyed (env : TranslationEnv) (message : Value) : Bool :=
  match openaiMessageToClaudeBlocks env message with
  | .ok (some _) => true
  | _ => false

/-- The message of Anthropic for a turn: its last message gives the role. -/
def claudeTurn (env : TranslationEnv) (turn : List (Value × Nat)) : Value :=
  claudeMessage
    (if turn.getLast?.any fun m => roleOf m.1 = "assistant" then "assistant" else "user")
    (turn.flatMap fun m => claudeBlocksOf env m.1)

/-- The blocks of a message of Anthropic. -/
def contentOf (message : Value) : List Value := (message.getArray "content").getD []

theorem contentOf_claudeMessage (role : String) (content : List Value) :
    contentOf (claudeMessage role content) = content := by
  unfold contentOf claudeMessage Value.getArray
  rw [Value.get_ofFields]
  rfl

theorem role_claudeMessage (role : String) (content : List Value) :
    (claudeMessage role content).getStr "role" = some role := by
  unfold claudeMessage
  rw [Value.getStr_ofFields]
  rfl

theorem content_claudeTurns (env : TranslationEnv) (turns : List (List (Value × Nat))) :
    (turns.map (claudeTurn env)).flatMap contentOf =
      turns.flatten.flatMap fun m => claudeBlocksOf env m.1 := by
  induction turns with
  | nil => rfl
  | cons turn turns ih =>
    rw [List.map_cons, List.flatMap_cons, ih, List.flatten_cons, List.flatMap_append]
    exact congrArg (· ++ _) (contentOf_claudeMessage _ _)

theorem blocks_of_dropped {env : TranslationEnv} {message : Value}
    (h : isConveyed env message = false) : claudeBlocksOf env message = [] := by
  unfold isConveyed at h
  unfold claudeBlocksOf
  split
  · next hblocks =>
    rw [hblocks] at h
    cases h
  · rfl

theorem blocks_of_conveyed {env : TranslationEnv} (messages : List (Value × Nat)) :
    ((messages.filter fun m => isConveyed env m.1).flatMap fun m => claudeBlocksOf env m.1) =
      messages.flatMap fun m => claudeBlocksOf env m.1 := by
  induction messages with
  | nil => rfl
  | cons m rest ih =>
    rw [List.filter_cons, List.flatMap_cons]
    cases hconveyed : isConveyed env m.1 with
    | true =>
      rw [if_pos rfl, List.flatMap_cons, ih]
    | false =>
      rw [if_neg Bool.false_ne_true, ih, blocks_of_dropped hconveyed, List.nil_append]

/-- The result of a tool is never dropped, and never empty. -/
theorem blocks_of_tool {env : TranslationEnv} {message : Value} {blocks : Option (List Value)}
    (htool : isToolMessage message = true)
    (h : openaiMessageToClaudeBlocks env message = .ok blocks) :
    isConveyed env message = true ∧ claudeBlocksOf env message ≠ [] := by
  have hrole : message.getStr "role" = some "tool" := by
    have htool : roleOf message = "tool" := of_decide_eq_true htool
    unfold roleOf at htool
    cases hget : message.getStr "role" with
    | none =>
      rw [hget] at htool
      exact absurd htool (by decide)
    | some role =>
      rw [hget] at htool
      exact congrArg some htool
  unfold isConveyed claudeBlocksOf
  unfold openaiMessageToClaudeBlocks at h ⊢
  rw [hrole] at h ⊢
  simp only [if_true] at h ⊢
  split at h
  · cases h
  · next hkind =>
    rw [if_neg hkind]
    exact ⟨rfl, List.cons_ne_nil _ _⟩

/-! ## The loop -/

/-- The groups that the messages so far fall into. -/
abbrev TurnState := Regroup.State (Value × Nat)

def takeTurn (turns : TurnState) (m : Value × Nat) : TurnState :=
  Regroup.step (fun m => isToolMessage m.1) (fun m => isUserMessage m.1) turns m

/-- The loop has pushed the turns that are complete, and holds back the results of the others. -/
structure Mirrors (env : TranslationEnv) (conversation : ClaudeConversation) (turns : TurnState) :
    Prop where
  messages : conversation.messages = turns.released.map (claudeTurn env)
  pending : conversation.pendingToolResults =
    turns.pending.flatMap fun m => claudeBlocksOf env m.1
  waiting : ∀ m ∈ turns.pending, isToolMessage m.1 = true ∧ claudeBlocksOf env m.1 ≠ []

section

variable {env : TranslationEnv} {conversation next : ClaudeConversation} {turns : TurnState}

theorem Mirrors.isEmpty (h : Mirrors env conversation turns) :
    conversation.pendingToolResults.isEmpty = turns.pending.isEmpty := by
  rw [h.pending]
  cases hpending : turns.pending with
  | nil => rfl
  | cons m rest =>
    have hne : claudeBlocksOf env m.1 ≠ [] := (h.waiting m (hpending ▸ List.mem_cons_self)).2
    rw [List.flatMap_cons, List.isEmpty_cons, List.isEmpty_eq_false_iff]
    exact fun hnil => hne (List.append_eq_nil_iff.mp hnil).1

theorem claudeTurn_tools {turn : List (Value × Nat)} (h : ∀ m ∈ turn, isToolMessage m.1 = true) :
    claudeTurn env turn = claudeMessage "user" (turn.flatMap fun m => claudeBlocksOf env m.1) := by
  unfold claudeTurn
  rw [if_neg]
  intro hany
  obtain ⟨m, hm, hrole⟩ := Option.any_eq_true _ _ |>.mp hany
  have htool : roleOf m.1 = "tool" := of_decide_eq_true (h m (List.mem_of_getLast? hm))
  rw [htool] at hrole
  exact absurd hrole (by decide)

theorem Mirrors.flush (h : Mirrors env conversation turns) :
    conversation.flush = turns.flush.map (claudeTurn env) := by
  unfold ClaudeConversation.flush Regroup.State.flush
  rw [h.isEmpty]
  split
  · exact h.messages
  · rw [List.map_append, h.messages, h.pending, List.map_singleton,
      claudeTurn_tools fun m hm => (h.waiting m hm).1]

theorem claudeTurn_concat (front : List (Value × Nat)) (m : Value × Nat) :
    claudeTurn env (front ++ [m]) =
      claudeMessage (if roleOf m.1 = "assistant" then "assistant" else "user")
        ((front.flatMap fun m => claudeBlocksOf env m.1) ++ claudeBlocksOf env m.1) := by
  unfold claudeTurn
  rw [List.getLast?_concat, List.flatMap_append, List.flatMap_singleton]
  congr 1
  rw [Option.any_some]
  exact if_congr decide_eq_true_iff rfl rfl

theorem push_alone {role : String} (h : role ≠ "user" ∨ conversation.pendingToolResults.isEmpty = true)
    (claudeBlocks : List Value) : conversation.push role claudeBlocks =
      { messages := conversation.flush ++
          [claudeMessage (if role = "assistant" then "assistant" else "user") claudeBlocks] } := by
  unfold ClaudeConversation.push
  rw [if_neg]
  intro hboth
  rw [Bool.and_eq_true, decide_eq_true_iff, Bool.not_eq_true'] at hboth
  rcases h with h | h
  · exact h hboth.1
  · rw [h] at hboth
    cases hboth.2

theorem push_joining (h : conversation.pendingToolResults.isEmpty = false)
    (claudeBlocks : List Value) : conversation.push "user" claudeBlocks =
      { messages := conversation.messages ++
          [claudeMessage "user" (conversation.pendingToolResults ++ claudeBlocks)] } := by
  unfold ClaudeConversation.push
  rw [h]
  rfl

/-- A message that is not dropped is taken by the loop as it is by the turns. -/
theorem Mirrors.push (h : Mirrors env conversation turns) {m : Value × Nat}
    (htool : isToolMessage m.1 = false) :
    Mirrors env (conversation.push (roleOf m.1) (claudeBlocksOf env m.1)) (takeTurn turns m) := by
  have hnone : ∀ x ∈ ([] : List (Value × Nat)),
      isToolMessage x.1 = true ∧ claudeBlocksOf env x.1 ≠ [] :=
    fun x hx => absurd hx List.not_mem_nil
  have halone : Mirrors env
      { messages := conversation.flush ++ [claudeMessage
          (if roleOf m.1 = "assistant" then "assistant" else "user") (claudeBlocksOf env m.1)] }
      ⟨turns.flush ++ [[m]], []⟩ := by
    refine ⟨?_, rfl, hnone⟩
    rw [List.map_append, List.map_singleton, h.flush]
    exact congrArg (fun x => _ ++ [x]) (claudeTurn_concat [] m).symm
  unfold takeTurn Regroup.step
  rw [if_neg (ne_true_of_eq_false htool)]
  by_cases huser : roleOf m.1 = "user"
  · rw [if_pos (show isUserMessage m.1 = true from decide_eq_true huser)]
    cases hempty : conversation.pendingToolResults.isEmpty with
    | true =>
      rw [push_alone (.inr hempty)]
      have hpending : turns.pending = [] := List.isEmpty_iff.mp (h.isEmpty ▸ hempty)
      rw [hpending]
      unfold Regroup.State.flush at halone
      rwa [hpending] at halone
    | false =>
      rw [huser, push_joining hempty]
      refine ⟨?_, rfl, hnone⟩
      rw [List.map_append, List.map_singleton, h.messages, h.pending, claudeTurn_concat, huser]
      rfl
  · rw [if_neg (ne_true_of_eq_false (show isUserMessage m.1 = false from decide_eq_false huser)),
      push_alone (.inl huser)]
    exact halone

/-- What one message does: it is dropped, or takes its turn. -/
theorem Mirrors.convert (h : Mirrors env conversation turns) {m : Value × Nat}
    (hstep : convertOpenaiMessage env conversation m.1 = .ok next) :
    (∃ blocks, openaiMessageToClaudeBlocks env m.1 = .ok blocks) ∧
      Mirrors env next (if isConveyed env m.1 then takeTurn turns m else turns) := by
  unfold convertOpenaiMessage at hstep
  obtain ⟨blocks, hblocks, hstep⟩ := Result.bind_ok.mp hstep
  refine ⟨⟨blocks, hblocks⟩, ?_⟩
  have hconveyed : isConveyed env m.1 = blocks.isSome := by
    unfold isConveyed
    rw [hblocks]
    cases blocks <;> rfl
  rw [hconveyed]
  cases blocks with
  | none =>
    cases hstep
    exact h
  | some claudeBlocks =>
    have heq : claudeBlocksOf env m.1 = claudeBlocks := claudeBlocksOf_ok hblocks
    rw [← heq] at hstep
    by_cases htool : roleOf m.1 = "tool"
    · simp only [htool, if_true] at hstep
      cases hstep
      have hheld : isToolMessage m.1 = true := decide_eq_true htool
      unfold takeTurn Regroup.step
      simp only [Option.isSome_some, if_true, hheld]
      refine ⟨h.messages, ?_, ?_⟩
      · rw [h.pending, List.flatMap_append, List.flatMap_singleton]
      · intro x hx
        rcases List.mem_append.mp hx with hx | hx
        · exact h.waiting x hx
        · rw [List.mem_singleton.mp hx]
          exact ⟨hheld, (blocks_of_tool hheld hblocks).2⟩
    · simp only [htool, if_false] at hstep
      cases hstep
      exact h.push (decide_eq_false htool)

theorem Mirrors.run {messages : List (Value × Nat)} (h : Mirrors env conversation turns)
    (hrun : (messages.map Prod.fst).foldlM (convertOpenaiMessage env) conversation = .ok next) :
    (∀ m ∈ messages, ∃ blocks, openaiMessageToClaudeBlocks env m.1 = .ok blocks) ∧
      Mirrors env next ((messages.filter fun m => isConveyed env m.1).foldl takeTurn turns) := by
  induction messages generalizing conversation turns with
  | nil =>
    cases hrun
    exact ⟨fun m hm => absurd hm List.not_mem_nil, h⟩
  | cons m rest ih =>
    rw [List.map_cons, List.foldlM_cons] at hrun
    obtain ⟨middle, hstep, hrun⟩ := Result.bind_ok.mp hrun
    obtain ⟨hfirst, hmiddle⟩ := h.convert hstep
    obtain ⟨hrest, hlast⟩ := ih hmiddle hrun
    refine ⟨?_, ?_⟩
    · intro x hx
      rcases List.mem_cons.mp hx with rfl | hx
      · exact hfirst
      · exact hrest x hx
    · rw [List.filter_cons]
      cases hconveyed : isConveyed env m.1 with
      | true =>
        rw [hconveyed] at hlast
        exact hlast
      | false =>
        rw [hconveyed] at hlast
        exact hlast

end

/-! ## The whole conversation -/

/-- Where the result of a tool is: in a message of the user, and in front of every later message
that is no result. Only a message of the user may share its message. -/
structure LandsInTime (env : TranslationEnv) (turns : List (List (Value × Nat)))
    (tool : Value × Nat) (k : Nat) (turn : List (Value × Nat)) : Prop where
  there : turns[k]? = some turn
  mem : tool ∈ turn
  user : (claudeTurn env turn).getStr "role" = some "user"
  ahead : ∀ k' turn', turns[k']? = some turn' → ∀ later ∈ turn', tool.2 < later.2 →
    isToolMessage later.1 = false → k < k' ∨ (k = k' ∧ isUserMessage later.1 = true)

def turnsOf (env : TranslationEnv) (messages : List (Value × Nat)) : List (List (Value × Nat)) :=
  Regroup.groups (fun m => isToolMessage m.1) (fun m => isUserMessage m.1)
    (messages.filter fun m => isConveyed env m.1)

theorem landsInTime {env : TranslationEnv} {messages : List (Value × Nat)}
    (hsorted : messages.Pairwise fun a b => a.2 < b.2) {tool : Value × Nat}
    (hmem : tool ∈ messages) (hconveyed : isConveyed env tool.1 = true)
    (htool : isToolMessage tool.1 = true) :
    ∃ k turn, LandsInTime env (turnsOf env messages) tool k turn := by
  have hflatten : (turnsOf env messages).flatten = messages.filter fun m => isConveyed env m.1 :=
    Regroup.flatten_groups _ _ _
  have hin : tool ∈ (turnsOf env messages).flatten := by
    rw [hflatten]
    exact List.mem_filter.mpr ⟨hmem, hconveyed⟩
  obtain ⟨turn, hturn, htoolTurn⟩ := List.mem_flatten.mp hin
  obtain ⟨k, hk, rfl⟩ := List.getElem_of_mem hturn
  have hgroup := Regroup.isGroup_of_mem hturn
  refine ⟨k, _, List.getElem?_eq_getElem hk, htoolTurn, ?_, ?_⟩
  · obtain ⟨last, hlast, hkind⟩ := hgroup.getLast htoolTurn htool
    have hrole : roleOf last.1 ≠ "assistant" := by
      intro hassistant
      rcases hkind with hkind | hkind
      · exact absurd ((of_decide_eq_true hkind).symm.trans hassistant) (by decide)
      · exact absurd ((of_decide_eq_true hkind).symm.trans hassistant) (by decide)
    unfold claudeTurn
    rw [role_claudeMessage, hlast, Option.any_some, decide_eq_false hrole]
    rfl
  · intro k' turn' hk' later hlater hlt hother
    have hle : k ≤ k' := Regroup.index_le (fun x y hxy hyx => Nat.lt_asymm hxy hyx)
      (hflatten ▸ hsorted.filter _) (List.getElem?_eq_getElem hk) hk' htoolTurn hlater hlt
    rcases Nat.lt_or_eq_of_le hle with hlt | rfl
    · exact .inl hlt
    · refine .inr ⟨rfl, ?_⟩
      rw [List.getElem?_eq_getElem hk] at hk'
      cases hk'
      exact hgroup.joins_of_mem htoolTurn htool hlater hother

theorem zipIdx_sorted (messages : List Value) :
    messages.zipIdx.Pairwise fun a b => a.2 < b.2 := by
  have hindices : (messages.zipIdx.map Prod.snd).Pairwise (· < ·) := by
    rw [List.zipIdx_map_snd]
    exact List.pairwise_lt_range'
  exact List.pairwise_map.mp hindices

theorem flatMap_blocks {env : TranslationEnv} {messages : List Value}
    {blocks : List (Option (List Value))}
    (h : List.Forall₂ (fun message b => openaiMessageToClaudeBlocks env message = .ok b) messages
      blocks) :
    messages.flatMap (claudeBlocksOf env) = blocks.flatMap fun b => b.getD [] := by
  induction h with
  | nil => rfl
  | cons hfirst _ ih => rw [List.flatMap_cons, List.flatMap_cons, ih, claudeBlocksOf_ok hfirst]

/-- `openai_to_claude` loses, repeats and reorders nothing of a conversation it takes. The blocks of
its messages are those of the messages that are no instructions, in their order; a result of a tool
is in a message of the user and in front of all that came later; the instructions are in `system`. -/
theorem openai_to_claude_conserves {env : TranslationEnv} {body result : Value}
    {targetModel : String} (h : openaiToClaude env body targetModel = .ok result) :
    ∃ messages conversation blocks turns systemBlocks,
      body.getArray "messages" = some messages ∧
      conversation = messages.filter (fun message => !isInstructionMessage message) ∧
      result.get "messages" = some (.array (turns.map (claudeTurn env))) ∧
      conversation.mapM (openaiMessageToClaudeBlocks env) = .ok blocks ∧
      (turns.map (claudeTurn env)).flatMap contentOf = blocks.flatMap (fun b => b.getD []) ∧
      turns.flatten = conversation.zipIdx.filter (fun m => isConveyed env m.1) ∧
      (∀ tool ∈ conversation.zipIdx, isToolMessage tool.1 = true →
        ∃ k turn, LandsInTime env turns tool k turn) ∧
      (messages.filter isInstructionMessage).mapM instructionBlocks = .ok systemBlocks ∧
      result.get "system" = nonempty systemBlocks.flatten := by
  obtain ⟨messages, systemBlocks, claudeMessages, controls, portableTools, outputConfig, hmessages,
    hsystem, hclaude, rfl⟩ := openaiToClaude_ok h
  unfold convertOpenaiMessages at hclaude
  generalize hconversation : messages.filter (fun message => !isInstructionMessage message) =
    conversation at hclaude
  obtain ⟨last, hrun, hlast⟩ := Result.bind_ok.mp hclaude
  cases hlast
  rw [← List.zipIdx_map_fst 0 conversation] at hrun
  have hinitial : Mirrors env {} {} := ⟨rfl, rfl, fun m hm => absurd hm List.not_mem_nil⟩
  obtain ⟨hok, hmirrors⟩ := hinitial.run hrun
  have hall : ∀ message ∈ conversation, ∃ b, openaiMessageToClaudeBlocks env message = .ok b := by
    intro message hmessage
    rw [← List.zipIdx_map_fst 0 conversation] at hmessage
    obtain ⟨m, hm, rfl⟩ := List.mem_map.mp hmessage
    exact hok m hm
  obtain ⟨blocks, hblocks⟩ := Result.exists_mapM hall
  have hflatten : (turnsOf env conversation.zipIdx).flatten =
      conversation.zipIdx.filter fun m => isConveyed env m.1 := Regroup.flatten_groups _ _ _
  refine ⟨messages, conversation, blocks, turnsOf env conversation.zipIdx, systemBlocks, hmessages,
    hconversation.symm, ?_, hblocks, ?_, hflatten, ?_, hsystem, get_claudeRequest_system⟩
  · rw [get_claudeRequest_messages, hmirrors.flush]
    rfl
  · rw [content_claudeTurns, hflatten, blocks_of_conveyed,
      ← flatMap_blocks (Result.mapM_ok hblocks)]
    conv => rhs; rw [← List.zipIdx_map_fst 0 conversation, List.flatMap_map]
  · intro tool htool hkind
    obtain ⟨b, hb⟩ := hok tool htool
    exact landsInTime (zipIdx_sorted conversation) htool (blocks_of_tool hkind hb).1 hkind

/-- A call, its result, and a message of the user behind it. -/
def toolConversation : Value :=
  .ofFields [("model", .string "claude-sonnet-4"), ("messages", .array
    [.ofFields [("role", .string "system"), ("content", .string "Be brief.")],
     .ofFields [("role", .string "user"), ("content", .string "Weather?")],
     .ofFields [("role", .string "tool"), ("tool_call_id", .string "call_1"),
       ("content", .string "sunny")],
     .ofFields [("role", .string "user"), ("content", .string "Thanks.")]])]

theorem tool_conversation_conserved :
    ∃ result, openaiToClaude .still toolConversation "claude-sonnet-4" = .ok result ∧
      ∃ messages conversation blocks turns systemBlocks,
      toolConversation.getArray "messages" = some messages ∧
      conversation = messages.filter (fun message => !isInstructionMessage message) ∧
      result.get "messages" = some (.array (turns.map (claudeTurn .still))) ∧
      conversation.mapM (openaiMessageToClaudeBlocks .still) = .ok blocks ∧
      (turns.map (claudeTurn .still)).flatMap contentOf = blocks.flatMap (fun b => b.getD []) ∧
      turns.flatten = conversation.zipIdx.filter (fun m => isConveyed .still m.1) ∧
      (∀ tool ∈ conversation.zipIdx, isToolMessage tool.1 = true →
        ∃ k turn, LandsInTime .still turns tool k turn) ∧
      (messages.filter isInstructionMessage).mapM instructionBlocks = .ok systemBlocks ∧
      result.get "system" = nonempty systemBlocks.flatten :=
  ⟨_, rfl, openai_to_claude_conserves rfl⟩

end LlmUniversalProxy.Translate
