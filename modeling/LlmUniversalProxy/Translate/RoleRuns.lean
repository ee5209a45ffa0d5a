import LlmUniversalProxy.Translate.RoleRepair
import Mathlib.Data.List.SplitBy

/-!
# `Translate.RoleRuns` — repaired messages are the runs of the old ones

The loop that joins messages works on the last message that it has put out, from left to right. What
comes out is simpler to say: the messages fall into runs, as long as they can be, of neighbours
under one role that are nothing but a role and a text, and every run becomes one message with its
texts, a blank line between them.
-/

set_option autoImplicit false

namespace LlmUniversalProxy.Translate

open Json Lib

def messageText (message : Value) : String := (message.getStr "content").getD ""

/-- A run as one message. A message on its own stays what it is. -/
def mergedRun : List Value → Value
  | [] => .null
  | [message] => message
  | first :: second :: rest =>
      first.set "content"
        (.string ("\n\n".intercalate ((first :: second :: rest).map messageText)))

/-- The runs of messages that can be joined. -/
def coalescibleRuns (messages : List Value) : List (List Value) :=
  messages.splitBy sameCoalescibleRole

/-! ## Messages that are a role and a text -/

theorem coalescible_iff {message : Value} {role : String} :
    openaiStringMessageRoleIfCoalescible message = some role ↔
      message.getStr "role" = some role ∧ (message.getStr "content").isSome = true ∧
        ∃ fields, message.asObject = some fields ∧
          ∀ field ∈ fields, field.1 = "role" ∨ field.1 = "content" := by
  unfold openaiStringMessageRoleIfCoalescible
  cases hrole : message.getStr "role" with
  | none => simp
  | some role' =>
    cases hcontent : message.getStr "content" with
    | none => simp
    | some content =>
      cases hfields : message.asObject with
      | none => simp
      | some fields => simp [and_comm]

theorem coalescible_setContent {message : Value} {role : String}
    (h : openaiStringMessageRoleIfCoalescible message = some role) (text : String) :
    openaiStringMessageRoleIfCoalescible (message.set "content" (.string text)) = some role := by
  obtain ⟨hrole, _, fields, hfields, hkeys⟩ := coalescible_iff.mp h
  cases message with
  | object _ =>
    cases hfields
    refine coalescible_iff.mpr ⟨?_, ?_, insertSorted "content" (.string text) fields, rfl, ?_⟩
    · rwa [Value.getStr_set_of_ne _ _ (by decide)]
    · unfold Value.getStr
      rw [Value.get_set_self rfl]
      rfl
    · intro field hmem
      rcases mem_insertSorted hmem with rfl | hmem
      · exact .inr rfl
      · exact hkeys field hmem
  | _ => cases hfields

theorem messageText_setContent {message : Value} (h : message.isObject = true) (text : String) :
    messageText (message.set "content" (.string text)) = text := by
  unfold messageText Value.getStr
  rw [Value.get_set_self h]
  rfl

theorem isObject_of_coalescible {message : Value} {role : String}
    (h : openaiStringMessageRoleIfCoalescible message = some role) : message.isObject = true := by
  obtain ⟨_, _, fields, hfields, _⟩ := coalescible_iff.mp h
  cases message with
  | object _ => rfl
  | _ => cases hfields

theorem sameCoalescibleRole_iff {left right : Value} :
    sameCoalescibleRole left right = true ↔ ∃ role,
      openaiStringMessageRoleIfCoalescible left = some role ∧
        openaiStringMessageRoleIfCoalescible right = some role := by
  unfold sameCoalescibleRole
  cases openaiStringMessageRoleIfCoalescible left with
  | none => simp
  | some role => simp

/-- Two messages under one role are joined, with a blank line between their texts. -/
theorem coalesced_same {previous message : Value} (h : sameCoalescibleRole previous message = true) :
    coalesced previous message = some (previous.set "content"
      (.string (messageText previous ++ "\n\n" ++ messageText message))) := by
  obtain ⟨role, hprevious, hmessage⟩ := sameCoalescibleRole_iff.mp h
  obtain ⟨_, hpreviousText, _⟩ := coalescible_iff.mp hprevious
  obtain ⟨_, hmessageText, _⟩ := coalescible_iff.mp hmessage
  obtain ⟨previousText, hpreviousText⟩ := Option.isSome_iff_exists.mp hpreviousText
  obtain ⟨text, hmessageText⟩ := Option.isSome_iff_exists.mp hmessageText
  unfold coalesced messageText
  rw [hmessage, hpreviousText, hmessageText]
  exact if_pos hprevious

/-! ## Runs -/

/-- A run of messages that can be joined. -/
def IsRun (run : List Value) : Prop := run.IsChain fun left right => sameCoalescibleRole left right

theorem IsRun.role_eq {first : Value} {rest : List Value} (h : IsRun (first :: rest)) :
    ∀ message ∈ rest, openaiStringMessageRoleIfCoalescible message =
        openaiStringMessageRoleIfCoalescible first ∧
      (openaiStringMessageRoleIfCoalescible first).isSome = true := by
  induction rest generalizing first with
  | nil => intro message hmem; cases hmem
  | cons second rest ih =>
    obtain ⟨hpair, hrest⟩ := List.isChain_cons_cons.mp h
    obtain ⟨role, hfirst, hsecond⟩ := sameCoalescibleRole_iff.mp hpair
    rw [hfirst]
    intro message hmem
    rcases List.mem_cons.mp hmem with rfl | hmem
    · exact ⟨hsecond, rfl⟩
    · rw [(ih hrest message hmem).1, hsecond]
      exact ⟨rfl, rfl⟩

theorem IsRun.role_getLast {first : Value} {rest : List Value} (h : IsRun (first :: rest)) :
    openaiStringMessageRoleIfCoalescible ((first :: rest).getLast (List.cons_ne_nil first rest)) =
      openaiStringMessageRoleIfCoalescible first := by
  rcases List.mem_cons.mp (List.getLast_mem (List.cons_ne_nil first rest)) with heq | hmem
  · rw [heq]
  · exact (h.role_eq _ hmem).1

theorem IsRun.role_first {first second : Value} {rest : List Value}
    (h : IsRun (first :: second :: rest)) :
    ∃ role, openaiStringMessageRoleIfCoalescible first = some role :=
  Option.isSome_iff_exists.mp (h.role_eq second List.mem_cons_self).2

theorem role_mergedRun {first : Value} {rest : List Value} (h : IsRun (first :: rest)) :
    openaiStringMessageRoleIfCoalescible (mergedRun (first :: rest)) =
      openaiStringMessageRoleIfCoalescible first := by
  cases rest with
  | nil => rfl
  | cons second rest =>
    obtain ⟨role, hrole⟩ := h.role_first
    rw [hrole]
    exact coalescible_setContent hrole _

theorem messageText_mergedRun {first : Value} {rest : List Value} (h : IsRun (first :: rest)) :
    messageText (mergedRun (first :: rest)) =
      "\n\n".intercalate ((first :: rest).map messageText) := by
  cases rest with
  | nil => exact String.intercalate_singleton.symm
  | cons second rest =>
    obtain ⟨role, hrole⟩ := h.role_first
    exact messageText_setContent (isObject_of_coalescible hrole) _

/-- One more message at the end of a run. -/
theorem mergedRun_snoc {first : Value} {rest : List Value} (h : IsRun (first :: rest))
    (message : Value) :
    (mergedRun (first :: rest)).set "content"
        (.string (messageText (mergedRun (first :: rest)) ++ "\n\n" ++ messageText message)) =
      mergedRun (first :: (rest ++ [message])) := by
  have htext : messageText (mergedRun (first :: rest)) ++ "\n\n" ++ messageText message =
      "\n\n".intercalate ((first :: (rest ++ [message])).map messageText) := by
    have hsnoc := String.intercalate_append_of_ne_nil (l := (first :: rest).map messageText)
      (m := [messageText message]) (s := "\n\n") (List.cons_ne_nil _ _) (List.cons_ne_nil _ _)
    rw [messageText_mergedRun h, ← List.cons_append, List.map_append, List.map_singleton, hsnoc,
      String.intercalate_singleton]
  rw [htext]
  cases rest with
  | nil => rfl
  | cons second rest => exact Value.set_set first _ _ "content"

/-- The loop behind a run that has been joined so far. -/
theorem coalesceFrom_runs {first : Value} (messages : List Value) :
    ∀ {rest : List Value}, IsRun (first :: rest) →
      coalesceFrom (mergedRun (first :: rest)) messages =
        (coalescibleRuns (first :: rest ++ messages)).map mergedRun := by
  induction messages generalizing first with
  | nil =>
    intro rest h
    rw [List.append_nil, coalescibleRuns, List.splitBy_of_isChain (List.cons_ne_nil first rest) h]
    rfl
  | cons message messages ih =>
    intro rest h
    have hlast : sameCoalescibleRole ((first :: rest).getLast (List.cons_ne_nil first rest)) message =
        sameCoalescibleRole (mergedRun (first :: rest)) message := by
      unfold sameCoalescibleRole
      rw [role_mergedRun h, h.role_getLast]
    cases hsame : sameCoalescibleRole (mergedRun (first :: rest)) message with
    | true =>
      have hrun : IsRun (first :: (rest ++ [message])) := by
        rw [← List.cons_append]
        refine List.isChain_append.mpr ⟨h, List.isChain_singleton message, ?_⟩
        rintro left hleft right ⟨⟩
        rw [List.getLast?_eq_getLast_of_ne_nil (List.cons_ne_nil first rest)] at hleft
        cases hleft
        rw [hlast, hsame]
      rw [coalesceFrom, coalesced_same hsame]
      show coalesceFrom _ messages = _
      rw [mergedRun_snoc h, ih hrun]
      simp
    | false =>
      rw [coalesceFrom, coalesced_none hsame]
      show mergedRun (first :: rest) :: coalesceFrom (mergedRun [message]) messages = _
      have hsplit : coalescibleRuns (first :: rest ++ message :: messages) =
          (first :: rest) :: coalescibleRuns (message :: messages) := by
        unfold coalescibleRuns
        rw [List.splitBy_append_cons, List.splitBy_of_isChain (List.cons_ne_nil first rest) h]
        · rfl
        · intro left hleft
          rw [List.getLast?_eq_getLast_of_ne_nil (List.cons_ne_nil first rest)] at hleft
          cases hleft
          rw [hlast, hsame]
      rw [ih (List.isChain_singleton message), hsplit]
      rfl

/-- What the loop puts out are the runs, each as one message. -/
theorem coalesceMessages_eq_runs (messages : List Value) :
    coalesceMessages messages = (coalescibleRuns messages).map mergedRun := by
  cases messages with
  | nil => rfl
  | cons first messages => exact coalesceFrom_runs messages (List.isChain_singleton first)

/-! ## What is left after a repair -/

theorem nonempty_run_of_mem {messages run : List Value} (h : run ∈ coalescibleRuns messages) :
    ∃ first rest, run = first :: rest ∧ IsRun (first :: rest) := by
  obtain ⟨first, rest, rfl⟩ := List.exists_cons_of_ne_nil (List.ne_nil_of_mem_splitBy h)
  exact ⟨first, rest, rfl, List.isChain_of_mem_splitBy h⟩

theorem single_or_coalescible {messages run : List Value} (h : run ∈ coalescibleRuns messages) :
    (∃ message, run = [message] ∧ mergedRun run = message) ∨
      ∃ role, (∀ message ∈ run, openaiStringMessageRoleIfCoalescible message = some role) ∧
        openaiStringMessageRoleIfCoalescible (mergedRun run) = some role ∧
        messageText (mergedRun run) = "\n\n".intercalate (run.map messageText) := by
  obtain ⟨first, rest, rfl, hrun⟩ := nonempty_run_of_mem h
  cases rest with
  | nil => exact .inl ⟨first, rfl, rfl⟩
  | cons second rest =>
    obtain ⟨role, hrole⟩ := hrun.role_first
    refine .inr ⟨role, ?_, (role_mergedRun hrun).trans hrole, messageText_mergedRun hrun⟩
    intro message hmem
    rcases List.mem_cons.mp hmem with rfl | hmem
    · exact hrole
    · exact (hrun.role_eq message hmem).1.trans hrole

/-- Two runs next to each other are not joined, or they would have been one. -/
theorem anyAdjacent_mergedRun {runs : List (List Value)}
    (hruns : ∀ run ∈ runs, ∃ first rest, run = first :: rest ∧ IsRun (first :: rest))
    (hchain : runs.IsChain fun left right =>
      ∃ hleft hright, sameCoalescibleRole (left.getLast hleft) (right.head hright) = false) :
    anyAdjacent sameCoalescibleRole (runs.map mergedRun) = false := by
  induction runs with
  | nil => rfl
  | cons left runs ih =>
    cases runs with
    | nil => rfl
    | cons right runs =>
      obtain ⟨⟨hleft, hright, hpair⟩, hrest⟩ := List.isChain_cons_cons.mp hchain
      obtain ⟨first, rest, rfl, hrun⟩ := hruns left List.mem_cons_self
      obtain ⟨first', rest', rfl, hrun'⟩ :=
        hruns right (List.mem_cons_of_mem _ List.mem_cons_self)
      refine Bool.or_eq_false_iff.mpr ⟨?_, ih (fun run hmem => hruns run
        (List.mem_cons_of_mem _ hmem)) hrest⟩
      unfold sameCoalescibleRole at hpair ⊢
      rw [hrun.role_getLast] at hpair
      rw [role_mergedRun hrun, role_mergedRun hrun']
      exact hpair

theorem getStr_role_mergedRun (first : Value) (rest : List Value) :
    (mergedRun (first :: rest)).getStr "role" = first.getStr "role" := by
  cases rest with
  | nil => rfl
  | cons second rest => exact Value.getStr_set_of_ne first _ (by decide)

def labelledText (role text : String) : String :=
  let label := if role = "developer" then "Developer instructions" else "System instructions"
  if text.isEmpty then label else s!"{label}:\n{text}"

theorem isObject_of_getStr {v : Value} {k text : String} (h : v.getStr k = some text) :
    v.isObject = true :=
  Value.isObject_of_get (Value.get_of_getStr h)

/-- An instruction becomes a message of the user; its text gets a label, and the rest stays. -/
theorem downgrade_instruction {message : Value} {role : String}
    (hrole : message.getStr "role" = some role) (h : isInstructionRole role = true) :
    (downgradeInstructionMessage message).getStr "role" = some "user" ∧
      (∀ text, (message.get "content").bind openaiInstructionContentAsText = some text →
        (downgradeInstructionMessage message).getStr "content" = some (labelledText role text)) ∧
      ((message.get "content").bind openaiInstructionContentAsText = none →
        (downgradeInstructionMessage message).get "content" = message.get "content") ∧
      ∀ key, key ≠ "role" → key ≠ "content" →
        (downgradeInstructionMessage message).get key = message.get key := by
  have hobject : message.isObject = true := isObject_of_getStr hrole
  have hdowngrade : downgradeInstructionMessage message =
      (annotateOpenaiInstructionMessage message role).set "role" (.string "user") := by
    unfold downgradeInstructionMessage
    rw [hrole]
    exact if_pos h
  rw [hdowngrade]
  unfold annotateOpenaiInstructionMessage
  cases hcontent : (message.get "content").bind openaiInstructionContentAsText with
  | none =>
    refine ⟨?_, fun text htext => (nomatch htext), fun _ => ?_, fun key hkey _ => ?_⟩
    · unfold Value.getStr
      rw [Value.get_set_self hobject]
      rfl
    · exact Value.get_set_of_ne _ _ (by decide)
    · exact Value.get_set_of_ne _ _ hkey
  | some text =>
    refine ⟨?_, fun text' htext => ?_, fun hnone => (nomatch hnone), fun key hkey hkey' => ?_⟩
    · unfold Value.getStr
      rw [Value.get_set_self (Value.isObject_set hobject _ _)]
      rfl
    · cases htext
      rw [Value.getStr_set_of_ne _ _ (by decide)]
      unfold Value.getStr
      rw [Value.get_set_self hobject]
      rfl
    · rw [Value.get_set_of_ne _ _ hkey, Value.get_set_of_ne _ _ hkey']

theorem role_downgraded (message : Value) {role : String}
    (h : (downgradeInstructionMessage message).getStr "role" = some role) :
    isInstructionRole role = false := by
  cases hrole : message.getStr "role" with
  | none =>
    rw [downgrade_eq_self (fun role' h' => by rw [hrole] at h'; cases h'), hrole] at h
    cases h
  | some before =>
    cases hinstruction : isInstructionRole before with
    | true =>
      rw [(downgrade_instruction hrole hinstruction).1] at h
      cases h
      rfl
    | false =>
      have hsame : downgradeInstructionMessage message = message := by
        refine downgrade_eq_self fun role' h' => ?_
        rw [hrole] at h'
        cases h'
        exact hinstruction
      rw [hsame, hrole] at h
      cases h
      exact hinstruction

def repairedMessages (messages : List Value) : List Value :=
  (coalescibleRuns (messages.map downgradeInstructionMessage)).map mergedRun

theorem getArray_repairs {body : Value} {messages : List Value}
    (h : body.getArray "messages" = some messages) :
    (applyOpenaiCompletionMaximumSafeRoleRepairs body).getArray "messages" =
      some (repairedMessages messages) := by
  unfold applyOpenaiCompletionMaximumSafeRoleRepairs coalesceOpenaiStringMessages
  rw [h]
  simp only [Value.getArray_modifyArray, h, Option.map_some, coalesceMessages_eq_runs]
  rfl

theorem repaired_no_instruction {messages : List Value} :
    ∀ message ∈ repairedMessages messages, ∀ role, message.getStr "role" = some role →
      isInstructionRole role = false := by
  intro message hmem role hrole
  obtain ⟨run, hrun, rfl⟩ := List.mem_map.mp hmem
  obtain ⟨first, rest, rfl, _⟩ := nonempty_run_of_mem hrun
  rw [getStr_role_mergedRun] at hrole
  have hfirst : first ∈ messages.map downgradeInstructionMessage := by
    rw [← List.flatten_splitBy sameCoalescibleRole (messages.map downgradeInstructionMessage)]
    exact List.mem_flatten.mpr ⟨_, hrun, List.mem_cons_self⟩
  obtain ⟨before, _, rfl⟩ := List.mem_map.mp hfirst
  exact role_downgraded before hrole

theorem repaired_no_pair (messages : List Value) :
    anyAdjacent sameCoalescibleRole (repairedMessages messages) = false :=
  anyAdjacent_mergedRun (fun _ hmem => nonempty_run_of_mem hmem)
    (List.isChain_getLast_head_splitBy _ _)

/-- A second repair finds nothing to do. -/
theorem repairs_idempotent (body : Value) :
    applyOpenaiCompletionMaximumSafeRoleRepairs (applyOpenaiCompletionMaximumSafeRoleRepairs body) =
      applyOpenaiCompletionMaximumSafeRoleRepairs body := by
  cases h : body.getArray "messages" with
  | none =>
    have hsame : applyOpenaiCompletionMaximumSafeRoleRepairs body = body := by
      unfold applyOpenaiCompletionMaximumSafeRoleRepairs
      rw [h]
    rw [hsame, hsame]
  | some messages =>
    refine repairs_eq_self ?_ ?_
    · intro repaired hrepaired
      rw [getArray_repairs h] at hrepaired
      cases hrepaired
      exact repaired_no_instruction
    · intro repaired hrepaired
      rw [getArray_repairs h] at hrepaired
      cases hrepaired
      exact repaired_no_pair messages

def standsAlone (message : Value) : Bool := (openaiStringMessageRoleIfCoalescible message).isNone

/-- The messages that cannot be joined are the same ones before and after. -/
theorem filter_standsAlone_repaired (messages : List Value) :
    (repairedMessages messages).filter standsAlone =
      (messages.map downgradeInstructionMessage).filter standsAlone := by
  have hrun : ∀ run ∈ coalescibleRuns (messages.map downgradeInstructionMessage),
      [mergedRun run].filter standsAlone = run.filter standsAlone := by
    intro run hmem
    rcases single_or_coalescible hmem with ⟨message, rfl, hmerged⟩ | ⟨role, hall, hmerged, _⟩
    · rw [hmerged]
    · have hnone : ∀ message, openaiStringMessageRoleIfCoalescible message = some role →
          ¬ standsAlone message = true := by
        intro message hrole
        unfold standsAlone
        rw [hrole]
        exact Bool.false_ne_true
      rw [List.filter_eq_nil_iff.mpr fun message hmem => hnone message (hall message hmem)]
      exact List.filter_cons_of_neg (hnone _ hmerged)
  calc (repairedMessages messages).filter standsAlone
      = ((coalescibleRuns (messages.map downgradeInstructionMessage)).flatMap
          fun run => [mergedRun run]).filter standsAlone := by
        unfold repairedMessages
        rw [List.map_eq_flatMap]
    _ = (coalescibleRuns (messages.map downgradeInstructionMessage)).flatMap
          fun run => run.filter standsAlone := by
        rw [List.filter_flatMap]
        exact List.flatMap_congr hrun
    _ = (coalescibleRuns (messages.map downgradeInstructionMessage)).flatten.filter standsAlone := by
        rw [← List.flatMap_id, List.filter_flatMap]
        rfl
    _ = (messages.map downgradeInstructionMessage).filter standsAlone := by
        rw [coalescibleRuns, List.flatten_splitBy]

/-- A repair changes nothing the second time, and leaves no instructions and no two neighbours that
could be joined. Its messages are the runs of the messages it was given, whose instructions carry
labels, each run one message with all of its texts; where a message cannot be joined it stays, and
between the same others. -/
theorem role_repairs_merge_runs {body : Value} {messages : List Value}
    (h : body.getArray "messages" = some messages) :
    applyOpenaiCompletionMaximumSafeRoleRepairs
        (applyOpenaiCompletionMaximumSafeRoleRepairs body) =
      applyOpenaiCompletionMaximumSafeRoleRepairs body ∧
    ∃ labelled repaired runs,
      (applyOpenaiCompletionMaximumSafeRoleRepairs body).getArray "messages" = some repaired ∧
      (∀ message ∈ repaired, ∀ role, message.getStr "role" = some role →
        isInstructionRole role = false) ∧
      anyAdjacent sameCoalescibleRole repaired = false ∧
      -- the instructions, relabelled one by one
      List.Forall₂ (fun before after =>
        ((∀ role, before.getStr "role" = some role → isInstructionRole role = false) →
          after = before) ∧
        ∀ role, before.getStr "role" = some role → isInstructionRole role = true →
          after.getStr "role" = some "user" ∧
          (∀ text, (before.get "content").bind openaiInstructionContentAsText = some text →
            after.getStr "content" = some (labelledText role text)) ∧
          ((before.get "content").bind openaiInstructionContentAsText = none →
            after.get "content" = before.get "content") ∧
          ∀ key, key ≠ "role" → key ≠ "content" → after.get key = before.get key)
        messages labelled ∧
      -- the runs, as long as they can be
      runs.flatten = labelled ∧ [] ∉ runs ∧
      (runs.IsChain fun left right =>
        ∃ hleft hright, sameCoalescibleRole (left.getLast hleft) (right.head hright) = false) ∧
      -- each of them as one message
      List.Forall₂ (fun run message => run = [message] ∨
        ∃ role, (∀ other ∈ run, openaiStringMessageRoleIfCoalescible other = some role) ∧
          openaiStringMessageRoleIfCoalescible message = some role ∧
          messageText message = "\n\n".intercalate (run.map messageText)) runs repaired ∧
      repaired.filter standsAlone = labelled.filter standsAlone := by
  refine ⟨repairs_idempotent body, messages.map downgradeInstructionMessage,
    repairedMessages messages, coalescibleRuns (messages.map downgradeInstructionMessage),
    getArray_repairs h, repaired_no_instruction, repaired_no_pair messages, ?_,
    List.flatten_splitBy _ _, List.nil_notMem_splitBy _ _,
    List.isChain_getLast_head_splitBy _ _, ?_, filter_standsAlone_repaired messages⟩
  · rw [List.forall₂_map_right_iff, List.forall₂_same]
    intro message _
    exact ⟨downgrade_eq_self, fun role hrole hinstruction =>
      downgrade_instruction hrole hinstruction⟩
  · unfold repairedMessages
    rw [List.forall₂_map_right_iff, List.forall₂_same]
    intro run hmem
    rcases single_or_coalescible hmem with ⟨message, rfl, hmerged⟩ | hjoined
    · exact .inl (congrArg (fun other => [other]) hmerged.symm)
    · exact .inr hjoined

/-- Two instructions, a message of the user and an answer with a name. -/
def mixedConversation : Value := .ofFields [("messages", .array
  [.ofFields [("role", .string "system"), ("content", .string "Be brief.")],
    .ofFields [("role", .string "developer"), ("content", .string "Be kind.")],
    .ofFields [("role", .string "user"), ("content", .string "Hello")],
    .ofFields [("role", .string "assistant"), ("content", .string "Hi"), ("name", .string "a")]])]

/-- The instructions are labelled and joined with the message of the user, the answer stays, and a
second repair finds nothing to do. -/
theorem mixed_conversation_repaired :
    applyOpenaiCompletionMaximumSafeRoleRepairs
        (applyOpenaiCompletionMaximumSafeRoleRepairs mixedConversation) =
      applyOpenaiCompletionMaximumSafeRoleRepairs mixedConversation ∧
    ∃ labelled repaired runs,
      (applyOpenaiCompletionMaximumSafeRoleRepairs mixedConversation).getArray "messages" =
        some repaired ∧
      (∀ message ∈ repaired, ∀ role, message.getStr "role" = some role →
        isInstructionRole role = false) ∧
      anyAdjacent sameCoalescibleRole repaired = false ∧
      labelled.length = 4 ∧ runs.flatten = labelled ∧
      List.Forall₂ (fun run message => run = [message] ∨
        ∃ role, (∀ other ∈ run, openaiStringMessageRoleIfCoalescible other = some role) ∧
          openaiStringMessageRoleIfCoalescible message = some role ∧
          messageText message = "\n\n".intercalate (run.map messageText)) runs repaired ∧
      repaired.filter standsAlone = labelled.filter standsAlone := by
  have hmessages : mixedConversation.getArray "messages" =
      some ((mixedConversation.getArray "messages").getD []) := by decide +kernel
  obtain ⟨hidempotent, labelled, repaired, runs, hrepaired, hroles, hpairs, hlabels, hflatten, -, -,
    hmerged, halone⟩ := role_repairs_merge_runs hmessages
  exact ⟨hidempotent, labelled, repaired, runs, hrepaired, hroles, hpairs, hlabels.length_eq.symm,
    hflatten, hmerged, halone⟩

/-- An instruction with a name cannot be joined, and does not stay what it is. -/
theorem named_instruction_changes :
    ¬ ∀ (body : Value) (messages repaired : List Value),
      body.getArray "messages" = some messages →
      (applyOpenaiCompletionMaximumSafeRoleRepairs body).getArray "messages" = some repaired →
      ∀ message ∈ messages, openaiStringMessageRoleIfCoalescible message = none →
        message ∈ repaired := by
  intro h
  have hbefore := h (.ofFields [("messages", .array [.ofFields [("role", .string "system"),
    ("content", .string "Be brief."), ("name", .string "a")]])]) _ _ rfl rfl _ List.mem_cons_self
    (by decide +kernel)
  revert hbefore
  decide +kernel

end LlmUniversalProxy.Translate
