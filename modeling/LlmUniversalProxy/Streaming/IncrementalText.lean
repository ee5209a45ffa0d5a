import LlmUniversalProxy.Streaming.Folded
import LlmUniversalProxy.Streaming.ResponsesSource
import LlmUniversalProxy.Streaming.Sink

/-!
# `Streaming.IncrementalText` — what a stream of texts adds up to

Some upstreams send the new text in every delta, others all text so far.
`normalize_openai_stream_text` (`streaming/openai_sink.rs` 75-118) guesses which it is, delta by
delta: one that is longer than all the text before it, and starts with it as far as a probe of 4096
bytes looks, is cut to what is new, and one that is exactly the text before it is dropped. For a
sender of the second kind the guess is always right. The comment there says that a sender of the
first kind never reaches the comparison; but the first deltas of a text are not shorter than what
came before them, and such a sender loses text when one of them happens to begin like it.

The refusal of a Responses upstream goes through the same guess (`streaming/responses_source.rs`
127-144), first piece by piece and then, with `response.refusal.done`, once more as a whole.
-/

set_option autoImplicit false

namespace LlmUniversalProxy.Streaming

open Json Lib

/-- The texts that a sequence of deltas is passed on as, and all that has been seen then. -/
def normalizeAll : List String → String → List String × String
  | [], seen => ([], seen)
  | delta :: deltas, seen =>
      let (new, seen) := normalizeOpenaiStreamText delta seen
      let (texts, seen) := normalizeAll deltas seen
      (new.toList ++ texts, seen)

/-! ## One delta -/

/-- A delta counts as a repetition of what has been seen, or as a longer form of it. -/
def TakesUp (seen delta : String) : Prop := delta = seen ∨ (cumulativeDelta delta seen).isSome = true

theorem cumulativeDelta_some {incoming seen more : String}
    (h : cumulativeDelta incoming seen = some more) :
    more ≠ "" ∧ incoming.utf8ByteSize = seen.utf8ByteSize + more.utf8ByteSize := by
  unfold cumulativeDelta at h
  dsimp only at h
  split at h
  · next hlonger =>
    obtain ⟨⟨before, behind⟩, hsplit, rfl⟩ := Option.map_eq_some_iff.mp h
    obtain ⟨rfl, hsize⟩ := Text.splitAtByte_some hsplit
    rw [String.utf8ByteSize_append, hsize] at hlonger ⊢
    refine ⟨?_, rfl⟩
    rintro rfl
    rw [String.utf8ByteSize_empty] at hlonger
    omega
  · cases h

/-- What goes on behind everything seen is the new text. -/
theorem cumulativeDelta_append (seen : String) {more : String} (h : more ≠ "") :
    cumulativeDelta (seen ++ more) seen = some more := by
  have hpos : 0 < more.utf8ByteSize := by
    refine Nat.pos_of_ne_zero fun hzero => h ?_
    exact String.utf8ByteSize_eq_zero_iff.mp hzero
  unfold cumulativeDelta
  dsimp only
  rw [if_pos ⟨by rw [String.utf8ByteSize_append]; omega,
    Text.take_bytesOf_append seen more (Nat.min_le_left _ _)⟩, Text.splitAtByte_append]
  rfl

/-- What is passed on is added to what has been seen. -/
theorem normalize_seen (delta seen : String) :
    (normalizeOpenaiStreamText delta seen).2 =
      seen ++ String.join (normalizeOpenaiStreamText delta seen).1.toList := by
  unfold normalizeOpenaiStreamText
  split
  · simp
  · dsimp only
    split
    · next hempty => simp [String.isEmpty_iff.mp hempty]
    · simp

theorem normalize_append (seen more : String) :
    normalizeOpenaiStreamText (seen ++ more) seen =
      (if more = "" then none else some more, seen ++ more) := by
  unfold normalizeOpenaiStreamText
  by_cases hmore : more = ""
  · simp [hmore]
  · have hne : seen ++ more ≠ seen := by
      intro heq
      have hsize := congrArg String.length heq
      rw [String.length_append] at hsize
      exact hmore (String.length_eq_zero_iff.mp (by omega))
    have hempty : (seen ++ more).isEmpty = false := by
      rw [← Bool.not_eq_true, String.isEmpty_iff, String.append_eq_empty_iff]
      exact fun h => hmore h.2
    simp [hempty, hne, cumulativeDelta_append seen hmore, hmore]

/-- A delta that takes nothing up is passed on as it is. -/
theorem normalize_new {seen delta : String} (hne : delta ≠ "") (h : ¬ TakesUp seen delta) :
    normalizeOpenaiStreamText delta seen = (some delta, seen ++ delta) := by
  have hsame : delta ≠ seen := fun heq => h (.inl heq)
  have hnone : cumulativeDelta delta seen = none :=
    Option.not_isSome_iff_eq_none.mp fun hsome => h (.inr hsome)
  simp [normalizeOpenaiStreamText, hne, hsame, hnone]

/-- Of a delta that takes something up, less is passed on. -/
theorem normalize_takesUp {seen delta : String} (hseen : seen ≠ "") (h : TakesUp seen delta) :
    (String.join (normalizeOpenaiStreamText delta seen).1.toList).utf8ByteSize <
      delta.utf8ByteSize := by
  have hpos : 0 < seen.utf8ByteSize :=
    Nat.pos_of_ne_zero fun hzero => hseen (String.utf8ByteSize_eq_zero_iff.mp hzero)
  rcases h with rfl | hsome
  · simpa [normalizeOpenaiStreamText] using hpos
  · obtain ⟨more, hmore⟩ := Option.isSome_iff_exists.mp hsome
    obtain ⟨hne, hsize⟩ := cumulativeDelta_some hmore
    have hdelta : delta ≠ "" ∧ delta ≠ seen := by
      constructor
      · rintro rfl
        rw [String.utf8ByteSize_empty] at hsize
        omega
      · rintro rfl
        have hnone : more.utf8ByteSize = 0 := by omega
        exact hne (String.utf8ByteSize_eq_zero_iff.mp hnone)
    simp only [normalizeOpenaiStreamText, String.isEmpty_iff, hdelta.1, hdelta.2, or_self, if_false,
      hmore, Option.getD_some, hne]
    simp only [Option.toList_some, String.join_cons, String.join_nil, String.append_empty]
    omega

theorem normalize_size (delta seen : String) :
    (String.join (normalizeOpenaiStreamText delta seen).1.toList).utf8ByteSize ≤
      delta.utf8ByteSize := by
  by_cases hempty : delta = ""
  · simp [normalizeOpenaiStreamText, hempty]
  by_cases hseen : seen = ""
  · have h := normalize_append "" delta
    rw [String.empty_append, if_neg hempty] at h
    simp [hseen, h]
  by_cases htakes : TakesUp seen delta
  · exact Nat.le_of_lt (normalize_takesUp hseen htakes)
  · simp [normalize_new hempty htakes]

/-! ## All deltas -/

theorem normalizeAll_cons (delta : String) (deltas : List String) (seen : String) :
    normalizeAll (delta :: deltas) seen =
      ((normalizeOpenaiStreamText delta seen).1.toList ++
        (normalizeAll deltas (normalizeOpenaiStreamText delta seen).2).1,
        (normalizeAll deltas (normalizeOpenaiStreamText delta seen).2).2) := rfl

theorem normalizeAll_seen (deltas : List String) (seen : String) :
    (normalizeAll deltas seen).2 = seen ++ String.join (normalizeAll deltas seen).1 := by
  induction deltas generalizing seen with
  | nil => simp [normalizeAll]
  | cons delta deltas ih =>
    rw [normalizeAll_cons]
    dsimp only
    rw [ih, normalize_seen, String.join_append, String.append_assoc]

theorem normalizeAll_size (deltas : List String) (seen : String) :
    (String.join (normalizeAll deltas seen).1).utf8ByteSize ≤ (String.join deltas).utf8ByteSize := by
  induction deltas generalizing seen with
  | nil => simp [normalizeAll]
  | cons delta deltas ih =>
    have hdelta := normalize_size delta seen
    have hdeltas := ih (normalizeOpenaiStreamText delta seen).2
    rw [normalizeAll_cons, String.join_append, String.join_cons, String.utf8ByteSize_append,
      String.utf8ByteSize_append]
    omega

/-- A sender that repeats all its text in every delta. -/
def IsCumulative (deltas : List String) : Prop :=
  deltas.IsChain fun delta next => ∃ more, next = delta ++ more

theorem normalizeAll_cumulative {seen : String} {deltas : List String}
    (h : IsCumulative (seen :: deltas)) :
    (normalizeAll deltas seen).2 = (seen :: deltas).getLast (List.cons_ne_nil _ _) := by
  induction deltas generalizing seen with
  | nil => rfl
  | cons delta deltas ih =>
    obtain ⟨⟨more, rfl⟩, hrest⟩ := List.isChain_cons_cons.mp h
    rw [normalizeAll_cons, normalize_append, List.getLast_cons_cons]
    exact ih hrest

/-- **Cumulative text goes out once**: what is passed on is what has been seen, and that is the
last delta when every delta repeats the one before it. -/
theorem cumulative_text_once (deltas : List String) :
    String.join (normalizeAll deltas "").1 = (normalizeAll deltas "").2 ∧
      (IsCumulative deltas → String.join (normalizeAll deltas "").1 = deltas.getLast?.getD "") := by
  have hseen := normalizeAll_seen deltas ""
  rw [String.empty_append] at hseen
  refine ⟨hseen.symm, ?_⟩
  intro hchain
  have hstart : IsCumulative ("" :: deltas) := by
    cases deltas with
    | nil => exact .singleton _
    | cons delta deltas => exact List.isChain_cons_cons.mpr ⟨⟨delta, by simp⟩, hchain⟩
  rw [← hseen, normalizeAll_cumulative hstart]
  cases deltas with
  | nil => rfl
  | cons delta deltas => simp [List.getLast?_eq_some_getLast]

/-! ## Incremental text -/

/-- No delta behind the first one repeats the text before it, or starts with it. -/
def NeverTakesUp (deltas : List String) : Prop :=
  ∀ before delta after, deltas = before ++ delta :: after → before ≠ [] →
    ¬ TakesUp (String.join before) delta

theorem normalizeAll_kept_iff {seen : String} (hseen : seen ≠ "") {deltas : List String}
    (hne : ∀ delta ∈ deltas, delta ≠ "") :
    String.join (normalizeAll deltas seen).1 = String.join deltas ↔
      ∀ before delta after, deltas = before ++ delta :: after →
        ¬ TakesUp (seen ++ String.join before) delta := by
  induction deltas generalizing seen with
  | nil => simp [normalizeAll]
  | cons delta deltas ih =>
    have hfirst := hne delta List.mem_cons_self
    rw [normalizeAll_cons, String.join_append, String.join_cons]
    by_cases htakes : TakesUp seen delta
    · -- Less than all of this delta is passed on, and the others cannot make up for it.
      have hlost := normalize_takesUp hseen htakes
      have hrest := normalizeAll_size deltas (normalizeOpenaiStreamText delta seen).2
      constructor
      · intro hsame
        have hsize := congrArg String.utf8ByteSize hsame
        rw [String.utf8ByteSize_append, String.utf8ByteSize_append] at hsize
        omega
      · intro hnever
        refine absurd ?_ (hnever [] delta deltas rfl)
        rw [String.join_nil, String.append_empty]
        exact htakes
    -- all of this delta is passed on, and the others meet what has been seen with it
    · have hseen : seen ++ delta ≠ "" := fun h => hfirst (String.append_eq_empty_iff.mp h).2
      have hkept := ih hseen fun other hother => hne other (List.mem_cons_of_mem _ hother)
      rw [normalize_new hfirst htakes]
      simp only [Option.toList_some, String.join_cons, String.join_nil, String.append_empty,
        String.append_right_inj]
      rw [hkept]
      constructor
      · intro hnever before other after hsplit
        cases before with
        | nil =>
          obtain ⟨rfl, rfl⟩ := List.cons.inj hsplit
          rw [String.join_nil, String.append_empty]
          exact htakes
        | cons head before =>
          obtain ⟨rfl, hrest⟩ := List.cons.inj hsplit
          rw [String.join_cons, ← String.append_assoc]
          exact hnever before other after hrest
      · intro hnever before other after hsplit
        have h := hnever (delta :: before) other after (by rw [hsplit]; rfl)
        rw [String.join_cons, ← String.append_assoc] at h
        exact h

/-- **No incremental text is lost** if and only if no delta takes up what came before it. -/
theorem incremental_text_kept_iff {deltas : List String} (hne : ∀ delta ∈ deltas, delta ≠ "") :
    String.join (normalizeAll deltas "").1 = String.join deltas ↔ NeverTakesUp deltas := by
  cases deltas with
  | nil => simp [normalizeAll, NeverTakesUp]
  | cons delta deltas =>
    have hfirst := hne delta List.mem_cons_self
    have hnormalize := normalize_append "" delta
    rw [String.empty_append, if_neg hfirst] at hnormalize
    rw [normalizeAll_cons, hnormalize, String.join_append, String.join_cons]
    simp only [Option.toList_some, String.join_cons, String.join_nil, String.append_empty,
      String.append_right_inj]
    rw [normalizeAll_kept_iff hfirst fun other hother => hne other (List.mem_cons_of_mem _ hother)]
    constructor
    · intro hnever before other after hsplit hbefore
      cases before with
      | nil => exact absurd rfl hbefore
      | cons head before =>
        obtain ⟨rfl, hrest⟩ := List.cons.inj hsplit
        rw [String.join_cons]
        exact hnever before other after hrest
    · intro hnever before other after hsplit
      rw [← String.join_cons]
      exact hnever (delta :: before) other after (by rw [hsplit]; rfl) (List.cons_ne_nil _ _)

theorem incremental_text_kept_iff_words :
    String.join (normalizeAll ["ha", "t"] "").1 = String.join ["ha", "t"] ↔
      NeverTakesUp ["ha", "t"] :=
  incremental_text_kept_iff (by decide)

/-- A word said twice is passed on once. -/
theorem repeated_word_is_lost :
    ¬ ∀ deltas : List String, (∀ delta ∈ deltas, delta ≠ "") →
      String.join (normalizeAll deltas "").1 = String.join deltas := by
  intro hkept
  exact absurd (hkept ["ha", "ha"] (by decide)) (by decide +kernel)

/-! ## Refusals of a Responses upstream -/

/-- A piece of a refusal, and the event that repeats the refusal as a whole. -/
def IsRefusalDelta (event : Value) (piece : String) : Prop :=
  event.getStr "type" = some "response.refusal.delta" ∧ event.getStr "delta" = some piece

def IsRefusalDone (event : Value) (refusal : String) : Prop :=
  event.getStr "type" = some "response.refusal.done" ∧ event.getStr "refusal" = some refusal

section

variable (env : Env)

theorem folds_pushText_refusal (text : Option String) (s : StreamState) (f : Folded) :
    (pushText env "refusal" text s).folds f =
      { f with refusal := f.refusal ++ String.join text.toList } := by
  unfold pushText
  cases text with
  | none => simp
  | some text =>
    by_cases hempty : text = ""
    · simp [hempty, Option.filter_some]
    · simp [hempty, Option.filter_some, Folded.feedDelta, Value.getStr, Value.getArray,
        List.lookup_cons]

theorem foldEvent_refusal {event : Value} {text : String}
    (h : IsRefusalDelta event text ∨ IsRefusalDone event text) (p : StreamState × Folded) :
    (foldEvent (responsesEventToOpenaiChunks env) p event).1.openaiSeenRefusal =
        (normalizeOpenaiStreamText text p.1.openaiSeenRefusal).2 ∧
      (foldEvent (responsesEventToOpenaiChunks env) p event).2.refusal = p.2.refusal ++
        String.join (normalizeOpenaiStreamText text p.1.openaiSeenRefusal).1.toList := by
  have hstep : responsesEventToOpenaiChunks env event p.1 = refusalEvent env (some text) p.1 := by
    unfold responsesEventToOpenaiChunks
    rcases h with ⟨htype, htext⟩ | ⟨htype, htext⟩
    · simp [htype, htext, Text.startsWith]
    · simp [htype, htext, Text.startsWith]
  unfold foldEvent
  rw [hstep]
  have hfolds := folds_pushText_refusal env
    (normalizeOpenaiStreamText text p.1.openaiSeenRefusal).1
    { p.1 with openaiSeenRefusal := (normalizeOpenaiStreamText text p.1.openaiSeenRefusal).2 } p.2
  constructor
  · show (pushText env "refusal" _ _).state.openaiSeenRefusal = _
    unfold pushText
    split
    · rfl
    · rfl
  · exact congrArg Folded.refusal hfolds

theorem foldEvents_refusal {events : List Value} {pieces : List String}
    (h : List.Forall₂ IsRefusalDelta events pieces) (p : StreamState × Folded) :
    (foldEvents (responsesEventToOpenaiChunks env) events p).1.openaiSeenRefusal =
        (normalizeAll pieces p.1.openaiSeenRefusal).2 ∧
      (foldEvents (responsesEventToOpenaiChunks env) events p).2.refusal =
        p.2.refusal ++ String.join (normalizeAll pieces p.1.openaiSeenRefusal).1 := by
  induction h generalizing p with
  | nil => simp [normalizeAll]
  | cons hevent _ ih =>
    obtain ⟨hseen, hrefusal⟩ := foldEvent_refusal env (.inl hevent) p
    obtain ⟨hseen', hrefusal'⟩ := ih (foldEvent (responsesEventToOpenaiChunks env) p _)
    rw [foldEvents_cons, hseen', hrefusal', hseen, hrefusal, normalizeAll_cons, String.join_append,
      String.append_assoc]
    exact ⟨rfl, rfl⟩

/-- **A streamed refusal.** Its pieces alone add up to it if and only if none of them takes up what
came before it. Then it is reproduced: the text that comes with its end adds nothing. -/
theorem refusal_reproduced_of_neverTakesUp {s : StreamState} {f : Folded} {refusal : String}
    {pieces : List String} {events : List Value} {done : Value}
    (hseen : s.openaiSeenRefusal = "") (hnew : f.refusal = "")
    (hne : ∀ piece ∈ pieces, piece ≠ "") (hpieces : String.join pieces = refusal)
    (hevents : List.Forall₂ IsRefusalDelta events pieces) (hdone : IsRefusalDone done refusal) :
    ((foldEvents (responsesEventToOpenaiChunks env) events (s, f)).2.refusal = refusal ↔
      NeverTakesUp pieces) ∧
    (NeverTakesUp pieces →
      (foldEvents (responsesEventToOpenaiChunks env) (events ++ [done]) (s, f)).2.refusal =
        refusal) := by
  obtain ⟨hseen', hrefusal⟩ := foldEvents_refusal env hevents (s, f)
  rw [hseen] at hseen' hrefusal
  rw [hnew, String.empty_append] at hrefusal
  have hpassed := normalizeAll_seen pieces ""
  rw [String.empty_append] at hpassed
  have hiff : (foldEvents (responsesEventToOpenaiChunks env) events (s, f)).2.refusal = refusal ↔
      NeverTakesUp pieces := by
    rw [hrefusal, ← hpieces]
    exact incremental_text_kept_iff hne
  refine ⟨hiff, ?_⟩
  intro hnever
  have hall := hiff.mpr hnever
  obtain ⟨_, hlast⟩ := foldEvent_refusal env (.inr hdone)
    (foldEvents (responsesEventToOpenaiChunks env) events (s, f))
  rw [foldEvents_append, foldEvents_cons, foldEvents_nil, hlast, hall, hseen', hpassed, ← hrefusal,
    hall]
  simp [normalizeOpenaiStreamText]

end

def refusalDelta (piece : String) : Value :=
  .ofFields [("type", .string "response.refusal.delta"), ("delta", .string piece)]

def refusalDone (refusal : String) : Value :=
  .ofFields [("type", .string "response.refusal.done"), ("refusal", .string refusal)]

theorem refusalDelta_isDelta (piece : String) : IsRefusalDelta (refusalDelta piece) piece :=
  ⟨Value.getStr_ofFields _ _, Value.getStr_ofFields _ _⟩

theorem refusalDone_isDone (refusal : String) : IsRefusalDone (refusalDone refusal) refusal :=
  ⟨Value.getStr_ofFields _ _, Value.getStr_ofFields _ _⟩

theorem refusal_reproduced_of_neverTakesUp_no :
    NeverTakesUp ["No", "t this", "."] ∧
      (foldEvents (responsesEventToOpenaiChunks .still)
        ([refusalDelta "No", refusalDelta "t this", refusalDelta "."] ++ [refusalDone "Not this."])
        ({}, {})).2.refusal = "Not this." := by
  obtain ⟨hiff, hreproduced⟩ := refusal_reproduced_of_neverTakesUp .still (s := {}) (f := {}) rfl rfl
    (by decide : ∀ piece ∈ ["No", "t this", "."], piece ≠ "") (by decide)
    (.cons (refusalDelta_isDelta "No") (.cons (refusalDelta_isDelta "t this")
      (.cons (refusalDelta_isDelta ".") .nil)))
    (refusalDone_isDone "Not this.")
  have hnever := hiff.mp (by decide +kernel)
  exact ⟨hnever, hreproduced hnever⟩

/-- The second piece starts with the first one: of `I` and `I'm` only `I'm` is passed on, and then
the whole refusal once more. -/
theorem stuttered_refusal_is_doubled :
    ∃ (refusal : String) (pieces : List String) (events : List Value) (done : Value),
      (∀ piece ∈ pieces, piece ≠ "") ∧ String.join pieces = refusal ∧
      List.Forall₂ IsRefusalDelta events pieces ∧ IsRefusalDone done refusal ∧
      (foldEvents (responsesEventToOpenaiChunks .still) (events ++ [done]) ({}, {})).2.refusal ≠
        refusal := by
  refine ⟨"II'm", ["I", "I'm"], [refusalDelta "I", refusalDelta "I'm"], refusalDone "II'm",
    by decide, by decide, .cons (refusalDelta_isDelta _) (.cons (refusalDelta_isDelta _) .nil),
    refusalDone_isDone _, ?_⟩
  decide +kernel

end LlmUniversalProxy.Streaming
