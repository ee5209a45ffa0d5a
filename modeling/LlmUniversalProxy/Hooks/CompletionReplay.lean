import LlmUniversalProxy.Hooks.Rendering
import LlmUniversalProxy.Lib.Interleaved
import Mathlib.Data.List.Range

/-!
# `Hooks.CompletionReplay` — a Chat completion, put together again

The texts of the chunks go one behind the other, and the pieces of a call to the entry with its
index. The entries listen to all calls at once, so each call comes out as if it had been told alone.
A call always comes out as one of a function, and the reasoning is not taken.
-/

set_option autoImplicit false

namespace LlmUniversalProxy.Hooks

open Json Lib Translate
open OpenAiChatCompletionsAccumulator (toolCallValue)

/-! ## The entries -/

/-- Entries in the order of their indices, as a `BTreeMap` has them. -/
def InOrder (entries : List (Nat × OpenAiToolCallAccumulator)) : Prop :=
  entries.Pairwise fun a b => a.1 < b.1

theorem mem_keys_updateEntry {index k : Nat}
    {f : OpenAiToolCallAccumulator → OpenAiToolCallAccumulator}
    {entries : List (Nat × OpenAiToolCallAccumulator)} :
    k ∈ (updateEntry index f entries).map Prod.fst ↔ k = index ∨ k ∈ entries.map Prod.fst := by
  induction entries with
  | nil => simp [updateEntry]
  | cons entry rest ih =>
    obtain ⟨other, call⟩ := entry
    unfold updateEntry
    split
    · next heq => simp [heq]
    · split
      · simp
      · rw [List.map_cons, List.mem_cons, ih, List.map_cons, List.mem_cons, or_left_comm]

theorem inOrder_updateEntry {index : Nat}
    {f : OpenAiToolCallAccumulator → OpenAiToolCallAccumulator}
    {entries : List (Nat × OpenAiToolCallAccumulator)} (h : InOrder entries) :
    InOrder (updateEntry index f entries) := by
  induction entries with
  | nil => exact List.pairwise_singleton _ _
  | cons entry rest ih =>
    obtain ⟨other, call⟩ := entry
    obtain ⟨hfirst, hrest⟩ := List.pairwise_cons.mp h
    unfold updateEntry
    split
    · next heq =>
      subst heq
      exact List.pairwise_cons.mpr ⟨hfirst, hrest⟩
    · next hne =>
      split
      · next hlt =>
        refine List.pairwise_cons.mpr ⟨?_, h⟩
        intro later hlater
        rcases List.mem_cons.mp hlater with rfl | hlater
        · exact hlt
        · exact Nat.lt_trans hlt (hfirst later hlater)
      · next hnot =>
        refine List.pairwise_cons.mpr ⟨?_, ih hrest⟩
        intro later hlater
        rcases mem_keys_updateEntry.mp (List.mem_map_of_mem hlater) with heq | hmem
        · show other < later.1
          omega
        · obtain ⟨old, hold, heq⟩ := List.mem_map.mp hmem
          exact heq ▸ hfirst old hold

theorem lookup_of_lt {index : Nat} {entries : List (Nat × OpenAiToolCallAccumulator)}
    (h : ∀ entry ∈ entries, index < entry.1) : entries.lookup index = none := by
  rw [List.lookup_eq_none_iff]
  intro entry hentry
  exact bne_iff_ne.mpr (Nat.ne_of_lt (h entry hentry))

theorem lookup_updateEntry {index : Nat}
    {f : OpenAiToolCallAccumulator → OpenAiToolCallAccumulator}
    {entries : List (Nat × OpenAiToolCallAccumulator)} (h : InOrder entries) (k : Nat) :
    (updateEntry index f entries).lookup k =
      if k = index then some (f ((entries.lookup index).getD {})) else entries.lookup k := by
  induction entries with
  | nil =>
    by_cases hk : k = index
    · simp [updateEntry, hk]
    · simp [updateEntry, hk, List.lookup_cons, beq_eq_false_iff_ne.mpr hk]
  | cons entry rest ih =>
    obtain ⟨other, call⟩ := entry
    obtain ⟨hfirst, hrest⟩ := List.pairwise_cons.mp h
    unfold updateEntry
    split
    · next heq =>
      subst heq
      by_cases hk : k = index
      · simp [hk]
      · simp [hk, List.lookup_cons, beq_eq_false_iff_ne.mpr hk]
    · next hne =>
      split
      · next hlt =>
        have hnone : List.lookup index ((other, call) :: rest) = none := by
          refine lookup_of_lt fun entry hentry => ?_
          rcases List.mem_cons.mp hentry with rfl | hentry
          · exact hlt
          · exact Nat.lt_trans hlt (hfirst entry hentry)
        rw [hnone]
        by_cases hk : k = index
        · simp [hk]
        · rw [List.lookup_cons, beq_eq_false_iff_ne.mpr hk, if_neg hk]
      · by_cases hother : k = other
        · subst hother
          rw [if_neg (Ne.symm hne)]
          simp
        · rw [List.lookup_cons, beq_eq_false_iff_ne.mpr hother]
          dsimp only
          rw [ih hrest, List.lookup_cons, beq_eq_false_iff_ne.mpr hne, List.lookup_cons,
            beq_eq_false_iff_ne.mpr hother]

/-- The entry of an index; one that is not there yet is empty. -/
def entryOf (entries : List (Nat × OpenAiToolCallAccumulator)) (index : Nat) :
    OpenAiToolCallAccumulator := (entries.lookup index).getD {}

def takePiece (entries : List (Nat × OpenAiToolCallAccumulator)) (piece : Value) :
    List (Nat × OpenAiToolCallAccumulator) :=
  updateEntry ((piece.getU64 "index").getD 0) (·.take piece) entries

/-- The entries listen to the pieces of calls: a piece changes the entry of its index, and no other.
-/
def entryListener : Listener {entries // InOrder entries} Value Nat OpenAiToolCallAccumulator where
  step entries piece := some ⟨takePiece entries.1 piece, inOrder_updateEntry entries.2⟩
  key piece := some ((piece.getU64 "index").getD 0)
  slot entries := entryOf entries.1
  change entry piece := some (entry.take piece)
  keyless _ _ h := nomatch h
  keyed entries piece index entry hkey hchange := by
    refine ⟨_, rfl, funext fun other => ?_⟩
    cases hkey
    cases hchange
    show (List.lookup other (takePiece entries.1 piece)).getD {} = _
    unfold takePiece
    rw [lookup_updateEntry entries.2]
    by_cases hother : other = (piece.getU64 "index").getD 0
    · rw [if_pos hother, hother, Function.update_self]
      rfl
    · rw [if_neg hother, Function.update_of_ne hother]
      rfl

/-- Entries are known by their indices, and by what is found there. -/
theorem entries_eq {entries : List (Nat × OpenAiToolCallAccumulator)} (h : InOrder entries) :
    entries = (entries.map Prod.fst).map fun index => (index, entryOf entries index) := by
  rw [List.map_map]
  refine (List.map_id entries).symm.trans (List.map_congr_left fun entry hentry => ?_)
  suffices hlookup : entries.lookup entry.1 = some entry.2 by
    show entry = (entry.1, entryOf entries entry.1)
    unfold entryOf
    rw [hlookup]
    rfl
  induction entries with
  | nil => cases hentry
  | cons first rest ih =>
    obtain ⟨index, call⟩ := first
    obtain ⟨hfirst, hrest⟩ := List.pairwise_cons.mp h
    rcases List.mem_cons.mp hentry with rfl | hlater
    · exact List.lookup_cons_self
    · have hne : entry.1 ≠ index := Nat.ne_of_gt (hfirst entry hlater)
      rw [List.lookup_cons, beq_eq_false_iff_ne.mpr hne]
      exact ih hrest hlater

/-- Indices in order, with none left out, are the first ones. -/
theorem keys_eq_range {entries : List (Nat × OpenAiToolCallAccumulator)} (h : InOrder entries)
    {n : Nat} (hkeys : ∀ k, k ∈ entries.map Prod.fst ↔ k < n) :
    entries.map Prod.fst = List.range n := by
  have hsorted : (entries.map Prod.fst).Pairwise (· < ·) := List.pairwise_map.mpr h
  refine List.Perm.eq_of_pairwise (fun a b _ _ hab hba => absurd hab (Nat.lt_asymm hba)) hsorted
    List.pairwise_lt_range ?_
  rw [List.perm_ext_iff_of_nodup (hsorted.imp Nat.ne_of_lt) List.nodup_range]
  intro k
  rw [hkeys, List.mem_range]

theorem mem_keys_takePieces {k : Nat} (pieces : List Value) :
    ∀ entries, k ∈ (pieces.foldl takePiece entries).map Prod.fst ↔
      k ∈ entries.map Prod.fst ∨ ∃ piece ∈ pieces, (piece.getU64 "index").getD 0 = k := by
  induction pieces with
  | nil => simp
  | cons piece pieces ih =>
    intro entries
    rw [List.foldl_cons, ih]
    unfold takePiece
    rw [mem_keys_updateEntry]
    simp only [List.mem_cons, exists_eq_or_imp]
    rw [eq_comm, or_assoc, or_left_comm]

/-! ## The calls -/

theorem take_pieces (pieces : List Value) : ∀ entry : OpenAiToolCallAccumulator,
    pieces.foldl OpenAiToolCallAccumulator.take entry =
      { id := (pieces.filterMap (Value.getStr · "id")).getLast?.or entry.id
        name := (pieces.filterMap (functionField · "name")).getLast?.getD entry.name
        arguments := entry.arguments ++
          String.join (pieces.map fun piece => (functionField piece "arguments").getD "") } := by
  induction pieces with
  | nil =>
    intro entry
    rw [List.map_nil, String.join_nil, String.append_empty]
    rfl
  | cons piece pieces ih =>
    intro entry
    have hname := getLast?_filterMap_cons (functionField · "name") piece pieces none
    rw [Option.or_none, Option.or_none] at hname
    rw [List.foldl_cons, ih, getLast?_filterMap_cons, hname, Option.getD_or, List.map_cons,
      String.join_cons, ← String.append_assoc]
    rfl

/-- The entry has what a call says. -/
structure EntryHolds (entry : OpenAiToolCallAccumulator) (call : Value) : Prop where
  id : entry.id = call.getStr "id"
  name : entry.name = (functionField call "name").getD ""
  arguments : entry.arguments = (functionField call "arguments").getD ""

theorem foldlM_entries (pieces : List Value) : ∀ entries : {entries // InOrder entries},
    ∃ h, pieces.foldlM entryListener.step entries =
      some ⟨pieces.foldl takePiece entries.1, h⟩ := by
  induction pieces with
  | nil => exact fun entries => ⟨entries.2, rfl⟩
  | cons piece pieces ih =>
    intro entries
    exact ih ⟨takePiece entries.1 piece, inOrder_updateEntry entries.2⟩

/-- **The calls come out in their order, and each of them as it was told.** -/
theorem entries_told {calls pieces : List Value} (h : TellsCalls calls pieces) :
    ∃ entry : Nat → OpenAiToolCallAccumulator,
      pieces.foldl takePiece [] = (List.range calls.length).map (fun index => (index, entry index)) ∧
      ∀ index call, calls[index]? = some call → EntryHolds (entry index) call := by
  have habout : ∀ index, entryListener.about index pieces =
      pieces.filter fun piece => piece.getU64 "index" = some index := by
    intro index
    refine List.filter_congr fun piece hpiece => ?_
    obtain ⟨other, _, hother⟩ := h.indexed piece hpiece
    show decide (some ((piece.getU64 "index").getD 0) = some index) = _
    rw [hother]
    rfl
  have halone : ∀ index, (entryListener.about index pieces).foldlM entryListener.change
      (entryListener.slot ⟨[], List.Pairwise.nil⟩ index) =
        some ((entryListener.about index pieces).foldl OpenAiToolCallAccumulator.take {}) :=
    fun index => List.foldlM_pure
  obtain ⟨final, hfinal, hslots⟩ := entryListener.run halone
  obtain ⟨horder, hfold⟩ := foldlM_entries pieces ⟨[], List.Pairwise.nil⟩
  rw [hfold] at hfinal
  cases hfinal
  have hkeys : (pieces.foldl takePiece []).map Prod.fst = List.range calls.length := by
    refine keys_eq_range horder fun k => ?_
    rw [mem_keys_takePieces]
    constructor
    · rintro (hnil | ⟨piece, hpiece, rfl⟩)
      · cases hnil
      · obtain ⟨index, hlt, hindex⟩ := h.indexed piece hpiece
        rw [hindex]
        exact hlt
    · intro hlt
      obtain ⟨piece, hpiece⟩ := List.exists_mem_of_ne_nil _
        (h.each k _ (List.getElem?_eq_getElem hlt)).told
      obtain ⟨hpiece, hindex⟩ := List.mem_filter.mp hpiece
      exact .inr ⟨piece, hpiece, by rw [of_decide_eq_true hindex]; rfl⟩
  refine ⟨entryOf (pieces.foldl takePiece []), ?_, ?_⟩
  · exact hkeys ▸ entries_eq horder
  · intro index call hcall
    have htold := h.each index call hcall
    have hentry : entryOf (pieces.foldl takePiece []) index = _ := congrFun hslots index
    rw [hentry, habout, take_pieces]
    refine ⟨?_, htold.name.symm, ?_⟩
    · rw [Option.or_none, htold.id]
    · rw [String.empty_append, htold.arguments]

/-- A note about a call leaves what it says alone. -/
theorem get_marked {env : Env} {call : Value} {k : String} (hk : k ≠ nonReplayableToolCallField) :
    (markToolCallAsNonReplayable env call).get k = call.get k := by
  unfold markToolCallAsNonReplayable
  dsimp only
  split
  · exact Value.get_set_of_ne _ _ hk
  · rfl

theorem toolCallValue_fields (index : Nat) (entry : OpenAiToolCallAccumulator) :
    (toolCallValue (index, entry)).getStr "id" = entry.id ∧
      (toolCallValue (index, entry)).getStr "type" = some "function" ∧
      functionField (toolCallValue (index, entry)) "name" = some entry.name ∧
      functionField (toolCallValue (index, entry)) "arguments" = some entry.arguments := by
  unfold toolCallValue functionField
  rw [Value.getStr_ofFields, Value.getStr_ofFields, Value.get_ofFields]
  refine ⟨?_, rfl, ?_, ?_⟩
  · cases entry.id <;> rfl
  · exact Value.getStr_ofFields _ _
  · exact Value.getStr_ofFields _ _

/-- A call comes out as it is just when it is one of a function. -/
theorem sameCall_iff {entry : OpenAiToolCallAccumulator} {call other : Value} {index : Nat}
    (h : EntryHolds entry call)
    (hother : ∀ k ∈ ["id", "type", "function"], other.get k = (toolCallValue (index, entry)).get k) :
    SameCall other call ↔ call.getStr "type" = some "function" := by
  obtain ⟨hid, hkind, hname, harguments⟩ := toolCallValue_fields index entry
  have hotherKind : other.getStr "type" = some "function" := by
    unfold Value.getStr
    rw [hother _ (by simp)]
    exact hkind
  have hfunction : ∀ k, functionField other k =
      functionField (toolCallValue (index, entry)) k := by
    intro k
    unfold functionField
    rw [hother _ (by simp)]
  constructor
  · intro hsame
    rw [← hsame.kind, hotherKind]
  · intro htype
    refine ⟨?_, by rw [hotherKind, htype], ?_, ?_⟩
    · unfold Value.getStr
      rw [hother _ (by simp)]
      exact hid.trans h.id
    · rw [hfunction, hname, ← h.name]
      rfl
    · rw [hfunction, harguments, ← h.arguments]
      rfl

/-! ## The chunks -/

def deltaPieces (delta : Value) : List Value := (delta.getArray "tool_calls").getD []

/-- What an accumulator has behind these chunks. -/
structure Collects (before after : OpenAiChatCompletionsAccumulator) (chunks : List Value) :
    Prop where
  content : after.content =
    before.content ++ String.join ((chunkDeltas chunks).map (saidText · "content"))
  finishReason : after.finishReason = ((chunks.filterMap choiceOf).filterMap
    (Value.getStr · "finish_reason")).getLast?.or before.finishReason
  usage : after.usage = (chunks.filterMap (Value.get · "usage")).getLast?.or before.usage
  toolCalls : after.toolCalls =
    ((chunkDeltas chunks).flatMap deltaPieces).foldl takePiece before.toolCalls

theorem Collects.refl (self : OpenAiChatCompletionsAccumulator) : Collects self self [] :=
  ⟨(String.append_empty).symm, rfl, rfl, rfl⟩

/-- Chunks that are taken one after the other. -/
theorem Collects.trans {first second third : OpenAiChatCompletionsAccumulator} {chunk : Value}
    {chunks : List Value} (h : Collects first second [chunk]) (hrest : Collects second third chunks) :
    Collects first third (chunk :: chunks) := by
  have hdeltas : chunkDeltas (chunk :: chunks) = chunkDeltas [chunk] ++ chunkDeltas chunks := by
    unfold chunkDeltas
    rw [← List.map_append, ← List.filterMap_append]
    rfl
  have hchoices : (chunk :: chunks).filterMap choiceOf =
      [chunk].filterMap choiceOf ++ chunks.filterMap choiceOf := by
    rw [← List.filterMap_append]
    rfl
  have husages : (chunk :: chunks).filterMap (Value.get · "usage") =
      [chunk].filterMap (Value.get · "usage") ++ chunks.filterMap (Value.get · "usage") := by
    rw [← List.filterMap_append]
    rfl
  refine ⟨?_, ?_, ?_, ?_⟩
  · rw [hdeltas, List.map_append, String.join_append, ← String.append_assoc, ← h.content,
      hrest.content]
  · rw [hchoices, List.filterMap_append, List.getLast?_append, Option.or_assoc, ← h.finishReason,
      hrest.finishReason]
  · rw [husages, List.getLast?_append, Option.or_assoc, ← h.usage, hrest.usage]
  · rw [hdeltas, List.flatMap_append, List.foldl_append, ← h.toolCalls, hrest.toolCalls]

theorem Collects.chunk (self : OpenAiChatCompletionsAccumulator) {event : Value}
    (hdone : isDone event = false) : Collects self (self.onEvent event true) [event] := by
  unfold OpenAiChatCompletionsAccumulator.onEvent
  rw [hdone, if_neg Bool.false_ne_true]
  dsimp only
  have husage : (self.takeChunk event true).usage =
      ([event].filterMap (Value.get · "usage")).getLast?.or self.usage := by
    unfold OpenAiChatCompletionsAccumulator.takeChunk
    cases husage : event.get "usage" <;> simp [husage]
  cases hchoice : (event.getArray "choices").bind List.head? with
  | none =>
    have hnone : choiceOf event = none := hchoice
    have hdeltas : chunkDeltas [event] = [] := by simp [chunkDeltas, hnone]
    refine ⟨?_, ?_, husage, ?_⟩
    · rw [hdeltas, List.map_nil, String.join_nil, String.append_empty]
      rfl
    · simp [hnone]
      rfl
    · rw [hdeltas]
      rfl
  | some choice =>
    have hsome : choiceOf event = some choice := hchoice
    have hdeltas : chunkDeltas [event] = [(choice.get "delta").getD .null] := by
      simp [chunkDeltas, hsome]
    refine ⟨?_, ?_, husage, ?_⟩
    · rw [hdeltas, List.map_singleton, String.join_cons, String.join_nil, String.append_empty]
      rfl
    · have hfinish : ([event].filterMap choiceOf).filterMap (Value.getStr · "finish_reason") =
          (choice.getStr "finish_reason").toList := by
        cases hreason : choice.getStr "finish_reason" <;> simp [hsome, hreason]
      rw [hfinish]
      show (choice.getStr "finish_reason").or self.finishReason = _
      cases choice.getStr "finish_reason" <;> rfl
    · rw [hdeltas, List.flatMap_singleton]
      rfl

theorem run_openAi (serde : Serde) (events : List Value) :
    ∀ self : OpenAiChatCompletionsAccumulator,
      ∃ after, (ClientSseAccumulator.openAiChatCompletions self).run serde events true =
          some (.openAiChatCompletions after) ∧
        Collects self after (events.filter fun event => !isDone event) := by
  induction events with
  | nil => exact fun self => ⟨self, rfl, Collects.refl self⟩
  | cons event events ih =>
    intro self
    obtain ⟨after, hafter, hcollects⟩ := ih (self.onEvent event true)
    refine ⟨after, hafter, ?_⟩
    cases hdone : isDone event with
    | true =>
      -- the marker changes the terminal only
      have hsame : Collects (self.onEvent event true) after
          (events.filter fun event => !isDone event) := hcollects
      rw [List.filter_cons_of_neg (by simp [hdone])]
      unfold OpenAiChatCompletionsAccumulator.onEvent at hsame
      rw [hdone, if_pos rfl] at hsame
      exact ⟨hsame.content, hsame.finishReason, hsame.usage, hsame.toolCalls⟩
    | false =>
      rw [List.filter_cons_of_pos (by simp [hdone])]
      exact (Collects.chunk self hdone).trans hcollects

/-! ## The body -/

section

variable (env : Env) (self : OpenAiChatCompletionsAccumulator)

/-- The calls that the body shows: those that can not be replayed have a note. -/
def shownCalls : List Value :=
  (self.toolCalls.map toolCallValue).map fun toolCall =>
    if finishReasonAllowsPartialToolCalls self.finishReason &&
        openaiToolCallHasInvalidStructuredArguments env.serde toolCall then
      markToolCallAsNonReplayable env toolCall
    else toolCall

/-- The message that the body shows. -/
def shownMessage : Value :=
  let message := Value.ofFields
    [("role", .string (self.role.getD "assistant")), ("content", .string self.content)]
  if self.toolCalls.isEmpty then message
  else message.set "tool_calls" (.array (shownCalls env self))

theorem get_finalBody_usage : (self.finalBody env).get "usage" = self.usage := by
  unfold OpenAiChatCompletionsAccumulator.finalBody
  cases self.usage with
  | none => exact Value.get_ofFields _ _
  | some usage => exact Value.get_set_self rfl _ _

theorem choiceOf_finalBody : choiceOf (self.finalBody env) = some (.ofFields
    [("index", .nat 0), ("message", shownMessage env self),
      ("finish_reason", .string (self.finishReason.getD "stop"))]) := by
  have hget : (self.finalBody env).get "choices" = some (.array [.ofFields
      [("index", .nat 0), ("message", shownMessage env self),
        ("finish_reason", .string (self.finishReason.getD "stop"))]]) := by
    unfold OpenAiChatCompletionsAccumulator.finalBody
    cases self.usage with
    | none => exact Value.get_ofFields _ _
    | some usage => exact (Value.get_set_of_ne _ _ (by decide)).trans (Value.get_ofFields _ _)
  unfold choiceOf Value.getArray
  rw [hget]
  rfl

theorem completionMessage_finalBody :
    completionMessage (self.finalBody env) = shownMessage env self := by
  unfold completionMessage
  rw [choiceOf_finalBody, Option.bind_some, Value.get_ofFields]
  rfl

theorem completionFinish_finalBody :
    completionFinish (self.finalBody env) = some (self.finishReason.getD "stop") := by
  unfold completionFinish
  rw [choiceOf_finalBody, Option.bind_some, Value.getStr_ofFields]
  rfl

theorem getStr_shownMessage {k : String} (hk : k ≠ "tool_calls") :
    (shownMessage env self).getStr k = ([("role", Value.string (self.role.getD "assistant")),
      ("content", .string self.content)].lookup k).bind Value.asStr := by
  unfold shownMessage
  dsimp only
  split
  · exact Value.getStr_ofFields _ _
  · rw [Value.getStr_set_of_ne _ _ hk]
    exact Value.getStr_ofFields _ _

theorem completionCalls_finalBody :
    completionCalls (self.finalBody env) = shownCalls env self := by
  unfold completionCalls
  rw [completionMessage_finalBody]
  unfold shownMessage Value.getArray
  dsimp only
  split
  · next hempty =>
    unfold shownCalls
    rw [List.isEmpty_iff.mp hempty, Value.get_ofFields]
    rfl
  · rw [Value.get_set_self rfl]
    rfl

end

/-- **The calls that are shown are those of the message just when these are all of functions.** -/
theorem shownCalls_iff {env : Env} {self : OpenAiChatCompletionsAccumulator} {calls : List Value}
    {entry : Nat → OpenAiToolCallAccumulator}
    (hentries : self.toolCalls =
      (List.range calls.length).map fun index => (index, entry index))
    (hholds : ∀ index call, calls[index]? = some call → EntryHolds (entry index) call) :
    List.Forall₂ SameCall (shownCalls env self) calls ↔
      ∀ call ∈ calls, call.getStr "type" = some "function" := by
  have hlength : (shownCalls env self).length = calls.length := by
    unfold shownCalls
    rw [List.length_map, List.length_map, hentries, List.length_map, List.length_range]
  have hget : ∀ index (hlt : index < (shownCalls env self).length), ∀ k ∈ ["id", "type", "function"],
      ((shownCalls env self)[index]).get k = (toolCallValue (index, entry index)).get k := by
    intro index hlt k hk
    have hnote : k ≠ nonReplayableToolCallField := by
      rintro rfl
      exact absurd hk (by decide)
    unfold shownCalls
    simp only [hentries, List.getElem_map, List.getElem_range]
    split
    · exact get_marked hnote
    · rfl
  have hsame : ∀ index (hlt : index < calls.length),
      SameCall ((shownCalls env self).get ⟨index, hlength ▸ hlt⟩) calls[index] ↔
        calls[index].getStr "type" = some "function" := by
    intro index hlt
    exact sameCall_iff (hholds index _ (List.getElem?_eq_getElem hlt)) (hget index _)
  rw [List.forall₂_iff_get]
  constructor
  · rintro ⟨_, hall⟩ call hcall
    obtain ⟨index, hlt, rfl⟩ := List.mem_iff_getElem.mp hcall
    exact (hsame index hlt).mp (hall index (hlength ▸ hlt) hlt)
  · intro hall
    refine ⟨hlength, fun index _ hlt => ?_⟩
    exact (hsame index hlt).mpr (hall _ (List.getElem_mem hlt))

end LlmUniversalProxy.Hooks
