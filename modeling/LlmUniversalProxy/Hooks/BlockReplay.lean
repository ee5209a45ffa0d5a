import LlmUniversalProxy.Hooks.AccumulatorBounds
import LlmUniversalProxy.Hooks.Rendering
import LlmUniversalProxy.Lib.Interleaved

/-!
# `Hooks.BlockReplay` — the blocks of a message, put together again

A block starts with what the event says and grows by its deltas. The content of a message listens to
all its blocks at once, so each of them comes out as if it had been told alone. It is the block of
the message just when its signature was there from the start: a signature that comes with a delta is
not taken.
-/

set_option autoImplicit false

namespace LlmUniversalProxy.Hooks

open Json Lib Streaming

/-! ## One block -/

/-- The field that a delta adds to, and what it adds. -/
def grownBy (delta : Value) : Option (String × String) :=
  match delta.getStr "type" with
  | some "text_delta" => some ("text", saidText delta "text")
  | some "thinking_delta" => some ("thinking", saidText delta "thinking")
  | some "input_json_delta" => some ("input_json_raw", saidText delta "partial_json")
  | _ => none

def piecesFor (k : String) (deltas : List Value) : List String :=
  deltas.filterMap fun delta => (grownBy delta).bind fun (field, piece) =>
    if field = k then some piece else none

theorem piecesFor_cons (k : String) (delta : Value) (deltas : List Value) :
    piecesFor k (delta :: deltas) = piecesFor k [delta] ++ piecesFor k deltas := by
  unfold piecesFor
  rw [← List.filterMap_append]
  rfl

theorem grownText_append (start : Option Value) (before after : List String) :
    grownText (grownText start before) after = grownText start (before ++ after) := by
  unfold grownText
  cases before with
  | nil => simp
  | cons piece before =>
    cases after with
    | nil => simp
    | cons other after => simp [Value.asStr, String.join_append, String.append_assoc]

/-- A field that is written behind the type has the text it had, and what was added. -/
theorem get_appended {block typed after : Value} {kind field piece : String}
    (hkind : block.getStr "type" = some kind)
    (htyped : assign block "type" (.string kind) = some typed)
    (hafter : assign typed field (.string ((block.getStr field).getD "" ++ piece)) = some after)
    (k : String) : after.get k = grownText (block.get k) (if field = k then [piece] else []) := by
  by_cases hk : field = k
  · subst hk
    rw [get_assign hafter, if_pos rfl]
    simp [grownText, Value.getStr, String.join_cons, String.join_nil]
  · rw [get_assign_of_ne hafter (Ne.symm hk), if_neg hk]
    by_cases htype : k = "type"
    · subst htype
      rw [get_assign htyped]
      exact (Value.get_of_getStr hkind).symm
    · exact get_assign_of_ne htyped htype

/-- What a delta does to the block it belongs to: it adds to one field, or it does nothing. -/
theorem blockWithDelta_grows {block delta : Value} (hobject : block.isObject = true)
    (hbelongs : deltaBelongs block delta = true) :
    ∃ after, blockWithDelta block delta = some after ∧ after.isObject = true ∧
      ∀ k, after.get k = grownText (block.get k) (piecesFor k [delta]) := by
  have hassign : ∀ (v : Value) (k : String) (x : Value), v.isObject = true →
      ∃ after, assign v k x = some after := fun v k x hv => assign_isSome.mpr (.inl hv)
  have hpieces : ∀ k, piecesFor k [delta] = ((grownBy delta).bind fun (field, piece) =>
      if field = k then some piece else none).toList := by
    intro k
    unfold piecesFor
    rw [List.filterMap_cons]
    cases (grownBy delta).bind fun (field, piece) => if field = k then some piece else none with
    | none => rfl
    | some piece => rfl
  have hone : ∀ {field piece : String}, grownBy delta = some (field, piece) → ∀ k,
      piecesFor k [delta] = if field = k then [piece] else [] := by
    intro field piece hgrown k
    rw [hpieces, hgrown, Option.bind_some]
    by_cases hk : field = k
    · simp [hk]
    · simp [hk]
  unfold deltaBelongs at hbelongs
  split at hbelongs
  · next htype =>
    obtain ⟨typed, htyped⟩ := hassign block "type" (.string "text") hobject
    obtain ⟨after, hafter⟩ := hassign typed "text" (.string ((block.getStr "text").getD "" ++
      (delta.getStr "text").getD "")) (isObject_of_assign htyped)
    refine ⟨after, ?_, isObject_of_assign hafter, fun k => ?_⟩
    · unfold blockWithDelta
      rw [htype]
      simp only [htyped, hafter, Option.bind_eq_bind, Option.bind_some]
    · have hgrown : grownBy delta = some ("text", saidText delta "text") := by
        unfold grownBy
        rw [htype]
        rfl
      rw [hone hgrown]
      exact get_appended (of_decide_eq_true hbelongs) htyped hafter k
  · next htype =>
    obtain ⟨typed, htyped⟩ := hassign block "type" (.string "thinking") hobject
    obtain ⟨after, hafter⟩ := hassign typed "thinking"
      (.string ((block.getStr "thinking").getD "" ++ (delta.getStr "thinking").getD ""))
      (isObject_of_assign htyped)
    refine ⟨after, ?_, isObject_of_assign hafter, fun k => ?_⟩
    · unfold blockWithDelta
      rw [htype]
      simp only [htyped, hafter, Option.bind_eq_bind, Option.bind_some]
    · have hgrown : grownBy delta = some ("thinking", saidText delta "thinking") := by
        unfold grownBy
        rw [htype]
        rfl
      rw [hone hgrown]
      exact get_appended (of_decide_eq_true hbelongs) htyped hafter k
  · next htype =>
    -- a signature is not taken
    refine ⟨block, ?_, hobject, fun k => ?_⟩
    · unfold blockWithDelta
      rw [htype]
      rfl
    · have hgrown : grownBy delta = none := by
        unfold grownBy
        rw [htype]
        rfl
      rw [hpieces, hgrown]
      rfl
  · next htype =>
    obtain ⟨after, hafter⟩ := hassign block "input_json_raw"
      (.string ((block.getStr "input_json_raw").getD "" ++ (delta.getStr "partial_json").getD ""))
      hobject
    refine ⟨after, ?_, isObject_of_assign hafter, fun k => ?_⟩
    · unfold blockWithDelta
      rw [htype]
      exact hafter
    · have hgrown : grownBy delta = some ("input_json_raw", saidText delta "partial_json") := by
        unfold grownBy
        rw [htype]
        rfl
      rw [hone hgrown]
      by_cases hk : "input_json_raw" = k
      · subst hk
        rw [get_assign hafter, if_pos rfl]
        simp [grownText, Value.getStr, saidText, String.join_cons, String.join_nil]
      · rw [get_assign_of_ne hafter (Ne.symm hk), if_neg hk]
        rfl
  · cases hbelongs

theorem deltaBelongs_congr {block other : Value} (h : other.get "type" = block.get "type")
    (delta : Value) : deltaBelongs other delta = deltaBelongs block delta := by
  unfold deltaBelongs Value.getStr
  rw [h]

theorem piecesFor_type (deltas : List Value) : piecesFor "type" deltas = [] := by
  unfold piecesFor
  rw [List.filterMap_eq_nil_iff]
  intro delta _
  unfold grownBy
  split <;> rfl

theorem blockWithDeltas {deltas : List Value} : ∀ {block : Value}, block.isObject = true →
    (∀ delta ∈ deltas, deltaBelongs block delta = true) →
    ∃ after, deltas.foldlM blockWithDelta block = some after ∧ after.isObject = true ∧
      ∀ k, after.get k = grownText (block.get k) (piecesFor k deltas) := by
  induction deltas with
  | nil =>
    intro block hobject _
    exact ⟨block, rfl, hobject, fun k => rfl⟩
  | cons delta deltas ih =>
    intro block hobject hbelong
    obtain ⟨first, hfirst, hfirstObject, hget⟩ :=
      blockWithDelta_grows hobject (hbelong delta List.mem_cons_self)
    have htype : first.get "type" = block.get "type" := by
      rw [hget, piecesFor_type]
      rfl
    obtain ⟨after, hafter, hafterObject, hgetAfter⟩ := ih hfirstObject fun other hother => by
      rw [deltaBelongs_congr htype]
      exact hbelong other (List.mem_cons_of_mem _ hother)
    refine ⟨after, ?_, hafterObject, fun k => ?_⟩
    · rw [List.foldlM_cons, hfirst]
      exact hafter
    · rw [hgetAfter, hget, grownText_append, ← piecesFor_cons]

/-! ## A block at the end -/

theorem piecesFor_kind {kind field k : String} {deltas : List Value}
    (hkind : ∀ delta piece, grownBy delta = some (k, piece) ↔
      delta.getStr "type" = some kind ∧ saidText delta field = piece) :
    piecesFor k deltas = piecesOfKind kind field deltas := by
  unfold piecesFor piecesOfKind
  refine List.filterMap_congr fun delta _ => ?_
  by_cases htype : delta.getStr "type" = some kind
  · rw [(hkind delta _).mpr ⟨htype, rfl⟩, if_pos htype, Option.bind_some]
    exact if_pos rfl
  · rw [if_neg htype]
    cases hgrown : grownBy delta with
    | none => rfl
    | some grown =>
      obtain ⟨other, piece⟩ := grown
      refine if_neg ?_
      rintro rfl
      exact htype ((hkind delta piece).mp hgrown).1

theorem grownBy_eq {delta : Value} {k piece : String} : grownBy delta = some (k, piece) ↔
    (delta.getStr "type" = some "text_delta" ∧ "text" = k ∧ saidText delta "text" = piece) ∨
    (delta.getStr "type" = some "thinking_delta" ∧ "thinking" = k ∧
      saidText delta "thinking" = piece) ∨
    (delta.getStr "type" = some "input_json_delta" ∧ "input_json_raw" = k ∧
      saidText delta "partial_json" = piece) := by
  unfold grownBy
  split
  · next htype => simp [htype]
  · next htype => simp [htype]
  · next htype => simp [htype]
  · next htext hthinking hinput =>
    refine iff_of_false nofun ?_
    rintro (⟨htype, _⟩ | ⟨htype, _⟩ | ⟨htype, _⟩)
    · exact htext htype
    · exact hthinking htype
    · exact hinput htype

theorem piecesFor_text (deltas : List Value) :
    piecesFor "text" deltas = piecesOfKind "text_delta" "text" deltas :=
  piecesFor_kind fun delta piece => by simp [grownBy_eq]

theorem piecesFor_thinking (deltas : List Value) :
    piecesFor "thinking" deltas = piecesOfKind "thinking_delta" "thinking" deltas :=
  piecesFor_kind fun delta piece => by simp [grownBy_eq]

theorem piecesFor_raw (deltas : List Value) :
    piecesFor "input_json_raw" deltas = piecesOfKind "input_json_delta" "partial_json" deltas :=
  piecesFor_kind fun delta piece => by simp [grownBy_eq]

/-- The other fields do not grow. -/
theorem piecesFor_other {k : String} (htext : k ≠ "text") (hthinking : k ≠ "thinking")
    (hraw : k ≠ "input_json_raw") (deltas : List Value) : piecesFor k deltas = [] := by
  unfold piecesFor
  rw [List.filterMap_eq_nil_iff]
  intro delta _
  cases hgrown : grownBy delta with
  | none => rfl
  | some grown =>
    obtain ⟨field, piece⟩ := grown
    refine if_neg ?_
    rintro rfl
    rcases grownBy_eq.mp hgrown with ⟨_, heq, _⟩ | ⟨_, heq, _⟩ | ⟨_, heq, _⟩
    · exact htext heq.symm
    · exact hthinking heq.symm
    · exact hraw heq.symm

/-- The fields of a block that is finished: the input is read, and the pieces of it are gone. -/
theorem get_finishedBlock {block : Value} (serde : Serde) (hobject : block.isObject = true)
    (k : String) : (finishedBlock serde block).get k =
      if k = "input_json_raw" then none
      else if k = "input" then
        ((block.getStr "input_json_raw").bind (fromStr serde)).or (block.get "input")
      else block.get k := by
  unfold finishedBlock
  dsimp only
  rw [Value.get_remove]
  by_cases hraw : k = "input_json_raw"
  · rw [if_pos hraw, if_pos hraw]
  · rw [if_neg hraw, if_neg hraw]
    cases hparsed : (block.getStr "input_json_raw").bind (fromStr serde) with
    | none =>
      by_cases hinput : k = "input"
      · rw [if_pos hinput, hinput]
        rfl
      · rw [if_neg hinput]
    | some parsed =>
      by_cases hinput : k = "input"
      · rw [if_pos hinput, hinput]
        exact Value.get_set_self hobject _ _
      · rw [if_neg hinput]
        exact Value.get_set_of_ne _ _ hinput

/-- There is no document in an empty text. -/
theorem fromStr_empty (serde : Serde) : fromStr serde "" = none := rfl

theorem finishedInput {serde : Serde} {block started after : Value} {deltas : List Value}
    (htold : ToldBlock serde block started deltas)
    (hget : ∀ k, after.get k = grownText (started.get k) (piecesFor k deltas))
    (hraw : started.get "input_json_raw" = none) :
    ((after.getStr "input_json_raw").bind (fromStr serde)).or (after.get "input") =
      block.get "input" := by
  have hafterInput : after.get "input" = started.get "input" := by
    rw [hget, piecesFor_other (by decide) (by decide) (by decide)]
    rfl
  have hpieces : after.getStr "input_json_raw" = (grownText none
      (piecesOfKind "input_json_delta" "partial_json" deltas)).bind Value.asStr := by
    unfold Value.getStr
    rw [hget, piecesFor_raw, hraw]
  have hinput := htold.input
  dsimp only at hinput
  rw [hafterInput, hpieces]
  unfold grownText
  cases hnone : piecesOfKind "input_json_delta" "partial_json" deltas with
  | nil =>
    rw [hnone, String.join_nil, if_pos rfl] at hinput
    rw [if_pos rfl, hinput]
    rfl
  | cons piece pieces =>
    rw [hnone] at hinput
    rw [if_neg (List.cons_ne_nil _ _)]
    simp only [Option.bind_none, Option.getD_none, Option.bind_some, Value.asStr_string]
    rw [String.empty_append]
    split at hinput
    · next hempty =>
      rw [hempty, fromStr_empty, hinput]
      rfl
    · obtain ⟨hparses, hinput⟩ := hinput
      obtain ⟨parsed, hparsed⟩ := Option.isSome_iff_exists.mp hparses
      rw [hinput, hparsed]
      rfl

/-- **A block comes out as it is just when it started with its signature.** The one field that a
finished block never has is the one that the accumulator keeps the pieces of an input in. -/
theorem finished_iff {serde : Serde} {block started after : Value} {deltas : List Value}
    (htold : ToldBlock serde block started deltas) (hobject : after.isObject = true)
    (hget : ∀ k, after.get k = grownText (started.get k) (piecesFor k deltas)) :
    SameFields (finishedBlock serde after) block ↔
      started.get "signature" = block.get "signature" ∧ block.get "input_json_raw" = none := by
  have hsignature : after.get "signature" = started.get "signature" := by
    rw [hget, piecesFor_other (by decide) (by decide) (by decide)]
    rfl
  constructor
  · intro hsame
    have hsigned := hsame "signature"
    have hraw := hsame "input_json_raw"
    rw [get_finishedBlock serde hobject, if_neg (by decide), if_neg (by decide), hsignature]
      at hsigned
    rw [get_finishedBlock serde hobject, if_pos rfl] at hraw
    exact ⟨hsigned, hraw.symm⟩
  · rintro ⟨hsigned, hraw⟩ k
    have hstarted : started.get "input_json_raw" = none := by
      rw [← htold.rest _ (by decide), hraw]
    rw [get_finishedBlock serde hobject]
    by_cases hkraw : k = "input_json_raw"
    · rw [if_pos hkraw, hkraw, hraw]
    · rw [if_neg hkraw]
      by_cases hinput : k = "input"
      · rw [if_pos hinput, hinput]
        exact finishedInput htold hget hstarted
      · rw [if_neg hinput]
        by_cases htext : k = "text"
        · rw [htext, hget, piecesFor_text, htold.text]
        · by_cases hthinking : k = "thinking"
          · rw [hthinking, hget, piecesFor_thinking, htold.thinking]
          · by_cases hsig : k = "signature"
            · rw [hsig, hsignature, hsigned]
            · have hother : k ∉ grownFields := by
                simp [grownFields, htext, hthinking, hsig, hinput]
              rw [hget, piecesFor_other htext hthinking hkraw, htold.rest k hother]
              rfl

/-! ## The content -/

/-- What an event makes of the block it is about. -/
def changedBlock (block event : Value) : Option Value :=
  match event.getStr "type" with
  | some "content_block_start" => some ((event.get "content_block").getD block)
  | some "content_block_delta" =>
      match event.get "delta" with
      | some delta => blockWithDelta block delta
      | none => some block
  | _ => some block

def bringsContent (event : Value) : Bool :=
  match event.getStr "type" with
  | some "content_block_start" => (event.get "content_block").isSome
  | some "content_block_delta" => (event.get "delta").isSome
  | _ => false

/-- The block in a slot of the content; one that is not there yet is empty. -/
def slotOf (content : List Value) (index : Nat) : Value := (content[index]?).getD (.ofFields [])

def changedContent (content : List Value) (event : Value) : Option (List Value) :=
  match toldIndex event with
  | none => some content
  | some index =>
      if bringsContent event then
        (changedBlock (slotOf content index) event).map ((grownTo index content).set index ·)
      else some content

theorem slotOf_grownTo (index : Nat) (content : List Value) :
    slotOf (grownTo index content) = slotOf content := by
  funext other
  unfold slotOf grownTo
  rw [List.getElem?_append]
  split
  · rfl
  · next hlt =>
    rw [List.getElem?_replicate, List.getElem?_eq_none (by omega : content.length ≤ other)]
    split <;> rfl

theorem slotOf_set (index : Nat) (content : List Value) (block : Value) :
    slotOf ((grownTo index content).set index block) =
      Function.update (slotOf content) index block := by
  have hlength := length_grownTo index content
  funext other
  by_cases hother : other = index
  · subst hother
    rw [Function.update_self]
    unfold slotOf
    rw [List.getElem?_set_self (by omega)]
    rfl
  · rw [Function.update_of_ne hother, ← slotOf_grownTo index content]
    unfold slotOf
    rw [List.getElem?_set_ne (Ne.symm hother)]

theorem changedBlock_of_not {event : Value} (h : bringsContent event = false) (block : Value) :
    changedBlock block event = some block := by
  unfold bringsContent at h
  unfold changedBlock
  split
  · next htype =>
    rw [htype] at h
    rw [Option.isSome_eq_false_iff.mp h |> Option.isNone_iff_eq_none.mp]
    rfl
  · next htype =>
    rw [htype] at h
    rw [Option.isSome_eq_false_iff.mp h |> Option.isNone_iff_eq_none.mp]
  · rfl

/-- The content listens to its blocks. -/
def contentListener : Listener (List Value) Value Nat Value where
  step := changedContent
  key := toldIndex
  slot := slotOf
  change := changedBlock
  keyless content event h := ⟨content, by unfold changedContent; rw [h], rfl⟩
  keyed content event index block hkey hchange := by
    unfold changedContent
    rw [hkey]
    cases hbrings : bringsContent event with
    | true => exact ⟨_, by simp only [if_true, hchange, Option.map_some], slotOf_set _ _ _⟩
    | false =>
      refine ⟨content, by simp, ?_⟩
      rw [changedBlock_of_not hbrings] at hchange
      cases hchange
      exact (Function.update_eq_self index (slotOf content)).symm

/-- The content grows up to the blocks that are told. -/
theorem length_changedContent {content after : List Value} {event : Value}
    (h : changedContent content event = some after) :
    after.length = if bringsContent event then
      max content.length (((toldIndex event).map (· + 1)).getD 0) else content.length := by
  unfold changedContent at h
  cases hindex : toldIndex event with
  | none =>
    rw [hindex] at h
    cases h
    simp
  | some index =>
    rw [hindex] at h
    dsimp only at h
    split at h
    · next hbrings =>
      obtain ⟨block, _, rfl⟩ := Option.map_eq_some_iff.mp h
      rw [List.length_set, length_grownTo, if_pos hbrings]
      rfl
    · next hbrings =>
      cases h
      rw [if_neg hbrings]

theorem length_content {n : Nat} {events : List Value} : ∀ {content after : List Value},
    events.foldlM changedContent content = some after → content.length ≤ n →
    (∀ event ∈ events, ∀ index, toldIndex event = some index → index < n) →
      after.length ≤ n ∧ content.length ≤ after.length ∧
        ∀ event ∈ events, bringsContent event = true →
          ∀ index, toldIndex event = some index → index < after.length := by
  induction events with
  | nil =>
    intro content after h hle _
    cases h
    exact ⟨hle, Nat.le_refl _, nofun⟩
  | cons event events ih =>
    intro content after h hle hindex
    rw [List.foldlM_cons, Option.bind_eq_bind, Option.bind_eq_some_iff] at h
    obtain ⟨first, hfirst, hrest⟩ := h
    have hlength := length_changedContent hfirst
    have hgrown : first.length ≤ n ∧ content.length ≤ first.length ∧ (bringsContent event = true →
        ∀ index, toldIndex event = some index → index < first.length) := by
      rw [hlength]
      cases htold : toldIndex event with
      | none => simp [hle]
      | some index =>
        have hlt := hindex event List.mem_cons_self index htold
        simp only [Option.map_some, Option.getD_some, Option.some.injEq]
        split
        · refine ⟨by omega, by omega, ?_⟩
          rintro _ _ rfl
          omega
        · next hbrings => exact ⟨hle, Nat.le_refl _, fun h => absurd h hbrings⟩
    obtain ⟨hupper, hlower, hall⟩ := ih hrest hgrown.1 fun other hother =>
      hindex other (List.mem_cons_of_mem _ hother)
    refine ⟨hupper, Nat.le_trans hgrown.2.1 hlower, ?_⟩
    intro other hother hbrings index htold
    rcases List.mem_cons.mp hother with rfl | hother
    · exact Nat.lt_of_lt_of_le (hgrown.2.2 hbrings index htold) hlower
    · exact hall other hother hbrings index htold

/-! ## All blocks -/

def SignedAtStart (index : Nat) (block : Value) (events : List Value) : Prop :=
  ∀ event ∈ events, ∀ started, IsBlockStart index event started →
    started.get "signature" = block.get "signature"

theorem changedBlock_deltas {index : Nat} {events deltas : List Value}
    (h : List.Forall₂ (IsBlockDelta index) events deltas) : ∀ block,
      events.foldlM changedBlock block = deltas.foldlM blockWithDelta block := by
  induction h with
  | nil => exact fun _ => rfl
  | @cons event delta _ _ hdelta _ ih =>
    intro block
    have hfirst : changedBlock block event = blockWithDelta block delta := by
      unfold changedBlock
      rw [hdelta.1.1, hdelta.2]
      rfl
    rw [List.foldlM_cons, List.foldlM_cons, hfirst]
    exact bind_congr fun after => ih after

theorem type_of_deltas {index : Nat} {events deltas : List Value}
    (h : List.Forall₂ (IsBlockDelta index) events deltas) :
    ∀ event ∈ events, event.getStr "type" = some "content_block_delta" := by
  induction h with
  | nil => exact nofun
  | cons hdelta _ ih =>
    intro event hevent
    rcases List.mem_cons.mp hevent with rfl | hevent
    · exact hdelta.1.1
    · exact ih event hevent

theorem signedAtStart_iff {index : Nat} {block start started stop : Value}
    {deltaEvents deltas : List Value} (hstart : IsBlockStart index start started)
    (hdeltas : List.Forall₂ (IsBlockDelta index) deltaEvents deltas)
    (hstop : IsBlockEvent "content_block_stop" index stop) :
    SignedAtStart index block (start :: (deltaEvents ++ [stop])) ↔
      started.get "signature" = block.get "signature" := by
  constructor
  · intro h
    exact h start List.mem_cons_self started hstart
  · intro h event hevent other hother
    have htype := hother.1.1
    rcases List.mem_cons.mp hevent with rfl | hevent
    · rw [← h, Option.some.inj (hother.2.symm.trans hstart.2)]
    · rcases List.mem_append.mp hevent with hevent | hevent
      · rw [type_of_deltas hdeltas event hevent] at htype
        exact absurd htype (by decide)
      · rw [List.mem_singleton.mp hevent, hstop.1] at htype
        exact absurd htype (by decide)

/-- The events of a block, taken alone. -/
theorem changedBlock_tells {serde : Serde} {index : Nat} {block : Value} {events : List Value}
    (h : TellsBlock serde index block events) (slot : Value) :
    ∃ after, events.foldlM changedBlock slot = some after ∧
      (SameFields (finishedBlock serde after) block ↔
        SignedAtStart index block events ∧ block.get "input_json_raw" = none) := by
  obtain ⟨start, started, deltaEvents, deltas, stop, rfl, hstart, hdeltas, hstop, htold⟩ := h
  have htype : block.get "type" = started.get "type" := htold.rest "type" (by decide)
  obtain ⟨after, hafter, hobject, hget⟩ := blockWithDeltas htold.object fun delta hdelta => by
    rw [deltaBelongs_congr htype.symm]
    exact htold.belong delta hdelta
  refine ⟨after, ?_, ?_⟩
  · have hfirst : changedBlock slot start = some started := by
      unfold changedBlock
      rw [hstart.1.1, hstart.2]
      rfl
    have hlast : changedBlock after stop = some after := by
      unfold changedBlock
      rw [hstop.1]
      rfl
    rw [List.foldlM_cons, hfirst, Option.bind_eq_bind, Option.bind_some, List.foldlM_append,
      changedBlock_deltas hdeltas, hafter, Option.bind_eq_bind, Option.bind_some,
      List.foldlM_cons, hlast]
    rfl
  · rw [finished_iff htold hobject hget, signedAtStart_iff hstart hdeltas hstop]

theorem brings_of_tells {serde : Serde} {index : Nat} {block : Value} {events : List Value}
    (h : TellsBlock serde index block events) : ∃ event ∈ events, bringsContent event = true := by
  obtain ⟨start, started, deltaEvents, deltas, stop, rfl, hstart, _⟩ := h
  refine ⟨start, List.mem_cons_self, ?_⟩
  unfold bringsContent
  rw [hstart.1.1, hstart.2]
  rfl

theorem toldIndex_of_start {index : Nat} {event started : Value}
    (h : IsBlockStart index event started) : toldIndex event = some index := by
  unfold toldIndex isPing
  rw [h.1.1]
  exact h.1.2

/-- **The blocks come out as they are just when every one of them started with its signature.** -/
theorem content_iff {serde : Serde} {blocks events : List Value}
    (h : TellsBlocks serde blocks events) :
    ∃ content, events.foldlM changedContent [] = some content ∧
      (List.Forall₂ SameFields (content.map (finishedBlock serde)) blocks ↔
        ∀ index block, blocks[index]? = some block →
          SignedAtStart index block events ∧ block.get "input_json_raw" = none) := by
  have hindex : ∀ event ∈ events, ∀ index, toldIndex event = some index →
      index < blocks.length := by
    intro event hevent index htold
    unfold toldIndex at htold
    rcases h.indexed event hevent with hping | ⟨other, hlt, hother⟩
    · rw [if_pos hping] at htold
      cases htold
    · split at htold
      · cases htold
      · rw [hother] at htold
        cases htold
        exact hlt
  -- every block alone; what is not a block is never told of
  have halone : ∀ index, ∃ after, (contentListener.about index events).foldlM changedBlock
      (slotOf [] index) = some after ∧ ∀ block, blocks[index]? = some block →
        (SameFields (finishedBlock serde after) block ↔
          SignedAtStart index block events ∧ block.get "input_json_raw" = none) := by
    intro index
    cases hblock : blocks[index]? with
    | none =>
      refine ⟨slotOf [] index, ?_, nofun⟩
      have hnone : contentListener.about index events = [] := by
        unfold Listener.about
        rw [List.filter_eq_nil_iff]
        intro event hevent htold
        have hlt := hindex event hevent index (of_decide_eq_true htold)
        rw [List.getElem?_eq_none_iff] at hblock
        omega
      rw [hnone]
      rfl
    | some block =>
      obtain ⟨after, hafter, hsame⟩ :=
        changedBlock_tells (h.each index block hblock) (slotOf [] index)
      refine ⟨after, hafter, ?_⟩
      rintro _ ⟨⟩
      rw [hsame]
      refine and_congr_left fun _ => ⟨fun hsigned event hevent started hstarted => ?_,
        fun hsigned event hevent => hsigned event (List.mem_filter.mp hevent).1⟩
      refine hsigned event (List.mem_filter.mpr ⟨hevent, ?_⟩) started hstarted
      exact decide_eq_true (toldIndex_of_start hstarted)
  choose told halone hsame using halone
  obtain ⟨content, hcontent, hslots⟩ := contentListener.run (s := []) halone
  have hlength : content.length = blocks.length := by
    obtain ⟨hupper, _, hbrings⟩ := length_content hcontent (Nat.zero_le _) hindex
    refine Nat.le_antisymm hupper ?_
    by_contra hshort
    have hlast : content.length < blocks.length := by omega
    obtain ⟨event, hevent, hbringsEvent⟩ :=
      brings_of_tells (h.each _ _ (List.getElem?_eq_getElem hlast))
    obtain ⟨hevent, htold⟩ := List.mem_filter.mp hevent
    exact Nat.lt_irrefl _ (hbrings event hevent hbringsEvent _ (of_decide_eq_true htold))
  refine ⟨content, hcontent, ?_⟩
  have hget : ∀ index (hlt : index < content.length), content[index] = told index := by
    intro index hlt
    rw [← hslots]
    show _ = slotOf content index
    unfold slotOf
    rw [List.getElem?_eq_getElem hlt]
    rfl
  rw [List.forall₂_iff_get]
  constructor
  · rintro ⟨_, hall⟩ index block hblock
    obtain ⟨hlt, rfl⟩ := List.getElem?_eq_some_iff.mp hblock
    have hthis := hall index (by rw [List.length_map, hlength]; exact hlt) hlt
    simp only [List.get_eq_getElem, List.getElem_map] at hthis
    rw [hget index (by omega)] at hthis
    exact (hsame index _ hblock).mp hthis
  · intro hall
    refine ⟨by rw [List.length_map, hlength], ?_⟩
    intro index hlt hlt'
    simp only [List.get_eq_getElem, List.getElem_map]
    rw [hget index (by omega)]
    exact (hsame index _ (List.getElem?_eq_getElem hlt')).mpr
      (hall index _ (List.getElem?_eq_getElem hlt'))

end LlmUniversalProxy.Hooks
