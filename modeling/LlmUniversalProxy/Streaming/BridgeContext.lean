import LlmUniversalProxy.Streaming.State
import LlmUniversalProxy.Translate.ToolBridge

/-!
# `Streaming.BridgeContext` — two readings of a bridge context

The context of a request's bridged tools travels as JSON, and the stream reads it with types of its
own. The two readers take the same contexts, and agree on what they are asked: whether a tool's
arguments are wrapped, and which namespace and child a name is joined from.

The source is `streaming/state.rs` 7-135 and 401-419.
-/

set_option autoImplicit false

namespace LlmUniversalProxy.Streaming

open Json Lib Translate

/-! ## Entries -/

/-- The entries that two readers make of an object correspond when those of each field do. -/
theorem entries_map {α β : Type} {f : String → Value → Option α} {g : String → Value → Option β}
    {φ : α → β} (h : ∀ k v, g k v = (f k v).map φ) (value : Option Value) :
    ToolBridgeContext.entriesFrom g value =
      (contextEntries f value).map (List.map fun e => (e.1, φ e.2)) := by
  unfold ToolBridgeContext.entriesFrom contextEntries
  induction (value.bind Value.asObject).getD [] with
  | nil => rfl
  | cons field fields ih =>
    rw [List.mapM_cons, List.mapM_cons, ih, h]
    cases f field.1 field.2 with
    | none => rfl
    | some entry =>
      cases fields.mapM fun field => (f field.1 field.2).map fun entry => (field.1, entry) with
      | none => rfl
      | some entries => rfl

/-- Every entry has been read. -/
theorem contextEntries_read {α : Type} {f : String → Value → Option α} {value : Option Value}
    {entries : List (String × α)} (h : contextEntries f value = some entries) :
    ∀ e ∈ entries, ∃ v, f e.1 v = some e.2 := by
  unfold contextEntries at h
  generalize (value.bind Value.asObject).getD [] = fields at h
  induction fields generalizing entries with
  | nil =>
    obtain rfl := Option.some.inj h
    exact fun e he => (nomatch he)
  | cons field fields ih =>
    rw [List.mapM_cons] at h
    obtain ⟨first, hfirst, h⟩ := Option.bind_eq_some_iff.mp h
    obtain ⟨rest, hrest, h⟩ := Option.bind_eq_some_iff.mp h
    obtain rfl := Option.some.inj h
    obtain ⟨entry, hentry, rfl⟩ := Option.map_eq_some_iff.mp hfirst
    intro e he
    rcases List.mem_cons.mp he with rfl | he
    · exact ⟨_, hentry⟩
    · exact ih hrest e he

theorem lookup_map {α β : Type} (φ : α → β) (entries : List (String × α)) (k : String) :
    (entries.map fun e => (e.1, φ e.2)).lookup k = (entries.lookup k).map φ := by
  induction entries with
  | nil => rfl
  | cons e entries ih =>
    rw [List.map_cons, List.lookup_cons, List.lookup_cons]
    cases k == e.1 with
    | true => rfl
    | false => exact ih

/-- The entry that a request keeps, in place of the one that the stream reads. -/
def StreamToolBridgeContextEntry.toEntry (e : StreamToolBridgeContextEntry) :
    ToolBridgeContextEntry :=
  ⟨e.stableName, (ToolBridgeSourceKind.fromStr e.sourceKind).getD .customText⟩

def StreamNamespaceBridgeContextEntry.toEntry (e : StreamNamespaceBridgeContextEntry) :
    NamespaceBridgeContextEntry := ⟨e.namespaceName, e.child⟩

/-- A kind that can be read is one of the two. -/
theorem sourceKind_eq (kind : String) :
    ToolBridgeSourceKind.fromStr kind =
      if kind ≠ "custom_text" ∧ kind ≠ "custom_grammar" then none
      else some ((ToolBridgeSourceKind.fromStr kind).getD .customText) := by
  unfold ToolBridgeSourceKind.fromStr
  split
  · rfl
  · rfl
  · next htext hgrammar => rw [if_pos ⟨htext, hgrammar⟩]

theorem toolEntry_map (k : String) (v : Value) :
    ToolBridgeContextEntry.fromValue k v =
      (StreamToolBridgeContextEntry.fromValue k v).map StreamToolBridgeContextEntry.toEntry := by
  unfold ToolBridgeContextEntry.fromValue StreamToolBridgeContextEntry.fromValue
  unfold validatePublicToolNameNotReserved
  cases openaiResponsesCustomToolBridgePrefixIsReserved k with
  | true => rfl
  | false =>
    cases v.getStr "stable_name" with
    | none => rfl
    | some name =>
      simp only [Except.toBool, pure, Except.pure, Bool.false_eq_true, if_false,
        Bool.true_eq_false, Option.bind_eq_bind, Option.bind_some, Bool.or_eq_true,
        decide_eq_true_eq]
      by_cases hname : name.isEmpty = true ∨ name ≠ k
      · rw [if_pos hname, if_pos hname]
        rfl
      rw [if_neg hname, if_neg hname]
      cases v.getStr "source_kind" with
      | none => rfl
      | some kind =>
        rw [Option.bind_some, sourceKind_eq]
        by_cases hkind : kind ≠ "custom_text" ∧ kind ≠ "custom_grammar"
        · rw [if_pos hkind]
          cases v.getStr "transport_kind" <;> cases v.getStr "wrapper_field" <;>
            cases v.getStr "expected_canonical_shape" <;> simp [hkind]
        rw [if_neg hkind, Option.bind_some, Option.bind_some]
        cases v.getStr "transport_kind" with
        | none => simp
        | some transport =>
          cases v.getStr "wrapper_field" with
          | none => simp
          | some field =>
            cases v.getStr "expected_canonical_shape" with
            | none => simp
            | some shape =>
              simp only [Option.bind_some, hkind, false_or, Option.some.injEq, ne_eq, or_assoc]
              split
              · rfl
              · rfl

theorem namespaceEntry_map (k : String) (v : Value) :
    NamespaceBridgeContextEntry.fromValue k v =
      (StreamNamespaceBridgeContextEntry.fromValue k v).map
        StreamNamespaceBridgeContextEntry.toEntry := by
  unfold NamespaceBridgeContextEntry.fromValue StreamNamespaceBridgeContextEntry.fromValue
  unfold flatToolName
  cases v.getStr "namespace" with
  | none => rfl
  | some ns =>
    cases v.getStr "child" with
    | none => rfl
    | some child =>
      simp only [Option.bind_eq_bind, Option.bind_some, Bool.or_eq_true]
      by_cases hempty : ns.isEmpty = true ∨ child.isEmpty = true
      · rw [if_pos hempty, if_pos hempty]
        rfl
      rw [if_neg hempty, if_neg hempty]
      by_cases hflat : k ≠ s!"{ns}__{child}"
      · rw [if_pos hflat, if_pos hflat]
        rfl
      · rw [if_neg hflat, if_neg hflat]
        rfl

/-! ## Contexts -/

def StreamToolBridgeContext.toContext (ctx : StreamToolBridgeContext) : ToolBridgeContext :=
  ⟨ctx.entries.map fun e => (e.1, e.2.toEntry),
    ctx.namespaceEntries.map fun e => (e.1, e.2.toEntry)⟩

theorem context_map (v : Value) :
    ToolBridgeContext.fromValue v =
      (StreamToolBridgeContext.fromValue v).map StreamToolBridgeContext.toContext := by
  unfold ToolBridgeContext.fromValue StreamToolBridgeContext.fromValue
  rw [entries_map toolEntry_map, entries_map namespaceEntry_map]
  by_cases hversion : v.getU64 "version" = some toolBridgeContextVersion
  · by_cases hpurpose : v.getStr "purpose" = some toolBridgeContextPurpose
    · simp only [hversion, hpurpose, toolBridgeContextVersion, toolBridgeContextPurpose,
        Option.bind_eq_bind, Option.bind_some, ne_eq, not_true_eq_false, decide_false,
        Bool.or_false, Bool.false_eq_true, if_false]
      cases contextEntries StreamToolBridgeContextEntry.fromValue (v.get "entries") with
      | none => rfl
      | some entries =>
        cases contextEntries StreamNamespaceBridgeContextEntry.fromValue
          (v.get "namespace_entries") with
        | none => rfl
        | some namespaceEntries =>
          simp only [Option.map_some, Option.bind_some, List.isEmpty_map, Bool.and_eq_true]
          split
          · rfl
          · rfl
    · rw [if_pos (by simp [show v.getStr "purpose" ≠
        some "openai_responses_custom_tool_bridge" from hpurpose])]
      rw [hversion]
      cases hget : v.getStr "purpose" with
      | none => rfl
      | some purpose =>
        have hne : purpose ≠ toolBridgeContextPurpose := fun heq => hpurpose (by rw [hget, heq])
        simp [hne]
  · rw [if_pos (by simp [show v.getU64 "version" ≠ some 3 from hversion])]
    cases hget : v.getU64 "version" with
    | none => rfl
    | some version =>
      have hne : version ≠ toolBridgeContextVersion := fun heq => hversion (by rw [hget, heq])
      simp [hne]

theorem entry_expects {k : String} {v : Value} {entry : StreamToolBridgeContextEntry}
    (h : StreamToolBridgeContextEntry.fromValue k v = some entry) :
    entry.expectsCanonicalInputWrapper = true := by
  unfold StreamToolBridgeContextEntry.fromValue at h
  split at h
  · cases h
  obtain ⟨name, _, h⟩ := Option.bind_eq_some_iff.mp h
  split at h
  · cases h
  next hname =>
  obtain ⟨kind, _, h⟩ := Option.bind_eq_some_iff.mp h
  obtain ⟨transport, _, h⟩ := Option.bind_eq_some_iff.mp h
  obtain ⟨field, _, h⟩ := Option.bind_eq_some_iff.mp h
  obtain ⟨shape, _, h⟩ := Option.bind_eq_some_iff.mp h
  split at h
  · cases h
  next hshape =>
  obtain rfl := Option.some.inj h
  unfold StreamToolBridgeContextEntry.expectsCanonicalInputWrapper
  simp only [not_or, ne_eq, not_and, Decidable.not_not] at hname hshape
  obtain ⟨hempty, rfl⟩ := hname
  obtain ⟨hkind, rfl, rfl, rfl⟩ := hshape
  have hkinds : kind = "custom_text" ∨ kind = "custom_grammar" := by
    by_cases htext : kind = "custom_text"
    · exact .inl htext
    · exact .inr (hkind htext)
  rcases hkinds with rfl | rfl
  · simp [hempty]
  · simp [hempty]

theorem context_read {v : Value} {ctx : StreamToolBridgeContext}
    (h : StreamToolBridgeContext.fromValue v = some ctx) :
    ctx.version = toolBridgeContextVersion ∧ ctx.purpose = toolBridgeContextPurpose ∧
      ∀ e ∈ ctx.entries, ∃ v, StreamToolBridgeContextEntry.fromValue e.1 v = some e.2 := by
  obtain ⟨version, _, h⟩ := Option.bind_eq_some_iff.mp h
  split at h
  · cases h
  next hversion =>
  obtain ⟨purpose, _, h⟩ := Option.bind_eq_some_iff.mp h
  split at h
  · cases h
  next hpurpose =>
  obtain ⟨entries, hentries, h⟩ := Option.bind_eq_some_iff.mp h
  obtain ⟨namespaceEntries, _, h⟩ := Option.bind_eq_some_iff.mp h
  split at h
  · cases h
  · obtain rfl := Option.some.inj h
    exact ⟨Decidable.not_not.mp hversion, Decidable.not_not.mp hpurpose,
      contextEntries_read hentries⟩

theorem expectsWrapper_stream (bridgeContext : Option Value) (name : String) :
    requestScopedCustomBridgeExpectsWrapperStream bridgeContext name =
      expectsWrapper (bridgeContext.bind ToolBridgeContext.fromValue) name := by
  cases bridgeContext with
  | none => rfl
  | some v =>
    unfold requestScopedCustomBridgeExpectsWrapperStream expectsWrapper
    rw [Option.bind_some, Option.bind_some, context_map]
    cases hctx : StreamToolBridgeContext.fromValue v with
    | none => rfl
    | some ctx =>
      obtain ⟨hversion, hpurpose, hentries⟩ := context_read hctx
      show ctx.expectsCanonicalInputWrapper name = ctx.toContext.expectsCanonicalInputWrapper name
      unfold StreamToolBridgeContext.expectsCanonicalInputWrapper
        ToolBridgeContext.expectsCanonicalInputWrapper StreamToolBridgeContext.toContext
      rw [lookup_map, hversion, hpurpose]
      cases hlookup : ctx.entries.lookup name with
      | none => rfl
      | some entry =>
        obtain ⟨v, hentry⟩ := hentries _ (mem_of_lookup hlookup)
        simp [entry_expects hentry]

theorem namespaceSplit_stream (bridgeContext : Option Value) (name : String) :
    requestScopedNamespaceBridgeLookupStream bridgeContext name =
      (bridgeContext.bind ToolBridgeContext.fromValue).bind
        (ToolBridgeContext.namespaceBridgeSplit · name) := by
  cases bridgeContext with
  | none => rfl
  | some v =>
    unfold requestScopedNamespaceBridgeLookupStream
    rw [Option.bind_some, Option.bind_some, context_map]
    cases StreamToolBridgeContext.fromValue v with
    | none => rfl
    | some ctx =>
      show ctx.namespaceBridgeSplit name = ctx.toContext.namespaceBridgeSplit name
      unfold StreamToolBridgeContext.namespaceBridgeSplit ToolBridgeContext.namespaceBridgeSplit
        StreamToolBridgeContext.toContext
      rw [lookup_map]
      cases ctx.namespaceEntries.lookup name with
      | none => rfl
      | some entry => rfl

end LlmUniversalProxy.Streaming
