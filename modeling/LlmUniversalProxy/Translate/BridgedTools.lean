import LlmUniversalProxy.Translate.ToolDefinitions
import Mathlib.Data.List.Nodup

/-!
# `Translate.BridgedTools` — the names that bridged tools are sent under

The context of a request's bridged tools is built from its definitions. A tool of a namespace goes
out under the name of the namespace, two underscores and its own name, and either of them may hold
underscores: that these names can be told apart is not due to their form but to the search for
conflicts, which refuses a request as soon as one of them comes twice or is that of another tool.

The source is `translate/internal/tools.rs` 946-1055.
-/

set_option autoImplicit false

namespace LlmUniversalProxy.Translate

open Json Lib

/-! ## The context of a list of tools -/

/-- `openai_custom_tool_format_is_plain_text` (`translate/internal/tools.rs` 310-319). -/
def openaiCustomToolFormatIsPlainText : Option Value → Bool
  | none => true
  | some .null => true
  | some (.string kind) => kind = "text"
  | some (.object fields) =>
      (Value.object fields).getStr "type" = some "text" && fields.length = 1
  | some _ => false

/-- `request_scoped_custom_bridge_source_kind`. -/
def requestScopedCustomBridgeSourceKind (custom : NormalizedOpenAiFamilyCustomTool) :
    ToolBridgeSourceKind :=
  if openaiCustomToolFormatIsPlainText custom.format then .customText else .customGrammar

/-- `ToolBridgeContextEntry::from_custom`. -/
def ToolBridgeContextEntry.fromCustom (custom : NormalizedOpenAiFamilyCustomTool) :
    ToolBridgeContextEntry := ⟨custom.name, requestScopedCustomBridgeSourceKind custom⟩

/-- One round of the loop of `request_scoped_openai_custom_bridge_context`. -/
def ToolBridgeContext.addTool (ctx : ToolBridgeContext) :
    NormalizedOpenAiFamilyToolDef → ToolBridgeContext
  | .custom custom =>
      { ctx with entries := insertSorted custom.name (.fromCustom custom) ctx.entries }
  | .namespaceOf name _ children =>
      let namespaceEntries := children.foldl (fun entries child =>
        insertSorted (flatToolName name child.name) ⟨name, child.name⟩ entries) ctx.namespaceEntries
      { ctx with namespaceEntries := namespaceEntries }
  | .function _ => ctx

/-- `request_scoped_openai_custom_bridge_context`. -/
def requestScopedOpenaiCustomBridgeContext (tools : List NormalizedOpenAiFamilyToolDef) :
    Option ToolBridgeContext :=
  let ctx := tools.foldl ToolBridgeContext.addTool {}
  if ctx.entries.isEmpty && ctx.namespaceEntries.isEmpty then none else some ctx

/-! ## Conflicts -/

/-- The names that plain functions are declared under. -/
def functionNames (tools : List NormalizedOpenAiFamilyToolDef) : List String :=
  tools.filterMap fun tool =>
    match tool with
    | .function function => some function.name
    | _ => none

/-- The names that custom tools are declared under. -/
def customNames (tools : List NormalizedOpenAiFamilyToolDef) : List String :=
  tools.filterMap fun tool =>
    match tool with
    | .custom custom => some custom.name
    | _ => none

/-- The entries of one definition, by the name that each is sent under. -/
def childEntries : NormalizedOpenAiFamilyToolDef → List (String × NamespaceBridgeContextEntry)
  | .namespaceOf name _ children =>
      children.map fun child => (flatToolName name child.name, ⟨name, child.name⟩)
  | _ => []

/-- The loop of `request_scoped_openai_namespace_bridge_conflict_name`, over all flat names. -/
def conflictAmong (userNames : List String) : List String → List String → Option String
  | _, [] => none
  | generated, flat :: rest =>
      if (validatePublicToolNameNotReserved flat).toBool = false then some flat
      else if userNames.contains flat then some flat
      else if generated.contains flat then some flat
      else conflictAmong userNames (flat :: generated) rest

/-- `request_scoped_openai_namespace_bridge_conflict_name`. -/
def requestScopedOpenaiNamespaceBridgeConflictName (tools : List NormalizedOpenAiFamilyToolDef) :
    Option String :=
  conflictAmong (functionNames tools ++ customNames tools) []
    ((tools.flatMap childEntries).map Prod.fst)

/-- `request_scoped_openai_custom_bridge_conflict_name`: the least name of both kinds. -/
def requestScopedOpenaiCustomBridgeConflictName (tools : List NormalizedOpenAiFamilyToolDef) :
    Option String :=
  ((insertAll [] ((functionNames tools).map fun name => (name, ()))).map Prod.fst).find? fun name =>
    (customNames tools).contains name

/-! ## What a client declares -/

/-- A tool as its client knows it. -/
inductive DeclaredTool where
  | function (name : String)
  | custom (name : String)
  | child (namespaceName name : String)
  deriving DecidableEq, Repr

def DeclaredTool.flatName : DeclaredTool → String
  | function name => name
  | custom name => name
  | child namespaceName name => flatToolName namespaceName name

/-- The tools of one definition. -/
def declaredBy : NormalizedOpenAiFamilyToolDef → List DeclaredTool
  | .function function => [.function function.name]
  | .custom custom => [.custom custom.name]
  | .namespaceOf name _ children => children.map fun child => .child name child.name

/-- All tools of a request. -/
def declaredTools (tools : List NormalizedOpenAiFamilyToolDef) : List DeclaredTool :=
  tools.flatMap declaredBy

section

variable {tools : List NormalizedOpenAiFamilyToolDef}

theorem function_mem_declared {name : String} :
    .function name ∈ declaredTools tools ↔ name ∈ functionNames tools := by
  simp only [declaredTools, functionNames, List.mem_flatMap, List.mem_filterMap]
  constructor
  · rintro ⟨tool, htool, hmem⟩
    cases tool with
    | function function => exact ⟨_, htool, by simpa [declaredBy, eq_comm] using hmem⟩
    | custom custom => simp [declaredBy] at hmem
    | namespaceOf ns description children => simp [declaredBy] at hmem
  · rintro ⟨tool, htool, hname⟩
    cases tool with
    | function function => exact ⟨_, htool, by simpa [declaredBy, eq_comm] using hname⟩
    | custom custom => cases hname
    | namespaceOf ns description children => cases hname

theorem custom_mem_declared {name : String} :
    .custom name ∈ declaredTools tools ↔ name ∈ customNames tools := by
  simp only [declaredTools, customNames, List.mem_flatMap, List.mem_filterMap]
  constructor
  · rintro ⟨tool, htool, hmem⟩
    cases tool with
    | function function => simp [declaredBy] at hmem
    | custom custom => exact ⟨_, htool, by simpa [declaredBy, eq_comm] using hmem⟩
    | namespaceOf ns description children => simp [declaredBy] at hmem
  · rintro ⟨tool, htool, hname⟩
    cases tool with
    | function function => cases hname
    | custom custom => exact ⟨_, htool, by simpa [declaredBy, eq_comm] using hname⟩
    | namespaceOf ns description children => cases hname

theorem child_mem_declared {namespaceName child : String} :
    .child namespaceName child ∈ declaredTools tools ↔
      (flatToolName namespaceName child, ⟨namespaceName, child⟩) ∈ tools.flatMap childEntries := by
  simp only [declaredTools, List.mem_flatMap]
  refine exists_congr fun tool => and_congr_right fun _ => ?_
  cases tool with
  | function function => simp [declaredBy, childEntries]
  | custom custom => simp [declaredBy, childEntries]
  | namespaceOf ns description children =>
    simp only [declaredBy, childEntries, List.mem_map]
    refine exists_congr fun function => and_congr_right fun _ => ?_
    constructor
    · intro heq
      cases heq
      rfl
    · intro heq
      cases (Prod.mk.inj heq).2
      rfl

/-! ## No conflict -/

theorem conflictAmong_none {userNames generated flats : List String}
    (h : conflictAmong userNames generated flats = none) :
    flats.Nodup ∧ ∀ flat ∈ flats, flat ∉ userNames ∧ flat ∉ generated := by
  induction flats generalizing generated with
  | nil => exact ⟨List.nodup_nil, fun flat hmem => by cases hmem⟩
  | cons flat rest ih =>
    unfold conflictAmong at h
    split at h
    · cases h
    split at h
    · cases h
    next huser =>
    split at h
    · cases h
    next hgenerated =>
    obtain ⟨hnodup, hrest⟩ := ih h
    constructor
    · refine List.nodup_cons.mpr ⟨fun hmem => ?_, hnodup⟩
      exact (hrest flat hmem).2 List.mem_cons_self
    · intro other hother
      rcases List.mem_cons.mp hother with rfl | hother
      · exact ⟨by simpa using huser, by simpa using hgenerated⟩
      · obtain ⟨hnot, hfresh⟩ := hrest other hother
        exact ⟨hnot, fun hmem => hfresh (List.mem_cons_of_mem _ hmem)⟩

theorem customConflict_none (h : requestScopedOpenaiCustomBridgeConflictName tools = none)
    {name : String} (hfunction : name ∈ functionNames tools) : name ∉ customNames tools := by
  intro hcustom
  have hmem : (name, ()) ∈ insertAll [] ((functionNames tools).map fun name => (name, ())) := by
    have hsome : ((insertAll [] ((functionNames tools).map fun name =>
        (name, ()))).lookup name).isSome = true :=
      isSome_lookup_insertAll (.inl (by simpa using hfunction))
    obtain ⟨_, hlookup⟩ := Option.isSome_iff_exists.mp hsome
    exact mem_of_lookup hlookup
  have hnot := List.find?_eq_none.mp h name (List.mem_map.mpr ⟨_, hmem, rfl⟩)
  simp [hcustom] at hnot

theorem childName_new (h : requestScopedOpenaiNamespaceBridgeConflictName tools = none)
    {namespaceName name : String} (hchild : .child namespaceName name ∈ declaredTools tools) :
    flatToolName namespaceName name ∉ functionNames tools ∧
      flatToolName namespaceName name ∉ customNames tools := by
  obtain ⟨-, hnew⟩ := conflictAmong_none h
  have hmem := List.mem_map_of_mem (f := Prod.fst) (child_mem_declared.mp hchild)
  obtain ⟨huser, -⟩ := hnew _ hmem
  simpa using huser

/-- **Without a conflict, different tools have different names upstream.** -/
theorem flatName_injOn (hcustom : requestScopedOpenaiCustomBridgeConflictName tools = none)
    (hnamespace : requestScopedOpenaiNamespaceBridgeConflictName tools = none)
    {a b : DeclaredTool} (ha : a ∈ declaredTools tools) (hb : b ∈ declaredTools tools)
    (heq : a.flatName = b.flatName) : a = b := by
  cases a with
  | function name =>
    cases b with
    | function name' => exact congrArg _ heq
    | custom name' =>
      obtain rfl : name = name' := heq
      exact absurd (custom_mem_declared.mp hb)
        (customConflict_none hcustom (function_mem_declared.mp ha))
    | child namespaceName name' =>
      obtain rfl : name = flatToolName namespaceName name' := heq
      exact absurd (function_mem_declared.mp ha) (childName_new hnamespace hb).1
  | custom name =>
    cases b with
    | function name' =>
      obtain rfl : name = name' := heq
      exact absurd (custom_mem_declared.mp ha)
        (customConflict_none hcustom (function_mem_declared.mp hb))
    | custom name' => exact congrArg _ heq
    | child namespaceName name' =>
      obtain rfl : name = flatToolName namespaceName name' := heq
      exact absurd (custom_mem_declared.mp ha) (childName_new hnamespace hb).2
  | child namespaceName name =>
    cases b with
    | function name' =>
      obtain rfl : flatToolName namespaceName name = name' := heq
      exact absurd (function_mem_declared.mp hb) (childName_new hnamespace ha).1
    | custom name' =>
      obtain rfl : flatToolName namespaceName name = name' := heq
      exact absurd (custom_mem_declared.mp hb) (childName_new hnamespace ha).2
    | child namespaceName' name' =>
      obtain ⟨hnodup, -⟩ := conflictAmong_none hnamespace
      have hsame := List.inj_on_of_nodup_map hnodup (child_mem_declared.mp ha)
        (child_mem_declared.mp hb) heq
      cases (Prod.mk.inj hsame).2
      rfl

/-! ## The context says what a name was joined from -/

def customEntries (tools : List NormalizedOpenAiFamilyToolDef) :
    List (String × ToolBridgeContextEntry) :=
  tools.filterMap fun tool =>
    match tool with
    | .custom custom => some (custom.name, .fromCustom custom)
    | _ => none

theorem foldl_addTool (ctx : ToolBridgeContext) :
    tools.foldl ToolBridgeContext.addTool ctx = ⟨insertAll ctx.entries (customEntries tools),
      insertAll ctx.namespaceEntries (tools.flatMap childEntries)⟩ := by
  induction tools generalizing ctx with
  | nil => rfl
  | cons tool tools ih =>
    rw [List.foldl_cons, ih]
    cases tool with
    | function function => rfl
    | custom custom => rfl
    | namespaceOf name description children =>
      simp only [ToolBridgeContext.addTool, customEntries, List.flatMap_cons, childEntries,
        List.filterMap_cons, insertAll, List.foldl_append, List.foldl_map]

/-- The entries of a context are in order, and each can be read back. -/
structure ToolBridgeContext.IsReadable (ctx : ToolBridgeContext) : Prop where
  sorted : Sorted ctx.entries
  sortedNamespace : Sorted ctx.namespaceEntries
  entry : ∀ e ∈ ctx.entries, PublicName e.1 ∧ e.2.stableName = e.1
  namespaceEntry : ∀ e ∈ ctx.namespaceEntries, e.2.namespaceName ≠ "" ∧ e.2.child ≠ "" ∧
    e.1 = flatToolName e.2.namespaceName e.2.child

/-- What is built from public definitions can be read back. -/
theorem isReadable_of_public (hpublic : ∀ tool ∈ tools, tool.IsPublic) :
    (tools.foldl ToolBridgeContext.addTool {}).IsReadable := by
  rw [foldl_addTool]
  refine ⟨sorted_insertAll List.Pairwise.nil, sorted_insertAll List.Pairwise.nil, ?_, ?_⟩
  · intro e he
    rcases mem_insertAll he with he | he
    · obtain ⟨tool, htool, heq⟩ := List.mem_filterMap.mp he
      have hname := hpublic tool htool
      cases tool with
      | function function => cases heq
      | custom custom =>
        cases heq
        exact ⟨hname, rfl⟩
      | namespaceOf name description children => cases heq
    · cases he
  · intro e he
    rcases mem_insertAll he with he | he
    · obtain ⟨tool, htool, heq⟩ := List.mem_flatMap.mp he
      have hname := hpublic tool htool
      cases tool with
      | function function => cases heq
      | custom custom => cases heq
      | namespaceOf name description children =>
        obtain ⟨child, hchild, rfl⟩ := List.mem_map.mp heq
        exact ⟨hname.1.1, (hname.2 child hchild).1, rfl⟩
    · cases he

/-- A child's name is split into what it was joined from. -/
theorem split_of_child (hnamespace : requestScopedOpenaiNamespaceBridgeConflictName tools = none)
    {namespaceName name : String} (hchild : .child namespaceName name ∈ declaredTools tools) :
    (tools.foldl ToolBridgeContext.addTool {}).namespaceBridgeSplit
      (flatToolName namespaceName name) = some (namespaceName, name) := by
  obtain ⟨hnodup, -⟩ := conflictAmong_none hnamespace
  rw [foldl_addTool]
  show ((insertAll [] (tools.flatMap childEntries)).lookup _).map _ = _
  rw [lookup_insertAll hnodup (child_mem_declared.mp hchild)]
  rfl

theorem noWrapper_of_child
    (hnamespace : requestScopedOpenaiNamespaceBridgeConflictName tools = none)
    {namespaceName name : String} (hchild : .child namespaceName name ∈ declaredTools tools) :
    (tools.foldl ToolBridgeContext.addTool {}).expectsCanonicalInputWrapper
      (flatToolName namespaceName name) = false := by
  have hnew := (childName_new hnamespace hchild).2
  rw [foldl_addTool]
  show ((insertAll [] (customEntries tools)).lookup _).isSome = false
  rw [lookup_insertAll_of_notMem]
  · rfl
  · intro hmem
    obtain ⟨e, he, hkey⟩ := List.mem_map.mp hmem
    obtain ⟨tool, htool, heq⟩ := List.mem_filterMap.mp he
    refine hnew (List.mem_filterMap.mpr ⟨tool, htool, ?_⟩)
    cases tool with
    | function function => cases heq
    | custom custom =>
      cases heq
      exact congrArg some hkey
    | namespaceOf name description children => cases heq

theorem context_of_child (hnamespace : requestScopedOpenaiNamespaceBridgeConflictName tools = none)
    {namespaceName name : String} (hchild : .child namespaceName name ∈ declaredTools tools) :
    requestScopedOpenaiCustomBridgeContext tools =
      some (tools.foldl ToolBridgeContext.addTool {}) := by
  have hsplit := split_of_child hnamespace hchild
  unfold requestScopedOpenaiCustomBridgeContext
  refine if_neg fun hempty => ?_
  rw [Bool.and_eq_true, List.isEmpty_iff, List.isEmpty_iff] at hempty
  unfold ToolBridgeContext.namespaceBridgeSplit at hsplit
  rw [hempty.2] at hsplit
  cases hsplit

end

/-! ## There and back -/

/-- The entries of a map, written as the fields of an object and read again. -/
theorem entriesFrom_ofFields {α β : Type} {fromValue : String → Value → Option β}
    {toValue : α → Value} {φ : α → β} {entries : List (String × α)} (hsorted : Sorted entries)
    (hread : ∀ e ∈ entries, fromValue e.1 (toValue e.2) = some (φ e.2)) :
    ToolBridgeContext.entriesFrom fromValue
      (some (.ofFields (entries.map fun e => (e.1, toValue e.2)))) =
        some (entries.map fun e => (e.1, φ e.2)) := by
  have hobject : (Value.ofFields (entries.map fun e => (e.1, toValue e.2))).asObject =
      some (entries.map fun e => (e.1, toValue e.2)) := by
    refine congrArg some (foldr_insertSorted ?_)
    exact List.pairwise_map.mpr hsorted
  unfold ToolBridgeContext.entriesFrom
  rw [Option.bind_some, hobject, Option.getD_some]
  clear hsorted hobject
  induction entries with
  | nil => rfl
  | cons e entries ih =>
    rw [List.map_cons, List.mapM_cons, hread e List.mem_cons_self,
      ih fun f hf => hread f (List.mem_cons_of_mem _ hf)]
    rfl

theorem ToolBridgeContextEntry.fromValue_toValue {name : String} {entry : ToolBridgeContextEntry}
    (hname : PublicName name) (hstable : entry.stableName = name) :
    fromValue name entry.toValue = some entry := by
  obtain ⟨stableName, sourceKind⟩ := entry
  obtain rfl : stableName = name := hstable
  obtain ⟨hne, hreserved⟩ := hname
  cases sourceKind <;>
    simp [fromValue, toValue, Value.getStr, List.lookup_cons, hreserved, hne,
      ToolBridgeSourceKind.asStr, ToolBridgeSourceKind.fromStr]

theorem NamespaceBridgeContextEntry.fromValue_toValue {entry : NamespaceBridgeContextEntry}
    (hnamespace : entry.namespaceName ≠ "") (hchild : entry.child ≠ "") :
    fromValue (flatToolName entry.namespaceName entry.child) entry.toValue = some entry := by
  simp [fromValue, toValue, Value.getStr, List.lookup_cons, hnamespace, hchild]

/-- **A context that is written down reads back as itself.** -/
theorem ToolBridgeContext.fromValue_toValue {ctx : ToolBridgeContext} (h : ctx.IsReadable)
    (hentries : (ctx.entries.isEmpty && ctx.namespaceEntries.isEmpty) = false) :
    fromValue ctx.toValue = some ctx := by
  have hread : entriesFrom ToolBridgeContextEntry.fromValue _ = some _ :=
    @entriesFrom_ofFields _ _ _ _ id _ h.sorted fun e he =>
      ToolBridgeContextEntry.fromValue_toValue (h.entry e he).1 (h.entry e he).2
  have hreadNamespace : entriesFrom NamespaceBridgeContextEntry.fromValue _ = some _ :=
    @entriesFrom_ofFields _ _ _ _ id _ h.sortedNamespace fun e he => by
      obtain ⟨hnamespace, hchild, hflat⟩ := h.namespaceEntry e he
      rw [hflat]
      exact NamespaceBridgeContextEntry.fromValue_toValue hnamespace hchild
  have hcontext : ctx.entries = [] → ctx.namespaceEntries ≠ [] := by
    intro hnil hnil'
    simp [hnil, hnil'] at hentries
  unfold fromValue toValue
  simp only [Value.getU64, Value.getStr, Value.get_ofFields, List.lookup_cons, beq_self_eq_true]
  simpa [hread, hreadNamespace] using hcontext

end LlmUniversalProxy.Translate
