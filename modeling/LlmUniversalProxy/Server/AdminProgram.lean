import LlmUniversalProxy.Server.AdminRegistry

/-!
# `Server.AdminProgram` — the handlers as a program under the three locks

`adminCode_cases` says once what a step of a handler can do: something that writes nothing, or one
of three assignments. `Pc.Asserts` says what a handler knows about the shared state at each program
point while it holds `admin_update_lock`: above all, that the revision it was asked to replace is
still the current one, and that what it has rebuilt is still what it read.
-/

set_option autoImplicit false

namespace LlmUniversalProxy.Server

open Lib

/-! ## The handlers as a program under locks -/

/-- What a step does to the guards of its task. -/
def MovesGuards (action : AdminAction) (before after : List (Guard Lock)) : Prop :=
  match action with
  | .acquire guard => after = guard :: before ∧ ∀ other ∈ before, other.lock ≠ guard.lock
  | .release guard => before = guard :: after
  | .write _ | .silent => after = before

theorem MovesGuards.acquire {guard : Guard Lock} {before : List (Guard Lock)}
    (hfresh : ∀ other ∈ before, other.lock ≠ guard.lock) :
    MovesGuards (.acquire guard) before (guard :: before) := ⟨rfl, hfresh⟩

theorem advanceNamespaceConfig_guards (host : Host) (discovery : Discovery) (app : AppState)
    (namespaceName : String) (ifRevision : Option String) (config : Config) (revision : String)
    (pc : NamespacePc) :
    MovesGuards
      (advanceNamespaceConfig host discovery app namespaceName ifRevision config revision pc).1
      pc.guards
      (advanceNamespaceConfig host discovery app namespaceName ifRevision config revision
        pc).2.guards := by
  cases pc with
  | awaitAdminUpdate | awaitAccess | awaitRevision | awaitRuntime =>
    exact MovesGuards.acquire (by simp [NamespacePc.guards])
  | readAccess | readRevision | insert => rfl
  | validateConfig | checkRevision | building | recheckRevision =>
    simp only [advanceNamespaceConfig]
    split <;> rfl

theorem advanceDataAuthConfig_guards (host : Host) (discovery : Discovery) (app : AppState)
    (ifRevision : Option String) (next : RuntimeDataAuthState) (pc : DataAuthPc) :
    MovesGuards (advanceDataAuthConfig host discovery app ifRevision next pc).1 pc.guards
      (advanceDataAuthConfig host discovery app ifRevision next pc).2.guards := by
  cases pc with
  | awaitAdminUpdate | awaitSnapshot | awaitInputs | awaitRuntime | awaitDataAuth =>
    exact MovesGuards.acquire (by simp [DataAuthPc.guards])
  | readSnapshot | readInputs | setNamespaces | setDataAuth => rfl
  | checkSnapshot | recheckRevision =>
    simp only [advanceDataAuthConfig]
    split <;> rfl
  | rebuilding inputs rebuilt =>
    cases inputs with
    | nil => rfl
    | cons input inputs =>
      simp only [advanceDataAuthConfig]
      split <;> rfl

theorem advanceAuthContext_guards (app : AppState) (headers : HeaderMap) (pc : ContextPc) :
    MovesGuards (advanceAuthContext app headers pc).1 pc.guards
      (advanceAuthContext app headers pc).2.guards := by
  cases pc with
  | awaitRuntime | awaitDataAuth => exact MovesGuards.acquire (by simp [ContextPc.guards])
  | authorize =>
    simp only [advanceAuthContext]
    split <;> rfl

theorem advanceStart_guards (host : Host) (request : Request) :
    (advanceStart host request).guards = [] := by
  cases request with
  | namespaceConfig _ body _ => cases body <;> rfl
  | dataAuthConfig body _ =>
    cases body with
    | error _ => rfl
    | ok request => simp only [advanceStart]; split <;> rfl
  | authContext _ => rfl

theorem adminCode_guards {host : Host} {app : AppState} {pc pc' : Pc} {action : AdminAction}
    (h : AdminCode host app pc action pc') : MovesGuards action pc.guards pc'.guards := by
  cases h with
  | drop _ => rfl
  | advance discovery h =>
    cases pc with
    | start request => cases h; exact advanceStart_guards host request
    | namespaceConfig n i c r pc =>
      have hstep := advanceNamespaceConfig_guards host discovery app n i c r pc
      rw [show advanceNamespaceConfig host discovery app n i c r pc = (action, pc') from
        Option.some.inj h] at hstep
      exact hstep
    | dataAuthConfig i n pc =>
      have hstep := advanceDataAuthConfig_guards host discovery app i n pc
      rw [show advanceDataAuthConfig host discovery app i n pc = (action, pc') from
        Option.some.inj h] at hstep
      exact hstep
    | authContext headers pc =>
      have hstep := advanceAuthContext_guards app headers pc
      rw [show advanceAuthContext app headers pc = (action, pc') from Option.some.inj h] at hstep
      exact hstep
    | finish response guards => cases guards <;> cases h <;> rfl
    | done response => cases h

/-- The handlers and readers, as a program under the three locks. -/
def adminProgram (host : Host) : Program Pc Lock Change AppState where
  code := AdminCode host
  apply := Change.apply
  guards := Pc.guards
  acquire_guards h := adminCode_guards h
  release_guards h := adminCode_guards h
  write_guards h := adminCode_guards h
  silent_guards h := adminCode_guards h

/-! ## What a handler knows at its program points -/

theorem validateAdminCasPrecondition_eq_none {current ifRevision : Option String}
    (h : validateAdminCasPrecondition current ifRevision = none) : current = ifRevision := by
  unfold validateAdminCasPrecondition at h
  split at h
  · rfl
  · cases h
  · split at h
    · next e => rw [e]
    · cases h
  · cases h

theorem validateAdminCasPrecondition_not_applied {current ifRevision : Option String}
    {response : Response} (h : validateAdminCasPrecondition current ifRevision = some response) :
    response.isApplied = false := by
  unfold validateAdminCasPrecondition at h
  split at h
  · cases h
  · cases h; rfl
  · split at h <;> cases h; rfl
  · cases h; rfl

/-- Every namespace has the provider keys of `access`. -/
def AllBuilt (host : Host) (access : DataAccess) (namespaces : SortedMap RuntimeNamespaceState) :
    Prop :=
  ∀ namespaceName state, namespaces.lookup namespaceName = some state →
    state.BuiltFrom host access

/-- `rebuilt` holds the namespaces of `entries`, with the same revisions and configurations, and
with the provider keys of `access`. -/
structure Rebuilt (host : Host) (access : DataAccess)
    (entries : List (String × RuntimeNamespaceState))
    (rebuilt : SortedMap RuntimeNamespaceState) : Prop where
  built : AllBuilt host access rebuilt
  same : ∀ namespaceName, (rebuilt.lookup namespaceName).map RuntimeNamespaceState.entry =
    (entries.lookup namespaceName).map RuntimeNamespaceState.entry

theorem Rebuilt.insert {host : Host} {access : DataAccess}
    {entries rest : List (String × RuntimeNamespaceState)} {namespaceName : String}
    {old state : RuntimeNamespaceState} {rebuilt : SortedMap RuntimeNamespaceState}
    (h : Rebuilt host access entries rebuilt)
    (hsorted : Sorted (entries ++ (namespaceName, old) :: rest))
    (hentry : state.entry = old.entry) (hbuilt : state.BuiltFrom host access) :
    Rebuilt host access (entries ++ [(namespaceName, old)])
      (rebuilt.insert namespaceName state) := by
  refine ⟨fun name s hs => ?_, fun name => ?_⟩
  · rw [SortedMap.lookup_insert] at hs
    split at hs
    · exact Option.some.inj hs ▸ hbuilt
    · exact h.built name s hs
  · have hnone : entries.lookup namespaceName = none := by
      rw [List.lookup_eq_none_iff]
      intro e he
      have hlt : e.1 < namespaceName :=
        (List.pairwise_append.mp hsorted).2.2 e he _ List.mem_cons_self
      exact bne_iff_ne.mpr (String.ne_of_lt hlt).symm
    rw [SortedMap.lookup_insert, List.lookup_append]
    by_cases hname : name = namespaceName
    · subst hname
      simp [hnone, hentry]
    · simp [hname, List.lookup_cons, beq_eq_false_iff_ne.mpr hname, h.same name]

def NamespacePc.Asserts (host : Host) (app : AppState) (namespaceName : String)
    (ifRevision : Option String) (config : Config) (revision : String) : NamespacePc → Prop
  | .awaitAdminUpdate | .awaitAccess | .readAccess => True
  | .validateConfig access | .awaitRevision access | .readRevision access =>
      app.dataAuth.access = access
  | .checkRevision access current => app.dataAuth.access = access ∧
      current =
        (app.runtime.namespaces.lookup namespaceName).map RuntimeNamespaceState.revision
  | .building access => app.dataAuth.access = access ∧
      (app.runtime.namespaces.lookup namespaceName).map RuntimeNamespaceState.revision = ifRevision
  | .awaitRuntime access state | .recheckRevision access state | .insert access state =>
      app.dataAuth.access = access ∧
      (app.runtime.namespaces.lookup namespaceName).map RuntimeNamespaceState.revision =
        ifRevision ∧
      state.entry = (revision, config) ∧ state.BuiltFrom host access

def DataAuthPc.Asserts (host : Host) (app : AppState) (ifRevision : Option String)
    (next : RuntimeDataAuthState) : DataAuthPc → Prop
  | .awaitAdminUpdate | .awaitSnapshot | .readSnapshot => True
  | .checkSnapshot current => current = app.dataAuth.revision
  | .awaitInputs | .readInputs => some app.dataAuth.revision = ifRevision
  | .rebuilding inputs rebuilt => some app.dataAuth.revision = ifRevision ∧
      ∃ finished rest, app.runtime.namespaces.entries = finished ++ rest ∧
        inputs = rest.map (fun entry => (entry.1, entry.2.revision, entry.2.config)) ∧
        Rebuilt host next.access finished rebuilt
  | .awaitRuntime rebuilt | .awaitDataAuth rebuilt | .recheckRevision rebuilt
  | .setNamespaces rebuilt => some app.dataAuth.revision = ifRevision ∧
      Rebuilt host next.access app.runtime.namespaces.entries rebuilt
  | .setDataAuth => some app.dataAuth.revision = ifRevision ∧
      AllBuilt host next.access app.runtime.namespaces

/-- What a task at a program point knows of the shared state, while it holds the admin lock. -/
def Pc.Asserts (host : Host) (app : AppState) : Pc → Prop
  | .namespaceConfig namespaceName ifRevision config revision pc =>
      pc.Asserts host app namespaceName ifRevision config revision
  | .dataAuthConfig ifRevision next pc => pc.Asserts host app ifRevision next
  | _ => True

theorem advanceNamespaceConfig_asserts {host : Host} {app : AppState}
    {namespaceName : String} {ifRevision : Option String} {config : Config} {revision : String}
    {pc : NamespacePc} (discovery : Discovery)
    (h : pc.Asserts host app namespaceName ifRevision config revision) :
    (advanceNamespaceConfig host discovery app namespaceName ifRevision config revision
      pc).2.Asserts host
        ((advanceNamespaceConfig host discovery app namespaceName ifRevision config revision
          pc).1.sharedAfter Change.apply app) := by
  cases pc with
  | awaitAdminUpdate | awaitAccess => trivial
  | readAccess => exact rfl
  | awaitRevision | awaitRuntime => exact h
  | readRevision access => exact ⟨h, rfl⟩
  | insert => trivial
  | validateConfig access =>
    simp only [advanceNamespaceConfig]
    split
    · trivial
    · exact h
  | checkRevision access current =>
    simp only [advanceNamespaceConfig]
    cases hcas : validateAdminCasPrecondition current ifRevision with
    | some response => trivial
    | none => exact ⟨h.1, h.2 ▸ validateAdminCasPrecondition_eq_none hcas⟩
  | building access =>
    simp only [advanceNamespaceConfig]
    cases hbuild : buildNamespace host discovery revision config access with
    | error response => trivial
    | ok state =>
      have hok : buildRuntimeNamespaceState host discovery revision config access = .ok state := by
        unfold buildNamespace at hbuild
        cases hres : buildRuntimeNamespaceState host discovery revision config access with
        | error e => rw [hres] at hbuild; cases hbuild
        | ok s => rw [hres] at hbuild; cases hbuild; rfl
      obtain ⟨hrev, hconfig, hbuilt⟩ := buildRuntimeNamespaceState_ok hok
      exact ⟨h.1, h.2, Prod.ext hrev hconfig, hbuilt⟩
  | recheckRevision access state =>
    simp only [advanceNamespaceConfig]
    split
    · trivial
    · exact h

theorem rebuildNamespace_ok {host : Host} {discovery : Discovery} {access : DataAccess}
    {namespaceName revision : String} {config : Config} {state : RuntimeNamespaceState}
    (h : rebuildNamespace host discovery access namespaceName revision config = .ok state) :
    state.entry = (revision, config) ∧ state.BuiltFrom host access := by
  unfold rebuildNamespace at h
  split at h
  · cases h
  · cases hres : buildRuntimeNamespaceState host discovery revision config access with
    | error e => rw [hres] at h; cases h
    | ok s =>
      rw [hres] at h
      cases h
      obtain ⟨hrev, hconfig, hbuilt⟩ := buildRuntimeNamespaceState_ok hres
      exact ⟨Prod.ext hrev hconfig, hbuilt⟩

theorem advanceDataAuthConfig_asserts {host : Host} {app : AppState}
    {ifRevision : Option String} {next : RuntimeDataAuthState} {pc : DataAuthPc}
    (discovery : Discovery) (h : pc.Asserts host app ifRevision next) :
    (advanceDataAuthConfig host discovery app ifRevision next pc).2.Asserts host
      ((advanceDataAuthConfig host discovery app ifRevision next pc).1.sharedAfter
        Change.apply app) := by
  cases pc with
  | awaitAdminUpdate | awaitSnapshot => trivial
  | readSnapshot => exact rfl
  | awaitInputs | awaitRuntime | awaitDataAuth => exact h
  | setDataAuth => trivial
  | setNamespaces rebuilt => exact ⟨h.1, h.2.built⟩
  | checkSnapshot current =>
    simp only [advanceDataAuthConfig]
    cases hcas : validateAdminCasPrecondition (some current) ifRevision with
    | some response => trivial
    | none =>
      have hrev : current = app.dataAuth.revision := h
      have hnow : some app.dataAuth.revision = ifRevision :=
        hrev ▸ validateAdminCasPrecondition_eq_none hcas
      exact hnow
  | recheckRevision rebuilt =>
    simp only [advanceDataAuthConfig]
    split
    · trivial
    · exact h
  | readInputs =>
    exact ⟨h, [], app.runtime.namespaces.entries, rfl, rfl,
      fun name state hs => by simp at hs, fun name => rfl⟩
  | rebuilding inputs rebuilt =>
    obtain ⟨hrev, finished, rest, hentries, hinputs, hrebuilt⟩ := h
    cases rest with
    | nil =>
      subst hinputs
      rw [List.append_nil] at hentries
      exact ⟨hrev, hentries ▸ hrebuilt⟩
    | cons entry rest =>
      subst hinputs
      obtain ⟨name, old⟩ := entry
      simp only [List.map_cons, advanceDataAuthConfig]
      cases hbuild : rebuildNamespace host discovery next.access name old.revision old.config with
      | error response => trivial
      | ok state =>
        obtain ⟨hentry, hbuilt⟩ := rebuildNamespace_ok hbuild
        have hsorted := app.runtime.namespaces.sorted
        rw [hentries] at hsorted
        have happend : app.runtime.namespaces.entries = finished ++ [(name, old)] ++ rest := by
          simp [hentries]
        exact ⟨hrev, finished ++ [(name, old)], rest, happend, rfl,
          hrebuilt.insert hsorted hentry hbuilt⟩

theorem adminCode_asserts {host : Host} {app : AppState} {pc pc' : Pc} {action : AdminAction}
    (h : pc.Asserts host app) (hcode : AdminCode host app pc action pc') :
    pc'.Asserts host (action.sharedAfter Change.apply app) := by
  cases hcode with
  | drop _ => trivial
  | advance discovery hadvance =>
    cases pc with
    | start request =>
      cases hadvance
      cases request with
      | namespaceConfig _ body _ => cases body <;> trivial
      | dataAuthConfig body _ =>
        cases body with
        | error _ => trivial
        | ok request => simp only [advanceStart]; split <;> trivial
      | authContext _ => trivial
    | namespaceConfig n i c r pc =>
      have hstep := advanceNamespaceConfig_asserts discovery h
      rw [show advanceNamespaceConfig host discovery app n i c r pc = (action, pc') from
        Option.some.inj hadvance] at hstep
      exact hstep
    | dataAuthConfig i n pc =>
      have hstep := advanceDataAuthConfig_asserts discovery h
      rw [show advanceDataAuthConfig host discovery app i n pc = (action, pc') from
        Option.some.inj hadvance] at hstep
      exact hstep
    | authContext headers pc =>
      have hstep : advanceAuthContext app headers pc = (action, pc') := Option.some.inj hadvance
      cases pc with
      | awaitRuntime | awaitDataAuth => cases hstep; trivial
      | authorize => simp only [advanceAuthContext] at hstep; split at hstep <;> cases hstep <;> trivial
    | finish response guards => cases guards <;> cases hadvance <;> trivial
    | done response => cases hadvance

/-! ## What a step can do -/

/-- A step of `handle_admin_namespace_config` moves on, gives up, or inserts the namespace. -/
theorem advanceNamespaceConfig_cases (host : Host) (discovery : Discovery) (app : AppState)
    (namespaceName : String) (ifRevision : Option String) (config : Config) (revision : String)
    (pc : NamespacePc) {action : AdminAction} {pc' : Pc}
    (h : advanceNamespaceConfig host discovery app namespaceName ifRevision config revision pc =
      (action, pc')) :
    ((∀ change, action ≠ .write change) ∧
      ((∃ pc'', pc' = .namespaceConfig namespaceName ifRevision config revision pc'') ∨
        ∃ response guards, pc' = .finish response guards ∧ response.isApplied = false)) ∨
    ∃ access state, pc = .insert access state ∧
      action = .write (.insertNamespace namespaceName state) ∧
      pc' = .finish (.namespaceApplied namespaceName revision) [runtimeWrite, adminGuard] := by
  cases pc with
  | awaitAdminUpdate | awaitAccess | awaitRevision | awaitRuntime | readAccess | readRevision =>
    cases h
    exact .inl ⟨by simp, .inl ⟨_, rfl⟩⟩
  | insert access state =>
    cases h
    exact .inr ⟨access, state, rfl, rfl, rfl⟩
  | validateConfig access =>
    simp only [advanceNamespaceConfig] at h
    split at h <;> cases h
    · exact .inl ⟨by simp, .inr ⟨_, _, rfl, rfl⟩⟩
    · exact .inl ⟨by simp, .inl ⟨_, rfl⟩⟩
  | checkRevision | recheckRevision =>
    simp only [advanceNamespaceConfig] at h
    split at h <;> cases h
    · next hcas =>
      exact .inl ⟨by simp, .inr ⟨_, _, rfl, validateAdminCasPrecondition_not_applied hcas⟩⟩
    · exact .inl ⟨by simp, .inl ⟨_, rfl⟩⟩
  | building access =>
    simp only [advanceNamespaceConfig, buildNamespace] at h
    cases hres : buildRuntimeNamespaceState host discovery revision config access with
    | error e =>
      rw [hres] at h
      cases h
      exact .inl ⟨by simp, .inr ⟨_, _, rfl, rfl⟩⟩
    | ok state =>
      rw [hres] at h
      cases h
      exact .inl ⟨by simp, .inl ⟨_, rfl⟩⟩

theorem rebuildNamespace_error {host : Host} {discovery : Discovery} {access : DataAccess}
    {namespaceName revision : String} {config : Config} {response : Response}
    (h : rebuildNamespace host discovery access namespaceName revision config = .error response) :
    response.isApplied = false := by
  unfold rebuildNamespace at h
  split at h
  · cases h
    rfl
  · cases hres : buildRuntimeNamespaceState host discovery revision config access with
    | error e => rw [hres] at h; cases h; rfl
    | ok s => rw [hres] at h; cases h

/-- A step of `handle_admin_data_auth_config` moves on, gives up, or makes one of its two
assignments. Only the first of them leads to the second. -/
theorem advanceDataAuthConfig_cases (host : Host) (discovery : Discovery) (app : AppState)
    (ifRevision : Option String) (next : RuntimeDataAuthState) (pc : DataAuthPc)
    {action : AdminAction} {pc' : Pc}
    (h : advanceDataAuthConfig host discovery app ifRevision next pc = (action, pc')) :
    (pc ≠ .setDataAuth ∧ (∀ change, action ≠ .write change) ∧
      ((∃ pc'', pc'' ≠ .setDataAuth ∧ pc' = .dataAuthConfig ifRevision next pc'') ∨
        ∃ response guards, pc' = .finish response guards ∧ response.isApplied = false)) ∨
    (∃ rebuilt, pc = .setNamespaces rebuilt ∧ action = .write (.setNamespaces rebuilt) ∧
      pc' = .dataAuthConfig ifRevision next .setDataAuth) ∨
    (pc = .setDataAuth ∧ action = .write (.setDataAuth next) ∧
      pc' = .finish (.dataAuthApplied next.revision next.config)
        [dataAuthWrite, runtimeWrite, adminGuard]) := by
  cases pc with
  | awaitAdminUpdate | awaitSnapshot | awaitInputs | awaitRuntime | awaitDataAuth | readSnapshot
  | readInputs =>
    cases h
    exact .inl ⟨by simp, by simp, .inl ⟨_, by simp, rfl⟩⟩
  | setNamespaces rebuilt =>
    cases h
    exact .inr (.inl ⟨rebuilt, rfl, rfl, rfl⟩)
  | setDataAuth =>
    cases h
    exact .inr (.inr ⟨rfl, rfl, rfl⟩)
  | checkSnapshot | recheckRevision =>
    simp only [advanceDataAuthConfig] at h
    split at h <;> cases h
    · next hcas =>
      exact .inl ⟨by simp, by simp,
        .inr ⟨_, _, rfl, validateAdminCasPrecondition_not_applied hcas⟩⟩
    · exact .inl ⟨by simp, by simp, .inl ⟨_, by simp, rfl⟩⟩
  | rebuilding inputs rebuilt =>
    cases inputs with
    | nil =>
      cases h
      exact .inl ⟨by simp, by simp, .inl ⟨_, by simp, rfl⟩⟩
    | cons input inputs =>
      simp only [advanceDataAuthConfig] at h
      split at h <;> cases h
      · next hbuild =>
        exact .inl ⟨by simp, by simp, .inr ⟨_, _, rfl, rebuildNamespace_error hbuild⟩⟩
      · exact .inl ⟨by simp, by simp, .inl ⟨_, by simp, rfl⟩⟩

theorem advanceAuthContext_cases (app : AppState) (headers : HeaderMap) (pc : ContextPc)
    {action : AdminAction} {pc' : Pc} (h : advanceAuthContext app headers pc = (action, pc')) :
    (∀ change, action ≠ .write change) ∧
      ((∃ pc'', pc' = .authContext headers pc'') ∨
        ∃ response guards, pc' = .finish response guards ∧ response.isApplied = false) := by
  cases pc with
  | awaitRuntime | awaitDataAuth =>
    cases h
    exact ⟨by simp, .inl ⟨_, rfl⟩⟩
  | authorize =>
    simp only [advanceAuthContext] at h
    split at h <;> cases h <;> exact ⟨by simp, .inr ⟨_, _, rfl, rfl⟩⟩

/-- How far a task has come with its write. -/
inductive Stage where
  | waiting
  | midway
  | answered (response : Response)

def Pc.stage : Pc → Stage
  | .dataAuthConfig _ _ .setDataAuth => .midway
  | .finish response _ | .done response => .answered response
  | _ => .waiting

/-- A step that writes nothing: an answered task stays answered, a waiting one waits on or is
answered with an error, and nothing but its second assignment is ahead of a task midway. -/
inductive Quiet (pc pc' : Pc) : Prop
  | waits : pc.stage = .waiting → pc'.stage = .waiting → Quiet pc pc'
  | fails (response : Response) : pc.stage = .waiting → pc'.stage = .answered response →
      response.isApplied = false → Quiet pc pc'
  | winds (response : Response) : pc.stage = .answered response →
      pc'.stage = .answered response → Quiet pc pc'

theorem stage_dataAuthConfig {ifRevision : Option String} {next : RuntimeDataAuthState}
    {pc : DataAuthPc} (h : pc ≠ .setDataAuth) :
    (Pc.dataAuthConfig ifRevision next pc).stage = .waiting := by
  cases pc <;> first | rfl | exact absurd rfl h

/-- **Everything a step can do**: something quiet, or one of the three assignments. -/
theorem adminCode_cases {host : Host} {app : AppState} {pc pc' : Pc} {action : AdminAction}
    (h : AdminCode host app pc action pc') :
    ((∀ change, action ≠ .write change) ∧ Quiet pc pc') ∨
    (∃ name ifRevision config revision access state,
      pc = .namespaceConfig name ifRevision config revision (.insert access state) ∧
      action = .write (.insertNamespace name state) ∧
      pc' = .finish (.namespaceApplied name revision) [runtimeWrite, adminGuard]) ∨
    (∃ ifRevision next rebuilt, pc = .dataAuthConfig ifRevision next (.setNamespaces rebuilt) ∧
      action = .write (.setNamespaces rebuilt) ∧
      pc' = .dataAuthConfig ifRevision next .setDataAuth) ∨
    ∃ ifRevision next, pc = .dataAuthConfig ifRevision next .setDataAuth ∧
      action = .write (.setDataAuth next) ∧
      pc' = .finish (.dataAuthApplied next.revision next.config)
        [dataAuthWrite, runtimeWrite, adminGuard] := by
  cases h with
  -- a dropped task gives back what it holds, so it only fails quietly
  | drop hawait =>
    refine .inl ⟨by simp, .fails .dropped ?_ rfl rfl⟩
    cases pc with
    | dataAuthConfig i n pc =>
      refine stage_dataAuthConfig fun e => ?_
      subst e
      cases hawait
    | namespaceConfig | authContext => rfl
    | start | finish | done => cases hawait
  | advance discovery hadvance =>
    cases pc with
    | start request =>
      cases hadvance
      refine .inl ⟨by simp, ?_⟩
      cases request with
      | namespaceConfig _ body _ =>
        cases body with
        | error _ => exact .fails _ rfl rfl rfl
        | ok _ => exact .waits rfl rfl
      | dataAuthConfig body revision =>
        cases body with
        | error _ => exact .fails _ rfl rfl rfl
        | ok request =>
          simp only [advanceStart]
          split
          · exact .fails _ rfl rfl rfl
          · exact .waits rfl rfl
      | authContext _ => exact .waits rfl rfl
    | namespaceConfig n i c r pc =>
      rcases advanceNamespaceConfig_cases host discovery app n i c r pc (Option.some.inj hadvance)
        with ⟨hwrite, ⟨pc'', rfl⟩ | ⟨response, guards, rfl, hresponse⟩⟩ | ⟨access, state, rfl, rfl, rfl⟩
      · exact .inl ⟨hwrite, .waits rfl rfl⟩
      · exact .inl ⟨hwrite, .fails response rfl rfl hresponse⟩
      · exact .inr (.inl ⟨n, i, c, r, access, state, rfl, rfl, rfl⟩)
    | dataAuthConfig i n pc =>
      rcases advanceDataAuthConfig_cases host discovery app i n pc (Option.some.inj hadvance)
        with ⟨hpc, hwrite, ⟨pc'', hpc'', rfl⟩ | ⟨response, guards, rfl, hresponse⟩⟩ |
          ⟨rebuilt, rfl, rfl, rfl⟩ | ⟨rfl, rfl, rfl⟩
      · exact .inl ⟨hwrite, .waits (stage_dataAuthConfig hpc) (stage_dataAuthConfig hpc'')⟩
      · exact .inl ⟨hwrite, .fails response (stage_dataAuthConfig hpc) rfl hresponse⟩
      · exact .inr (.inr (.inl ⟨i, n, rebuilt, rfl, rfl, rfl⟩))
      · exact .inr (.inr (.inr ⟨i, n, rfl, rfl, rfl⟩))
    | authContext headers pc =>
      obtain ⟨hwrite, ⟨pc'', rfl⟩ | ⟨response, guards, rfl, hresponse⟩⟩ :=
        advanceAuthContext_cases app headers pc (Option.some.inj hadvance)
      · exact .inl ⟨hwrite, .waits rfl rfl⟩
      · exact .inl ⟨hwrite, .fails response rfl rfl hresponse⟩
    | finish response guards =>
      cases guards <;> cases hadvance <;> exact .inl ⟨by simp, .winds response rfl rfl⟩
    | done response => cases hadvance

/-- A task works for its request, and an answer of success answers that request's write. -/
def Pc.Serves (host : Host) (request : Request) : Pc → Prop
  | .start r => r = request
  | .namespaceConfig namespaceName ifRevision config revision _ =>
      request.write host = some (.namespaceConfig namespaceName ifRevision config revision)
  | .dataAuthConfig ifRevision next _ =>
      request.write host = some (.dataAuthConfig ifRevision next)
  | .authContext _ _ => True
  | .finish response _ | .done response => response.isApplied = true →
      ∃ write, request.write host = some write ∧ response = write.response

theorem Pc.serves_of_not_applied {host : Host} {request : Request} {response : Response}
    {guards : List (Guard Lock)} (h : response.isApplied = false) :
    (Pc.finish response guards).Serves host request :=
  fun happlied => by rw [h] at happlied; cases happlied

theorem advanceStart_serves (host : Host) (request : Request) :
    (advanceStart host request).Serves host request := by
  cases request with
  | namespaceConfig _ body _ =>
    cases body with
    | error _ => exact Pc.serves_of_not_applied rfl
    | ok _ => rfl
  | dataAuthConfig body revision =>
    cases body with
    | error _ => exact Pc.serves_of_not_applied rfl
    | ok request =>
      simp only [advanceStart]
      split
      · exact Pc.serves_of_not_applied rfl
      · next hnext => simp [Pc.Serves, Request.write, hnext]
  | authContext _ => trivial

theorem adminCode_serves {host : Host} {app : AppState} {request : Request} {pc pc' : Pc}
    {action : AdminAction} (h : pc.Serves host request)
    (hcode : AdminCode host app pc action pc') : pc'.Serves host request := by
  cases hcode with
  | drop _ => exact Pc.serves_of_not_applied rfl
  | advance discovery hadvance =>
    cases pc with
    | start r =>
      cases hadvance
      obtain rfl : r = request := h
      exact advanceStart_serves host r
    | namespaceConfig n i c r pc =>
      rcases advanceNamespaceConfig_cases host discovery app n i c r pc (Option.some.inj hadvance)
        with ⟨_, ⟨pc'', rfl⟩ | ⟨response, guards, rfl, hresponse⟩⟩ | ⟨access, state, rfl, _, rfl⟩
      · exact h
      · exact Pc.serves_of_not_applied hresponse
      · exact fun _ => ⟨_, h, rfl⟩
    | dataAuthConfig i n pc =>
      rcases advanceDataAuthConfig_cases host discovery app i n pc (Option.some.inj hadvance)
        with ⟨_, _, ⟨pc'', _, rfl⟩ | ⟨response, guards, rfl, hresponse⟩⟩ |
          ⟨rebuilt, rfl, _, rfl⟩ | ⟨rfl, _, rfl⟩
      · exact h
      · exact Pc.serves_of_not_applied hresponse
      · exact h
      · exact fun _ => ⟨_, h, rfl⟩
    | authContext headers pc =>
      obtain ⟨_, ⟨pc'', rfl⟩ | ⟨response, guards, rfl, hresponse⟩⟩ :=
        advanceAuthContext_cases app headers pc (Option.some.inj hadvance)
      · trivial
      · exact Pc.serves_of_not_applied hresponse
    | finish response guards => cases guards <;> cases hadvance <;> exact h
    | done response => cases hadvance

end LlmUniversalProxy.Server
