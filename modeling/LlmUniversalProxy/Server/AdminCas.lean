import LlmUniversalProxy.Server.AdminProgram

/-!
# `Server.AdminCas` — the admin writes are one compare-and-swap each

However the handlers interleave, and whichever of them are dropped at an await, the registry after
a run is the result of the successful writes, one after the other, each of which replaced exactly
the revision it named. A write that failed has changed nothing. And whenever the data locks are
free, the provider keys of all namespaces belong to the data-auth policy in force.

A handler that was dropped behind its write has written, and its caller is not told; it counts among
the writes.
-/

set_option autoImplicit false

namespace LlmUniversalProxy.Server

open Lib

/-! ## Whole runs -/

/-- The assertions are stable: all writes are made under the admin lock. -/
theorem asserts_stable (host : Host) :
    Stable (adminProgram host) .adminUpdate (fun app pc => pc.Asserts host app) where
  writes h := by
    rcases adminCode_cases h with ⟨hquiet, _⟩ | ⟨_, _, _, _, _, _, rfl, _, _⟩ |
      ⟨_, _, _, rfl, _, _⟩ | ⟨_, _, rfl, _, _⟩
    · exact absurd rfl (hquiet _)
    all_goals simp [adminProgram, Pc.guards, NamespacePc.guards, DataAuthPc.guards]
  own h hcode := adminCode_asserts h hcode
  free app' hfree h := by
    rename_i app pc
    cases pc with
    | namespaceConfig n i c r pc =>
      cases pc <;> first
        | trivial
        | exact absurd (by simp [adminProgram, Pc.guards, NamespacePc.guards]) (hfree .exclusive)
    | dataAuthConfig i n pc =>
      cases pc <;> first
        | trivial
        | exact absurd (by simp [adminProgram, Pc.guards, DataAuthPc.guards]) (hfree .exclusive)
    | _ => trivial

variable {ι : Type} [DecidableEq ι]

/-- Every task is about to start on its request, and no guard is out. -/
def boot (requests : ι → Request) (app : AppState) : World ι Pc Lock AppState :=
  ⟨fun t => .start (requests t), fun _ => [], app⟩

abbrev AdminStep (host : Host) : World ι Pc Lock AppState → ι × AdminAction →
    World ι Pc Lock AppState → Prop :=
  World.Step (adminProgram host)

/-- The assignments that bring a write into force: the second one for a data-auth write. -/
def Change.commits : Change → Bool
  | .insertNamespace .. | .setDataAuth _ => true
  | .setNamespaces _ => false

/-- The task whose write an event brings into force. -/
def commitOf (event : ι × AdminAction) : Option ι :=
  match event.2 with
  | .write change => if change.commits then some event.1 else none
  | _ => none

/-- The tasks whose writes came into force, in this order. -/
def committed (events : List (ι × AdminAction)) : List ι := events.filterMap commitOf

/-- What the history has of a task at a stage. -/
def Written (events : List (ι × AdminAction)) (t : ι) : Stage → Prop
  | .waiting => ∀ change, (t, .write change) ∉ events
  | .midway => t ∉ committed events
  | .answered response =>
      if response.isApplied then (committed events).count t = 1
      else ∀ change, (t, .write change) ∉ events

theorem sharedAfter_of_quiet {action : AdminAction} (h : ∀ change, action ≠ .write change)
    (app : AppState) : action.sharedAfter Change.apply app = app := by
  cases action with
  | write change => exact absurd rfl (h change)
  | _ => rfl

omit [DecidableEq ι] in
theorem commitOf_of_quiet {action : AdminAction} (h : ∀ change, action ≠ .write change) (t : ι) :
    commitOf (t, action) = none := by
  cases action with
  | write change => exact absurd rfl (h change)
  | _ => rfl

omit [DecidableEq ι] in
theorem committed_append (events : List (ι × AdminAction)) (event : ι × AdminAction) :
    committed (events ++ [event]) = committed events ++ (commitOf event).toList := by
  rw [committed, List.filterMap_append, ← committed]
  cases h : commitOf event <;> simp [h]

omit [DecidableEq ι] in
theorem not_mem_committed {events : List (ι × AdminAction)} {t : ι}
    (h : ∀ change, (t, .write change) ∉ events) : t ∉ committed events := by
  intro ht
  obtain ⟨⟨u, action⟩, hmem, hcommit⟩ := List.mem_filterMap.mp ht
  cases action with
  | write change =>
    simp only [commitOf] at hcommit
    split at hcommit
    · cases hcommit
      exact h change hmem
    · cases hcommit
  | _ => cases hcommit

/-- The steps of others leave a task's history as it was. -/
theorem Written.other {events : List (ι × AdminAction)} {t u : ι} {action : AdminAction}
    {stage : Stage} (hne : u ≠ t) (h : Written events u stage) :
    Written (events ++ [(t, action)]) u stage := by
  have hmem : ∀ change, (u, Action.write change) ∉ events →
      (u, Action.write change) ∉ events ++ [(t, action)] := by
    intro change hno hin
    rcases List.mem_append.mp hin with hin | hin
    · exact hno hin
    · exact hne (congrArg Prod.fst (List.mem_singleton.mp hin))
  have hcommit : u ∉ (commitOf (t, action)).toList := by
    intro hin
    cases action with
    | write change =>
      simp only [commitOf] at hin
      split at hin
      · exact hne (by simpa using hin)
      · simp at hin
    | _ => simp [commitOf] at hin
  cases stage with
  | waiting => exact fun change => hmem change (h change)
  | midway =>
    simp only [Written, committed_append, List.mem_append, not_or]
    exact ⟨h, hcommit⟩
  | answered response =>
    simp only [Written] at h ⊢
    by_cases happlied : response.isApplied = true
    · rw [if_pos happlied] at h ⊢
      rw [committed_append, List.count_append, h, List.count_eq_zero_of_not_mem hcommit]
    · rw [if_neg happlied] at h ⊢
      exact fun change => hmem change (h change)

/-- A quiet step of a task itself. -/
theorem Written.quiet {events : List (ι × AdminAction)} {t : ι} {action : AdminAction}
    {pc pc' : Pc} (hwrite : ∀ change, action ≠ .write change) (hquiet : Quiet pc pc')
    (h : Written events t pc.stage) : Written (events ++ [(t, action)]) t pc'.stage := by
  have hmem : ∀ change, (t, Action.write change) ∉ events →
      (t, Action.write change) ∉ events ++ [(t, action)] := by
    intro change hno hin
    rcases List.mem_append.mp hin with hin | hin
    · exact hno hin
    · exact hwrite change (congrArg Prod.snd (List.mem_singleton.mp hin)).symm
  cases hquiet with
  | waits hpc hpc' =>
    rw [hpc] at h
    rw [hpc']
    exact fun change => hmem change (h change)
  | fails response hpc hpc' hresponse =>
    rw [hpc] at h
    simp only [hpc', Written, hresponse]
    exact fun change => hmem change (h change)
  | winds response hpc hpc' =>
    rw [hpc] at h
    rw [hpc']
    simp only [Written] at h ⊢
    by_cases happlied : response.isApplied = true
    · rw [if_pos happlied] at h ⊢
      rw [committed_append, commitOf_of_quiet hwrite]
      simpa using h
    · rw [if_neg happlied] at h ⊢
      exact fun change => hmem change (h change)

/-- What holds after every run. -/
structure AdminInv (host : Host) (requests : ι → Request) (start : AppState)
    (events : List (ι × AdminAction)) (w : World ι Pc Lock AppState) : Prop where
  coherent : Coherent (adminProgram host) w
  asserts : ∀ t, (w.tasks t).Asserts host w.shared
  serves : ∀ t, (w.tasks t).Serves host (requests t)
  written : ∀ t, Written events t (w.tasks t).stage
  linear : Linearised (fun t => (requests t).write host) start.registry (committed events)
    w.shared.registry
  keys : (∀ t, (w.tasks t).stage ≠ .midway) →
    AllBuilt host w.shared.dataAuth.access w.shared.runtime.namespaces

/-- A task at its second assignment holds the data-auth lock. -/
theorem guards_of_midway {pc : Pc} (h : pc.stage = .midway) :
    dataAuthWrite ∈ pc.guards ∧ adminGuard ∈ pc.guards := by
  cases pc with
  | dataAuthConfig i n pc =>
    cases pc with
    | setDataAuth => simp [Pc.guards, DataAuthPc.guards]
    | _ => cases h
  | _ => cases h

theorem registry_insertNamespace (app : AppState) (name : String) (state : RuntimeNamespaceState)
    {config : Config} {revision : String} (ifRevision : Option String)
    (h : state.entry = (revision, config)) :
    ((Change.insertNamespace name state).apply app).registry =
      (AdminWrite.namespaceConfig name ifRevision config revision).apply app.registry := by
  simp only [Change.apply, AppState.registry, AdminWrite.apply, Registry.mk.injEq, and_true]
  funext other
  by_cases hother : other = name
  · subst hother
    simp [h]
  · simp [hother]

theorem registry_setNamespaces {host : Host} {access : DataAccess} {app : AppState}
    {rebuilt : SortedMap RuntimeNamespaceState}
    (h : Rebuilt host access app.runtime.namespaces.entries rebuilt) :
    ((Change.setNamespaces rebuilt).apply app).registry = app.registry := by
  simp only [Change.apply, AppState.registry, Registry.mk.injEq, and_true]
  funext name
  exact h.same name

/-! ## One step -/

/-- What a step of the task `t` has to carry on by itself: the history of the task, the order of the
writes and the keys. The rest is carried on by every step. -/
structure StepCarries (host : Host) (requests : ι → Request) (start : AppState)
    (events : List (ι × AdminAction)) (w : World ι Pc Lock AppState) (t : ι)
    (action : AdminAction) (pc' : Pc) : Prop where
  written : Written (events ++ [(t, action)]) t pc'.stage
  linear : Linearised (fun t => (requests t).write host) start.registry
    (committed (events ++ [(t, action)])) (action.sharedAfter Change.apply w.shared).registry
  keys : (∀ u, (Function.update w.tasks t pc' u).stage ≠ .midway) →
    AllBuilt host (action.sharedAfter Change.apply w.shared).dataAuth.access
      (action.sharedAfter Change.apply w.shared).runtime.namespaces

section Step

variable {host : Host} {requests : ι → Request} {start : AppState}
  {events : List (ι × AdminAction)} {w w' : World ι Pc Lock AppState} {t : ι}

/-- No other task is midway while `t` holds the admin lock. -/
theorem AdminInv.alone (h : AdminInv host requests start events w)
    (hadmin : adminGuard ∈ (w.tasks t).guards) (u : ι) (hu : u ≠ t) :
    (w.tasks u).stage ≠ .midway := fun hmid =>
  hu (h.coherent.exclusion hadmin (guards_of_midway hmid).2)

/-- A step that assigns nothing. -/
theorem AdminInv.carries_quiet {action : AdminAction} {pc' : Pc}
    (h : AdminInv host requests start events w) (hwrite : ∀ change, action ≠ .write change)
    (hquiet : Quiet (w.tasks t) pc') : StepCarries host requests start events w t action pc' := by
  refine ⟨(h.written t).quiet hwrite hquiet, ?_, fun hmid => ?_⟩
  · rw [committed_append, commitOf_of_quiet hwrite, Option.toList_none, List.append_nil,
      sharedAfter_of_quiet hwrite]
    exact h.linear
  · rw [sharedAfter_of_quiet hwrite]
    refine h.keys fun u hu => ?_
    by_cases hut : u = t
    · subst hut
      cases hquiet with
      | waits hpc _ | fails _ hpc _ _ | winds _ hpc _ => rw [hpc] at hu; cases hu
    · have hother := hmid u
      simp only [Function.update_of_ne hut] at hother
      exact hother hu

theorem AdminInv.carries_insertNamespace {name revision : String} {ifRevision : Option String}
    {config : Config} {access : DataAccess} {state : RuntimeNamespaceState}
    (h : AdminInv host requests start events w)
    (hpc : w.tasks t = .namespaceConfig name ifRevision config revision (.insert access state)) :
    StepCarries host requests start events w t (.write (.insertNamespace name state))
      (.finish (.namespaceApplied name revision) [runtimeWrite, adminGuard]) := by
  have hassert : Pc.Asserts host w.shared _ := h.asserts t
  have hwritten := h.written t
  have hserve := h.serves t
  rw [hpc] at hassert hwritten hserve
  obtain ⟨haccess, hrevision, hentry, hbuilt⟩ := hassert
  have hwaiting : ∀ change, (t, Action.write change) ∉ events := hwritten
  refine ⟨?_, ?_, fun _ => ?_⟩
  · simp only [Pc.stage, Written, Response.isApplied, if_true]
    rw [committed_append, List.count_append,
      List.count_eq_zero_of_not_mem (not_mem_committed hwaiting)]
    simp [commitOf, Change.commits]
  · rw [committed_append]
    have hcurrent : (AdminWrite.namespaceConfig name ifRevision config revision).current
        w.shared.registry = ifRevision := by
      rw [← hrevision]
      simp [AdminWrite.current, AppState.registry, Function.comp_def, RuntimeNamespaceState.entry]
    have hlinear := h.linear.snoc (t := t) hserve hcurrent
    rw [← registry_insertNamespace w.shared name state ifRevision hentry] at hlinear
    exact hlinear
  · have hkeys := h.keys fun u => by
      by_cases hu : u = t
      · subst hu
        rw [hpc]
        exact fun e => by cases e
      · exact h.alone (by rw [hpc]; simp [Pc.guards, NamespacePc.guards]) u hu
    intro other s hs
    have hs : (w.shared.runtime.namespaces.insert name state).lookup other = some s := hs
    rw [SortedMap.lookup_insert] at hs
    split at hs
    · cases hs
      exact haccess ▸ hbuilt
    · exact hkeys other s hs

/-- The first assignment of a data-auth write: the task is midway, and has committed nothing. -/
theorem AdminInv.carries_setNamespaces {ifRevision : Option String} {next : RuntimeDataAuthState}
    {rebuilt : SortedMap RuntimeNamespaceState} (h : AdminInv host requests start events w)
    (hpc : w.tasks t = .dataAuthConfig ifRevision next (.setNamespaces rebuilt)) :
    StepCarries host requests start events w t (.write (.setNamespaces rebuilt))
      (.dataAuthConfig ifRevision next .setDataAuth) := by
  have hassert : Pc.Asserts host w.shared _ := h.asserts t
  have hwritten := h.written t
  rw [hpc] at hassert hwritten
  have hwaiting : ∀ change, (t, Action.write change) ∉ events := hwritten
  refine ⟨?_, ?_, fun hmid => ?_⟩
  · simp only [Pc.stage, Written, committed_append]
    simpa [commitOf, Change.commits] using not_mem_committed hwaiting
  · have hsame := h.linear
    rw [← registry_setNamespaces hassert.2] at hsame
    rw [committed_append, show commitOf (t, Action.write (Change.setNamespaces rebuilt)) = none
      from rfl, Option.toList_none, List.append_nil]
    exact hsame
  · exact absurd (by simp [Pc.stage]) (hmid t)

/-- The second assignment, which commits the write. -/
theorem AdminInv.carries_setDataAuth {ifRevision : Option String} {next : RuntimeDataAuthState}
    (h : AdminInv host requests start events w)
    (hpc : w.tasks t = .dataAuthConfig ifRevision next .setDataAuth) :
    StepCarries host requests start events w t (.write (.setDataAuth next))
      (.finish (.dataAuthApplied next.revision next.config)
        [dataAuthWrite, runtimeWrite, adminGuard]) := by
  have hassert : Pc.Asserts host w.shared _ := h.asserts t
  have hwritten := h.written t
  have hserve := h.serves t
  rw [hpc] at hassert hwritten hserve
  have hcount : t ∉ committed events := hwritten
  refine ⟨?_, ?_, fun _ => hassert.2⟩
  · simp only [Pc.stage, Written, Response.isApplied, if_true]
    rw [committed_append, List.count_append, List.count_eq_zero_of_not_mem hcount]
    simp [commitOf, Change.commits]
  · rw [committed_append]
    exact h.linear.snoc (t := t) hserve hassert.1

/-- Everything that a step of a task can do carries the invariant on. -/
theorem AdminInv.carries {action : AdminAction} {pc' : Pc}
    (h : AdminInv host requests start events w)
    (hcode : AdminCode host w.shared (w.tasks t) action pc') :
    StepCarries host requests start events w t action pc' := by
  rcases adminCode_cases hcode with ⟨hwrite, hquiet⟩ |
    ⟨name, ifRevision, config, revision, access, state, hpc, rfl, rfl⟩ |
    ⟨ifRevision, next, rebuilt, hpc, rfl, rfl⟩ | ⟨ifRevision, next, hpc, rfl, rfl⟩
  · exact h.carries_quiet hwrite hquiet
  · exact h.carries_insertNamespace hpc
  · exact h.carries_setNamespaces hpc
  · exact h.carries_setDataAuth hpc

theorem AdminInv.step {event : ι × AdminAction} (h : AdminInv host requests start events w)
    (hs : AdminStep host w event w') : AdminInv host requests start (events ++ [event]) w' := by
  have hcoherent := h.coherent.step hs
  have hasserts := (asserts_stable host).step h.coherent h.asserts hs
  cases hs with
  | @mk t action pc' hcode hperm =>
    have hcarries := h.carries hcode
    refine ⟨hcoherent, hasserts, fun u => ?_, fun u => ?_, hcarries.linear, hcarries.keys⟩
    · by_cases hu : u = t
      · subst hu
        simpa using adminCode_serves (h.serves u) hcode
      · simpa [Function.update_of_ne hu] using h.serves u
    -- the history of the other tasks does not change
    · by_cases hu : u = t
      · subst hu
        simpa using hcarries.written
      · simpa [Function.update_of_ne hu] using (h.written u).other hu

end Step

theorem AdminInv.initial {host : Host} {requests : ι → Request} {start : AppState}
    (hkeys : AllBuilt host start.dataAuth.access start.runtime.namespaces) :
    AdminInv host requests start [] (boot requests start) where
  coherent := coherent_initial (fun _ => rfl) fun _ => rfl
  asserts _ := trivial
  serves _ := rfl
  written _ _ h := by cases h
  linear := .nil _
  keys _ := hkeys

theorem AdminInv.run {host : Host} {requests : ι → Request} {start : AppState}
    {events : List (ι × AdminAction)} {w : World ι Pc Lock AppState}
    (hkeys : AllBuilt host start.dataAuth.access start.runtime.namespaces)
    (hrun : Run (AdminStep host) (boot requests start) events w) :
    AdminInv host requests start events w :=
  hrun.invariant_history (AdminInv.initial hkeys) AdminInv.step

def replay (start : AppState) (events : List (ι × AdminAction)) : AppState :=
  events.foldl (fun app event => event.2.sharedAfter Change.apply app) start

omit [DecidableEq ι] in
/-- The events that write nothing can be left out. -/
theorem replay_filter {events : List (ι × AdminAction)} {keep : ι × AdminAction → Bool}
    (h : ∀ event ∈ events, keep event = false → ∀ change, event.2 ≠ .write change)
    (start : AppState) : replay start (events.filter keep) = replay start events := by
  induction events generalizing start with
  | nil => rfl
  | cons event events ih =>
    have hrest := ih fun e he => h e (List.mem_cons_of_mem _ he)
    cases hkeep : keep event with
    | true =>
      rw [List.filter_cons_of_pos hkeep]
      exact hrest _
    | false =>
      rw [List.filter_cons_of_neg (by simp [hkeep])]
      have hquiet := sharedAfter_of_quiet (h event List.mem_cons_self hkeep) start
      simp only [replay, List.foldl_cons, hquiet]
      exact hrest start

theorem shared_eq_replay {host : Host} {w w' : World ι Pc Lock AppState}
    {events : List (ι × AdminAction)} (hrun : Run (AdminStep host) w events w') :
    w'.shared = replay w.shared events := by
  induction hrun with
  | nil => rfl
  | snoc _ hs ih =>
    rw [replay, List.foldl_append]
    cases hs
    exact congrArg (fun app => Action.sharedAfter Change.apply app _) ih

theorem Written.count_le {events : List (ι × AdminAction)} {t : ι} {stage : Stage}
    (h : Written events t stage) : (committed events).count t ≤ 1 := by
  cases stage with
  | waiting => rw [List.count_eq_zero_of_not_mem (not_mem_committed h)]; exact Nat.zero_le 1
  | midway => rw [List.count_eq_zero_of_not_mem h]; exact Nat.zero_le 1
  | answered response =>
    simp only [Written] at h
    split at h
    · exact Nat.le_of_eq h
    · rw [List.count_eq_zero_of_not_mem (not_mem_committed h)]
      exact Nat.zero_le 1

/-- The state the server starts with: `build_runtime_state` under the policy in force. -/
def Started (host : Host) (start : AppState) : Prop :=
  ∃ discovery revision config,
    buildRuntimeState host discovery revision config start.dataAuth.access = .ok start.runtime

theorem Started.allBuilt {host : Host} {start : AppState} (h : Started host start) :
    AllBuilt host start.dataAuth.access start.runtime.namespaces := by
  obtain ⟨discovery, revision, config, h⟩ := h
  unfold buildRuntimeState at h
  split at h
  · simp only [bind, Except.bind] at h
    cases hbuild : buildRuntimeNamespaceState host discovery revision config
      start.dataAuth.access with
    | error e => rw [hbuild] at h; cases h
    | ok state =>
      rw [hbuild] at h
      have hruntime : start.runtime = ⟨(∅ : SortedMap RuntimeNamespaceState).insert "default" state⟩ :=
        (Except.ok.inj h).symm
      intro name s hs
      rw [hruntime, SortedMap.lookup_insert] at hs
      split at hs
      · exact Option.some.inj hs ▸ (buildRuntimeNamespaceState_ok hbuild).2.2
      · simp at hs
  · have hruntime : start.runtime = ⟨∅⟩ := (Except.ok.inj h).symm
    intro name s hs
    rw [hruntime] at hs
    simp at hs

/-- **The admin writes linearise.** After any run of any number of handlers and readers:
the registry is the result of the committed writes, in the order of their commits, and each of
them replaced the revision it named; no task commits twice; a finished write was answered with
success if and only if it committed, and then with its own revision; without the steps of a task
that was answered anything else the state would be the same; and when no guard on the data locks
is out, all provider keys are those of the policy in force. -/
theorem admin_writes_linearise {host : Host} {requests : ι → Request} {start : AppState}
    {events : List (ι × AdminAction)} {w : World ι Pc Lock AppState} (hstart : Started host start)
    (hrun : Run (AdminStep host) (boot requests start) events w) :
    Linearised (fun t => (requests t).write host) start.registry (committed events)
      w.shared.registry ∧
    (committed events).Nodup ∧
    (∀ t response, w.tasks t = .done response →
      (t ∈ committed events ↔ response.isApplied = true) ∧
      (response.isApplied = true →
        ∃ write, (requests t).write host = some write ∧ response = write.response) ∧
      (response.isApplied = false →
        w.shared = replay start (events.filter fun event => event.1 ≠ t))) ∧
    (w.out .runtime = [] → w.out .dataAuth = [] →
      AllBuilt host w.shared.dataAuth.access w.shared.runtime.namespaces) := by
  have h := AdminInv.run hstart.allBuilt hrun
  refine ⟨h.linear, List.nodup_iff_count.mpr fun t => (h.written t).count_le, ?_, ?_⟩
  · intro t response hdone
    -- how often this task has committed follows from where it stands
    have hwritten := h.written t
    have hserves := h.serves t
    rw [hdone] at hwritten hserves
    simp only [Pc.stage, Written] at hwritten
    refine ⟨?_, hserves, fun happlied => ?_⟩
    · cases happlied : response.isApplied with
      | true =>
        rw [if_pos happlied] at hwritten
        exact iff_of_true (List.count_pos_iff.mp (by omega)) rfl
      | false =>
        rw [if_neg (by simp [happlied])] at hwritten
        exact iff_of_false (not_mem_committed hwritten) (by simp)
    · rw [if_neg (by simp [happlied])] at hwritten
      rw [shared_eq_replay hrun]
      refine (replay_filter ?_ start).symm
      rintro ⟨u, action⟩ hmem hkeep change rfl
      obtain rfl : u = t := by simpa using hkeep
      exact hwritten change hmem
  · intro _ hfree
    -- between the two writes of a data auth change its guards are out
    refine h.keys fun t hmid => ?_
    have hout := (h.coherent.held t dataAuthWrite).mpr (guards_of_midway hmid).1
    rw [show dataAuthWrite.lock = Lock.dataAuth from rfl, hfree] at hout
    cases hout

/-! ## Running a schedule -/

instance (out : Lock → List (ι × Mode)) (action : AdminAction) :
    Decidable (action.Permitted out) :=
  match action with
  | .acquire ⟨lock, .exclusive⟩ => inferInstanceAs (Decidable (out lock = []))
  | .acquire ⟨lock, .shared⟩ => inferInstanceAs (Decidable (∀ h ∈ out lock, h.2 = .shared))
  | .release _ | .write _ | .silent => inferInstanceAs (Decidable True)

/-- The tasks of a schedule take one step each, unless a lock is not free. -/
def execute (host : Host) (discovery : Discovery) :
    List ι → World ι Pc Lock AppState →
      Option (List (ι × AdminAction) × World ι Pc Lock AppState)
  | [], w => some ([], w)
  | t :: schedule, w =>
      match advance host discovery w.shared (w.tasks t) with
      | none => none
      | some (action, pc') =>
          if action.Permitted w.out then
            (execute host discovery schedule ⟨Function.update w.tasks t pc',
              action.outAfter t w.out, action.sharedAfter Change.apply w.shared⟩).map
              fun result => ((t, action) :: result.1, result.2)
          else none

theorem execute_run {host : Host} {discovery : Discovery} {schedule : List ι} :
    ∀ {w w' : World ι Pc Lock AppState} {events : List (ι × AdminAction)},
      execute host discovery schedule w = some (events, w') →
      Run (AdminStep host) w events w' := by
  induction schedule with
  | nil =>
    intro w w' events h
    cases h
    exact .nil w
  | cons t schedule ih =>
    intro w w' events h
    simp only [execute] at h
    cases hadvance : advance host discovery w.shared (w.tasks t) with
    | none => rw [hadvance] at h; cases h
    | some result =>
      obtain ⟨action, pc'⟩ := result
      rw [hadvance] at h
      by_cases hperm : action.Permitted w.out
      · simp only [if_pos hperm, Option.map_eq_some_iff] at h
        obtain ⟨⟨rest, last⟩, hrest, hresult⟩ := h
        cases hresult
        exact Run.cons (.mk (.advance discovery hadvance) hperm) (ih hrest)
      · simp [hperm] at h

/-- Two creations of the same namespace race: the second handler gets the admin lock after the
first has committed, and is refused. -/
def race : Option (List (Bool × AdminAction) × World Bool Pc Lock AppState) :=
  execute ⟨fun _ => .error .notPresent, fun _ => .ok (), fun _ _ => .ok ()⟩ (fun _ _ => [])
    ([false, true] ++ List.replicate 13 false ++ List.replicate 9 true ++ [false])
    (boot (fun second => .namespaceConfig "team" (.ok ⟨none, ⟨[], .null⟩⟩)
      (if second then "r2" else "r1"))
      ⟨⟨∅⟩, ⟨"d1", .clientProviderKey, ⟨true, .clientProviderKey, none⟩⟩⟩)

theorem race_linearised : ∃ events w, race = some (events, w) ∧ committed events = [false] ∧
    w.tasks true = .done (.preconditionFailed (some "r1")) ∧
    w.shared = replay ⟨⟨∅⟩, ⟨"d1", .clientProviderKey, ⟨true, .clientProviderKey, none⟩⟩⟩
      (events.filter fun event => event.1 ≠ true) := by
  have hstart : Started ⟨fun _ => .error .notPresent, fun _ => .ok (), fun _ _ => .ok ()⟩
      ⟨⟨∅⟩, ⟨"d1", .clientProviderKey, ⟨true, .clientProviderKey, none⟩⟩⟩ :=
    ⟨fun _ _ => [], "r0", ⟨[], .null⟩, rfl⟩
  have hrace : ∃ events w, race = some (events, w) ∧ committed events = [false] ∧
      w.tasks true = .done (.preconditionFailed (some "r1")) := ⟨_, _, rfl, rfl, rfl⟩
  obtain ⟨events, w, hrun, hcommitted, hdone⟩ := hrace
  exact ⟨events, w, hrun, hcommitted, hdone,
    ((admin_writes_linearise hstart (execute_run hrun)).2.2.1 true _ hdone).2.2 rfl⟩

end LlmUniversalProxy.Server
