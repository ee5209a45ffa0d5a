import LlmUniversalProxy.Lib.Guarded
import LlmUniversalProxy.Server.State

/-!
# `Server.Admin` — the admin writes, as tasks under the three locks

Two handlers write: `handle_admin_namespace_config` replaces one namespace, and
`handle_admin_data_auth_config` replaces the data-auth policy and rebuilds all namespaces for it.
Both are futures, so between two of their awaits anything may happen. A handler is therefore cut
at its lock operations and awaits into program points (`Pc`), and `advance` is its step from one to
the next. The readers that take both data locks (`request_auth_context_for_headers`) are tasks
too. At an await a handler may also be dropped by its caller; its guards are then released.

A statement that reads through a temporary guard (`manager.snapshot().await`) takes the guard in
one step and reads and drops it in another.

The source is `server/admin.rs` 254-519. An upstream that does not answer while a namespace is built
only makes a handler slow: the discovery is an answer like any other here.
-/

set_option autoImplicit false

namespace LlmUniversalProxy.Server

open Lib

/-- `admin_update_lock`, `AppState::runtime` and the lock inside `DataAuthManager`. -/
inductive Lock where
  | adminUpdate
  | runtime
  | dataAuth
  deriving DecidableEq, Repr

/-- What the two data locks protect. -/
structure AppState where
  runtime : RuntimeState
  dataAuth : RuntimeDataAuthState

/-- `data_auth::RequestAuthContext`. -/
structure RequestAuthContext where
  generation : String
  mode : DataAuthMode
  access : DataAccess
  authorization : RequestAuthorization
  runtime : RuntimeState

/-- `AdminConfigRequest`, with the payload already turned into a `Config`. -/
structure AdminConfigRequest where
  ifRevision : Option String
  config : Config

/-- `AdminDataAuthCasRequest`. -/
structure AdminDataAuthCasRequest where
  ifRevision : Option String
  config : DataAuthConfig

/-- A call. The body is what decoding made of it, or the decoder's error; `revision` is the UUID
the handler draws. -/
inductive Request where
  | namespaceConfig (namespaceName : String) (body : Except String AdminConfigRequest)
      (revision : String)
  | dataAuthConfig (body : Except String AdminDataAuthCasRequest) (revision : String)
  | authContext (headers : HeaderMap)

inductive Response where
  | namespaceApplied (namespaceName revision : String)
  | dataAuthApplied (revision : String) (config : AdminDataAuthConfigView)
  | context (context : RequestAuthContext)
  | error (status : Nat) (message : String)
  | preconditionFailed (currentRevision : Option String)
  | dropped

/-- The write was answered with `200`. -/
def Response.isApplied : Response → Bool
  | .namespaceApplied .. | .dataAuthApplied .. => true
  | _ => false

/-- `validate_admin_cas_precondition` (`server/admin.rs` 254-268): `none` is `Ok`, `some current`
the revision to report. -/
def validateAdminCasPrecondition (currentRevision ifRevision : Option String) :
    Option Response :=
  match currentRevision, ifRevision with
  | none, none => none
  | none, some _ => some (.preconditionFailed none)
  | some current, some expected =>
      if current = expected then none else some (.preconditionFailed (some current))
  | some current, none => some (.preconditionFailed (some current))

/-- What a handler wants to write, once its body is decoded. -/
inductive AdminWrite where
  | namespaceConfig (namespaceName : String) (ifRevision : Option String) (config : Config)
      (revision : String)
  | dataAuthConfig (ifRevision : Option String) (next : RuntimeDataAuthState)

/-- Where `handle_admin_namespace_config` stands after decoding. -/
inductive NamespacePc where
  | awaitAdminUpdate
  | awaitAccess
  | readAccess
  | validateConfig (access : DataAccess)
  | awaitRevision (access : DataAccess)
  | readRevision (access : DataAccess)
  | checkRevision (access : DataAccess) (current : Option String)
  | building (access : DataAccess)
  | awaitRuntime (access : DataAccess) (state : RuntimeNamespaceState)
  | recheckRevision (access : DataAccess) (state : RuntimeNamespaceState)
  | insert (access : DataAccess) (state : RuntimeNamespaceState)

/-- Where `handle_admin_data_auth_config` stands after decoding. `rebuilding` has the inputs
still to come and the namespaces already rebuilt. -/
inductive DataAuthPc where
  | awaitAdminUpdate
  | awaitSnapshot
  | readSnapshot
  | checkSnapshot (current : String)
  | awaitInputs
  | readInputs
  | rebuilding (inputs : List (String × String × Config))
      (rebuilt : SortedMap RuntimeNamespaceState)
  | awaitRuntime (rebuilt : SortedMap RuntimeNamespaceState)
  | awaitDataAuth (rebuilt : SortedMap RuntimeNamespaceState)
  | recheckRevision (rebuilt : SortedMap RuntimeNamespaceState)
  | setNamespaces (rebuilt : SortedMap RuntimeNamespaceState)
  | setDataAuth

/-- Where `request_auth_context_for_headers` stands. -/
inductive ContextPc where
  | awaitRuntime
  | awaitDataAuth
  | authorize

/-- A task's program point. `finish` drops the remaining guards, innermost first. -/
inductive Pc where
  | start (request : Request)
  | namespaceConfig (namespaceName : String) (ifRevision : Option String) (config : Config)
      (revision : String) (pc : NamespacePc)
  | dataAuthConfig (ifRevision : Option String) (next : RuntimeDataAuthState) (pc : DataAuthPc)
  | authContext (headers : HeaderMap) (pc : ContextPc)
  | finish (response : Response) (guards : List (Guard Lock))
  | done (response : Response)

/-- The assignments to the shared state. -/
inductive Change where
  | insertNamespace (namespaceName : String) (state : RuntimeNamespaceState)
  | setNamespaces (rebuilt : SortedMap RuntimeNamespaceState)
  | setDataAuth (next : RuntimeDataAuthState)

def Change.apply : Change → AppState → AppState
  | .insertNamespace namespaceName state, app =>
      { app with runtime := ⟨app.runtime.namespaces.insert namespaceName state⟩ }
  | .setNamespaces rebuilt, app => { app with runtime := ⟨rebuilt⟩ }
  | .setDataAuth next, app => { app with dataAuth := next }

abbrev adminGuard : Guard Lock := ⟨.adminUpdate, .exclusive⟩
abbrev runtimeRead : Guard Lock := ⟨.runtime, .shared⟩
abbrev runtimeWrite : Guard Lock := ⟨.runtime, .exclusive⟩
abbrev dataAuthRead : Guard Lock := ⟨.dataAuth, .shared⟩
abbrev dataAuthWrite : Guard Lock := ⟨.dataAuth, .exclusive⟩

/-- The guards alive at a program point, innermost first. -/
def NamespacePc.guards : NamespacePc → List (Guard Lock)
  | .awaitAdminUpdate => []
  | .readAccess => [dataAuthRead, adminGuard]
  | .readRevision _ => [runtimeRead, adminGuard]
  | .recheckRevision .. | .insert .. => [runtimeWrite, adminGuard]
  | _ => [adminGuard]

def DataAuthPc.guards : DataAuthPc → List (Guard Lock)
  | .awaitAdminUpdate => []
  | .readSnapshot => [dataAuthRead, adminGuard]
  | .readInputs => [runtimeRead, adminGuard]
  | .awaitDataAuth _ => [runtimeWrite, adminGuard]
  | .recheckRevision _ | .setNamespaces _ | .setDataAuth =>
      [dataAuthWrite, runtimeWrite, adminGuard]
  | _ => [adminGuard]

def ContextPc.guards : ContextPc → List (Guard Lock)
  | .awaitRuntime => []
  | .awaitDataAuth => [runtimeRead]
  | .authorize => [dataAuthRead, runtimeRead]

def Pc.guards : Pc → List (Guard Lock)
  | .start _ | .done _ => []
  | .namespaceConfig _ _ _ _ pc => pc.guards
  | .dataAuthConfig _ _ pc => pc.guards
  | .authContext _ pc => pc.guards
  | .finish _ guards => guards

/-! ## The handlers -/

abbrev AdminAction := Action Lock Change

/-- What `handle_admin_namespace_config` builds, or the error of the build. -/
def buildNamespace (host : Host) (discovery : Discovery) (revision : String) (config : Config)
    (access : DataAccess) : Except Response RuntimeNamespaceState :=
  (buildRuntimeNamespaceState host discovery revision config access).mapError fun error =>
    .error 400 s!"failed to resolve namespace config: {error}"

/-- `handle_admin_namespace_config` (`server/admin.rs` 438-519), after decoding. One step for each
lock that is taken or given back and each write, so that other tasks can come in between. -/
def advanceNamespaceConfig (host : Host) (discovery : Discovery) (app : AppState)
    (namespaceName : String) (ifRevision : Option String) (config : Config) (revision : String)
    (pc : NamespacePc) : AdminAction × Pc :=
  let goto := Pc.namespaceConfig namespaceName ifRevision config revision
  match pc with
  | .awaitAdminUpdate => (.acquire adminGuard, goto .awaitAccess)
  | .awaitAccess => (.acquire dataAuthRead, goto .readAccess)
  | .readAccess => (.release dataAuthRead, goto (.validateConfig app.dataAuth.access))
  -- against the data auth that has been read; only the admin lock is still held
  | .validateConfig access =>
      match validateRuntimeConfig host.env config access with
      | .error error =>
          (.silent, .finish (.error 400 s!"invalid runtime config: {error}") [adminGuard])
      | .ok () => (.silent, goto (.awaitRevision access))
  | .awaitRevision access => (.acquire runtimeRead, goto (.readRevision access))
  | .readRevision access =>
      (.release runtimeRead, goto (.checkRevision access
        ((app.runtime.namespaces.lookup namespaceName).map RuntimeNamespaceState.revision)))
  | .checkRevision access current =>
      match validateAdminCasPrecondition current ifRevision with
      | some response => (.silent, .finish response [adminGuard])
      | none => (.silent, goto (.building access))
  -- discovery may take long, and no lock on the runtime is held meanwhile
  | .building access =>
      match buildNamespace host discovery revision config access with
      | .error response => (.silent, .finish response [adminGuard])
      | .ok state => (.silent, goto (.awaitRuntime access state))
  | .awaitRuntime access state => (.acquire runtimeWrite, goto (.recheckRevision access state))
  -- the revision of now, under the write lock: the one read before may have changed
  | .recheckRevision access state =>
      match validateAdminCasPrecondition
        ((app.runtime.namespaces.lookup namespaceName).map RuntimeNamespaceState.revision)
        ifRevision with
      | some response => (.silent, .finish response [runtimeWrite, adminGuard])
      | none => (.silent, goto (.insert access state))
  | .insert _ state =>
      (.write (.insertNamespace namespaceName state),
        .finish (.namespaceApplied namespaceName revision) [runtimeWrite, adminGuard])

/-- One round of the rebuild loop of `handle_admin_data_auth_config`. -/
def rebuildNamespace (host : Host) (discovery : Discovery) (access : DataAccess)
    (namespaceName revision : String) (config : Config) :
    Except Response RuntimeNamespaceState :=
  match validateRuntimeConfig host.env config access with
  | .error error => .error (.error 400
      s!"failed to validate namespace `{namespaceName}` under data_auth config: {error}")
  | .ok () =>
      (buildRuntimeNamespaceState host discovery revision config access).mapError fun error =>
        .error 400 s!"failed to rebuild namespace `{namespaceName}` under data_auth config: {error}"

/-- `handle_admin_data_auth_config` (`server/admin.rs` 305-394), after decoding. All namespaces are
built anew before any lock for writing is taken. -/
def advanceDataAuthConfig (host : Host) (discovery : Discovery) (app : AppState)
    (ifRevision : Option String) (next : RuntimeDataAuthState) (pc : DataAuthPc) :
    AdminAction × Pc :=
  let goto := Pc.dataAuthConfig ifRevision next
  match pc with
  | .awaitAdminUpdate => (.acquire adminGuard, goto .awaitSnapshot)
  | .awaitSnapshot => (.acquire dataAuthRead, goto .readSnapshot)
  | .readSnapshot => (.release dataAuthRead, goto (.checkSnapshot app.dataAuth.revision))
  | .checkSnapshot current =>
      match validateAdminCasPrecondition (some current) ifRevision with
      | some response => (.silent, .finish response [adminGuard])
      | none => (.silent, goto .awaitInputs)
  | .awaitInputs => (.acquire runtimeRead, goto .readInputs)
  | .readInputs =>
      (.release runtimeRead, goto (.rebuilding
        (app.runtime.namespaces.entries.map fun entry =>
          (entry.1, entry.2.revision, entry.2.config)) ∅))
  | .rebuilding [] rebuilt => (.silent, goto (.awaitRuntime rebuilt))
  -- a namespace that cannot be built ends the request, with nothing written
  | .rebuilding ((namespaceName, revision, config) :: inputs) rebuilt =>
      match rebuildNamespace host discovery next.access namespaceName revision config with
      | .error response => (.silent, .finish response [adminGuard])
      | .ok state => (.silent, goto (.rebuilding inputs (rebuilt.insert namespaceName state)))
  | .awaitRuntime rebuilt => (.acquire runtimeWrite, goto (.awaitDataAuth rebuilt))
  -- the runtime first, as in the source
  | .awaitDataAuth rebuilt => (.acquire dataAuthWrite, goto (.recheckRevision rebuilt))
  | .recheckRevision rebuilt =>
      match validateAdminCasPrecondition (some app.dataAuth.revision) ifRevision with
      | some response => (.silent, .finish response [dataAuthWrite, runtimeWrite, adminGuard])
      | none => (.silent, goto (.setNamespaces rebuilt))
  -- two writes, and both locks are held over both of them
  | .setNamespaces rebuilt => (.write (.setNamespaces rebuilt), goto .setDataAuth)
  | .setDataAuth =>
      (.write (.setDataAuth next),
        .finish (.dataAuthApplied next.revision next.config)
          [dataAuthWrite, runtimeWrite, adminGuard])

/-- `request_auth_context_for_headers` (`data_auth.rs` 568-584). -/
def advanceAuthContext (app : AppState) (headers : HeaderMap) (pc : ContextPc) :
    AdminAction × Pc :=
  match pc with
  | .awaitRuntime => (.acquire runtimeRead, .authContext headers .awaitDataAuth)
  | .awaitDataAuth => (.acquire dataAuthRead, .authContext headers .authorize)
  | .authorize =>
      match authorizeDataRequest app.dataAuth.access headers with
      | .error (status, message) =>
          (.silent, .finish (.error status message) [dataAuthRead, runtimeRead])
      | .ok authorization =>
          (.silent, .finish (.context ⟨app.dataAuth.revision, app.dataAuth.config.mode,
            app.dataAuth.access, authorization, app.runtime⟩) [dataAuthRead, runtimeRead])

/-- The first segment of a handler: everything before its first lock. -/
def advanceStart (host : Host) : Request → Pc
  | .namespaceConfig namespaceName body revision =>
      match body with
      | .error error => .finish (.error 400 error) []
      | .ok request => .namespaceConfig namespaceName request.ifRevision request.config revision
          .awaitAdminUpdate
  | .dataAuthConfig body revision =>
      match body with
      | .error error => .finish (.error 400 s!"invalid admin data auth request: {error}") []
      | .ok request =>
          match RuntimeDataAuthState.fromAdminConfig host.env revision request.config with
          | .error error => .finish (.error 400 s!"invalid data_auth config: {error}") []
          | .ok next => .dataAuthConfig request.ifRevision next .awaitAdminUpdate
  | .authContext headers => .authContext headers .awaitRuntime

/-- The next step of a task; `done` has none. -/
def advance (host : Host) (discovery : Discovery) (app : AppState) :
    Pc → Option (AdminAction × Pc)
  | .start request => some (.silent, advanceStart host request)
  | .namespaceConfig namespaceName ifRevision config revision pc =>
      some (advanceNamespaceConfig host discovery app namespaceName ifRevision config revision pc)
  | .dataAuthConfig ifRevision next pc =>
      some (advanceDataAuthConfig host discovery app ifRevision next pc)
  | .authContext headers pc => some (advanceAuthContext app headers pc)
  | .finish response (guard :: guards) => some (.release guard, .finish response guards)
  | .finish response [] => some (.silent, .done response)
  | .done _ => none

/-- The program points at an await, where the future can be dropped. -/
def Pc.atAwait : Pc → Bool
  | .namespaceConfig _ _ _ _ pc =>
      match pc with
      | .awaitAdminUpdate | .awaitAccess | .awaitRevision _ | .building _ | .awaitRuntime .. => true
      | _ => false
  | .dataAuthConfig _ _ pc =>
      match pc with
      | .awaitAdminUpdate | .awaitSnapshot | .awaitInputs | .rebuilding .. | .awaitRuntime _
      | .awaitDataAuth _ => true
      | _ => false
  | .authContext _ pc =>
      match pc with
      | .awaitRuntime | .awaitDataAuth => true
      | _ => false
  | _ => false

/-- A task goes on, with whatever the upstreams answer, or is dropped at an await. -/
inductive AdminCode (host : Host) (app : AppState) : Pc → AdminAction → Pc → Prop
  | advance {pc pc' : Pc} {action : AdminAction} (discovery : Discovery) :
      advance host discovery app pc = some (action, pc') → AdminCode host app pc action pc'
  | drop {pc : Pc} : pc.atAwait = true →
      AdminCode host app pc .silent (.finish .dropped pc.guards)

end LlmUniversalProxy.Server
