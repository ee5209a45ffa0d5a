import Mathlib.Logic.Function.Basic
import LlmUniversalProxy.Server.Admin

/-!
# `Server.AdminRegistry` — what the admin writes are for

Without the locks, the upstream discovery and the provider keys, the admin interface is a registry
of configurations with a revision each. A write names the revision that it wants to replace and
puts a new configuration with a new revision in its place. `Linearised` says that a sequence of
such writes happened one after the other.
-/

set_option autoImplicit false

namespace LlmUniversalProxy.Server

open Lib

/-- The configurations in force, with their revisions. -/
structure Registry where
  namespaces : String → Option (String × Config)
  dataAuth : RuntimeDataAuthState

def RuntimeNamespaceState.entry (state : RuntimeNamespaceState) : String × Config :=
  (state.revision, state.config)

def AppState.registry (app : AppState) : Registry where
  namespaces namespaceName :=
    (app.runtime.namespaces.lookup namespaceName).map RuntimeNamespaceState.entry
  dataAuth := app.dataAuth

namespace AdminWrite

def ifRevision : AdminWrite → Option String
  | .namespaceConfig _ ifRevision _ _ => ifRevision
  | .dataAuthConfig ifRevision _ => ifRevision

/-- The revision a write is about to replace: `none` for a namespace that does not exist. -/
def current : AdminWrite → Registry → Option String
  | .namespaceConfig namespaceName _ _ _, r => (r.namespaces namespaceName).map Prod.fst
  | .dataAuthConfig _ _, r => some r.dataAuth.revision

def apply : AdminWrite → Registry → Registry
  | .namespaceConfig namespaceName _ config revision, r =>
      { r with namespaces := Function.update r.namespaces namespaceName (some (revision, config)) }
  | .dataAuthConfig _ next, r => { r with dataAuth := next }

/-- What a successful write is answered. -/
def response : AdminWrite → Response
  | .namespaceConfig namespaceName _ _ revision => .namespaceApplied namespaceName revision
  | .dataAuthConfig _ next => .dataAuthApplied next.revision next.config

end AdminWrite

/-- The write a call asks for, if its body is well formed. -/
def Request.write (host : Host) : Request → Option AdminWrite
  | .namespaceConfig namespaceName body revision =>
      match body with
      | .error _ => none
      | .ok request =>
          some (.namespaceConfig namespaceName request.ifRevision request.config revision)
  | .dataAuthConfig body revision =>
      match body with
      | .error _ => none
      | .ok request =>
          match RuntimeDataAuthState.fromAdminConfig host.env revision request.config with
          | .error _ => none
          | .ok next => some (.dataAuthConfig request.ifRevision next)
  | .authContext _ => none

/-- `Linearised writeOf r ts r'`: the writes of the tasks `ts`, one after the other, lead from `r`
to `r'`, and each replaced exactly the revision it named. -/
inductive Linearised {ι : Type} (writeOf : ι → Option AdminWrite) :
    Registry → List ι → Registry → Prop
  | nil (r : Registry) : Linearised writeOf r [] r
  | snoc {r r' : Registry} {ts : List ι} {t : ι} {write : AdminWrite} :
      Linearised writeOf r ts r' → writeOf t = some write →
      write.current r' = write.ifRevision → Linearised writeOf r (ts ++ [t]) (write.apply r')

end LlmUniversalProxy.Server
