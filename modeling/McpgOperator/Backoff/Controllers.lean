import McpgOperator.Backoff.Map
import McpgOperator.Cluster.Reconcile
import McpgOperator.Gateway.Reconcile
import McpgOperator.Plugin.Reconcile
import McpgOperator.PluginMirror.Reconcile
import McpgOperator.PluginSet.Reconcile
import McpgOperator.RevocationList.Reconcile
import McpgOperator.Route.Reconcile
import McpgOperator.Server.Reconcile
import McpgOperator.Tenant.Reconcile
import McpgOperator.Watch

/-!
# What the passes of the controllers do to the backoff map

A pass that fails goes to the controller's `error_policy`, which counts the
failure and asks for a retry. A pass that returns is meant to reset the count;
where a controller calls `record_success` is its own business, and so is
whether it counts at all.
-/

namespace McpgOperator.Backoff

open McpgOperator.Kube

/-- What an `error_policy` does with an error. -/
inductive ErrorPolicy
  | awaitChange
  | backOff
  | fixed (secs : Nat)
  deriving DecidableEq, Repr

/-- `Action`, with the delay as it is drawn. -/
inductive Retry
  | awaitChange
  | after (delay : ℚ)
  deriving DecidableEq

/-- The map an error leaves. -/
def ErrorPolicy.record (m : BackoffMap) (key : String) :
    ErrorPolicy → BackoffMap
  | .backOff => (m.recordError key).1
  | .awaitChange | .fixed _ => m

/-- The retry, from the map the error leaves. -/
def ErrorPolicy.retry (jitter : ℚ) (m : BackoffMap) (key : String) :
    ErrorPolicy → Retry
  | .awaitChange => .awaitChange
  | .backOff => .after (m.durationFor jitter key)
  | .fixed secs => .after secs

/-- How a pass ends: with or without `record_success`, or with an error. -/
inductive Ending
  | ok (recorded : Bool)
  | error (policy : ErrorPolicy)
  deriving DecidableEq, Repr

def Ending.of {ε α : Type} (policy : ε → ErrorPolicy) (recorded : Bool) :
    Except ε α → Ending
  | .ok _ => .ok recorded
  | .error e => .error (policy e)

/-- `matches!(outcome, ReconcileOutcome::Success)`. -/
def succeeded {ε : Type} : Except ε (Requeue × ReconcileOutcome) → Bool
  | .ok (_, .success) => true
  | _ => false

end McpgOperator.Backoff

/-! ## The controllers -/

namespace McpgOperator.Gateway

open McpgOperator.Backoff

def errorPolicy : ReconcileError → ErrorPolicy
  | .missingNamespace _ | .missingName => .awaitChange
  | _ => .backOff

/-- A held pass and a full one reset the count. -/
def Pass.ending (p : Pass) : Ending :=
  .of errorPolicy (p.result ≠ .ok .deleted) p.result

end McpgOperator.Gateway

namespace McpgOperator.Plugin

open McpgOperator.Backoff

def errorPolicy : ReconcileError → ErrorPolicy
  | .missingName => .awaitChange
  | _ => .backOff

/-- Whether the count of this object is reset stands in the trace. -/
def Pass.ending (obj : MCPGPlugin) (p : Pass) : Ending :=
  .of errorPolicy
    (p.trace.contains
      (.recordSuccess (resourceKey "plugin" "" obj.metadata.nameAny)))
    p.result

end McpgOperator.Plugin

namespace McpgOperator.PluginMirror

open McpgOperator.Backoff

def errorPolicy : ReconcileError → ErrorPolicy
  | .missingName => .awaitChange
  | _ => .backOff

/-- There is no `record_success` here. -/
def Pass.ending (p : Pass) : Ending := .of errorPolicy false p.result

end McpgOperator.PluginMirror

namespace McpgOperator.PluginSet.Reconcile

open McpgOperator.Backoff

def errorPolicy : ReconcileError → ErrorPolicy
  | .missingName | .missingNamespace _ => .awaitChange
  | _ => .backOff

/-- A pass with every entry resolved resets the count; one over a set that
is deleted has returned before. -/
def Pass.ending (set : MCPGPluginSet) (p : Pass) : Ending :=
  .of errorPolicy
    (set.metadata.deletionTimestamp.isNone && succeeded p.result) p.result

end McpgOperator.PluginSet.Reconcile

namespace McpgOperator.RevocationList

open McpgOperator.Backoff McpgOperator.Plugin

def errorPolicy : ReconcileError → ErrorPolicy
  | .missingName => .awaitChange
  | _ => .backOff

/-- A pass that reached every namespace resets the count; one over a list
that is deleted has returned before. -/
def Pass.ending (obj : MCPGRevocationList) (p : Pass) : Ending :=
  .of errorPolicy
    (obj.metadata.deletionTimestamp.isNone && succeeded p.result) p.result

end McpgOperator.RevocationList

namespace McpgOperator.Cluster

open McpgOperator.Backoff

def errorPolicy : ReconcileError → ErrorPolicy
  | .missingName => .awaitChange
  | _ => .backOff

/-- There is no `record_success` here. -/
def Pass.ending (p : Pass) : Ending := .of errorPolicy false p.result

end McpgOperator.Cluster

namespace McpgOperator.Route

open McpgOperator.Backoff

def errorPolicy : ReconcileError → ErrorPolicy
  | .missingName | .missingNamespace _ => .awaitChange
  | _ => .backOff

/-- There is no `record_success` here. -/
def Pass.ending (p : Pass) : Ending := .of errorPolicy false p.result

end McpgOperator.Route

namespace McpgOperator.Server

open McpgOperator.Backoff

def errorPolicy : ReconcileError → ErrorPolicy
  | .missingName | .missingNamespace _ => .awaitChange
  | _ => .fixed 10

/-- The map is not touched here. -/
def Pass.ending (p : Pass) : Ending := .of errorPolicy false p.result

end McpgOperator.Server

namespace McpgOperator.Tenant

open McpgOperator.Backoff

def errorPolicy : ReconcileError → ErrorPolicy
  | .missingName => .awaitChange
  | _ => .backOff

/-- There is no `record_success` here. -/
def Pass.ending (p : Pass) : Ending := .of errorPolicy false p.result

end McpgOperator.Tenant

/-! ## Any of them -/

namespace McpgOperator.Backoff

open McpgOperator.Kube McpgOperator.Watch

/-- `CONTROLLER_NAME`. -/
def controllerName : Kind → String
  | .plugin => "plugin"
  | .pluginMirror => "plugin-mirror"
  | .pluginSet => "plugin-set"
  | .revocationList => "revocation-list"
  | .cluster => "cluster"
  | .gateway => "gateway"
  | .route => "route"
  | .server => "server"
  | .tenant => "tenant"

/-- A pass of a controller over an object, with what it is answered. -/
inductive ReconcilePass (Backend Managed : Type)
  | plugin (libs : Plugin.PluginLibs) (ans : Plugin.PluginAnswers)
      (obj : Plugin.MCPGPlugin)
  | pluginMirror (conditions : ConditionsApi)
      (ans : PluginMirror.MirrorAnswers) (obj : PluginMirror.MirrorObject)
  | pluginSet (libs : PluginSet.Reconcile.SetLibs)
      (ans : PluginSet.Reconcile.SetAnswers) (obj : PluginSet.MCPGPluginSet)
  | revocationList (libs : RevocationList.RevocationLibs)
      (ans : RevocationList.ListAnswers) (obj : Plugin.MCPGRevocationList)
  | cluster (libs : Cluster.ClusterLibs Backend Managed)
      (ans : Cluster.ClusterAnswers) (obj : Cluster.MCPGCluster Backend Managed)
  | gateway (libs : Gateway.GatewayLibs Backend Managed)
      (cfg : Gateway.OperatorConfig)
      (ans : Gateway.GatewayAnswers Backend Managed) (obj : Gateway.MCPGGateway)
  | route (libs : Route.RouteLibs) (ans : Route.RouteAnswers)
      (obj : Gateway.MCPGRoute)
  | server (libs : Server.ServerLibs) (ans : Server.ServerAnswers)
      (obj : Gateway.MCPGServer)
  | tenant (libs : Tenant.TenantLibs) (ans : Tenant.TenantAnswers)
      (obj : Admission.MCPGTenant)

namespace ReconcilePass

variable {Backend Managed : Type}

def kind : ReconcilePass Backend Managed → Kind
  | .plugin .. => .plugin
  | .pluginMirror .. => .pluginMirror
  | .pluginSet .. => .pluginSet
  | .revocationList .. => .revocationList
  | .cluster .. => .cluster
  | .gateway .. => .gateway
  | .route .. => .route
  | .server .. => .server
  | .tenant .. => .tenant

def metadata : ReconcilePass Backend Managed → ObjectMeta
  | .plugin _ _ obj => obj.metadata
  | .pluginMirror _ _ obj => obj.mirror.metadata
  | .pluginSet _ _ obj => obj.metadata
  | .revocationList _ _ obj => obj.metadata
  | .cluster _ _ obj => obj.metadata
  | .gateway _ _ _ obj => obj.metadata
  | .route _ _ obj => obj.metadata
  | .server _ _ obj => obj.metadata
  | .tenant _ _ obj => obj.metadata

def ending : ReconcilePass Backend Managed → Ending
  | .plugin libs ans obj => (Plugin.reconcileInner libs ans obj).ending obj
  | .pluginMirror conditions ans obj =>
      (PluginMirror.reconcileInner conditions ans obj).ending
  | .pluginSet libs ans obj =>
      (PluginSet.Reconcile.reconcileInner libs ans obj).ending obj
  | .revocationList libs ans obj =>
      (RevocationList.reconcileInner libs ans obj).ending obj
  | .cluster libs ans obj => (Cluster.reconcileInner libs ans obj).ending
  | .gateway libs cfg ans obj =>
      (Gateway.reconcileInner libs cfg ans obj).ending
  | .route libs ans obj => (Route.reconcileInner libs ans obj).ending
  | .server libs ans obj => (Server.reconcileInner libs ans obj).ending
  | .tenant libs ans obj => (Tenant.reconcileInner libs ans obj).ending

/-- The namespace in the key, empty for a cluster-scoped kind. -/
def keyNamespace (p : ReconcilePass Backend Managed) : String :=
  if p.kind.namespaced then p.metadata.namespace_.getD "" else ""

def key (p : ReconcilePass Backend Managed) : String :=
  resourceKey (controllerName p.kind) p.keyNamespace p.metadata.nameAny

end ReconcilePass

variable {Backend Managed : Type}

/-- The map after one more pass. -/
def afterPass (m : BackoffMap) (p : ReconcilePass Backend Managed) :
    BackoffMap :=
  match p.ending with
  | .ok true => m.recordSuccess p.key
  | .ok false => m
  | .error policy => policy.record m p.key

/-- The map after these passes, from the start of the process. -/
def mapAfter (passes : List (ReconcilePass Backend Managed)) : BackoffMap :=
  passes.foldl afterPass []

end McpgOperator.Backoff
