import McpgOperator.Backoff.Controllers
import McpgOperator.Gateway.Status
import McpgOperator.Lib.Settling

/-!
# The controllers in an unchanged world

Each controller over one object whose metadata and spec stay as they are,
while every call goes on being answered as before. What one pass then passes
on to the next is the status it reports, and what changes is the time.

The status is sent as a forced apply of the whole document, and the operator
owns all of it, so what arrives last is what stands. Of the plugin and the
cluster controller the answers say whether a patch takes effect; a patch of
the others does.
-/

namespace McpgOperator.Rounds

open McpgOperator.Kube

variable {σ β : Type}

/-- The same conditions in any order, and the same of what else is looked
at. -/
def sameReport (conditions : σ → List Condition) (rest : σ → β) :
    Setoid σ where
  r s s' := rest s = rest s' ∧ ∀ c, c ∈ conditions s ↔ c ∈ conditions s'
  iseqv :=
    { refl := fun _ => ⟨rfl, fun _ => Iff.rfl⟩
      symm := fun h => ⟨h.1.symm, fun c => (h.2 c).symm⟩
      trans := fun h h' =>
        ⟨h.1.trans h'.1, fun c => (h.2 c).trans (h'.2 c)⟩ }

end McpgOperator.Rounds

open McpgOperator.Kube McpgOperator.Rounds Settling

namespace McpgOperator.Plugin

/-- Up to the order of the conditions and the times. -/
def MCPGPluginStatus.same : Setoid MCPGPluginStatus :=
  sameReport (·.conditions) fun s =>
    { s with conditions := [], pulledAt := none, lastReconcileTime := none }

def rounds (libs : PluginLibs) (ans : PluginAnswers) (obj : MCPGPlugin) :
    Controller DateTime MCPGPluginStatus Effect
      (Except ReconcileError (Requeue × ReconcileOutcome)) Bool where
  round now status :=
    let p := reconcileInner libs { ans with now := now }
      { obj with status := status }
    (p.trace, p.result)
  send landed status := .patchStatus status landed
  arrives landed := landed
  left
    | .patchStatus status true => some status
    | _ => none
  left_send
    | false, _ => rfl
    | true, _ => rfl

end McpgOperator.Plugin

namespace McpgOperator.PluginMirror

def MCPGPluginMirrorStatus.same : Setoid MCPGPluginMirrorStatus :=
  sameReport (·.conditions) fun s =>
    { s with conditions := [], lastReconcileTime := none }

def rounds (conditions : ConditionsApi) (ans : MirrorAnswers)
    (obj : MirrorObject) :
    Controller DateTime MCPGPluginMirrorStatus Effect
      (Except ReconcileError (Requeue × ReconcileOutcome)) Unit where
  round now status :=
    let p := reconcileInner conditions { ans with now := now }
      { obj with status := status }
    (p.trace, p.result)
  send _ := .patchStatus
  arrives _ := true
  left
    | .patchStatus status => some status
    | _ => none
  left_send _ _ := rfl

end McpgOperator.PluginMirror

namespace McpgOperator.PluginSet

def MCPGPluginSetStatus.same : Setoid MCPGPluginSetStatus :=
  sameReport (·.conditions) fun s =>
    { s with conditions := [], lastReconcileTime := none }

namespace Reconcile

def rounds (libs : SetLibs) (ans : SetAnswers) (set : MCPGPluginSet) :
    Controller DateTime MCPGPluginSetStatus Effect
      (Except ReconcileError (Requeue × ReconcileOutcome)) Unit where
  round now status :=
    let p := reconcileInner libs { ans with now := now }
      { set with status := status }
    (p.trace, p.result)
  send _ := .patchStatus
  arrives _ := true
  left
    | .patchStatus status => some status
    | _ => none
  left_send _ _ := rfl

end Reconcile

end McpgOperator.PluginSet

namespace McpgOperator.RevocationList

open McpgOperator.Plugin (MCPGRevocationList MCPGRevocationListStatus)

def sameStatus : Setoid MCPGRevocationListStatus :=
  sameReport (·.conditions) fun s =>
    { s with conditions := [], lastReconcileTime := none }

def rounds (libs : RevocationLibs) (ans : ListAnswers)
    (obj : MCPGRevocationList) :
    Controller DateTime MCPGRevocationListStatus Effect
      (Except ReconcileError (Requeue × ReconcileOutcome)) Unit where
  round now status :=
    let p := reconcileInner libs { ans with now := now }
      { obj with status := status }
    (p.trace, p.result)
  send _ := .patchStatus
  arrives _ := true
  left
    | .patchStatus status => some status
    | _ => none
  left_send _ _ := rfl

end McpgOperator.RevocationList

namespace McpgOperator.Cluster

variable {Backend Managed : Type}

def MCPGClusterStatus.same : Setoid MCPGClusterStatus :=
  sameReport (·.conditions) fun s =>
    { s with conditions := [], lastReconcileTime := none }

def rounds (libs : ClusterLibs Backend Managed) (ans : ClusterAnswers)
    (obj : MCPGCluster Backend Managed) :
    Controller DateTime MCPGClusterStatus Effect
      (Except ReconcileError (Requeue × ReconcileOutcome)) Bool where
  round now status :=
    let p := reconcileInner libs { ans with now := now }
      { obj with status := status }
    (p.trace, p.result)
  send landed status := .patchStatus status landed
  arrives landed := landed
  left
    | .patchStatus status true => some status
    | _ => none
  left_send
    | false, _ => rfl
    | true, _ => rfl

end McpgOperator.Cluster

namespace McpgOperator.Gateway

variable {Backend Managed : Type}

def MCPGGatewayStatus.same : Setoid MCPGGatewayStatus :=
  sameReport (·.conditions) fun s =>
    { s with conditions := [], lastReconcileTime := none }

/-- The Deployment comes back with the same counts too. -/
def rounds (libs : GatewayLibs Backend Managed) (cfg : OperatorConfig)
    (ans : GatewayAnswers Backend Managed)
    (deployment : Option DeploymentStatus) (obj : MCPGGateway) :
    Controller DateTime MCPGGatewayStatus Effect
      (Except ReconcileError ReconcileOutcome) Unit where
  round now status :=
    reconcile libs cfg { ans with now := now } deployment
      { obj with status := status }
  send _ := .patchStatus
  arrives _ := true
  left
    | .patchStatus status => some status
    | _ => none
  left_send _ _ := rfl

end McpgOperator.Gateway

namespace McpgOperator.Route

open McpgOperator.Gateway (MCPGRoute MCPGRouteStatus)

def sameStatus : Setoid MCPGRouteStatus :=
  sameReport (·.conditions) fun s =>
    { s with conditions := [], lastReconcileTime := none }

def rounds (libs : RouteLibs) (ans : RouteAnswers) (obj : MCPGRoute) :
    Controller DateTime MCPGRouteStatus Effect
      (Except ReconcileError (Requeue × ReconcileOutcome)) Unit where
  round now status :=
    let p := reconcileInner libs { ans with now := now }
      { obj with status := status }
    (p.trace, p.result)
  send _ := .patchStatus
  arrives _ := true
  left
    | .patchStatus status => some status
    | _ => none
  left_send _ _ := rfl

end McpgOperator.Route

namespace McpgOperator.Server

open McpgOperator.Gateway (MCPGServer MCPGServerStatus)

def sameStatus : Setoid MCPGServerStatus :=
  sameReport (·.conditions) fun s =>
    { s with conditions := [], lastReconcileTime := none }

def rounds (libs : ServerLibs) (ans : ServerAnswers) (obj : MCPGServer) :
    Controller DateTime MCPGServerStatus Effect
      (Except ReconcileError (Requeue × ReconcileOutcome)) Unit where
  round now status :=
    let p := reconcileInner libs { ans with now := now }
      { obj with status := status }
    (p.trace, p.result)
  send _ := .patchStatus
  arrives _ := true
  left
    | .patchStatus status => some status
    | _ => none
  left_send _ _ := rfl

end McpgOperator.Server

namespace McpgOperator.Tenant

open McpgOperator.Admission (MCPGTenant MCPGTenantStatus)

def sameStatus : Setoid MCPGTenantStatus :=
  sameReport (·.conditions) fun s =>
    { s with conditions := [], lastReconcileTime := none }

def rounds (libs : TenantLibs) (ans : TenantAnswers) (obj : MCPGTenant) :
    Controller DateTime MCPGTenantStatus Effect
      (Except ReconcileError (Requeue × ReconcileOutcome)) Unit where
  round now status :=
    let p := reconcileInner libs { ans with now := now }
      { obj with status := status }
    (p.trace, p.result)
  send _ := .patchStatus
  arrives _ := true
  left
    | .patchStatus status => some status
    | _ => none
  left_send _ _ := rfl

end McpgOperator.Tenant

namespace McpgOperator.Backoff

open McpgOperator.Gateway (DeploymentStatus)

variable {Backend Managed : Type}

/-- The passes that follow this one in an unchanged world settle. -/
def ReconcilePass.Settles (deployment : Option DeploymentStatus) :
    ReconcilePass Backend Managed → Prop
  | .plugin libs ans obj =>
      (Plugin.rounds libs ans obj).Settles Plugin.MCPGPluginStatus.same
  | .pluginMirror conditions ans obj =>
      (PluginMirror.rounds conditions ans obj).Settles
        PluginMirror.MCPGPluginMirrorStatus.same
  | .pluginSet libs ans obj =>
      (PluginSet.Reconcile.rounds libs ans obj).Settles
        PluginSet.MCPGPluginSetStatus.same
  | .revocationList libs ans obj =>
      (RevocationList.rounds libs ans obj).Settles RevocationList.sameStatus
  | .cluster libs ans obj =>
      (Cluster.rounds libs ans obj).Settles Cluster.MCPGClusterStatus.same
  | .gateway libs cfg ans obj =>
      (Gateway.rounds libs cfg ans deployment obj).Settles
        Gateway.MCPGGatewayStatus.same
  | .route libs ans obj => (Route.rounds libs ans obj).Settles Route.sameStatus
  | .server libs ans obj =>
      (Server.rounds libs ans obj).Settles Server.sameStatus
  | .tenant libs ans obj =>
      (Tenant.rounds libs ans obj).Settles Tenant.sameStatus

end McpgOperator.Backoff
