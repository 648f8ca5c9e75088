import McpgOperator.Backoff.Controllers

/-!
# When a controller comes back to an object

A pass returns an `Action`, and an error is turned into one by the
`error_policy`: to come back after so many seconds, or to wait for the next
event.
-/

namespace McpgOperator.Kube

open McpgOperator.Backoff

/-- `Action::requeue` and `Action::await_change`. -/
def Requeue.action : Requeue → Retry
  | .awaitChange => .awaitChange
  | .after secs => .after secs

end McpgOperator.Kube

namespace McpgOperator.Gateway

open McpgOperator.Kube

/-- What a pass that ended well asks for; `resyncSecs` is drawn by
`jittered_resync`. -/
def Ended.requeue (resyncSecs : Nat) : Ended → Requeue
  | .deleted => .awaitChange
  | .held => .after 30
  | .applied => .after resyncSecs

end McpgOperator.Gateway

namespace McpgOperator.Backoff

open McpgOperator.Kube McpgOperator.Watch

/-- How a pass ends for the runtime: with what it asks for, or with an error
and its policy. -/
abbrev Outcome := Except ErrorPolicy Requeue

def Outcome.of {ε : Type} (policy : ε → ErrorPolicy) :
    Except ε (Requeue × ReconcileOutcome) → Outcome
  | .ok (requeue, _) => .ok requeue
  | .error e => .error (policy e)

variable {Backend Managed : Type}

/-- `resyncSecs` is that of the gateway controller; the others carry theirs
with their answers. -/
def ReconcilePass.outcome (resyncSecs : Nat) :
    ReconcilePass Backend Managed → Outcome
  | .plugin libs ans obj =>
      .of Plugin.errorPolicy (Plugin.reconcileInner libs ans obj).result
  | .pluginMirror conditions ans obj =>
      .of PluginMirror.errorPolicy
        (PluginMirror.reconcileInner conditions ans obj).result
  | .pluginSet libs ans obj =>
      .of PluginSet.Reconcile.errorPolicy
        (PluginSet.Reconcile.reconcileInner libs ans obj).result
  | .revocationList libs ans obj =>
      .of RevocationList.errorPolicy
        (RevocationList.reconcileInner libs ans obj).result
  | .cluster libs ans obj =>
      .of Cluster.errorPolicy (Cluster.reconcileInner libs ans obj).result
  | .gateway libs cfg ans obj =>
      match (Gateway.reconcileInner libs cfg ans obj).result with
      | .ok ended => .ok (ended.requeue resyncSecs)
      | .error e => .error (Gateway.errorPolicy e)
  | .route libs ans obj =>
      .of Route.errorPolicy (Route.reconcileInner libs ans obj).result
  | .server libs ans obj =>
      .of Server.errorPolicy (Server.reconcileInner libs ans obj).result
  | .tenant libs ans obj =>
      .of Tenant.errorPolicy (Tenant.reconcileInner libs ans obj).result

/-- What the runtime is told after the pass, with the map the pass left. -/
def ReconcilePass.next (resyncSecs : Nat) (jitter : ℚ) (m : BackoffMap)
    (p : ReconcilePass Backend Managed) : Retry :=
  match p.outcome resyncSecs with
  | .ok requeue => requeue.action
  | .error policy => policy.retry jitter m p.key

/-- The resync interval the pass draws, where it draws one. -/
def ReconcilePass.resync (resyncSecs : Nat) :
    ReconcilePass Backend Managed → Nat
  | .pluginMirror _ ans _ => ans.resyncSecs
  | .cluster _ ans _ => ans.resyncSecs
  | .route _ ans _ => ans.resyncSecs
  | .server _ ans _ => ans.resyncSecs
  | .tenant _ ans _ => ans.resyncSecs
  | .gateway .. => resyncSecs
  | .plugin .. | .pluginSet .. | .revocationList .. => 0

end McpgOperator.Backoff
