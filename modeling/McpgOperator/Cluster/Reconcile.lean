import McpgOperator.Cluster.Types
import McpgOperator.Gateway.Types
import McpgOperator.Kube.Finalizer
import McpgOperator.Plugin.Types

/-!
# One pass of the cluster controller

`controllers/cluster.rs`. What provisioning a managed coordinator came to is
part of the answers; the rest of the pass, from the finalizer to the status
patch and the event, is here.
-/

namespace McpgOperator.Cluster

open McpgOperator.Kube McpgOperator.Plugin McpgOperator.Gateway

/-! ## Reasons of the Ready condition -/

namespace ClusterReason

def bindable : String := "Bindable"

def pluginNotFound : String := "ClusterPluginNotFound"

def pluginNotReady : String := "ClusterPluginNotReady"

def managedProvisioning : String := "ManagedCoordinatorProvisioning"

end ClusterReason

/-! ## The surroundings of a pass -/

inductive ReconcileError
  | finalizer (e : FinalizerError)
  | apply (e : KubeError)
  | kube (e : KubeError)
  | missingName
  deriving DecidableEq, Repr

structure ManagedOutcome where
  ready : Bool
  natsReadyReplicas : Int
  secretName : String
  message : String
  deriving DecidableEq, Repr

structure ClusterLibs (Backend Managed : Type) where
  api : ConditionsApi
  cluster : ClusterApi Backend Managed
  /-- SHA-256 of the serialised block, in hex. -/
  blockHash : Json → String

structure ClusterAnswers where
  addFinalizer : Except KubeError Unit
  removeFinalizer : Except FinalizerError Unit
  /-- What `reconcile_managed` returns. -/
  reconcileManaged : Except ReconcileError ManagedOutcome
  getPlugin : String → Except KubeError (Option MCPGPlugin)
  listGateways : Except KubeError (List MCPGGateway)
  /-- Whether the status patch takes effect. -/
  statusLands : Bool
  /-- `jittered_resync`, in seconds. -/
  resyncSecs : Nat
  now : DateTime

inductive Effect
  | patchStatus (status : MCPGClusterStatus) (landed : Bool)
  | publish (evt : K8sEvent)
  deriving DecidableEq

structure Pass where
  trace : List Effect
  result : Except ReconcileError (Requeue × ReconcileOutcome)
  deriving DecidableEq

def Pass.fail (e : ReconcileError) : Pass := { trace := [], result := .error e }

variable {Backend Managed : Type}

/-! ## The bindability verdict -/

/-- `plugin_is_ready`: Ready=True and not flagged revoked. -/
def pluginIsReady (p : MCPGPlugin) : Bool :=
  match p.status with
  | none => false
  | some status =>
      if status.revokedBySha = some true then false
      else readyTrue status.conditions

structure Readiness where
  ready : Bool
  reason : String
  message : String
  deriving DecidableEq, Repr

def classifyReadiness (libs : ClusterLibs Backend Managed)
    (ans : ClusterAnswers) (obj : MCPGCluster Backend Managed)
    (backend : Backend) (managed : Option ManagedOutcome) :
    Except ReconcileError Readiness :=
  match managed.filter fun m => !m.ready with
  | some m =>
      .ok
        { ready := false, reason := ClusterReason.managedProvisioning
          message := m.message }
  | none =>
      match obj.spec.pluginRef with
      | some pluginRef =>
          match ans.getPlugin pluginRef with
          | .error e => .error (.kube e)
          | .ok none =>
              .ok
                { ready := false, reason := ClusterReason.pluginNotFound
                  message := "clusterPlugin '" ++ pluginRef ++
                    "' not found" }
          | .ok (some p) =>
              if pluginIsReady p then
                .ok
                  { ready := true, reason := ClusterReason.bindable
                    message := "backend '" ++
                      libs.cluster.configKind backend ++
                      "' bindable via verified plugin '" ++ pluginRef ++
                      "'" }
              else
                .ok
                  { ready := false, reason := ClusterReason.pluginNotReady
                    message := "clusterPlugin '" ++ pluginRef ++
                      "' is not Ready (unverified / revoked / pulling)" }
      | none =>
          .ok
            { ready := true, reason := ClusterReason.bindable
              message :=
                match managed with
                | some m => m.message
                | none =>
                    if libs.cluster.isSingleNode backend then
                      "in-process single_node coordinator"
                    else
                      "backend '" ++ libs.cluster.configKind backend ++
                        "' bindable (cdylib supplied via gateway " ++
                        "pluginSetRef)" }

def countBoundGateways (ans : ClusterAnswers) (clusterName : String) :
    Except ReconcileError Int :=
  match ans.listGateways with
  | .error e => .error (.kube e)
  | .ok gateways =>
      .ok (gateways.countP fun g => g.spec.clusterRef == some clusterName)

/-! ## The pass -/

/-- The status of a pass that came to a verdict. -/
def verdictStatus (libs : ClusterLibs Backend Managed)
    (ans : ClusterAnswers) (obj : MCPGCluster Backend Managed)
    (name : String) (generation : Int) (managed : Option ManagedOutcome)
    (verdict : Readiness) (boundGateways : Int) : MCPGClusterStatus :=
  { conditions := libs.api.setCondition obj.carriedConditions
      { type := CType.ready
        status := if verdict.ready then "True" else "False"
        reason :=
          if verdict.ready then Reasons.reconciled else verdict.reason
        message := verdict.message
        observedGeneration := some generation }
    observedGeneration := some generation
    pluginId :=
      libs.cluster.pluginId (libs.cluster.effectiveBackend obj.spec)
    boundGateways := some boundGateways
    configHash := some (libs.blockHash
      (libs.cluster.renderClusterBlockWith obj.spec name
        defaultOperatorNamespace))
    managedReady := managed.map (·.ready)
    natsReadyReplicas := managed.map (·.natsReadyReplicas)
    coordinationSecret := managed.map (·.secretName)
    lastReconcileTime := some ans.now }

/-- What a pass does with its verdict. -/
def reportVerdict (libs : ClusterLibs Backend Managed)
    (ans : ClusterAnswers) (obj : MCPGCluster Backend Managed)
    (name : String) (generation : Int) (managed : Option ManagedOutcome)
    (verdict : Readiness) (boundGateways : Int) : Pass :=
  let status :=
    verdictStatus libs ans obj name generation managed verdict boundGateways
  if verdict.ready then
    { trace := [.patchStatus status ans.statusLands]
      result := .ok (.after ans.resyncSecs, .success) }
  else
    { trace :=
        [.patchStatus status ans.statusLands,
          .publish
            { type_ := "Warning", reason := verdict.reason
              note := some verdict.message, action := "Bind" }]
      result := .ok
        (.after (if managed.isSome then 15 else ans.resyncSecs),
          .dependencyPending) }

/-- `reconcile_managed`, when the cluster asks for it. -/
def managedOutcome (ans : ClusterAnswers)
    (obj : MCPGCluster Backend Managed) :
    Except ReconcileError (Option ManagedOutcome) :=
  match obj.spec.managed with
  | none => .ok none
  | some _ => ans.reconcileManaged.map some

/-- Everything after the finalizer: provision, judge, count, report. -/
def judgeStep (libs : ClusterLibs Backend Managed) (ans : ClusterAnswers)
    (obj : MCPGCluster Backend Managed) (name : String)
    (generation : Int) : Pass :=
  match managedOutcome ans obj with
  | .error e => .fail e
  | .ok managed =>
      match classifyReadiness libs ans obj
          (libs.cluster.effectiveBackend obj.spec) managed with
      | .error e => .fail e
      | .ok verdict =>
          match countBoundGateways ans name with
          | .error e => .fail e
          | .ok boundGateways =>
              reportVerdict libs ans obj name generation managed verdict
                boundGateways

def reconcileInner (libs : ClusterLibs Backend Managed)
    (ans : ClusterAnswers) (obj : MCPGCluster Backend Managed) : Pass :=
  match obj.metadata.name with
  | none => .fail .missingName
  | some name =>
      if obj.metadata.deletionTimestamp.isSome then
        match ans.removeFinalizer with
        | .error e => .fail (.finalizer e)
        | .ok _ => { trace := [], result := .ok (.awaitChange, .success) }
      else
        match ensureFinalizer ans.addFinalizer obj.metadata with
        | .error e => .fail (.finalizer e)
        | .ok _ =>
            judgeStep libs ans obj name (obj.metadata.generation.getD 0)

end McpgOperator.Cluster
