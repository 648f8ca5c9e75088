import McpgOperator.Gateway.AuthorizationServer
import McpgOperator.Gateway.Reconcile
import McpgOperator.Kube.Conditions

/-!
# What a gateway pass reports

Steps 4 and 5 of `reconcile_inner`: the status of the Deployment the apply
returned, the conditions, the events and the outcome. A held pass has
reported by then. With this the pass is complete up to the metrics, the
backoff and the delay of the requeue.
-/

namespace McpgOperator.Gateway

open McpgOperator.Kube McpgOperator.Templates McpgOperator.Cluster

/-- The counts of an `apps/v1` `DeploymentStatus` the report reads. -/
structure DeploymentStatus where
  replicas : Option Int := none
  readyReplicas : Option Int := none
  updatedReplicas : Option Int := none
  availableReplicas : Option Int := none
  deriving DecidableEq, Repr

/-- As this generation of the gateway has it. -/
def observed (obj : MCPGGateway) (c : Condition) : Condition :=
  { c with observedGeneration := some (obj.metadata.generation.getD 0) }

/-! ## The conditions -/

/-- `all_replicas_available`. -/
def allReplicasAvailable (obj : MCPGGateway) (available : Int) : Bool :=
  0 < available && available == effectiveReplicas obj

/-- Ready with either of the two conditions that go with it. -/
def setVerdict (api : ConditionsApi) (obj : MCPGGateway) (available : Int)
    (conditions : List Condition) : List Condition :=
  if allReplicasAvailable obj available then
    let conditions := api.setCondition conditions (observed obj
      { type := CType.ready, status := "True"
        reason := Reasons.allReplicasAvailable, message := ""
        observedGeneration := none })
    api.setCondition conditions (observed obj
      { type := CType.available, status := "True"
        reason := Reasons.podsReady, message := ""
        observedGeneration := none })
  else
    let conditions := api.setCondition conditions (observed obj
      { type := CType.ready, status := "False"
        reason := Reasons.progressing
        message := toString available ++ "/" ++
          toString (effectiveReplicas obj) ++ " replicas available"
        observedGeneration := none })
    api.setCondition conditions (observed obj
      { type := CType.progressing, status := "True"
        reason := Reasons.progressing, message := ""
        observedGeneration := none })

namespace Resolved

variable (r : Resolved) (obj : MCPGGateway)

/-- What the pass has to say of the plugin set. -/
def pluginSetCondition : Option Condition :=
  r.pluginSet.map fun p => observed obj p.condition

def revocationListCondition : Option Condition :=
  r.revocationList.map fun l => observed obj l.condition

def clusterCondition : Option Condition :=
  r.cluster.map fun c => observed obj c.condition

/-- One condition for each reference that resolved to anything. -/
def setReferences (api : ConditionsApi) (conditions : List Condition) :
    List Condition :=
  let conditions := api.setOptional conditions (r.pluginSetCondition obj)
  let conditions :=
    api.setOptional conditions (r.revocationListCondition obj)
  api.setOptional conditions (r.clusterCondition obj)

end Resolved

/-- This one condition is taken back when there is nothing to say. -/
def setAlignment (api : ConditionsApi) (obj : MCPGGateway)
    (alignment : Option Condition) (conditions : List Condition) :
    List Condition :=
  match alignment with
  | some c => api.setCondition conditions (observed obj c)
  | none =>
      conditions.filter fun c =>
        c.type ≠ CondType.authorizationServerAligned

variable {Backend Managed : Type}

/-- `merged_config` once the identity of a managed gateway is in. -/
def identityConfig (libs : RenderLibs) (cfg : OperatorConfig)
    (obj : MCPGGateway) (ns : String) (inputs : RenderInputs) : Json :=
  let config := mergePlugins obj.spec.config inputs.view
    (if inputs.revocationList then some revocationListMountPath else none)
  let config :=
    match inputs.clusterBlock with
    | none => config
    | some block => mergeClusterBlock block config
  let config := mergeRoutes libs.gateway obj ns inputs.routes config
  let config := mergeServers libs.server obj ns inputs.servers config
  injectCloudIdentity libs cfg obj config

/-- The renderer goes on from there. -/
theorem renderConfig_identityConfig (libs : RenderLibs) (cfg : OperatorConfig)
    (obj : MCPGGateway) (ns : String) (inputs : RenderInputs) :
    renderConfig libs cfg obj ns inputs =
      applyCloudDefaultPlugins cfg obj
        (identityConfig libs cfg obj ns inputs) := rfl

/-- `authorization_server_condition`. -/
def authorizationServerCondition (libs : RenderLibs) (cfg : OperatorConfig)
    (obj : MCPGGateway) (ns : String) (inputs : RenderInputs) :
    Option Condition :=
  (obj.spec.cloud.filter fun cloud => cloud.externalUrl ≠ "").bind fun _ =>
    authorizationServerAlignment (identityConfig libs cfg obj ns inputs)

/-! ## The report -/

/-- The status of a pass that applied its children. -/
def reportedStatus (libs : GatewayLibs Backend Managed)
    (ans : GatewayAnswers Backend Managed) (obj : MCPGGateway)
    (r : Resolved) (configHash : String) (deployment : DeploymentStatus)
    (alignment : Option Condition) : MCPGGatewayStatus :=
  let available := deployment.availableReplicas.getD 0
  let conditions := (obj.status.map (·.conditions)).getD []
  let conditions := setVerdict libs.conditions obj available conditions
  let conditions := r.setReferences obj libs.conditions conditions
  let conditions := setAlignment libs.conditions obj alignment conditions
  { conditions := conditions
    observedGeneration := some (obj.metadata.generation.getD 0)
    replicas := some (deployment.replicas.getD 0)
    readyReplicas := some (deployment.readyReplicas.getD 0)
    updatedReplicas := some (deployment.updatedReplicas.getD 0)
    availableReplicas := some available
    configHash := some configHash
    pluginSetHash := r.pluginSet.map (·.resolvedHash)
    revocationListHash := r.revocationList.map (·.mount.contentHash)
    lastReconcileTime := some ans.now }

/-- The events of the report. -/
def reportedEvents (obj : MCPGGateway) (available : Int)
    (alignment : Option Condition) : List Effect :=
  ((alignment.filter fun c => c.status ≠ "True").map fun c =>
    .publish
      { type_ := "Warning", reason := c.reason, note := some c.message
        action := "CheckAuthorizationServer" }).toList ++
  (if allReplicasAvailable obj available then
    [.publish
      { type_ := "Normal", reason := "Reconciled"
        note := some ("Gateway is Ready (" ++ toString available ++ "/" ++
          toString (effectiveReplicas obj) ++ ") replicas available")
        action := "Reconcile" }]
  else [])

def Resolved.outcome (r : Resolved) : ReconcileOutcome :=
  if r.pluginSet.any (fun p => p.view.isNone) ||
      r.revocationList.any (fun l => l.condition.status ≠ "True") then
    .dependencyPending
  else .success

/-- Steps 4 and 5. -/
def reportStep (libs : GatewayLibs Backend Managed) (cfg : OperatorConfig)
    (ans : GatewayAnswers Backend Managed) (obj : MCPGGateway) (ns : String)
    (r : Resolved) (deployment : DeploymentStatus) : List Effect :=
  let config := renderConfig libs.render cfg obj ns (r.inputs ans)
  let configHash := (buildConfigmap libs obj config).2
  let alignment :=
    authorizationServerCondition libs.render cfg obj ns (r.inputs ans)
  .patchStatus
      (reportedStatus libs ans obj r configHash deployment alignment) ::
    reportedEvents obj (deployment.availableReplicas.getD 0) alignment

/-! ## The whole pass -/

/-- What the references of a gateway came to in a pass. -/
def resolvedOf (libs : GatewayLibs Backend Managed)
    (ans : GatewayAnswers Backend Managed) (obj : MCPGGateway) :
    Option Resolved :=
  obj.metadata.namespace_.bind fun ns =>
    (resolveStep libs ans obj ns).toOption

/-- `reconcile_inner` to its end, given the status the applied Deployment
came back with. -/
def reconcile (libs : GatewayLibs Backend Managed) (cfg : OperatorConfig)
    (ans : GatewayAnswers Backend Managed)
    (deployment : Option DeploymentStatus) (obj : MCPGGateway) :
    List Effect × Except ReconcileError ReconcileOutcome :=
  let pass := reconcileInner libs cfg ans obj
  match pass.result with
  | .error e => (pass.trace, .error e)
  | .ok .deleted => (pass.trace, .ok .success)
  | .ok .held => (pass.trace, .ok .dependencyPending)
  | .ok .applied =>
      match resolvedOf libs ans obj with
      | none => (pass.trace, .ok .success)
      | some r =>
          let ns := obj.metadata.namespace_.getD ""
          (pass.trace ++
              reportStep libs cfg ans obj ns r (deployment.getD {}),
            .ok r.outcome)

end McpgOperator.Gateway
