import McpgOperator.Gateway.Config
import McpgOperator.Gateway.Resolve
import McpgOperator.Kube.Finalizer
import McpgOperator.Templates.HttpRoute
import McpgOperator.Templates.Pdb

/-!
# One pass of the gateway controller

`reconcile_inner` of `controllers/gateway.rs`, from the finalizer to the
disruption budget: resolve the references, hold on a cluster that does not
resolve, render, apply the children in order. The status report that follows
is in `Gateway.Status`. What the Service and the ServiceAccount hold is not
modelled.
-/

namespace McpgOperator.Gateway

open McpgOperator.Kube McpgOperator.Templates McpgOperator.Cluster

/-! ## The surroundings of a pass -/

inductive ReconcileError
  | kube (e : KubeError)
  | apply (e : KubeError)
  | finalizer (e : FinalizerError)
  | missingNamespace (name : String)
  | missingName
  deriving DecidableEq, Repr

structure GatewayLibs (Backend Managed : Type) where
  conditions : ConditionsApi
  render : RenderLibs
  resolve : ResolveLibs
  cluster : ClusterApi Backend Managed
  /-- `serde_yaml::to_string`, with the fallback text for a failure. -/
  yamlToString : Json → String
  sha256Hex : String → String

/-- What the requests of a pass answer. -/
structure GatewayAnswers (Backend Managed : Type) where
  addFinalizer : Except KubeError Unit
  removeFinalizer : Except FinalizerError Unit
  resolve : ResolveAnswers
  cluster : ClusterReads Backend Managed
  listRoutes : Except KubeError (List MCPGRoute)
  listServers : Except KubeError (List MCPGServer)
  applyConfigMap : Except KubeError Unit
  applyService : Except KubeError Unit
  applyServiceAccount : Except KubeError Unit
  ensureTenantSecretBinding : Except KubeError Unit
  applyCoordinationSecret : Except KubeError Unit
  applyDeployment : Except KubeError Unit
  applyHttpRoute : Except KubeError Unit
  reconcileEdgeDomains : Except KubeError Unit
  applyHpa : Except KubeError Unit
  applyPdb : Except KubeError Unit := .ok ()
  now : DateTime

/-- A request a pass issues. The ConfigMap comes with the config it was
rendered from. -/
inductive Effect
  | patchStatus (status : MCPGGatewayStatus)
  | publish (evt : K8sEvent)
  | applyConfigMap (config : Json) (cm : ConfigMap)
  | applyService
  | applyServiceAccount
  | ensureTenantSecretBinding
  | applyCoordinationSecret (secret : Secret)
  | applyDeployment (dep : Deployment)
  | applyHttpRoute (route : HTTPRoute)
  | reconcileEdgeDomains
  | applyHpa (hpa : HorizontalPodAutoscaler)
  | applyPdb (pdb : PodDisruptionBudget)
  | deletePdb (name : String)
  deriving DecidableEq

inductive Ended
  | deleted
  | held
  | applied
  deriving DecidableEq, Repr

structure Pass where
  trace : List Effect
  result : Except ReconcileError Ended
  deriving DecidableEq

def Pass.fail (e : ReconcileError) : Pass := { trace := [], result := .error e }

/-- Applies in order, up to the first that fails. -/
def applyInOrder : List (Effect × Except KubeError Unit) → Pass
  | [] => { trace := [], result := .ok .applied }
  | (e, .error x) :: _ => { trace := [e], result := .error (.apply x) }
  | (e, .ok _) :: rest =>
      let p := applyInOrder rest
      { p with trace := e :: p.trace }

variable {Backend Managed : Type}

/-! ## The cluster hold -/

/-- The status of a held pass: everything carried forward, with the two
conditions updated. -/
def heldStatus (libs : GatewayLibs Backend Managed)
    (ans : GatewayAnswers Backend Managed) (obj : MCPGGateway)
    (cluster : ResolvedCluster) : MCPGGatewayStatus :=
  let generation := obj.metadata.generation.getD 0
  let status := obj.status.getD {}
  { status with
    conditions := libs.conditions.setAll status.conditions
      [{ cluster.condition with observedGeneration := some generation },
        { type := CType.ready, status := "False"
          reason := "DependencyPending"
          message := "config reconcile held (last rendered config stays " ++
            "live): " ++ cluster.condition.message
          observedGeneration := some generation }]
    observedGeneration := some generation
    lastReconcileTime := some ans.now }

/-- A pass that holds. -/
def holdStep (libs : GatewayLibs Backend Managed)
    (ans : GatewayAnswers Backend Managed) (obj : MCPGGateway)
    (cluster : ResolvedCluster) : Pass :=
  { trace :=
      [.patchStatus (heldStatus libs ans obj cluster),
        .publish
          { type_ := "Warning", reason := cluster.condition.reason
            note := some ("holding config reconcile: " ++
              cluster.condition.message ++
              " (the last rendered config keeps serving)")
            action := "ResolveCluster" }]
    result := .ok .held }

/-! ## The children -/

/-- `standard_labels`, in key order. -/
def standardLabels (parent : MCPGGateway) : List (String × String) :=
  let name := parent.metadata.name.getD ""
  [("app.kubernetes.io/component", "gateway"),
    ("app.kubernetes.io/instance", name),
    ("app.kubernetes.io/managed-by", "mcpg-operator"),
    ("app.kubernetes.io/name", "mcpg-gateway"),
    ("app.kubernetes.io/part-of", "mcpg")] ++
  ((parent.spec.image.tag.filter (· ≠ "")).map fun tag =>
    ("app.kubernetes.io/version", tag)).toList ++
  [("mcpg.dev/gateway", name)]

/-- `build_configmap`, with the hash of the rendered text. -/
def buildConfigmap (libs : GatewayLibs Backend Managed)
    (parent : MCPGGateway) (config : Json) : ConfigMap × String :=
  let yaml := libs.yamlToString config
  let hash := libs.sha256Hex yaml
  ({ name := some (childName parent "config")
     namespace_ := parent.metadata.namespace_
     labels := btreeInsert "mcpg.dev/config-hash"
       (Text.takeChars 32 hash) (standardLabels parent)
     data := some [("config.yaml", yaml)] },
    hash)

def buildCoordinationSecretCopy (gw : MCPGGateway) (ns : String)
    (proj : CoordinationProjection) : Secret :=
  { name := some proj.secretName
    namespace_ := some ns
    labels :=
      [("app.kubernetes.io/managed-by", "mcpg-operator"),
        ("mcpg.dev/gateway", gw.metadata.nameAny)]
    type_ := some "Opaque"
    data := some proj.data }

/-- What steps 1 to 1c came to. -/
structure Resolved where
  pluginSet : Option ResolvedPluginSet
  revocationList : Option ResolvedRevocationList
  cluster : Option ResolvedCluster
  deriving DecidableEq

/-- What the renderer of the config gets. -/
def Resolved.inputs (r : Resolved)
    (ans : GatewayAnswers Backend Managed) : RenderInputs :=
  { view := r.pluginSet.bind (·.view)
    revocationList := r.revocationList.isSome
    clusterBlock := r.cluster.map (·.clusterBlock)
    routes := ans.listRoutes
    servers := ans.listServers }

/-- The copy of the coordination Secret, when the cluster projects one. -/
def Resolved.coordinationCopy (r : Resolved) (obj : MCPGGateway)
    (ns : String) : Option Secret :=
  (r.cluster.bind (·.coordination)).map (buildCoordinationSecretCopy obj ns)

/-- The Deployment of the pass. -/
def Resolved.deployment (r : Resolved) (cfg : OperatorConfig)
    (obj : MCPGGateway) (ns configHash : String) : Deployment :=
  buildDeployment obj configHash
    ((r.pluginSet.map (·.mounts)).getD [])
    (r.pluginSet.map (·.resolvedHash))
    (r.revocationList.map (·.mount))
    cfg.gatewayPodAnnotations
    ((r.coordinationCopy obj ns).bind (·.name)).toList

/-- The applies of step 3 up to the Deployment, each with what it
answers. -/
def beforeDeployment (libs : GatewayLibs Backend Managed)
    (cfg : OperatorConfig) (ans : GatewayAnswers Backend Managed)
    (obj : MCPGGateway) (ns : String) (r : Resolved) :
    List (Effect × Except KubeError Unit) :=
  let config := renderConfig libs.render cfg obj ns (r.inputs ans)
  [(.applyConfigMap config (buildConfigmap libs obj config).1,
      ans.applyConfigMap),
    (.applyService, ans.applyService),
    (.applyServiceAccount, ans.applyServiceAccount)] ++
  (match r.coordinationCopy obj ns with
    | none => []
    | some secret =>
        [(.ensureTenantSecretBinding, ans.ensureTenantSecretBinding),
          (.applyCoordinationSecret secret, ans.applyCoordinationSecret)])

/-- Those after it. What the delete of a stale budget answers is
ignored. -/
def afterDeployment (api : GatewayApi) (ans : GatewayAnswers Backend Managed)
    (obj : MCPGGateway) : List (Effect × Except KubeError Unit) :=
  ((buildHttproute obj).map fun route =>
    (.applyHttpRoute route, ans.applyHttpRoute)).toList ++
  (if obj.spec.cloud.isNone then []
    else [(.reconcileEdgeDomains, ans.reconcileEdgeDomains)]) ++
  ((buildHpa obj).map fun hpa => (.applyHpa hpa, ans.applyHpa)).toList ++
  (match buildPdb api obj with
    | some pdb => [(.applyPdb pdb, ans.applyPdb)]
    | none => [(.deletePdb (childName obj "gateway"), .ok ())])

/-- The applies of step 3. -/
def children (libs : GatewayLibs Backend Managed) (cfg : OperatorConfig)
    (ans : GatewayAnswers Backend Managed) (obj : MCPGGateway) (ns : String)
    (r : Resolved) : List (Effect × Except KubeError Unit) :=
  let config := renderConfig libs.render cfg obj ns (r.inputs ans)
  let configHash := (buildConfigmap libs obj config).2
  beforeDeployment libs cfg ans obj ns r ++
    (.applyDeployment (r.deployment cfg obj ns configHash),
      ans.applyDeployment) ::
    afterDeployment libs.render.gateway ans obj

/-! ## The pass -/

/-- Steps 1 to 1c. -/
def resolveStep (libs : GatewayLibs Backend Managed)
    (ans : GatewayAnswers Backend Managed) (obj : MCPGGateway)
    (ns : String) : Except KubeError Resolved := do
  let pluginSet ← resolvePluginSet libs.resolve ans.resolve ns obj
  let revocationList ← resolveRevocationList libs.resolve ans.resolve obj
  let cluster ←
    resolveCluster libs.render.gateway libs.cluster ans.cluster obj
  .ok
    { pluginSet := pluginSet, revocationList := revocationList
      cluster := cluster }

/-- The cluster of a pass that has to hold. -/
def Resolved.holding (r : Resolved) : Option ResolvedCluster :=
  r.cluster.filter fun c => c.condition.status ≠ "True"

def reconcileInner (libs : GatewayLibs Backend Managed)
    (cfg : OperatorConfig) (ans : GatewayAnswers Backend Managed)
    (obj : MCPGGateway) : Pass :=
  match obj.metadata.namespace_ with
  | none => .fail (.missingNamespace obj.metadata.nameAny)
  | some ns =>
      if obj.metadata.name.isNone then .fail .missingName
      else if obj.metadata.deletionTimestamp.isSome then
        match ans.removeFinalizer with
        | .error e => .fail (.finalizer e)
        | .ok _ => { trace := [], result := .ok .deleted }
      else
        match ensureFinalizer ans.addFinalizer obj.metadata with
        | .error e => .fail (.finalizer e)
        | .ok _ =>
            match resolveStep libs ans obj ns with
            | .error e => .fail (.kube e)
            | .ok resolved =>
                match resolved.holding with
                | some cluster => holdStep libs ans obj cluster
                | none =>
                    applyInOrder (children libs cfg ans obj ns resolved)

end McpgOperator.Gateway
