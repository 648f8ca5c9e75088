import McpgOperator.Cluster.Types
import McpgOperator.Gateway.Types

/-!
# Binding a gateway to its cluster

`resolve_cluster`, `classify_cluster_binding` and `merge_cluster_block` of
`controllers/gateway.rs`: the cluster a gateway names is read once, spec and
status together, and its block is rendered from that spec when the status
says it is Ready.
-/

namespace McpgOperator.Gateway

open McpgOperator.Kube McpgOperator.Cluster

namespace ClusterReason

def resolved : String := "ClusterResolved"

def notFound : String := "ClusterNotFound"

def notReady : String := "ClusterNotReady"

def singleNodeBackend : String := "SingleNodeBackend"

end ClusterReason

namespace CondType

def clusterReady : String := "ClusterReady"

end CondType

/-- The coordination Secret to copy into the gateway's namespace. -/
structure CoordinationProjection where
  secretName : String
  data : List (String × Bytes)
  deriving DecidableEq

structure ResolvedCluster where
  clusterBlock : Json
  condition : Condition
  coordination : Option CoordinationProjection := none
  deriving DecidableEq

/-- A binding that holds the pass. -/
def ResolvedCluster.unresolved (reason message : String) :
    ResolvedCluster :=
  { clusterBlock := .null
    condition :=
      { type := CondType.clusterReady, status := "False", reason := reason
        message := message, observedGeneration := none } }

variable {Backend Managed : Type}

def classifyClusterBinding (gatewayApi : GatewayApi)
    (clusterApi : ClusterApi Backend Managed) (obj : MCPGGateway)
    (cluster : Option (MCPGCluster Backend Managed)) : ResolvedCluster :=
  let name := obj.spec.clusterRef.getD ""
  match cluster with
  | none =>
      .unresolved ClusterReason.notFound
        ("MCPGCluster/" ++ name ++ " not found")
  | some cluster =>
      if (cluster.status.map fun s => readyTrue s.conditions).getD false =
          false then
        .unresolved ClusterReason.notReady
          ("MCPGCluster/" ++ name ++ " is not Ready")
      else
        let (ceiling, field) := gatewayApi.effectiveReplicaCeiling obj.spec
        if clusterApi.isEffectivelySingleNode cluster.spec ∧ ceiling > 1 then
          .unresolved ClusterReason.singleNodeBackend
            ("MCPGCluster/" ++ name ++ " provides the single_node " ++
              "backend, which cannot coordinate " ++ field ++ "=" ++
              toString ceiling ++
              "; reference a non-single_node MCPGCluster")
        else
          { clusterBlock := clusterApi.renderClusterBlockWith cluster.spec
              name defaultOperatorNamespace
            condition :=
              { type := CondType.clusterReady, status := "True"
                reason := ClusterReason.resolved
                message := "bound MCPGCluster/" ++ name ++ " (backend: " ++
                  clusterApi.configKind
                    (clusterApi.effectiveBackend cluster.spec) ++ ")"
                observedGeneration := none } }

/-- What the two reads of `resolve_cluster` answer. -/
structure ClusterReads (Backend Managed : Type) where
  getCluster : String → Except KubeError (Option (MCPGCluster Backend Managed))
  /-- `api.get_opt` of a Secret in the operator namespace. -/
  getSecret : String → Except KubeError (Option Secret)

/-- The Secret of a managed coordinator, when there is one to project. -/
def readCoordination (clusterApi : ClusterApi Backend Managed)
    (reads : ClusterReads Backend Managed)
    (cluster : Option (MCPGCluster Backend Managed)) :
    Except KubeError (Option CoordinationProjection) :=
  match cluster.bind fun c =>
      if c.spec.managed.isSome then c.metadata.name else none with
  | none => .ok none
  | some clusterName =>
      let secretName := clusterApi.managedCoordinationSecretName clusterName
      (reads.getSecret secretName).map fun source =>
        (source.bind (·.data)).map fun data =>
          { secretName := secretName, data := data }

/-- `resolve_cluster`; nothing without a `clusterRef`. -/
def resolveCluster (gatewayApi : GatewayApi)
    (clusterApi : ClusterApi Backend Managed)
    (reads : ClusterReads Backend Managed) (obj : MCPGGateway) :
    Except KubeError (Option ResolvedCluster) := do
  match obj.spec.clusterRef with
  | none => .ok none
  | some clusterRef =>
      let cluster ← reads.getCluster clusterRef
      let resolved := classifyClusterBinding gatewayApi clusterApi obj cluster
      if resolved.condition.status = "True" then
        let coordination ← readCoordination clusterApi reads cluster
        .ok (some { resolved with coordination := coordination })
      else .ok (some resolved)

end McpgOperator.Gateway
