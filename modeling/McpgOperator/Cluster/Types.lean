import McpgOperator.Json
import McpgOperator.Kube.Object

/-!
# The cluster resource

`MCPGCluster` binds gateways to a coordination backend. The backends, the
managed coordinator's settings and the rendering of the `cluster:` block are
the API crate's; a backend and its settings are of an arbitrary type here,
and `ClusterApi` holds the functions the operator calls on them.
-/

namespace McpgOperator.Cluster

open McpgOperator.Kube

/-- `Backend` is `ClusterBackend` with its settings, `Managed` the settings
of an operator-managed coordinator. -/
structure MCPGClusterSpec (Backend Managed : Type) where
  backend : Backend
  managed : Option Managed
  pluginRef : Option String
  deriving DecidableEq, Repr

structure MCPGClusterStatus where
  conditions : List Condition := []
  observedGeneration : Option Int := none
  pluginId : Option String := none
  boundGateways : Option Int := none
  configHash : Option String := none
  managedReady : Option Bool := none
  natsReadyReplicas : Option Int := none
  coordinationSecret : Option String := none
  lastReconcileTime : Option DateTime := none
  deriving DecidableEq, Repr

structure MCPGCluster (Backend Managed : Type) where
  metadata : ObjectMeta
  spec : MCPGClusterSpec Backend Managed
  status : Option MCPGClusterStatus := none
  deriving DecidableEq, Repr

structure ClusterApi (Backend Managed : Type) where
  effectiveBackend : MCPGClusterSpec Backend Managed → Backend
  isEffectivelySingleNode : MCPGClusterSpec Backend Managed → Bool
  /-- The block for a cluster of that name in that operator namespace. -/
  renderClusterBlockWith :
    MCPGClusterSpec Backend Managed → String → String → Json
  pluginId : Backend → Option String
  configKind : Backend → String
  isSingleNode : Backend → Bool
  managedCoordinationSecretName : String → String

def defaultOperatorNamespace : String := "mcpg-system"

variable {Backend Managed : Type}

/-- The conditions every status writer starts from. -/
def MCPGCluster.carriedConditions (c : MCPGCluster Backend Managed) :
    List Condition :=
  (c.status.map (·.conditions)).getD []

end McpgOperator.Cluster
