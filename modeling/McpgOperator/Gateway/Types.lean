import McpgOperator.Json
import McpgOperator.Plugin.Types

/-!
# The gateway resource

`MCPGGateway`, with the fields the validator, the controllers and the
renderers modelled here read. A reference is the name it holds. The spec
comes from the API crate, and so do the methods on it, whose definitions are
not part of the repository: they are a parameter, `GatewayApi`.
-/

namespace McpgOperator.Gateway

open McpgOperator.Kube

structure GatewayImage where
  repository : Option String := none
  tag : Option String := none
  pullPolicy : Option String := none
  deriving DecidableEq, Repr

/-- Which providers `spec.workloadIdentity` names. -/
structure GatewayWorkloadIdentity where
  aws : Bool := false
  gcp : Bool := false
  azure : Bool := false
  spiffe : Bool := false
  deriving DecidableEq, Repr

structure SecretMount where
  name : String
  mountPath : String
  deriving DecidableEq, Repr

structure GatewayIngressHost where
  host : String
  paths : List String
  deriving DecidableEq, Repr

structure GatewayIngress where
  ingressClassName : String
  hosts : List GatewayIngressHost
  deriving DecidableEq, Repr

structure GatewayCloud where
  instanceSlug : String
  orgSlug : String
  externalUrl : String
  canonicalUrl : Option String := none
  customDomains : List String := []
  deriving DecidableEq, Repr

structure HorizontalAutoscaler where
  enabled : Bool
  minReplicas : Option Int := none
  maxReplicas : Option Int := none
  deriving DecidableEq, Repr

structure GatewayService where
  port : Option Int := none
  deriving DecidableEq, Repr

/-- The thresholds are JSON: a number or a percentage. -/
structure PodDisruptionBudgetSpec where
  enabled : Bool
  minAvailable : Option Json := none
  maxUnavailable : Option Json := none
  deriving DecidableEq

structure MCPGGatewaySpec where
  image : GatewayImage := {}
  replicas : Int := 1
  config : Json := .null
  clusterRef : Option String := none
  pluginSetRef : Option String := none
  revocationListRef : Option String := none
  acceptedRouteNamespaces : List String := []
  autoscaling : Option HorizontalAutoscaler := none
  cloud : Option GatewayCloud := none
  ingress : Option GatewayIngress := none
  workloadIdentity : Option GatewayWorkloadIdentity := none
  envFromSecrets : List String := []
  secretMounts : List SecretMount := []
  podAnnotations : List (String × String) := []
  service : Option GatewayService := none
  podDisruptionBudget : Option PodDisruptionBudgetSpec := none
  deriving DecidableEq

structure MCPGGatewayStatus where
  conditions : List Condition := []
  observedGeneration : Option Int := none
  replicas : Option Int := none
  readyReplicas : Option Int := none
  updatedReplicas : Option Int := none
  availableReplicas : Option Int := none
  configHash : Option String := none
  pluginSetHash : Option String := none
  revocationListHash : Option String := none
  lastReconcileTime : Option DateTime := none
  deriving DecidableEq, Repr

structure MCPGGateway where
  metadata : ObjectMeta
  spec : MCPGGatewaySpec
  status : Option MCPGGatewayStatus := none
  deriving DecidableEq

/-! ## What fans into a gateway -/

/-- `tenant` is what `MCPGRouteSpec::tenant` returns, `tools` the ids of
`match.tools`, `allChainPlugins` what `all_chain_plugins` returns. -/
structure MCPGRouteSpec where
  gatewayRef : String
  gatewayRefNamespace : Option String := none
  tools : List String := []
  tenant : Option String := none
  allChainPlugins : List String := []
  deriving DecidableEq, Repr

structure MCPGRouteStatus where
  conditions : List Condition := []
  observedGeneration : Option Int := none
  matchedTools : Option Int := none
  boundGateway : Option String := none
  lastReconcileTime : Option DateTime := none
  deriving DecidableEq, Repr

structure MCPGRoute where
  metadata : ObjectMeta
  spec : MCPGRouteSpec
  status : Option MCPGRouteStatus := none
  deriving DecidableEq, Repr

structure ServerFederate where
  gatewayRef : String
  toolPrefix : Option String := none
  auth : Option Json := none
  governance : Option Json := none
  import_ : Option Json := none
  deriving DecidableEq

structure ServerVerify where
  cosignIdentity : Plugin.CosignIdentity
  deriving DecidableEq, Repr

structure ServerResources where
  requests : List (String × String) := []
  limits : List (String × String) := []
  deriving DecidableEq, Repr

structure MCPGServerSpec where
  image : String := ""
  replicas : Option Int := none
  port : Option Int := none
  env : List (String × String) := []
  envFromSecrets : List String := []
  imagePullSecrets : List String := []
  resources : Option ServerResources := none
  serviceAccountName : Option String := none
  verify : Option ServerVerify := none
  federate : Option ServerFederate := none
  deriving DecidableEq

structure MCPGServerStatus where
  conditions : List Condition := []
  observedGeneration : Option Int := none
  readyReplicas : Option Int := none
  endpoint : Option String := none
  boundGateway : Option String := none
  lastReconcileTime : Option DateTime := none
  deriving DecidableEq, Repr

structure MCPGServer where
  metadata : ObjectMeta
  spec : MCPGServerSpec
  status : Option MCPGServerStatus := none
  deriving DecidableEq

/-! ## The API crate -/

structure GatewayApi where
  /-- The ceiling and the field it comes from. -/
  effectiveReplicaCeiling : MCPGGatewaySpec → Int × String
  /-- `MCPGRouteSpec::gateway_namespace`, of a route in that namespace. -/
  gatewayNamespace : MCPGRouteSpec → String → String

end McpgOperator.Gateway
