import McpgOperator.Admission.RevocationList
import McpgOperator.Admission.Specs
import McpgOperator.Admission.Tenant
import McpgOperator.Lib.Gatekeeper

/-!
# The webhook

The routes of `admission/server.rs` to the nine validators, with the cap a
tenant puts on the replicas of a gateway (`admission/tenant_guard.rs`). The
apiserver sends every create and every update of an object, those of its
metadata too, and with an update the object it replaces; a deletion carries
no object and is let in, and the status is written past the webhook.

What a validator looks up is asked anew for each request, and any answer may
come. So may another release of the operator, whose check of a federation's
governance is that of another gateway.
-/

namespace McpgOperator.Admission

open McpgOperator.Cluster McpgOperator.Gateway McpgOperator.Kube
  McpgOperator.Plugin McpgOperator.PluginMirror McpgOperator.PluginSet
  McpgOperator.Templates

variable {Backend Managed : Type}

def enforceGatewayReplicaCap (gatewayApi : GatewayApi)
    (tenantApi : TenantApi) (listed : Except KubeError (List MCPGTenant))
    (obj : MCPGGateway) : Except String Unit :=
  match obj.metadata.namespace_ with
  | none => .ok ()
  | some ns =>
      match owningTenant tenantApi listed ns with
      | none => .ok ()
      | some tenant =>
          match tenant.spec.quotas.bind (·.maxReplicasPerGateway) with
          | none => .ok ()
          | some max =>
              let (ceiling, field) :=
                gatewayApi.effectiveReplicaCeiling obj.spec
              denyIf (ceiling > max)
                (field ++ " " ++ toString ceiling ++ " exceeds tenant `" ++
                  tenant.metadata.name.getD "<tenant>" ++
                  "`'s maxReplicasPerGateway " ++ toString max)

/-- An object of one of the nine kinds, with what of its spec only the
validator reads. -/
inductive CustomResource (Backend Managed : Type)
  | gateway (obj : MCPGGateway)
  | revocationList (obj : MCPGRevocationList)
  | plugin (obj : MCPGPlugin)
  | pluginSet (obj : MCPGPluginSet)
  | cluster (obj : MCPGCluster Backend Managed)
  | route (obj : MCPGRoute) (chains : RouteChains)
  | pluginMirror (obj : MirrorObject) (port : Nat)
  | tenant (obj : MCPGTenant)
  | server (obj : MCPGServer)

namespace CustomResource

def kind : CustomResource Backend Managed → String
  | .gateway _ => "MCPGGateway"
  | .revocationList _ => "MCPGRevocationList"
  | .plugin _ => "MCPGPlugin"
  | .pluginSet _ => "MCPGPluginSet"
  | .cluster _ => "MCPGCluster"
  | .route .. => "MCPGRoute"
  | .pluginMirror .. => "MCPGPluginMirror"
  | .tenant _ => "MCPGTenant"
  | .server _ => "MCPGServer"

def metadata : CustomResource Backend Managed → ObjectMeta
  | .gateway obj => obj.metadata
  | .revocationList obj => obj.metadata
  | .plugin obj => obj.metadata
  | .pluginSet obj => obj.metadata
  | .cluster obj => obj.metadata
  | .route obj _ => obj.metadata
  | .pluginMirror obj _ => obj.mirror.metadata
  | .tenant obj => obj.metadata
  | .server obj => obj.metadata

/-- The object with other metadata: its spec and its status stay. -/
def withMetadata (m : ObjectMeta) :
    CustomResource Backend Managed → CustomResource Backend Managed
  | .gateway obj => .gateway { obj with metadata := m }
  | .revocationList obj => .revocationList { obj with metadata := m }
  | .plugin obj => .plugin { obj with metadata := m }
  | .pluginSet obj => .pluginSet { obj with metadata := m }
  | .cluster obj => .cluster { obj with metadata := m }
  | .route obj chains => .route { obj with metadata := m } chains
  | .pluginMirror obj port =>
      .pluginMirror { obj with mirror := { obj.mirror with metadata := m } }
        port
  | .tenant obj => .tenant { obj with metadata := m }
  | .server obj => .server { obj with metadata := m }

def asGateway : CustomResource Backend Managed → Option MCPGGateway
  | .gateway obj => some obj
  | _ => none

def asServer : CustomResource Backend Managed → Option MCPGServer
  | .server obj => some obj
  | _ => none

end CustomResource

/-- The crates behind the validators. -/
structure WebhookLibs (Backend Managed : Type) where
  gateway : GatewayApi
  cluster : ClusterApi Backend Managed
  clusterFields : ClusterFields Backend Managed
  tenant : TenantApi
  capabilities : CapabilityLib
  protocol : PluginProtocol
  federationName : MCPGServerSpec → String → String
  endpoint : MCPGServerSpec → String → String → String
  workload : WorkloadApi

/-- What one request is judged with. -/
structure Judging (Backend Managed : Type) where
  getCluster :
    String → Except KubeError (Option (MCPGCluster Backend Managed))
  listTenants : Except KubeError (List MCPGTenant)
  getPlugin : String → Except KubeError (Option MCPGPlugin)
  /-- `BackendGovernanceConfig::from_value` of the release that judges. -/
  governanceError : Json → Option String

def WebhookLibs.serverApi (libs : WebhookLibs Backend Managed)
    (governanceError : Json → Option String) : ServerApi where
  governanceError := governanceError
  federationName := libs.federationName
  endpoint := libs.endpoint

/-- An answer without warnings. -/
def silently (x : Except String Unit) : Except String (List String) :=
  x.map fun _ => []

/-- The route to the kind's validator, and its answer: the warnings, or why
the request is denied. -/
def validateResource (libs : WebhookLibs Backend Managed)
    (judging : Judging Backend Managed)
    (obj : CustomResource Backend Managed)
    (old : Option (CustomResource Backend Managed)) :
    Except String (List String) :=
  match obj with
  | .gateway obj =>
      silently (validate libs.gateway libs.cluster judging.getCluster
        (enforceGatewayReplicaCap libs.gateway libs.tenant
          judging.listTenants obj) obj (old.bind (·.asGateway)))
  | .revocationList obj => silently (validateRevocationList obj.spec)
  | .plugin obj => silently (validatePlugin libs.protocol obj)
  | .pluginSet obj =>
      silently (admitPluginSet libs.capabilities libs.tenant
        judging.listTenants judging.getPlugin obj)
  | .cluster obj =>
      silently (validateCluster libs.cluster libs.clusterFields obj)
  | .route obj chains => validateRoute obj chains
  | .pluginMirror obj port => silently (validatePluginMirror obj port)
  | .tenant obj =>
      silently (admitTenant libs.tenant judging.listTenants obj)
  | .server obj =>
      validateServer (libs.serverApi judging.governanceError) libs.workload
        obj (old.bind (·.asServer))

/-- Kind, namespace and name. -/
abbrev ResourceKey := String × Option String × Option String

/-- The apiserver with the webhook before it. -/
def gate (libs : WebhookLibs Backend Managed) :
    Gatekeeper.Gate (Judging Backend Managed) ResourceKey
      (CustomResource Backend Managed) where
  key obj := (obj.kind, obj.metadata.namespace_, obj.metadata.name)
  admits judging obj old := (validateResource libs judging obj old).isOk

end McpgOperator.Admission
