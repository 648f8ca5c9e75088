import McpgOperator.Admission.Gateway
import McpgOperator.Admission.Plugin
import McpgOperator.PluginMirror.Reconcile
import McpgOperator.Templates.Server

/-!
# Admission of servers, clusters, routes and mirrors

`admission/validators/server.rs`, `cluster.rs`, `route.rs` and
`plugin_mirror.rs`: none of them looks anything up. A server and a route may
be let in with a warning. What a server is federated with is held against
the gateway's own check, unless the write leaves it as it was.
-/

namespace McpgOperator.Admission

open McpgOperator.Cluster McpgOperator.Gateway McpgOperator.Kube
  McpgOperator.PluginMirror McpgOperator.Templates McpgOperator.Text

/-! ## Servers -/

def isFederationNameChar (c : Char) : Bool :=
  c.isAlphanum || c == '-' || c == '_' || c == '.'

/-- The blocks that have to be JSON objects. -/
def validateBlocks : List (String × Option Json) → Except String Unit
  | [] => .ok ()
  | (field, value) :: rest =>
      if value.any fun v => v.asObject.isNone then
        .error ("spec.federate." ++ field ++ " must be a JSON object")
      else validateBlocks rest

/-- The write leaves the governance block as it was. -/
def governanceUnchanged (old : Option MCPGServer)
    (federate : ServerFederate) : Bool :=
  old.any fun old => old.spec.federate.any fun previous =>
    decide (previous.governance = federate.governance)

/-- What is checked of `federate` on every write. -/
def validateFederateShape (federationName : MCPGServerSpec → String → String)
    (obj : MCPGServer) (federate : ServerFederate) : Except String Unit := do
  let fedName := federationName obj.spec (obj.metadata.name.getD "")
  denyIf (trim federate.gatewayRef = "")
    "spec.federate.gatewayRef.name must be non-empty"
  denyIf (trim fedName = "") "federation name resolves to empty"
  denyIf (fedName.toList.all isFederationNameChar = false)
    ("federation name '" ++ fedName ++
      "' must be alphanumeric plus '-', '_', '.'")
  validateBlocks
    [("governance", federate.governance), ("import", federate.import_),
      ("auth", federate.auth)]

/-- And on those that set or change the governance block. -/
def validateGovernance (api : ServerApi) (old : Option MCPGServer)
    (federate : ServerFederate) : Except String Unit :=
  if governanceUnchanged old federate then .ok ()
  else
    match federateGovernanceError api federate with
    | some error => .error error
    | none => .ok ()

def validateFederate (api : ServerApi) (obj : MCPGServer)
    (old : Option MCPGServer) (federate : ServerFederate) :
    Except String Unit := do
  validateFederateShape api.federationName obj federate
  validateGovernance api old federate

/-- `validate_spec`; `old` is the object an update replaces. -/
def validateServer (api : ServerApi) (workload : WorkloadApi)
    (obj : MCPGServer) (old : Option MCPGServer) :
    Except String (List String) := do
  let spec := obj.spec
  let digestPinned := containsText "@sha256:" spec.image
  let port := workload.port spec
  denyIf (trim spec.image = "")
    "spec.image must be a non-empty container image reference"
  denyIf (spec.verify.isSome ∧ digestPinned = false)
    ("spec.verify requires a digest-pinned spec.image (repo@sha256:…): a " ++
      "tag can be re-pointed after verification")
  denyIf (port < 1 ∨ 65535 < port)
    ("spec.port " ++ toString port ++ " is not a valid TCP port")
  denyIf (spec.replicas.any (· < 0)) "spec.replicas must be >= 0"
  validateOptional (validateFederate api obj old) spec.federate
  .ok (if spec.verify.isNone ∧ digestPinned = false then
      ["spec.image is not digest-pinned; provenance and rollback are " ++
        "ambiguous under a moving tag"]
    else [])

/-! ## Clusters -/

structure ClusterCredentialRef where
  name : String
  secretName : String
  deriving DecidableEq, Repr

/-- What of a cluster's spec only its validator reads, and the API crate's
`insecure_transport_reason`. -/
structure ClusterFields (Backend Managed : Type) where
  configIsEmpty : Backend → Bool
  credentialRefs : MCPGClusterSpec Backend Managed →
    List ClusterCredentialRef
  insecureTransportReason : MCPGClusterSpec Backend Managed → Option String
  replicas : Managed → Option Nat
  /-- `tls.issuerRef.name` of the settings. -/
  issuerName : Managed → Option String

variable {Backend Managed : Type}

def validateManaged (fields : ClusterFields Backend Managed)
    (managed : Managed) : Except String Unit := do
  denyIf (fields.replicas managed = some 0)
    ("spec.managed.replicas must be >= 1 (it is capped at 1 in this " ++
      "version regardless)")
  denyIf ((fields.issuerName managed).any fun name => trim name = "")
    ("spec.managed.tls.issuerRef.name must not be empty when " ++
      "spec.managed.tls is set (name the cert-manager " ++
      "Issuer/ClusterIssuer to provision the NATS server cert).")

/-- A managed coordinator, no backend, or a backend with a config. -/
def validateBackend (api : ClusterApi Backend Managed)
    (fields : ClusterFields Backend Managed)
    (spec : MCPGClusterSpec Backend Managed) : Except String Unit :=
  match spec.managed with
  | some managed => do
      denyIf (api.isSingleNode spec.backend = false)
        ("spec.managed and spec.backend are mutually exclusive — a " ++
          "managed coordinator is always NATS. Remove spec.backend (leave " ++
          "it at its default).")
      denyIf (fields.configIsEmpty spec.backend = false)
        ("spec.managed and spec.config are mutually exclusive — the " ++
          "operator generates the coordinator `cluster:` block for a " ++
          "managed cluster. Remove spec.config.")
      validateManaged fields managed
  | none =>
      if api.isSingleNode spec.backend then
        denyIf (fields.configIsEmpty spec.backend = false)
          ("spec.config must be empty for the single_node backend (it " ++
            "takes no parameters). Did you mean to set spec.backend to " ++
            "redis / nats, or spec.managed for an operator-provisioned " ++
            "NATS coordinator?")
      else
        denyIf (fields.configIsEmpty spec.backend = true)
          ("spec.config must not be empty for the '" ++
            api.configKind spec.backend ++ "' backend — it needs at least " ++
            "a connection address (e.g. `url`/`servers`/`endpoints`).")

/-- The credentials from index `i` on, with the names before it. -/
def validateCredentialRefs (i : Nat) (seen : List String) :
    List ClusterCredentialRef → Except String Unit
  | [] => .ok ()
  | cred :: rest =>
      let at_ := "spec.credentialRefs[" ++ toString i ++ "]"
      if trim cred.name = "" then .error (at_ ++ ".name must not be empty")
      else if trim cred.secretName = "" then
        .error (at_ ++ ".secretName must not be empty")
      else if seen.contains cred.name then
        .error (at_ ++ ".name '" ++ cred.name ++ "' is duplicated; each " ++
          "credential name maps to a distinct cred://cluster/<name> and " ++
          "must be unique")
      else validateCredentialRefs (i + 1) (cred.name :: seen) rest

/-- `validate_spec`. -/
def validateCluster (api : ClusterApi Backend Managed)
    (fields : ClusterFields Backend Managed)
    (obj : MCPGCluster Backend Managed) : Except String Unit := do
  validateBackend api fields obj.spec
  match fields.insecureTransportReason obj.spec with
  | some reason =>
      .error ("spec.config: " ++ reason ++ ". The cluster coordinator " ++
        "carries all shared state (sessions, credential-cache events, " ++
        "delivery payloads) across bound gateways — a plaintext transport " ++
        "exposes them. Use a TLS scheme, or set " ++
        "`spec.config.allow_insecure_transport: true` to accept plaintext " ++
        "(local/dev only).")
  | none => validateCredentialRefs 0 [] (fields.credentialRefs obj.spec)

/-! ## Routes -/

/-- The chains of a route. -/
structure RouteChains where
  identityChain : List String := []
  policyChain : List String := []
  auditChain : List String := []
  deriving DecidableEq, Repr

/-- The tools from index `i` on, with the ids before it. -/
def validateTools (i : Nat) (seen : List String) :
    List String → Except String Unit
  | [] => .ok ()
  | tool :: rest =>
      let id := trim tool
      if id = "" then
        .error ("spec.match.tools[" ++ toString i ++ "].id must not be empty")
      else if seen.contains id then
        .error ("spec.match.tools contains duplicate tool id '" ++ id ++ "'")
      else validateTools (i + 1) (id :: seen) rest

/-- A chain, from index `i` on. -/
def validateChain (chainName : String) (i : Nat) :
    List String → Except String Unit
  | [] => .ok ()
  | id :: rest =>
      if trim id = "" then
        .error ("spec." ++ chainName ++ "[" ++ toString i ++
          "] must not be empty")
      else validateChain chainName (i + 1) rest

/-- `validate_spec`. -/
def validateRoute (obj : MCPGRoute) (chains : RouteChains) :
    Except String (List String) := do
  let spec := obj.spec
  denyIf (trim spec.gatewayRef = "") "spec.gatewayRef.name must not be empty"
  denyIf (spec.tools = [])
    ("spec.match.tools must list at least one tool (a route that matches " ++
      "no tools has no effect)")
  validateTools 0 [] spec.tools
  validateChain "identityChain" 0 chains.identityChain
  validateChain "policyChain" 0 chains.policyChain
  validateChain "auditChain" 0 chains.auditChain
  .ok (if spec.tenant.isNone then
      ["spec.attributes.tenant is unset: this route's tools will be " ++
        "reachable by ANY caller the gateway admits (no tenant scoping). " ++
        "Set attributes.tenant for a tenant-isolated route."]
    else [])

/-! ## Mirrors -/

/-- `validate_spec`; `port` is that of the Service. -/
def validatePluginMirror (obj : MirrorObject) (port : Nat) :
    Except String Unit := do
  let spec := obj.mirror.spec
  denyIf (trim obj.serviceNamespace = "")
    "spec.endpoint.service.namespace must not be empty"
  denyIf (trim obj.serviceName = "")
    "spec.endpoint.service.name must not be empty"
  denyIf (port = 0) "spec.endpoint.service.port must be in 1..=65535"
  denyIf (trim spec.upstreamRegistry = "")
    "spec.upstream.registry must not be empty"
  denyIf (spec.upstreamRegistry.toList.contains '.' = false ∧
      spec.upstreamRegistry.toList.contains ':' = false)
    ("spec.upstream.registry '" ++ spec.upstreamRegistry ++ "' does not " ++
      "look like a registry host (expected a hostname like 'ghcr.io' or " ++
      "'host:port')")
  denyIf (trim spec.upstreamNamespace = "")
    "spec.upstream.namespace must not be empty"
  denyIf (spec.authSecretName.any fun name => trim name = "")
    "spec.auth.secretRef.secretName must not be empty when auth is set"

end McpgOperator.Admission
