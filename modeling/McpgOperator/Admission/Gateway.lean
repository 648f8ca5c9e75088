import McpgOperator.Cluster.Types
import McpgOperator.Gateway.Types
import McpgOperator.Lib.Except
import McpgOperator.Text

/-!
# Admission of gateways

`admission/validators/gateway.rs`: the shape of the spec, and the guard that
a gateway of more than one replica has a coordination backend. The guard
looks the referenced cluster up; what the apiserver answers, and the verdict
of the tenant's replica cap, are arguments. The comparison of resource
requests with limits denies nothing and is left out.
-/

namespace McpgOperator.Admission

open McpgOperator.Kube McpgOperator.Cluster McpgOperator.Gateway
  McpgOperator.Text

/-! ## Hostnames -/

def isDnsLabelChar (c : Char) : Bool :=
  ('a' ≤ c && c ≤ 'z') || ('0' ≤ c && c ≤ '9') || c == '-'

def validateDnsLabel (s : String) : Except String Unit :=
  if s = "" then .error "must not be empty"
  else if s.utf8ByteSize > 63 then .error "must be ≤ 63 characters"
  else if s.toList.all isDnsLabelChar = false then
    .error "must be lowercase alphanumeric or '-'"
  else if s.toList.head? = some '-' ∨ s.toList.getLast? = some '-' then
    .error "must not start or end with '-'"
  else .ok ()

/-- The labels of a hostname, up to the first that is refused. -/
def validateLabels : List String → Except String Unit
  | [] => .ok ()
  | part :: rest => do
      (validateDnsLabel part).mapError
        fun e => "label '" ++ part ++ "' " ++ e
      validateLabels rest

def validateDnsHostname (s : String) : Except String Unit :=
  if s = "" then .error "must not be empty"
  else if s.utf8ByteSize > 253 then .error "must be ≤ 253 characters"
  else validateLabels ((s.toList.splitOn '.').map String.ofList)

/-! ## The managed-cloud block -/

/-- The custom domains, from index `i` on. -/
def validateCustomDomains (i : Nat) : List String → Except String Unit
  | [] => .ok ()
  | d :: rest => do
      (validateDnsHostname d).mapError
        fun e => "spec.cloud.customDomains[" ++ toString i ++ "] " ++ e
      validateCustomDomains (i + 1) rest

def hasHttpScheme (url : String) : Bool :=
  "https://".toList.isPrefixOf url.toList ||
    "http://".toList.isPrefixOf url.toList

def validateCloud (cloud : GatewayCloud) : Except String Unit := do
  (validateDnsLabel cloud.instanceSlug).mapError
    ("spec.cloud.instanceSlug " ++ ·)
  (validateDnsLabel cloud.orgSlug).mapError ("spec.cloud.orgSlug " ++ ·)
  let url := trim cloud.externalUrl
  if url = "" then .error "spec.cloud.externalUrl must not be empty"
  else if hasHttpScheme url = false then
    .error "spec.cloud.externalUrl must be an http(s) URL"
  else validateCustomDomains 0 cloud.customDomains

/-! ## The shape of the spec -/

/-- The environment sources, from index `i` on. -/
def validateEnvFrom (i : Nat) : List String → Except String Unit
  | [] => .ok ()
  | name :: rest =>
      if trim name = "" then
        .error ("spec.envFromSecrets[" ++ toString i ++
          "].name must not be empty")
      else validateEnvFrom (i + 1) rest

/-- `trim_end_matches('/')`. -/
def trimEndSlashes (path : String) : String :=
  String.ofList (path.toList.reverse.dropWhile (· = '/')).reverse

/-- The mounted Secrets from index `i` on, with the names and the paths of
those before. -/
def validateSecretMounts (i : Nat) (mountedSecrets mountPaths : List String) :
    List SecretMount → Except String Unit
  | [] => .ok ()
  | m :: rest =>
      let at_ := "spec.secretMounts[" ++ toString i ++ "]"
      let path := trimEndSlashes m.mountPath
      if trim m.name = "" then .error (at_ ++ ".name must not be empty")
      else if m.mountPath.toList.head? ≠ some '/' then
        .error (at_ ++ ".mountPath must be an absolute path")
      else if mountedSecrets.contains m.name then
        .error (at_ ++ ".name repeats an earlier entry (" ++ m.name ++ ")")
      else if mountPaths.contains path then
        .error (at_ ++ ".mountPath repeats an earlier entry (" ++
          m.mountPath ++ ")")
      else
        validateSecretMounts (i + 1) (m.name :: mountedSecrets)
          (path :: mountPaths) rest

/-- The hosts of an Ingress, from index `i` on. -/
def validateIngressHosts (i : Nat) :
    List GatewayIngressHost → Except String Unit
  | [] => .ok ()
  | h :: rest =>
      let at_ := "spec.ingress.hosts[" ++ toString i ++ "]"
      if trim h.host = "" then .error (at_ ++ ".host is empty")
      else if h.paths.isEmpty then
        .error (at_ ++ ".paths must not be empty")
      else validateIngressHosts (i + 1) rest

def validateIngress (ing : GatewayIngress) : Except String Unit :=
  if trim ing.ingressClassName = "" then
    .error "spec.ingress.ingressClassName must not be empty"
  else if ing.hosts.isEmpty then
    .error "spec.ingress.hosts must not be empty when ingress is set"
  else validateIngressHosts 0 ing.hosts

def validateWorkloadIdentity (wi : GatewayWorkloadIdentity) :
    Except String Unit :=
  if ([wi.aws, wi.gcp, wi.azure, wi.spiffe].filter id).length > 1 then
    .error ("spec.workloadIdentity must specify at most one provider " ++
      "(aws | gcp | azure | spiffe)")
  else .ok ()

/-- A check of a field that may be absent. -/
def validateOptional {α : Type} (check : α → Except String Unit) :
    Option α → Except String Unit
  | none => .ok ()
  | some a => check a

/-- `if p { return Err(reason) }`. -/
def denyIf (p : Prop) [Decidable p] (reason : String) : Except String Unit :=
  if p then .error reason else .ok ()

theorem not_of_denyIf {p : Prop} [Decidable p] {reason : String} {u : Unit}
    (h : denyIf p reason = .ok u) : ¬ p := by
  intro hp
  unfold denyIf at h
  rw [if_pos hp] at h
  cases h

/-- `validate_spec`. -/
def validateGateway (obj : MCPGGateway) : Except String Unit := do
  let spec := obj.spec
  denyIf (spec.replicas < 1)
    ("spec.replicas must be ≥ 1 (got " ++ toString spec.replicas ++ ")")
  denyIf (spec.image.tag.all fun tag => trim tag = "")
    "spec.image.tag must not be empty"
  validateOptional validateWorkloadIdentity spec.workloadIdentity
  validateEnvFrom 0 spec.envFromSecrets
  validateSecretMounts 0 [] [] spec.secretMounts
  validateOptional validateIngress spec.ingress
  denyIf (spec.cloud.isSome ∧ spec.ingress.isSome)
    ("spec.ingress and spec.cloud are mutually exclusive " ++
      "(cloud gateways route via the managed edge HTTPRoute, not Ingress)")
  validateOptional validateCloud spec.cloud

/-! ## The coordination guard -/

/-- How a gateway satisfies the coordination requirement. -/
inductive CoordinationPath
  | singleReplica
  | inline_
  | ref (name : String)
  deriving DecidableEq, Repr

def inlineClusterKind (config : Json) : Option String :=
  match config.get "cluster" with
  | some (.obj fields) =>
      some ((((Json.obj fields).get "kind").bind Json.asStr).getD
        "single_node")
  | _ => none

def coordinationPath (api : GatewayApi) (spec : MCPGGatewaySpec) :
    Except String CoordinationPath :=
  let (ceiling, field) := api.effectiveReplicaCeiling spec
  let n := toString ceiling
  if ceiling ≤ 1 then .ok .singleReplica
  else
    match spec.clusterRef with
    | some name => .ok (.ref name)
    | none =>
        match inlineClusterKind spec.config with
        | some kind =>
            if kind = "single_node" then
              .error ("MultiReplicaWithSingleNodeBackend: " ++ field ++
                " is " ++ n ++ " but spec.config.cluster resolves to the " ++
                "`single_node` backend, which cannot coordinate more than " ++
                "one replica — " ++ n ++ " replicas without a shared " ++
                "coordination backend run as " ++ n ++ " independent " ++
                "gateways (sessions, pub/sub and idempotency state fork " ++
                "per pod). Set spec.clusterRef to a Ready, " ++
                "non-single_node MCPGCluster, or declare a " ++
                "non-single_node backend inline at " ++
                "spec.config.cluster.kind.")
            else .ok .inline_
        | none =>
            .error (field ++ " is " ++ n ++ " but no cluster coordination " ++
              "backend is configured: " ++ n ++ " replicas without one " ++
              "run as " ++ n ++ " independent single_node gateways " ++
              "(sessions, pub/sub and idempotency state fork per pod). " ++
              "Set spec.clusterRef to a Ready, non-single_node " ++
              "MCPGCluster, or declare a non-single_node backend inline " ++
              "at spec.config.cluster.")

def bindingAlreadyAdmitted (api : GatewayApi) (old : Option MCPGGateway)
    (new : MCPGGateway) : Bool :=
  old.any fun old =>
    decide ((api.effectiveReplicaCeiling old.spec).1 > 1) &&
      old.spec.clusterRef == new.spec.clusterRef

variable {Backend Managed : Type}

def judgeReferencedCluster (api : ClusterApi Backend Managed)
    (name : String) (ceiling : Int) (field : String)
    (cluster : Option (MCPGCluster Backend Managed)) : Except String Unit :=
  let n := toString ceiling
  match cluster with
  | none =>
      .error ("spec.clusterRef points at MCPGCluster/" ++ name ++
        ", which does not exist; " ++ field ++ " is " ++ n ++ ", and " ++
        n ++ " replicas without a coordination backend run as " ++ n ++
        " independent single_node gateways. Create the MCPGCluster " ++
        "(and wait for Ready=True), or fix the reference.")
  | some cluster =>
      if api.isEffectivelySingleNode cluster.spec then
        .error ("MultiReplicaWithSingleNodeBackend: " ++ field ++ " is " ++
          n ++ " but MCPGCluster/" ++ name ++ " provides the " ++
          "`single_node` backend, which cannot coordinate more than one " ++
          "replica — the replicas would run as " ++ n ++ " independent " ++
          "gateways. Reference a redis / nats MCPGCluster (or a managed " ++
          "one) instead.")
      else if (cluster.status.map fun s =>
          readyTrue s.conditions).getD false = false then
        .error ("spec.clusterRef points at MCPGCluster/" ++ name ++
          ", which is not Ready. Admission requires a Ready coordinator " ++
          "so " ++ n ++ " replicas never start as " ++ n ++
          " independent single_node gateways. Wait for `kubectl get " ++
          "mcpgc " ++ name ++ "` to report Ready=True and retry.")
      else .ok ()

/-- `enforce_multi_replica_coordination`. A read that fails admits. -/
def enforceMultiReplicaCoordination (gatewayApi : GatewayApi)
    (clusterApi : ClusterApi Backend Managed)
    (getCluster :
      String → Except KubeError (Option (MCPGCluster Backend Managed)))
    (obj : MCPGGateway) (old : Option MCPGGateway) : Except String Unit :=
  match coordinationPath gatewayApi obj.spec with
  | .error reason => .error reason
  | .ok .singleReplica => .ok ()
  | .ok .inline_ => .ok ()
  | .ok (.ref name) =>
      if bindingAlreadyAdmitted gatewayApi old obj then .ok ()
      else
        let (ceiling, field) := gatewayApi.effectiveReplicaCeiling obj.spec
        match getCluster name with
        | .error _ => .ok ()
        | .ok found =>
            judgeReferencedCluster clusterApi name ceiling field found

/-- `validate`, of a request that carries an object. -/
def validate (gatewayApi : GatewayApi)
    (clusterApi : ClusterApi Backend Managed)
    (getCluster :
      String → Except KubeError (Option (MCPGCluster Backend Managed)))
    (replicaCap : Except String Unit)
    (obj : MCPGGateway) (old : Option MCPGGateway) : Except String Unit := do
  validateGateway obj
  enforceMultiReplicaCoordination gatewayApi clusterApi getCluster obj old
  replicaCap

/-! ## What an admitted gateway satisfies -/

theorem validateCloud_of_validateGateway {obj : MCPGGateway}
    {cloud : GatewayCloud} (h : validateGateway obj = .ok ())
    (hcloud : obj.spec.cloud = some cloud) : validateCloud cloud = .ok () := by
  obtain ⟨_, _, h⟩ := Except.of_bind_ok h
  obtain ⟨_, _, h⟩ := Except.of_bind_ok h
  obtain ⟨_, _, h⟩ := Except.of_bind_ok h
  obtain ⟨_, _, h⟩ := Except.of_bind_ok h
  obtain ⟨_, _, h⟩ := Except.of_bind_ok h
  obtain ⟨_, _, h⟩ := Except.of_bind_ok h
  obtain ⟨_, _, h⟩ := Except.of_bind_ok h
  rw [hcloud] at h
  exact h

/-- A managed-cloud gateway has an external URL. -/
theorem externalUrl_ne_empty_of_validateCloud {cloud : GatewayCloud}
    (h : validateCloud cloud = .ok ()) : cloud.externalUrl ≠ "" := by
  obtain ⟨_, _, h⟩ := Except.of_bind_ok h
  obtain ⟨_, _, h⟩ := Except.of_bind_ok h
  intro hempty
  rw [hempty] at h
  cases h

end McpgOperator.Admission
