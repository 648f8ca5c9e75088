import McpgOperator.Admission.Webhook
import McpgOperator.Proofs.Coordination
import McpgOperator.Proofs.Federations
import McpgOperator.Server.Reconcile

/-!
# Writes that leave the spec alone

The release of a finalizer is an update, and it goes through the webhook like
any other: an object the webhook would no longer let in could not be deleted.
What it checks of the spec was checked before and comes out the same, of a
gateway the coordination guard too, whatever has become of the cluster, and
of a server the governance block, whatever the gateway makes of it today.
What is left are the checks that look at the tenants.

`specChecks` is what a write was let in on whatever was looked up. Every
stored object has passed it, it does not depend on the metadata but for the
name, and on a write that leaves the spec alone the validator adds nothing to
it but the guard of the tenants.
-/

namespace McpgOperator.Admission

open McpgOperator.Cluster McpgOperator.Gateway McpgOperator.Kube
  McpgOperator.Coordination Transition Gatekeeper

variable {Backend Managed : Type} {libs : WebhookLibs Backend Managed}

/-! ## Two halves of a validator -/

/-- The checks of the spec alone. No governance block is refused. -/
def specChecks (libs : WebhookLibs Backend Managed) :
    CustomResource Backend Managed → Except String (List String)
  | .gateway obj => silently do
      validateGateway obj
      let _ ← coordinationPath libs.gateway obj.spec
  | .revocationList obj => silently (validateRevocationList obj.spec)
  | .plugin obj => silently (validatePlugin libs.protocol obj)
  | .pluginSet obj => silently (validatePluginSet libs.capabilities obj)
  | .cluster obj =>
      silently (validateCluster libs.cluster libs.clusterFields obj)
  | .route obj chains => validateRoute obj chains
  | .pluginMirror obj port => silently (validatePluginMirror obj port)
  | .tenant obj => silently (validateTenant obj)
  | .server obj =>
      validateServer (libs.serverApi fun _ => none) libs.workload obj none

/-- The checks that look at the tenants. -/
def tenantGuard (libs : WebhookLibs Backend Managed)
    (judging : Judging Backend Managed) :
    CustomResource Backend Managed → Except String Unit
  | .gateway obj =>
      enforceGatewayReplicaCap libs.gateway libs.tenant judging.listTenants
        obj
  | .pluginSet obj =>
      enforcePluginsetAllowlist libs.tenant judging.listTenants
        judging.getPlugin obj
  | .tenant obj =>
      checkNamespaceExclusivity libs.tenant judging.listTenants obj
        (obj.metadata.name.getD "")
  | _ => .ok ()

theorem silently_ok {x : Except String Unit} {warnings : List String} :
    silently x = .ok warnings ↔ x = .ok () ∧ warnings = [] := by
  cases x with
  | error e =>
      refine ⟨fun h => ?_, fun h => ?_⟩
      · cases h
      · cases h.1
  | ok u =>
      refine ⟨fun h => ⟨rfl, ?_⟩, fun h => ?_⟩
      · cases h
        rfl
      · rw [h.2]
        rfl

/-- Where the first half has passed, the second decides. -/
theorem silently_bind {x y : Except String Unit} (hx : x = .ok ()) :
    silently (x >>= fun _ => y) = y.map fun _ => [] := by
  rw [hx]
  rfl

/-! ## Servers -/

theorem validateFederate_ok {api : ServerApi} {obj : MCPGServer}
    {old : Option MCPGServer} {federate : ServerFederate} :
    validateFederate api obj old federate = .ok () ↔
      validateFederateShape api.federationName obj federate = .ok () ∧
        (governanceUnchanged old federate = true ∨
          federateGovernanceError api federate = none) := by
  unfold validateFederate
  cases hshape : validateFederateShape api.federationName obj federate with
  | error e => exact iff_of_false (fun h => nomatch h) fun h => nomatch h.1
  | ok _ =>
      change validateGovernance api old federate = .ok () ↔ _
      unfold validateGovernance
      split
      · next hunchanged => exact iff_of_true rfl ⟨rfl, .inl hunchanged⟩
      · next hchanged =>
          rw [and_iff_right rfl, or_iff_right hchanged]
          cases federateGovernanceError api federate with
          | none => exact iff_of_true rfl rfl
          | some e => exact iff_of_false (fun h => nomatch h) nofun

theorem validateFederate_of_validateServer {api : ServerApi}
    {workload : Templates.WorkloadApi} {obj : MCPGServer}
    {old : Option MCPGServer} {warnings : List String}
    (h : validateServer api workload obj old = .ok warnings) :
    validateOptional (validateFederate api obj old) obj.spec.federate =
      .ok () := by
  obtain ⟨_, _, h⟩ := Except.of_bind_ok h
  obtain ⟨_, _, h⟩ := Except.of_bind_ok h
  obtain ⟨_, _, h⟩ := Except.of_bind_ok h
  obtain ⟨_, _, h⟩ := Except.of_bind_ok h
  obtain ⟨_, hfederate, _⟩ := Except.of_bind_ok h
  exact hfederate

/-- A server whose `federate` passes for another reason passes with it. -/
theorem validateServer_of_federate {api api' : ServerApi}
    {workload : Templates.WorkloadApi} {obj : MCPGServer}
    {old old' : Option MCPGServer} {warnings : List String}
    (h : validateServer api workload obj old = .ok warnings)
    (hfederate : ∀ federate, obj.spec.federate = some federate →
      validateFederate api obj old federate = .ok () →
      validateFederate api' obj old' federate = .ok ()) :
    validateServer api' workload obj old' = .ok warnings := by
  have hbefore := validateFederate_of_validateServer h
  have hafter : validateOptional (validateFederate api' obj old')
      obj.spec.federate = .ok () := by
    cases hf : obj.spec.federate with
    | none => rfl
    | some federate =>
        rw [hf] at hbefore
        exact hfederate federate hf hbefore
  unfold validateServer at h ⊢
  dsimp only at h ⊢
  rw [hbefore] at h
  rw [hafter]
  exact h

theorem validateFederate_withMetadata {api : ServerApi} {obj : MCPGServer}
    {old : Option MCPGServer} {m : ObjectMeta}
    (hname : m.name = obj.metadata.name) :
    validateFederate api { obj with metadata := m } old =
      validateFederate api obj old := by
  funext federate
  unfold validateFederate validateFederateShape
  dsimp only
  rw [hname]

theorem validateServer_withMetadata {api : ServerApi}
    {workload : Templates.WorkloadApi} {obj : MCPGServer}
    {old : Option MCPGServer} {m : ObjectMeta}
    (hname : m.name = obj.metadata.name) :
    validateServer api workload { obj with metadata := m } old =
      validateServer api workload obj old := by
  unfold validateServer
  dsimp only
  rw [validateFederate_withMetadata hname]

theorem federateGovernanceError_none {federate : ServerFederate} :
    federateGovernanceError (libs.serverApi fun _ => none) federate =
      none := by
  unfold federateGovernanceError WebhookLibs.serverApi
  cases federate.governance <;> rfl

/-! ## Every stored object has passed the checks of its spec -/

theorem specChecks_of_validate {judging : Judging Backend Managed}
    {obj : CustomResource Backend Managed}
    {old : Option (CustomResource Backend Managed)} {warnings : List String}
    (h : validateResource libs judging obj old = .ok warnings) :
    specChecks libs obj = .ok warnings := by
  cases obj with
  | gateway obj =>
      obtain ⟨hvalid, rfl⟩ := silently_ok.mp h
      obtain ⟨_, hspec, hguard⟩ := Except.of_bind_ok hvalid
      obtain ⟨_, hguard, -⟩ := Except.of_bind_ok hguard
      obtain ⟨path, hpath⟩ := path_of_enforce hguard
      refine silently_ok.mpr ⟨?_, rfl⟩
      rw [hspec, hpath]
      rfl
  | pluginSet obj =>
      obtain ⟨hvalid, rfl⟩ := silently_ok.mp h
      obtain ⟨_, hspec, -⟩ := Except.of_bind_ok hvalid
      exact silently_ok.mpr ⟨hspec, rfl⟩
  | tenant obj =>
      obtain ⟨hvalid, rfl⟩ := silently_ok.mp h
      obtain ⟨_, hspec, -⟩ := Except.of_bind_ok hvalid
      exact silently_ok.mpr ⟨hspec, rfl⟩
  | server obj =>
      refine validateServer_of_federate h fun federate _ hfederate => ?_
      obtain ⟨hshape, -⟩ := validateFederate_ok.mp hfederate
      exact validateFederate_ok.mpr
        ⟨hshape, .inr federateGovernanceError_none⟩
  | revocationList obj => exact h
  | plugin obj => exact h
  | cluster obj => exact h
  | route obj chains => exact h
  | pluginMirror obj port => exact h

theorem isOk_iff {α β : Type} {x : Except α β} :
    x.isOk = true ↔ ∃ b, x = .ok b := by
  cases x with
  | error e => exact iff_of_false (fun h => nomatch h) fun h => nomatch h
  | ok b => exact iff_of_true rfl ⟨b, rfl⟩

theorem specChecks_of_reachable
    {store : ResourceKey → Option (CustomResource Backend Managed)}
    (h : Reachable (gate libs).system anyStep store) {key : ResourceKey}
    {obj : CustomResource Backend Managed} (hobj : store key = some obj) :
    ∃ warnings, specChecks libs obj = .ok warnings := by
  refine Gate.stored (P := fun obj => ∃ warnings,
    specChecks libs obj = .ok warnings) ?_ h key obj hobj
  intro _ _ _ _ _ hadmits
  obtain ⟨warnings, hvalid⟩ := isOk_iff.mp hadmits
  exact ⟨warnings, specChecks_of_validate hvalid⟩

/-! ## A write that leaves the spec alone -/

/-- The guard has nothing to say about a gateway it has let in. -/
theorem enforce_keeping {getCluster :
      String → Except KubeError (Option (MCPGCluster Backend Managed))}
    {obj : MCPGGateway} {m : ObjectMeta} {path : CoordinationPath}
    (hpath : coordinationPath libs.gateway obj.spec = .ok path) :
    enforceMultiReplicaCoordination libs.gateway libs.cluster getCluster
      { obj with metadata := m } (some obj) = .ok () := by
  unfold enforceMultiReplicaCoordination
  dsimp only
  rw [hpath]
  cases path with
  | singleReplica => rfl
  | inline_ => rfl
  | ref name =>
      have hceiling :
          ¬ (libs.gateway.effectiveReplicaCeiling obj.spec).1 ≤ 1 := by
        intro hle
        unfold coordinationPath at hpath
        dsimp only at hpath
        rw [if_pos hle] at hpath
        cases hpath
      have hadmitted : bindingAlreadyAdmitted libs.gateway (some obj)
          { obj with metadata := m } = true := by
        simp only [bindingAlreadyAdmitted, Option.any_some, beq_self_eq_true,
          Bool.and_true, decide_eq_true_eq]
        omega
      dsimp only
      rw [if_pos hadmitted]

theorem governanceUnchanged_self {obj : MCPGServer}
    {federate : ServerFederate} (h : obj.spec.federate = some federate) :
    governanceUnchanged (some obj) federate = true := by
  simp [governanceUnchanged, h]

theorem checkOthers_withMetadata (api : TenantApi) (obj : MCPGTenant)
    (m : ObjectMeta) (selfName : String) (others : List MCPGTenant) :
    checkOthers api { obj with metadata := m } selfName others =
      checkOthers api obj selfName others := by
  induction others with
  | nil => rfl
  | cons other rest ih =>
      unfold checkOthers
      rw [ih]

/-- The validator answers what the guard of the tenants answers. -/
theorem validate_withMetadata {obj : CustomResource Backend Managed}
    {warnings : List String} (h : specChecks libs obj = .ok warnings)
    {m : ObjectMeta} (hname : m.name = obj.metadata.name)
    (hns : m.namespace_ = obj.metadata.namespace_)
    (judging : Judging Backend Managed) :
    validateResource libs judging (obj.withMetadata m) (some obj) =
      (tenantGuard libs judging obj).map fun _ => warnings := by
  cases obj with
  | gateway obj =>
      obtain ⟨hvalid, rfl⟩ := silently_ok.mp h
      obtain ⟨_, hspec, hpath⟩ := Except.of_bind_ok hvalid
      obtain ⟨path, hpath, -⟩ := Except.of_bind_ok hpath
      have hguard : enforceMultiReplicaCoordination libs.gateway
          libs.cluster judging.getCluster { obj with metadata := m }
          (some obj) = .ok () := enforce_keeping hpath
      have hcap : enforceGatewayReplicaCap libs.gateway libs.tenant
          judging.listTenants { obj with metadata := m } =
          enforceGatewayReplicaCap libs.gateway libs.tenant
            judging.listTenants obj := by
        unfold enforceGatewayReplicaCap
        rw [show m.namespace_ = obj.metadata.namespace_ from hns]
      change silently (do
        validateGateway obj
        enforceMultiReplicaCoordination libs.gateway libs.cluster
          judging.getCluster { obj with metadata := m } (some obj)
        enforceGatewayReplicaCap libs.gateway libs.tenant
          judging.listTenants { obj with metadata := m }) = _
      rw [hspec, hguard, hcap]
      rfl
  | pluginSet obj =>
      obtain ⟨hspec, rfl⟩ := silently_ok.mp h
      have hallowlist : enforcePluginsetAllowlist libs.tenant
          judging.listTenants judging.getPlugin { obj with metadata := m } =
          enforcePluginsetAllowlist libs.tenant judging.listTenants
            judging.getPlugin obj := by
        unfold enforcePluginsetAllowlist
        rw [show m.namespace_ = obj.metadata.namespace_ from hns]
      change silently (do
        validatePluginSet libs.capabilities obj
        enforcePluginsetAllowlist libs.tenant judging.listTenants
          judging.getPlugin { obj with metadata := m }) = _
      rw [hspec, hallowlist]
      rfl
  | tenant obj =>
      obtain ⟨hspec, rfl⟩ := silently_ok.mp h
      have hexclusive : ∀ listed selfName,
          checkNamespaceExclusivity libs.tenant listed
            { obj with metadata := m } selfName =
          checkNamespaceExclusivity libs.tenant listed obj selfName := by
        intro listed selfName
        cases listed with
        | error e => rfl
        | ok existing => exact checkOthers_withMetadata ..
      change silently (do
        validateTenant obj
        checkNamespaceExclusivity libs.tenant judging.listTenants
          { obj with metadata := m } (m.name.getD "")) = _
      rw [hspec, hexclusive, show m.name = obj.metadata.name from hname]
      rfl
  | server obj =>
      have hvalid : validateServer
          (libs.serverApi judging.governanceError) libs.workload obj
          (some obj) = .ok warnings := by
        refine validateServer_of_federate h fun federate hfederate hvalid => ?_
        obtain ⟨hshape, -⟩ := validateFederate_ok.mp hvalid
        exact validateFederate_ok.mpr
          ⟨hshape, .inl (governanceUnchanged_self hfederate)⟩
      exact (validateServer_withMetadata hname).trans hvalid
  | revocationList obj => exact h
  | plugin obj => exact h
  | cluster obj => exact h
  | route obj chains => exact h
  | pluginMirror obj port => exact h

/-- In every history, a write that leaves the spec of a stored object alone
is answered as the guard of the tenants answers: with the same warnings every
time, or with the reason of that guard. -/
theorem answer_of_reachable
    {store : ResourceKey → Option (CustomResource Backend Managed)}
    (h : Reachable (gate libs).system anyStep store) {key : ResourceKey}
    {obj : CustomResource Backend Managed} (hobj : store key = some obj) :
    ∃ warnings, ∀ (m : ObjectMeta) (judging : Judging Backend Managed),
      m.name = obj.metadata.name → m.namespace_ = obj.metadata.namespace_ →
      validateResource libs judging (obj.withMetadata m) (some obj) =
        (tenantGuard libs judging obj).map fun _ => warnings := by
  obtain ⟨warnings, hspec⟩ := specChecks_of_reachable h hobj
  exact ⟨warnings, fun m judging hname hns =>
    validate_withMetadata hspec hname hns judging⟩

namespace Sample

def webhookLibs : WebhookLibs String Unit where
  gateway := Gateway.Sample.gatewayApi
  cluster := Gateway.Sample.clusterApi
  clusterFields :=
    { configIsEmpty := fun backend => backend == "single_node"
      credentialRefs := fun _ => []
      insecureTransportReason := fun _ => none
      replicas := fun _ => none
      issuerName := fun _ => none }
  tenant :=
    { ownsNamespace := fun spec ns => spec.namespaces.contains ns
      pluginAllowed := fun _ _ _ _ => true
      overlappingNamespaces := fun a b =>
        a.namespaces.filter fun ns => b.namespaces.contains ns }
  capabilities := { parseError := fun _ => none, knownNames := [] }
  protocol := { allKinds := [], regexError := fun _ => none }
  federationName := fun _ name => name
  endpoint := fun _ child ns => "http://" ++ child ++ "." ++ ns ++ ".svc"
  workload :=
    { port := fun spec => spec.port.getD 8080
      replicas := fun spec => spec.replicas.getD 1 }

/-- The lookups of a cluster and of a plugin fail. -/
def asked (tenants : List MCPGTenant) : Judging String Unit where
  getCluster := fun _ => .error (.other "timeout")
  listTenants := .ok tenants
  getPlugin := fun _ => .error (.other "timeout")
  governanceError := fun _ => none

def capped : MCPGTenant :=
  { metadata := { name := some "payments" }
    spec :=
      { namespaces := ["payments"]
        quotas := some { maxReplicasPerGateway := some 2 } } }

def edge : CustomResource String Unit :=
  .gateway Coordination.Sample.gateway

/-- The store after the first write. -/
def storing (obj : CustomResource String Unit) :
    ResourceKey → Option (CustomResource String Unit) :=
  Function.update (fun _ => none) ((gate webhookLibs).key obj) (some obj)

theorem storing_self (obj : CustomResource String Unit) :
    storing obj ((gate webhookLibs).key obj) = some obj :=
  Function.update_self ..

end Sample

/-- A gateway of three replicas, let in before there was a tenant. With a
cap of two its finalizer is not released. -/
theorem answer_of_reachable_overCap :
    ∃ e, validateResource Sample.webhookLibs (Sample.asked [Sample.capped])
        (Sample.edge.withMetadata
          { Coordination.Sample.gateway.metadata with finalizers := none })
        (some Sample.edge) = .error e := by
  have hadmits : (gate Sample.webhookLibs).admits (Sample.asked [])
      Sample.edge none = true := by decide +kernel
  have hreach : Reachable (gate Sample.webhookLibs).system anyStep
      (Sample.storing Sample.edge) :=
    Gate.reachable_write (.init rfl) hadmits rfl trivial
  obtain ⟨warnings, hanswer⟩ := answer_of_reachable hreach
    (Sample.storing_self Sample.edge)
  have hreleased := hanswer
    { Coordination.Sample.gateway.metadata with finalizers := none }
    (Sample.asked [Sample.capped]) rfl rfl
  exact ⟨_, hreleased.trans rfl⟩

/-! ## What a gateway makes of an admitted server -/

/-- Every write is judged by a release with that check. -/
def JudgedBy (governanceError : Json → Option String)
    (_ : ResourceKey → Option (CustomResource Backend Managed)) :
    Request (Judging Backend Managed) ResourceKey
      (CustomResource Backend Managed) → Prop
  | .write judging _ => judging.governanceError = governanceError
  | .drop _ => True

/-- What is stored of a server's federation passes the check, with the name
it goes by. -/
def Federable (libs : WebhookLibs Backend Managed)
    (governanceError : Json → Option String) :
    CustomResource Backend Managed → Prop
  | .server obj => ∀ federate, obj.spec.federate = some federate →
      validateFederateShape libs.federationName obj federate = .ok () ∧
        federateGovernanceError (libs.serverApi governanceError) federate =
          none
  | _ => True

theorem governance_of_unchanged {old : Option MCPGServer}
    {federate : ServerFederate} (h : governanceUnchanged old federate = true) :
    ∃ obj previous, old = some obj ∧ obj.spec.federate = some previous ∧
      previous.governance = federate.governance := by
  obtain ⟨obj, hold, hprevious⟩ := (Option.any_eq_true _ _).mp h
  obtain ⟨previous, hfederate, hsame⟩ :=
    (Option.any_eq_true _ _).mp hprevious
  exact ⟨obj, previous, hold, hfederate, of_decide_eq_true hsame⟩

theorem federable_of_reachable {governanceError : Json → Option String}
    {store : ResourceKey → Option (CustomResource Backend Managed)}
    (h : Reachable (gate libs).system (JudgedBy governanceError) store) :
    ∀ key obj, store key = some obj →
      Federable libs governanceError obj := by
  refine Gate.stored ?_ h
  intro store judging obj hjudged hstored hadmits
  obtain rfl : judging.governanceError = governanceError := hjudged
  cases obj with
  | server obj =>
      intro federate hfederate
      obtain ⟨warnings, hvalid⟩ := isOk_iff.mp hadmits
      have hvalid := validateFederate_of_validateServer hvalid
      rw [hfederate] at hvalid
      obtain ⟨hshape, hgovernance⟩ := validateFederate_ok.mp hvalid
      refine ⟨hshape, hgovernance.elim (fun hunchanged => ?_) id⟩
      -- the block is the one of the object that is replaced
      obtain ⟨old, previous, hold, hprevious, hsame⟩ :=
        governance_of_unchanged hunchanged
      obtain ⟨resource, hresource, hserver⟩ :=
        Option.bind_eq_some_iff.mp hold
      obtain rfl : resource = .server old := by
        cases resource with
        | server obj => rw [Option.some.inj hserver]
        | _ => cases hserver
      obtain ⟨-, hnone⟩ := hstored _ hresource previous hprevious
      unfold federateGovernanceError at hnone ⊢
      rw [← hsame]
      exact hnone
  | _ => trivial

theorem hasFederation_foldl (api : ServerApi) (gatewayName ns : String)
    {server : MCPGServer} (htargets : targets api gatewayName ns server = true)
    (servers : List MCPGServer) (acc : Json × Nat)
    (h : server ∈ servers ∨
      hasFederation (serverFederationName api server)
        (items federationsPath acc.1) = true) :
    hasFederation (serverFederationName api server)
      (items federationsPath
        (servers.foldl (applyServer api gatewayName ns) acc).1) = true := by
  induction servers generalizing acc with
  | nil => exact h.resolve_left List.not_mem_nil
  | cons first rest ih =>
      refine ih _ ?_
      rw [hasFederation_applyServer]
      rcases h with hmem | hheld
      · rcases List.mem_cons.mp hmem with rfl | hmem
        · exact .inr (.inr ⟨htargets, rfl⟩)
        · exact .inl hmem
      · exact .inr (.inl hheld)

/-- Where every release has the same check, a stored server that federates is
bound as soon as its gateway is there, and no fan-in that lists it leaves its
name out, which is one the gateway can read. -/
theorem imported_of_reachable {governanceError : Json → Option String}
    {store : ResourceKey → Option (CustomResource Backend Managed)}
    (h : Reachable (gate libs).system (JudgedBy governanceError) store)
    {key : ResourceKey} {server : MCPGServer}
    (hserver : store key = some (.server server)) {ns : String}
    (hns : server.metadata.namespace_ = some ns) {federate : ServerFederate}
    (hfederate : server.spec.federate = some federate) :
    (∀ gatewayExists,
      (Server.gatewayBound (libs.serverApi governanceError) federate ns
        gatewayExists).bound = gatewayExists) ∧
    (∀ servers config, server ∈ servers →
      hasFederation
        (serverFederationName (libs.serverApi governanceError) server)
        (items federationsPath
          (applyServersToConfig (libs.serverApi governanceError) servers
            federate.gatewayRef ns config).1) = true) ∧
    ∀ c ∈ (serverFederationName (libs.serverApi governanceError)
        server).toList, isFederationNameChar c = true := by
  obtain ⟨hshape, hgovernance⟩ :=
    federable_of_reachable h key _ hserver federate hfederate
  refine ⟨fun gatewayExists => ?_, fun servers config hmem => ?_, ?_⟩
  · unfold Server.gatewayBound
    rw [hgovernance]
    cases gatewayExists <;> rfl
  · have htargets : targets (libs.serverApi governanceError)
        federate.gatewayRef ns server = true := by
      unfold targets
      rw [hns, hfederate, Option.any_some, hgovernance]
      simp
    exact hasFederation_foldl _ _ _ htargets servers (config, 0) (.inl hmem)
  · obtain ⟨_, _, hshape⟩ := Except.of_bind_ok hshape
    obtain ⟨_, _, hshape⟩ := Except.of_bind_ok hshape
    obtain ⟨_, hchars, -⟩ := Except.of_bind_ok hshape
    have hall := not_of_denyIf hchars
    rw [Bool.not_eq_false] at hall
    exact List.all_eq_true.mp hall

namespace Sample

/-- The check of a release: a rule closes the parentheses it opens. -/
def ruleError (block : Json) : Option String :=
  match block.get "allow_if" with
  | some (.str rule) =>
      if rule.toList.count '(' = rule.toList.count ')' then none
      else some "allow_if: mismatched parentheses"
  | _ => none

def release : Judging String Unit :=
  { asked [capped] with governanceError := ruleError }

def federation (rule : String) : ServerFederate :=
  { gatewayRef := "edge"
    governance := some (.obj [("allow_if", .str rule)]) }

def federated (name image rule : String) : MCPGServer :=
  { metadata := { name := some name, namespace_ := some "payments" }
    spec := { image := image, federate := some (federation rule) } }

def ledger : MCPGServer :=
  federated "ledger" "ghcr.io/acme/ledger:2.0.0" "true"

def crm (version : String) : MCPGServer :=
  federated "crm" ("ghcr.io/acme/crm:" ++ version) "has(jwt.sub)"

/-- Two servers are created, and one of them is given a new image. -/
def afterWrites : ResourceKey → Option (CustomResource String Unit) :=
  [crm "1.0.0", ledger, crm "1.1.0"].foldl
    (fun store obj =>
      Function.update store ((gate webhookLibs).key (.server obj))
        (some (.server obj)))
    fun _ => none

theorem reachable_afterWrites :
    Reachable (gate webhookLibs).system (JudgedBy ruleError)
      afterWrites := by
  have hcrm : (gate webhookLibs).admits release (.server (crm "1.0.0"))
      none = true := by
    decide +kernel
  have hledger : (gate webhookLibs).admits release (.server ledger)
      none = true := by
    decide +kernel
  have hnew : (gate webhookLibs).admits release (.server (crm "1.1.0"))
      (some (.server (crm "1.0.0"))) = true := by
    decide +kernel
  have hempty : Reachable (gate webhookLibs).system (JudgedBy ruleError)
      fun _ => none := .init rfl
  have hfirst := Gate.reachable_write hempty hcrm rfl rfl
  have hsecond := Gate.reachable_write hfirst hledger rfl rfl
  exact Gate.reachable_write hsecond hnew rfl rfl

/-- A gateway's config with a federation of its own. -/
def ownFederation : Json :=
  .obj [("mcp", .obj
    [("federations", .arr [.obj [("name", .str "github")]])])]

end Sample

/-- Two servers of one gateway, one of them with a new image, beside a
federation of the gateway's own. A rule that does not parse is refused. -/
theorem imported_of_reachable_crm :
    (gate Sample.webhookLibs).admits Sample.release
        (.server (Sample.federated "crm" "ghcr.io/acme/crm:1.1.0"
          "has(jwt.sub"))
        (some (.server (Sample.crm "1.0.0"))) = false ∧
      (Server.gatewayBound (Sample.webhookLibs.serverApi Sample.ruleError)
        (Sample.federation "has(jwt.sub)") "payments" true).bound = true ∧
      hasFederation "crm"
        (items federationsPath
          (applyServersToConfig
            (Sample.webhookLibs.serverApi Sample.ruleError)
            [Sample.ledger, Sample.crm "1.1.0"] "edge" "payments"
            Sample.ownFederation).1) = true := by
  have hstored : Sample.afterWrites
      ((gate Sample.webhookLibs).key (.server (Sample.crm "1.1.0"))) =
        some (.server (Sample.crm "1.1.0")) := rfl
  obtain ⟨hbound, hfanIn, -⟩ :=
    imported_of_reachable Sample.reachable_afterWrites hstored rfl rfl
  exact ⟨by decide +kernel, hbound true,
    hfanIn _ _ (List.mem_cons_of_mem _ List.mem_cons_self)⟩

end McpgOperator.Admission
