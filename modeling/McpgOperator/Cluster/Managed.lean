import McpgOperator.Cluster.Reconcile
import McpgOperator.Lib.AssocList
import McpgOperator.Templates.Edge

/-!
# Provisioning a managed coordinator

`reconcile_managed` of `controllers/cluster.rs` with what it calls, and
`prune_managed_children`. The children are rendered by
`templates/managed_nats.rs` into the operator namespace: of the coordination
Secret the whole document is here, of the others which object it is, with
its labels. None of them has an ownerReference.

An apply that is answered by an error may still have taken effect, so a
write carries both. The random keys of a pass are among its answers, and
`ca.crt` is decoded by the standard library.
-/

namespace McpgOperator.Cluster

open McpgOperator.Kube McpgOperator.Templates

/-! ## The API crate -/

/-- The env names under which a gateway gets the data of the Secret. -/
structure ManagedEnvs where
  natsToken : String
  stateKey : String
  natsCa : String
  distinct : [natsToken, stateKey, natsCa].Nodup

structure ManagedApi (Backend Managed : Type) where
  envs : ManagedEnvs
  managedTlsEnabled : MCPGClusterSpec Backend Managed → Bool
  managedNatsReplicas : MCPGClusterSpec Backend Managed → Option Int
  managedReplicasCapped : MCPGClusterSpec Backend Managed → Bool
  /-- `tls.issuerRef` of the settings. -/
  issuerRef : Managed → Option IssuerRef
  managedNatsStatefulsetName : String → String
  managedNatsServiceName : String → String
  managedNatsHeadlessServiceName : String → String
  managedNatsConfigName : String → String
  managedNatsTlsSecretName : String → String

/-! ## The surroundings -/

/-- What a write is answered, and whether it takes effect. -/
structure Write (α : Type) where
  answer : Except KubeError α
  landed : Bool
  landed_of_ok : ∀ a, answer = .ok a → landed = true

def Write.ok {α : Type} (a : α) : Write α :=
  { answer := .ok a, landed := true, landed_of_ok := fun _ _ => rfl }

def Write.fail {α : Type} (e : KubeError) (landed : Bool) : Write α :=
  { answer := .error e, landed := landed, landed_of_ok := nofun }

structure ManagedAnswers where
  applyCertificate : Write Unit
  /-- The Secret cert-manager issues. -/
  getTlsSecret : Except KubeError (Option Secret)
  getCoordinationSecret : Except KubeError (Option Secret)
  /-- What `gen_url_safe_key` gives for the token. -/
  newToken : String
  newStateKey : String
  applyCoordinationSecret : Write Unit
  applyConfigMap : Write Unit
  applyHeadlessService : Write Unit
  applyClientService : Write Unit
  /-- With the ready replicas in the status of what was applied. -/
  applyStatefulSet : Write (Option Int)

inductive ManagedKind
  | certificate
  | secret
  | configMap
  | service
  | statefulSet
  deriving DecidableEq, Repr

structure ManagedChild where
  kind : ManagedKind
  name : String
  namespace_ : String
  labels : List (String × String)
  deriving DecidableEq, Repr

inductive ManagedEffect
  | publish (evt : K8sEvent)
  | apply (child : ManagedChild) (landed : Bool)
  | applySecret (secret : Secret) (landed : Bool)
  | delete (kind : ManagedKind) (name : String) (landed : Bool)
  deriving DecidableEq

structure ManagedPass where
  trace : List ManagedEffect
  result : Except ReconcileError ManagedOutcome
  deriving DecidableEq

/-- The pass after these. -/
def ManagedPass.after (before : List ManagedEffect) (p : ManagedPass) :
    ManagedPass :=
  { p with trace := before ++ p.trace }

/-- A write, and the rest when it is answered well. -/
def ManagedPass.write {α : Type} (e : ManagedEffect) (w : Write α)
    (rest : α → ManagedPass) : ManagedPass :=
  match w.answer with
  | .error err => { trace := [e], result := .error (.apply err) }
  | .ok a => (rest a).after [e]

/-- A write ends the pass, or the rest follows it. -/
theorem ManagedPass.write_cases {α : Type} (e : ManagedEffect)
    (w : Write α) (rest : α → ManagedPass) :
    (∃ err, w.answer = .error err ∧
      ManagedPass.write e w rest =
        { trace := [e], result := .error (.apply err) }) ∨
    ∃ a, w.answer = .ok a ∧
      ManagedPass.write e w rest = (rest a).after [e] := by
  unfold ManagedPass.write
  cases h : w.answer with
  | error err => exact .inl ⟨err, rfl, rfl⟩
  | ok a => exact .inr ⟨a, rfl, rfl⟩

theorem ManagedPass.of_write_ok {α : Type} {e : ManagedEffect}
    {w : Write α} {rest : α → ManagedPass} {o : ManagedOutcome}
    (h : (ManagedPass.write e w rest).result = .ok o) :
    w.landed = true ∧ ∃ a, (rest a).result = .ok o ∧
      (ManagedPass.write e w rest).trace = e :: (rest a).trace := by
  rcases write_cases e w rest with ⟨err, _, heq⟩ | ⟨a, ha, heq⟩
  · rw [heq] at h
    cases h
  · rw [heq] at h ⊢
    exact ⟨w.landed_of_ok a ha, a, h, rfl⟩

/-- What holds of the write and of all that may follow holds of the trace,
cut short or not. -/
theorem ManagedPass.forall_write {P : ManagedEffect → Prop} {α : Type}
    {e : ManagedEffect} {w : Write α} {rest : α → ManagedPass} (he : P e)
    (hrest : ∀ a, ∀ x ∈ (rest a).trace, P x) :
    ∀ x ∈ (ManagedPass.write e w rest).trace, P x := by
  rcases write_cases e w rest with ⟨err, _, heq⟩ | ⟨a, _, heq⟩
  · rw [heq]
    exact List.forall_mem_singleton.mpr he
  · rw [heq]
    exact List.forall_mem_cons.mpr ⟨he, hrest a⟩

variable {Backend Managed : Type}

/-! ## The children -/

def managedClusterLabel : String := "mcpg.dev/cluster"

/-- `managed_labels`, in key order. -/
def managedLabels (clusterName : String) : List (String × String) :=
  [("app.kubernetes.io/component", "cluster-coordinator"),
    ("app.kubernetes.io/instance", clusterName),
    ("app.kubernetes.io/managed-by", "mcpg-operator"),
    ("app.kubernetes.io/name", "mcpg-nats"),
    ("app.kubernetes.io/part-of", "mcpg"),
    (managedClusterLabel, clusterName)]

/-- `child_meta` of a child of that kind. -/
def childMeta (clusterName : String) (kind : ManagedKind) (name : String) :
    ManagedChild :=
  { kind := kind, name := name, namespace_ := defaultOperatorNamespace
    labels := managedLabels clusterName }

def buildNatsCertificate (api : ManagedApi Backend Managed)
    (clusterName : String) : ManagedChild :=
  childMeta clusterName .certificate (api.managedNatsTlsSecretName clusterName)

def buildNatsConfigmap (api : ManagedApi Backend Managed)
    (clusterName : String) : ManagedChild :=
  childMeta clusterName .configMap (api.managedNatsConfigName clusterName)

def buildNatsHeadlessService (api : ManagedApi Backend Managed)
    (clusterName : String) : ManagedChild :=
  childMeta clusterName .service
    (api.managedNatsHeadlessServiceName clusterName)

def buildNatsClientService (api : ManagedApi Backend Managed)
    (clusterName : String) : ManagedChild :=
  childMeta clusterName .service (api.managedNatsServiceName clusterName)

def buildNatsStatefulset (api : ManagedApi Backend Managed)
    (clusterName : String) : ManagedChild :=
  childMeta clusterName .statefulSet
    (api.managedNatsStatefulsetName clusterName)

/-! ## The coordination Secret -/

/-- `String::from_utf8`. -/
def fromUtf8 (bytes : Bytes) : Option String :=
  String.fromUTF8? ⟨bytes.toArray⟩

def asBytes (s : String) : Bytes := s.toUTF8.data.toList

/-- `read_ca_cert`: whatever goes wrong, there is no CA. -/
def readCaCert (getTlsSecret : Except KubeError (Option Secret)) :
    Option String :=
  match getTlsSecret with
  | .ok (some secret) =>
      (((secret.data.getD []).lookup "ca.crt").bind fromUtf8).filter
        fun pem => Text.trim pem ≠ ""
  | _ => none

def mergeCoordinationData (envs : ManagedEnvs)
    (existing : List (String × Bytes)) (newToken newStateKey : String)
    (ca : Option String) : List (String × Bytes) :=
  let data := AssocList.putNew envs.natsToken (asBytes newToken) existing
  let data := AssocList.putNew envs.stateKey (asBytes newStateKey) data
  match ca with
  | some pem => AssocList.put envs.natsCa (asBytes pem) data
  | none => AssocList.drop envs.natsCa data

def coordinationSecret (secretName clusterName : String)
    (data : List (String × Bytes)) : Secret :=
  { name := some secretName
    namespace_ := some defaultOperatorNamespace
    labels := managedLabels clusterName
    type_ := some "Opaque"
    data := some data }

/-- `ensure_coordination_secret`, and the rest of the pass with the name of
the Secret. -/
def ensureCoordinationSecret (libs : ClusterLibs Backend Managed)
    (envs : ManagedEnvs) (ans : ManagedAnswers) (clusterName : String)
    (ca : Option String) (rest : String → ManagedPass) : ManagedPass :=
  let secretName := libs.cluster.managedCoordinationSecretName clusterName
  match ans.getCoordinationSecret with
  | .error e => { trace := [], result := .error (.kube e) }
  | .ok existing =>
      let data := mergeCoordinationData envs
        ((existing.bind (·.data)).getD []) ans.newToken ans.newStateKey ca
      ManagedPass.write
        (.applySecret (coordinationSecret secretName clusterName data)
          ans.applyCoordinationSecret.landed)
        ans.applyCoordinationSecret fun _ => rest secretName

/-! ## The pass -/

def provisionWarning (reason note : String) : ManagedEffect :=
  .publish
    { type_ := "Warning", reason := reason, note := some note
      action := "Provision" }

def managedWarnings (api : ManagedApi Backend Managed)
    (obj : MCPGCluster Backend Managed) : List ManagedEffect :=
  (if api.managedTlsEnabled obj.spec then []
    else
      [provisionWarning "PlaintextCoordinator"
        ("managed NATS runs plaintext in-cluster (no " ++
          "managed.tls.issuerRef); shared coordinator state crosses the " ++
          "pod network unencrypted at the transport — set " ++
          "managed.tls.issuerRef for in-cluster TLS. State-at-rest stays " ++
          "sealed by the generated state-encryption key regardless.")]) ++
  (if api.managedReplicasCapped obj.spec then
      [provisionWarning "ReplicasCapped"
        ("managed NATS renders single-node JetStream; managed.replicas > " ++
          "1 is capped at 1 (clustered-NATS quorum config is not " ++
          "rendered in this version).")]
    else [])

theorem publish_of_mem_managedWarnings {api : ManagedApi Backend Managed}
    {obj : MCPGCluster Backend Managed} {e : ManagedEffect}
    (he : e ∈ managedWarnings api obj) : ∃ evt, e = .publish evt := by
  unfold managedWarnings at he
  rcases List.mem_append.mp he with he | he
  all_goals
    split at he
    all_goals simp only [List.mem_singleton, List.not_mem_nil] at he
    exact ⟨_, he⟩

/-- Step 1: the Certificate, where TLS has an issuer. -/
def certificateStep (api : ManagedApi Backend Managed)
    (ans : ManagedAnswers) (obj : MCPGCluster Backend Managed)
    (name : String) (rest : ManagedPass) : ManagedPass :=
  if api.managedTlsEnabled obj.spec ∧
      (obj.spec.managed.bind api.issuerRef).isSome then
    ManagedPass.write
      (.apply (buildNatsCertificate api name) ans.applyCertificate.landed)
      ans.applyCertificate fun _ => rest
  else rest

/-- Step 5. -/
def managedOutcomeOf (secretName : String) (tlsEnabled caAvailable : Bool)
    (replicas natsReady : Int) : ManagedOutcome :=
  let ready := decide (natsReady ≥ 1) && caAvailable
  { ready := ready
    natsReadyReplicas := natsReady
    secretName := secretName
    message :=
      if ready then
        "managed NATS coordinator ready (" ++ toString natsReady ++ "/" ++
          toString replicas ++ ", " ++
          (if tlsEnabled then "TLS" else "plaintext") ++ ")"
      else if caAvailable = false then
        "managed NATS TLS certificate not issued yet (waiting on " ++
          "cert-manager)"
      else
        "managed NATS StatefulSet not ready yet (" ++
          toString natsReady ++ "/" ++ toString replicas ++ ")" }

/-- Step 4, and what it came to. -/
def workloadStep (api : ManagedApi Backend Managed) (ans : ManagedAnswers)
    (name : String) (outcome : Int → ManagedOutcome) : ManagedPass :=
  ManagedPass.write
    (.apply (buildNatsConfigmap api name) ans.applyConfigMap.landed)
    ans.applyConfigMap fun _ =>
  ManagedPass.write
    (.apply (buildNatsHeadlessService api name)
      ans.applyHeadlessService.landed)
    ans.applyHeadlessService fun _ =>
  ManagedPass.write
    (.apply (buildNatsClientService api name) ans.applyClientService.landed)
    ans.applyClientService fun _ =>
  ManagedPass.write
    (.apply (buildNatsStatefulset api name) ans.applyStatefulSet.landed)
    ans.applyStatefulSet fun readyReplicas =>
  { trace := [], result := .ok (outcome (readyReplicas.getD 0)) }

/-- The CA of a pass; without TLS none is read. -/
def managedCa (api : ManagedApi Backend Managed) (ans : ManagedAnswers)
    (obj : MCPGCluster Backend Managed) : Option String :=
  if api.managedTlsEnabled obj.spec then readCaCert ans.getTlsSecret
  else none

def reconcileManaged (libs : ClusterLibs Backend Managed)
    (api : ManagedApi Backend Managed) (ans : ManagedAnswers)
    (obj : MCPGCluster Backend Managed) (name : String) : ManagedPass :=
  let tlsEnabled := api.managedTlsEnabled obj.spec
  let replicas := (api.managedNatsReplicas obj.spec).getD 1
  let ca := managedCa api ans obj
  let caAvailable := !tlsEnabled || ca.isSome
  ManagedPass.after (managedWarnings api obj)
    (certificateStep api ans obj name
      (ensureCoordinationSecret libs api.envs ans name ca fun secretName =>
        workloadStep api ans name
          (managedOutcomeOf secretName tlsEnabled caAvailable replicas)))

/-! ## Teardown -/

/-- The deletes of `prune_managed_children`, in order. -/
def managedTeardown (libs : ClusterLibs Backend Managed)
    (api : ManagedApi Backend Managed) (name : String) :
    List (ManagedKind × String) :=
  [(.statefulSet, api.managedNatsStatefulsetName name),
    (.service, api.managedNatsServiceName name),
    (.service, api.managedNatsHeadlessServiceName name),
    (.configMap, api.managedNatsConfigName name),
    (.secret, libs.cluster.managedCoordinationSecretName name),
    (.certificate, api.managedNatsTlsSecretName name),
    (.secret, api.managedNatsTlsSecretName name)]

/-- What a delete answers is ignored; `landed` says which take effect. -/
def pruneManagedChildren (libs : ClusterLibs Backend Managed)
    (api : ManagedApi Backend Managed)
    (landed : ManagedKind → String → Bool) (name : String) :
    List ManagedEffect :=
  (managedTeardown libs api name).map fun (kind, name) =>
    .delete kind name (landed kind name)

/-- An effect of provisioning: it deletes nothing, and the child it applies
is one that teardown names. -/
def Provisions (libs : ClusterLibs Backend Managed)
    (api : ManagedApi Backend Managed) (name : String) :
    ManagedEffect → Prop
  | .publish _ => True
  | .apply child _ =>
      child.namespace_ = defaultOperatorNamespace ∧
        (child.kind, child.name) ∈ managedTeardown libs api name
  | .applySecret secret _ =>
      secret.namespace_ = some defaultOperatorNamespace ∧
        secret.name =
          some (libs.cluster.managedCoordinationSecretName name)
  | .delete .. => False

theorem provisions_reconcileManaged (libs : ClusterLibs Backend Managed)
    (api : ManagedApi Backend Managed) (ans : ManagedAnswers)
    (obj : MCPGCluster Backend Managed) (name : String) :
    ∀ e ∈ (reconcileManaged libs api ans obj name).trace,
      Provisions libs api name e := by
  have hworkload : ∀ outcome,
      ∀ e ∈ (workloadStep api ans name outcome).trace,
        Provisions libs api name e := fun outcome =>
    ManagedPass.forall_write ⟨rfl, by simp [managedTeardown, childMeta,
        buildNatsConfigmap]⟩ fun _ =>
      ManagedPass.forall_write ⟨rfl, by simp [managedTeardown, childMeta,
          buildNatsHeadlessService]⟩ fun _ =>
        ManagedPass.forall_write ⟨rfl, by simp [managedTeardown, childMeta,
            buildNatsClientService]⟩ fun _ =>
          ManagedPass.forall_write ⟨rfl, by simp [managedTeardown,
              childMeta, buildNatsStatefulset]⟩ fun _ => nofun
  have hensure : ∀ ca (outcome : String → Int → ManagedOutcome),
      ∀ e ∈ (ensureCoordinationSecret libs api.envs ans name ca
          fun secretName => workloadStep api ans name
            (outcome secretName)).trace,
        Provisions libs api name e := by
    intro ca outcome
    unfold ensureCoordinationSecret
    dsimp only
    split
    · exact nofun
    · exact ManagedPass.forall_write ⟨rfl, rfl⟩ fun _ => hworkload _
  unfold reconcileManaged certificateStep
  refine List.forall_mem_append.mpr
    ⟨fun e he => ?_, ?_⟩
  · obtain ⟨evt, rfl⟩ := publish_of_mem_managedWarnings he
    trivial
  split
  · exact ManagedPass.forall_write ⟨rfl, by simp [managedTeardown,
      childMeta, buildNatsCertificate]⟩ fun _ => hensure _ _
  · exact hensure _ _

/-! ## The requests of a whole pass -/

/-- The writes to children of a pass of `reconcile_inner`, in order. -/
def childEffects (libs : ClusterLibs Backend Managed)
    (api : ManagedApi Backend Managed) (ans : ClusterAnswers)
    (mans : ManagedAnswers) (deletes : ManagedKind → String → Bool)
    (obj : MCPGCluster Backend Managed) : List ManagedEffect :=
  match obj.metadata.name with
  | none => []
  | some name =>
      if obj.metadata.deletionTimestamp.isSome then
        if obj.spec.managed.isSome then
          pruneManagedChildren libs api deletes name
        else []
      else
        match ensureFinalizer ans.addFinalizer obj.metadata with
        | .error _ => []
        | .ok _ =>
            if obj.spec.managed.isSome then
              (reconcileManaged libs api mans obj name).trace
            else []

/-- The pass, with its provisioning. -/
def reconcileWith (libs : ClusterLibs Backend Managed)
    (api : ManagedApi Backend Managed) (ans : ClusterAnswers)
    (mans : ManagedAnswers) (obj : MCPGCluster Backend Managed) : Pass :=
  reconcileInner libs
    { ans with
      reconcileManaged :=
        (reconcileManaged libs api mans obj
          obj.metadata.nameAny).result }
    obj

end McpgOperator.Cluster
