import McpgOperator.Cluster.Reconcile
import McpgOperator.Gateway.ClusterBinding
import McpgOperator.Lib.Verdict
import McpgOperator.PluginSet.Resolve
import McpgOperator.Proofs.TrustGate

/-!
# Which generation a Ready=True is about

Plugins and clusters are judged by their own controllers and read, spec and
status in one GET, by others: plugin sets and clusters read plugins, gateways
read clusters. The verdict in the status is about the generation its
condition records; the spec next to it may be newer.

Both kinds are instances of the library's owner. A plugin pass judges with
its success status, the one write that names a Secret, and carries the old
verdict over in `record_pulling`. A cluster pass judges in every write.
-/

namespace McpgOperator.Generation

open McpgOperator.Kube McpgOperator.Plugin Transition Verdict

/-! ## Claims of a list of conditions -/

/-- The generations the Ready=True conditions record. -/
def readyGenerations (cs : List Condition) : List (Option Int) :=
  (cs.filter fun c => c.type == CType.ready && c.status == "True").map
    (·.observedGeneration)

theorem mem_readyGenerations {cs : List Condition} {g : Option Int} :
    g ∈ readyGenerations cs ↔
      ∃ c ∈ cs, c.type = CType.ready ∧ c.status = "True" ∧
        c.observedGeneration = g := by
  simp [readyGenerations, and_assoc]

theorem readyGenerations_ne_nil {cs : List Condition} :
    readyGenerations cs ≠ [] ↔ readyTrue cs = true := by
  simp [readyGenerations, readyTrue]

/-- Setting Ready: the claims are those of the new condition. -/
theorem mem_readyGenerations_set {api : ConditionsApi}
    {cs : List Condition} {c : Condition} (hc : c.type = CType.ready)
    {g : Option Int} (h : g ∈ readyGenerations (api.setCondition cs c)) :
    c.status = "True" ∧ g = c.observedGeneration := by
  obtain ⟨c', hmem, htype, hstatus, rfl⟩ := mem_readyGenerations.mp h
  rcases (api.mem_setCondition cs c c').mp hmem with rfl | ⟨_, hne⟩
  · exact ⟨hstatus, rfl⟩
  · exact absurd (htype.trans hc.symm) hne

theorem mem_readyGenerations_set_other {api : ConditionsApi}
    {cs : List Condition} {c : Condition} (hc : c.type ≠ CType.ready)
    {g : Option Int} (h : g ∈ readyGenerations (api.setCondition cs c)) :
    g ∈ readyGenerations cs := by
  obtain ⟨c', hmem, htype, hstatus, rfl⟩ := mem_readyGenerations.mp h
  rcases (api.mem_setCondition cs c c').mp hmem with rfl | ⟨hold, _⟩
  · exact absurd htype hc
  · exact mem_readyGenerations.mpr ⟨c', hold, htype, hstatus, rfl⟩

/-! ## Plugins -/

section Plugins

variable (libs : PluginLibs)

/-- The plugin of a view, under the rest of its metadata. -/
def pluginAt (v : View MCPGPluginSpec MCPGPluginStatus) (m : ObjectMeta) :
    MCPGPlugin :=
  { metadata := { m with generation := some v.generation }
    spec := v.spec
    status := v.status }

/-- What a pass is started with besides the view: the rest of the metadata,
and the answers to its calls. -/
abbrev PluginPassAnswers := ObjectMeta × PluginAnswers

/-- The readers of a plugin's verdict: a plugin set's entry, and the clusters
that pin the plugin. -/
inductive PluginReader
  | set (entry : PluginSet.MCPGPluginSetEntry)
  | cluster

def PluginReader.accepts : PluginReader →
    View MCPGPluginSpec MCPGPluginStatus → Bool
  | .set entry, v =>
      (PluginSet.resolveEntry
        (.ok (some (pluginAt v { name := some entry.pluginRef })))
        entry).isOk
  | .cluster, v => Cluster.pluginIsReady (pluginAt v { name := none })

/-- The status writes of a pass. Of its writers only the last one names a
Secret, and only it judges. -/
def pluginWrite : Effect → Option (Write MCPGPluginStatus)
  | .patchStatus status landed =>
      some
        { status := status, landed := landed
          judged := status.artefactSecretName.isSome }
  | _ => none

/-- The pass gets as far as `record_pulling`. -/
def reachesPulling (ans : PluginAnswers) (m : ObjectMeta) : Prop :=
  m.name.isSome ∧ m.deletionTimestamp = none ∧
    (ensureFinalizer ans.addFinalizer m).isOk

instance (ans : PluginAnswers) (m : ObjectMeta) :
    Decidable (reachesPulling ans m) :=
  inferInstanceAs (Decidable (_ ∧ _ ∧ _))

variable {libs} {ans : PluginAnswers} {obj : MCPGPlugin}

theorem reachesPulling_of_patch {status : MCPGPluginStatus} {landed : Bool}
    (h : .patchStatus status landed ∈ (reconcileInner libs ans obj).trace) :
    reachesPulling ans obj.metadata := by
  simp only [reconcileInner] at h
  split at h
  · cases h
  · next name hname =>
      split at h
      · split at h <;> cases h
      · next hlive =>
          split at h
          · cases h
          · next hfin =>
              refine ⟨by rw [hname]; rfl, ?_, by rw [hfin]; rfl⟩
              simpa using hlive

theorem patch_cases {status : MCPGPluginStatus} {landed : Bool}
    (h : .patchStatus status landed ∈ (reconcileInner libs ans obj).trace) :
    status = pullingStatus libs ans obj obj.observedGeneration ∨
      Failed obj status ∨
      ∃ artefact result cosign slsa s,
        TrustGates libs ans obj artefact result.artifactHash ∧
        status = successStatus libs ans obj.observedGeneration result cosign
          slsa s := by
  obtain ⟨pre, post, htrace⟩ := List.append_of_mem h
  rcases sound_reconcileInner pre status landed post htrace with
    hpulling | hfailed |
      ⟨artefact, result, cosign, slsa, s, hgates, _, hstatus⟩
  · exact .inl hpulling
  · exact .inr (.inl hfailed)
  · exact .inr (.inr ⟨artefact, result, cosign, slsa, s, hgates, hstatus⟩)

theorem failed_no_claims {status : MCPGPluginStatus}
    (h : Failed obj status) : readyGenerations status.conditions = [] := by
  by_contra hne
  have hready := readyGenerations_ne_nil.mp hne
  rw [h.notReady] at hready
  cases hready

/-- The claims of a success status are about its own generation. -/
theorem successConditions_claims {api : ConditionsApi} {generation : Int}
    {g : Option Int}
    (h : g ∈ readyGenerations (successConditions api generation)) :
    g = some generation := by
  simp only [successConditions, ConditionsApi.setAll, List.foldl_cons,
    List.foldl_nil] at h
  exact (mem_readyGenerations_set rfl h).2

theorem mem_pluginWrites {w : Write MCPGPluginStatus}
    (h : w ∈ (reconcileInner libs ans obj).trace.filterMap pluginWrite) :
    .patchStatus w.status w.landed ∈ (reconcileInner libs ans obj).trace ∧
      w.judged = w.status.artefactSecretName.isSome := by
  obtain ⟨e, hmem, he⟩ := List.mem_filterMap.mp h
  cases e <;> simp only [pluginWrite, Option.some.injEq, reduceCtorEq] at he
  subst he
  exact ⟨hmem, rfl⟩

theorem accepts_ready {r : PluginReader}
    {v : View MCPGPluginSpec MCPGPluginStatus} (h : r.accepts v = true) :
    claimsOf (fun s => readyGenerations s.conditions) v.status ≠ [] := by
  have hready : ∃ st, v.status = some st ∧
      readyTrue st.conditions = true := by
    cases r with
    | set entry =>
        simp only [PluginReader.accepts] at h
        cases hres : PluginSet.resolveEntry
            (.ok (some (pluginAt v { name := some entry.pluginRef })))
            entry with
        | error e =>
            rw [hres] at h
            cases h
        | ok resolved =>
            have htrue := (PluginSet.resolveEntry_ok_iff.mp hres).2.2.1
            simp only [PluginSet.ready, pluginAt] at htrue
            cases hst : v.status with
            | none =>
                rw [hst] at htrue
                cases htrue
            | some st =>
                rw [hst] at htrue
                exact ⟨st, rfl, htrue⟩
    | cluster =>
        simp only [PluginReader.accepts, Cluster.pluginIsReady,
          pluginAt] at h
        split at h
        · cases h
        · next st hst =>
            split at h
            · cases h
            · exact ⟨st, hst, h⟩
  obtain ⟨st, hst, htrue⟩ := hready
  rw [hst]
  exact readyGenerations_ne_nil.mpr htrue

variable (libs)

/-- The plugin controller as an owner of verdicts. -/
def pluginOwner : Owner MCPGPluginSpec MCPGPluginStatus PluginPassAnswers
    PluginReader where
  claims status := readyGenerations status.conditions
  stamped := MCPGPluginStatus.observedGeneration
  pass v a :=
    (reconcileInner libs a.2 (pluginAt v a.1)).trace.filterMap pluginWrite
  Carries _ a := reachesPulling a.2 a.1
  Judged v a := ∃ artefact digest,
    TrustGates libs a.2 (pluginAt v a.1) artefact digest
  accepts := PluginReader.accepts
  stamped_pass v a w hw := by
    obtain ⟨hpatch, _⟩ := mem_pluginWrites hw
    rcases patch_cases hpatch with hs | hfailed | ⟨_, _, _, _, _, _, hs⟩
    · rw [hs]
      rfl
    · exact hfailed.observed
    · rw [hs]
      rfl
  judged_pass v a w hw hjudged c hc := by
    obtain ⟨hpatch, hflag⟩ := mem_pluginWrites hw
    rcases patch_cases hpatch with
      hs | hfailed | ⟨artefact, result, _, _, _, hgates, hs⟩
    · rw [hflag, hs] at hjudged
      cases hjudged
    · rw [failed_no_claims hfailed] at hc
      cases hc
    · rw [hs] at hc
      exact ⟨successConditions_claims hc, artefact, _, hgates⟩
  carried_pass v a w hw hcarried := by
    obtain ⟨hpatch, hflag⟩ := mem_pluginWrites hw
    refine ⟨reachesPulling_of_patch hpatch, fun c hc => ?_⟩
    rcases patch_cases hpatch with
      hs | hfailed | ⟨_, _, _, _, _, _, hs⟩
    · rw [hs] at hc
      have hold := mem_readyGenerations_set_other
        (show CType.progressing ≠ CType.ready by decide) hc
      cases hst : v.status with
      | none => simp [MCPGPlugin.carriedConditions, pluginAt, hst,
          readyGenerations] at hold
      | some st => simpa [MCPGPlugin.carriedConditions, pluginAt, hst,
          claimsOf] using hold
    · rw [failed_no_claims hfailed] at hc
      cases hc
    · rw [hflag, hs] at hcarried
      cases hcarried
  claims_accepts r v h := accepts_ready h

end Plugins

/-! ## Clusters -/

section Clusters

open McpgOperator.Cluster McpgOperator.Gateway

variable {Backend Managed : Type}

abbrev ClusterView (Backend Managed : Type) :=
  View (MCPGClusterSpec Backend Managed) MCPGClusterStatus

/-- The cluster of a view, under the rest of its metadata. -/
def clusterAt (v : ClusterView Backend Managed) (m : ObjectMeta) :
    MCPGCluster Backend Managed :=
  { metadata := { m with generation := some v.generation }
    spec := v.spec
    status := v.status }

/-- What a pass is started with besides the view: the rest of the metadata,
and the answers to its calls. -/
abbrev ClusterPassAnswers := ObjectMeta × ClusterAnswers

/-- Every status write of a cluster pass holds a fresh verdict. -/
def clusterWrite : Cluster.Effect → Option (Write MCPGClusterStatus)
  | .patchStatus status landed =>
      some { status := status, landed := landed, judged := true }
  | .publish _ => none

/-- The pass found the cluster bindable. -/
def Bindable (libs : ClusterLibs Backend Managed) (ans : ClusterAnswers)
    (obj : MCPGCluster Backend Managed) : Prop :=
  ∃ managed verdict, managedOutcome ans obj = .ok managed ∧
    classifyReadiness libs ans obj
      (libs.cluster.effectiveBackend obj.spec) managed = .ok verdict ∧
    verdict.ready = true

variable {libs : ClusterLibs Backend Managed} {ans : ClusterAnswers}
  {obj : MCPGCluster Backend Managed}

theorem clusterPatch_cases {status : MCPGClusterStatus} {landed : Bool}
    (h : .patchStatus status landed ∈
      (Cluster.reconcileInner libs ans obj).trace) :
    ∃ name managed verdict boundGateways,
      managedOutcome ans obj = .ok managed ∧
      classifyReadiness libs ans obj
        (libs.cluster.effectiveBackend obj.spec) managed = .ok verdict ∧
      status = verdictStatus libs ans obj name
        (obj.metadata.generation.getD 0) managed verdict boundGateways := by
  simp only [Cluster.reconcileInner] at h
  split at h
  · cases h
  · next name hname =>
      split at h
      · split at h <;> cases h
      · split at h
        · cases h
        · simp only [judgeStep] at h
          split at h
          · cases h
          · next managed hmanaged =>
              split at h
              · cases h
              · next verdict hverdict =>
                  split at h
                  · cases h
                  · next boundGateways _ =>
                      refine ⟨name, managed, verdict, boundGateways,
                        hmanaged, hverdict, ?_⟩
                      simp only [reportVerdict] at h
                      split at h <;> simpa using And.left (by simpa using h)

theorem mem_clusterWrites {w : Write MCPGClusterStatus}
    (h : w ∈ (Cluster.reconcileInner libs ans obj).trace.filterMap
      clusterWrite) :
    .patchStatus w.status w.landed ∈
        (Cluster.reconcileInner libs ans obj).trace ∧
      w.judged = true := by
  obtain ⟨e, hmem, he⟩ := List.mem_filterMap.mp h
  cases e <;> simp only [clusterWrite, Option.some.injEq, reduceCtorEq] at he
  subst he
  exact ⟨hmem, rfl⟩

/-- A gateway renders the block of a cluster only if its status says
Ready. -/
theorem binding_ready {gatewayApi : GatewayApi}
    {clusterApi : ClusterApi Backend Managed} {gw : MCPGGateway}
    {cluster : MCPGCluster Backend Managed}
    (h : (classifyClusterBinding gatewayApi clusterApi gw
      (some cluster)).condition.status = "True") :
    ∃ st, cluster.status = some st ∧ readyTrue st.conditions = true := by
  simp only [classifyClusterBinding] at h
  split at h
  · simp [ResolvedCluster.unresolved] at h
  · next hready =>
      cases hst : cluster.status with
      | none => simp [hst] at hready
      | some st =>
          rw [hst] at hready
          exact ⟨st, rfl, by simpa using hready⟩

/-- The cluster controller as an owner of verdicts; the readers are
gateways. -/
def clusterOwner (gatewayApi : GatewayApi)
    (libs : ClusterLibs Backend Managed) :
    Owner (MCPGClusterSpec Backend Managed) MCPGClusterStatus
      ClusterPassAnswers MCPGGateway where
  claims status := readyGenerations status.conditions
  stamped := MCPGClusterStatus.observedGeneration
  pass v a :=
    (Cluster.reconcileInner libs a.2 (clusterAt v a.1)).trace.filterMap
      clusterWrite
  Carries _ _ := False
  Judged v a := Bindable libs a.2 (clusterAt v a.1)
  accepts gw v :=
    (classifyClusterBinding gatewayApi libs.cluster gw
      (some (clusterAt v { name := gw.spec.clusterRef }))).condition.status
      == "True"
  stamped_pass v a w hw := by
    obtain ⟨_, _, _, _, _, _, hs⟩ :=
      clusterPatch_cases (mem_clusterWrites hw).1
    rw [hs]
    rfl
  judged_pass v a w hw _ c hc := by
    obtain ⟨name, managed, verdict, _, hmanaged, hverdict, hs⟩ :=
      clusterPatch_cases (mem_clusterWrites hw).1
    rw [hs] at hc
    obtain ⟨htrue, hgen⟩ := mem_readyGenerations_set rfl hc
    refine ⟨hgen, managed, verdict, hmanaged, hverdict, ?_⟩
    by_contra hfalse
    simp [hfalse] at htrue
  carried_pass v a w hw hcarried := by
    rw [(mem_clusterWrites hw).2] at hcarried
    cases hcarried
  claims_accepts gw v h := by
    obtain ⟨st, hst, htrue⟩ := binding_ready (by simpa using h)
    have hst' : v.status = some st := hst
    rw [hst']
    exact readyGenerations_ne_nil.mpr htrue

end Clusters

/-! ## The two controllers -/

/-- Take any run of a plugin or a cluster, with edits of its spec, passes of
its controller in any number of processes and readers in between, in which a
reader accepts it, and a plugin pass goes on to `record_pulling` with it,
only while its Ready=True conditions record its own generation. Then every
reader that accepted relied on a judgement of the generation and spec it
read, and no status with Ready=True was written under a generation the gates
have not passed. -/
theorem verdicts_exact {ρ : Type} [DecidableEq ρ] {Backend Managed : Type}
    (pluginLibs : PluginLibs) (gatewayApi : Gateway.GatewayApi)
    (clusterLibs : Cluster.ClusterLibs Backend Managed) :
    (∀ s : State _ _ _ ρ,
      Reachable (system (pluginOwner pluginLibs))
        (CurrentReads (pluginOwner pluginLibs)) s →
      Exact (pluginOwner pluginLibs) s) ∧
    (∀ s : State _ _ _ ρ,
      Reachable (system (clusterOwner gatewayApi clusterLibs))
        (CurrentReads (clusterOwner gatewayApi clusterLibs)) s →
      Exact (clusterOwner gatewayApi clusterLibs) s) :=
  ⟨fun _ => exact_of_fresh, fun _ => exact_of_fresh⟩

/-! ## Runs of one object

The plugin is the one of the trust-gate sample; the cluster is bound to a
plugin that is Ready, and then to one that does not exist. -/

namespace Sample

open McpgOperator.Cluster McpgOperator.Gateway

instance (libs : PluginLibs) (v : View MCPGPluginSpec MCPGPluginStatus)
    (a : PluginPassAnswers) :
    Decidable ((pluginOwner libs).Carries v a) :=
  inferInstanceAs (Decidable (reachesPulling a.2 a.1))

instance {Backend Managed : Type} (gatewayApi : GatewayApi)
    (libs : ClusterLibs Backend Managed) (v : ClusterView Backend Managed)
    (a : ClusterPassAnswers) :
    Decidable ((clusterOwner gatewayApi libs).Carries v a) :=
  inferInstanceAs (Decidable False)

/-- A stored object nobody has looked at yet. -/
def untouched {Spec Status Answers : Type*} (generation : Int)
    (spec : Spec) : State Spec Status Answers Unit :=
  let stored :=
    { view := { generation := generation, spec := spec, status := none }
      origin := none }
  { stored := stored, cache := fun _ => stored, running := fun _ => none
    judgements := [], written := [], accepted := [] }

theorem untouched_fresh {Spec Status Answers : Type*} (generation : Int)
    (spec : Spec) :
    Fresh (untouched generation spec : State Spec Status Answers Unit) where
  status := rfl
  cache _ := rfl
  running _ := rfl
  judgements := rfl
  written := rfl
  accepted := rfl

/-! ### A plugin -/

def pluginMeta : ObjectMeta :=
  { name := some "workload", finalizers := some [operatorFinalizer] }

def pluginStart : State MCPGPluginSpec MCPGPluginStatus PluginPassAnswers
    Unit :=
  untouched 3 Plugin.Sample.plugin.spec

/-- A whole pass, then a set takes the plugin. -/
def pluginJudged : List (Action MCPGPluginSpec PluginPassAnswers
    PluginReader Unit) :=
  [.start () (pluginMeta, Plugin.Sample.answers), .write (), .write (),
    .consume (.set
      { id := "workload", pluginRef := "workload", enabled := true
        config := none })]

/-- A whole pass; the version is edited; the next pass starts. -/
def pluginEdited : List (Action MCPGPluginSpec PluginPassAnswers
    PluginReader Unit) :=
  [.start () (pluginMeta, Plugin.Sample.answers), .write (), .write (),
    .stop (), .edit { Plugin.Sample.plugin.spec with version := "2.0.0" },
    .sync (), .start () (pluginMeta, Plugin.Sample.answers), .write ()]

/-! ### A cluster -/

def gatewayApi : GatewayApi where
  effectiveReplicaCeiling spec := (spec.replicas, "spec.replicas")
  gatewayNamespace spec ns := spec.gatewayRefNamespace.getD ns

/-- A backend is its kind. -/
def clusterLibs : ClusterLibs String Unit where
  api := upsertConditions
  cluster :=
    { effectiveBackend := fun spec => spec.backend
      isEffectivelySingleNode := fun spec =>
        spec.managed.isNone && spec.backend == "single_node"
      renderClusterBlockWith := fun spec _ _ =>
        .obj [("kind", .str spec.backend)]
      pluginId := fun backend => some ("dev.mcpg.cluster." ++ backend)
      configKind := fun backend => backend
      isSingleNode := fun backend => backend == "single_node"
      managedCoordinationSecretName := fun name => name ++ "-coordination" }
  blockHash _ := "hash"

/-- Redis, through a plugin its own controller has judged. -/
def judgedSpec : MCPGClusterSpec String Unit :=
  { backend := "redis", managed := none, pluginRef := some "cluster-redis" }

/-- NATS, through a plugin that does not exist. -/
def unjudgedSpec : MCPGClusterSpec String Unit :=
  { backend := "nats", managed := none, pluginRef := some "cluster-nats" }

def clusterAnswers : ClusterAnswers where
  addFinalizer := .ok ()
  removeFinalizer := .ok ()
  reconcileManaged := .error .missingName
  getPlugin name :=
    if name = "cluster-redis" then
      .ok (some
        { Plugin.Sample.plugin with status := some Plugin.Sample.success })
    else .ok none
  listGateways := .ok []
  statusLands := true
  resyncSecs := 300
  now := 0

def clusterMeta : ObjectMeta :=
  { name := some "prod", finalizers := some [operatorFinalizer] }

def gateway : MCPGGateway :=
  { metadata := { name := some "edge", namespace_ := some "payments" }
    spec := { replicas := 2, clusterRef := some "prod" } }

def clusterStart : State (MCPGClusterSpec String Unit) MCPGClusterStatus
    ClusterPassAnswers Unit :=
  untouched 1 judgedSpec

/-- A whole pass, then the gateway binds the cluster. -/
def clusterJudged : List (Action (MCPGClusterSpec String Unit)
    ClusterPassAnswers MCPGGateway Unit) :=
  [.start () (clusterMeta, clusterAnswers), .write (), .consume gateway]

/-- A whole pass; the backend is edited; the gateway binds the cluster. -/
def clusterEdited : List (Action (MCPGClusterSpec String Unit)
    ClusterPassAnswers MCPGGateway Unit) :=
  [.start () (clusterMeta, clusterAnswers), .write (), .edit unjudgedSpec,
    .consume gateway]

end Sample

open Sample

/-- Runs with a reader that accepts, for each kind. -/
theorem exact_judged :
    (∃ s, (system (pluginOwner Plugin.Sample.libs)).checkedRun
        (CurrentReads (pluginOwner Plugin.Sample.libs)) pluginStart
        pluginJudged = some s ∧
      s.accepted.length = 1 ∧ Exact (pluginOwner Plugin.Sample.libs) s) ∧
    (∃ s, (system (clusterOwner gatewayApi clusterLibs)).checkedRun
        (CurrentReads (clusterOwner gatewayApi clusterLibs)) clusterStart
        clusterJudged = some s ∧
      s.accepted.length = 1 ∧
      Exact (clusterOwner gatewayApi clusterLibs) s) := by
  have hplugin : ((system (pluginOwner Plugin.Sample.libs)).checkedRun
      (CurrentReads (pluginOwner Plugin.Sample.libs)) pluginStart
      pluginJudged).map (·.accepted.length) = some 1 := by
    decide +kernel
  have hcluster : ((system (clusterOwner gatewayApi clusterLibs)).checkedRun
      (CurrentReads (clusterOwner gatewayApi clusterLibs)) clusterStart
      clusterJudged).map (·.accepted.length) = some 1 := by
    decide +kernel
  obtain ⟨s, hs, hlen⟩ := Option.map_eq_some_iff.mp hplugin
  obtain ⟨t, ht, hlen'⟩ := Option.map_eq_some_iff.mp hcluster
  have hexact := verdicts_exact (ρ := Unit) Plugin.Sample.libs gatewayApi
    clusterLibs
  exact
    ⟨⟨s, hs, hlen,
      hexact.1 s (.of_checkedRun (.init (untouched_fresh _ _)) hs)⟩,
    ⟨t, ht, hlen',
      hexact.2 t (.of_checkedRun (.init (untouched_fresh _ _)) ht)⟩⟩

/-- Without the restriction: `record_pulling` stamps the carried Ready=True
with the new generation, and a gateway is pointed at a backend nobody has
judged. -/
theorem not_exact_edited :
    (¬ ∀ s : State _ _ _ Unit,
      Reachable (system (pluginOwner Plugin.Sample.libs)) anyStep s →
      Exact (pluginOwner Plugin.Sample.libs) s) ∧
    (¬ ∀ s : State _ _ _ Unit,
      Reachable (system (clusterOwner gatewayApi clusterLibs)) anyStep s →
      Exact (clusterOwner gatewayApi clusterLibs) s) := by
  have hplugin : ((system (pluginOwner Plugin.Sample.libs)).run
      pluginStart pluginEdited).map
        (generationsExact (pluginOwner Plugin.Sample.libs)) =
      some false := by
    decide +kernel
  have hcluster : ((system (clusterOwner gatewayApi clusterLibs)).run
      clusterStart clusterEdited).map
        (generationsExact (clusterOwner gatewayApi clusterLibs)) =
      some false := by
    decide +kernel
  obtain ⟨s, hs, hfalse⟩ := Option.map_eq_some_iff.mp hplugin
  obtain ⟨t, ht, hfalse'⟩ := Option.map_eq_some_iff.mp hcluster
  refine ⟨fun h => ?_, fun h => ?_⟩
  · have hexact := h s (.of_run (.init (untouched_fresh _ _))
      (System.permitted_anyStep ..) hs)
    rw [hexact.generations] at hfalse
    cases hfalse
  · have hexact := h t (.of_run (.init (untouched_fresh _ _))
      (System.permitted_anyStep ..) ht)
    rw [hexact.generations] at hfalse'
    cases hfalse'

end McpgOperator.Generation
