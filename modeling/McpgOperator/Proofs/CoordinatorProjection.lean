import McpgOperator.Proofs.FanIn
import McpgOperator.Proofs.RevocationMount

/-!
# The credentials of a managed coordinator

A gateway bound to a managed coordinator runs on the cluster's block, which
refers to a token and a key in a Secret. The pass reads that Secret where the
coordinator keeps it, copies it next to the gateway and names the copy in the
Deployment. A Secret that is not there, or has no data, is no error: the
pass goes on to the Deployment without it.
-/

namespace McpgOperator.Gateway

open McpgOperator.Kube McpgOperator.Templates McpgOperator.Cluster
  McpgOperator.PluginHold Json

variable {Backend Managed : Type}

/-! ## What a pass is to satisfy -/

/-- The cluster's block, as `classify_cluster_binding` renders it. -/
def managedBlock (libs : GatewayLibs Backend Managed) (obj : MCPGGateway)
    (cluster : MCPGCluster Backend Managed) : Json :=
  libs.cluster.renderClusterBlockWith cluster.spec
    (obj.spec.clusterRef.getD "") defaultOperatorNamespace

/-- The gateway's `clusterRef` resolves to a managed cluster, which has a
block. -/
structure BoundToManaged (libs : GatewayLibs Backend Managed)
    (ans : GatewayAnswers Backend Managed) (obj : MCPGGateway)
    (cluster : MCPGCluster Backend Managed) (name : String) : Prop where
  found : ∃ ref, obj.spec.clusterRef = some ref ∧
    ans.cluster.getCluster ref = .ok (some cluster)
  named : cluster.metadata.name = some name
  managed : cluster.spec.managed.isSome = true
  resolves : (classifyClusterBinding libs.render.gateway libs.cluster obj
    (some cluster)).condition.status = "True"
  renders : managedBlock libs obj cluster ≠ .null

/-- The Deployment is annotated with the hash of a config that contains the
block. -/
def RunsOn (libs : GatewayLibs Backend Managed) (block : Json)
    (dep : Deployment) : Prop :=
  ∃ config, config.get "cluster" = some block ∧
    dep.podAnnotations.lookup "mcpg.dev/config-hash" =
      some (libs.sha256Hex (libs.yamlToString config))

/-- The Deployment names the coordination Secret, and a copy of it was
applied with success in the gateway's namespace before. -/
structure Projected (ans : GatewayAnswers Backend Managed)
    (obj : MCPGGateway) (secretName : String) (before : List Effect)
    (dep : Deployment) : Prop where
  envFrom : secretName ∈ dep.envFrom.getD []
  copied : ∃ copy, .applyCoordinationSecret copy ∈ before ∧
    copy.name = some secretName ∧
    copy.namespace_ = obj.metadata.namespace_ ∧
    ∃ source, ans.cluster.getSecret secretName = .ok (some source) ∧
      copy.data = source.data
  landed : ans.applyCoordinationSecret = .ok ()

/-- Every Deployment that runs on the block has its credentials, and a pass
that is completed without one is held. -/
structure Projects (libs : GatewayLibs Backend Managed)
    (ans : GatewayAnswers Backend Managed) (obj : MCPGGateway)
    (cluster : MCPGCluster Backend Managed) (secretName : String)
    (p : Pass) : Prop where
  deployed : ∀ before dep after,
    p.trace = before ++ .applyDeployment dep :: after →
    RunsOn libs (managedBlock libs obj cluster) dep →
    Projected ans obj secretName before dep
  otherwise : p.result = .ok .applied → ∃ before dep after,
    p.trace = before ++ .applyDeployment dep :: after ∧
    RunsOn libs (managedBlock libs obj cluster) dep ∧
    Projected ans obj secretName before dep

/-- The source Secret is there, with data. -/
def SecretFound (ans : GatewayAnswers Backend Managed)
    (secretName : String) : Prop :=
  ∃ source data, ans.cluster.getSecret secretName = .ok (some source) ∧
    source.data = some data

/-! ## The annotation -/

/-- The hashes come after the author's annotations, the config's first. -/
theorem lookup_configHash (parent : MCPGGateway) (configHash : String)
    (pluginSetHash : Option String)
    (revocationList : Option RevocationListMount)
    (defaults : List (String × String)) :
    List.lookup "mcpg.dev/config-hash"
        (podAnnotations parent configHash pluginSetHash revocationList
          defaults) =
      some configHash := by
  unfold podAnnotations
  dsimp only
  rw [List.foldl_append, lookup_foldl_btreeInsert, List.foldl_append,
    lookup_foldl_btreeInsert, List.foldl_append]
  · exact lookup_btreeInsert_self _ _ _
  · intro e he
    obtain ⟨_, _, rfl⟩ := Option.map_eq_some_iff.mp
      (Option.mem_toList.mp he)
    simp
  · intro e he
    obtain ⟨_, _, rfl⟩ := Option.map_eq_some_iff.mp
      (Option.mem_toList.mp he)
    simp

/-! ## The pass -/

section Passes

variable {libs : GatewayLibs Backend Managed} {cfg : OperatorConfig}
  {ans : GatewayAnswers Backend Managed} {obj : MCPGGateway} {ns : String}
  {r : Resolved} {cluster : MCPGCluster Backend Managed} {name : String}

/-- Nothing writes over the block of a cluster. -/
theorem cluster_renderConfig (libs : RenderLibs) (cfg : OperatorConfig)
    (obj : MCPGGateway) (ns : String) {inputs : RenderInputs} {block : Json}
    (hblock : inputs.clusterBlock = some block) (hne : block ≠ .null) :
    (renderConfig libs cfg obj ns inputs).get "cluster" = some block := by
  rw [← getPath_singleton, renderConfig_eq,
    keeps_applyCloudDefaultPlugins cfg obj (by decide) (by decide)
      (by decide),
    keeps_injectCloudIdentity libs cfg obj (by decide) (by decide)
      (by decide),
    keeps_mergeServers _ _ _ _ (by decide),
    keeps_mergeRoutes _ _ _ _ (by decide), getPath_singleton]
  unfold referencesMerged mergeClusterBlock
  rw [hblock]
  dsimp only
  rw [if_neg hne]
  exact get_set_self _ _ _

/-- What the reference resolves to, with what the read of the Secret came
to. -/
theorem BoundToManaged.cluster_eq
    (h : BoundToManaged libs ans obj cluster name)
    (happlies : Applies libs ans obj ns r) :
    ∃ coordination,
      readCoordination libs.cluster ans.cluster (some cluster) =
        .ok coordination ∧
      r.cluster = some
        { classifyClusterBinding libs.render.gateway libs.cluster obj
            (some cluster) with
          coordination := coordination } := by
  obtain ⟨_, _, hcluster⟩ := of_resolveStep_ok happlies.resolved
  obtain ⟨ref, href, hget⟩ := h.found
  unfold resolveCluster at hcluster
  rw [href] at hcluster
  obtain ⟨found, hfound, hcluster⟩ := Except.of_bind_ok hcluster
  rw [hget] at hfound
  obtain rfl := Except.ok.inj hfound
  dsimp only at hcluster
  rw [if_pos h.resolves] at hcluster
  obtain ⟨coordination, hread, hcluster⟩ := Except.of_bind_ok hcluster
  exact ⟨coordination, hread, (Except.ok.inj hcluster).symm⟩

theorem BoundToManaged.clusterBlock_eq
    (h : BoundToManaged libs ans obj cluster name) :
    (classifyClusterBinding libs.render.gateway libs.cluster obj
      (some cluster)).clusterBlock = managedBlock libs obj cluster := by
  have hresolves := h.resolves
  unfold managedBlock
  unfold classifyClusterBinding at hresolves ⊢
  dsimp only at hresolves ⊢
  split at hresolves
  · exact absurd hresolves (by simp [ResolvedCluster.unresolved])
  next hready =>
  split at hresolves
  · exact absurd hresolves (by simp [ResolvedCluster.unresolved])
  next hcoordinates =>
  rw [if_neg hready, if_neg hcoordinates]

/-- The pass has a copy to apply where the Secret was found. -/
theorem BoundToManaged.copy_iff
    (h : BoundToManaged libs ans obj cluster name)
    (happlies : Applies libs ans obj ns r) {copy : Secret} :
    r.coordinationCopy obj ns = some copy ↔
      ∃ source data,
        ans.cluster.getSecret
            (libs.cluster.managedCoordinationSecretName name) =
          .ok (some source) ∧
        source.data = some data ∧
        copy = buildCoordinationSecretCopy obj ns
          { secretName := libs.cluster.managedCoordinationSecretName name
            data := data } := by
  obtain ⟨coordination, hread, hcluster⟩ := h.cluster_eq happlies
  have hcopy : r.coordinationCopy obj ns =
      coordination.map (buildCoordinationSecretCopy obj ns) := by
    unfold Resolved.coordinationCopy
    rw [hcluster]
    rfl
  unfold readCoordination at hread
  rw [Option.bind_some, if_pos h.managed, h.named] at hread
  dsimp only at hread
  rw [hcopy]
  cases hget : ans.cluster.getSecret
      (libs.cluster.managedCoordinationSecretName name) with
  | error e =>
      rw [hget] at hread
      cases hread
  | ok source =>
      rw [hget] at hread
      cases hread
      cases source with
      | none => simp
      | some source =>
          cases hdata : source.data with
          | none => simp [hdata]
          | some data =>
              simp only [Option.bind_some, hdata, Option.map_some,
                Except.ok.injEq, Option.some.injEq]
              constructor
              · rintro rfl
                exact ⟨source, data, rfl, hdata, rfl⟩
              · rintro ⟨source', data', rfl, hdata', rfl⟩
                rw [hdata] at hdata'
                obtain rfl := Option.some.inj hdata'
                rfl

theorem BoundToManaged.runsOn
    (h : BoundToManaged libs ans obj cluster name)
    (happlies : Applies libs ans obj ns r) {dep : Deployment}
    (hdep : .applyDeployment dep ∈
      (reconcileInner libs cfg ans obj).trace) :
    RunsOn libs (managedBlock libs obj cluster) dep := by
  obtain ⟨coordination, _, hcluster⟩ := h.cluster_eq happlies
  have hinputs : (r.inputs ans).clusterBlock =
      some (managedBlock libs obj cluster) := by
    unfold Resolved.inputs
    rw [hcluster, ← h.clusterBlock_eq]
    rfl
  obtain ⟨config, hconfig, rfl⟩ := happlies.carries_of_mem hdep
  refine ⟨config, ?_, lookup_configHash _ _ _ _ _⟩
  rw [hconfig]
  exact cluster_renderConfig libs.render cfg obj ns hinputs h.renders

/-- What goes before the Deployment in the trace of a pass. -/
theorem Applies.before_deployment (happlies : Applies libs ans obj ns r)
    {before after : List Effect} {dep : Deployment}
    (htrace : (reconcileInner libs cfg ans obj).trace =
      before ++ .applyDeployment dep :: after) :
    (∀ e ∈ (beforeDeployment libs cfg ans obj ns r).map (·.1),
      e ∈ before) ∧
      reachesDeployment ans obj ns r = true := by
  have hreaches : reachesDeployment ans obj ns r = true := by
    refine (deployment_mem_iff happlies cfg).mp ⟨dep, ?_⟩
    rw [htrace]
    exact List.mem_append_right _ List.mem_cons_self
  refine ⟨?_, hreaches⟩
  rw [happlies.pass cfg] at htrace
  unfold children at htrace
  dsimp only at htrace
  rw [applyInOrder_append_trace, all_beforeDeployment, if_pos hreaches]
    at htrace
  rcases List.append_eq_append_iff.mp htrace with
    ⟨mid, rfl, _⟩ | ⟨mid, heq, hrest⟩
  · exact fun e he => List.mem_append_left _ he
  · cases mid with
    | nil =>
        rw [List.append_nil] at heq
        rw [heq]
        exact fun e he => he
    | cons first mid =>
        obtain ⟨rfl, -⟩ := List.cons.inj hrest
        have hmem : .applyDeployment dep ∈
            (beforeDeployment libs cfg ans obj ns r).map (·.1) := by
          rw [heq]
          exact List.mem_append_right _ List.mem_cons_self
        exact absurd hmem (deployment_not_mem_beforeDeployment dep)

theorem BoundToManaged.projected_iff
    (h : BoundToManaged libs ans obj cluster name)
    (happlies : Applies libs ans obj ns r)
    {before after : List Effect} {dep : Deployment}
    (htrace : (reconcileInner libs cfg ans obj).trace =
      before ++ .applyDeployment dep :: after) :
    Projected ans obj (libs.cluster.managedCoordinationSecretName name)
        before dep ↔
      SecretFound ans
        (libs.cluster.managedCoordinationSecretName name) := by
  have hmem : ∀ e ∈ before, e ∈ (reconcileInner libs cfg ans obj).trace := by
    rw [htrace]
    exact fun e he => List.mem_append_left _ he
  constructor
  · intro hprojected
    obtain ⟨copy, hcopy, -⟩ := hprojected.copied
    obtain ⟨source, data, hget, hdata, -⟩ := (h.copy_iff happlies).mp
      (happlies.carries_of_mem (hmem _ hcopy))
    exact ⟨source, data, hget, hdata⟩
  · rintro ⟨source, data, hget, hdata⟩
    obtain ⟨hbefore, hreaches⟩ := happlies.before_deployment htrace
    obtain ⟨copy, hcopy, hname, hns, hsame⟩ : ∃ copy,
        r.coordinationCopy obj ns = some copy ∧
        copy.name =
          some (libs.cluster.managedCoordinationSecretName name) ∧
        copy.namespace_ = some ns ∧ copy.data = some data :=
      ⟨_, (h.copy_iff happlies).mpr ⟨source, data, hget, hdata, rfl⟩, rfl,
        rfl, rfl⟩
    have hdep : .applyDeployment dep ∈
        (reconcileInner libs cfg ans obj).trace := by
      rw [htrace]
      exact List.mem_append_right _ List.mem_cons_self
    refine ⟨?_, ⟨copy, hbefore _ ?_, hname, ?_, source, hget,
      hsame.trans hdata.symm⟩, ?_⟩
    · obtain ⟨config, _, rfl⟩ := happlies.carries_of_mem hdep
      show _ ∈ (buildEnvFrom obj
        ((r.coordinationCopy obj ns).bind (·.name)).toList).getD []
      rw [hcopy, Option.bind_some, hname]
      unfold buildEnvFrom
      rw [if_neg (by simp)]
      exact List.mem_append_right _ (List.mem_singleton_self _)
    · unfold beforeDeployment
      rw [hcopy]
      simp
    · exact hns.trans (namespace_of_passNamespace happlies.past).symm
    · unfold reachesDeployment at hreaches
      rw [hcopy] at hreaches
      cases hlanded : ans.applyCoordinationSecret with
      | ok _ => rfl
      | error e =>
          rw [hlanded] at hreaches
          simp [Except.isOk, Except.toBool] at hreaches

/-- Exactly the passes that come to the Deployment without the source
Secret leave the gateway without its credentials. -/
theorem projects_iff (h : BoundToManaged libs ans obj cluster name) :
    Projects libs ans obj cluster
        (libs.cluster.managedCoordinationSecretName name)
        (reconcileInner libs cfg ans obj) ↔
      ∀ found ∈ comesToApply libs ans obj,
        reachesDeployment ans obj found.1 found.2 = true →
        SecretFound ans
          (libs.cluster.managedCoordinationSecretName name) := by
  constructor
  · rintro hprojects ⟨ns, r⟩ hcomes hreaches
    have happlies := comesToApply_eq_some.mp hcomes
    obtain ⟨dep, hdep⟩ :=
      (deployment_mem_iff happlies cfg).mpr hreaches
    obtain ⟨before, after, htrace⟩ := List.append_of_mem hdep
    exact (h.projected_iff happlies htrace).mp
      (hprojects.deployed before dep after htrace (h.runsOn happlies hdep))
  · intro hfound
    have hprojected : ∀ before dep after,
        (reconcileInner libs cfg ans obj).trace =
          before ++ .applyDeployment dep :: after →
        RunsOn libs (managedBlock libs obj cluster) dep ∧
        Projected ans obj (libs.cluster.managedCoordinationSecretName name)
          before dep := by
      intro before dep after htrace
      have hdep : .applyDeployment dep ∈
          (reconcileInner libs cfg ans obj).trace := by
        rw [htrace]
        exact List.mem_append_right _ List.mem_cons_self
      obtain ⟨ns, r, happlies⟩ := applies_of_mem hdep rfl
      have hsecret := hfound _ (comesToApply_eq_some.mpr happlies)
        (happlies.before_deployment htrace).2
      exact ⟨h.runsOn happlies hdep,
        (h.projected_iff happlies htrace).mpr hsecret⟩
    refine ⟨fun before dep after htrace _ =>
      (hprojected before dep after htrace).2, fun hresult => ?_⟩
    obtain ⟨ns, r, happlies⟩ := applies_of_result hresult
    rw [happlies.pass cfg] at hresult
    have hall := all_of_applyInOrder_ok hresult
    unfold children at hall
    dsimp only at hall
    rw [List.all_append, all_beforeDeployment, Bool.and_eq_true] at hall
    obtain ⟨dep, hdep⟩ :=
      (deployment_mem_iff happlies cfg).mpr hall.1
    obtain ⟨before, after, htrace⟩ := List.append_of_mem hdep
    exact ⟨before, dep, after, htrace, hprojected before dep after htrace⟩

end Passes

namespace Sample

/-- A gateway that references the managed cluster. -/
def clustered : MCPGGateway :=
  { metadata :=
      { name := some "edge", namespace_ := some "payments"
        finalizers := some [operatorFinalizer] }
    spec :=
      { image := { tag := some "0.1.0-beta.60" }, config := .obj []
        clusterRef := some "shared" } }

/-- The cluster, Ready with its managed coordinator. -/
def shared : MCPGCluster String Unit :=
  { metadata := { name := some "shared" }
    spec := { backend := "nats", managed := some (), pluginRef := none }
    status := some
      { conditions :=
          [{ type := CType.ready, status := "True", reason := "Reconciled"
             message := "", observedGeneration := some 1 }] } }

/-- The answers of an apiserver that has the cluster, and this in place of
its coordination Secret. -/
def answersWith (secret : Option Secret) : GatewayAnswers String Unit :=
  { answers with
    cluster :=
      { getCluster := fun _ => .ok (some shared)
        getSecret := fun _ => .ok secret } }

def coordinationSecret : Secret :=
  { name := some "shared-coordination", namespace_ := some "mcpg-system"
    data := some [("NATS_TOKEN", []), ("STATE_ENCRYPTION_KEY", [])] }

end Sample

theorem boundToManaged_clustered (secret : Option Secret) :
    BoundToManaged Sample.libs (Sample.answersWith secret) Sample.clustered
      Sample.shared "shared" where
  found := ⟨"shared", rfl, rfl⟩
  named := rfl
  managed := rfl
  resolves := by decide
  renders := by decide

theorem projects_clustered :
    Projects Sample.libs
      (Sample.answersWith (some Sample.coordinationSecret)) Sample.clustered
      Sample.shared "shared-coordination"
      (reconcileInner Sample.libs Sample.cfg
        (Sample.answersWith (some Sample.coordinationSecret))
        Sample.clustered) :=
  (projects_iff (boundToManaged_clustered _)).mpr
    fun _ _ _ => ⟨_, _, rfl, rfl⟩

/-- The Secret is not there yet, and the pass goes on to the end. -/
theorem not_projects_without_secret :
    ¬ Projects Sample.libs (Sample.answersWith none) Sample.clustered
      Sample.shared "shared-coordination"
      (reconcileInner Sample.libs Sample.cfg (Sample.answersWith none)
        Sample.clustered) := by
  intro h
  have hended : (reconcileInner Sample.libs Sample.cfg
      (Sample.answersWith none) Sample.clustered).result = .ok .applied := by
    decide +kernel
  obtain ⟨_, _, _, _, _, hprojected⟩ := h.otherwise hended
  obtain ⟨_, _, _, _, _, hsource, _⟩ := hprojected.copied
  cases hsource

end McpgOperator.Gateway
