import McpgOperator.Gateway.Reconcile
import McpgOperator.Lib.Except

/-!
# What a gateway pass applies

A pass that applies any child at all resolved its references, was not held,
and applied the ConfigMap first. The effects of each kind are then those
`children` lists.
-/

namespace McpgOperator.Gateway

open McpgOperator.Kube McpgOperator.Templates McpgOperator.Cluster

/-! ## Applying in order -/

theorem applyInOrder_trace_initial
    (applies : List (Effect × Except KubeError Unit)) :
    (applyInOrder applies).trace <+: applies.map (·.1) := by
  induction applies with
  | nil => exact List.prefix_rfl
  | cons a rest ih =>
      obtain ⟨e, answer⟩ := a
      cases answer with
      | error x => exact ⟨rest.map (·.1), rfl⟩
      | ok _ => exact List.cons_prefix_cons.mpr ⟨rfl, ih⟩

/-- The first apply is issued, whatever it answers. -/
theorem head_mem_applyInOrder (e : Effect) (answer : Except KubeError Unit)
    (rest : List (Effect × Except KubeError Unit)) :
    e ∈ (applyInOrder ((e, answer) :: rest)).trace := by
  cases answer with
  | error x => exact List.mem_singleton_self e
  | ok _ => exact List.mem_cons_self

theorem applyInOrder_append_trace
    (before after : List (Effect × Except KubeError Unit)) :
    (applyInOrder (before ++ after)).trace =
      if before.all fun a => a.2.isOk then
        before.map (·.1) ++ (applyInOrder after).trace
      else (applyInOrder before).trace := by
  induction before with
  | nil => rfl
  | cons a before ih =>
      obtain ⟨e, answer⟩ := a
      cases answer with
      | error x => rfl
      | ok _ =>
          have htrace : (applyInOrder ((e, .ok ()) :: before ++ after)).trace =
              e :: (applyInOrder (before ++ after)).trace := rfl
          rw [htrace, ih]
          by_cases hall : before.all fun a => a.2.isOk
          · rw [if_pos hall, if_pos]
            · rfl
            · exact hall
          · rw [if_neg hall, if_neg]
            · rfl
            · exact hall

/-- A run of applies that ends well had every apply succeed. -/
theorem all_of_applyInOrder_ok
    {applies : List (Effect × Except KubeError Unit)} {ended : Ended}
    (h : (applyInOrder applies).result = .ok ended) :
    applies.all (fun a => a.2.isOk) = true := by
  induction applies with
  | nil => rfl
  | cons a rest ih =>
      obtain ⟨e, answer⟩ := a
      cases answer with
      | error x => cases h
      | ok _ => exact ih h

/-- And it issued them all. -/
theorem trace_of_applyInOrder_ok
    {applies : List (Effect × Except KubeError Unit)} {ended : Ended}
    (h : (applyInOrder applies).result = .ok ended) :
    (applyInOrder applies).trace = applies.map (·.1) := by
  induction applies with
  | nil => rfl
  | cons a rest ih =>
      obtain ⟨e, answer⟩ := a
      cases answer with
      | error x => cases h
      | ok _ => exact congrArg (e :: ·) (ih h)

/-! ## A pass that applies -/

/-- Neither of the two effects of a held pass. -/
def Effect.isApply : Effect → Bool
  | .patchStatus _ => false
  | .publish _ => false
  | _ => true

section Passes

variable {Backend Managed : Type} {libs : GatewayLibs Backend Managed}
  {cfg : OperatorConfig} {ans : GatewayAnswers Backend Managed}
  {obj : MCPGGateway} {ns : String} {r : Resolved}

/-- The namespace of a pass that comes to the resolvers. -/
def passNamespace (ans : GatewayAnswers Backend Managed)
    (obj : MCPGGateway) : Option String :=
  match obj.metadata.namespace_ with
  | none => none
  | some ns =>
      if obj.metadata.name.isNone then none
      else if obj.metadata.deletionTimestamp.isSome then none
      else
        match ensureFinalizer ans.addFinalizer obj.metadata with
        | .error _ => none
        | .ok _ => some ns

theorem namespace_of_passNamespace (h : passNamespace ans obj = some ns) :
    obj.metadata.namespace_ = some ns := by
  unfold passNamespace at h
  cases hns : obj.metadata.namespace_ with
  | none =>
      rw [hns] at h
      cases h
  | some ns' =>
      rw [hns] at h
      dsimp only at h
      split at h
      · cases h
      · split at h
        · cases h
        · split at h
          · cases h
          · exact h

/-- A pass that does not come to the resolvers fails, or ends a deletion. -/
theorem reconcileInner_of_passNamespace_none
    (h : passNamespace ans obj = none) :
    (∃ e, reconcileInner libs cfg ans obj = .fail e) ∨
      obj.metadata.deletionTimestamp.isSome = true ∧
        reconcileInner libs cfg ans obj =
          { trace := [], result := .ok .deleted } := by
  unfold passNamespace at h
  unfold reconcileInner
  cases hns : obj.metadata.namespace_ with
  | none => exact .inl ⟨_, rfl⟩
  | some ns =>
      rw [hns] at h
      dsimp only at h ⊢
      by_cases hname : obj.metadata.name.isNone = true
      · rw [if_pos hname]
        exact .inl ⟨_, rfl⟩
      rw [if_neg hname] at h ⊢
      by_cases hdeleted : obj.metadata.deletionTimestamp.isSome = true
      · rw [if_pos hdeleted]
        cases ans.removeFinalizer with
        | error e => exact .inl ⟨_, rfl⟩
        | ok _ => exact .inr ⟨hdeleted, rfl⟩
      rw [if_neg hdeleted] at h ⊢
      cases hfin : ensureFinalizer ans.addFinalizer obj.metadata with
      | error e => exact .inl ⟨_, rfl⟩
      | ok added =>
          rw [hfin] at h
          cases h

theorem idle_of_passNamespace_none (h : passNamespace ans obj = none) :
    (reconcileInner libs cfg ans obj).trace = [] ∧
      (reconcileInner libs cfg ans obj).result ≠ .ok .applied := by
  have hends : (∃ e, reconcileInner libs cfg ans obj = .fail e) ∨
      obj.metadata.deletionTimestamp.isSome = true ∧
        reconcileInner libs cfg ans obj =
          { trace := [], result := .ok .deleted } :=
    reconcileInner_of_passNamespace_none h
  rcases hends with ⟨e, hfail⟩ | ⟨-, hdeleted⟩
  · rw [hfail]
    refine ⟨rfl, ?_⟩
    rintro ⟨⟩
  · rw [hdeleted]
    refine ⟨rfl, ?_⟩
    rintro ⟨⟩

theorem trace_of_passNamespace_none (h : passNamespace ans obj = none) :
    (reconcileInner libs cfg ans obj).trace = [] :=
  (idle_of_passNamespace_none h).1

theorem reconcileInner_of_passNamespace (h : passNamespace ans obj = some ns) :
    reconcileInner libs cfg ans obj =
      match resolveStep libs ans obj ns with
      | .error e => .fail (.kube e)
      | .ok resolved =>
          match resolved.holding with
          | some cluster => holdStep libs ans obj cluster
          | none => applyInOrder (children libs cfg ans obj ns resolved) := by
  unfold passNamespace at h
  unfold reconcileInner
  cases hns : obj.metadata.namespace_ with
  | none =>
      rw [hns] at h
      cases h
  | some ns' =>
      rw [hns] at h
      dsimp only at h ⊢
      by_cases hname : obj.metadata.name.isNone = true
      · rw [if_pos hname] at h
        cases h
      rw [if_neg hname] at h ⊢
      by_cases hdeleted : obj.metadata.deletionTimestamp.isSome = true
      · rw [if_pos hdeleted] at h
        cases h
      rw [if_neg hdeleted] at h ⊢
      cases hfin : ensureFinalizer ans.addFinalizer obj.metadata with
      | error e =>
          rw [hfin] at h
          cases h
      | ok added =>
          rw [hfin] at h
          cases h
          rfl

/-- The pass comes to step 3 with these references. -/
structure Applies (libs : GatewayLibs Backend Managed)
    (ans : GatewayAnswers Backend Managed) (obj : MCPGGateway) (ns : String)
    (r : Resolved) : Prop where
  past : passNamespace ans obj = some ns
  resolved : resolveStep libs ans obj ns = .ok r
  notHeld : r.holding = none

theorem Applies.pass (h : Applies libs ans obj ns r) (cfg : OperatorConfig) :
    reconcileInner libs cfg ans obj =
      applyInOrder (children libs cfg ans obj ns r) := by
  rw [reconcileInner_of_passNamespace h.past, h.resolved]
  dsimp only
  rw [h.notHeld]

theorem applies_of_mem {e : Effect}
    (h : e ∈ (reconcileInner libs cfg ans obj).trace)
    (happly : e.isApply = true) : ∃ ns r, Applies libs ans obj ns r := by
  cases hpast : passNamespace ans obj with
  | none =>
      rw [trace_of_passNamespace_none hpast] at h
      cases h
  | some ns =>
      rw [reconcileInner_of_passNamespace hpast] at h
      split at h
      · cases h
      next r hresolved =>
      split at h
      · -- a held pass patches its status and publishes an event
        rcases List.mem_cons.mp h with rfl | hevent
        · cases happly
        · rw [List.mem_singleton.mp hevent] at happly
          cases happly
      · next hheld => exact ⟨ns, r, hpast, hresolved, hheld⟩

theorem applies_of_result
    (h : (reconcileInner libs cfg ans obj).result = .ok .applied) :
    ∃ ns r, Applies libs ans obj ns r := by
  cases hpast : passNamespace ans obj with
  | none => exact absurd h (idle_of_passNamespace_none hpast).2
  | some ns =>
      rw [reconcileInner_of_passNamespace hpast] at h
      split at h
      · cases h
      next r hresolved =>
      split at h
      · cases h
      · next hheld => exact ⟨ns, r, hpast, hresolved, hheld⟩

theorem of_resolveStep_ok (h : resolveStep libs ans obj ns = .ok r) :
    resolvePluginSet libs.resolve ans.resolve ns obj = .ok r.pluginSet ∧
      resolveRevocationList libs.resolve ans.resolve obj =
        .ok r.revocationList ∧
      resolveCluster libs.render.gateway libs.cluster ans.cluster obj =
        .ok r.cluster := by
  obtain ⟨pluginSet, hset, h⟩ := Except.of_bind_ok h
  obtain ⟨revocationList, hlist, h⟩ := Except.of_bind_ok h
  obtain ⟨cluster, hcluster, h⟩ := Except.of_bind_ok h
  cases h
  exact ⟨hset, hlist, hcluster⟩

/-! ## The children by kind -/

/-- What step 3 lists, with the answers: each child the references or the
spec ask for, and the delete of the budget they do not. -/
inductive Listed (libs : GatewayLibs Backend Managed) (cfg : OperatorConfig)
    (ans : GatewayAnswers Backend Managed) (obj : MCPGGateway) (ns : String)
    (r : Resolved) : Effect × Except KubeError Unit → Prop
  | configMap {config} :
      config = renderConfig libs.render cfg obj ns (r.inputs ans) →
      Listed libs cfg ans obj ns r
        (.applyConfigMap config (buildConfigmap libs obj config).1,
          ans.applyConfigMap)
  | service : Listed libs cfg ans obj ns r (.applyService, ans.applyService)
  | serviceAccount :
      Listed libs cfg ans obj ns r
        (.applyServiceAccount, ans.applyServiceAccount)
  | tenantSecretBinding {secret} : r.coordinationCopy obj ns = some secret →
      Listed libs cfg ans obj ns r
        (.ensureTenantSecretBinding, ans.ensureTenantSecretBinding)
  | coordinationSecret {secret} : r.coordinationCopy obj ns = some secret →
      Listed libs cfg ans obj ns r
        (.applyCoordinationSecret secret, ans.applyCoordinationSecret)
  | deployment {config} :
      config = renderConfig libs.render cfg obj ns (r.inputs ans) →
      Listed libs cfg ans obj ns r
        (.applyDeployment
            (r.deployment cfg obj ns (buildConfigmap libs obj config).2),
          ans.applyDeployment)
  | httpRoute {route} : buildHttproute obj = some route →
      Listed libs cfg ans obj ns r (.applyHttpRoute route, ans.applyHttpRoute)
  | edgeDomains : obj.spec.cloud ≠ none →
      Listed libs cfg ans obj ns r
        (.reconcileEdgeDomains, ans.reconcileEdgeDomains)
  | hpa {hpa} : buildHpa obj = some hpa →
      Listed libs cfg ans obj ns r (.applyHpa hpa, ans.applyHpa)
  | pdb {pdb} : buildPdb libs.render.gateway obj = some pdb →
      Listed libs cfg ans obj ns r (.applyPdb pdb, ans.applyPdb)
  | stalePdb : buildPdb libs.render.gateway obj = none →
      Listed libs cfg ans obj ns r
        (.deletePdb (childName obj "gateway"), .ok ())

theorem listed_of_mem_children :
    ∀ a ∈ children libs cfg ans obj ns r, Listed libs cfg ans obj ns r a := by
  unfold children beforeDeployment afterDeployment
  simp only [List.forall_mem_append, List.forall_mem_cons]
  refine ⟨⟨⟨.configMap rfl, .service, .serviceAccount,
    fun _ h => nomatch h⟩, ?_⟩, .deployment rfl, ⟨⟨?_, ?_⟩, ?_⟩, ?_⟩
  · -- the coordination Secret and its binding
    split
    · exact fun _ h => nomatch h
    · next secret hcopy =>
      simp only [List.forall_mem_cons]
      exact ⟨.tenantSecretBinding hcopy, .coordinationSecret hcopy,
        fun _ h => nomatch h⟩
  · -- the HTTPRoute
    intro a ha
    obtain ⟨route, hroute, rfl⟩ := Option.map_eq_some_iff.mp
      (Option.mem_toList.mp ha)
    exact .httpRoute hroute
  · -- the edge
    split
    · exact fun _ h => nomatch h
    · next hcloud =>
      simp only [List.forall_mem_cons]
      refine ⟨.edgeDomains fun hnone => ?_, fun _ h => nomatch h⟩
      exact hcloud (Option.isNone_iff_eq_none.mpr hnone)
  · intro a ha
    obtain ⟨hpa, hhpa, rfl⟩ := Option.map_eq_some_iff.mp
      (Option.mem_toList.mp ha)
    exact .hpa hhpa
  · -- the disruption budget
    split
    · next pdb hpdb =>
      simp only [List.forall_mem_cons]
      exact ⟨.pdb hpdb, fun _ h => nomatch h⟩
    · next hnone =>
      simp only [List.forall_mem_cons]
      exact ⟨.stalePdb hnone, fun _ h => nomatch h⟩

theorem mem_children_iff {a : Effect × Except KubeError Unit} :
    a ∈ children libs cfg ans obj ns r ↔ Listed libs cfg ans obj ns r a := by
  refine ⟨listed_of_mem_children a, fun h => ?_⟩
  unfold children beforeDeployment afterDeployment
  cases h with
  | configMap h => simp [h]
  | service => simp
  | serviceAccount => simp
  | tenantSecretBinding h => simp [h]
  | coordinationSecret h => simp [h]
  | deployment h => simp [h]
  | httpRoute h => simp [h]
  | edgeDomains h => simp [h]
  | hpa h => simp [h]
  | pdb h => simp [h]
  | stalePdb h => simp [h]

/-- What an apply of the pass carries. -/
def Resolved.carries (r : Resolved) (libs : GatewayLibs Backend Managed)
    (cfg : OperatorConfig) (ans : GatewayAnswers Backend Managed)
    (obj : MCPGGateway) (ns : String) : Effect → Prop
  | .applyConfigMap config cm =>
      config = renderConfig libs.render cfg obj ns (r.inputs ans) ∧
        cm = (buildConfigmap libs obj config).1
  | .applyDeployment dep =>
      ∃ config, config = renderConfig libs.render cfg obj ns (r.inputs ans) ∧
        dep = r.deployment cfg obj ns (buildConfigmap libs obj config).2
  | .applyCoordinationSecret secret => r.coordinationCopy obj ns = some secret
  | .applyHttpRoute route => buildHttproute obj = some route
  | .applyHpa hpa => buildHpa obj = some hpa
  | .applyPdb pdb => buildPdb libs.render.gateway obj = some pdb
  | _ => True

theorem Listed.carries {a : Effect × Except KubeError Unit}
    (h : Listed libs cfg ans obj ns r a) :
    r.carries libs cfg ans obj ns a.1 := by
  cases h with
  | configMap h => exact ⟨h, rfl⟩
  | deployment h => exact ⟨_, h, rfl⟩
  | coordinationSecret h => exact h
  | httpRoute h => exact h
  | hpa h => exact h
  | pdb h => exact h
  | _ => exact trivial

namespace Applies

theorem carries_of_mem (h : Applies libs ans obj ns r) {e : Effect}
    (he : e ∈ (reconcileInner libs cfg ans obj).trace) :
    r.carries libs cfg ans obj ns e := by
  rw [h.pass cfg] at he
  obtain ⟨a, ha, rfl⟩ :=
    List.mem_map.mp ((applyInOrder_trace_initial _).subset he)
  exact (mem_children_iff.mp ha).carries

theorem configMap_mem (h : Applies libs ans obj ns r)
    (cfg : OperatorConfig) :
    ∃ cm, .applyConfigMap
        (renderConfig libs.render cfg obj ns (r.inputs ans)) cm ∈
      (reconcileInner libs cfg ans obj).trace := by
  rw [h.pass cfg]
  exact ⟨_, head_mem_applyInOrder _ _ _⟩

end Applies

end Passes

/-! ## Concrete surroundings -/

namespace Sample

/-- Versions `0.1.0-beta.N`, by their number. -/
def semver : SemverLib where
  Version := Nat
  parse version :=
    (Text.stripPrefix "0.1.0-beta.".toList version.toList).map fun digits =>
      digits.foldl (fun n c => 10 * n + (c.toNat - '0'.toNat)) 0
  ge have_ want := decide (want ≤ have_)

/-- The ceiling is the autoscaler's, where there is one. -/
def gatewayApi : GatewayApi where
  effectiveReplicaCeiling spec :=
    match spec.autoscaling.filter (·.enabled) with
    | none => (spec.replicas, "spec.replicas")
    | some hpa =>
        let min := max (hpa.minReplicas.getD 1) 1
        (max (hpa.maxReplicas.getD (max spec.replicas min)) min,
          "spec.autoscaling.maxReplicas")
  gatewayNamespace spec ns := spec.gatewayRefNamespace.getD ns

/-- A backend is its kind, and there is no managed coordinator. -/
def clusterApi : ClusterApi String Unit where
  effectiveBackend spec := spec.backend
  isEffectivelySingleNode spec := spec.backend == "single_node"
  renderClusterBlockWith spec _ _ := .obj [("kind", .str spec.backend)]
  pluginId backend := some ("dev.mcpg.cluster." ++ backend)
  configKind backend := backend
  isSingleNode backend := backend == "single_node"
  managedCoordinationSecretName name := name ++ "-coordination"

def cfg : OperatorConfig where
  defaultGatewayImageTag := "0.1.0-beta.60"
  defaultPluginVersion := "0.1.0"

def libs : GatewayLibs String Unit where
  conditions := upsertConditions
  render :=
    { gateway := gatewayApi
      server :=
        { governanceError := fun _ => none
          federationName := fun _ name => name
          endpoint := fun _ child ns =>
            "http://" ++ child ++ "." ++ ns ++ ".svc:8080/mcp" }
      semver := semver }
  resolve :=
    { fromStr := fun _ => .error "expected value at line 1 column 1"
      renderRevocationListJson := fun _ => ("[]", "4f53cda1")
      configMapTypeName := "k8s_openapi::api::core::v1::ConfigMap" }
  cluster := clusterApi
  yamlToString _ := "plugins: []\n"
  sha256Hex _ := "9f86d081"

/-- Every request succeeds, and nothing a gateway may name is there. -/
def answers : GatewayAnswers String Unit where
  addFinalizer := .ok ()
  removeFinalizer := .ok ()
  resolve :=
    { getPluginSet := fun _ => .ok none
      getConfigMap := fun _ => .ok none
      getRevocationList := fun _ => .ok none
      applyRevocationCm := .ok () }
  cluster :=
    { getCluster := fun _ => .ok none, getSecret := fun _ => .ok none }
  listRoutes := .ok []
  listServers := .ok []
  applyConfigMap := .ok ()
  applyService := .ok ()
  applyServiceAccount := .ok ()
  ensureTenantSecretBinding := .ok ()
  applyCoordinationSecret := .ok ()
  applyDeployment := .ok ()
  applyHttpRoute := .ok ()
  reconcileEdgeDomains := .ok ()
  applyHpa := .ok ()
  now := 0

/-- What a gateway without references resolves. -/
def unreferenced : Resolved :=
  { pluginSet := none, revocationList := none, cluster := none }

end Sample

end McpgOperator.Gateway
