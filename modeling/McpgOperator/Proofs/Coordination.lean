import McpgOperator.Admission.Gateway
import McpgOperator.Lib.Transition
import McpgOperator.Proofs.ConfigFrame
import McpgOperator.Proofs.GatewayPass

/-!
# Several replicas share a coordinator

The webhook guards the shape of every spec it lets through: more than one
replica needs a `clusterRef` or an inline backend other than `single_node`.
That much it judges on every write, whatever it skips or fails to read about
the cluster itself. The controller does the rest in the pass: a reference is
rendered only from a cluster that coordinates. The two together cover every
history of admissions, every change of the clusters, and passes over any
version that was ever admitted.
-/

namespace McpgOperator.Coordination

open McpgOperator.Kube McpgOperator.Gateway McpgOperator.Templates
  McpgOperator.Admission McpgOperator.Json Transition
open McpgOperator.Cluster (MCPGCluster ClusterApi defaultOperatorNamespace)

variable {Backend Managed : Type}

/-! ## What is assumed of the API crate -/

/-- The ceiling bounds the replica counts the templates render for a spec
that asks for a replica, `is_effectively_single_node` is exact, and the
block of a cluster names its effective backend. -/
structure ApiLaws (gatewayApi : GatewayApi)
    (clusterApi : ClusterApi Backend Managed) : Prop where
  ceiling_replicas : ∀ gw : MCPGGateway, 1 ≤ gw.spec.replicas →
    autoscaled gw = false →
    effectiveReplicas gw ≤ (gatewayApi.effectiveReplicaCeiling gw.spec).1
  ceiling_hpa : ∀ (gw : MCPGGateway) (hpa : HorizontalPodAutoscaler),
    1 ≤ gw.spec.replicas → buildHpa gw = some hpa →
    hpa.maxReplicas ≤ (gatewayApi.effectiveReplicaCeiling gw.spec).1
  singleNode_exact : ∀ spec,
    clusterApi.isEffectivelySingleNode spec = true ↔
      clusterApi.configKind (clusterApi.effectiveBackend spec) =
        "single_node"
  renders_kind : ∀ spec name ns,
    (clusterApi.renderClusterBlockWith spec name ns).get "kind" =
      some (.str (clusterApi.configKind (clusterApi.effectiveBackend spec)))

/-! ## What a pass is to satisfy -/

/-- The config names a coordinator that several replicas can share. -/
def coordinatedConfig (config : Json) : Prop :=
  ∃ kind, config.getPath ["cluster", "kind"] = some (.str kind) ∧
    kind ≠ "single_node"

/-- More than one replica, by a Deployment or by an autoscaler. -/
def scalesOut : Effect → Bool
  | .applyDeployment dep => dep.replicas.any (1 < ·)
  | .applyHpa hpa => 1 < hpa.maxReplicas
  | _ => false

/-- The pass applies a child for more than one replica. -/
def ScalesOut (p : Pass) : Prop := ∃ e ∈ p.trace, scalesOut e = true

instance (p : Pass) : Decidable (ScalesOut p) :=
  inferInstanceAs (Decidable (∃ e ∈ p.trace, scalesOut e = true))

/-- The config the pass renders, which it also applies, is coordinated. -/
def Coordinated (p : Pass) : Prop :=
  (∃ config cm, .applyConfigMap config cm ∈ p.trace) ∧
    ∀ config cm, .applyConfigMap config cm ∈ p.trace →
      coordinatedConfig config

/-! ## What admission guards -/

/-- The shape the webhook lets through. -/
structure Guarded (api : GatewayApi) (spec : MCPGGatewaySpec) : Prop where
  replicas : 1 ≤ spec.replicas
  path : ∃ path, coordinationPath api spec = .ok path

theorem replicas_of_validateGateway {obj : MCPGGateway}
    (h : validateGateway obj = .ok ()) : 1 ≤ obj.spec.replicas := by
  obtain ⟨_, hreplicas, _⟩ := Except.of_bind_ok h
  exact Int.not_lt.mp (not_of_denyIf hreplicas)

/-- Whatever the lookup answers, and whether or not it is made. -/
theorem path_of_enforce {gatewayApi : GatewayApi}
    {clusterApi : ClusterApi Backend Managed}
    {getCluster :
      String → Except KubeError (Option (MCPGCluster Backend Managed))}
    {obj : MCPGGateway} {old : Option MCPGGateway}
    (h : enforceMultiReplicaCoordination gatewayApi clusterApi getCluster obj
      old = .ok ()) :
    ∃ path, coordinationPath gatewayApi obj.spec = .ok path := by
  unfold enforceMultiReplicaCoordination at h
  cases hpath : coordinationPath gatewayApi obj.spec with
  | error reason =>
      rw [hpath] at h
      cases h
  | ok path => exact ⟨path, rfl⟩

theorem guarded_of_validate {gatewayApi : GatewayApi}
    {clusterApi : ClusterApi Backend Managed}
    {getCluster :
      String → Except KubeError (Option (MCPGCluster Backend Managed))}
    {cap : Except String Unit} {obj : MCPGGateway}
    {old : Option MCPGGateway}
    (h : validate gatewayApi clusterApi getCluster cap obj old = .ok ()) :
    Guarded gatewayApi obj.spec := by
  obtain ⟨_, hspec, h⟩ := Except.of_bind_ok h
  obtain ⟨_, hguard, _⟩ := Except.of_bind_ok h
  exact ⟨replicas_of_validateGateway hspec, path_of_enforce hguard⟩

/-- Without a reference, more than one replica has an inline backend. -/
theorem inlineClusterKind_of_guarded {api : GatewayApi}
    {spec : MCPGGatewaySpec} (h : Guarded api spec)
    (href : spec.clusterRef = none)
    (hceiling : 1 < (api.effectiveReplicaCeiling spec).1) :
    ∃ kind, inlineClusterKind spec.config = some kind ∧
      kind ≠ "single_node" := by
  obtain ⟨path, hpath⟩ := h.path
  unfold coordinationPath at hpath
  rw [href] at hpath
  dsimp only at hpath
  rw [if_neg (Int.not_le.mpr hceiling)] at hpath
  split at hpath
  · next kind hkind =>
      split at hpath
      · cases hpath
      · next hne => exact ⟨kind, hkind, hne⟩
  · cases hpath

theorem getPath_kind_of_inline {config : Json} {kind : String}
    (h : inlineClusterKind config = some kind) (hne : kind ≠ "single_node") :
    config.getPath ["cluster", "kind"] = some (.str kind) := by
  unfold inlineClusterKind at h
  split at h
  · next fields hcluster =>
      rw [getPath_cons, hcluster, Option.bind_some, getPath_singleton]
      have hkind := Option.some.inj h
      cases hget : (Json.obj fields).get "kind" with
      | none =>
          rw [hget] at hkind
          exact absurd hkind.symm hne
      | some x =>
          rw [hget, Option.bind_some] at hkind
          cases x with
          | str s => rw [← hkind]; rfl
          | _ => exact absurd hkind.symm hne
  · cases h

/-! ## What the pass renders -/

section Pass

variable {libs : GatewayLibs Backend Managed} {cfg : OperatorConfig}
  {ans : GatewayAnswers Backend Managed} {obj : MCPGGateway} {ns : String}
  {r : Resolved}

theorem kind_renderConfig (libs : RenderLibs) (cfg : OperatorConfig)
    (obj : MCPGGateway) (ns : String) (inputs : RenderInputs) :
    getPath ["cluster", "kind"] (renderConfig libs cfg obj ns inputs) =
      match inputs.clusterBlock with
      | none => getPath ["cluster", "kind"] obj.spec.config
      | some block =>
          if block = .null then getPath ["cluster", "kind"] obj.spec.config
          else block.get "kind" := by
  have hplugins := keeps_mergePlugins (p := ["cluster", "kind"]) inputs.view
    (if inputs.revocationList then some revocationListMountPath else none)
    (by decide) (by decide) obj.spec.config
  unfold renderConfig
  dsimp only
  rw [keeps_applyCloudDefaultPlugins cfg obj (by decide) (by decide)
      (by decide),
    keeps_injectCloudIdentity libs cfg obj (by decide) (by decide)
      (by decide),
    keeps_mergeServers _ _ _ _ (by decide),
    keeps_mergeRoutes _ _ _ _ (by decide)]
  cases inputs.clusterBlock with
  | none => exact hplugins
  | some block =>
      unfold mergeClusterBlock
      dsimp only
      split
      · exact hplugins
      · rw [getPath_cons, get_set_self, Option.bind_some, getPath_singleton]

/-- A binding that does not hold the pass was rendered from a cluster that
coordinates the gateway's replicas. -/
theorem classifyClusterBinding_true {gatewayApi : GatewayApi}
    {clusterApi : ClusterApi Backend Managed} {obj : MCPGGateway}
    {cluster : Option (MCPGCluster Backend Managed)}
    (h : (classifyClusterBinding gatewayApi clusterApi obj
      cluster).condition.status = "True") :
    ∃ c, cluster = some c ∧
      ¬ (clusterApi.isEffectivelySingleNode c.spec = true ∧
        (gatewayApi.effectiveReplicaCeiling obj.spec).1 > 1) ∧
      (classifyClusterBinding gatewayApi clusterApi obj
          cluster).clusterBlock =
        clusterApi.renderClusterBlockWith c.spec
          (obj.spec.clusterRef.getD "") defaultOperatorNamespace := by
  have hfalse : ("False" : String) ≠ "True" := by decide
  unfold classifyClusterBinding at h ⊢
  cases cluster with
  | none => exact absurd h hfalse
  | some c =>
      dsimp only at h ⊢
      split at h
      · exact absurd h hfalse
      next hready =>
      split at h
      · exact absurd h hfalse
      next hcoordinates =>
      rw [if_neg hready, if_neg hcoordinates]
      exact ⟨c, rfl, hcoordinates, rfl⟩

theorem resolveCluster_ok {gatewayApi : GatewayApi}
    {clusterApi : ClusterApi Backend Managed}
    {reads : ClusterReads Backend Managed} {obj : MCPGGateway}
    {cluster : Option ResolvedCluster}
    (h : resolveCluster gatewayApi clusterApi reads obj = .ok cluster) :
    (obj.spec.clusterRef = none ∧ cluster = none) ∨
      ∃ found c, cluster = some c ∧
        (classifyClusterBinding gatewayApi clusterApi obj
          found).condition = c.condition ∧
        (classifyClusterBinding gatewayApi clusterApi obj
          found).clusterBlock = c.clusterBlock := by
  unfold resolveCluster at h
  cases href : obj.spec.clusterRef with
  | none =>
      rw [href] at h
      cases h
      exact .inl ⟨rfl, rfl⟩
  | some name =>
      rw [href] at h
      obtain ⟨found, _, h⟩ := Except.of_bind_ok h
      dsimp only at h
      split at h
      · obtain ⟨coordination, _, h⟩ := Except.of_bind_ok h
        cases h
        exact .inr ⟨found, _, rfl, rfl, rfl⟩
      · cases h
        exact .inr ⟨found, _, rfl, rfl, rfl⟩

/-- The block of a reference that does not hold the pass names a backend
other than `single_node`, once there may be more than one replica. -/
theorem coordinated_block (laws : ApiLaws libs.render.gateway libs.cluster)
    (happlies : Applies libs ans obj ns r)
    (hceiling :
      1 < (libs.render.gateway.effectiveReplicaCeiling obj.spec).1)
    {c : ResolvedCluster} (hc : r.cluster = some c) :
    ∃ kind, c.clusterBlock.get "kind" = some (.str kind) ∧
      kind ≠ "single_node" := by
  obtain ⟨_, _, hcluster⟩ := of_resolveStep_ok happlies.resolved
  have hstatus : c.condition.status = "True" := by
    have hheld := happlies.notHeld
    unfold Resolved.holding at hheld
    rw [hc, Option.filter_some] at hheld
    by_contra hne
    rw [decide_eq_true hne] at hheld
    cases hheld
  rcases resolveCluster_ok hcluster with ⟨_, hnone⟩ |
    ⟨found, c', hsome, hcondition, hblock⟩
  · rw [hc] at hnone
    cases hnone
  · rw [hc] at hsome
    cases hsome
    rw [← hcondition] at hstatus
    obtain ⟨cl, _, hcoordinates, hrender⟩ :=
      classifyClusterBinding_true hstatus
    have hkind := laws.renders_kind cl.spec (obj.spec.clusterRef.getD "")
      defaultOperatorNamespace
    rw [← hrender, hblock] at hkind
    refine ⟨_, hkind, fun hsingle => ?_⟩
    exact hcoordinates ⟨(laws.singleNode_exact cl.spec).mpr hsingle,
      hceiling⟩

theorem coordinated_renderConfig (cfg : OperatorConfig)
    (laws : ApiLaws libs.render.gateway libs.cluster)
    (hguarded : Guarded libs.render.gateway obj.spec)
    (happlies : Applies libs ans obj ns r)
    (hceiling :
      1 < (libs.render.gateway.effectiveReplicaCeiling obj.spec).1) :
    coordinatedConfig
      (renderConfig libs.render cfg obj ns (r.inputs ans)) := by
  have hkind := kind_renderConfig libs.render cfg obj ns (r.inputs ans)
  obtain ⟨_, _, hcluster⟩ := of_resolveStep_ok happlies.resolved
  cases hc : r.cluster with
  | none =>
      have href : obj.spec.clusterRef = none := by
        rcases resolveCluster_ok hcluster with ⟨href, _⟩ | ⟨_, _, hsome, _, _⟩
        · exact href
        · rw [hc] at hsome
          cases hsome
      obtain ⟨kind, hinline, hne⟩ :=
        inlineClusterKind_of_guarded hguarded href hceiling
      have hblock : (r.inputs ans).clusterBlock = none :=
        congrArg (Option.map ResolvedCluster.clusterBlock) hc
      rw [hblock] at hkind
      exact ⟨kind, hkind.trans (getPath_kind_of_inline hinline hne), hne⟩
  | some c =>
      obtain ⟨kind, hblock, hne⟩ :=
        coordinated_block laws happlies hceiling hc
      have hnull : c.clusterBlock ≠ .null := by
        intro hnull
        rw [hnull] at hblock
        cases hblock
      have hinputs : (r.inputs ans).clusterBlock = some c.clusterBlock :=
        congrArg (Option.map ResolvedCluster.clusterBlock) hc
      rw [hinputs] at hkind
      dsimp only at hkind
      rw [if_neg hnull, hblock] at hkind
      exact ⟨kind, hkind, hne⟩

theorem ceiling_of_scalesOut
    (laws : ApiLaws libs.render.gateway libs.cluster)
    (hreplicas : 1 ≤ obj.spec.replicas)
    (h : ScalesOut (reconcileInner libs cfg ans obj)) :
    (∃ ns r, Applies libs ans obj ns r) ∧
      1 < (libs.render.gateway.effectiveReplicaCeiling obj.spec).1 := by
  obtain ⟨e, hmem, hscales⟩ := h
  have happly : e.isApply = true := by
    cases e <;> first | rfl | cases hscales
  obtain ⟨ns, r, happlies⟩ := applies_of_mem hmem happly
  have hcarries := happlies.carries_of_mem hmem
  refine ⟨⟨ns, r, happlies⟩, ?_⟩
  cases e with
  | applyDeployment dep =>
      obtain ⟨_, _, hdep⟩ := hcarries
      obtain ⟨n, hn, hlt⟩ := (Option.any_eq_true _ _).mp hscales
      rw [hdep] at hn
      change (if autoscaled obj then none else some (effectiveReplicas obj)) =
        some n at hn
      split at hn
      · cases hn
      · next hauto =>
          cases hn
          exact lt_of_lt_of_le (of_decide_eq_true hlt)
            (laws.ceiling_replicas obj hreplicas (Bool.eq_false_iff.mpr hauto))
  | applyHpa hpa =>
      exact lt_of_lt_of_le (of_decide_eq_true hscales)
        (laws.ceiling_hpa obj hpa hreplicas hcarries)
  | _ => cases hscales

/-- One pass over a spec the webhook let through. -/
theorem pass_coordinated (laws : ApiLaws libs.render.gateway libs.cluster)
    (hguarded : Guarded libs.render.gateway obj.spec)
    (h : ScalesOut (reconcileInner libs cfg ans obj)) :
    Coordinated (reconcileInner libs cfg ans obj) := by
  obtain ⟨⟨ns, r, happlies⟩, hceiling⟩ :=
    ceiling_of_scalesOut laws hguarded.replicas h
  have hconfig :=
    coordinated_renderConfig cfg laws hguarded happlies hceiling
  constructor
  · obtain ⟨cm, hmem⟩ := happlies.configMap_mem cfg
    exact ⟨_, cm, hmem⟩
  · intro config cm hmem
    obtain ⟨heq, _⟩ := happlies.carries_of_mem hmem
    rw [heq]
    exact hconfig

end Pass

/-! ## Histories -/

/-- The gateway as stored, every version of it that was ever admitted, the
clusters as they are now, and the passes so far. -/
structure State (Backend Managed : Type) where
  stored : Option MCPGGateway
  admitted : List MCPGGateway
  clusters : String → Option (MCPGCluster Backend Managed)
  passes : List Pass

inductive Action (Backend Managed : Type)
  /-- A create, or an update of what is stored, with the failure of the
  cluster lookup (if it fails) and the verdict on the tenant's cap. -/
  | write (gw : MCPGGateway) (lookup : Option KubeError)
      (cap : Except String Unit)
  | delete
  /-- A cluster is created, changed or deleted. -/
  | changeCluster (name : String)
      (cluster : Option (MCPGCluster Backend Managed))
  /-- A pass over an object of an admitted spec; its own reads of the
  cluster are live or fail, its other requests answer anything. -/
  | reconcile (gw : MCPGGateway) (read : Option KubeError)
      (ans : GatewayAnswers Backend Managed)

/-- A read of the clusters: what is there, unless it fails. -/
def State.getCluster (s : State Backend Managed)
    (failure : Option KubeError) (name : String) :
    Except KubeError (Option (MCPGCluster Backend Managed)) :=
  match failure with
  | some e => .error e
  | none => .ok (s.clusters name)

/-- The answers of a pass that reads the clusters there are. -/
def State.answers (s : State Backend Managed) (read : Option KubeError)
    (ans : GatewayAnswers Backend Managed) :
    GatewayAnswers Backend Managed :=
  { ans with
    cluster := { ans.cluster with getCluster := s.getCluster read } }

def step (libs : GatewayLibs Backend Managed) (cfg : OperatorConfig)
    (s : State Backend Managed) :
    Action Backend Managed → Option (State Backend Managed)
  | .write gw lookup cap =>
      match validate libs.render.gateway libs.cluster (s.getCluster lookup)
          cap gw s.stored with
      | .error _ => none
      | .ok _ =>
          some { s with stored := some gw, admitted := gw :: s.admitted }
  | .delete => some { s with stored := none }
  | .changeCluster name cluster =>
      some
        { s with
          clusters := fun n => if n = name then cluster else s.clusters n }
  | .reconcile gw read ans =>
      if s.admitted.any fun v => v.spec = gw.spec then
        some
          { s with
            passes :=
              reconcileInner libs cfg (s.answers read ans) gw :: s.passes }
      else none

/-- Histories that start before the gateway is created. -/
def system (libs : GatewayLibs Backend Managed) (cfg : OperatorConfig) :
    System (State Backend Managed) (Action Backend Managed) where
  init s := s.stored = none ∧ s.admitted = [] ∧ s.passes = []
  step := step libs cfg

/-- Every admitted version has the shape the webhook guards, and every pass
so far was coordinated where it scaled out. -/
structure Inv (api : GatewayApi) (s : State Backend Managed) : Prop where
  guarded : ∀ v ∈ s.admitted, Guarded api v.spec
  passes : ∀ p ∈ s.passes, ScalesOut p → Coordinated p

section Histories

variable {libs : GatewayLibs Backend Managed} {cfg : OperatorConfig}
  {s s' : State Backend Managed}

theorem inv_step (laws : ApiLaws libs.render.gateway libs.cluster)
    {a : Action Backend Managed} (hinv : Inv libs.render.gateway s)
    (h : (system libs cfg).step s a = some s') :
    Inv libs.render.gateway s' := by
  cases a with
  | write gw lookup cap =>
      dsimp only [system, step] at h
      split at h
      · cases h
      · next hvalid =>
          cases h
          refine ⟨fun v hv => ?_, hinv.passes⟩
          rcases List.mem_cons.mp hv with rfl | hv
          · exact guarded_of_validate hvalid
          · exact hinv.guarded v hv
  | delete =>
      cases h
      exact ⟨hinv.guarded, hinv.passes⟩
  | changeCluster name cluster =>
      cases h
      exact ⟨hinv.guarded, hinv.passes⟩
  | reconcile gw read ans =>
      dsimp only [system, step] at h
      split at h
      · next hadmitted =>
          cases h
          obtain ⟨v, hv, hspec⟩ := List.any_eq_true.mp hadmitted
          have hguarded : Guarded libs.render.gateway gw.spec :=
            of_decide_eq_true hspec ▸ hinv.guarded v hv
          refine ⟨hinv.guarded, fun p hp => ?_⟩
          rcases List.mem_cons.mp hp with rfl | hp
          · exact pass_coordinated laws hguarded
          · exact hinv.passes p hp
      · cases h

theorem reachable_inv (laws : ApiLaws libs.render.gateway libs.cluster)
    (h : Reachable (system libs cfg) anyStep s) :
    Inv libs.render.gateway s := by
  refine h.invariant ?_ fun _ _ _ hinv _ hstep => inv_step laws hinv hstep
  rintro s ⟨_, hadmitted, hpasses⟩
  constructor
  · rw [hadmitted]
    exact fun v hv => nomatch hv
  · rw [hpasses]
    exact fun p hp => nomatch hp

/-- In every history, a pass that applies more than one replica, or an
autoscaler for more than one, renders a coordinator other than
`single_node`. -/
theorem scalesOut_coordinated
    (laws : ApiLaws libs.render.gateway libs.cluster)
    (h : Reachable (system libs cfg) anyStep s) :
    ∀ p ∈ s.passes, ScalesOut p → Coordinated p :=
  (reachable_inv laws h).passes

end Histories

namespace Sample

open McpgOperator.Gateway.Sample

theorem ceiling_replicas (gw : MCPGGateway) (hreplicas : 1 ≤ gw.spec.replicas)
    (hauto : autoscaled gw = false) :
    effectiveReplicas gw ≤ (gatewayApi.effectiveReplicaCeiling gw.spec).1 := by
  unfold autoscaled at hauto
  unfold effectiveReplicas
  dsimp only [gatewayApi]
  cases hscaler : gw.spec.autoscaling.filter (·.enabled) with
  | none =>
      dsimp only
      split <;> omega
  | some hpa =>
      obtain ⟨hsome, henabled⟩ := Option.filter_eq_some_iff.mp hscaler
      rw [hsome, Option.any_some, henabled, Bool.true_and,
        Bool.not_eq_false'] at hauto
      rw [if_pos hauto]
      dsimp only
      omega

theorem ceiling_hpa (gw : MCPGGateway) (hpa : HorizontalPodAutoscaler)
    (h : buildHpa gw = some hpa) :
    hpa.maxReplicas ≤ (gatewayApi.effectiveReplicaCeiling gw.spec).1 := by
  unfold buildHpa at h
  split at h
  · cases h
  next scaler hscaler =>
  split at h
  · cases h
  next hauto =>
  unfold autoscaled at hauto
  cases henabled : scaler.enabled with
  | false =>
      rw [hscaler, Option.any_some, henabled, Bool.false_and] at hauto
      exact absurd rfl hauto
  | true =>
      cases h
      dsimp only [gatewayApi]
      rw [hscaler, Option.filter_some, henabled]
      exact le_refl _

theorem apiLaws : ApiLaws gatewayApi clusterApi where
  ceiling_replicas := ceiling_replicas
  ceiling_hpa gw hpa _ h := ceiling_hpa gw hpa h
  singleNode_exact _ := beq_iff_eq
  renders_kind _ _ _ := rfl

/-- Three replicas on a cluster. -/
def gateway : MCPGGateway :=
  { metadata :=
      { name := some "edge", namespace_ := some "payments"
        finalizers := some [operatorFinalizer] }
    spec :=
      { image := { tag := some "0.1.0-beta.60" }, replicas := 3
        config := .obj [], clusterRef := some "prod" } }

def cluster (backend : String) : MCPGCluster String Unit :=
  { metadata := { name := some "prod" }
    spec := { backend := backend, managed := none, pluginRef := none }
    status := some
      { conditions :=
          [{ type := CType.ready, status := "True"
             reason := Reasons.reconciled, message := ""
             observedGeneration := some 1 }] } }

/-- The lookup fails and the gateway is admitted; a pass holds, since the
cluster is a `single_node` one; the cluster is changed; the next pass
applies. -/
def history : List (Action String Unit) :=
  [.changeCluster "prod" (some (cluster "single_node")),
    .write gateway (some (.other "timeout")) (.ok ()),
    .reconcile gateway none answers,
    .changeCluster "prod" (some (cluster "redis")),
    .reconcile gateway none answers]

def start : State String Unit :=
  { stored := none, admitted := [], clusters := fun _ => none, passes := [] }

end Sample

/-- The webhook's lookup fails and the gateway is admitted on a cluster that
cannot coordinate it; the pass after the cluster is changed scales out, on
the new backend. -/
theorem history_coordinated : ∃ s p,
    (system Gateway.Sample.libs Gateway.Sample.cfg).run Sample.start
        Sample.history = some s ∧
      p ∈ s.passes ∧ ScalesOut p ∧ Coordinated p := by
  have hrun : ((system Gateway.Sample.libs Gateway.Sample.cfg).run
      Sample.start Sample.history).any
        (fun s => decide (∃ p ∈ s.passes, ScalesOut p)) = true := by
    decide +kernel
  obtain ⟨s, hs, hscales⟩ := (Option.any_eq_true _ _).mp hrun
  obtain ⟨p, hp, hp'⟩ := of_decide_eq_true hscales
  have hstart : (system Gateway.Sample.libs Gateway.Sample.cfg).init
      Sample.start := ⟨rfl, rfl, rfl⟩
  have hreach := (Reachable.init hstart).of_run
    (System.permitted_anyStep _ Sample.history Sample.start) hs
  exact ⟨s, p, hs, hp, hp',
    scalesOut_coordinated Sample.apiLaws hreach p hp hp'⟩

end McpgOperator.Coordination
