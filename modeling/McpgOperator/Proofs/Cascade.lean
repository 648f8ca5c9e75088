import McpgOperator.Watch
import Mathlib.Order.RelClasses
import Mathlib.Tactic.Common

/-!
# Cascades of reconciles

Each controller filters its own status writes, so on its own none of them
schedules itself again. Across controllers the watches follow the references:
plugins reach sets, mirrors and clusters, and everything a gateway is
rendered from reaches the gateway. That order has one edge against it, from a
gateway to the cluster it names, which the cluster controller watches to
count its gateways. A gateway and its cluster therefore schedule each other
for as long as both exist; without such a pair the kinds rank every chain.
-/

namespace McpgOperator.Watch

open McpgOperator.Kube McpgOperator.Plugin McpgOperator.PluginSet
  McpgOperator.Cluster McpgOperator.Gateway

variable {Backend Managed : Type} {hash : Int × Bool → UInt64}
  {api : GatewayApi} {w : World Backend Managed}
  {a b : StoredObject Backend Managed}

/-! ## The stores -/

theorem mem_gatewayStore {gw : MCPGGateway} :
    gw ∈ w.gatewayStore ↔
      .gateway gw ∈ w.objects ∧ w.inScope (.gateway gw) = true := by
  simp only [World.gatewayStore, List.mem_filterMap, List.mem_filter]
  constructor
  · rintro ⟨o, ⟨hmem, hscope⟩, ho⟩
    cases o <;> simp only [reduceCtorEq, Option.some.injEq] at ho
    subst ho
    exact ⟨hmem, hscope⟩
  · rintro ⟨hmem, hscope⟩
    exact ⟨.gateway gw, ⟨hmem, hscope⟩, rfl⟩

theorem World.nameAny_eq {o : StoredObject Backend Managed}
    (h : o ∈ w.objects) : o.metadata.name = some o.metadata.nameAny := by
  obtain ⟨name, hname⟩ := Option.isSome_iff_exists.mp (w.named o h)
  rw [ObjectMeta.nameAny, hname]
  rfl

/-! ## Where the mappers lead -/

theorem kind_gatewaysWhere {store : List MCPGGateway}
    {uses : MCPGGateway → Bool} {r : ObjectRef}
    (h : r ∈ gatewaysWhere store uses) : r.kind = .gateway := by
  obtain ⟨gw, _, rfl⟩ := List.mem_map.mp h
  rfl

/-- The kinds of what an object's events are mapped to. -/
def watchers : Kind → List Kind
  | .plugin => [.pluginSet, .pluginMirror, .cluster]
  | .pluginSet | .revocationList | .cluster | .route | .server => [.gateway]
  | .gateway => [.cluster]
  | .pluginMirror | .tenant => []

theorem kind_watched {o : StoredObject Backend Managed} {r : ObjectRef}
    (h : r ∈ watched api w o) : r.kind ∈ watchers o.kind := by
  cases o with
  | plugin o =>
      simp only [watched, List.mem_append] at h
      rcases h with (hset | hmirror) | hcluster
      · simp only [mapPluginToPluginSets] at hset
        split at hset
        · cases hset
        · obtain ⟨set, _, rfl⟩ := List.mem_map.mp hset
          exact List.mem_cons_self
      · obtain ⟨name, _, rfl⟩ :=
          Option.map_eq_some_iff.mp (Option.mem_toList.mp hmirror)
        exact List.mem_cons_of_mem _ List.mem_cons_self
      · rw [List.mem_singleton.mp hcluster]
        exact List.mem_cons_of_mem _
          (List.mem_cons_of_mem _ List.mem_cons_self)
  | pluginMirror o => cases h
  | pluginSet o =>
      simp only [watched, mapPluginSetToGateways] at h
      split at h
      · cases h
      · exact List.mem_singleton.mpr (kind_gatewaysWhere h)
  | revocationList o =>
      simp only [watched, mapRevocationListToGateways] at h
      split at h
      · cases h
      · exact List.mem_singleton.mpr (kind_gatewaysWhere h)
  | cluster o =>
      simp only [watched, mapClusterToGateways] at h
      split at h
      · cases h
      · exact List.mem_singleton.mpr (kind_gatewaysWhere h)
  | gateway o =>
      simp only [watched, mapGatewayToRoutes, List.append_nil] at h
      obtain ⟨name, _, rfl⟩ :=
        Option.map_eq_some_iff.mp (Option.mem_toList.mp h)
      exact List.mem_singleton.mpr rfl
  | route o =>
      simp only [watched, mapRouteToGateways] at h
      split at h
      · cases h
      · exact List.mem_singleton.mpr (kind_gatewaysWhere h)
  | server o =>
      simp only [watched, mapServerToGateways] at h
      split at h
      · exact List.mem_singleton.mpr (kind_gatewaysWhere h)
      · cases h
  | tenant m => cases h

/-- A status event passes its own controller's filter only without a
generation. -/
theorem passesFilter_self {m : ObjectMeta} :
    passesFilter hash m m = true ↔ m.generation = none := by
  cases hgen : m.generation <;>
    simp [passesFilter, filterValue, specOrDeletion, hgen]

/-! ## The pair -/

theorem cascades_to_cluster {gw : MCPGGateway}
    {cluster : MCPGCluster Backend Managed}
    (hgw : w.reports (.gateway gw))
    (hcluster : w.reports (.cluster cluster))
    (href : gw.spec.clusterRef = cluster.metadata.name) :
    Cascades hash api w (.gateway gw) (.cluster cluster) := by
  refine ⟨hgw, ⟨hcluster.1, hcluster.2.1⟩, List.mem_append_right _ ?_⟩
  have hname : cluster.metadata.name = some cluster.metadata.nameAny :=
    w.nameAny_eq hcluster.1
  simp only [watched, mapGatewayToClusters, mapGatewayToRoutes, href, hname]
  exact List.mem_singleton.mpr rfl

theorem cascades_to_gateway {gw : MCPGGateway}
    {cluster : MCPGCluster Backend Managed}
    (hgw : w.reports (.gateway gw))
    (hcluster : w.reports (.cluster cluster))
    (href : gw.spec.clusterRef = cluster.metadata.name) :
    Cascades hash api w (.cluster cluster) (.gateway gw) := by
  refine ⟨hcluster, ⟨hgw.1, hgw.2.1⟩, List.mem_append_right _ ?_⟩
  have hname : cluster.metadata.name = some cluster.metadata.nameAny :=
    w.nameAny_eq hcluster.1
  simp only [watched, mapClusterToGateways, hname]
  refine List.mem_map_of_mem (List.mem_filter.mpr ⟨?_, ?_⟩)
  · exact mem_gatewayStore.mpr ⟨hgw.1, hgw.2.1⟩
  · rw [href, hname]
    exact beq_self_eq_true _

/-- A gateway and the cluster it names schedule each other without end. -/
theorem not_wellFounded_of_bound {gw : MCPGGateway}
    {cluster : MCPGCluster Backend Managed}
    (hgw : w.reports (.gateway gw))
    (hcluster : w.reports (.cluster cluster))
    (href : gw.spec.clusterRef = cluster.metadata.name) :
    ¬ WellFounded fun b a => Cascades hash api w a b := by
  intro hwf
  exact hwf.asymmetric _ _ (cascades_to_gateway hgw hcluster href)
    (cascades_to_cluster hgw hcluster href)

/-! ## The rank -/

/-- Nothing that reports is without a generation, and no gateway that reports
names a cluster that does. -/
structure Settled (w : World Backend Managed) : Prop where
  versioned : ∀ o, w.reports o → o.metadata.generation ≠ none
  unbound : ∀ gw cluster, w.reports (.gateway gw) →
    w.reports (.cluster cluster) →
    gw.spec.clusterRef ≠ cluster.metadata.name

def kindRank : Kind → Nat
  | .plugin => 3
  | .pluginSet | .revocationList | .cluster | .route | .server => 2
  | .gateway | .pluginMirror | .tenant => 1

/-- An object being deleted reports nothing and ends every chain. -/
def rank (o : StoredObject Backend Managed) : Nat :=
  if o.metadata.deletionTimestamp = none then kindRank o.kind else 0

theorem rank_le_kindRank (o : StoredObject Backend Managed) :
    rank o ≤ kindRank o.kind := by
  rw [rank]
  split
  · exact Nat.le_refl _
  · exact Nat.zero_le _

theorem kindRank_pos (k : Kind) : 0 < kindRank k := by
  cases k <;> decide

/-- Every watch but that of gateways by clusters goes down in rank. -/
theorem kindRank_watchers {k k' : Kind} (h : k' ∈ watchers k)
    (hk : k ≠ .gateway) : kindRank k' < kindRank k := by
  cases k <;> cases k' <;> simp_all [watchers, kindRank]

theorem ref_of_mapGatewayToClusters {gw : MCPGGateway}
    (hb : b ∈ w.objects) (h : b.ref ∈ mapGatewayToClusters gw) :
    ∃ cluster, b = .cluster cluster ∧
      gw.spec.clusterRef = cluster.metadata.name := by
  obtain ⟨name, hname, href⟩ :=
    Option.map_eq_some_iff.mp (Option.mem_toList.mp h)
  have hkind : b.kind = .cluster := congrArg ObjectRef.kind href.symm
  cases b <;> simp only [StoredObject.kind, reduceCtorEq] at hkind
  next cluster =>
    refine ⟨cluster, rfl, ?_⟩
    have hcluster : cluster.metadata.name = some cluster.metadata.nameAny :=
      w.nameAny_eq hb
    have href' : cluster.metadata.nameAny = name :=
      congrArg ObjectRef.name href.symm
    rw [hname, hcluster, href']

theorem rank_lt_of_cascades (hsettled : Settled w) (h : Cascades hash api w a b) :
    rank b < rank a := by
  obtain ⟨ha, ⟨hb, hscope⟩, href⟩ := h
  have hrank : rank a = kindRank a.kind := if_pos ha.2.2
  rcases List.mem_append.mp href with hown | hwatched
  · split at hown
    · next hpass =>
        exact absurd (passesFilter_self.mp hpass) (hsettled.versioned a ha)
    · cases hown
  · have hkind : b.kind ∈ watchers a.kind := kind_watched hwatched
    by_cases hgateway : a.kind = .gateway
    · cases a <;> simp only [StoredObject.kind, reduceCtorEq] at hgateway
      next gw =>
        simp only [watched, mapGatewayToRoutes, List.append_nil] at hwatched
        obtain ⟨cluster, rfl, hname⟩ :=
          ref_of_mapGatewayToClusters hb hwatched
        -- the cluster is being deleted, or the pair would be bound
        have hzero : rank (StoredObject.cluster cluster) = 0 :=
          if_neg fun hlive =>
            hsettled.unbound gw cluster ha ⟨hb, hscope, hlive⟩ hname
        rw [hrank, hzero]
        exact kindRank_pos _
    · rw [hrank]
      exact Nat.lt_of_le_of_lt (rank_le_kindRank b)
        (kindRank_watchers hkind hgateway)

/-- Status writes alone never keep the controllers going, if and only if the
stored objects are settled. -/
theorem cascades_wellFounded_iff (hash : Int × Bool → UInt64)
    (api : GatewayApi) (w : World Backend Managed) :
    (WellFounded fun b a => Cascades hash api w a b) ↔ Settled w := by
  constructor
  · intro hwf
    refine ⟨fun o ho hgen => ?_, fun gw cluster hgw hcluster href => ?_⟩
    · have hself : Cascades hash api w o o := by
        refine ⟨ho, ⟨ho.1, ho.2.1⟩, List.mem_append_left _ ?_⟩
        rw [if_pos (passesFilter_self.mpr hgen)]
        exact List.mem_singleton.mpr rfl
      exact hwf.asymmetric _ _ hself hself
    · exact not_wellFounded_of_bound hgw hcluster href hwf
  · intro hsettled
    exact Subrelation.wf (fun h => rank_lt_of_cascades hsettled h)
      (measure rank).wf

/-! ## A gateway and its cluster -/

namespace Sample

def hasher (fields : Int × Bool) : UInt64 :=
  UInt64.ofNat (2 * fields.1.toNat + fields.2.toNat)

def cluster : MCPGCluster String Unit :=
  { metadata := { name := some "prod", generation := some 1 }
    spec := { backend := "redis", managed := none, pluginRef := none } }

def gateway : MCPGGateway :=
  { metadata :=
      { name := some "edge", namespace_ := some "payments"
        generation := some 1 }
    spec := { replicas := 2, clusterRef := some "prod" } }

def gatewayApi : GatewayApi where
  effectiveReplicaCeiling spec := (spec.replicas, "spec.replicas")
  gatewayNamespace spec ns := spec.gatewayRefNamespace.getD ns

def world : World String Unit where
  objects := [.gateway gateway, .cluster cluster]
  watchNamespace := none
  named := by simp [gateway, cluster, StoredObject.metadata]

end Sample

/-- One gateway with a `clusterRef`, and the cluster. -/
theorem not_wellFounded_sample :
    ¬ WellFounded fun b a =>
      Cascades Sample.hasher Sample.gatewayApi Sample.world a b := by
  have hgw : Sample.world.reports (.gateway Sample.gateway) :=
    ⟨List.mem_cons_self, rfl, rfl⟩
  have hcluster : Sample.world.reports (.cluster Sample.cluster) :=
    ⟨List.mem_cons_of_mem _ List.mem_cons_self, rfl, rfl⟩
  exact not_wellFounded_of_bound hgw hcluster rfl

end McpgOperator.Watch
