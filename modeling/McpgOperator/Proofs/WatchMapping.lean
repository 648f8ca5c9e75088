import McpgOperator.Proofs.Cascade
import McpgOperator.Proofs.FanIn

/-!
# Which gateways a change enqueues

A gateway is rendered from the objects it names and from the routes and the
servers that name it. A mapper looks at one version of the changed object:
for what the gateway names that is enough, since the name does not change.
A route or a server that is edited to name another gateway is mapped to that
one alone, and the one left behind keeps what the old version put there.
-/

namespace McpgOperator.Watch

open McpgOperator.Kube McpgOperator.Plugin McpgOperator.PluginSet
  McpgOperator.Cluster McpgOperator.Gateway McpgOperator.Templates Json

variable {Backend Managed : Type}

/-! ## What a pass reads of the stored objects -/

def pluginSetAt (ns name : String) :
    StoredObject Backend Managed → Option MCPGPluginSet
  | .pluginSet o =>
      if o.metadata.namespace_ = some ns ∧ o.metadata.name = some name then
        some o
      else none
  | _ => none

def revocationListAt (name : String) :
    StoredObject Backend Managed → Option MCPGRevocationList
  | .revocationList o =>
      if o.metadata.name = some name then some o else none
  | _ => none

def clusterAt (name : String) :
    StoredObject Backend Managed → Option (MCPGCluster Backend Managed)
  | .cluster o => if o.metadata.name = some name then some o else none
  | _ => none

def asRoute : StoredObject Backend Managed → Option MCPGRoute
  | .route o => some o
  | _ => none

def serverIn (ns : String) :
    StoredObject Backend Managed → Option MCPGServer
  | .server o => if o.metadata.namespace_ = some ns then some o else none
  | _ => none

/-- The answers to a pass over the gateway, where the stored objects answer
the reads of their kinds. -/
def readsFrom (objects : List (StoredObject Backend Managed))
    (base : GatewayAnswers Backend Managed) (gw : MCPGGateway) :
    GatewayAnswers Backend Managed :=
  let ns := gw.metadata.namespace_.getD ""
  { base with
    resolve :=
      { base.resolve with
        getPluginSet := fun name =>
          .ok (objects.findSome? (pluginSetAt ns name))
        getRevocationList := fun name =>
          .ok (objects.findSome? (revocationListAt name)) }
    cluster :=
      { base.cluster with
        getCluster := fun name =>
          .ok (objects.findSome? (clusterAt name)) }
    listRoutes := .ok (objects.filterMap asRoute)
    listServers := .ok (objects.filterMap (serverIn ns)) }

/-- The config the pass applies. -/
def renderedConfig (libs : GatewayLibs Backend Managed)
    (cfg : OperatorConfig) (base : MCPGGateway → GatewayAnswers Backend Managed)
    (objects : List (StoredObject Backend Managed)) (gw : MCPGGateway) :
    Option Json :=
  (Gateway.reconcileInner libs cfg (readsFrom objects (base gw) gw)
      gw).trace.findSome? fun
    | .applyConfigMap config _ => some config
    | _ => none

/-- The rules and the federations the stored objects give the gateway's own
config. -/
def fanIn (libs : RenderLibs) (objects : List (StoredObject Backend Managed))
    (gw : MCPGGateway) : Option Json × Option Json :=
  let ns := gw.metadata.namespace_.getD ""
  (getPath rulesPath
      (mergeRoutes libs.gateway gw ns (.ok (objects.filterMap asRoute))
        gw.spec.config),
    getPath federationsPath
      (mergeServers libs.server gw ns (.ok (objects.filterMap (serverIn ns)))
        gw.spec.config))

/-! ## Changes -/

/-- One object goes from `old` to `new` among the others. -/
structure Change (Backend Managed : Type) where
  pre : List (StoredObject Backend Managed)
  old : Option (StoredObject Backend Managed)
  new : Option (StoredObject Backend Managed)
  post : List (StoredObject Backend Managed)
  watchNamespace : Option String
  named : ∀ o ∈ pre ++ old.toList ++ new.toList ++ post,
    o.metadata.name.isSome
  fansIn : ∀ o ∈ old.toList ++ new.toList,
    o.kind ∈ [.route, .server, .pluginSet, .revocationList, .cluster]
  sameRef : ∀ o ∈ old, ∀ n ∈ new, o.ref = n.ref
  /-- The configs are maps of serde_json. -/
  sorted : ∀ gw, .gateway gw ∈ pre ++ post → ∀ path,
    SortedAlong path gw.spec.config

namespace Change

variable (c : Change Backend Managed)

def before : World Backend Managed where
  objects := c.pre ++ c.old.toList ++ c.post
  watchNamespace := c.watchNamespace
  named o ho := c.named o <| by
    simp only [List.mem_append] at ho ⊢
    tauto

def after : World Backend Managed where
  objects := c.pre ++ c.new.toList ++ c.post
  watchNamespace := c.watchNamespace
  named o ho := c.named o <| by
    simp only [List.mem_append] at ho ⊢
    tauto

/-- What the event carries: the new version, or the last one. -/
def delivered : Option (StoredObject Backend Managed) := c.new.or c.old

/-- The mapper run on the object enqueues the gateway. -/
def reaches (api : GatewayApi) (o : StoredObject Backend Managed)
    (gw : MCPGGateway) : Prop :=
  refOf .gateway gw.metadata ∈ watched api c.after o

instance (api : GatewayApi) (o : StoredObject Backend Managed)
    (gw : MCPGGateway) : Decidable (c.reaches api o gw) :=
  inferInstanceAs (Decidable (_ ∈ _))

end Change

/-- Every gateway whose config the change makes another one is enqueued. -/
def Complete (libs : GatewayLibs Backend Managed) (cfg : OperatorConfig)
    (base : MCPGGateway → GatewayAnswers Backend Managed)
    (c : Change Backend Managed) : Prop :=
  ∀ gw ∈ c.after.gatewayStore,
    renderedConfig libs cfg base c.before.objects gw ≠
        renderedConfig libs cfg base c.after.objects gw →
      ∃ d ∈ c.delivered, c.reaches libs.render.gateway d gw

/-- A gateway that the old version is mapped to and the new one is not had
nothing from the old one, if it comes to render at all. -/
def LeavesNothing (libs : GatewayLibs Backend Managed)
    (base : MCPGGateway → GatewayAnswers Backend Managed)
    (c : Change Backend Managed) : Prop :=
  ∀ o ∈ c.old, ∀ n ∈ c.new, ∀ gw ∈ c.after.gatewayStore,
    c.reaches libs.render.gateway o gw →
    ¬ c.reaches libs.render.gateway n gw →
    (∃ ns r, Applies libs (readsFrom c.before.objects (base gw) gw) gw ns r) →
      fanIn libs.render c.before.objects gw =
        fanIn libs.render (c.pre ++ c.post) gw

/-! ## What decides the config -/

section Reading

variable {libs : GatewayLibs Backend Managed} {cfg : OperatorConfig}
  {base : MCPGGateway → GatewayAnswers Backend Managed}
  {A B : List (StoredObject Backend Managed)} {gw : MCPGGateway}
  {ns : String} {r : Resolved}

theorem renderedConfig_of_applies
    (h : Applies libs (readsFrom A (base gw) gw) gw ns r) :
    renderedConfig libs cfg base A gw =
      some (renderConfig libs.render cfg gw ns
        (r.inputs (readsFrom A (base gw) gw))) := by
  obtain ⟨cm, hmem⟩ := h.configMap_mem cfg
  unfold renderedConfig
  cases hfound : (Gateway.reconcileInner libs cfg
      (readsFrom A (base gw) gw) gw).trace.findSome? fun
        | .applyConfigMap config _ => some config
        | _ => none with
  | none => exact nomatch List.findSome?_eq_none_iff.mp hfound _ hmem
  | some config =>
      obtain ⟨e, he, hconfig⟩ := List.exists_of_findSome?_eq_some hfound
      cases e <;> cases hconfig
      exact congrArg some (h.carries_of_mem he).1

theorem renderedConfig_of_not_applies
    (h : ¬ ∃ ns r, Applies libs (readsFrom A (base gw) gw) gw ns r) :
    renderedConfig libs cfg base A gw = none := by
  refine List.findSome?_eq_none_iff.mpr fun e he => ?_
  cases e with
  | applyConfigMap config cm => exact absurd (applies_of_mem he rfl) h
  | _ => rfl

/-- The references of the gateway resolve alike. -/
structure SameReads (libs : GatewayLibs Backend Managed)
    (base : MCPGGateway → GatewayAnswers Backend Managed)
    (A B : List (StoredObject Backend Managed)) (gw : MCPGGateway) :
    Prop where
  pluginSet : ∀ ns, gw.metadata.namespace_ = some ns →
    resolvePluginSet libs.resolve (readsFrom A (base gw) gw).resolve ns gw =
      resolvePluginSet libs.resolve (readsFrom B (base gw) gw).resolve ns gw
  revocationList :
    resolveRevocationList libs.resolve (readsFrom A (base gw) gw).resolve
        gw =
      resolveRevocationList libs.resolve (readsFrom B (base gw) gw).resolve
        gw
  cluster :
    resolveCluster libs.render.gateway libs.cluster
        (readsFrom A (base gw) gw).cluster gw =
      resolveCluster libs.render.gateway libs.cluster
        (readsFrom B (base gw) gw).cluster gw

theorem SameReads.symm (h : SameReads libs base A B gw) :
    SameReads libs base B A gw where
  pluginSet ns hns := (h.pluginSet ns hns).symm
  revocationList := h.revocationList.symm
  cluster := h.cluster.symm

theorem SameReads.applies (h : SameReads libs base A B gw)
    (happlies : Applies libs (readsFrom A (base gw) gw) gw ns r) :
    Applies libs (readsFrom B (base gw) gw) gw ns r where
  past := happlies.past
  resolved := by
    have hns := namespace_of_passNamespace happlies.past
    have hresolved := happlies.resolved
    unfold resolveStep at hresolved ⊢
    rw [← h.pluginSet ns hns, ← h.revocationList, ← h.cluster]
    exact hresolved
  notHeld := happlies.notHeld

theorem sortedAlong_referencesMerged {k : String} {path : List String}
    (inputs : RenderInputs) (hplugins : k ≠ "plugins")
    (hgateway : k ≠ "gateway") (hcluster : k ≠ "cluster")
    (h : SortedAlong (k :: path) gw.spec.config) :
    SortedAlong (k :: path) (referencesMerged gw inputs) := by
  have hbase : SortedAlong (k :: path) (.obj gw.spec.config.fields) := by
    intro q hq m hm
    cases q with
    | nil =>
        cases hm
        cases hconfig : gw.spec.config with
        | obj fields =>
            refine h [] List.nil_prefix fields ?_
            rw [hconfig]
            rfl
        | _ => exact List.Pairwise.nil
    | cons k' q =>
        refine h _ hq m ?_
        rw [getPath_cons, get_obj, ← get_eq_lookup, ← getPath_cons] at hm
        exact hm
  have hmerged : ∀ view path',
      SortedAlong (k :: path) (mergePlugins gw.spec.config view path') := by
    intro view path'
    unfold mergePlugins
    cases view with
    | none =>
        cases path' with
        | none => exact hbase
        | some _ => exact hbase.update hgateway _
    | some view =>
        cases path' with
        | none => exact hbase.update hplugins _
        | some _ => exact (hbase.update hplugins _).update hgateway _
  unfold referencesMerged
  dsimp only
  split
  · exact hmerged _ _
  · unfold mergeClusterBlock
    split
    · exact hmerged _ _
    · exact (hmerged _ _).update hcluster _

theorem renderConfig_of_fanIn (hsorted : ∀ path,
      SortedAlong path gw.spec.config)
    (hns : gw.metadata.namespace_ = some ns)
    (h : fanIn libs.render A gw = fanIn libs.render B gw) :
    renderConfig libs.render cfg gw ns
        (r.inputs (readsFrom A (base gw) gw)) =
      renderConfig libs.render cfg gw ns
        (r.inputs (readsFrom B (base gw) gw)) := by
  have hns' : gw.metadata.namespace_.getD "" = ns := by
    rw [hns]
    rfl
  have hrules : getPath rulesPath
      (mergeRoutes libs.render.gateway gw ns
        (r.inputs (readsFrom A (base gw) gw)).routes gw.spec.config) =
      getPath rulesPath
        (mergeRoutes libs.render.gateway gw ns
          (r.inputs (readsFrom B (base gw) gw)).routes gw.spec.config) := by
    rw [← hns']
    exact (Prod.mk.inj h).1
  have hfederations : getPath federationsPath
      (mergeServers libs.render.server gw ns
        (r.inputs (readsFrom A (base gw) gw)).servers gw.spec.config) =
      getPath federationsPath
        (mergeServers libs.render.server gw ns
          (r.inputs (readsFrom B (base gw) gw)).servers gw.spec.config) := by
    rw [← hns']
    exact (Prod.mk.inj h).2
  rw [renderConfig_eq, renderConfig_eq]
  have hreferences : referencesMerged gw
      (r.inputs (readsFrom A (base gw) gw)) =
        referencesMerged gw (r.inputs (readsFrom B (base gw) gw)) := rfl
  rw [← hreferences]
  set merged := referencesMerged gw (r.inputs (readsFrom A (base gw) gw))
    with hmerged
  have hbase : ∀ k path, k ≠ "plugins" → k ≠ "gateway" → k ≠ "cluster" →
      SortedAlong (k :: path) merged := fun k path hp hg hc =>
    sortedAlong_referencesMerged _ hp hg hc (hsorted _)
  have hroutes : mergeRoutes libs.render.gateway gw ns
      (r.inputs (readsFrom A (base gw) gw)).routes merged =
        mergeRoutes libs.render.gateway gw ns
          (r.inputs (readsFrom B (base gw) gw)).routes merged := by
    have hread : getPath rulesPath merged =
        getPath rulesPath gw.spec.config :=
      getPath_referencesMerged gw _ (by decide) (by decide) (by decide)
    exact (writesAt_mergeRoutes _ _ _ _ _).eq_of_getPath
      (hbase _ _ (by decide) (by decide) (by decide))
      (writesAt_mergeRoutes _ _ _ _ _)
      ((rules_mergeRoutes_congr _ _ _ _ hread).trans
        (hrules.trans (rules_mergeRoutes_congr _ _ _ _ hread).symm))
  rw [hroutes]
  set routed := mergeRoutes libs.render.gateway gw ns
    (r.inputs (readsFrom B (base gw) gw)).routes merged with hrouted
  have hservers : mergeServers libs.render.server gw ns
      (r.inputs (readsFrom A (base gw) gw)).servers routed =
        mergeServers libs.render.server gw ns
          (r.inputs (readsFrom B (base gw) gw)).servers routed := by
    have hsorted' : SortedAlong federationsPath routed := by
      rcases writesAt_mergeRoutes libs.render.gateway gw ns
        (r.inputs (readsFrom B (base gw) gw)).routes merged with heq | heq
      · rw [hrouted, heq]
        exact hbase _ _ (by decide) (by decide) (by decide)
      · obtain ⟨x, heq⟩ := heq
        rw [hrouted, heq]
        exact (hbase _ _ (by decide) (by decide) (by decide)).update
          (by decide) _
    have hread : getPath federationsPath routed =
        getPath federationsPath gw.spec.config := by
      rw [hrouted, keeps_mergeRoutes _ _ _ _ (by decide)]
      exact getPath_referencesMerged gw _ (by decide) (by decide)
        (by decide)
    exact (writesAt_mergeServers _ _ _ _ _).eq_of_getPath hsorted'
      (writesAt_mergeServers _ _ _ _ _)
      ((federations_mergeServers_congr _ _ _ _ hread).trans
        (hfederations.trans
          (federations_mergeServers_congr _ _ _ _ hread).symm))
  rw [hservers]

theorem renderedConfig_of_fanIn (hreads : SameReads libs base A B gw)
    (hsorted : ∀ path, SortedAlong path gw.spec.config)
    (h : (∃ ns r, Applies libs (readsFrom A (base gw) gw) gw ns r) →
      fanIn libs.render A gw = fanIn libs.render B gw) :
    renderedConfig libs cfg base A gw = renderedConfig libs cfg base B gw := by
  by_cases happlies :
      ∃ ns r, Applies libs (readsFrom A (base gw) gw) gw ns r
  · have hfan := h happlies
    obtain ⟨ns, r, happlies⟩ := happlies
    rw [renderedConfig_of_applies happlies,
      renderedConfig_of_applies (hreads.applies happlies)]
    exact congrArg some (renderConfig_of_fanIn hsorted
      (namespace_of_passNamespace happlies.past) hfan)
  · rw [renderedConfig_of_not_applies happlies,
      renderedConfig_of_not_applies fun ⟨ns, r, hB⟩ =>
        happlies ⟨ns, r, hreads.symm.applies hB⟩]

variable (cfg) in
theorem fanIn_of_renderedConfig (hreads : SameReads libs base A B gw)
    (happlies : Applies libs (readsFrom A (base gw) gw) gw ns r)
    (h : renderedConfig libs cfg base A gw =
      renderedConfig libs cfg base B gw) :
    fanIn libs.render A gw = fanIn libs.render B gw := by
  obtain rfl : ns = gw.metadata.namespace_.getD "" := by
    rw [namespace_of_passNamespace happlies.past]
    rfl
  rw [renderedConfig_of_applies happlies,
    renderedConfig_of_applies (hreads.applies happlies)] at h
  have hconfig := Option.some.inj h
  have hrules := congrArg (getPath rulesPath) hconfig
  have hfederations := congrArg (getPath federationsPath) hconfig
  rw [rules_renderConfig, rules_renderConfig] at hrules
  rw [federations_renderConfig, federations_renderConfig] at hfederations
  exact Prod.ext hrules hfederations

end Reading

/-! ## An object the mapper does not take to the gateway -/

section Mapping

variable {libs : GatewayLibs Backend Managed}
  {base : MCPGGateway → GatewayAnswers Backend Managed}
  {w : World Backend Managed} {gw : MCPGGateway}
  {o : StoredObject Backend Managed}
  {pre post : List (StoredObject Backend Managed)}

theorem mem_gatewaysWhere {store : List MCPGGateway}
    {uses : MCPGGateway → Bool} (hgw : gw ∈ store) (huses : uses gw = true) :
    refOf .gateway gw.metadata ∈ gatewaysWhere store uses :=
  List.mem_map_of_mem (List.mem_filter.mpr ⟨hgw, huses⟩)

theorem findSome?_insert {β : Type}
    {f : StoredObject Backend Managed → Option β} (h : f o = none) :
    (pre ++ o :: post).findSome? f = (pre ++ post).findSome? f := by
  rw [List.findSome?_append, List.findSome?_append, List.findSome?_cons, h]

theorem filterMap_insert {β : Type}
    {f : StoredObject Backend Managed → Option β} (h : f o = none) :
    (pre ++ o :: post).filterMap f = (pre ++ post).filterMap f := by
  rw [List.filterMap_append, List.filterMap_append, List.filterMap_cons, h]

theorem sameReads_insert
    (hset : ∀ ns name, gw.metadata.namespace_ = some ns →
      gw.spec.pluginSetRef = some name → pluginSetAt ns name o = none)
    (hlist : revocationListAt
      (gw.spec.revocationListRef.getD Gateway.defaultRevocationListName) o =
        none)
    (hcluster : ∀ name, gw.spec.clusterRef = some name →
      clusterAt name o = none) :
    SameReads libs base (pre ++ o :: post) (pre ++ post) gw where
  pluginSet ns hns := by
    unfold resolvePluginSet
    cases href : gw.spec.pluginSetRef with
    | none => rfl
    | some name =>
        have hread : (readsFrom (pre ++ o :: post) (base gw)
            gw).resolve.getPluginSet name =
            (readsFrom (pre ++ post) (base gw) gw).resolve.getPluginSet
              name := by
          unfold readsFrom
          dsimp only
          rw [hns, Option.getD_some, findSome?_insert (hset ns name hns href)]
        dsimp only
        rw [hread]
        rfl
  revocationList := by
    have hread : (readsFrom (pre ++ o :: post) (base gw)
        gw).resolve.getRevocationList
          (gw.spec.revocationListRef.getD Gateway.defaultRevocationListName) =
        (readsFrom (pre ++ post) (base gw) gw).resolve.getRevocationList
          (gw.spec.revocationListRef.getD
            Gateway.defaultRevocationListName) := by
      unfold readsFrom
      dsimp only
      rw [findSome?_insert hlist]
    unfold resolveRevocationList
    dsimp only
    rw [hread]
    rfl
  cluster := by
    unfold resolveCluster
    cases href : gw.spec.clusterRef with
    | none => rfl
    | some name =>
        have hread : (readsFrom (pre ++ o :: post) (base gw)
            gw).cluster.getCluster name =
            (readsFrom (pre ++ post) (base gw) gw).cluster.getCluster
              name := by
          unfold readsFrom
          dsimp only
          rw [findSome?_insert (hcluster name href)]
        dsimp only
        rw [hread]
        rfl

theorem sameReads_of_not_reached (hgw : gw ∈ w.gatewayStore)
    (hmiss : refOf .gateway gw.metadata ∉ watched libs.render.gateway w o) :
    SameReads libs base (pre ++ o :: post) (pre ++ post) gw := by
  refine sameReads_insert ?_ ?_ ?_
  · intro ns name hns href
    cases o with
    | pluginSet set =>
        refine if_neg fun hset => hmiss ?_
        show _ ∈ mapPluginSetToGateways w.gatewayStore set
        unfold mapPluginSetToGateways
        rw [hset.2]
        refine mem_gatewaysWhere hgw ?_
        unfold gatewayUsesPluginSet
        rw [hns, hset.1, href, beq_self_eq_true, beq_self_eq_true]
        rfl
    | _ => rfl
  · cases o with
    | revocationList rl =>
        refine if_neg fun hname => hmiss ?_
        show _ ∈ mapRevocationListToGateways w.gatewayStore rl
        unfold mapRevocationListToGateways
        rw [hname]
        exact mem_gatewaysWhere hgw (beq_self_eq_true _)
    | _ => rfl
  · intro name href
    cases o with
    | cluster cl =>
        refine if_neg fun hname => hmiss ?_
        show _ ∈ mapClusterToGateways w.gatewayStore cl
        unfold mapClusterToGateways
        rw [hname]
        refine mem_gatewaysWhere hgw ?_
        rw [href, beq_self_eq_true]
    | _ => rfl

theorem applyRoutesToConfig_insert {api : GatewayApi} {route : MCPGRoute}
    {routes routes' : List MCPGRoute} {name ns : String}
    {accepted : List String}
    (h : routeAccepted api name ns accepted route = false) (config : Json) :
    applyRoutesToConfig api (routes ++ route :: routes') name ns accepted
        config =
      applyRoutesToConfig api (routes ++ routes') name ns accepted
        config := by
  unfold applyRoutesToConfig
  rw [List.filter_append, List.filter_append, List.filter_cons_of_neg
    (Bool.eq_false_iff.mp h)]

theorem not_routeAccepted_of_not_reached {route : MCPGRoute} {ns : String}
    {accepted : List String} (hgw : gw ∈ w.gatewayStore)
    (hns : gw.metadata.namespace_ = some ns)
    (hmiss : refOf .gateway gw.metadata ∉
      watched libs.render.gateway w (.route route)) :
    routeAccepted libs.render.gateway (gw.metadata.name.getD "") ns accepted
      route = false := by
  refine Bool.eq_false_iff.mpr fun haccepted => hmiss ?_
  show _ ∈ mapRouteToGateways libs.render.gateway w.gatewayStore route
  unfold routeAccepted at haccepted
  unfold mapRouteToGateways
  cases hroute : route.metadata.namespace_ with
  | none =>
      rw [hroute] at haccepted
      cases haccepted
  | some routeNs =>
      rw [hroute] at haccepted
      dsimp only at haccepted ⊢
      rw [Bool.and_eq_true, Bool.and_eq_true, beq_iff_eq, beq_iff_eq]
        at haccepted
      obtain ⟨⟨hname, htarget⟩, _⟩ := haccepted
      refine mem_gatewaysWhere hgw ?_
      rw [hns, hname, htarget, ObjectMeta.nameAny, beq_self_eq_true,
        beq_self_eq_true]
      rfl

theorem applyServer_of_not_reached {server : MCPGServer} {ns : String}
    (hgw : gw ∈ w.gatewayStore) (hns : gw.metadata.namespace_ = some ns)
    (hmiss : refOf .gateway gw.metadata ∉
      watched libs.render.gateway w (.server server)) (acc : Json × Nat) :
    applyServer libs.render.server (gw.metadata.name.getD "") ns acc server =
      acc := by
  unfold applyServer
  split
  swap
  · rfl
  next serverNs federate hserver hfederate =>
  refine if_pos ?_
  by_contra hselected
  push Not at hselected
  obtain ⟨rfl, hname, _⟩ := hselected
  refine hmiss ?_
  show _ ∈ mapServerToGateways w.gatewayStore server
  unfold mapServerToGateways
  rw [hserver, hfederate]
  refine mem_gatewaysWhere hgw ?_
  rw [hns, hname, ObjectMeta.nameAny, beq_self_eq_true, beq_self_eq_true]
  rfl

theorem fanIn_of_not_reached {ns : String} (hgw : gw ∈ w.gatewayStore)
    (hns : gw.metadata.namespace_ = some ns)
    (hmiss : refOf .gateway gw.metadata ∉ watched libs.render.gateway w o) :
    fanIn libs.render (pre ++ o :: post) gw =
      fanIn libs.render (pre ++ post) gw := by
  unfold fanIn
  rw [hns]
  refine Prod.ext ?_ ?_
  · dsimp only [Option.getD_some]
    by_cases hroute : asRoute o = none
    · rw [filterMap_insert hroute]
    · obtain ⟨route, rfl⟩ : ∃ route, o = .route route := by
        cases o with
        | route route => exact ⟨route, rfl⟩
        | _ => exact absurd rfl hroute
      have hsome : asRoute (.route route : StoredObject Backend Managed) =
        some route := rfl
      rw [List.filterMap_append, List.filterMap_append,
        List.filterMap_cons_some hsome]
      unfold mergeRoutes
      dsimp only
      rw [applyRoutesToConfig_insert
        (not_routeAccepted_of_not_reached hgw hns hmiss)]
  · dsimp only [Option.getD_some]
    cases hserver : serverIn ns o with
    | none => rw [filterMap_insert hserver]
    | some server =>
        obtain rfl : o = .server server := by
          cases o with
          | server s =>
              unfold serverIn at hserver
              dsimp only at hserver
              split at hserver
              · cases hserver
                rfl
              · cases hserver
          | _ => cases hserver
        rw [List.filterMap_append, List.filterMap_append,
          List.filterMap_cons_some hserver]
        unfold mergeServers applyServersToConfig
        dsimp only
        rw [List.foldl_append, List.foldl_append, List.foldl_cons,
          applyServer_of_not_reached hgw hns hmiss]

/-- It renders the gateway as if it were not there. -/
theorem renderedConfig_of_not_reached {cfg : OperatorConfig}
    (hgw : gw ∈ w.gatewayStore)
    (hsorted : ∀ path, SortedAlong path gw.spec.config)
    (hmiss : refOf .gateway gw.metadata ∉ watched libs.render.gateway w o) :
    renderedConfig libs cfg base (pre ++ o :: post) gw =
      renderedConfig libs cfg base (pre ++ post) gw :=
  renderedConfig_of_fanIn (sameReads_of_not_reached hgw hmiss) hsorted
    fun ⟨_, _, happlies⟩ =>
      fanIn_of_not_reached hgw (namespace_of_passNamespace happlies.past)
        hmiss

end Mapping

/-! ## The change -/

section Changes

variable {libs : GatewayLibs Backend Managed} {cfg : OperatorConfig}
  {base : MCPGGateway → GatewayAnswers Backend Managed}
  {c : Change Backend Managed} {gw : MCPGGateway}
  {o n : StoredObject Backend Managed}

theorem Change.before_objects (ho : c.old = some o) :
    c.before.objects = c.pre ++ o :: c.post := by
  show c.pre ++ c.old.toList ++ c.post = _
  rw [ho]
  exact List.append_assoc _ _ _

theorem Change.before_objects_none (ho : c.old = none) :
    c.before.objects = c.pre ++ c.post := by
  show c.pre ++ c.old.toList ++ c.post = _
  rw [ho]
  exact congrArg (· ++ c.post) (List.append_nil _)

theorem Change.after_objects (hn : c.new = some n) :
    c.after.objects = c.pre ++ n :: c.post := by
  show c.pre ++ c.new.toList ++ c.post = _
  rw [hn]
  exact List.append_assoc _ _ _

theorem Change.after_objects_none (hn : c.new = none) :
    c.after.objects = c.pre ++ c.post := by
  show c.pre ++ c.new.toList ++ c.post = _
  rw [hn]
  exact congrArg (· ++ c.post) (List.append_nil _)

theorem Change.sorted_of_mem (hgw : gw ∈ c.after.gatewayStore)
    (path : List String) : SortedAlong path gw.spec.config := by
  refine c.sorted gw ?_ path
  have hmem := (mem_gatewayStore.mp hgw).1
  rcases List.mem_append.mp hmem with hmem | hpost
  · rcases List.mem_append.mp hmem with hpre | hnew
    · exact List.mem_append_left _ hpre
    · have hkind := c.fansIn _ (List.mem_append_right _ hnew)
      simp [StoredObject.kind] at hkind
  · exact List.mem_append_right _ hpost

/-- What a gateway names is mapped by its name, which an edit keeps. -/
theorem fansIn_of_leftBehind (ho : o ∈ c.old) (hn : n ∈ c.new)
    (hreached : c.reaches libs.render.gateway o gw)
    (hmiss : ¬ c.reaches libs.render.gateway n gw) :
    (∃ route, o = .route route) ∨ ∃ server, o = .server server := by
  have href := c.sameRef o ho n hn
  have hkind : o.kind = n.kind := congrArg ObjectRef.kind href
  have hname : o.metadata.name = n.metadata.name := by
    have hnameAny : o.metadata.nameAny = n.metadata.nameAny :=
      congrArg ObjectRef.name href
    have hnamed : ∀ x ∈ c.pre ++ c.old.toList ++ c.new.toList ++ c.post,
        x.metadata.name = some x.metadata.nameAny := by
      intro x hx
      obtain ⟨name, hx⟩ := Option.isSome_iff_exists.mp (c.named x hx)
      rw [ObjectMeta.nameAny, hx]
      rfl
    rw [hnamed o, hnamed n, hnameAny]
    · exact List.mem_append_left _
        (List.mem_append_right _ (Option.mem_toList.mpr hn))
    · exact List.mem_append_left _ (List.mem_append_left _
        (List.mem_append_right _ (Option.mem_toList.mpr ho)))
  have hfansIn := c.fansIn o
    (List.mem_append_left _ (Option.mem_toList.mpr ho))
  cases o with
  | route route => exact .inl ⟨route, rfl⟩
  | server server => exact .inr ⟨server, rfl⟩
  | pluginSet set =>
      cases n <;> cases hkind
      next set' =>
        have hns : set.metadata.namespace_ = set'.metadata.namespace_ :=
          congrArg ObjectRef.namespace_ href
        refine absurd ?_ hmiss
        have hname' : set.metadata.name = set'.metadata.name := hname
        change _ ∈ mapPluginSetToGateways c.after.gatewayStore set
          at hreached
        show _ ∈ mapPluginSetToGateways c.after.gatewayStore set'
        unfold mapPluginSetToGateways at hreached ⊢
        rw [← hname', ← hns]
        exact hreached
  | revocationList rl =>
      cases n <;> cases hkind
      next rl' =>
        refine absurd ?_ hmiss
        have hname' : rl.metadata.name = rl'.metadata.name := hname
        change _ ∈ mapRevocationListToGateways c.after.gatewayStore rl
          at hreached
        show _ ∈ mapRevocationListToGateways c.after.gatewayStore rl'
        unfold mapRevocationListToGateways at hreached ⊢
        rw [← hname']
        exact hreached
  | cluster cl =>
      cases n <;> cases hkind
      next cl' =>
        refine absurd ?_ hmiss
        have hname' : cl.metadata.name = cl'.metadata.name := hname
        change _ ∈ mapClusterToGateways c.after.gatewayStore cl at hreached
        show _ ∈ mapClusterToGateways c.after.gatewayStore cl'
        unfold mapClusterToGateways at hreached ⊢
        rw [← hname']
        exact hreached
  | _ => simp [StoredObject.kind] at hfansIn

/-- A route or a server answers none of the reads of the references. -/
theorem sameReads_of_fansIn
    (h : (∃ route, o = .route route) ∨ ∃ server, o = .server server) :
    SameReads libs base (c.pre ++ o :: c.post) (c.pre ++ c.post) gw := by
  rcases h with ⟨route, rfl⟩ | ⟨server, rfl⟩
  · exact sameReads_insert (fun _ _ _ _ => rfl) rfl fun _ _ => rfl
  · exact sameReads_insert (fun _ _ _ _ => rfl) rfl fun _ _ => rfl

theorem complete_of_leavesNothing (h : LeavesNothing libs base c) :
    Complete libs cfg base c := by
  intro gw hgw hdiffers
  by_contra hmiss
  push Not at hmiss
  have hsorted := Change.sorted_of_mem hgw
  refine hdiffers ?_
  cases hn : c.new with
  | none =>
      rw [Change.after_objects_none hn]
      cases ho : c.old with
      | none => rw [Change.before_objects_none ho]
      | some o =>
          have hdelivered : o ∈ c.delivered := by
            unfold Change.delivered
            rw [hn, ho]
            rfl
          rw [Change.before_objects ho]
          exact renderedConfig_of_not_reached hgw hsorted
            (hmiss o hdelivered)
  | some n =>
      have hdelivered : n ∈ c.delivered := by
        unfold Change.delivered
        rw [hn]
        rfl
      have hmissed := hmiss n hdelivered
      rw [Change.after_objects hn,
        renderedConfig_of_not_reached hgw hsorted hmissed]
      cases ho : c.old with
      | none => rw [Change.before_objects_none ho]
      | some o =>
          by_cases hreached : c.reaches libs.render.gateway o gw
          · -- the gateway left behind
            rw [Change.before_objects ho]
            refine renderedConfig_of_fanIn
              (sameReads_of_fansIn
                (fansIn_of_leftBehind ho hn hreached hmissed))
              hsorted fun happlies => ?_
            rw [← Change.before_objects ho] at happlies ⊢
            exact h o ho n hn gw hgw hreached hmissed happlies
          · rw [Change.before_objects ho]
            exact renderedConfig_of_not_reached hgw hsorted hreached

theorem leavesNothing_of_complete (h : Complete libs cfg base c) :
    LeavesNothing libs base c := by
  intro o ho n hn gw hgw hreached hmiss ⟨ns, r, happlies⟩
  have hfansIn := fansIn_of_leftBehind ho hn hreached hmiss
  have hreads : SameReads libs base c.before.objects (c.pre ++ c.post)
      gw := by
    rw [Change.before_objects ho]
    exact sameReads_of_fansIn hfansIn
  have hsame : renderedConfig libs cfg base c.before.objects gw =
      renderedConfig libs cfg base c.after.objects gw := by
    by_contra hdiffers
    obtain ⟨d, hd, hreaches⟩ := h gw hgw hdiffers
    unfold Change.delivered at hd
    rw [Option.mem_def.mp hn] at hd
    cases hd
    exact hmiss hreaches
  refine fanIn_of_renderedConfig cfg hreads happlies ?_
  rw [hsame, Change.after_objects hn]
  exact renderedConfig_of_not_reached hgw (Change.sorted_of_mem hgw) hmiss

/-- Every gateway whose config a change touches is enqueued, if and only if
no gateway that an edit moves a route or a server away from had anything
from it. -/
theorem complete_iff :
    Complete libs cfg base c ↔ LeavesNothing libs base c :=
  ⟨leavesNothing_of_complete, complete_of_leavesNothing⟩

end Changes

/-! ## An edit that moves a route -/

namespace Sample

/-- A gateway of the namespace, without inline config. -/
def gatewayNamed (name : String) : MCPGGateway :=
  { metadata :=
      { name := some name, namespace_ := some "payments"
        finalizers := some [operatorFinalizer] }
    spec := { config := .obj [] } }

def routeTo (gateway : String) : MCPGRoute :=
  { metadata := { name := some "refunds", namespace_ := some "payments" }
    spec :=
      { gatewayRef := gateway, tools := ["refund.issue"]
        tenant := some "acme" } }

/-- The route is edited from one gateway to the other. -/
def moved : Change String Unit where
  pre := [.gateway (gatewayNamed "edge"), .gateway (gatewayNamed "internal")]
  old := some (.route (routeTo "edge"))
  new := some (.route (routeTo "internal"))
  post := []
  watchNamespace := none
  named := by simp [StoredObject.metadata, gatewayNamed, routeTo]
  fansIn := by simp [StoredObject.kind]
  sameRef := by
    rintro _ ⟨⟩ _ ⟨⟩
    rfl
  sorted := by
    intro gw hgw path q _ m hm
    have hconfig : gw.spec.config = .obj [] := by
      rcases List.mem_cons.mp hgw with heq | hgw
      · cases heq
        rfl
      · cases List.mem_singleton.mp hgw
        rfl
    rw [hconfig] at hm
    cases q with
    | nil =>
        cases hm
        exact List.Pairwise.nil
    | cons k q => cases hm

end Sample

/-- The route is moved from `edge` to `internal`: `edge`, whose rule for the
tool goes, is not enqueued. -/
theorem not_complete_moved :
    ¬ Complete Gateway.Sample.libs Gateway.Sample.cfg
      (fun _ => Gateway.Sample.answers) Sample.moved := by
  intro h
  have hleft := leavesNothing_of_complete h (.route (Sample.routeTo "edge"))
    rfl (.route (Sample.routeTo "internal")) rfl
    (Sample.gatewayNamed "edge") List.mem_cons_self (by decide +kernel)
    (by decide +kernel)
    ⟨"payments", Gateway.Sample.unreferenced, rfl, rfl, rfl⟩
  exact absurd (congrArg Prod.fst hleft) (by decide +kernel)

end McpgOperator.Watch
