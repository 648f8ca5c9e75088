import McpgOperator.Proofs.ConfigFrame
import McpgOperator.Proofs.GatewayPass

/-!
# What fans into a rendered config

The tool-access rules of a rendered config are those of `spec.config` with
the routes folded in, and its federations those of `spec.config` with the
servers appended: no other overlay touches either place, and neither reads
anything else. A list that fails is the empty list.

A pass therefore remembers nothing of the passes before it. What an earlier
pass merged is gone from the config that a pass with a failed list applies,
and back in the first that lists again.
-/

namespace McpgOperator.Gateway

open McpgOperator.Kube McpgOperator.Templates McpgOperator.Cluster Json

/-! ## The two places -/

def rulesPath : List String :=
  ["governance", "policy", "tool_access", "rules"]

def federationsPath : List String := ["mcp", "federations"]

/-- A write through `ensure_path` makes of the leaf something that depends on
the leaf alone. -/
theorem getPath_ensurePath_congr {path : List String} {v w : Json}
    (h : getPath path v = getPath path w) (f : Json → Json) :
    getPath path (ensurePath path f v) =
      getPath path (ensurePath path f w) := by
  rw [getPath_ensurePath, getPath_ensurePath, h]

theorem rules_mergeRoutes_congr (api : GatewayApi) (obj : MCPGGateway)
    (ns : String) (listed : Except KubeError (List MCPGRoute))
    {config config' : Json}
    (h : getPath rulesPath config = getPath rulesPath config') :
    getPath rulesPath (mergeRoutes api obj ns listed config) =
      getPath rulesPath (mergeRoutes api obj ns listed config') := by
  cases listed with
  | error e => exact h
  | ok routes =>
      unfold mergeRoutes applyRoutesToConfig
      dsimp only
      split
      · exact h
      · exact getPath_ensurePath_congr h _

theorem federations_applyServer_congr (api : ServerApi)
    (gatewayName ns : String) (server : MCPGServer) {acc acc' : Json × Nat}
    (h : getPath federationsPath acc.1 = getPath federationsPath acc'.1) :
    getPath federationsPath (applyServer api gatewayName ns acc server).1 =
      getPath federationsPath
        (applyServer api gatewayName ns acc' server).1 := by
  unfold federationsPath at h ⊢
  unfold applyServer
  split
  · dsimp only
    rw [h]
    split
    · exact h
    · split
      · exact getPath_ensurePath_congr h _
      · exact getPath_ensurePath_congr h _
  · exact h

theorem federations_mergeServers_congr (api : ServerApi) (obj : MCPGGateway)
    (ns : String) (listed : Except KubeError (List MCPGServer))
    {config config' : Json}
    (h : getPath federationsPath config = getPath federationsPath config') :
    getPath federationsPath (mergeServers api obj ns listed config) =
      getPath federationsPath (mergeServers api obj ns listed config') := by
  cases listed with
  | error e => exact h
  | ok servers =>
      show getPath federationsPath
          (servers.foldl (applyServer api _ ns) (config, 0)).1 =
        getPath federationsPath
          (servers.foldl (applyServer api _ ns) (config', 0)).1
      have hfold : ∀ acc acc' : Json × Nat,
          getPath federationsPath acc.1 = getPath federationsPath acc'.1 →
          getPath federationsPath (servers.foldl
              (applyServer api (obj.metadata.name.getD "") ns) acc).1 =
            getPath federationsPath (servers.foldl
              (applyServer api (obj.metadata.name.getD "") ns) acc').1 := by
        induction servers with
        | nil => exact fun _ _ hacc => hacc
        | cons server servers ih =>
            intro acc acc' hacc
            exact ih _ _ (federations_applyServer_congr api _ ns server hacc)
      exact hfold (config, 0) (config', 0) h

theorem writesAt_mergeRoutes (api : GatewayApi) (obj : MCPGGateway)
    (ns : String) (listed : Except KubeError (List MCPGRoute))
    (config : Json) :
    WritesAt rulesPath config (mergeRoutes api obj ns listed config) := by
  cases listed with
  | error e => exact .inl rfl
  | ok routes =>
      unfold mergeRoutes applyRoutesToConfig
      dsimp only
      split
      · exact .inl rfl
      · exact .ensurePath _ _ _

theorem writesAt_applyServer (api : ServerApi) (gatewayName ns : String)
    (acc : Json × Nat) (server : MCPGServer) :
    WritesAt federationsPath acc.1
      (applyServer api gatewayName ns acc server).1 := by
  unfold applyServer
  split
  · dsimp only
    split
    · exact .inl rfl
    · split
      · exact .ensurePath _ _ _
      · exact .ensurePath _ _ _
  · exact .inl rfl

theorem writesAt_mergeServers (api : ServerApi) (obj : MCPGGateway)
    (ns : String) (listed : Except KubeError (List MCPGServer))
    (config : Json) :
    WritesAt federationsPath config
      (mergeServers api obj ns listed config) := by
  cases listed with
  | error e => exact .inl rfl
  | ok servers =>
      have hfold : ∀ acc : Json × Nat,
          WritesAt federationsPath acc.1 (servers.foldl
            (applyServer api (obj.metadata.name.getD "") ns) acc).1 := by
        induction servers with
        | nil => exact fun _ => .inl rfl
        | cons server servers ih =>
            exact fun acc =>
              (writesAt_applyServer api _ ns acc server).trans (ih _)
      exact hfold (config, 0)

/-! ## In the rendered config -/

section Rendering

variable (libs : RenderLibs) (cfg : OperatorConfig) (obj : MCPGGateway)
  (ns : String) (inputs : RenderInputs)

/-- The config when the routes come to be merged: the references are. -/
def referencesMerged : Json :=
  let config := mergePlugins obj.spec.config inputs.view
    (if inputs.revocationList then some revocationListMountPath else none)
  match inputs.clusterBlock with
  | none => config
  | some block => mergeClusterBlock block config

theorem renderConfig_eq :
    renderConfig libs cfg obj ns inputs =
      applyCloudDefaultPlugins cfg obj
        (injectCloudIdentity libs cfg obj
          (mergeServers libs.server obj ns inputs.servers
            (mergeRoutes libs.gateway obj ns inputs.routes
              (referencesMerged obj inputs)))) := rfl

theorem getPath_referencesMerged {p : List String}
    (hplugins : Diverges ["plugins"] p)
    (hregistry : Diverges ["gateway", "plugin_registry"] p)
    (hcluster : Diverges ["cluster"] p) :
    getPath p (referencesMerged obj inputs) = getPath p obj.spec.config := by
  unfold referencesMerged
  dsimp only
  split
  · exact keeps_mergePlugins _ _ hplugins hregistry obj.spec.config
  · rw [keeps_mergeClusterBlock _ hcluster]
    exact keeps_mergePlugins _ _ hplugins hregistry obj.spec.config

theorem rules_renderConfig :
    getPath rulesPath (renderConfig libs cfg obj ns inputs) =
      getPath rulesPath
        (mergeRoutes libs.gateway obj ns inputs.routes obj.spec.config) := by
  have hbase : getPath rulesPath (referencesMerged obj inputs) =
      getPath rulesPath obj.spec.config :=
    getPath_referencesMerged obj inputs (by decide) (by decide) (by decide)
  rw [renderConfig_eq,
    keeps_applyCloudDefaultPlugins cfg obj (by decide) (by decide)
      (by decide),
    keeps_injectCloudIdentity libs cfg obj (by decide) (by decide)
      (by decide),
    keeps_mergeServers _ _ _ _ (by decide)]
  exact rules_mergeRoutes_congr _ _ _ _ hbase

theorem federations_renderConfig :
    getPath federationsPath (renderConfig libs cfg obj ns inputs) =
      getPath federationsPath
        (mergeServers libs.server obj ns inputs.servers obj.spec.config) := by
  have hbase : getPath federationsPath (referencesMerged obj inputs) =
      getPath federationsPath obj.spec.config :=
    getPath_referencesMerged obj inputs (by decide) (by decide) (by decide)
  rw [renderConfig_eq,
    keeps_applyCloudDefaultPlugins cfg obj (by decide) (by decide)
      (by decide),
    keeps_injectCloudIdentity libs cfg obj (by decide) (by decide)
      (by decide)]
  refine federations_mergeServers_congr _ _ _ _ ?_
  rw [keeps_mergeRoutes _ _ _ _ (by decide)]
  exact hbase

end Rendering

/-! ## Histories of passes -/

section Histories

variable {Backend Managed : Type}

/-- A pass of a history, by the object it is handed and the answers it
gets. -/
structure PassInputs (Backend Managed : Type) where
  obj : MCPGGateway
  ans : GatewayAnswers Backend Managed

namespace PassInputs

variable (libs : GatewayLibs Backend Managed) (cfg : OperatorConfig)

def pass (p : PassInputs Backend Managed) : Pass :=
  reconcileInner libs cfg p.ans p.obj

/-- The configs the pass applies. -/
def applied (p : PassInputs Backend Managed) : List Json :=
  (p.pass libs cfg).trace.filterMap fun
    | .applyConfigMap config _ => some config
    | _ => none

/-- Both lists of the pass succeed. -/
def lists (p : PassInputs Backend Managed) : Bool :=
  p.ans.listRoutes.isOk && p.ans.listServers.isOk

/-- The pass with an empty list in place of one that failed. -/
def withEmptyLists (p : PassInputs Backend Managed) :
    PassInputs Backend Managed :=
  { p with
    ans :=
      { p.ans with
        listRoutes := .ok (p.ans.listRoutes.toOption.getD [])
        listServers := .ok (p.ans.listServers.toOption.getD []) } }

end PassInputs

/-- What the gateway's ConfigMap holds after the passes: the config of the
last apply that succeeded. -/
def liveConfig (libs : GatewayLibs Backend Managed) (cfg : OperatorConfig)
    (history : List (PassInputs Backend Managed)) : Option Json :=
  history.foldl
    (fun live p =>
      if p.ans.applyConfigMap.isOk then
        (p.applied libs cfg).getLast?.or live
      else live)
    none

/-- The array at a place of a config. -/
def items (path : List String) (config : Json) : List Json :=
  ((config.getPath path).bind Json.asArray).getD []

/-- No pass with a failed list drops a rule or a federation that the last
pass with both lists merged. -/
def KeepsMerged (libs : GatewayLibs Backend Managed) (cfg : OperatorConfig)
    (history : List (PassInputs Backend Managed)) : Prop :=
  ∀ past good since bad, history = past ++ good :: since ++ [bad] →
    good.lists = true → (∀ p ∈ since, p.lists = false) →
    bad.lists = false →
    ∀ path ∈ [rulesPath, federationsPath],
    ∀ config ∈ good.applied libs cfg, ∀ config' ∈ bad.applied libs cfg,
    ∀ item ∈ items path config, item ∉ items path good.obj.spec.config →
      item ∈ items path config'

variable {libs : GatewayLibs Backend Managed} {cfg : OperatorConfig}

theorem mem_applied {p : PassInputs Backend Managed} {config : Json} :
    config ∈ p.applied libs cfg ↔
      ∃ cm, .applyConfigMap config cm ∈ (p.pass libs cfg).trace := by
  unfold PassInputs.applied
  rw [List.mem_filterMap]
  constructor
  · rintro ⟨e, he, hconfig⟩
    cases e <;> cases hconfig
    exact ⟨_, he⟩
  · rintro ⟨cm, hmem⟩
    exact ⟨_, hmem, rfl⟩

theorem eq_renderConfig_of_mem_applied {p : PassInputs Backend Managed}
    {config : Json} (h : config ∈ p.applied libs cfg) :
    ∃ ns r, Applies libs p.ans p.obj ns r ∧
      config = renderConfig libs.render cfg p.obj ns (r.inputs p.ans) := by
  obtain ⟨cm, hmem⟩ := mem_applied.mp h
  obtain ⟨ns, r, happlies⟩ := applies_of_mem hmem rfl
  exact ⟨ns, r, happlies, (happlies.carries_of_mem hmem).1⟩

theorem liveConfig_concat (history : List (PassInputs Backend Managed))
    {p : PassInputs Backend Managed} {config : Json}
    (happlied : config ∈ p.applied libs cfg)
    (hok : p.ans.applyConfigMap = .ok ()) :
    liveConfig libs cfg (history ++ [p]) = some config := by
  have hall : ∀ config' ∈ p.applied libs cfg, config' = config := by
    intro config' hmem
    obtain ⟨ns, r, happlies, rfl⟩ := eq_renderConfig_of_mem_applied happlied
    obtain ⟨cm, hmem'⟩ := mem_applied.mp hmem
    exact (happlies.carries_of_mem hmem').1
  have hne : p.applied libs cfg ≠ [] := List.ne_nil_of_mem happlied
  have hlast : (p.applied libs cfg).getLast? = some config := by
    rw [List.getLast?_eq_some_getLast hne,
      hall _ (List.getLast_mem hne)]
  unfold liveConfig
  rw [List.foldl_append, List.foldl_cons, List.foldl_nil, hok, hlast]
  rfl

theorem mergeRoutes_empty (api : GatewayApi) (obj : MCPGGateway)
    (ns : String) (config : Json) :
    mergeRoutes api obj ns (.ok []) config = config := rfl

theorem mergeServers_empty (api : ServerApi) (obj : MCPGGateway)
    (ns : String) (config : Json) :
    mergeServers api obj ns (.ok []) config = config := rfl

/-- A list that fails is the empty list. -/
theorem renderConfig_withEmptyLists (libs : RenderLibs)
    (cfg : OperatorConfig) (p : PassInputs Backend Managed) (ns : String)
    (r : Resolved) :
    renderConfig libs cfg p.obj ns (r.inputs p.withEmptyLists.ans) =
      renderConfig libs cfg p.obj ns (r.inputs p.ans) := by
  have hroutes : ∀ config,
      mergeRoutes libs.gateway p.obj ns p.withEmptyLists.ans.listRoutes
          config =
        mergeRoutes libs.gateway p.obj ns p.ans.listRoutes config := by
    intro config
    unfold PassInputs.withEmptyLists
    cases p.ans.listRoutes with
    | error e => exact mergeRoutes_empty _ _ _ _
    | ok routes => rfl
  have hservers : ∀ config,
      mergeServers libs.server p.obj ns p.withEmptyLists.ans.listServers
          config =
        mergeServers libs.server p.obj ns p.ans.listServers config := by
    intro config
    unfold PassInputs.withEmptyLists
    cases p.ans.listServers with
    | error e => exact mergeServers_empty _ _ _ _
    | ok servers => rfl
  rw [renderConfig_eq, renderConfig_eq]
  congr 2
  exact (hservers _).trans (congrArg _ (hroutes _))

theorem pass_withEmptyLists {p : PassInputs Backend Managed} :
    p.withEmptyLists.pass libs cfg = p.pass libs cfg := by
  have hbefore : ∀ ns r,
      children libs cfg p.withEmptyLists.ans p.obj ns r =
        children libs cfg p.ans p.obj ns r := by
    intro ns r
    unfold children beforeDeployment
    rw [renderConfig_withEmptyLists libs.render cfg p ns r]
    rfl
  show reconcileInner libs cfg p.withEmptyLists.ans p.obj =
    reconcileInner libs cfg p.ans p.obj
  unfold reconcileInner
  simp only [hbefore]
  rfl

/-- A failed list fans in nothing and does not fail the pass. What a pass
applies, whatever the passes before it merged: the rules and the federations
of `spec.config`, with what its own lists fan in. -/
theorem fanIn_after_history (history : List (PassInputs Backend Managed))
    (p : PassInputs Backend Managed) :
    p.pass libs cfg = p.withEmptyLists.pass libs cfg ∧
    ∀ config ∈ p.applied libs cfg,
      (p.ans.applyConfigMap = .ok () →
        liveConfig libs cfg (history ++ [p]) = some config) ∧
      ∃ ns, p.obj.metadata.namespace_ = some ns ∧
        getPath rulesPath config =
          (match p.ans.listRoutes with
            | .error _ => getPath rulesPath p.obj.spec.config
            | .ok routes =>
                getPath rulesPath
                  (applyRoutesToConfig libs.render.gateway routes
                    (p.obj.metadata.name.getD "") ns
                    p.obj.spec.acceptedRouteNamespaces
                    p.obj.spec.config).1) ∧
        getPath federationsPath config =
          (match p.ans.listServers with
            | .error _ => getPath federationsPath p.obj.spec.config
            | .ok servers =>
                getPath federationsPath
                  (applyServersToConfig libs.render.server servers
                    (p.obj.metadata.name.getD "") ns
                    p.obj.spec.config).1) := by
  refine ⟨pass_withEmptyLists.symm, fun config happlied => ?_⟩
  obtain ⟨ns, r, happlies, hconfig⟩ := eq_renderConfig_of_mem_applied happlied
  refine ⟨liveConfig_concat history happlied, ns,
    namespace_of_passNamespace happlies.past, ?_, ?_⟩
  · rw [hconfig, rules_renderConfig]
    show getPath rulesPath (mergeRoutes _ _ _ p.ans.listRoutes _) = _
    cases p.ans.listRoutes <;> rfl
  · rw [hconfig, federations_renderConfig]
    show getPath federationsPath (mergeServers _ _ _ p.ans.listServers _) = _
    cases p.ans.listServers <;> rfl

end Histories

namespace Sample

/-- A gateway with nothing but its name. -/
def plain : MCPGGateway :=
  { metadata :=
      { name := some "edge", namespace_ := some "team-a"
        finalizers := some [operatorFinalizer] }
    spec := { image := { tag := some "0.1.0-beta.60" }, config := .obj [] } }

/-- A route that opens one tool to one tenant. -/
def route : MCPGRoute :=
  { metadata := { name := some "search", namespace_ := some "team-a" }
    spec :=
      { gatewayRef := "edge", tools := ["search"], tenant := some "acme" } }

def listing : PassInputs String Unit :=
  { obj := plain, ans := { answers with listRoutes := .ok [route] } }

/-- The apiserver does not answer the list. -/
def unlistable : PassInputs String Unit :=
  { obj := plain
    ans :=
      { answers with
        listRoutes := .error (.other "service unavailable") } }

/-- What a pass over a gateway without references renders. -/
def renderedFrom (p : PassInputs String Unit) : Json :=
  renderConfig libs.render cfg p.obj "team-a" (unreferenced.inputs p.ans)

def searchRule : Json :=
  .obj
    [("cel_allow_if", .str "identity.attributes.tenant == \"acme\""),
      ("minimum_trust", .str "verified"), ("tool_name", .str "search")]

end Sample

/-- The rule of a tenant is merged by one pass and dropped by the next,
which could not list the routes. -/
theorem not_keepsMerged_of_failed_list :
    ¬ ∀ history, KeepsMerged Sample.libs Sample.cfg history := by
  intro hkeeps
  have hlisted : Sample.renderedFrom Sample.listing ∈
      Sample.listing.applied Sample.libs Sample.cfg := by decide +kernel
  have hunlisted : Sample.renderedFrom Sample.unlistable ∈
      Sample.unlistable.applied Sample.libs Sample.cfg := by decide +kernel
  have hmerged : Sample.searchRule ∈
      items rulesPath (Sample.renderedFrom Sample.listing) := by
    decide +kernel
  have hkept := hkeeps [Sample.listing, Sample.unlistable] []
    Sample.listing [] Sample.unlistable rfl rfl (fun _ h => nomatch h) rfl
    rulesPath List.mem_cons_self _ hlisted _ hunlisted Sample.searchRule
    hmerged (by decide +kernel)
  have hdropped : Sample.searchRule ∉
      items rulesPath (Sample.renderedFrom Sample.unlistable) := by
    decide +kernel
  exact hdropped hkept

/-- After the two passes the live config has the rules of `spec.config`,
which are none. -/
theorem fanIn_after_failed_list :
    liveConfig Sample.libs Sample.cfg [Sample.listing, Sample.unlistable] =
        some (Sample.renderedFrom Sample.unlistable) ∧
      getPath rulesPath (Sample.renderedFrom Sample.unlistable) =
        getPath rulesPath Sample.plain.spec.config := by
  have happlied : Sample.renderedFrom Sample.unlistable ∈
      Sample.unlistable.applied Sample.libs Sample.cfg := by decide +kernel
  obtain ⟨hlive, _, _, hrules, _⟩ :=
    (fanIn_after_history [Sample.listing] _).2 _ happlied
  exact ⟨hlive rfl, hrules⟩

end McpgOperator.Gateway
