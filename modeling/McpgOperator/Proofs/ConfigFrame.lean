import McpgOperator.Gateway.Config

/-!
# What each overlay of the config leaves alone

An overlay writes at paths of its own. Here each of them is shown to keep
every path that branches off from those, whatever the config was before:
the facts by which a value that one overlay stamps, or that the author of
the config wrote, is still found in the rendered document.
-/

namespace McpgOperator.Gateway

open McpgOperator.Templates Json

variable {p : List String}

/-! ## Plugins and revocation list -/

theorem getPath_objFields {p : List String} (hne : p ≠ []) (v : Json) :
    getPath p (.obj v.fields) = getPath p v := by
  cases p with
  | nil => exact absurd rfl hne
  | cons key p =>
      rw [getPath_cons, getPath_cons, get_obj, get_eq_lookup]

theorem keeps_mergePlugins (view : Option ResolvedSetView)
    (revocationListPath : Option String) (hp : Diverges ["plugins"] p)
    (hr : Diverges ["gateway", "plugin_registry"] p) :
    Keeps p fun config => mergePlugins config view revocationListPath := by
  intro config
  have hne : p ≠ [] := by
    rintro rfl
    exact hp
  have hbase := getPath_objFields hne config
  unfold mergePlugins
  cases view with
  | none =>
      cases revocationListPath with
      | none => exact hbase
      | some path => exact (keeps_ensurePath hr _ _).trans hbase
  | some view =>
      have hset := (keeps_set_of_diverges hp (.arr view.rendered)
        (.obj config.fields)).trans hbase
      cases revocationListPath with
      | none => exact hset
      | some path => exact (keeps_ensurePath hr _ _).trans hset

theorem keeps_mergeClusterBlock (block : Json)
    (h : Diverges ["cluster"] p) : Keeps p (mergeClusterBlock block) := by
  intro config
  unfold mergeClusterBlock
  split
  · rfl
  · exact keeps_set_of_diverges h block config

/-! ## Routes and servers -/

theorem keeps_mergeRoutes (api : GatewayApi) (obj : MCPGGateway)
    (ns : String) (listed : Except Kube.KubeError (List MCPGRoute))
    (h : Diverges ["governance", "policy", "tool_access", "rules"] p) :
    Keeps p (mergeRoutes api obj ns listed) := by
  intro config
  cases listed with
  | error e => rfl
  | ok routes =>
      unfold mergeRoutes applyRoutesToConfig
      dsimp only
      split
      · rfl
      · exact keeps_ensurePath h _ config

/-- A server writes its federation, or the array it found, or nothing. -/
theorem keeps_applyServer (api : ServerApi) (gatewayName ns : String)
    (h : Diverges ["mcp", "federations"] p) (acc : Json × Nat)
    (server : MCPGServer) :
    getPath p (applyServer api gatewayName ns acc server).1 =
      getPath p acc.1 := by
  unfold applyServer
  split
  · dsimp only
    split
    · rfl
    · split
      · exact keeps_ensurePath h _ acc.1
      · exact keeps_ensurePath h _ acc.1
  · rfl

theorem keeps_mergeServers (api : ServerApi) (obj : MCPGGateway)
    (ns : String) (listed : Except Kube.KubeError (List MCPGServer))
    (h : Diverges ["mcp", "federations"] p) :
    Keeps p (mergeServers api obj ns listed) := by
  intro config
  cases listed with
  | error e => rfl
  | ok servers =>
      show getPath p (servers.foldl (applyServer api _ ns) (config, 0)).1 = _
      have hfold : ∀ acc : Json × Nat,
          getPath p (servers.foldl
            (applyServer api (obj.metadata.name.getD "") ns) acc).1 =
          getPath p acc.1 := by
        induction servers with
        | nil => exact fun _ => rfl
        | cons server servers ih =>
            intro acc
            rw [List.foldl_cons, ih]
            exact keeps_applyServer api _ ns h acc server
      exact hfold (config, 0)

/-! ## The managed-cloud identity -/

theorem keeps_injectResourceMetadata (semver : SemverLib) (url : String)
    (customDomains : List String) (tag : String)
    (h : Diverges ["governance", "access", "resource_metadata"] p) :
    Keeps p (injectResourceMetadata semver url customDomains tag) :=
  keeps_ensurePath h _

theorem keeps_injectCanonicalUrl (semver : SemverLib) (url tag : String)
    (h : Diverges ["gateway", "server"] p) :
    Keeps p (injectCanonicalUrl semver url tag) := by
  intro config
  unfold injectCanonicalUrl
  split
  · exact keeps_ensurePath h _ config
  · rfl

/-- Below `events` only the delivery modes are written. -/
theorem keeps_injectEventsPolicy_of_modes (semver : SemverLib)
    (probeUrl : Option String) (tag : String)
    (h : ∀ mode ∈ ["poll", "push", "webhook"],
      Diverges ["mcp", "configurations", "events", mode] p) :
    Keeps p (injectEventsPolicy semver probeUrl tag) := by
  intro config
  have hmode : ∀ mode ∈ ["poll", "push", "webhook"], Keeps p fun config =>
      ensurePath ["mcp", "configurations", "events", mode]
        (Json.set "require_trust" (.str "verified")) config :=
    fun mode hmem => keeps_ensurePath (h mode hmem) _
  have hegress := (h "webhook" (by decide)).append ["egress"]
  unfold injectEventsPolicy
  split
  · rfl
  · split
    · rfl
    · dsimp only [List.foldl_cons, List.foldl_nil]
      exact ((((keeps_ensurePath hegress _ _).trans
        (hmode "webhook" (by decide) _)).trans
        (hmode "push" (by decide) _)).trans (hmode "poll" (by decide) _))

theorem keeps_injectEventsPolicy (semver : SemverLib)
    (probeUrl : Option String) (tag : String)
    (h : Diverges ["mcp", "configurations", "events"] p) :
    Keeps p (injectEventsPolicy semver probeUrl tag) :=
  keeps_injectEventsPolicy_of_modes semver probeUrl tag
    fun mode _ => h.append [mode]

theorem keeps_injectCloudIdentity_of_events (libs : RenderLibs)
    (cfg : OperatorConfig) (obj : MCPGGateway)
    (hrm : Diverges ["governance", "access", "resource_metadata"] p)
    (hserver : Diverges ["gateway", "server"] p)
    (hevents : ∀ tag, Keeps p
      (injectEventsPolicy libs.semver cfg.eventsEgressProbeUrl tag)) :
    Keeps p (injectCloudIdentity libs cfg obj) := by
  intro config
  unfold injectCloudIdentity
  split
  · rfl
  · next cloud _ =>
      split
      · rfl
      · dsimp only
        rw [hevents]
        split
        · rw [keeps_injectCanonicalUrl _ _ _ hserver]
          exact keeps_injectResourceMetadata _ _ _ _ hrm config
        · exact keeps_injectResourceMetadata _ _ _ _ hrm config

theorem keeps_injectCloudIdentity (libs : RenderLibs)
    (cfg : OperatorConfig) (obj : MCPGGateway)
    (hrm : Diverges ["governance", "access", "resource_metadata"] p)
    (hserver : Diverges ["gateway", "server"] p)
    (hevents : Diverges ["mcp", "configurations", "events"] p) :
    Keeps p (injectCloudIdentity libs cfg obj) :=
  keeps_injectCloudIdentity_of_events libs cfg obj hrm hserver
    fun tag => keeps_injectEventsPolicy _ _ tag hevents

/-! ## The managed-cloud plugins -/

theorem keeps_appendCloudDefaultPlugins (version : String)
    (ids : List String) (h : Diverges ["plugins"] p) :
    Keeps p (appendCloudDefaultPlugins version ids) := by
  intro config
  unfold appendCloudDefaultPlugins
  split
  · rfl
  · exact keeps_set_of_diverges h _ config

theorem keeps_appendDefaultTracesBlock (url gatewayName ns : String)
    (h : Diverges ["observability"] p) :
    Keeps p (appendDefaultTracesBlock url gatewayName ns) := by
  intro config
  unfold appendDefaultTracesBlock
  split
  · rfl
  · split
    · exact keeps_update_of_diverges h _ _
    · rfl

theorem keeps_pushUnlessLoaded (version : String)
    (plugin : String × String × List String) (h : Diverges ["plugins"] p) :
    Keeps p fun config => pushUnlessLoaded version config plugin := by
  intro config
  obtain ⟨id, class_, grants⟩ := plugin
  dsimp only [pushUnlessLoaded]
  split
  · rfl
  · exact keeps_set_of_diverges h _ config

theorem keeps_appendObservabilitySinkPlugins (version : String)
    (h : Diverges ["plugins"] p) :
    Keeps p (appendObservabilitySinkPlugins version) :=
  fun config =>
    keeps_foldl (fun plugin => keeps_pushUnlessLoaded version plugin h) _
      config

theorem keeps_appendClusterCoordinatorPlugin (version : String)
    (h : Diverges ["plugins"] p) :
    Keeps p (appendClusterCoordinatorPlugin version) := by
  intro config
  unfold appendClusterCoordinatorPlugin
  split
  · rfl
  · split
    · rfl
    · next plugin _ => exact keeps_pushUnlessLoaded version plugin h config

/-- The registry is written only for its cache directory. -/
theorem keeps_applyCloudDefaultPlugins_of_cacheDir (cfg : OperatorConfig)
    (obj : MCPGGateway) (hplugins : Diverges ["plugins"] p)
    (hcache : Keeps p (setPluginCacheDir pluginCacheDir))
    (hobs : Diverges ["observability"] p) :
    Keeps p (applyCloudDefaultPlugins cfg obj) := by
  intro config
  unfold applyCloudDefaultPlugins
  split
  · rfl
  · dsimp only
    rw [keeps_appendClusterCoordinatorPlugin _ hplugins,
      keeps_appendObservabilitySinkPlugins _ hplugins]
    split
    · rw [keeps_appendCloudDefaultPlugins _ _ hplugins]
      exact hcache config
    · rw [keeps_appendDefaultTracesBlock _ _ _ hobs,
        keeps_appendCloudDefaultPlugins _ _ hplugins]
      exact hcache config

theorem keeps_applyCloudDefaultPlugins (cfg : OperatorConfig)
    (obj : MCPGGateway) (hplugins : Diverges ["plugins"] p)
    (hregistry : Diverges ["gateway", "plugin_registry"] p)
    (hobs : Diverges ["observability"] p) :
    Keeps p (applyCloudDefaultPlugins cfg obj) :=
  keeps_applyCloudDefaultPlugins_of_cacheDir cfg obj hplugins
    (keeps_ensurePath hregistry _) hobs

theorem keeps_setPluginCacheDir (dir : String) {key : String}
    (h : key ≠ "cache_dir") :
    Keeps ["gateway", "plugin_registry", key] (setPluginCacheDir dir) := by
  intro config
  have hkey := getPath_ensurePath_key ["gateway", "plugin_registry"] key
    (Json.update "cache_dir" fun x => x.getD (.str dir)) config
  rw [get_update_ne h] at hkey
  refine hkey.trans ?_
  rw [show ["gateway", "plugin_registry", key] =
    ["gateway", "plugin_registry"] ++ [key] from rfl, getPath_append]
  cases getPath ["gateway", "plugin_registry"] config with
  | none => rfl
  | some registry => exact (getPath_singleton key registry).symm

/-! ## The `plugins` array -/

theorem pluginEntries_set (entries : List Json) (config : Json) :
    pluginEntries (Json.set "plugins" (.arr entries) config) = entries := by
  unfold pluginEntries
  rw [get_set_self]
  rfl

theorem pluginEntries_of_keeps {f : Json → Json} (h : Keeps ["plugins"] f)
    (config : Json) : pluginEntries (f config) = pluginEntries config := by
  unfold pluginEntries
  rw [← getPath_singleton, ← getPath_singleton, h config]

/-- The array is the set's where there is one, and the author's where not. -/
theorem pluginEntries_mergePlugins (baseConfig : Json)
    (view : Option ResolvedSetView) (revocationListPath : Option String) :
    pluginEntries (mergePlugins baseConfig view revocationListPath) =
      (view.map (·.rendered)).getD (pluginEntries baseConfig) := by
  have hregistry : Diverges ["gateway", "plugin_registry"] ["plugins"] := by
    decide
  have hbase : pluginEntries (.obj baseConfig.fields) =
      pluginEntries baseConfig := by
    unfold pluginEntries
    rw [get_obj, get_eq_lookup]
  unfold mergePlugins
  cases view with
  | none =>
      cases revocationListPath with
      | none => exact hbase
      | some path =>
          exact (pluginEntries_of_keeps (keeps_ensurePath hregistry _)
            _).trans hbase
  | some view =>
      cases revocationListPath with
      | none => exact pluginEntries_set _ _
      | some path =>
          exact (pluginEntries_of_keeps (keeps_ensurePath hregistry _)
            _).trans (pluginEntries_set _ _)

/-- The array after an overlay is the one before, with entries appended
that leave `enforce` open. -/
def AppendsPlugins (config config' : Json) : Prop :=
  ∃ added, pluginEntries config' = pluginEntries config ++ added ∧
    ∀ entry ∈ added, entry.get "enforce" = none

namespace AppendsPlugins

theorem of_eq {config config' : Json}
    (h : pluginEntries config' = pluginEntries config) :
    AppendsPlugins config config' :=
  ⟨[], by rw [h, List.append_nil], fun _ hx => nomatch hx⟩

theorem trans {c c' c'' : Json} (h : AppendsPlugins c c')
    (h' : AppendsPlugins c' c'') : AppendsPlugins c c'' := by
  obtain ⟨added, heq, hadded⟩ := h
  obtain ⟨added', heq', hadded'⟩ := h'
  refine ⟨added ++ added', ?_, fun entry hentry => ?_⟩
  · rw [heq', heq, List.append_assoc]
  · rcases List.mem_append.mp hentry with hmem | hmem
    · exact hadded entry hmem
    · exact hadded' entry hmem

theorem mem_iff {config config' : Json} (h : AppendsPlugins config config')
    {entry : Json} (henforce : entry.get "enforce" ≠ none) :
    entry ∈ pluginEntries config' ↔ entry ∈ pluginEntries config := by
  obtain ⟨added, heq, hadded⟩ := h
  rw [heq, List.mem_append]
  exact or_iff_left fun hmem => henforce (hadded entry hmem)

end AppendsPlugins

theorem get_enforce_ociEntry (version id class_ : String)
    (grants : List String) :
    (ociEntry version id class_ grants).get "enforce" = none :=
  get_withGrants_ne (by decide) grants _

theorem get_enforce_renderEntry (e : ResolvedSetEntry)
    (grants : Option (List String)) :
    (renderEntry e grants).get "enforce" = some (.bool true) :=
  get_withGrants_ne (by decide) (grants.getD []) _

theorem appends_appendCloudDefaultPlugins (version : String)
    (ids : List String) (config : Json) :
    AppendsPlugins config (appendCloudDefaultPlugins version ids config) := by
  unfold appendCloudDefaultPlugins
  split
  · exact .of_eq rfl
  · refine ⟨_, pluginEntries_set _ config, fun entry hentry => ?_⟩
    obtain ⟨id, _, rfl⟩ := List.mem_map.mp hentry
    exact get_enforce_ociEntry _ _ _ _

theorem appends_pushUnlessLoaded (version : String) (config : Json)
    (plugin : String × String × List String) :
    AppendsPlugins config (pushUnlessLoaded version config plugin) := by
  obtain ⟨id, class_, grants⟩ := plugin
  dsimp only [pushUnlessLoaded]
  split
  · exact .of_eq rfl
  · refine ⟨_, pluginEntries_set _ config, fun entry hentry => ?_⟩
    rw [List.mem_singleton.mp hentry]
    exact get_enforce_ociEntry _ _ _ _

theorem appends_foldl_pushUnlessLoaded (version : String)
    (plugins : List (String × String × List String)) (config : Json) :
    AppendsPlugins config
      (plugins.foldl (pushUnlessLoaded version) config) := by
  induction plugins generalizing config with
  | nil => exact .of_eq rfl
  | cons plugin plugins ih =>
      exact (appends_pushUnlessLoaded version config plugin).trans (ih _)

theorem appends_appendClusterCoordinatorPlugin (version : String)
    (config : Json) :
    AppendsPlugins config
      (appendClusterCoordinatorPlugin version config) := by
  unfold appendClusterCoordinatorPlugin
  split
  · exact .of_eq rfl
  · split
    · exact .of_eq rfl
    · next plugin _ => exact appends_pushUnlessLoaded version config plugin

theorem appends_applyCloudDefaultPlugins (cfg : OperatorConfig)
    (obj : MCPGGateway) (config : Json) :
    AppendsPlugins config (applyCloudDefaultPlugins cfg obj config) := by
  have hregistry : Diverges ["gateway", "plugin_registry"] ["plugins"] := by
    decide
  have hcache := pluginEntries_of_keeps
    (f := setPluginCacheDir pluginCacheDir) (keeps_ensurePath hregistry _)
    config
  unfold applyCloudDefaultPlugins
  split
  · exact .of_eq rfl
  · dsimp only
    refine .trans (.of_eq hcache) ?_
    refine .trans (appends_appendCloudDefaultPlugins
      cfg.defaultPluginVersion (cloudDefaultPluginIds cfg.cloudDefaultPlugins)
      _) ?_
    refine .trans (.of_eq ?_) (.trans
      (appends_foldl_pushUnlessLoaded _ _ _)
      (appends_appendClusterCoordinatorPlugin _ _))
    split
    · rfl
    · exact pluginEntries_of_keeps
        (keeps_appendDefaultTracesBlock _ _ _ (by decide)) _

/-- Between the plugin set and the managed-cloud plugins nothing touches
the array. -/
theorem appends_renderConfig (libs : RenderLibs) (cfg : OperatorConfig)
    (obj : MCPGGateway) (ns : String) (inputs : RenderInputs) :
    AppendsPlugins
      (mergePlugins obj.spec.config inputs.view
        (if inputs.revocationList then some revocationListMountPath
          else none))
      (renderConfig libs cfg obj ns inputs) := by
  unfold renderConfig
  dsimp only
  refine .trans (.of_eq ?_) (appends_applyCloudDefaultPlugins cfg obj _)
  rw [pluginEntries_of_keeps (keeps_injectCloudIdentity libs cfg obj
      (by decide) (by decide) (by decide)),
    pluginEntries_of_keeps (keeps_mergeServers _ _ _ _ (by decide)),
    pluginEntries_of_keeps (keeps_mergeRoutes _ _ _ _ (by decide))]
  split
  · rfl
  · exact pluginEntries_of_keeps (keeps_mergeClusterBlock _ (by decide)) _

end McpgOperator.Gateway
