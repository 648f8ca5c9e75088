import McpgOperator.JsonFrame
import McpgOperator.Proofs.ConfigFrame
import McpgOperator.Proofs.GatewayPass

/-!
# The author's settings survive the overlays

Every overlay of the config writes at paths the operator owns. The list of
them is fixed but for two, which are owned only where the author left them
open. Whatever the references of a pass resolve to and whatever fans in, the
rendered config reads like `spec.config` everywhere else.
-/

namespace McpgOperator.Gateway

open McpgOperator.Templates Json

/-! ## The paths the operator owns -/

def alwaysOwned : List (List String) :=
  [["plugins"],
    ["cluster"],
    ["gateway", "plugin_registry", "revocation_list_path"],
    ["governance", "policy", "tool_access", "rules"],
    ["mcp", "federations"],
    ["governance", "access", "resource_metadata", "resource"],
    ["governance", "access", "resource_metadata", "additional_resources"],
    ["gateway", "server", "canonical_url"],
    ["mcp", "configurations", "events", "poll", "require_trust"],
    ["mcp", "configurations", "events", "push", "require_trust"],
    ["mcp", "configurations", "events", "webhook", "require_trust"],
    ["mcp", "configurations", "events", "webhook", "egress",
      "allowed_ports"],
    ["mcp", "configurations", "events", "webhook", "egress", "probe_url"]]

def cacheDirPath : List String := ["gateway", "plugin_registry", "cache_dir"]

def tracesPath : List String := ["observability", "traces"]

/-- A path that is owned where the author says nothing there. -/
def ownedWhenAbsent (config : Json) (path : List String) :
    List (List String) :=
  if (config.getPath path).isNone then [path] else []

def operatorOwned (config : Json) : List (List String) :=
  alwaysOwned ++ ownedWhenAbsent config cacheDirPath ++
    ownedWhenAbsent config tracesPath

theorem prefixFree_operatorOwned (config : Json) :
    PrefixFree (operatorOwned config) := by
  unfold operatorOwned ownedWhenAbsent
  split <;> split <;> decide +kernel

theorem mem_of_alwaysOwned {config : Json} {path : List String}
    (h : path ∈ alwaysOwned) : path ∈ operatorOwned config :=
  List.mem_append_left _ (List.mem_append_left _ h)

theorem mem_ownedWhenAbsent {config : Json} {path o : List String} :
    o ∈ ownedWhenAbsent config path ↔
      config.getPath path = none ∧ o = path := by
  unfold ownedWhenAbsent
  split
  · next h => simpa using fun _ => Option.isNone_iff_eq_none.mp h
  · next h => simpa using fun hnone => absurd hnone (by simpa using h)

/-- What holds of the fixed paths and of the two that may be open holds of
all that are owned. -/
theorem forall_operatorOwned {config : Json} {P : List String → Prop}
    (hfixed : ∀ o ∈ alwaysOwned, P o)
    (hcache : config.getPath cacheDirPath = none → P cacheDirPath)
    (htraces : config.getPath tracesPath = none → P tracesPath) :
    ∀ o ∈ operatorOwned config, P o := by
  intro o ho
  rcases List.mem_append.mp ho with ho | ho
  · rcases List.mem_append.mp ho with ho | ho
    · exact hfixed o ho
    · obtain ⟨hnone, rfl⟩ := mem_ownedWhenAbsent.mp ho
      exact hcache hnone
  · obtain ⟨hnone, rfl⟩ := mem_ownedWhenAbsent.mp ho
    exact htraces hnone

/-! ## Overlay by overlay -/

/-- What overlays have made of the author's config. -/
abbrev Rendering (base v : Json) : Prop :=
  Overlaid (operatorOwned base) base v

namespace Rendering

variable {base v : Json}

theorem write (h : Rendering base v) {p : List String} {k : String}
    (ho : p ++ [k] ∈ alwaysOwned) {f : Json → Json} (hf : Touches k f) :
    Rendering base (ensurePath p f v) :=
  Overlaid.write h (prefixFree_operatorOwned base) (mem_of_alwaysOwned ho) hf

theorem writeAt (h : Rendering base v) {p : List String} {k : String}
    (ho : p ++ [k] ∈ alwaysOwned) (f : Json → Json) :
    Rendering base (ensurePath (p ++ [k]) f v) :=
  Overlaid.writeAt f h (prefixFree_operatorOwned base)
    (mem_of_alwaysOwned ho)

theorem mergePlugins (h : Rendering base v) (hobj : v = .obj v.fields)
    (view : Option ResolvedSetView) (revocationListPath : Option String) :
    Rendering base (Templates.mergePlugins v view revocationListPath) := by
  unfold Templates.mergePlugins
  rw [← hobj]
  cases view with
  | none =>
      cases revocationListPath with
      | none => exact h
      | some path => exact h.write (by decide) (touches_set _ _)
  | some view =>
      have hview :
          Rendering base (Json.set "plugins" (.arr view.rendered) v) :=
        h.write (p := []) (by decide) (touches_set "plugins" _)
      cases revocationListPath with
      | none => exact hview
      | some path => exact hview.write (by decide) (touches_set _ _)

theorem mergeClusterBlock (h : Rendering base v) (block : Json) :
    Rendering base (Gateway.mergeClusterBlock block v) := by
  unfold Gateway.mergeClusterBlock
  split
  · exact h
  · exact h.write (p := []) (by decide) (touches_set "cluster" _)

theorem mergeRoutes (h : Rendering base v) (api : GatewayApi)
    (obj : MCPGGateway) (ns : String)
    (listed : Except Kube.KubeError (List MCPGRoute)) :
    Rendering base (Gateway.mergeRoutes api obj ns listed v) := by
  cases listed with
  | error e => exact h
  | ok routes =>
      unfold Gateway.mergeRoutes applyRoutesToConfig
      dsimp only
      split
      · exact h
      · exact h.writeAt (p := ["governance", "policy", "tool_access"])
          (k := "rules") (by decide) _

theorem applyServer (api : ServerApi) (gatewayName ns : String)
    {acc : Json × Nat} (h : Rendering base acc.1) (server : MCPGServer) :
    Rendering base (Gateway.applyServer api gatewayName ns acc server).1 := by
  have hwrite : ∀ f, Rendering base
      (ensurePath ["mcp", "federations"] f acc.1) := fun f =>
    h.writeAt (p := ["mcp"]) (k := "federations") (by decide) f
  unfold Gateway.applyServer
  split
  · dsimp only
    split
    · exact h
    · split
      · exact hwrite _
      · exact hwrite _
  · exact h

theorem mergeServers (h : Rendering base v) (api : ServerApi)
    (obj : MCPGGateway) (ns : String)
    (listed : Except Kube.KubeError (List MCPGServer)) :
    Rendering base (Gateway.mergeServers api obj ns listed v) := by
  cases listed with
  | error e => exact h
  | ok servers =>
      have hfold : ∀ acc : Json × Nat, Rendering base acc.1 →
          Rendering base
            (servers.foldl
              (Gateway.applyServer api (obj.metadata.name.getD "") ns)
              acc).1 := by
        induction servers with
        | nil => exact fun _ hacc => hacc
        | cons server servers ih =>
            exact fun acc hacc => ih _ (applyServer api _ ns hacc server)
      exact hfold (v, 0) h

theorem injectResourceMetadata (h : Rendering base v) (semver : SemverLib)
    (url : String) (customDomains : List String) (tag : String) :
    Rendering base
      (Gateway.injectResourceMetadata semver url customDomains tag v) := by
  unfold Gateway.injectResourceMetadata
  rw [← ensurePath_ensurePath _ (Json.set "resource" (.str url))]
  refine Rendering.write (k := "additional_resources")
    (h.write (by decide) (touches_set _ _)) (by decide) ?_
  unfold setAdditionalResources
  split
  · exact touches_remove _
  · exact touches_set _ _

theorem injectCanonicalUrl (h : Rendering base v) (semver : SemverLib)
    (url tag : String) :
    Rendering base (Gateway.injectCanonicalUrl semver url tag v) := by
  unfold Gateway.injectCanonicalUrl
  split
  · exact h.write (by decide) (touches_set _ _)
  · exact h

theorem injectEventsPolicy (h : Rendering base v) (semver : SemverLib)
    (probeUrl : Option String) (tag : String) :
    Rendering base (Gateway.injectEventsPolicy semver probeUrl tag v) := by
  unfold Gateway.injectEventsPolicy
  split
  · exact h
  split
  · exact h
  dsimp only [List.foldl_cons, List.foldl_nil]
  have htrust : ∀ (mode : String) {w : Json}, Rendering base w →
      ["mcp", "configurations", "events", mode] ++ ["require_trust"] ∈
        alwaysOwned →
      Rendering base (ensurePath ["mcp", "configurations", "events", mode]
        (Json.set "require_trust" (.str "verified")) w) :=
    fun _ _ hw ho => hw.write ho (touches_set _ _)
  have hpoll := htrust "poll" h (by decide)
  have hpush := htrust "push" hpoll (by decide)
  have hmodes := htrust "webhook" hpush (by decide)
  have hports := hmodes.write
    (p := ["mcp", "configurations", "events", "webhook", "egress"])
    (by decide) (touches_set "allowed_ports" (.arr [.num (.int 443)]))
  cases probeUrl.filter fun url => Text.trim url ≠ "" with
  | none => exact hports
  | some url =>
      have hprobe := hports.write
        (p := ["mcp", "configurations", "events", "webhook", "egress"])
        (by decide) (touches_set "probe_url" (.str url))
      rw [ensurePath_ensurePath] at hprobe
      exact hprobe

theorem injectCloudIdentity (h : Rendering base v) (libs : RenderLibs)
    (cfg : OperatorConfig) (obj : MCPGGateway) :
    Rendering base (Gateway.injectCloudIdentity libs cfg obj v) := by
  unfold Gateway.injectCloudIdentity
  split
  · exact h
  · split
    · exact h
    · refine injectEventsPolicy ?_ _ _ _
      have hrm := h.injectResourceMetadata libs.semver
      split
      · exact (hrm _ _ _).injectCanonicalUrl _ _ _
      · exact hrm _ _ _

theorem setPlugins (h : Rendering base v) (entries : List Json) :
    Rendering base (Json.set "plugins" (.arr entries) v) :=
  h.write (p := []) (by decide) (touches_set "plugins" _)

theorem pushUnlessLoaded (h : Rendering base v) (version : String)
    (plugin : String × String × List String) :
    Rendering base (Templates.pushUnlessLoaded version v plugin) := by
  obtain ⟨id, class_, grants⟩ := plugin
  dsimp only [Templates.pushUnlessLoaded]
  split
  · exact h
  · exact h.setPlugins _

/-- A path the author set is the author's. -/
theorem setPluginCacheDir (h : Rendering base v) (dir : String) :
    Rendering base (Templates.setPluginCacheDir dir v) := by
  have htouch := touches_update "cache_dir" fun x => x.getD (.str dir)
  cases hset : base.getPath cacheDirPath with
  | none =>
      have howned : cacheDirPath ∈ operatorOwned base :=
        List.mem_append_left _ (List.mem_append_right _
          (mem_ownedWhenAbsent.mpr ⟨hset, rfl⟩))
      exact Overlaid.write (p := ["gateway", "plugin_registry"]) h
        (prefixFree_operatorOwned base) howned htouch
  | some dir' =>
      have hne : base.getPath cacheDirPath ≠ none := by simp [hset]
      have hparts : ∀ o ∈ operatorOwned base, Diverges o cacheDirPath :=
        forall_operatorOwned (by decide) (fun hnone => absurd hnone hne)
          fun _ => by decide
      have hv : v.getPath cacheDirPath = some dir' :=
        (h.keeps _ hparts).trans hset
      refine Overlaid.of_touches (p := ["gateway", "plugin_registry"]) h
        htouch (forall_operatorOwned (by decide) (fun _ _ => rfl)
          fun _ => by decide) fun q hq => ?_
      rcases diverges_or_prefix cacheDirPath q with hdiv | ⟨r, rfl⟩ | hway
      · exact htouch.keeps_ensurePath (p := ["gateway", "plugin_registry"])
          hdiv v
      · -- at the author's path and below it
        have hkept := getPath_ensurePath_key ["gateway", "plugin_registry"]
          "cache_dir" (Json.update "cache_dir" fun x => x.getD (.str dir)) v
        rw [get_update_self] at hkept
        have hget : ((getPath ["gateway", "plugin_registry"] v).getD
            (.obj [])).get "cache_dir" = some dir' := by
          rw [show cacheDirPath = ["gateway", "plugin_registry"] ++
            ["cache_dir"] from rfl, getPath_append] at hv
          obtain ⟨registry, hregistry, hget⟩ :=
            Option.bind_eq_some_iff.mp hv
          rw [hregistry]
          exact (getPath_singleton _ _).symm.trans hget
        rw [hget] at hkept
        rw [getPath_append, getPath_append, hv]
        exact congrArg (Option.bind · (getPath r)) hkept
      · -- the registry leads to the revocation path as well
        refine absurd (hq ["gateway", "plugin_registry",
          "revocation_list_path"] (mem_of_alwaysOwned (by decide))) ?_
        obtain ⟨hpre, hneq⟩ := hway
        rcases List.prefix_concat_iff.mp
          (show q <+: ["gateway", "plugin_registry"] ++ ["cache_dir"] from
            hpre) with heq | hpre
        · exact absurd heq hneq
        · exact not_diverges_of_prefix (hpre.trans ⟨_, rfl⟩)

/-- The member `traces`, where there is none. -/
def openTraces (block : Json) (obs : Json) : Json :=
  if (obs.get "traces").isSome then .obj obs.fields
  else Json.set "traces" block obs

theorem touches_openTraces (block : Json) :
    Touches "traces" (openTraces block) where
  keeps q hq obs := by
    unfold openTraces
    split
    · exact getPath_objFields (by rintro rfl; exact hq) obs
    · exact keeps_set_of_diverges hq block obs
  object obs := by
    unfold openTraces
    split
    · exact ⟨_, rfl⟩
    · exact ⟨_, rfl⟩

/-- Below an `observability` that is an object or not there. -/
theorem appendDefaultTracesBlock_eq {url gatewayName ns : String}
    {m : JsonMap} (hurl : url ≠ "")
    (hobs : Container (Json.get (.obj m) "observability")) :
    Templates.appendDefaultTracesBlock url gatewayName ns (.obj m) =
      ensurePath ["observability"]
        (openTraces (defaultTracesBlock url gatewayName ns)) (.obj m) := by
  unfold Templates.appendDefaultTracesBlock
  rw [if_neg hurl]
  show Json.obj (JsonMap.insert m "observability" _) =
    Json.obj (JsonMap.insert m "observability" _)
  congr 2
  cases hget : Json.get (.obj m) "observability" with
  | none => rfl
  | some obs =>
      obtain ⟨fields, rfl⟩ := hobs obs hget
      rfl

/-- A pipeline the author declared stays, with all of `observability`. -/
theorem appendDefaultTracesBlock (h : Rendering base v)
    (url gatewayName ns : String) :
    Rendering base
      (Templates.appendDefaultTracesBlock url gatewayName ns v) := by
  by_cases hurl : url = ""
  · unfold Templates.appendDefaultTracesBlock
    rw [if_pos hurl]
    exact h
  obtain ⟨m, rfl⟩ := h.regular ["plugins"] (mem_of_alwaysOwned (by decide)) []
    ⟨List.nil_prefix, nofun⟩ v rfl
  cases hset : base.getPath tracesPath with
  | none =>
      have howned : tracesPath ∈ operatorOwned base :=
        List.mem_append_right _ (mem_ownedWhenAbsent.mpr ⟨hset, rfl⟩)
      have hobs := h.regular tracesPath howned ["observability"]
        ⟨⟨["traces"], rfl⟩, by decide⟩
      rw [getPath_singleton] at hobs
      rw [appendDefaultTracesBlock_eq hurl hobs]
      exact Overlaid.write (p := ["observability"]) h
        (prefixFree_operatorOwned base) howned (touches_openTraces _)
  | some traces =>
      have hne : base.getPath tracesPath ≠ none := by simp [hset]
      have hparts : ∀ o ∈ operatorOwned base, Diverges o tracesPath :=
        forall_operatorOwned (by decide) (fun _ => by decide)
          fun hnone => absurd hnone hne
      have htraces := (h.keeps _ hparts).trans hset
      obtain ⟨obs, hobs, hget⟩ := Option.bind_eq_some_iff.mp htraces
      rw [getPath_singleton] at hget
      have hobject : obs = .obj obs.fields := by
        cases obs with
        | obj fields => rfl
        | _ => cases hget
      have hsame : openTraces (defaultTracesBlock url gatewayName ns) obs =
          obs := by
        unfold openTraces
        rw [hget, Option.isSome_some, if_pos rfl]
        exact hobject.symm
      rw [appendDefaultTracesBlock_eq hurl fun y hy => ⟨obs.fields,
        (Option.some.inj (hy.symm.trans hobs)).trans hobject⟩]
      refine Overlaid.of_touches (p := ["observability"]) h
        (touches_openTraces _) (forall_operatorOwned (by decide)
          (fun _ => by decide) fun _ _ => rfl) fun q hq => ?_
      cases q with
      | nil => exact (hq ["plugins"] (mem_of_alwaysOwned (by decide))).elim
      | cons k r =>
          by_cases hk : k = "observability"
          · subst hk
            rw [ensurePath, getPath_cons, getPath_cons, get_update_self,
              hobs]
            exact congrArg (getPath r) hsame
          · exact keeps_update r hk _ _

theorem appendCloudDefaultPlugins (h : Rendering base v) (version : String)
    (ids : List String) :
    Rendering base (Templates.appendCloudDefaultPlugins version ids v) := by
  unfold Templates.appendCloudDefaultPlugins
  split
  · exact h
  · exact h.setPlugins _

theorem appendObservabilitySinkPlugins (h : Rendering base v)
    (version : String) :
    Rendering base (Templates.appendObservabilitySinkPlugins version v) := by
  have hpush : ∀ (plugins : List (String × String × List String)) {w : Json},
      Rendering base w →
        Rendering base
          (plugins.foldl (Templates.pushUnlessLoaded version) w) := by
    intro plugins
    induction plugins with
    | nil => exact id
    | cons plugin plugins ih =>
        exact fun hw => ih (pushUnlessLoaded hw version plugin)
  exact hpush _ h

theorem appendClusterCoordinatorPlugin (h : Rendering base v)
    (version : String) :
    Rendering base (Templates.appendClusterCoordinatorPlugin version v) := by
  unfold Templates.appendClusterCoordinatorPlugin
  split
  · exact h
  · split
    · exact h
    · exact h.pushUnlessLoaded _ _

theorem applyCloudDefaultPlugins (h : Rendering base v)
    (cfg : OperatorConfig) (obj : MCPGGateway) :
    Rendering base (Gateway.applyCloudDefaultPlugins cfg obj v) := by
  unfold Gateway.applyCloudDefaultPlugins
  split
  · exact h
  · have hdefaults := (h.setPluginCacheDir pluginCacheDir
      ).appendCloudDefaultPlugins cfg.defaultPluginVersion
        (cloudDefaultPluginIds cfg.cloudDefaultPlugins)
    refine appendClusterCoordinatorPlugin
      (appendObservabilitySinkPlugins ?_ _) _
    split
    · exact hdefaults
    · exact hdefaults.appendDefaultTracesBlock _ _ _

end Rendering

/-! ## The rendered config -/

theorem rendering_renderConfig (libs : RenderLibs) (cfg : OperatorConfig)
    (obj : MCPGGateway) (ns : String) (inputs : RenderInputs)
    (h : Regular (operatorOwned obj.spec.config) obj.spec.config) :
    Rendering obj.spec.config (renderConfig libs cfg obj ns inputs) := by
  obtain ⟨m, hm⟩ := h ["plugins"] (mem_of_alwaysOwned (by decide)) []
    ⟨List.nil_prefix, nofun⟩ obj.spec.config rfl
  have hobj : obj.spec.config = .obj obj.spec.config.fields := by
    rw [hm]
    rfl
  have hbase : Rendering obj.spec.config obj.spec.config := Overlaid.refl h
  have hplugins := hbase.mergePlugins hobj inputs.view
    (if inputs.revocationList then some revocationListMountPath else none)
  unfold renderConfig
  refine Rendering.applyCloudDefaultPlugins
    (Rendering.injectCloudIdentity
      (Rendering.mergeServers (Rendering.mergeRoutes ?_ _ _ _ _) _ _ _ _)
      _ _ _) _ _
  split
  · exact hplugins
  · exact hplugins.mergeClusterBlock _

/-- The rendered config reads like the author's off the owned paths. On the
way to one an object stays an object, and what was created there is one. -/
structure KeepsSettings (base config : Json) : Prop where
  settings : ∀ p, (∀ o ∈ operatorOwned base, Parts o p) →
    pointer p config = pointer p base
  objects : ∀ o ∈ operatorOwned base, ∀ q, OnTheWay q o →
    (∃ m, getPath q base = some (.obj m)) →
      ∃ m, getPath q config = some (.obj m)
  created : ∀ o ∈ operatorOwned base, ∀ q, OnTheWay q o →
    getPath q base = none → Container (getPath q config)

theorem keepsSettings_renderConfig (libs : RenderLibs)
    (cfg : OperatorConfig) (obj : MCPGGateway) (ns : String)
    (inputs : RenderInputs)
    (h : Regular (operatorOwned obj.spec.config) obj.spec.config) :
    KeepsSettings obj.spec.config
      (renderConfig libs cfg obj ns inputs) where
  settings _ hp :=
    (rendering_renderConfig libs cfg obj ns inputs h).pointer_eq_base h hp
  objects o ho q hq hbase := by
    have hrendering := rendering_renderConfig libs cfg obj ns inputs h
    obtain ⟨m, hm⟩ := hbase
    cases hget : getPath q (renderConfig libs cfg obj ns inputs) with
    | none =>
        rw [hrendering.stays o ho q hq hget] at hm
        cases hm
    | some v =>
        obtain ⟨m', rfl⟩ := hrendering.regular o ho q hq v hget
        exact ⟨m', rfl⟩
  created o ho q hq _ :=
    (rendering_renderConfig libs cfg obj ns inputs h).regular o ho q hq

namespace Sample

/-- A managed-cloud gateway with settings of its own beside and between the
owned paths. -/
def tuned : MCPGGateway :=
  { metadata := { name := some "edge", namespace_ := some "payments" }
    spec :=
      { image := { tag := some "0.1.0-beta.60" }
        cloud := some
          { instanceSlug := "edge", orgSlug := "acme"
            externalUrl := "https://edge.mcpg.example/mcp" }
        config := .obj
          [("gateway", .obj
            [("plugin_registry", .obj [("cache_dir", .str "/scratch")]),
              ("server", .obj [("port", .num (.int 8787))])]),
            ("mcp", .obj
              [("configurations", .obj
                [("events", .obj
                  [("enabled", .bool true),
                    ("webhook", .obj [("retries", .num (.int 3))])])])]),
            ("observability", .obj [("logs", .obj [])])] } }

end Sample

theorem keepsSettings_renderConfig_tuned :
    KeepsSettings Sample.tuned.spec.config
      (renderConfig Sample.libs.render Sample.cfg Sample.tuned "payments"
        (Sample.unreferenced.inputs Sample.answers)) :=
  keepsSettings_renderConfig Sample.libs.render Sample.cfg Sample.tuned
    "payments" _ (by decide +kernel)

/-- The config a pass applies keeps the author's settings. -/
theorem keepsSettings_of_mem {Backend Managed : Type}
    {libs : GatewayLibs Backend Managed} {cfg : OperatorConfig}
    {ans : GatewayAnswers Backend Managed} {obj : MCPGGateway}
    (h : Regular (operatorOwned obj.spec.config) obj.spec.config)
    {config : Json} {cm : Kube.ConfigMap}
    (hmem : .applyConfigMap config cm ∈
      (reconcileInner libs cfg ans obj).trace) :
    KeepsSettings obj.spec.config config := by
  obtain ⟨ns, r, happlies⟩ := applies_of_mem hmem rfl
  rw [(happlies.carries_of_mem hmem).1]
  exact keepsSettings_renderConfig libs.render cfg obj ns (r.inputs ans) h

end McpgOperator.Gateway
