import McpgOperator.Admission.Gateway
import McpgOperator.Proofs.ConfigFrame
import McpgOperator.Proofs.GatewayPass

/-!
# Who decides what a managed gateway advertises

The identity is what the rendered config says at three places. The platform
always writes the first two. At the third, `gateway.server.canonical_url`,
it writes only when the gateway has a canonical URL and an image that knows
the key; otherwise the overlays leave the place alone and the tenant's own
value is rendered. So two configs lead to one identity exactly when the
platform writes there or the two agree there.
-/

namespace McpgOperator.Gateway

open McpgOperator.Kube McpgOperator.Templates McpgOperator.Admission Json

/-! ## The identity -/

def resourceMetadataPath : List String :=
  ["governance", "access", "resource_metadata"]

def serverPath : List String := ["gateway", "server"]

def canonicalUrlPath : List String := serverPath ++ ["canonical_url"]

/-- What a config advertises, each part with whether it is there. -/
structure Identity where
  resource : Option Json
  additionalResources : Option Json
  canonicalUrl : Option Json
  deriving DecidableEq

def identity (config : Json) : Identity where
  resource := config.getPath (resourceMetadataPath ++ ["resource"])
  additionalResources :=
    config.getPath (resourceMetadataPath ++ ["additional_resources"])
  canonicalUrl := config.getPath canonicalUrlPath

/-- The platform writes the canonical URL of this gateway. -/
def stampsCanonicalUrl (semver : SemverLib) (cfg : OperatorConfig)
    (obj : MCPGGateway) (cloud : GatewayCloud) : Bool :=
  cloud.canonical.isSome &&
    gatewayAtLeast semver (gatewayTag cfg obj) canonicalUrlMinGateway

/-- The URL the platform advertises for the gateway. -/
def advertisedUrl (cloud : GatewayCloud) : String :=
  cloud.canonical.getD cloud.externalUrl

/-- The other names it serves on. -/
def alsoServing (cloud : GatewayCloud) : List String :=
  if cloud.canonical.isSome then [] else cloud.customDomains

/-- What the platform renders as further resources. -/
def advertisedAdditional (semver : SemverLib) (cfg : OperatorConfig)
    (obj : MCPGGateway) (cloud : GatewayCloud) : List Json :=
  additionalResources semver (advertisedUrl cloud) (alsoServing cloud)
    (gatewayTag cfg obj)

/-- The identity of a config rendered from this `spec.config`. -/
def renderedIdentity (semver : SemverLib) (cfg : OperatorConfig)
    (obj : MCPGGateway) (cloud : GatewayCloud) : Identity where
  resource := some (.str (advertisedUrl cloud))
  additionalResources :=
    let additional := advertisedAdditional semver cfg obj cloud
    if additional.isEmpty then none else some (.arr additional)
  canonicalUrl :=
    if stampsCanonicalUrl semver cfg obj cloud then
      some (.str (advertisedUrl cloud))
    else obj.spec.config.getPath canonicalUrlPath

/-! ## What each step renders there -/

section Rendering

variable {libs : RenderLibs} {cfg : OperatorConfig} {obj : MCPGGateway}
  {cloud : GatewayCloud}

/-- The identity block, once the gateway is known to be a managed one. -/
theorem injectCloudIdentity_eq (hcloud : obj.spec.cloud = some cloud)
    (hurl : cloud.externalUrl ≠ "") (config : Json) :
    injectCloudIdentity libs cfg obj config =
      injectEventsPolicy libs.semver cfg.eventsEgressProbeUrl
        (gatewayTag cfg obj)
        (let stamped := injectResourceMetadata libs.semver
            (advertisedUrl cloud) (alsoServing cloud) (gatewayTag cfg obj)
            config
        if cloud.canonical.isSome then
          injectCanonicalUrl libs.semver (advertisedUrl cloud)
            (gatewayTag cfg obj) stamped
        else stamped) := by
  unfold injectCloudIdentity
  rw [hcloud]
  exact if_neg hurl

theorem get_resource_setAdditionalResources (additional : List Json)
    (rm : Json) :
    (setAdditionalResources additional rm).get "resource" =
      rm.get "resource" := by
  unfold setAdditionalResources
  split
  · exact get_remove_ne (by decide) rm
  · exact get_set_ne (by decide) _ rm

theorem get_additional_setAdditionalResources (additional : List Json)
    (rm : Json) :
    (setAdditionalResources additional rm).get "additional_resources" =
      if additional.isEmpty then none else some (.arr additional) := by
  unfold setAdditionalResources
  split
  · exact get_remove_self "additional_resources" rm
  · exact get_set_self "additional_resources" _ rm

/-- A path below `resource_metadata` after the identity block: what
`inject_resource_metadata` left of it. -/
theorem getPath_injectCloudIdentity (hcloud : obj.spec.cloud = some cloud)
    (hurl : cloud.externalUrl ≠ "") (key : String) (config : Json) :
    ∃ rm : Json,
      getPath (resourceMetadataPath ++ [key])
          (injectCloudIdentity libs cfg obj config) =
        (setAdditionalResources
          (advertisedAdditional libs.semver cfg obj cloud)
          (Json.set "resource" (.str (advertisedUrl cloud)) rm)).get key := by
  have hserver : Diverges ["gateway", "server"]
      (resourceMetadataPath ++ [key]) := .of_ne (by decide)
  have hevents : Diverges ["mcp", "configurations", "events"]
      (resourceMetadataPath ++ [key]) := .of_ne (by decide)
  refine ⟨(getPath resourceMetadataPath config).getD (.obj []), ?_⟩
  rw [injectCloudIdentity_eq hcloud hurl,
    keeps_injectEventsPolicy _ _ _ hevents]
  dsimp only
  split
  · rw [keeps_injectCanonicalUrl _ _ _ hserver]
    exact getPath_ensurePath_key resourceMetadataPath key _ config
  · exact getPath_ensurePath_key resourceMetadataPath key _ config

theorem canonicalUrl_injectCloudIdentity
    (hcloud : obj.spec.cloud = some cloud) (hurl : cloud.externalUrl ≠ "")
    (config : Json) :
    getPath canonicalUrlPath (injectCloudIdentity libs cfg obj config) =
      if stampsCanonicalUrl libs.semver cfg obj cloud then
        some (.str (advertisedUrl cloud))
      else getPath canonicalUrlPath config := by
  have hevents : Diverges ["mcp", "configurations", "events"]
      canonicalUrlPath := by decide
  have hrm : Diverges ["governance", "access", "resource_metadata"]
      canonicalUrlPath := by decide
  rw [injectCloudIdentity_eq hcloud hurl,
    keeps_injectEventsPolicy _ _ _ hevents]
  dsimp only
  unfold stampsCanonicalUrl
  split
  · next hcanonical =>
      rw [hcanonical, Bool.true_and]
      unfold injectCanonicalUrl
      split
      · exact (getPath_ensurePath_key serverPath "canonical_url" _ _).trans
          (get_set_self "canonical_url" _ _)
      · exact keeps_injectResourceMetadata _ _ _ _ hrm config
  · next hcanonical =>
      rw [Bool.eq_false_iff.mpr hcanonical, Bool.false_and, if_neg
        Bool.false_ne_true]
      exact keeps_injectResourceMetadata _ _ _ _ hrm config

theorem canonicalUrl_renderConfig (hcloud : obj.spec.cloud = some cloud)
    (hurl : cloud.externalUrl ≠ "") (ns : String) (inputs : RenderInputs) :
    getPath canonicalUrlPath (renderConfig libs cfg obj ns inputs) =
      if stampsCanonicalUrl libs.semver cfg obj cloud then
        some (.str (advertisedUrl cloud))
      else getPath canonicalUrlPath obj.spec.config := by
  have hplugins : Diverges ["plugins"] canonicalUrlPath := by decide
  have hregistry : Diverges ["gateway", "plugin_registry"]
      canonicalUrlPath := by decide
  unfold renderConfig
  dsimp only
  rw [keeps_applyCloudDefaultPlugins cfg obj hplugins hregistry (by decide),
    canonicalUrl_injectCloudIdentity hcloud hurl,
    keeps_mergeServers _ _ _ _ (by decide),
    keeps_mergeRoutes _ _ _ _ (by decide)]
  split
  · rfl
  · split
    · exact keeps_mergePlugins _ _ hplugins hregistry obj.spec.config
    · rw [keeps_mergeClusterBlock _ (by decide)]
      exact keeps_mergePlugins _ _ hplugins hregistry obj.spec.config

theorem resourceMetadata_renderConfig (libs : RenderLibs)
    (cfg : OperatorConfig) (hcloud : obj.spec.cloud = some cloud)
    (hurl : cloud.externalUrl ≠ "") (ns : String) (inputs : RenderInputs)
    (key : String) :
    ∃ rm : Json,
      getPath (resourceMetadataPath ++ [key])
          (renderConfig libs cfg obj ns inputs) =
        (setAdditionalResources
          (advertisedAdditional libs.semver cfg obj cloud)
          (Json.set "resource" (.str (advertisedUrl cloud)) rm)).get key := by
  have hplugins : Diverges ["plugins"] (resourceMetadataPath ++ [key]) :=
    .of_ne (by decide)
  have hregistry : Diverges ["gateway", "plugin_registry"]
      (resourceMetadataPath ++ [key]) := .of_ne (by decide)
  have hobs : Diverges ["observability"] (resourceMetadataPath ++ [key]) :=
    .of_ne (by decide)
  unfold renderConfig
  dsimp only
  rw [keeps_applyCloudDefaultPlugins cfg obj hplugins hregistry hobs]
  exact getPath_injectCloudIdentity hcloud hurl key _

theorem identity_renderConfig (hcloud : obj.spec.cloud = some cloud)
    (hurl : cloud.externalUrl ≠ "") (ns : String) (inputs : RenderInputs) :
    identity (renderConfig libs cfg obj ns inputs) =
      renderedIdentity libs.semver cfg obj cloud := by
  obtain ⟨rm, hresource⟩ :=
    resourceMetadata_renderConfig libs cfg hcloud hurl ns inputs "resource"
  obtain ⟨rm', hadditional⟩ :=
    resourceMetadata_renderConfig libs cfg hcloud hurl ns inputs
      "additional_resources"
  rw [get_resource_setAdditionalResources, get_set_self] at hresource
  rw [get_additional_setAdditionalResources] at hadditional
  unfold identity renderedIdentity
  rw [hresource, hadditional, canonicalUrl_renderConfig hcloud hurl]

end Rendering

/-! ## Two configs, one identity -/

section TwoConfigs

variable {Backend Managed : Type} {libs : GatewayLibs Backend Managed}
  {cfg : OperatorConfig} {ans : GatewayAnswers Backend Managed}
  {obj : MCPGGateway} {cloud : GatewayCloud}

/-- A pass over an admitted managed gateway applies a config of the
identity the platform and `spec.config` make up. -/
theorem identity_of_configMap_mem (hvalid : validateGateway obj = .ok ())
    (hcloud : obj.spec.cloud = some cloud) {config : Json} {cm : ConfigMap}
    (happlied : .applyConfigMap config cm ∈
      (reconcileInner libs cfg ans obj).trace) :
    identity config = renderedIdentity libs.render.semver cfg obj cloud := by
  have hurl : cloud.externalUrl ≠ "" :=
    externalUrl_ne_empty_of_validateCloud
      (validateCloud_of_validateGateway hvalid hcloud)
  obtain ⟨ns, r, happlies⟩ := applies_of_mem happlied rfl
  obtain ⟨hconfig, _⟩ := happlies.carries_of_mem happlied
  rw [hconfig]
  exact identity_renderConfig hcloud hurl ns _

/-- Two gateways that differ in `spec.config` alone. -/
def MCPGGateway.withConfig (obj : MCPGGateway) (config : Json) :
    MCPGGateway :=
  { obj with spec := { obj.spec with config := config } }

theorem renderedIdentity_withConfig_iff (semver : SemverLib)
    (cfg : OperatorConfig) (obj : MCPGGateway) (cloud : GatewayCloud)
    (config : Json) :
    renderedIdentity semver cfg obj cloud =
        renderedIdentity semver cfg (obj.withConfig config) cloud ↔
      stampsCanonicalUrl semver cfg obj cloud = true ∨
        obj.spec.config.getPath canonicalUrlPath =
          config.getPath canonicalUrlPath := by
  have hstamps : stampsCanonicalUrl semver cfg (obj.withConfig config) cloud =
      stampsCanonicalUrl semver cfg obj cloud := rfl
  have hadditional :
      advertisedAdditional semver cfg (obj.withConfig config) cloud =
        advertisedAdditional semver cfg obj cloud := rfl
  unfold renderedIdentity
  rw [hstamps, hadditional, Identity.mk.injEq]
  by_cases h : stampsCanonicalUrl semver cfg obj cloud = true
  · simp only [h, if_true, true_and, true_or]
  · simp only [h, if_false, true_and, false_or, Bool.false_eq_true]
    rfl

/-- The identities that two configs of an admitted managed gateway lead to,
in whatever passes, are one exactly when the platform writes the canonical
URL or the two configs agree on it. -/
theorem identity_eq_iff (hvalid : validateGateway obj = .ok ())
    (hcloud : obj.spec.cloud = some cloud) (tenantConfig : Json)
    (ans' : GatewayAnswers Backend Managed) {config config' : Json}
    {cm cm' : ConfigMap}
    (happlied : .applyConfigMap config cm ∈
      (reconcileInner libs cfg ans obj).trace)
    (happlied' : .applyConfigMap config' cm' ∈
      (reconcileInner libs cfg ans' (obj.withConfig tenantConfig)).trace) :
    identity config = identity config' ↔
      stampsCanonicalUrl libs.render.semver cfg obj cloud = true ∨
        obj.spec.config.getPath canonicalUrlPath =
          tenantConfig.getPath canonicalUrlPath := by
  have hvalid' : validateGateway (obj.withConfig tenantConfig) = .ok () :=
    hvalid
  rw [identity_of_configMap_mem hvalid hcloud happlied,
    identity_of_configMap_mem hvalid' hcloud happlied']
  exact renderedIdentity_withConfig_iff _ _ _ _ _

end TwoConfigs

namespace Sample

def cloud : GatewayCloud where
  instanceSlug := "acme-1"
  orgSlug := "acme"
  externalUrl := "https://acme-1.mcpg.example/mcp"

/-- A managed gateway without a canonical URL. -/
def managed : MCPGGateway :=
  { metadata :=
      { name := some "acme-1", namespace_ := some "tenant-acme"
        finalizers := some [operatorFinalizer] }
    spec :=
      { image := { tag := some "0.1.0-beta.44" }, config := .obj []
        cloud := some cloud } }

/-- The same with one. -/
def canonical : MCPGGateway :=
  { managed with
    spec :=
      { managed.spec with
        cloud := some
          { cloud with canonicalUrl := some "https://mcp.acme.example/mcp" } } }

/-- The tenant names a host of its own. -/
def tenantConfig : Json :=
  .obj [("gateway", .obj [("server",
    .obj [("canonical_url", .str "https://other.example/mcp")])])]

/-- The webhook admits the creation. -/
def admitted (obj : MCPGGateway) : Prop :=
  validate gatewayApi clusterApi (fun _ => .ok none) (.ok ()) obj none =
    .ok ()

instance (obj : MCPGGateway) : Decidable (admitted obj) :=
  inferInstanceAs (Decidable (_ = _))

/-- The config a pass without references renders. -/
def rendered (obj : MCPGGateway) : Json :=
  renderConfig libs.render cfg obj "tenant-acme" (unreferenced.inputs answers)

theorem rendered_mem (obj : MCPGGateway)
    (h : Applies libs answers obj "tenant-acme" unreferenced) :
    ∃ cm, .applyConfigMap (rendered obj) cm ∈
      (reconcileInner libs cfg answers obj).trace :=
  h.configMap_mem cfg

theorem canonical_stamps : stampsCanonicalUrl semver cfg canonical
    { cloud with canonicalUrl := some "https://mcp.acme.example/mcp" } =
      true := by
  decide +kernel

end Sample

/-- With a canonical URL of the platform's the tenant's is not rendered. -/
theorem identity_eq_canonical :
    identity (Sample.rendered Sample.canonical) =
      identity (Sample.rendered
        (Sample.canonical.withConfig Sample.tenantConfig)) := by
  have hvalid : validateGateway Sample.canonical = .ok () := by
    decide +kernel
  obtain ⟨cm, hmem⟩ :=
    Sample.rendered_mem Sample.canonical ⟨rfl, rfl, rfl⟩
  obtain ⟨cm', hmem'⟩ :=
    Sample.rendered_mem (Sample.canonical.withConfig Sample.tenantConfig)
      ⟨rfl, rfl, rfl⟩
  exact (identity_eq_iff hvalid rfl Sample.tenantConfig Sample.answers hmem
    hmem').mpr (.inl Sample.canonical_stamps)

/-- Without one the two configs of one managed gateway are both admitted,
both applied, and advertise different identities. -/
theorem identity_ne_managed :
    Sample.admitted Sample.managed ∧
      Sample.admitted (Sample.managed.withConfig Sample.tenantConfig) ∧
      (∃ cm, .applyConfigMap (Sample.rendered Sample.managed) cm ∈
        (reconcileInner Sample.libs Sample.cfg Sample.answers
          Sample.managed).trace) ∧
      (∃ cm, .applyConfigMap (Sample.rendered
          (Sample.managed.withConfig Sample.tenantConfig)) cm ∈
        (reconcileInner Sample.libs Sample.cfg Sample.answers
          (Sample.managed.withConfig Sample.tenantConfig)).trace) ∧
      identity (Sample.rendered Sample.managed) ≠
        identity (Sample.rendered
          (Sample.managed.withConfig Sample.tenantConfig)) := by
  refine ⟨by decide +kernel, by decide +kernel,
    Sample.rendered_mem _ ⟨rfl, rfl, rfl⟩,
    Sample.rendered_mem _ ⟨rfl, rfl, rfl⟩, ?_⟩
  have hurl : Sample.cloud.externalUrl ≠ "" := by decide
  unfold Sample.rendered
  rw [identity_renderConfig rfl hurl, identity_renderConfig rfl hurl]
  decide +kernel

end McpgOperator.Gateway
