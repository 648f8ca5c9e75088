import McpgOperator.Gateway.ClusterBinding
import McpgOperator.Templates.PluginRender
import Mathlib.Data.List.Destutter

/-!
# The config a gateway pass renders

The overlays of `controllers/gateway.rs` over `spec.config`, in the order
`reconcile_inner` runs them: plugin set and revocation list, cluster block,
routes, servers, the managed-cloud identity, the managed-cloud plugins. What
a pass has read by then is a `RenderInputs`.
-/

namespace McpgOperator.Gateway

open McpgOperator.Kube McpgOperator.Templates McpgOperator.Text

/-! ## Cluster block -/

/-- `merge_cluster_block`; a null block is a no-op. -/
def mergeClusterBlock (clusterBlock : Json) (config : Json) : Json :=
  if clusterBlock = .null then config
  else Json.set "cluster" clusterBlock config

/-! ## Routes -/

def celQuote (s : String) : String :=
  let escaped := s.toList.flatMap fun c =>
    if c = '\\' ∨ c = '"' then ['\\', c] else [c]
  String.ofList (['"'] ++ escaped ++ ['"'])

/-- The route targets the gateway, from a namespace it accepts. -/
def routeAccepted (api : GatewayApi) (gatewayName gatewayNs : String)
    (accepted : List String) (route : MCPGRoute) : Bool :=
  match route.metadata.namespace_ with
  | none => false
  | some ns =>
      route.spec.gatewayRef == gatewayName &&
        api.gatewayNamespace route.spec ns == gatewayNs &&
        (ns == gatewayNs || accepted.contains ns)

/-- The predicate a route puts on its tools. -/
def routePredicate (route : MCPGRoute) : String :=
  match route.spec.tenant with
  | some tenant => "identity.attributes.tenant == " ++ celQuote tenant
  | none => "true"

/-- `BTreeMap::entry(tool).or_default().push(predicate)`. -/
def pushPredicate (tool predicate : String) :
    List (String × List String) → List (String × List String)
  | [] => [(tool, [predicate])]
  | (t, ps) :: rest =>
      if tool = t then (t, ps ++ [predicate]) :: rest
      else if tool < t then (tool, [predicate]) :: (t, ps) :: rest
      else (t, ps) :: pushPredicate tool predicate rest

/-- The predicates of every tool the accepted routes name. -/
def toolPredicates (routes : List MCPGRoute) : List (String × List String) :=
  routes.foldl
    (fun acc route =>
      route.spec.tools.foldl
        (fun acc tool => pushPredicate tool (routePredicate route) acc) acc)
    []

/-- The expression of a tool: its predicates sorted, without duplicates,
OR-ed. -/
def combinePredicates (predicates : List String) : String :=
  let uniq := (predicates.mergeSort (· ≤ ·)).destutter (· ≠ ·)
  if uniq.contains "true" then "true"
  else
    match uniq with
    | [p] => p
    | _ => " || ".intercalate (uniq.map fun p => "(" ++ p ++ ")")

/-- What the rule of a tool allows after a route has named the tool. -/
def combinedRule (previous : Option String) (cel : String) : String :=
  match previous with
  | some prev =>
      if prev ≠ "true" ∧ cel ≠ "true" then
        "(" ++ prev ++ ") || (" ++ cel ++ ")"
      else if cel = "true" then "true"
      else prev
  | none => cel

/-- The rule is an object for the tool. -/
def isRuleFor (tool : String) (rule : Json) : Bool :=
  (rule.get "tool_name").bind Json.asStr == some tool

/-- The rules after a tool's predicate is folded into the first rule for
it, or appended. -/
def foldToolRule (tool cel : String) : List Json → List Json
  | [] =>
      [.obj
        [("cel_allow_if", .str cel), ("minimum_trust", .str "verified"),
          ("tool_name", .str tool)]]
  | rule :: rest =>
      if isRuleFor tool rule then
        Json.set "cel_allow_if"
          (.str (combinedRule ((rule.get "cel_allow_if").bind Json.asStr)
            cel))
          rule :: rest
      else rule :: foldToolRule tool cel rest

/-- `apply_routes_to_config`: the config and the number of routes. -/
def applyRoutesToConfig (api : GatewayApi) (routes : List MCPGRoute)
    (gatewayName gatewayNs : String) (accepted : List String)
    (config : Json) : Json × Nat :=
  let targeting :=
    routes.filter (routeAccepted api gatewayName gatewayNs accepted)
  let predicates := toolPredicates targeting
  if predicates.isEmpty then (config, targeting.length)
  else
    (Json.ensurePath ["governance", "policy", "tool_access", "rules"]
      (fun rules =>
        .arr (predicates.foldl
          (fun arr (tool, ps) => foldToolRule tool (combinePredicates ps) arr)
          (rules.asArray.getD [])))
      config, targeting.length)

/-- `merge_routes`; a failed list skips the pass. -/
def mergeRoutes (api : GatewayApi) (obj : MCPGGateway) (gatewayNs : String)
    (listed : Except KubeError (List MCPGRoute)) (config : Json) : Json :=
  match listed with
  | .error _ => config
  | .ok routes =>
      (applyRoutesToConfig api routes (obj.metadata.name.getD "") gatewayNs
        obj.spec.acceptedRouteNamespaces config).1

/-! ## Servers -/

/-- The crates behind a server's federation: `governanceError` is
`BackendGovernanceConfig::from_value`, the others are methods of the API
crate's `MCPGServerSpec`. -/
structure ServerApi where
  governanceError : Json → Option String
  federationName : MCPGServerSpec → String → String
  endpoint : MCPGServerSpec → String → String → String

def serverChildName (server : MCPGServer) : String :=
  let raw := server.metadata.name.getD ""
  if raw.toList.head?.any Char.isAlpha then raw else "mcpg-" ++ raw

def federateGovernanceError (api : ServerApi) (federate : ServerFederate) :
    Option String :=
  federate.governance.bind api.governanceError

/-- A field that is rendered only when it is there. -/
def setOptional (key : String) (x : Option Json) (v : Json) : Json :=
  match x with
  | none => v
  | some x => Json.set key x v

/-- The federation of a server. -/
def federation (name endpoint toolPrefix : String)
    (federate : ServerFederate) : Json :=
  let upstream :=
    setOptional "auth" federate.auth
      (.obj
        [("protocol_version", .str "auto"),
          ("upstream_safety", .obj
            [("allow_insecure_http", .bool true),
              ("allow_private_backends", .bool true)]),
          ("url", .str endpoint)])
  setOptional "import" federate.import_
    (setOptional "governance" federate.governance
      (.obj
        [("name", .str name),
          ("naming", .obj [("tool_prefix", .str toolPrefix)]),
          ("upstream", upstream)]))

/-- A federation of that name is there already. -/
def hasFederation (name : String) (federations : List Json) : Bool :=
  federations.any fun f => (f.get "name").bind Json.asStr == some name

/-- One server of the loop in `apply_servers_to_config`. -/
def applyServer (api : ServerApi) (gatewayName gatewayNs : String)
    (acc : Json × Nat) (server : MCPGServer) : Json × Nat :=
  match server.metadata.namespace_, server.spec.federate with
  | some serverNs, some federate =>
      if serverNs ≠ gatewayNs ∨ federate.gatewayRef ≠ gatewayName ∨
          (federateGovernanceError api federate).isSome then acc
      else
        let fedName :=
          api.federationName server.spec server.metadata.nameAny
        let endpoint :=
          api.endpoint server.spec (serverChildName server) serverNs
        let toolPrefix := federate.toolPrefix.getD (fedName ++ ".")
        -- the path is made an array before the collision is looked at
        let inline :=
          ((acc.1.getPath ["mcp", "federations"]).bind
            Json.asArray).getD []
        let write (federations : List Json) : Json :=
          Json.ensurePath ["mcp", "federations"]
            (fun _ => .arr federations) acc.1
        if hasFederation fedName inline then (write inline, acc.2)
        else
          (write (inline ++
            [federation fedName endpoint toolPrefix federate]), acc.2 + 1)
  | _, _ => acc

/-- `apply_servers_to_config`: the config and the number of servers. -/
def applyServersToConfig (api : ServerApi) (servers : List MCPGServer)
    (gatewayName gatewayNs : String) (config : Json) : Json × Nat :=
  servers.foldl (applyServer api gatewayName gatewayNs) (config, 0)

/-- `merge_servers`; a failed list skips the pass. -/
def mergeServers (api : ServerApi) (obj : MCPGGateway) (gatewayNs : String)
    (listed : Except KubeError (List MCPGServer)) (config : Json) : Json :=
  match listed with
  | .error _ => config
  | .ok servers =>
      (applyServersToConfig api servers (obj.metadata.name.getD "")
        gatewayNs config).1

/-! ## Managed-cloud identity -/

/-- The `semver` crate. -/
structure SemverLib where
  Version : Type
  parse : String → Option Version
  /-- `have >= want`. -/
  ge : Version → Version → Bool

def additionalResourcesMinGateway : String := "0.1.0-beta.41"

def canonicalUrlMinGateway : String := "0.1.0-beta.44"

def eventsMinGateway : String := "0.1.0-beta.60"

/-- `gateway_at_least`, of a tag that is there. -/
def gatewayAtLeast (semver : SemverLib) (tag min : String) : Bool :=
  let version := String.ofList ((trim tag).toList.dropWhile (· = 'v'))
  match semver.parse version, semver.parse min with
  | some have_, some want => semver.ge have_ want
  | _, _ => true

/-- The path of a URL from its first `/` after the scheme; `/mcp` without
one. -/
def urlPath (url : String) : String :=
  let rest :=
    (stripPrefix "https://".toList url.toList).or
      (stripPrefix "http://".toList url.toList)
  ((rest.bind (fromFirst ['/'])).map String.ofList).getD "/mcp"

/-- `additional_resources`, absent when there is none. -/
def setAdditionalResources (additional : List Json) (rm : Json) : Json :=
  if additional.isEmpty then Json.remove "additional_resources" rm
  else Json.set "additional_resources" (.arr additional) rm

/-- The further resources: one for each custom domain, for a gateway that
knows the key. -/
def additionalResources (semver : SemverLib) (url : String)
    (customDomains : List String) (tag : String) : List Json :=
  if gatewayAtLeast semver tag additionalResourcesMinGateway then
    customDomains.map fun domain =>
      .str ("https://" ++ domain ++ urlPath url)
  else []

def injectResourceMetadata (semver : SemverLib) (url : String)
    (customDomains : List String) (tag : String) : Json → Json :=
  Json.ensurePath ["governance", "access", "resource_metadata"] fun rm =>
    setAdditionalResources (additionalResources semver url customDomains tag)
      (Json.set "resource" (.str url) rm)

def injectCanonicalUrl (semver : SemverLib) (url tag : String)
    (config : Json) : Json :=
  if gatewayAtLeast semver tag canonicalUrlMinGateway then
    Json.ensurePath ["gateway", "server"]
      (Json.set "canonical_url" (.str url)) config
  else config

def injectEventsPolicy (semver : SemverLib) (probeUrl : Option String)
    (tag : String) (config : Json) : Json :=
  if config.getPath ["mcp", "configurations", "events", "enabled"] ≠
      some (.bool true) then config
  else if gatewayAtLeast semver tag eventsMinGateway = false then config
  else
    let config := ["poll", "push", "webhook"].foldl
      (fun config mode =>
        Json.ensurePath ["mcp", "configurations", "events", mode]
          (Json.set "require_trust" (.str "verified")) config)
      config
    Json.ensurePath
      ["mcp", "configurations", "events", "webhook", "egress"]
      (fun egress =>
        setOptional "probe_url"
          ((probeUrl.filter fun url => trim url ≠ "").map .str)
          (Json.set "allowed_ports" (.arr [.num (.int 443)]) egress))
      config

/-! ## The sequence -/

/-- What the operator is configured with. -/
structure OperatorConfig where
  defaultGatewayImageTag : String
  defaultPluginVersion : String
  eventsEgressProbeUrl : Option String := none
  cloudDefaultPlugins : Option String := none
  defaultOtlpTracesUrl : Option String := none
  /-- `gateway_pod_annotations_map`. -/
  gatewayPodAnnotations : List (String × String) := []
  deriving DecidableEq

structure RenderLibs where
  gateway : GatewayApi
  server : ServerApi
  semver : SemverLib

/-- What a pass holds when it comes to render. -/
structure RenderInputs where
  view : Option ResolvedSetView
  /-- A revocation list resolved, in whatever condition. -/
  revocationList : Bool
  clusterBlock : Option Json
  routes : Except KubeError (List MCPGRoute)
  servers : Except KubeError (List MCPGServer)

/-- The canonical URL, when there is one that is not blank. -/
def GatewayCloud.canonical (cloud : GatewayCloud) : Option String :=
  cloud.canonicalUrl.filter fun url => trim url ≠ ""

/-- The tag the renderers resolve. -/
def gatewayTag (cfg : OperatorConfig) (obj : MCPGGateway) : String :=
  obj.spec.image.tag.getD cfg.defaultGatewayImageTag

/-- The managed-cloud block of `reconcile_inner`. -/
def injectCloudIdentity (libs : RenderLibs) (cfg : OperatorConfig)
    (obj : MCPGGateway) (config : Json) : Json :=
  match obj.spec.cloud with
  | none => config
  | some cloud =>
      if cloud.externalUrl = "" then config
      else
        let tag := gatewayTag cfg obj
        let advertised := cloud.canonical.getD cloud.externalUrl
        let alsoServing :=
          if cloud.canonical.isSome then [] else cloud.customDomains
        let config :=
          injectResourceMetadata libs.semver advertised alsoServing tag
            config
        let config :=
          if cloud.canonical.isSome then
            injectCanonicalUrl libs.semver advertised tag config
          else config
        injectEventsPolicy libs.semver cfg.eventsEgressProbeUrl tag config

def pluginCacheDir : String := "/var/lib/mcpg/plugin-cache"

def applyCloudDefaultPlugins (cfg : OperatorConfig) (obj : MCPGGateway)
    (config : Json) : Json :=
  if obj.spec.cloud.isNone then config
  else
    let version := cfg.defaultPluginVersion
    let config := setPluginCacheDir pluginCacheDir config
    let config := appendCloudDefaultPlugins version
      (cloudDefaultPluginIds cfg.cloudDefaultPlugins) config
    let config :=
      match cfg.defaultOtlpTracesUrl with
      | none => config
      | some url =>
          appendDefaultTracesBlock url (obj.metadata.name.getD "")
            (obj.metadata.namespace_.getD "") config
    let config := appendObservabilitySinkPlugins version config
    appendClusterCoordinatorPlugin version config

/-- The config of a pass. -/
def renderConfig (libs : RenderLibs) (cfg : OperatorConfig)
    (obj : MCPGGateway) (ns : String) (inputs : RenderInputs) : Json :=
  let config := mergePlugins obj.spec.config inputs.view
    (if inputs.revocationList then some revocationListMountPath else none)
  let config :=
    match inputs.clusterBlock with
    | none => config
    | some block => mergeClusterBlock block config
  let config := mergeRoutes libs.gateway obj ns inputs.routes config
  let config := mergeServers libs.server obj ns inputs.servers config
  let config := injectCloudIdentity libs cfg obj config
  applyCloudDefaultPlugins cfg obj config

end McpgOperator.Gateway
