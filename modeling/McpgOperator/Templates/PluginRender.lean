import McpgOperator.JsonPath
import McpgOperator.Text

/-!
# The plugin block of a gateway's config

`templates/plugin_render.rs`: the overlay of a resolved plugin set and of the
revocation-list path onto `spec.config`, and the entries a managed-cloud
gateway is given by default.
-/

namespace McpgOperator.Templates

open McpgOperator.Text

structure ResolvedSetEntry where
  id : String
  pluginClass : String
  pluginVersion : String
  artefactSecretName : String
  resolvedDigest : String
  config : Json
  deriving DecidableEq

/-- `capabilityGrants` is keyed by plugin id. -/
structure ResolvedSetView where
  entries : List ResolvedSetEntry
  capabilityGrants : List (String × List String)
  deriving DecidableEq

def pluginMountRoot : String := "/etc/mcpg/plugins"

def revocationListMountPath : String :=
  "/etc/mcpg/revocations/list.json"

def cloudPluginOciBase : String := "ghcr.io/mcpg-dev/plugins"

/-! ## `merge_plugins` -/

/-- The array of grants, as `json!` renders it. -/
def grantsArray (grants : List String) : Json := .arr (grants.map .str)

/-- `granted_capabilities`, left out when there is none. -/
def withGrants (grants : List String) (entry : Json) : Json :=
  if grants.isEmpty then entry
  else Json.set "granted_capabilities" (grantsArray grants) entry

/-- Grants touch no other key of an entry. -/
theorem get_withGrants_ne {key : String} (h : key ≠ "granted_capabilities")
    (grants : List String) (entry : Json) :
    (withGrants grants entry).get key = entry.get key := by
  unfold withGrants
  split
  · rfl
  · exact Json.get_set_ne h _ _

def renderEntry (e : ResolvedSetEntry) (grants : Option (List String)) :
    Json :=
  withGrants (grants.getD [])
    (.obj
      [("class", .str e.pluginClass),
        ("config", e.config),
        ("enforce", .bool true),
        ("id", .str e.id),
        ("kind", .str "native"),
        ("signature", .obj [("sha256", .str e.resolvedDigest)]),
        ("source", .obj
          [("path",
            .str (pluginMountRoot ++ "/" ++ e.id ++ "/plugin.so"))])])

/-- The entries of the set, as they go into the config. -/
def ResolvedSetView.rendered (view : ResolvedSetView) : List Json :=
  view.entries.map fun e =>
    renderEntry e (view.capabilityGrants.lookup e.id)

def mergePlugins (baseConfig : Json) (resolved : Option ResolvedSetView)
    (revocationListPath : Option String) : Json :=
  let config := .obj baseConfig.fields
  let config :=
    match resolved with
    | none => config
    | some view => Json.set "plugins" (.arr view.rendered) config
  match revocationListPath with
  | none => config
  | some path =>
      Json.ensurePath ["gateway", "plugin_registry"]
        (Json.set "revocation_list_path" (.str path)) config

/-- `set_plugin_cache_dir`: a path the config sets stays. -/
def setPluginCacheDir (dir : String) : Json → Json :=
  Json.ensurePath ["gateway", "plugin_registry"]
    (Json.update "cache_dir" fun x => x.getD (.str dir))

/-! ## Entries of the `plugins` array -/

/-- The array under `plugins`, after it has been put there if need be. -/
def pluginEntries (config : Json) : List Json :=
  ((config.get "plugins").bind Json.asArray).getD []

/-- `plugin_ids`: under either key the gateway accepts. -/
def pluginIds (config : Json) : List String :=
  (pluginEntries config).flatMap fun e =>
    ["id", "ref"].filterMap fun k => (e.get k).bind Json.asStr

def pushPluginEntry (entry : Json) (config : Json) : Json :=
  Json.set "plugins" (.arr (pluginEntries config ++ [entry])) config

def pluginRepoName (id : String) : String :=
  replaceChar '.' '-'
    (((stripPrefix "dev.mcpg.".toList id.toList).map String.ofList).getD id)

/-- `plugin_oci_ref`, at the operator's default plugin version. -/
def pluginOciRef (defaultPluginVersion id : String) : String :=
  cloudPluginOciBase ++ "/" ++ pluginRepoName id ++ ":" ++
    defaultPluginVersion

/-- A native entry fetched from the registry. -/
def ociEntry (defaultPluginVersion id class_ : String)
    (grants : List String) : Json :=
  withGrants grants
    (.obj
      [("class", .str class_),
        ("id", .str id),
        ("kind", .str "native"),
        ("source", .obj
          [("oci", .str (pluginOciRef defaultPluginVersion id))])])

/-! ## Managed-cloud defaults -/

def cloudDefaultBackendPlugins : List (String × List String) :=
  [("dev.mcpg.backend.mock", []),
    ("dev.mcpg.backend.http", ["network_outbound"]),
    ("dev.mcpg.backend.command", []),
    ("dev.mcpg.backend.graphql", ["network_outbound"]),
    ("dev.mcpg.backend.openapi", ["network_outbound"])]

/-- `str::split(',')`. -/
def splitComma (s : String) : List String :=
  (s.toList.splitOn ',').map String.ofList

def cloudDefaultPluginIds (overrideCsv : Option String) : List String :=
  match overrideCsv with
  | none => cloudDefaultBackendPlugins.map (·.1)
  | some csv =>
      (((splitComma csv).map trim).filter (· ≠ "")).foldl
        (fun seen id => if seen.contains id then seen else seen ++ [id]) []

def renderCloudDefaultEntry (defaultPluginVersion id : String) : Json :=
  ociEntry defaultPluginVersion id "backend"
    ((cloudDefaultBackendPlugins.lookup id).getD [])

/-- `append_cloud_default_plugins`: ids taken before the first append. -/
def appendCloudDefaultPlugins (defaultPluginVersion : String)
    (ids : List String) (config : Json) : Json :=
  if ids.isEmpty then config
  else
    let taken := pluginIds config
    Json.set "plugins"
      (.arr (pluginEntries config ++
        (ids.filter fun id => !taken.contains id).map
          (renderCloudDefaultEntry defaultPluginVersion)))
      config

/-! ## Observability sinks -/

def firstPartySinkPlugins : List (String × String × List String) :=
  [("dev.mcpg.observability.prometheus", "metrics_sink", []),
    ("dev.mcpg.observability.otlp", "telemetry_sink", ["network_outbound"])]

/-- The pipeline of `append_default_traces_block`. -/
def defaultTracesBlock (url gatewayName ns : String) : Json :=
  .obj
    [("enabled", .bool true),
      ("service_name", .str "mcpg-gateway"),
      ("sinks", .arr
        [.obj
          [("config", .obj
            [("resource_attributes", .obj
              [("k8s.namespace.name", .str ns),
                ("mcpg.gateway.name", .str gatewayName)]),
              ("url", .str url)]),
            ("kind", .str "dev.mcpg.observability.otlp")]])]

/-- `append_default_traces_block`: only where the author declared nothing,
and nothing below an `observability` that is no object. -/
def appendDefaultTracesBlock (url gatewayName ns : String)
    (config : Json) : Json :=
  if url = "" then config
  else
    match config with
    | .obj _ =>
        config.update "observability" fun x =>
          match x.getD (.obj []) with
          | .obj obs =>
              if (Json.obj obs).get "traces" |>.isSome then .obj obs
              else
                Json.set "traces" (defaultTracesBlock url gatewayName ns)
                  (.obj obs)
          | other => other
    | _ => config

/-- `configured_sink_kinds`, in first-seen order. -/
def configuredSinkKinds (config : Json) : List String :=
  let kinds := ["metrics", "traces", "logs"].flatMap fun signal =>
    (((config.getPath ["observability", signal, "sinks"]).bind
      Json.asArray).getD []).filterMap fun s =>
        (s.get "kind").bind Json.asStr
  kinds.foldl
    (fun seen kind => if seen.contains kind then seen else seen ++ [kind]) []

/-- One step of a pass that loads what the config selects. -/
def pushUnlessLoaded (defaultPluginVersion : String)
    (config : Json) (plugin : String × String × List String) : Json :=
  let (id, class_, grants) := plugin
  if (pluginIds config).contains id then config
  else pushPluginEntry (ociEntry defaultPluginVersion id class_ grants) config

def appendObservabilitySinkPlugins (defaultPluginVersion : String)
    (config : Json) : Json :=
  ((configuredSinkKinds config).filterMap fun kind =>
    firstPartySinkPlugins.find? (·.1 = kind)).foldl
      (pushUnlessLoaded defaultPluginVersion) config

/-- `FIRST_PARTY_CLUSTER_COORDINATORS`, keyed by kind. -/
def firstPartyClusterCoordinators :
    List (String × String × String × List String) :=
  [("nats", "dev.mcpg.cluster.nats", "cluster", ["network_outbound"]),
    ("redis", "dev.mcpg.cluster.redis", "cluster", ["network_outbound"])]

def appendClusterCoordinatorPlugin (defaultPluginVersion : String)
    (config : Json) : Json :=
  match (config.getPath ["cluster", "kind"]).bind Json.asStr with
  | none => config
  | some kind =>
      match firstPartyClusterCoordinators.lookup kind with
      | none => config
      | some plugin => pushUnlessLoaded defaultPluginVersion config plugin

end McpgOperator.Templates
