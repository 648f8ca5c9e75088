import McpgOperator.Plugin.Types
import McpgOperator.PluginSet.Types
import McpgOperator.Templates.Deployment
import McpgOperator.Templates.PluginRender

/-!
# Resolving the references of a gateway

`resolve_plugin_set` and `resolve_revocation_list` of
`controllers/gateway.rs`. Each gives a condition for the status and, when it
can, what the renderers need; only an apiserver error ends the pass.
-/

namespace McpgOperator.Gateway

open McpgOperator.Kube McpgOperator.Plugin McpgOperator.PluginSet
  McpgOperator.Templates

/-! ## The plugin set -/

namespace PluginSetReason

def resolved : String := "PluginSetResolved"

def notFound : String := "PluginSetNotFound"

def notReady : String := "PluginSetNotReady"

def resolvedCmMissing : String := "ResolvedConfigMapMissing"

def parseFailed : String := "ResolvedConfigMapParseFailed"

end PluginSetReason

namespace RevocationReason

def resolved : String := "RevocationListResolved"

def notFound : String := "RevocationListNotFound"

def applyFailed : String := "RevocationConfigMapApplyFailed"

end RevocationReason

namespace CondType

def pluginSetReady : String := "PluginSetReady"

def revocationListReady : String := "RevocationListReady"

end CondType

/-- A condition of the resolvers, which stamp no generation. -/
def resolveCondition (type status reason message : String) : Condition :=
  { type := type, status := status, reason := reason, message := message
    observedGeneration := none }

def requiredString (obj : Json) (key : String) (index : Nat) :
    Except String String :=
  match (obj.get key).bind Json.asStr with
  | some s => .ok s
  | none =>
      .error ("entries[" ++ toString index ++ "]." ++ key ++
        " missing or not a string")

/-- One entry of `plugins.json`. -/
def parseEntry (index : Nat) (e : Json) : Except String ResolvedSetEntry := do
  let id ← requiredString e "id" index
  let pluginClass ← requiredString e "pluginClass" index
  let pluginVersion ← requiredString e "pluginVersion" index
  let artefactSecretName ← requiredString e "artefactSecretName" index
  let resolvedDigest ← requiredString e "resolvedDigest" index
  .ok
    { id := id
      pluginClass := pluginClass
      pluginVersion := pluginVersion
      artefactSecretName := artefactSecretName
      resolvedDigest := resolvedDigest
      config := (e.get "config").getD .null }

/-- The loop over the entries, from index `i` on. -/
def parseEntries (i : Nat) :
    List Json → Except String (List ResolvedSetEntry)
  | [] => .ok []
  | e :: rest => do
      let entry ← parseEntry i e
      let entries ← parseEntries (i + 1) rest
      .ok (entry :: entries)

/-- `parse_resolved_plugins_json`. The grants come from the set's spec. -/
def parseResolvedPluginsJson (fromStr : String → Except String Json)
    (json : String) (set : MCPGPluginSet) :
    Except String ResolvedSetView := do
  let doc ← (fromStr json).mapError ("invalid JSON: " ++ ·)
  match (doc.get "entries").bind Json.asArray with
  | none => .error "plugins.json missing `entries` array"
  | some entries =>
      let entries ← parseEntries 0 entries
      .ok { entries := entries, capabilityGrants := set.spec.capabilityGrants }

structure ResolvedPluginSet where
  resolvedHash : String
  view : Option ResolvedSetView
  mounts : List PluginSecretMount
  condition : Condition
  deriving DecidableEq

/-- A set that cannot be consumed. -/
def ResolvedPluginSet.unresolved (resolvedHash reason message : String) :
    ResolvedPluginSet :=
  { resolvedHash := resolvedHash
    view := none
    mounts := []
    condition :=
      resolveCondition CondType.pluginSetReady "False" reason message }

/-- One Secret projection for each entry. -/
def mountsOf (view : ResolvedSetView) : List PluginSecretMount :=
  view.entries.map fun e =>
    { pluginId := e.id, secretName := e.artefactSecretName }

/-- The serialisers behind the resolvers. -/
structure ResolveLibs where
  /-- `serde_json::from_str`. -/
  fromStr : String → Except String Json
  /-- `render_revocation_list_json`: the pretty-printed document and its
  SHA-256. -/
  renderRevocationListJson : MCPGRevocationListSpec → String × String
  /-- `type_name` of `ConfigMap`, which an apply error prints. -/
  configMapTypeName : String

/-- The apiserver reads of the two resolvers, and the apply of the
gateway's copy of the revocation list. -/
structure ResolveAnswers where
  getPluginSet : String → Except KubeError (Option MCPGPluginSet)
  getConfigMap : String → Except KubeError (Option ConfigMap)
  getRevocationList : String → Except KubeError (Option MCPGRevocationList)
  applyRevocationCm : Except KubeError Unit

/-- The set is Ready. -/
def pluginSetReady (set : MCPGPluginSet) : Bool :=
  (set.status.map fun s => readyTrue s.conditions).getD false

/-- From the `{set-name}-resolved` ConfigMap to the view. -/
def viewOfConfigMap (libs : ResolveLibs)
    (set : MCPGPluginSet) (name resolvedHash : String)
    (resolvedCm : Option ConfigMap) : ResolvedPluginSet :=
  let cmName := name ++ "-resolved"
  match resolvedCm with
  | none =>
      .unresolved resolvedHash PluginSetReason.resolvedCmMissing
        ("ConfigMap/" ++ cmName ++
          " missing — plugin-set controller hasn't materialised yet")
  | some cm =>
      let pluginsJson := ((cm.data.getD []).lookup "plugins.json").getD ""
      match parseResolvedPluginsJson libs.fromStr pluginsJson set with
      | .error e =>
          .unresolved resolvedHash PluginSetReason.parseFailed
            ("ConfigMap/" ++ cmName ++ " plugins.json parse failed: " ++ e)
      | .ok view =>
          { resolvedHash := resolvedHash
            view := some view
            mounts := mountsOf view
            condition :=
              resolveCondition CondType.pluginSetReady "True"
                PluginSetReason.resolved
                ("MCPGPluginSet/" ++ name ++ " resolved with " ++
                  toString set.spec.entries.length ++ " entries") }

/-- `resolve_plugin_set`; nothing without a `pluginSetRef`. -/
def resolvePluginSet (libs : ResolveLibs) (ans : ResolveAnswers)
    (ns : String) (obj : MCPGGateway) :
    Except KubeError (Option ResolvedPluginSet) := do
  match obj.spec.pluginSetRef with
  | none => .ok none
  | some name =>
      match ← ans.getPluginSet name with
      | none =>
          .ok (some (.unresolved "" PluginSetReason.notFound
            ("MCPGPluginSet/" ++ name ++ " not found in namespace " ++ ns)))
      | some set =>
          let resolvedHash := (set.status.bind (·.resolvedHash)).getD ""
          if pluginSetReady set = false ∨ resolvedHash = "" then
            .ok (some (.unresolved resolvedHash PluginSetReason.notReady
              ("MCPGPluginSet/" ++ name ++
                ".status.conditions[Ready] != True")))
          else
            let resolvedCm ← ans.getConfigMap (name ++ "-resolved")
            .ok (some
              (viewOfConfigMap libs set name resolvedHash resolvedCm))

/-! ## The revocation list -/

structure ResolvedRevocationList where
  mount : RevocationListMount
  condition : Condition
  deriving DecidableEq

def revocationCmName (obj : MCPGGateway) : String :=
  obj.metadata.name.getD "" ++ "-revocations"

/-- `build_revocation_configmap`; the labels in key order. -/
def buildRevocationConfigmap (parent : MCPGGateway)
    (name json hash : String) : ConfigMap :=
  { name := some name
    namespace_ := parent.metadata.namespace_
    labels :=
      [("app.kubernetes.io/managed-by", "mcpg-operator"),
        ("mcpg.dev/gateway", parent.metadata.name.getD ""),
        ("mcpg.dev/revocation-list-hash", hash)]
    data := some [("list.json", json)] }

def defaultRevocationListName : String := "cluster-default"

/-- `resolve_revocation_list`. A missing list is skipped unless the gateway
asks for one by name. -/
def resolveRevocationList (libs : ResolveLibs) (ans : ResolveAnswers)
    (obj : MCPGGateway) :
    Except KubeError (Option ResolvedRevocationList) := do
  let targetName :=
    obj.spec.revocationListRef.getD defaultRevocationListName
  match ← ans.getRevocationList targetName with
  | none =>
      if obj.spec.revocationListRef.isSome then
        .ok (some
          { mount := { configMapName := "", contentHash := "" }
            condition :=
              resolveCondition CondType.revocationListReady "False"
                RevocationReason.notFound
                ("MCPGRevocationList/" ++ targetName ++ " not found") })
      else .ok none
  | some rl =>
      let hash := (libs.renderRevocationListJson rl.spec).2
      let mount : RevocationListMount :=
        { configMapName := revocationCmName obj, contentHash := hash }
      match ans.applyRevocationCm with
      | .error e =>
          .ok (some
            { mount := mount
              condition :=
                resolveCondition CondType.revocationListReady "False"
                  RevocationReason.applyFailed
                  ("ConfigMap apply failed: SSA apply failed for " ++
                    libs.configMapTypeName ++ "/" ++ revocationCmName obj ++
                    ": " ++ displayKube e) })
      | .ok _ =>
          .ok (some
            { mount := mount
              condition :=
                resolveCondition CondType.revocationListReady "True"
                  RevocationReason.resolved
                  ("MCPGRevocationList/" ++ targetName ++
                    " materialised (" ++
                    toString rl.spec.revocations.length ++
                    " entries, hash " ++ hash ++ ")") })

/-- The ConfigMap `resolve_revocation_list` applies, when it gets to that. -/
def revocationConfigmap (libs : ResolveLibs) (ans : ResolveAnswers)
    (obj : MCPGGateway) : Option ConfigMap :=
  match ans.getRevocationList
      (obj.spec.revocationListRef.getD defaultRevocationListName) with
  | .error _ => none
  | .ok none => none
  | .ok (some rl) =>
      let (json, hash) := libs.renderRevocationListJson rl.spec
      some (buildRevocationConfigmap obj (revocationCmName obj) json hash)

end McpgOperator.Gateway
