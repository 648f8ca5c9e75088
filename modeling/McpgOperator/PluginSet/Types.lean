import McpgOperator.Json
import McpgOperator.Kube.Object

/-!
# The plugin-set resource

`MCPGPluginSet`, with the fields its controller and the gateway controller
read.
-/

namespace McpgOperator.PluginSet

open McpgOperator.Kube

/-- `MCPGPluginSetEntry`; `pluginRef` is `pluginRef.name`. -/
structure MCPGPluginSetEntry where
  id : String
  pluginRef : String
  enabled : Bool
  config : Option Json
  deriving DecidableEq

/-- `capabilityGrants` is keyed by plugin id. -/
structure MCPGPluginSetSpec where
  entries : List MCPGPluginSetEntry := []
  capabilityGrants : List (String × List String) := []
  deriving DecidableEq

/-- An entry that did not resolve. -/
structure FailedEntry where
  id : String
  reason : String
  message : String
  deriving DecidableEq, Repr

structure MCPGPluginSetStatus where
  conditions : List Condition := []
  resolvedHash : Option String := none
  observedGeneration : Option Int := none
  resolvedEntries : Option Int := none
  totalEntries : Option Int := none
  failedEntries : List FailedEntry := []
  lastReconcileTime : Option DateTime := none
  deriving DecidableEq

structure MCPGPluginSet where
  metadata : ObjectMeta
  spec : MCPGPluginSetSpec
  status : Option MCPGPluginSetStatus := none
  deriving DecidableEq

end McpgOperator.PluginSet
