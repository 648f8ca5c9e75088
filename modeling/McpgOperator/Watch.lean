import McpgOperator.Cluster.Types
import McpgOperator.Gateway.Types
import McpgOperator.Kube.Trigger
import McpgOperator.Plugin.Types
import McpgOperator.PluginSet.Types

/-!
# What schedules a reconcile

`reconcile/watch.rs` and the wiring in each controller's `run`. A controller
is triggered by its own kind through `spec_changes`, which drops an event
that changes neither the generation nor the deletion stamp, and by other
kinds through `.watches`, whose streams are not filtered: each event goes
through the mapper to the objects to reconcile. Four controllers read their
own kind in the configured namespace only.
-/

namespace McpgOperator.Watch

open McpgOperator.Kube McpgOperator.Plugin McpgOperator.PluginSet
  McpgOperator.Cluster McpgOperator.Gateway

/-! ## Stored objects -/

inductive Kind
  | plugin
  | pluginMirror
  | pluginSet
  | revocationList
  | cluster
  | gateway
  | route
  | server
  | tenant
  deriving DecidableEq, Repr

inductive StoredObject (Backend Managed : Type)
  | plugin (o : MCPGPlugin)
  | pluginMirror (o : MCPGPluginMirror)
  | pluginSet (o : MCPGPluginSet)
  | revocationList (o : MCPGRevocationList)
  | cluster (o : MCPGCluster Backend Managed)
  | gateway (o : MCPGGateway)
  | route (o : MCPGRoute)
  | server (o : MCPGServer)
  | tenant (metadata : ObjectMeta)

structure ObjectRef where
  kind : Kind
  name : String
  namespace_ : Option String
  deriving DecidableEq, Repr

/-- `ObjectRef::new`, of a cluster-scoped kind. -/
def ObjectRef.new (kind : Kind) (name : String) : ObjectRef :=
  { kind := kind, name := name, namespace_ := none }

variable {Backend Managed : Type}

def StoredObject.kind : StoredObject Backend Managed → Kind
  | .plugin _ => .plugin
  | .pluginMirror _ => .pluginMirror
  | .pluginSet _ => .pluginSet
  | .revocationList _ => .revocationList
  | .cluster _ => .cluster
  | .gateway _ => .gateway
  | .route _ => .route
  | .server _ => .server
  | .tenant _ => .tenant

def StoredObject.metadata : StoredObject Backend Managed → ObjectMeta
  | .plugin o => o.metadata
  | .pluginMirror o => o.metadata
  | .pluginSet o => o.metadata
  | .revocationList o => o.metadata
  | .cluster o => o.metadata
  | .gateway o => o.metadata
  | .route o => o.metadata
  | .server o => o.metadata
  | .tenant metadata => metadata

def Kind.namespaced : Kind → Bool
  | .pluginSet | .gateway | .route | .server => true
  | _ => false

/-- `ObjectRef::from_obj`. -/
def refOf (kind : Kind) (m : ObjectMeta) : ObjectRef :=
  { kind := kind
    name := m.nameAny
    namespace_ := if kind.namespaced then m.namespace_ else none }

def StoredObject.ref (o : StoredObject Backend Managed) : ObjectRef :=
  refOf o.kind o.metadata

/-- What the apiserver holds, and the namespace the operator is told to
watch. Every stored object has a name. -/
structure World (Backend Managed : Type) where
  objects : List (StoredObject Backend Managed)
  watchNamespace : Option String
  named : ∀ o ∈ objects, o.metadata.name.isSome

/-- The object is in its controller's store. -/
def World.inScope (w : World Backend Managed)
    (o : StoredObject Backend Managed) : Bool :=
  match w.watchNamespace.filter (· ≠ "") with
  | none => true
  | some ns =>
      if o.kind.namespaced then o.metadata.namespace_ == some ns else true

/-- `gateway_store.state()`. -/
def World.gatewayStore (w : World Backend Managed) : List MCPGGateway :=
  (w.objects.filter w.inScope).filterMap fun
    | .gateway o => some o
    | _ => none

/-- `set_store.state()`. -/
def World.pluginSetStore (w : World Backend Managed) : List MCPGPluginSet :=
  (w.objects.filter w.inScope).filterMap fun
    | .pluginSet o => some o
    | _ => none

/-! ## A controller's own kind -/

section

variable (hash : Int × Bool → UInt64)

/-- The value the filter goes by. -/
def filterValue (m : ObjectMeta) : Option UInt64 :=
  specOrDeletion hash m.generation m.deletionTimestamp.isSome

/-- `predicate_filter`: whether the event that takes `old` to `new` goes
through. No value admits every event. -/
def passesFilter (old new : ObjectMeta) : Bool :=
  match filterValue hash new with
  | none => true
  | some v => filterValue hash old != some v

end

/-! ## Mappers over a store of gateways -/

def defaultRevocationListName : String := "cluster-default"

def gatewayUsesPluginSet (gw : MCPGGateway) (setNs : Option String)
    (setName : String) : Bool :=
  gw.metadata.namespace_ == setNs && gw.spec.pluginSetRef == some setName

def gatewayUsesRevocationList (gw : MCPGGateway) (listName : String) : Bool :=
  gw.spec.revocationListRef.getD defaultRevocationListName == listName

/-- The gateways of the store that satisfy `uses`. -/
def gatewaysWhere (store : List MCPGGateway) (uses : MCPGGateway → Bool) :
    List ObjectRef :=
  (store.filter uses).map fun gw => refOf .gateway gw.metadata

def mapPluginSetToGateways (store : List MCPGGateway) (set : MCPGPluginSet) :
    List ObjectRef :=
  match set.metadata.name with
  | none => []
  | some name =>
      gatewaysWhere store fun gw =>
        gatewayUsesPluginSet gw set.metadata.namespace_ name

def mapRevocationListToGateways (store : List MCPGGateway)
    (rl : MCPGRevocationList) : List ObjectRef :=
  match rl.metadata.name with
  | none => []
  | some name =>
      gatewaysWhere store fun gw => gatewayUsesRevocationList gw name

def mapClusterToGateways (store : List MCPGGateway)
    (cluster : MCPGCluster Backend Managed) : List ObjectRef :=
  match cluster.metadata.name with
  | none => []
  | some name =>
      gatewaysWhere store fun gw => gw.spec.clusterRef == some name

def mapRouteToGateways (api : GatewayApi) (store : List MCPGGateway)
    (route : MCPGRoute) : List ObjectRef :=
  match route.metadata.namespace_ with
  | none => []
  | some ns =>
      gatewaysWhere store fun gw =>
        gw.metadata.nameAny == route.spec.gatewayRef &&
          gw.metadata.namespace_ ==
            some (api.gatewayNamespace route.spec ns)

def mapServerToGateways (store : List MCPGGateway) (server : MCPGServer) :
    List ObjectRef :=
  match server.metadata.namespace_, server.spec.federate with
  | some ns, some federate =>
      gatewaysWhere store fun gw =>
        gw.metadata.nameAny == federate.gatewayRef &&
          gw.metadata.namespace_ == some ns
  | _, _ => []

/-! ## The other mappers -/

/-- `plugin_set_references`; a disabled entry counts. -/
def pluginSetReferences (set : MCPGPluginSet) (pluginName : String) : Bool :=
  set.spec.entries.any fun e => e.pluginRef == pluginName

def mapPluginToPluginSets (store : List MCPGPluginSet)
    (plugin : MCPGPlugin) : List ObjectRef :=
  match plugin.metadata.name with
  | none => []
  | some name =>
      (store.filter fun set => pluginSetReferences set name).map fun set =>
        refOf .pluginSet set.metadata

def mapPluginToMirrors (plugin : MCPGPlugin) : List ObjectRef :=
  (plugin.spec.oci.mirrorRef.map (ObjectRef.new .pluginMirror)).toList

/-- `map_plugin_to_clusters`: by name, whatever the cluster's `pluginRef`. -/
def mapPluginToClusters (plugin : MCPGPlugin) : List ObjectRef :=
  [.new .cluster plugin.metadata.nameAny]

def mapGatewayToClusters (gw : MCPGGateway) : List ObjectRef :=
  (gw.spec.clusterRef.map (ObjectRef.new .cluster)).toList

/-- `map_gateway_to_routes`: the hook maps to nothing. -/
def mapGatewayToRoutes (_gw : MCPGGateway) : List ObjectRef := []

/-! ## A status write and what it schedules -/

/-- What the `.watches` streams of all controllers make of an event on the
object. -/
def watched (api : GatewayApi) (w : World Backend Managed) :
    StoredObject Backend Managed → List ObjectRef
  | .plugin o =>
      mapPluginToPluginSets w.pluginSetStore o ++ mapPluginToMirrors o ++
        mapPluginToClusters o
  | .pluginSet o => mapPluginSetToGateways w.gatewayStore o
  | .revocationList o => mapRevocationListToGateways w.gatewayStore o
  | .cluster o => mapClusterToGateways w.gatewayStore o
  | .gateway o => mapGatewayToClusters o ++ mapGatewayToRoutes o
  | .route o => mapRouteToGateways api w.gatewayStore o
  | .server o => mapServerToGateways w.gatewayStore o
  | .pluginMirror _ | .tenant _ => []

/-- What an event that leaves spec and metadata alone schedules. -/
def scheduledBy (hash : Int × Bool → UInt64) (api : GatewayApi)
    (w : World Backend Managed) (o : StoredObject Backend Managed) :
    List ObjectRef :=
  (if passesFilter hash o.metadata o.metadata then [o.ref] else []) ++
    watched api w o

/-- A controller completes passes on the object and ends them with a status
write: it is in scope, and a pass over a deleted object writes none. -/
def World.reports (w : World Backend Managed)
    (o : StoredObject Backend Managed) : Prop :=
  o ∈ w.objects ∧ w.inScope o = true ∧ o.metadata.deletionTimestamp = none

/-- A pass on `a` writes a status change that schedules a pass on `b`. -/
def Cascades (hash : Int × Bool → UInt64) (api : GatewayApi)
    (w : World Backend Managed) (a b : StoredObject Backend Managed) : Prop :=
  w.reports a ∧ (b ∈ w.objects ∧ w.inScope b = true) ∧
    b.ref ∈ scheduledBy hash api w a

end McpgOperator.Watch
