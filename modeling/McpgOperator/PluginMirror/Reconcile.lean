import McpgOperator.Kube.Finalizer
import McpgOperator.Plugin.Types

/-!
# One pass of the plugin mirror controller

`controllers/plugin_mirror.rs`: a mirror creates nothing either. A pass looks
for the Service behind the mirror, counts the plugins that are pulled through
it and reports both.
-/

namespace McpgOperator.PluginMirror

open McpgOperator.Kube McpgOperator.Plugin

namespace MirrorReason

def reachable : String := "MirrorServiceFound"

def serviceNotFound : String := "MirrorServiceNotFound"

end MirrorReason

inductive ReconcileError
  | finalizer (e : FinalizerError)
  | kube (e : KubeError)
  | missingName
  deriving DecidableEq, Repr

structure MCPGPluginMirrorStatus where
  conditions : List Condition := []
  observedGeneration : Option Int := none
  reachable : Option Bool := none
  proxiedReferences : Option Nat := none
  endpointHost : Option String := none
  lastReconcileTime : Option DateTime := none
  deriving DecidableEq, Repr

/-- `MCPGPluginMirror`, with what only its own controller reads:
`spec.endpoint.service` and the status. -/
structure MirrorObject where
  mirror : MCPGPluginMirror
  serviceNamespace : String
  serviceName : String
  status : Option MCPGPluginMirrorStatus
  deriving DecidableEq, Repr

structure MirrorAnswers where
  addFinalizer : Except KubeError Unit
  removeFinalizer : Except FinalizerError Unit
  /-- Whether there is a Service of that namespace and name. -/
  getService : String → String → Except KubeError Bool
  listPlugins : Except KubeError (List MCPGPlugin)
  /-- `jittered_resync`, in seconds. -/
  resyncSecs : Nat
  now : DateTime

inductive Effect
  | patchStatus (status : MCPGPluginMirrorStatus)
  | publish (evt : K8sEvent)
  deriving DecidableEq

structure Pass where
  trace : List Effect
  result : Except ReconcileError (Requeue × ReconcileOutcome)
  deriving DecidableEq

def Pass.fail (e : ReconcileError) : Pass := { trace := [], result := .error e }

/-! ## The report -/

def countProxiedPlugins (plugins : List MCPGPlugin) (mirrorName : String) :
    Nat :=
  plugins.countP fun p => p.spec.oci.mirrorRef == some mirrorName

def mirrorMessage (obj : MirrorObject) (reachable : Bool) : String :=
  "mirror Service " ++ obj.serviceNamespace ++ "/" ++ obj.serviceName ++
    if reachable then
      " resolves; pulls route to " ++ obj.mirror.spec.serviceHost
    else " not found; plugin pulls through this mirror will fail"

def readyCondition (obj : MirrorObject) (reachable : Bool)
    (generation : Int) : Condition :=
  { type := CType.ready
    status := if reachable then "True" else "False"
    reason := if reachable then Reasons.reconciled
      else MirrorReason.serviceNotFound
    message := mirrorMessage obj reachable
    observedGeneration := some generation }

def resolveEvent (obj : MirrorObject) (reachable : Bool) : List Effect :=
  if reachable then []
  else
    [.publish
      { type_ := "Warning", reason := MirrorReason.serviceNotFound
        note := some (mirrorMessage obj reachable), action := "Resolve" }]

/-- What a pass reports once it knows the Service and the plugins. -/
def report (conditions : ConditionsApi) (ans : MirrorAnswers)
    (obj : MirrorObject) (reachable : Bool) (proxied : Nat) : Pass :=
  let generation := obj.mirror.metadata.generation.getD 0
  let status : MCPGPluginMirrorStatus :=
    { conditions := conditions.setCondition
        ((obj.status.map (·.conditions)).getD [])
        (readyCondition obj reachable generation)
      observedGeneration := some generation
      reachable := some reachable
      proxiedReferences := some proxied
      endpointHost := some obj.mirror.spec.serviceHost
      lastReconcileTime := some ans.now }
  { trace := .patchStatus status :: resolveEvent obj reachable
    result := .ok
      (.after ans.resyncSecs,
        if reachable then .success else .dependencyPending) }

/-! ## The pass -/

def reconcileInner (conditions : ConditionsApi) (ans : MirrorAnswers)
    (obj : MirrorObject) : Pass :=
  match obj.mirror.metadata.name with
  | none => .fail .missingName
  | some name =>
      if obj.mirror.metadata.deletionTimestamp.isSome then
        match ans.removeFinalizer with
        | .error e => .fail (.finalizer e)
        | .ok _ => { trace := [], result := .ok (.awaitChange, .success) }
      else
        match ensureFinalizer ans.addFinalizer obj.mirror.metadata with
        | .error e => .fail (.finalizer e)
        | .ok _ =>
            match ans.getService obj.serviceNamespace obj.serviceName with
            | .error e => .fail (.kube e)
            | .ok reachable =>
                match ans.listPlugins with
                | .error e => .fail (.kube e)
                | .ok plugins =>
                    report conditions ans obj reachable
                      (countProxiedPlugins plugins name)

end McpgOperator.PluginMirror
