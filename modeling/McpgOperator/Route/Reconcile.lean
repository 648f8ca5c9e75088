import McpgOperator.Gateway.Types
import McpgOperator.Kube.Finalizer
import McpgOperator.Text

/-!
# One pass of the route controller

`controllers/route.rs`: a route creates nothing. A pass looks for the gateway
the route names and reports whether that gateway takes it; what the gateway
makes of it is the gateway controller's business.
-/

namespace McpgOperator.Route

open McpgOperator.Kube McpgOperator.Gateway McpgOperator.Text

namespace CondType

def gatewayBound : String := "GatewayBound"

def chainsEnforced : String := "ChainsEnforced"

end CondType

namespace RouteReason

def bound : String := "GatewayBound"

def gatewayNotFound : String := "GatewayNotFound"

def namespaceNotAccepted : String := "NamespaceNotAccepted"

def noTools : String := "NoMatchedTools"

def chainPluginMissing : String := "ChainPluginMissing"

def perRouteDispatchUnsupported : String := "PerRouteDispatchUnsupported"

end RouteReason

inductive ReconcileError
  | finalizer (e : FinalizerError)
  | kube (e : KubeError)
  | missingName
  | missingNamespace (name : String)
  deriving DecidableEq, Repr

structure RouteLibs where
  conditions : ConditionsApi
  gateway : GatewayApi

structure RouteAnswers where
  addFinalizer : Except KubeError Unit
  removeFinalizer : Except FinalizerError Unit
  /-- The gateway of that namespace and name. -/
  getGateway : String → String → Except KubeError (Option MCPGGateway)
  /-- `jittered_resync`, in seconds. -/
  resyncSecs : Nat
  now : DateTime

inductive Effect
  | patchStatus (status : MCPGRouteStatus)
  | publish (evt : K8sEvent)
  deriving DecidableEq

structure Pass where
  trace : List Effect
  result : Except ReconcileError (Requeue × ReconcileOutcome)
  deriving DecidableEq

def Pass.fail (e : ReconcileError) : Pass := { trace := [], result := .error e }

/-! ## The conditions -/

/-- What a condition says, before it is one. -/
structure Verdict where
  ok : Bool
  reason : String
  message : String
  deriving DecidableEq, Repr

/-- `set_cond`. -/
def Verdict.condition (v : Verdict) (type_ : String) (generation : Int) :
    Condition :=
  { type := type_, status := if v.ok then "True" else "False"
    reason := v.reason, message := v.message
    observedGeneration := some generation }

/-- `{gateway_namespace}/{name}` of the gateway a route names. -/
def boundGateway (api : GatewayApi) (obj : MCPGRoute) (ns : String) :
    String :=
  api.gatewayNamespace obj.spec ns ++ "/" ++ obj.spec.gatewayRef

/-- GatewayBound, from the gateway that was found. -/
def gatewayBound (api : GatewayApi) (obj : MCPGRoute) (ns : String) :
    Option MCPGGateway → Verdict
  | none =>
      { ok := false, reason := RouteReason.gatewayNotFound
        message := "MCPGGateway/" ++ boundGateway api obj ns ++
          " not found" }
  | some gateway =>
      if api.gatewayNamespace obj.spec ns = ns ∨
          gateway.spec.acceptedRouteNamespaces.contains ns = true then
        { ok := true, reason := RouteReason.bound
          message := "bound to MCPGGateway/" ++ boundGateway api obj ns }
      else
        { ok := false, reason := RouteReason.namespaceNotAccepted
          message := "MCPGGateway/" ++ boundGateway api obj ns ++
            " does not list namespace '" ++ ns ++
            "' in spec.acceptedRouteNamespaces" }

/-- `missing_chain_plugins`: a blank id is the only one that is flagged. -/
def missingChainPlugins (obj : MCPGRoute) : Option String :=
  (obj.spec.allChainPlugins.find? fun id => trim id == "").map fun _ =>
    "<empty>"

def readyVerdict (obj : MCPGRoute) (binding : Verdict) : Verdict :=
  if binding.ok = false then binding
  else if obj.spec.tools.isEmpty then
    { ok := false, reason := RouteReason.noTools
      message := "route matches no tools (spec.match.tools is empty)" }
  else
    match missingChainPlugins obj with
    | some missingId =>
        { ok := false, reason := RouteReason.chainPluginMissing
          message := "chain references plugin '" ++ missingId ++
            "' not declared on the gateway's pluginSetRef" }
    | none =>
        { ok := true, reason := Reasons.reconciled
          message := toString obj.spec.tools.length ++
            " tool(s) scoped to tenant '" ++
            obj.spec.tenant.getD "<none>" ++ "'" }

/-- The gateway records the chains of a route, and does not dispatch them. -/
def chainsVerdict : Verdict :=
  { ok := false, reason := RouteReason.perRouteDispatchUnsupported
    message := "identity/policy/audit chains are validated + recorded, " ++
      "but the gateway runtime does not yet dispatch them per-route; " ++
      "tool-access scoping (see Ready) is enforced" }

/-! ## The pass -/

def bindEvent (binding : Verdict) : List Effect :=
  if binding.ok then []
  else
    [.publish
      { type_ := "Warning", reason := binding.reason
        note := some binding.message, action := "Bind" }]

/-- What a pass reports once it has looked for the gateway. -/
def report (libs : RouteLibs) (ans : RouteAnswers) (obj : MCPGRoute)
    (ns : String) (gateway : Option MCPGGateway) : Pass :=
  let generation := obj.metadata.generation.getD 0
  let binding := gatewayBound libs.gateway obj ns gateway
  let ready := readyVerdict obj binding
  let status : MCPGRouteStatus :=
    { conditions := libs.conditions.setAll
        ((obj.status.map (·.conditions)).getD [])
        [binding.condition CondType.gatewayBound generation,
          ready.condition CType.ready generation,
          chainsVerdict.condition CondType.chainsEnforced generation]
      observedGeneration := some generation
      matchedTools := some obj.spec.tools.length
      boundGateway := some (boundGateway libs.gateway obj ns)
      lastReconcileTime := some ans.now }
  { trace := .patchStatus status :: bindEvent binding
    result := .ok
      (.after ans.resyncSecs,
        if ready.ok then .success else .dependencyPending) }

def reconcileInner (libs : RouteLibs) (ans : RouteAnswers)
    (obj : MCPGRoute) : Pass :=
  match obj.metadata.name with
  | none => .fail .missingName
  | some name =>
      match obj.metadata.namespace_ with
      | none => .fail (.missingNamespace name)
      | some ns =>
          if obj.metadata.deletionTimestamp.isSome then
            match ans.removeFinalizer with
            | .error e => .fail (.finalizer e)
            | .ok _ => { trace := [], result := .ok (.awaitChange, .success) }
          else
            match ensureFinalizer ans.addFinalizer obj.metadata with
            | .error e => .fail (.finalizer e)
            | .ok _ =>
                match ans.getGateway (libs.gateway.gatewayNamespace obj.spec ns)
                    obj.spec.gatewayRef with
                | .error e => .fail (.kube e)
                | .ok gateway => report libs ans obj ns gateway

end McpgOperator.Route
