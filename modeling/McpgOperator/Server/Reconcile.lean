import McpgOperator.Kube.Finalizer
import McpgOperator.Plugin.Cosign
import McpgOperator.Templates.Server

/-!
# One pass of the server controller

`controllers/server.rs`: verify the image when the spec asks for it, apply
the workload under a passing verification only, and report. What a pass reads
of the live Deployment is its count of ready replicas.
-/

namespace McpgOperator.Server

open McpgOperator.Kube McpgOperator.Gateway McpgOperator.Templates
  McpgOperator.Plugin McpgOperator.Text

namespace CondType

def imageVerified : String := "ImageVerified"

def gatewayBound : String := "GatewayBound"

end CondType

namespace ServerReason

def bound : String := "GatewayBound"

def gatewayNotFound : String := "GatewayNotFound"

def governanceInvalid : String := "GovernanceInvalid"

def notFederated : String := "NotFederated"

def verified : String := "CosignVerified"

def verifyFailed : String := "CosignVerifyFailed"

def digestRequired : String := "DigestPinRequired"

def notConfigured : String := "VerificationNotConfigured"

def rolloutPending : String := "RolloutPending"

def renderBlocked : String := "RenderBlockedByVerification"

end ServerReason

/-! ## The surroundings of a pass -/

inductive ReconcileError
  | finalizer (e : FinalizerError)
  | apply (e : KubeError)
  | kube (e : KubeError)
  | missingName
  | missingNamespace (name : String)
  deriving DecidableEq, Repr

structure ServerLibs where
  conditions : ConditionsApi
  server : ServerApi
  workload : WorkloadApi

/-- What the requests of a pass answer; the sigstore client answers anew in
every pass. -/
structure ServerAnswers where
  addFinalizer : Except KubeError Unit
  removeFinalizer : Except FinalizerError Unit
  sigstore : SigstoreLib
  applyDeployment : Except KubeError Unit
  applyService : Except KubeError Unit
  /-- The ready replicas of the live Deployment of that name. -/
  getDeployment : String → Except KubeError (Option (Option Int))
  /-- Whether there is a gateway of that name in the namespace. -/
  getGateway : String → Except KubeError Bool
  /-- `jittered_resync`, in seconds. -/
  resyncSecs : Nat
  now : DateTime

inductive Effect
  | applyDeployment (dep : ServerDeployment)
  | applyService (svc : ServerService)
  | patchStatus (status : MCPGServerStatus)
  | publish (evt : K8sEvent)
  deriving DecidableEq

structure Pass where
  trace : List Effect
  result : Except ReconcileError (Requeue × ReconcileOutcome)
  deriving DecidableEq

def Pass.fail (e : ReconcileError) : Pass := { trace := [], result := .error e }

/-- Applies in order, and the rest once all of them succeeded. -/
def applyThen : List (Effect × Except KubeError Unit) → Pass → Pass
  | [], p => p
  | (e, .error x) :: _, _ => { trace := [e], result := .error (.apply x) }
  | (e, .ok _) :: rest, p =>
      let q := applyThen rest p
      { q with trace := e :: q.trace }

/-! ## ImageVerified -/

structure ImageVerdict where
  verified : Bool
  reason : String
  message : String
  deriving DecidableEq, Repr

/-- `image.contains("@sha256:")`. -/
def digestPinned (image : String) : Bool :=
  (fromFirst "@sha256:".toList image.toList).isSome

/-- The verification of an image that is pinned: the digest it is pinned to
is the one that is verified. -/
def verifyImage (sig : SigstoreLib) (image : String)
    (verify : ServerVerify) : Except CosignError CosignVerifyResult :=
  verifyCosignKeyless sig
    { image := image, pullSecretRef := none, mirrorRef := none }
    verify.cosignIdentity .anonymous ((digestOf image).getD "")

def imageVerdict (sig : SigstoreLib) (spec : MCPGServerSpec) :
    ImageVerdict :=
  match spec.verify with
  | none =>
      { verified := true, reason := ServerReason.notConfigured
        message := "spec.verify not set; image admitted without " ++
          "signature verification" }
  | some verify =>
      if digestPinned spec.image = false then
        { verified := false, reason := ServerReason.digestRequired
          message := "spec.verify requires a digest-pinned image " ++
            "(repo@sha256:…)" }
      else
        match verifyImage sig spec.image verify with
        | .ok _ =>
            { verified := true, reason := ServerReason.verified
              message := "cosign keyless signature verified" }
        | .error e =>
            { verified := false, reason := ServerReason.verifyFailed
              message := "cosign verification failed: " ++ e.display }

/-- `set_cond`. -/
def cond (type_ : String) (ok : Bool) (reason message : String)
    (generation : Int) : Condition :=
  { type := type_, status := if ok then "True" else "False"
    reason := reason, message := message
    observedGeneration := some generation }

def ImageVerdict.condition (v : ImageVerdict) (generation : Int) :
    Condition :=
  cond CondType.imageVerified v.verified v.reason v.message generation

/-! ## Ready and GatewayBound -/

/-- The Ready condition, from the replicas the live Deployment reports. -/
def readyCondition (libs : ServerLibs) (obj : MCPGServer)
    (verdict : ImageVerdict) (readyReplicas generation : Int) : Condition :=
  let desired := libs.workload.replicas obj.spec
  let count := toString readyReplicas ++ "/" ++ toString desired ++
    " replicas ready"
  if verdict.verified = false then
    cond CType.ready false ServerReason.renderBlocked
      ("workload not (re)rendered: " ++ verdict.message) generation
  else if readyReplicas ≥ desired then
    cond CType.ready true Reasons.reconciled count generation
  else cond CType.ready false ServerReason.rolloutPending count generation

structure Binding where
  bound : Bool
  reason : String
  message : String
  deriving DecidableEq, Repr

def gatewayBound (api : ServerApi) (federate : ServerFederate) (ns : String)
    (gatewayExists : Bool) : Binding :=
  let gateway := "MCPGGateway/" ++ ns ++ "/" ++ federate.gatewayRef
  match federateGovernanceError api federate with
  | some error =>
      { bound := false, reason := ServerReason.governanceInvalid
        message := error ++ "; " ++ gateway ++
          " does not import this server" }
  | none =>
      if gatewayExists then
        { bound := true, reason := ServerReason.bound
          message := "federated into " ++ gateway }
      else
        { bound := false, reason := ServerReason.gatewayNotFound
          message := gateway ++ " not found" }

/-- What the gateway the server names makes of it: nothing without
`federate`. -/
def bindingOf (libs : ServerLibs) (ans : ServerAnswers) (obj : MCPGServer)
    (ns : String) : Except KubeError (Option Binding) :=
  match obj.spec.federate with
  | none => .ok none
  | some federate =>
      (ans.getGateway federate.gatewayRef).map fun gatewayExists =>
        some (gatewayBound libs.server federate ns gatewayExists)

def bindingCondition (binding : Option Binding) (generation : Int) :
    Condition :=
  match binding with
  | some b =>
      cond CondType.gatewayBound b.bound b.reason b.message generation
  | none =>
      cond CondType.gatewayBound false ServerReason.notFederated
        "spec.federate not set; the workload runs but no gateway imports it"
        generation

/-- `{ns}/{gateway}` of a server that is bound. -/
def boundGateway (obj : MCPGServer) (ns : String)
    (binding : Option Binding) : Option String :=
  if binding.any (·.bound) then
    obj.spec.federate.map fun federate => ns ++ "/" ++ federate.gatewayRef
  else none

/-! ## The pass -/

def bindEvent (binding : Option Binding) : List Effect :=
  ((binding.filter fun b => !b.bound).map fun b =>
    Effect.publish
      { type_ := "Warning", reason := b.reason, note := some b.message
        action := "Bind" }).toList

def verifyEvent (verdict : ImageVerdict) : List Effect :=
  if verdict.verified then []
  else
    [.publish
      { type_ := "Warning", reason := verdict.reason
        note := some verdict.message, action := "Verify" }]

/-- What follows the applies: look at the live Deployment and the gateway,
and report. -/
def report (libs : ServerLibs) (ans : ServerAnswers) (obj : MCPGServer)
    (ns : String) (verdict : ImageVerdict) : Pass :=
  let generation := obj.metadata.generation.getD 0
  let child := serverChildName obj
  match ans.getDeployment child with
  | .error e => .fail (.kube e)
  | .ok live =>
      let readyReplicas := (live.bind id).getD 0
      let ready := readyCondition libs obj verdict readyReplicas generation
      match bindingOf libs ans obj ns with
      | .error e => .fail (.kube e)
      | .ok binding =>
          let status : MCPGServerStatus :=
            { conditions := libs.conditions.setAll
                ((obj.status.map (·.conditions)).getD [])
                [verdict.condition generation, ready,
                  bindingCondition binding generation]
              observedGeneration := some generation
              readyReplicas := some readyReplicas
              endpoint := some (libs.server.endpoint obj.spec child ns)
              boundGateway := boundGateway obj ns binding
              lastReconcileTime := some ans.now }
          { trace := bindEvent binding ++
              .patchStatus status :: verifyEvent verdict
            result := .ok
              (.after ans.resyncSecs,
                if ready.status = "True" then .success
                else .dependencyPending) }

/-- The applies of a pass, under a passing verification only. -/
def workload (libs : ServerLibs) (ans : ServerAnswers) (obj : MCPGServer)
    (verdict : ImageVerdict) : List (Effect × Except KubeError Unit) :=
  if verdict.verified then
    [(.applyDeployment (buildServerDeployment libs.workload obj),
        ans.applyDeployment),
      (.applyService (buildServerService libs.workload obj),
        ans.applyService)]
  else []

def reconcileInner (libs : ServerLibs) (ans : ServerAnswers)
    (obj : MCPGServer) : Pass :=
  match obj.metadata.name with
  | none => .fail .missingName
  | some name =>
      match obj.metadata.namespace_ with
      | none => .fail (.missingNamespace name)
      | some ns =>
          if obj.metadata.deletionTimestamp.isSome then
            match ans.removeFinalizer with
            | .error e => .fail (.finalizer e)
            | .ok _ => { trace := [], result := .ok (.awaitChange, .success) }
          else
            match ensureFinalizer ans.addFinalizer obj.metadata with
            | .error e => .fail (.finalizer e)
            | .ok _ =>
                let verdict := imageVerdict ans.sigstore obj.spec
                applyThen (workload libs ans obj verdict)
                  (report libs ans obj ns verdict)

end McpgOperator.Server
