import Mathlib.Data.List.Destutter
import Mathlib.Data.List.Sort
import McpgOperator.Gateway.Types
import McpgOperator.Kube.Finalizer
import McpgOperator.Plugin.Types
import McpgOperator.Text

/-!
# One pass of the revocation-list controller

`reconcile_inner` of `controllers/revocation_list.rs`: render the list, find
the namespaces that have a gateway, apply one ConfigMap in each. The
ConfigMap has the same name whatever the list is called. An apply that fails
is counted and the loop goes on.

The answers to the status patch and to the event are only logged and are
left out.
-/

namespace McpgOperator.RevocationList

open McpgOperator.Kube McpgOperator.Plugin McpgOperator.Text
open McpgOperator.Gateway (MCPGGateway)

/-! ## The surroundings of a pass -/

def configmapName : String := "mcpg-revocation-list"

def revocationsFile : String := "revocations.json"

inductive ReconcileError
  | finalizer (e : FinalizerError)
  | kube (e : KubeError)
  | missingName
  deriving DecidableEq, Repr

structure RevocationLibs where
  conditions : ConditionsApi
  toRfc3339 : DateTime → String
  /-- `serde_json::to_string_pretty`, which does not fail on a map. -/
  toStringPretty : Json → String
  sha256Hex : String → String

/-- What the requests of a pass answer. -/
structure ListAnswers where
  addFinalizer : Except KubeError Unit
  removeFinalizer : Except FinalizerError Unit
  listGateways : Except KubeError (List MCPGGateway)
  /-- The apply into this namespace. -/
  applyConfigMap : String → Except KubeError Unit
  now : DateTime

inductive Effect
  | applyConfigMap (ns : String) (cm : ConfigMap)
  | patchStatus (status : MCPGRevocationListStatus)
  | publish (evt : K8sEvent)
  deriving DecidableEq

structure Pass where
  trace : List Effect
  result : Except ReconcileError (Requeue × ReconcileOutcome)
  deriving DecidableEq

def Pass.fail (e : ReconcileError) : Pass := { trace := [], result := .error e }

/-! ## Rendering -/

/-- One entry of `revocations`, its keys in order. -/
def renderEntry (libs : RevocationLibs) (e : RevocationEntry) : Json :=
  .obj <|
    [("artifact_sha256", .str (toAsciiLowercase e.artifactSha256)),
      ("reason", .str e.reason)] ++
    (e.revokedAt.map fun t =>
      ("revoked_at", Json.str (libs.toRfc3339 t))).toList

def revocationDoc (libs : RevocationLibs) (spec : MCPGRevocationListSpec) :
    Json :=
  .obj <|
    (spec.issuedAt.map fun t =>
      ("issued_at", Json.str (libs.toRfc3339 t))).toList ++
    [("revocations", .arr (spec.revocations.map (renderEntry libs))),
      ("version", .num (.int spec.version))]

/-- `render_revocation_json`: the text and its hash. -/
def renderRevocationJson (libs : RevocationLibs)
    (spec : MCPGRevocationListSpec) : String × String :=
  let json := libs.toStringPretty (revocationDoc libs spec)
  (json, libs.sha256Hex json)

def buildConfigmap (parent : MCPGRevocationList)
    (ns rendered contentHash : String) : ConfigMap :=
  { name := some configmapName
    namespace_ := some ns
    labels :=
      [("app.kubernetes.io/managed-by", "mcpg-operator"),
        ("mcpg.dev/content-hash", contentHash),
        ("mcpg.dev/revocation-list", parent.metadata.name.getD "unknown")]
    data := some [(revocationsFile, rendered)] }

/-- The ConfigMap a pass over the list applies into the namespace. -/
def listConfigmap (libs : RevocationLibs) (parent : MCPGRevocationList)
    (ns : String) : ConfigMap :=
  let (rendered, contentHash) := renderRevocationJson libs parent.spec
  buildConfigmap parent ns rendered contentHash

/-! ## The namespaces -/

/-- `list_namespaces_with_gateways`, of the gateways listed. -/
def namespacesWithGateways (gateways : List MCPGGateway) : List String :=
  ((gateways.filterMap (·.metadata.namespace_)).insertionSort
    (· ≤ ·)).destutter (· ≠ ·)

/-- The namespaces whose apply succeeds. -/
def appliedNamespaces (ans : ListAnswers) (targets : List String) :
    List String :=
  targets.filter fun ns => (ans.applyConfigMap ns).isOk

/-! ## The report -/

def readyCondition (materialised total : Nat) (generation : Int) :
    Condition :=
  if materialised = total then
    { type := CType.ready, status := "True", reason := Reasons.reconciled
      message := toString materialised ++ " namespaces synced"
      observedGeneration := some generation }
  else
    { type := CType.ready, status := "False", reason := Reasons.progressing
      message := toString materialised ++ "/" ++ toString total ++
        " namespaces synced"
      observedGeneration := some generation }

/-- The status at the end of a pass. -/
def reportedStatus (libs : RevocationLibs) (ans : ListAnswers)
    (obj : MCPGRevocationList) (materialised total : Nat) :
    MCPGRevocationListStatus :=
  let generation := obj.metadata.generation.getD 0
  { conditions :=
      libs.conditions.setCondition
        ((obj.status.map (·.conditions)).getD [])
        (readyCondition materialised total generation)
    observedGeneration := some generation
    observedRevocations := some obj.spec.revocations.length
    materialisedNamespaces := some materialised
    pluginsBlocked := []
    contentHash := some (renderRevocationJson libs obj.spec).2
    lastReconcileTime := some ans.now }

def reportedEvent (obj : MCPGRevocationList) (materialised total : Nat) :
    K8sEvent :=
  let ready := materialised = total
  { type_ := if ready then "Normal" else "Warning"
    reason := if ready then "Materialised" else "PartialMaterialisation"
    note :=
      some ("Revocation list materialised in " ++ toString materialised ++
        "/" ++ toString total ++ " namespaces (entries: " ++
        toString obj.spec.revocations.length ++ ")")
    action := "Materialise" }

/-! ## The pass -/

/-- What follows the list of the namespaces. -/
def materialise (libs : RevocationLibs) (ans : ListAnswers)
    (obj : MCPGRevocationList) (targets : List String) : Pass :=
  let materialised := (appliedNamespaces ans targets).length
  let total := targets.length
  { trace :=
      (targets.map fun ns =>
        .applyConfigMap ns (listConfigmap libs obj ns)) ++
      [.patchStatus (reportedStatus libs ans obj materialised total),
        .publish (reportedEvent obj materialised total)]
    result :=
      .ok (.after 60,
        if materialised = total then .success else .dependencyPending) }

def reconcileInner (libs : RevocationLibs) (ans : ListAnswers)
    (obj : MCPGRevocationList) : Pass :=
  match obj.metadata.name with
  | none => .fail .missingName
  | some _ =>
      if obj.metadata.deletionTimestamp.isSome then
        match ans.removeFinalizer with
        | .error e => .fail (.finalizer e)
        | .ok _ => { trace := [], result := .ok (.awaitChange, .success) }
      else
        match ensureFinalizer ans.addFinalizer obj.metadata with
        | .error e => .fail (.finalizer e)
        | .ok _ =>
            match ans.listGateways with
            | .error e => .fail (.kube e)
            | .ok gateways =>
                materialise libs ans obj (namespacesWithGateways gateways)

end McpgOperator.RevocationList
