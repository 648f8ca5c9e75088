import McpgOperator.Admission.Tenant
import McpgOperator.Kube.Finalizer

/-!
# One pass of the tenant controller

`reconcile_inner` of `controllers/tenant.rs`, and of `rbac.rs` what it calls.
For each declared namespace that exists a pass ensures a RoleBinding, the
tenant's label and a ResourceQuota; an error of any of the three is only
logged, so the answers stand in the trace beside the requests. A tenant that
is being deleted is torn down namespace by namespace instead.

The answers to the status patch and to the event are only logged too and are
left out.
-/

namespace McpgOperator.Tenant

open McpgOperator.Kube McpgOperator.Admission

/-- `FIELD_MANAGER_PREFIX/FIELD_MANAGER_SUFFIX` of the tenant controller, the
same for every tenant. -/
def fieldManager : String := "mcpg-operator/tenant-controller"

def tenantLabel : String := "mcpg.dev/tenant"

def operatorNamespace : String := "mcpg-system"

def quotaName (tenant : String) : String := "mcpg-tenant-" ++ tenant

namespace CondType

def namespacesBound : String := "NamespacesBound"

def quotaWithinLimits : String := "QuotaWithinLimits"

end CondType

namespace TenantReason

def allBound : String := "AllNamespacesBound"

def namespaceMissing : String := "NamespaceMissing"

def overQuota : String := "PreExistingOverage"

def withinQuota : String := "WithinLimits"

end TenantReason

/-! ## What is applied in a namespace -/

structure Subject where
  apiGroup : Option String
  kind : String
  name : String
  namespace_ : Option String
  deriving DecidableEq, Repr

structure RoleRef where
  apiGroup : String
  kind : String
  name : String
  deriving DecidableEq, Repr

structure RoleBinding where
  name : String
  namespace_ : String
  labels : List (String × String)
  roleRef : RoleRef
  subjects : List Subject
  deriving DecidableEq, Repr

/-- The name of the ClusterRole and of the RoleBinding to it. -/
def tenantSecretsName : String := "mcpg-operator-tenant-secrets"

def buildTenantBinding (ns operatorNs operatorServiceAccount : String) :
    RoleBinding :=
  { name := tenantSecretsName
    namespace_ := ns
    labels :=
      [("app.kubernetes.io/component", "tenant-rbac"),
        ("app.kubernetes.io/managed-by", "mcpg-operator")]
    roleRef :=
      { apiGroup := "rbac.authorization.k8s.io", kind := "ClusterRole"
        name := tenantSecretsName }
    subjects :=
      [{ apiGroup := some "", kind := "ServiceAccount"
         name := operatorServiceAccount, namespace_ := some operatorNs }] }

/-- `hard` is `spec.hard`, its keys in order. -/
structure ResourceQuota where
  name : String
  namespace_ : String
  labels : List (String × String)
  hard : List (String × String)
  deriving DecidableEq, Repr

/-- The replica cap is no count and stays out. -/
def buildHardLimits (q : TenantQuotas) : List (String × String) :=
  (q.maxGateways.map fun n =>
    ("count/mcpggateways.mcpg.dev", toString n)).toList ++
  (q.maxPluginSets.map fun n =>
    ("count/mcpgpluginsets.mcpg.dev", toString n)).toList ++
  (q.maxRoutes.map fun n =>
    ("count/mcpgroutes.mcpg.dev", toString n)).toList

/-- `quotas.map(build_hard_limits).unwrap_or_default()`. -/
def hardLimits (quotas : Option TenantQuotas) : List (String × String) :=
  (quotas.map buildHardLimits).getD []

def buildResourceQuota (ns tenant : String)
    (hard : List (String × String)) : ResourceQuota :=
  { name := quotaName tenant
    namespace_ := ns
    labels :=
      [("app.kubernetes.io/managed-by", "mcpg-operator"),
        (tenantLabel, tenant)]
    hard := hard }

/-! ## The surroundings of a pass -/

inductive ReconcileError
  | finalizer (e : FinalizerError)
  | kube (e : KubeError)
  | missingName
  deriving DecidableEq, Repr

structure TenantLibs where
  conditions : ConditionsApi
  operatorServiceAccount : String

/-- What the requests of a pass answer, namespace by namespace. -/
structure TenantAnswers where
  addFinalizer : Except KubeError Unit
  removeFinalizer : Except FinalizerError Unit
  /-- Whether there is a namespace of that name. -/
  getNamespace : String → Except KubeError Bool
  applyBinding : String → Except KubeError Unit
  applyLabel : String → Except KubeError Unit
  applyQuota : String → Except KubeError Unit
  deleteQuota : String → Except KubeError Unit
  dropLabel : String → Except KubeError Unit
  countGateways : String → Except KubeError Nat
  countPluginSets : String → Except KubeError Nat
  countRoutes : String → Except KubeError Nat
  /-- `jittered_resync`, in seconds. -/
  resyncSecs : Nat
  now : DateTime

/-- A request that writes, with its answer where one is read. -/
inductive Effect
  | applyBinding (ns : String) (binding : RoleBinding)
      (answer : Except KubeError Unit)
  | applyLabel (ns tenant : String) (answer : Except KubeError Unit)
  | applyQuota (ns : String) (quota : ResourceQuota)
      (answer : Except KubeError Unit)
  | deleteQuota (ns name : String) (answer : Except KubeError Unit)
  /-- A forced apply of the namespace with no labels. -/
  | dropLabel (ns : String) (answer : Except KubeError Unit)
  | patchStatus (status : MCPGTenantStatus)
  | publish (evt : K8sEvent)
  deriving DecidableEq

structure Pass where
  trace : List Effect
  result : Except ReconcileError (Requeue × ReconcileOutcome)
  deriving DecidableEq

def Pass.fail (e : ReconcileError) : Pass := { trace := [], result := .error e }

/-! ## One namespace -/

variable (libs : TenantLibs) (ans : TenantAnswers)

/-- The binding of the operator's own namespace comes with its chart. -/
def ensureTenantSecretBinding (ns : String) : List Effect :=
  if ns = operatorNamespace then []
  else
    [.applyBinding ns
      (buildTenantBinding ns operatorNamespace libs.operatorServiceAccount)
      (ans.applyBinding ns)]

def ensureNamespaceLabel (ns tenant : String) : List Effect :=
  [.applyLabel ns tenant (ans.applyLabel ns)]

/-- Without count quotas the object goes; whether it was there is not
looked at. -/
def ensureResourceQuota (ns tenant : String)
    (quotas : Option TenantQuotas) : List Effect :=
  match hardLimits quotas with
  | [] => [.deleteQuota ns (quotaName tenant) (ans.deleteQuota ns)]
  | hard =>
      [.applyQuota ns (buildResourceQuota ns tenant hard)
        (ans.applyQuota ns)]

/-- What the loop does in a namespace that exists. -/
def ensureNamespace (ns tenant : String) (quotas : Option TenantQuotas) :
    List Effect :=
  ensureTenantSecretBinding libs ans ns ++
    ensureNamespaceLabel ans ns tenant ++
    ensureResourceQuota ans ns tenant quotas

def teardownNamespace (ns tenant : String) : List Effect :=
  [.deleteQuota ns (quotaName tenant) (ans.deleteQuota ns),
    .dropLabel ns (ans.dropLabel ns)]

/-! ## The loop -/

/-- What the loop over the namespaces leaves: what it sent, and `bound` and
`missing` unless a lookup failed. -/
structure Walk where
  trace : List Effect
  outcome : Except KubeError (List String × List String)
  deriving DecidableEq

def bindNamespaces (tenant : String) (quotas : Option TenantQuotas) :
    List String → Walk
  | [] => { trace := [], outcome := .ok ([], []) }
  | ns :: rest =>
      match ans.getNamespace ns with
      | .error e => { trace := [], outcome := .error e }
      | .ok false =>
          let w := bindNamespaces tenant quotas rest
          { w with outcome := w.outcome.map fun o => (o.1, ns :: o.2) }
      | .ok true =>
          let w := bindNamespaces tenant quotas rest
          { trace := ensureNamespace libs ans ns tenant quotas ++ w.trace
            outcome := w.outcome.map fun o => (ns :: o.1, o.2) }

/-! ## The report -/

/-- `count_resources`, added onto `counts`. -/
def countResources (counts : TenantObservedCounts) :
    List String → Except KubeError TenantObservedCounts
  | [] => .ok counts
  | ns :: rest => do
      let gateways ← ans.countGateways ns
      let pluginSets ← ans.countPluginSets ns
      let routes ← ans.countRoutes ns
      countResources
        { gateways := counts.gateways + gateways
          pluginSets := counts.pluginSets + pluginSets
          routes := counts.routes + routes } rest

/-- `over`. -/
def overLimit (limit : Option Int) (observed : Int) : Bool :=
  limit.any fun l => decide (observed > l)

def quotaExceeded (quotas : Option TenantQuotas)
    (observed : TenantObservedCounts) : Bool :=
  quotas.any fun q =>
    overLimit q.maxGateways observed.gateways ||
      overLimit q.maxPluginSets observed.pluginSets ||
      overLimit q.maxRoutes observed.routes

def boundCondition (bound missing : List String) (generation : Int) :
    Condition :=
  let allBound := missing.isEmpty
  { type := CondType.namespacesBound
    status := if allBound then "True" else "False"
    reason :=
      if allBound then TenantReason.allBound
      else TenantReason.namespaceMissing
    message :=
      if allBound then toString bound.length ++ " namespace(s) bound"
      else "missing namespace(s): " ++ ", ".intercalate missing
    observedGeneration := some generation }

def quotaCondition (overQuota : Bool) (generation : Int) : Condition :=
  { type := CondType.quotaWithinLimits
    status := if overQuota then "False" else "True"
    reason :=
      if overQuota then TenantReason.overQuota
      else TenantReason.withinQuota
    message :=
      if overQuota then
        "an owned namespace already exceeds a declared quota; the " ++
          "generated ResourceQuota admits existing objects but blocks " ++
          "new ones"
      else ""
    observedGeneration := some generation }

def readyCondition (missing : List String) (generation : Int) : Condition :=
  let allBound := missing.isEmpty
  { type := CType.ready
    status := if allBound then "True" else "False"
    reason :=
      if allBound then Reasons.reconciled
      else Reasons.dependencyMissing
    message :=
      if allBound then ""
      else toString missing.length ++
        " declared namespace(s) not yet present"
    observedGeneration := some generation }

def reportedStatus (obj : MCPGTenant) (bound missing : List String)
    (observed : TenantObservedCounts) : MCPGTenantStatus :=
  let generation := obj.metadata.generation.getD 0
  { conditions :=
      libs.conditions.setAll ((obj.status.map (·.conditions)).getD [])
        [boundCondition bound missing generation,
          quotaCondition (quotaExceeded obj.spec.quotas observed) generation,
          readyCondition missing generation]
    observedGeneration := some generation
    boundNamespaces := bound
    observed := some observed
    lastReconcileTime := some ans.now }

def missingEvent (missing : List String) : List Effect :=
  if missing.isEmpty then []
  else
    [.publish
      { type_ := "Warning", reason := TenantReason.namespaceMissing
        note := some ("declared namespace(s) not found: " ++
          ", ".intercalate missing)
        action := "Bind" }]

/-! ## The pass -/

/-- What follows the finalizer. -/
def bindAndReport (obj : MCPGTenant) (name : String) : Pass :=
  let w := bindNamespaces libs ans name obj.spec.quotas obj.spec.namespaces
  match w.outcome with
  | .error e => { trace := w.trace, result := .error (.kube e) }
  | .ok (bound, missing) =>
      match countResources ans { gateways := 0, pluginSets := 0, routes := 0 }
          bound with
      | .error e => { trace := w.trace, result := .error (.kube e) }
      | .ok observed =>
          { trace := w.trace ++
              .patchStatus (reportedStatus libs ans obj bound missing
                observed) :: missingEvent missing
            result := .ok
              (.after ans.resyncSecs,
                if missing.isEmpty then .success else .dependencyPending) }

def teardown (obj : MCPGTenant) (name : String) : Pass :=
  { trace := obj.spec.namespaces.flatMap fun ns =>
      teardownNamespace ans ns name
    result :=
      match ans.removeFinalizer with
      | .error e => .error (.finalizer e)
      | .ok _ => .ok (.awaitChange, .success) }

def reconcileInner (obj : MCPGTenant) : Pass :=
  match obj.metadata.name with
  | none => .fail .missingName
  | some name =>
      if obj.metadata.deletionTimestamp.isSome then teardown ans obj name
      else
        match ensureFinalizer ans.addFinalizer obj.metadata with
        | .error e => .fail (.finalizer e)
        | .ok _ => bindAndReport libs ans obj name

end McpgOperator.Tenant
