import McpgOperator.Proofs.PluginRounds

/-!
# Passes settle

The rounds of the remaining five controllers, the gateway with its report
last, and the conclusion for all nine: from the second pass on nothing
changes while the world does not.
-/

namespace McpgOperator.Cluster

open McpgOperator.Kube McpgOperator.Rounds Settling

variable {Backend Managed : Type} (libs : ClusterLibs Backend Managed)
  (ans : ClusterAnswers) (obj : MCPGCluster Backend Managed)

theorem scripted_reportVerdict (name : String) (generation : Int)
    (managed : Option ManagedOutcome) (verdict : Readiness)
    (boundGateways : Int) :
    Scripted (rounds libs ans obj) MCPGClusterStatus.same
      fun now status =>
        let p := reportVerdict libs { ans with now := now }
          { obj with status := status } name generation managed verdict
          boundGateways
        (p.trace, p.result) := by
  have hsteady : Steady MCPGClusterStatus.same fun now status =>
      verdictStatus libs { ans with now := now } { obj with status := status }
        name generation managed verdict boundGateways :=
    steady_of_setCondition libs.api (fun _ _ _ _ => rfl) (fun _ _ => rfl)
      fun _ _ _ _ => rfl
  by_cases hready : verdict.ready = true
  · simp only [reportVerdict, hready, if_true]
    exact .around ans.statusLands (List.forall_mem_nil _)
      (List.forall_mem_nil _) (fun _ _ => rfl) (fun _ _ _ _ => rfl) hsteady
  · simp only [reportVerdict, hready, Bool.false_eq_true, if_false]
    exact .around ans.statusLands (List.forall_mem_nil _)
      (List.forall_mem_singleton.mpr rfl) (fun _ _ => rfl)
      (fun _ _ _ _ => rfl) hsteady

theorem managedOutcome_unchanged (now : DateTime)
    (status : Option MCPGClusterStatus) :
    managedOutcome { ans with now := now } { obj with status := status } =
      managedOutcome ans obj := rfl

theorem classifyReadiness_unchanged (now : DateTime)
    (status : Option MCPGClusterStatus) :
    classifyReadiness libs { ans with now := now }
        { obj with status := status } =
      classifyReadiness libs ans obj := rfl

theorem countBoundGateways_now (now : DateTime) :
    countBoundGateways { ans with now := now } = countBoundGateways ans := rfl

theorem scripted_judgeStep (name : String) (generation : Int) :
    Scripted (rounds libs ans obj) MCPGClusterStatus.same
      fun now status =>
        let p := judgeStep libs { ans with now := now }
          { obj with status := status } name generation
        (p.trace, p.result) := by
  simp only [judgeStep, managedOutcome_unchanged, classifyReadiness_unchanged,
    countBoundGateways_now]
  cases managedOutcome ans obj with
  | error e => exact .ends _
  | ok managed =>
      dsimp only
      cases classifyReadiness libs ans obj
          (libs.cluster.effectiveBackend obj.spec) managed with
      | error e => exact .ends _
      | ok verdict =>
          cases countBoundGateways ans name with
          | error e => exact .ends _
          | ok boundGateways =>
              exact scripted_reportVerdict libs ans obj name generation managed
                verdict boundGateways

theorem scripted_round :
    Scripted (rounds libs ans obj) MCPGClusterStatus.same
      (rounds libs ans obj).round := by
  show Scripted _ _ fun now status =>
    ((reconcileInner libs { ans with now := now }
        { obj with status := status }).trace,
      (reconcileInner libs { ans with now := now }
        { obj with status := status }).result)
  unfold reconcileInner
  dsimp only
  cases obj.metadata.name with
  | none => exact .ends _
  | some name =>
      by_cases hdeleted : obj.metadata.deletionTimestamp.isSome = true
      · simp only [hdeleted, if_true]
        cases ans.removeFinalizer with
        | error e => exact .ends _
        | ok _ => exact .ends _
      · simp only [hdeleted, Bool.false_eq_true, if_false]
        cases ensureFinalizer ans.addFinalizer obj.metadata with
        | error e => exact .ends _
        | ok _ =>
            exact scripted_judgeStep libs ans obj name
              (obj.metadata.generation.getD 0)

end McpgOperator.Cluster

namespace McpgOperator.Route

open McpgOperator.Kube McpgOperator.Gateway McpgOperator.Rounds Settling

variable (libs : RouteLibs) (ans : RouteAnswers) (obj : MCPGRoute)

theorem scripted_report (ns : String) (gateway : Option MCPGGateway) :
    Scripted (rounds libs ans obj) sameStatus fun now status =>
      let p := report libs { ans with now := now }
        { obj with status := status } ns gateway
      (p.trace, p.result) := by
  have hevent : ∀ e ∈ bindEvent (gatewayBound libs.gateway obj ns gateway),
      (rounds libs ans obj).left e = none := by
    intro e he
    rw [bindEvent] at he
    split at he
    · cases he
    · rw [List.mem_singleton.mp he]
      rfl
  exact .around () (List.forall_mem_nil _) hevent (fun _ _ => rfl)
    (fun _ _ _ _ => rfl)
    (steady_of_setAll libs.conditions (fun _ _ _ _ => rfl) (fun _ _ => rfl)
      fun _ _ _ _ => rfl)

theorem scripted_round :
    Scripted (rounds libs ans obj) sameStatus
      (rounds libs ans obj).round := by
  show Scripted _ _ fun now status =>
    ((reconcileInner libs { ans with now := now }
        { obj with status := status }).trace,
      (reconcileInner libs { ans with now := now }
        { obj with status := status }).result)
  unfold reconcileInner
  dsimp only
  cases obj.metadata.name with
  | none => exact .ends _
  | some name =>
      cases obj.metadata.namespace_ with
      | none => exact .ends _
      | some ns =>
          by_cases hdeleted : obj.metadata.deletionTimestamp.isSome = true
          · simp only [hdeleted, if_true]
            cases ans.removeFinalizer with
            | error e => exact .ends _
            | ok _ => exact .ends _
          · simp only [hdeleted, Bool.false_eq_true, if_false]
            cases ensureFinalizer ans.addFinalizer obj.metadata with
            | error e => exact .ends _
            | ok _ =>
                cases ans.getGateway
                    (libs.gateway.gatewayNamespace obj.spec ns)
                    obj.spec.gatewayRef with
                | error e => exact .ends _
                | ok gateway => exact scripted_report libs ans obj ns gateway

end McpgOperator.Route

namespace McpgOperator.Server

open McpgOperator.Kube McpgOperator.Gateway McpgOperator.Templates
  McpgOperator.Rounds Settling

variable (libs : ServerLibs) (ans : ServerAnswers) (obj : MCPGServer)

theorem scripted_applyThen {rest : DateTime → Option MCPGServerStatus → Pass}
    (h : Scripted (rounds libs ans obj) sameStatus
      fun now status => ((rest now status).trace, (rest now status).result))
    (applies : List (Effect × Except KubeError Unit))
    (happlies : ∀ a ∈ applies, (rounds libs ans obj).left a.1 = none) :
    Scripted (rounds libs ans obj) sameStatus fun now status =>
      ((applyThen applies (rest now status)).trace,
        (applyThen applies (rest now status)).result) := by
  induction applies with
  | nil => exact h
  | cons a applies ih =>
      obtain ⟨e, answer⟩ := a
      obtain ⟨hfirst, hrest⟩ := List.forall_mem_cons.mp happlies
      have hsent : ∀ e' ∈ [e], (rounds libs ans obj).left e' = none :=
        List.forall_mem_singleton.mpr hfirst
      cases answer with
      | error x => exact .issues hsent (fun _ _ => rfl) fun _ _ _ _ => rfl
      | ok _ =>
          exact .append hsent (ih hrest) (fun _ _ => rfl) fun _ _ => rfl

theorem left_bindEvent (binding : Option Binding) :
    ∀ e ∈ bindEvent binding, (rounds libs ans obj).left e = none := by
  intro e he
  rw [bindEvent, Option.mem_toList, Option.map_eq_some_iff] at he
  obtain ⟨b, -, rfl⟩ := he
  rfl

theorem left_verifyEvent (verdict : ImageVerdict) :
    ∀ e ∈ verifyEvent verdict, (rounds libs ans obj).left e = none := by
  intro e he
  rw [verifyEvent] at he
  split at he
  · cases he
  · rw [List.mem_singleton.mp he]
    rfl

theorem bindingOf_unchanged (now : DateTime)
    (status : Option MCPGServerStatus) :
    bindingOf libs { ans with now := now } { obj with status := status } =
      bindingOf libs ans obj := rfl

theorem readyCondition_status (status : Option MCPGServerStatus) :
    readyCondition libs { obj with status := status } =
      readyCondition libs obj := rfl

theorem serverChildName_status (status : Option MCPGServerStatus) :
    serverChildName { obj with status := status } = serverChildName obj := rfl

theorem scripted_report (ns : String) (verdict : ImageVerdict) :
    Scripted (rounds libs ans obj) sameStatus fun now status =>
      let p := report libs { ans with now := now }
        { obj with status := status } ns verdict
      (p.trace, p.result) := by
  simp only [report, bindingOf_unchanged, readyCondition_status,
    serverChildName_status]
  cases ans.getDeployment (serverChildName obj) with
  | error e => exact .ends _
  | ok live =>
      cases bindingOf libs ans obj ns with
      | error e => exact .ends _
      | ok binding =>
          exact .around () (left_bindEvent libs ans obj binding)
            (left_verifyEvent libs ans obj verdict) (fun _ _ => rfl)
            (fun _ _ _ _ => rfl)
            (steady_of_setAll libs.conditions (fun _ _ _ _ => rfl)
              (fun _ _ => rfl) fun _ _ _ _ => rfl)

theorem left_workload (verdict : ImageVerdict) :
    ∀ a ∈ workload libs ans obj verdict,
      (rounds libs ans obj).left a.1 = none := by
  intro a ha
  rw [workload] at ha
  split at ha
  · rcases List.mem_pair.mp ha with rfl | rfl
    · rfl
    · rfl
  · cases ha

theorem workload_unchanged (now : DateTime)
    (status : Option MCPGServerStatus) :
    workload libs { ans with now := now } { obj with status := status } =
      workload libs ans obj := rfl

theorem scripted_round :
    Scripted (rounds libs ans obj) sameStatus
      (rounds libs ans obj).round := by
  show Scripted _ _ fun now status =>
    ((reconcileInner libs { ans with now := now }
        { obj with status := status }).trace,
      (reconcileInner libs { ans with now := now }
        { obj with status := status }).result)
  unfold reconcileInner
  dsimp only
  cases obj.metadata.name with
  | none => exact .ends _
  | some name =>
      cases obj.metadata.namespace_ with
      | none => exact .ends _
      | some ns =>
          by_cases hdeleted : obj.metadata.deletionTimestamp.isSome = true
          · simp only [hdeleted, if_true]
            cases ans.removeFinalizer with
            | error e => exact .ends _
            | ok _ => exact .ends _
          · simp only [hdeleted, Bool.false_eq_true, if_false,
              workload_unchanged]
            cases ensureFinalizer ans.addFinalizer obj.metadata with
            | error e => exact .ends _
            | ok _ =>
                exact scripted_applyThen libs ans obj
                  (scripted_report libs ans obj ns _) _
                  (left_workload libs ans obj _)

end McpgOperator.Server

namespace McpgOperator.Tenant

open McpgOperator.Kube McpgOperator.Admission McpgOperator.Rounds Settling

variable (libs : TenantLibs) (ans : TenantAnswers) (obj : MCPGTenant)

theorem bindNamespaces_now (now : DateTime) (tenant : String)
    (quotas : Option TenantQuotas) (namespaces : List String) :
    bindNamespaces libs { ans with now := now } tenant quotas namespaces =
      bindNamespaces libs ans tenant quotas namespaces := by
  induction namespaces with
  | nil => rfl
  | cons ns rest ih =>
      simp only [bindNamespaces, ih]
      rfl

theorem countResources_now (now : DateTime) (counts : TenantObservedCounts)
    (namespaces : List String) :
    countResources { ans with now := now } counts namespaces =
      countResources ans counts namespaces := by
  induction namespaces generalizing counts with
  | nil => rfl
  | cons ns rest ih => simp only [countResources, ih]

theorem left_ensureNamespace (ns tenant : String)
    (quotas : Option TenantQuotas) :
    ∀ e ∈ ensureNamespace libs ans ns tenant quotas,
      (rounds libs ans obj).left e = none := by
  intro e he
  simp only [ensureNamespace, ensureTenantSecretBinding,
    ensureNamespaceLabel, ensureResourceQuota, List.mem_append] at he
  rcases he with (he | he) | he
  · split at he
    · cases he
    · rw [List.mem_singleton.mp he]
      rfl
  · rw [List.mem_singleton.mp he]
    rfl
  · split at he
    · rw [List.mem_singleton.mp he]
      rfl
    · rw [List.mem_singleton.mp he]
      rfl

theorem left_bindNamespaces (tenant : String) (quotas : Option TenantQuotas)
    (namespaces : List String) :
    ∀ e ∈ (bindNamespaces libs ans tenant quotas namespaces).trace,
      (rounds libs ans obj).left e = none := by
  induction namespaces with
  | nil => exact List.forall_mem_nil _
  | cons ns rest ih =>
      rw [bindNamespaces]
      split
      · exact List.forall_mem_nil _
      · exact ih
      · exact List.forall_mem_append.mpr
          ⟨left_ensureNamespace libs ans obj ns tenant quotas, ih⟩

theorem left_missingEvent (missing : List String) :
    ∀ e ∈ missingEvent missing, (rounds libs ans obj).left e = none := by
  intro e he
  rw [missingEvent] at he
  split at he
  · cases he
  · rw [List.mem_singleton.mp he]
    rfl

theorem scripted_bindAndReport (name : String) :
    Scripted (rounds libs ans obj) sameStatus fun now status =>
      let p := bindAndReport libs { ans with now := now }
        { obj with status := status } name
      (p.trace, p.result) := by
  have hbound := left_bindNamespaces libs ans obj name obj.spec.quotas
    obj.spec.namespaces
  simp only [bindAndReport, bindNamespaces_now, countResources_now]
  cases (bindNamespaces libs ans name obj.spec.quotas
      obj.spec.namespaces).outcome with
  | error e => exact .issues hbound (fun _ _ => rfl) fun _ _ _ _ => rfl
  | ok walked =>
      obtain ⟨bound, missing⟩ := walked
      dsimp only
      cases countResources ans { gateways := 0, pluginSets := 0, routes := 0 }
          bound with
      | error e => exact .issues hbound (fun _ _ => rfl) fun _ _ _ _ => rfl
      | ok observed =>
          exact .around () hbound (left_missingEvent libs ans obj missing)
            (fun _ _ => rfl) (fun _ _ _ _ => rfl)
            (steady_of_setAll libs.conditions (fun _ _ _ _ => rfl)
              (fun _ _ => rfl) fun _ _ _ _ => rfl)

theorem scripted_teardown (name : String) :
    Scripted (rounds libs ans obj) sameStatus fun now status =>
      let p := teardown { ans with now := now } { obj with status := status }
        name
      (p.trace, p.result) := by
  have htorn : ∀ e ∈ obj.spec.namespaces.flatMap fun ns =>
      teardownNamespace ans ns name,
      (rounds libs ans obj).left e = none := by
    intro e he
    obtain ⟨ns, -, he⟩ := List.mem_flatMap.mp he
    rcases List.mem_pair.mp he with rfl | rfl
    · rfl
    · rfl
  exact .issues htorn (fun _ _ => rfl) fun _ _ _ _ => rfl

theorem scripted_round :
    Scripted (rounds libs ans obj) sameStatus
      (rounds libs ans obj).round := by
  show Scripted _ _ fun now status =>
    ((reconcileInner libs { ans with now := now }
        { obj with status := status }).trace,
      (reconcileInner libs { ans with now := now }
        { obj with status := status }).result)
  unfold reconcileInner
  dsimp only
  cases obj.metadata.name with
  | none => exact .ends _
  | some name =>
      by_cases hdeleted : obj.metadata.deletionTimestamp.isSome = true
      · simp only [hdeleted, if_true]
        exact scripted_teardown libs ans obj name
      · simp only [hdeleted, Bool.false_eq_true, if_false]
        cases ensureFinalizer ans.addFinalizer obj.metadata with
        | error e => exact .ends _
        | ok _ => exact scripted_bindAndReport libs ans obj name

end McpgOperator.Tenant

namespace McpgOperator.Gateway

open McpgOperator.Kube McpgOperator.Templates McpgOperator.Cluster
  McpgOperator.Rounds Settling

variable {Backend Managed : Type} (libs : GatewayLibs Backend Managed)
  (cfg : OperatorConfig) (ans : GatewayAnswers Backend Managed)
  (deployment : Option DeploymentStatus) (obj : MCPGGateway)

theorem resolveStep_unchanged (now : DateTime)
    (status : Option MCPGGatewayStatus) :
    resolveStep libs { ans with now := now } { obj with status := status } =
      resolveStep libs ans obj := rfl

theorem children_unchanged (now : DateTime)
    (status : Option MCPGGatewayStatus) :
    children libs cfg { ans with now := now } { obj with status := status } =
      children libs cfg ans obj := rfl

theorem overwrites_setVerdict (api : ConditionsApi) (available : Int) :
    Overwrites Condition.type (setVerdict api obj available) := by
  unfold setVerdict
  by_cases hall : allReplicasAvailable obj available = true
  · simp only [hall, if_true]
    exact (overwrites_setCondition api _).comp (overwrites_setCondition api _)
  · simp only [hall, Bool.false_eq_true, if_false]
    exact (overwrites_setCondition api _).comp (overwrites_setCondition api _)

theorem overwrites_setReferences (r : Resolved) (api : ConditionsApi) :
    Overwrites Condition.type (r.setReferences obj api) :=
  (overwrites_setOptional api _).comp
    ((overwrites_setOptional api _).comp (overwrites_setOptional api _))

theorem overwrites_setAlignment (api : ConditionsApi)
    (alignment : Option Condition) :
    Overwrites Condition.type (setAlignment api obj alignment) := by
  cases alignment with
  | none =>
      exact overwrites_filter Condition.type CondType.authorizationServerAligned
  | some c => exact overwrites_setCondition api _

theorem steady_reportedStatus (r : Resolved) (configHash : String)
    (counts : DeploymentStatus) (alignment : Option Condition) :
    Steady MCPGGatewayStatus.same fun now status =>
      reportedStatus libs { ans with now := now } { obj with status := status }
        r configHash counts alignment := by
  have hconditions : Overwrites Condition.type fun cs =>
      setAlignment libs.conditions obj alignment
        (r.setReferences obj libs.conditions
          (setVerdict libs.conditions obj
            (counts.availableReplicas.getD 0) cs)) :=
    (overwrites_setAlignment obj libs.conditions alignment).comp
      ((overwrites_setReferences obj r libs.conditions).comp
        (overwrites_setVerdict obj libs.conditions _))
  exact steady_of_overwrites (fun _ _ => hconditions) (fun _ _ _ _ => rfl)
    (fun _ _ => rfl) (fun _ _ _ _ _ => rfl) fun _ _ _ => rfl

/-- A held pass copies all but the conditions from the status it finds. -/
theorem steady_heldStatus (cluster : ResolvedCluster) :
    Steady MCPGGatewayStatus.same fun now status =>
      heldStatus libs { ans with now := now } { obj with status := status }
        cluster := by
  refine steady_of_overwrites
    (fun _ _ => overwrites_setAll libs.conditions
      [{ cluster.condition with
          observedGeneration := some (obj.metadata.generation.getD 0) },
        { type := CType.ready, status := "False"
          reason := "DependencyPending"
          message := "config reconcile held (last rendered config stays " ++
            "live): " ++ cluster.condition.message
          observedGeneration := some (obj.metadata.generation.getD 0) }])
    (fun _ _ _ _ => rfl) ?_ ?_ fun _ _ _ => rfl
  · intro now status
    cases status with
    | none => rfl
    | some s => rfl
  · intro now now' status status' h
    cases h with
    | none => rfl
    | some h =>
        let generation := some (obj.metadata.generation.getD 0)
        have hrest := congrArg (fun s : MCPGGatewayStatus =>
          { s with observedGeneration := generation }) h.1
        exact hrest

theorem left_applyInOrder
    {applies : List (Effect × Except KubeError Unit)}
    (h : ∀ a ∈ applies,
      (rounds libs cfg ans deployment obj).left a.1 = none) :
    ∀ e ∈ (applyInOrder applies).trace,
      (rounds libs cfg ans deployment obj).left e = none := by
  induction applies with
  | nil => exact List.forall_mem_nil _
  | cons a applies ih =>
      obtain ⟨hfirst, hrest⟩ := List.forall_mem_cons.mp h
      obtain ⟨e, answer⟩ := a
      cases answer with
      | error x => exact List.forall_mem_singleton.mpr hfirst
      | ok _ => exact List.forall_mem_cons.mpr ⟨hfirst, ih hrest⟩

theorem left_beforeDeployment (ns : String) (r : Resolved) :
    ∀ a ∈ beforeDeployment libs cfg ans obj ns r,
      (rounds libs cfg ans deployment obj).left a.1 = none := by
  intro a ha
  simp only [beforeDeployment, List.mem_append, List.mem_cons,
    List.not_mem_nil, or_false] at ha
  rcases ha with (rfl | rfl | rfl) | ha
  · rfl
  · rfl
  · rfl
  · split at ha
    · cases ha
    · rcases List.mem_pair.mp ha with rfl | rfl
      · rfl
      · rfl

theorem left_afterDeployment (api : GatewayApi) :
    ∀ a ∈ afterDeployment api ans obj,
      (rounds libs cfg ans deployment obj).left a.1 = none := by
  intro a ha
  simp only [afterDeployment, List.mem_append, Option.mem_toList,
    Option.map_eq_some_iff] at ha
  rcases ha with ((⟨route, -, rfl⟩ | ha) | ⟨hpa, -, rfl⟩) | ha
  · rfl
  · split at ha
    · cases ha
    · rw [List.mem_singleton.mp ha]
      rfl
  · rfl
  · split at ha
    · rw [List.mem_singleton.mp ha]
      rfl
    · rw [List.mem_singleton.mp ha]
      rfl

theorem left_children (ns : String) (r : Resolved) :
    ∀ a ∈ children libs cfg ans obj ns r,
      (rounds libs cfg ans deployment obj).left a.1 = none :=
  List.forall_mem_append.mpr
    ⟨left_beforeDeployment libs cfg ans deployment obj ns r,
      List.forall_mem_cons.mpr
        ⟨rfl, left_afterDeployment libs cfg ans deployment obj _⟩⟩

theorem left_reportedEvents (available : Int)
    (alignment : Option Condition) :
    ∀ e ∈ reportedEvents obj available alignment,
      (rounds libs cfg ans deployment obj).left e = none := by
  intro e he
  rcases List.mem_append.mp he with he | he
  · rw [Option.mem_toList, Option.map_eq_some_iff] at he
    obtain ⟨c, -, rfl⟩ := he
    rfl
  · split at he
    · rw [List.mem_singleton.mp he]
      rfl
    · cases he

theorem resolvedOf_unchanged (now : DateTime)
    (status : Option MCPGGatewayStatus) :
    resolvedOf libs { ans with now := now } { obj with status := status } =
      resolvedOf libs ans obj := rfl

/-- The applies of the children, and the report where all of them are
answered. -/
theorem scripted_applied (ns : String) (r : Resolved) :
    Scripted (rounds libs cfg ans deployment obj) MCPGGatewayStatus.same
      fun now status =>
        let pass := applyInOrder (children libs cfg ans obj ns r)
        match pass.result with
        | .error e => (pass.trace, .error e)
        | .ok .deleted => (pass.trace, .ok .success)
        | .ok .held => (pass.trace, .ok .dependencyPending)
        | .ok .applied =>
            match resolvedOf libs ans obj with
            | none => (pass.trace, .ok .success)
            | some r =>
                (pass.trace ++
                    reportStep libs cfg { ans with now := now }
                      { obj with status := status }
                      (obj.metadata.namespace_.getD "") r
                      (deployment.getD {}),
                  .ok r.outcome) := by
  have happlied := left_applyInOrder libs cfg ans deployment obj
    (left_children libs cfg ans deployment obj ns r)
  dsimp only
  cases (applyInOrder (children libs cfg ans obj ns r)).result with
  | error e => exact .issues happlied (fun _ _ => rfl) fun _ _ _ _ => rfl
  | ok ended =>
      cases ended with
      | deleted =>
          exact .issues happlied (fun _ _ => rfl) fun _ _ _ _ => rfl
      | held => exact .issues happlied (fun _ _ => rfl) fun _ _ _ _ => rfl
      | applied =>
          cases resolvedOf libs ans obj with
          | none =>
              exact .issues happlied (fun _ _ => rfl) fun _ _ _ _ => rfl
          | some found =>
              let inputs := found.inputs ans
              let namespace_ := obj.metadata.namespace_.getD ""
              let config :=
                renderConfig libs.render cfg obj namespace_ inputs
              let alignment := authorizationServerCondition libs.render cfg
                obj namespace_ inputs
              have hevents := left_reportedEvents libs cfg ans deployment obj
                ((deployment.getD {}).availableReplicas.getD 0) alignment
              exact .around () happlied hevents (fun _ _ => rfl)
                (fun _ _ _ _ => rfl)
                (steady_reportedStatus libs ans obj found
                  (buildConfigmap libs obj config).2 (deployment.getD {})
                  alignment)

theorem scripted_round :
    Scripted (rounds libs cfg ans deployment obj) MCPGGatewayStatus.same
      (rounds libs cfg ans deployment obj).round := by
  show Scripted _ _ fun now status =>
    reconcile libs cfg { ans with now := now } deployment
      { obj with status := status }
  simp only [reconcile, reconcileInner, resolveStep_unchanged,
    children_unchanged, resolvedOf_unchanged]
  cases hns : obj.metadata.namespace_ with
  | none => exact .ends _
  | some ns =>
      by_cases hname : obj.metadata.name.isNone = true
      · simp only [hname, if_true]
        exact .ends _
      · by_cases hdeleted : obj.metadata.deletionTimestamp.isSome = true
        · simp only [hname, hdeleted, Bool.false_eq_true, if_false, if_true]
          cases ans.removeFinalizer with
          | error e => exact .ends _
          | ok _ => exact .ends _
        · simp only [hname, hdeleted, Bool.false_eq_true, if_false]
          cases ensureFinalizer ans.addFinalizer obj.metadata with
          | error e => exact .ends _
          | ok _ =>
              cases resolveStep libs ans obj ns with
              | error e => exact .ends _
              | ok resolved =>
                  dsimp only
                  cases resolved.holding with
                  | some cluster =>
                      exact .around () (List.forall_mem_nil _)
                        (List.forall_mem_singleton.mpr rfl) (fun _ _ => rfl)
                        (fun _ _ _ _ => rfl)
                        (steady_heldStatus libs ans obj cluster)
                  | none =>
                      dsimp only
                      rw [← hns]
                      exact scripted_applied libs cfg ans deployment obj ns
                        resolved

end McpgOperator.Gateway

/-! ## Any of them -/

namespace McpgOperator.Backoff

open McpgOperator.Gateway (DeploymentStatus)

/-- In an unchanged world every pass after the first of an object issues the
same requests, reports the same status up to the order of its conditions and
the times, and ends in the same way, whatever it is answered and whatever
status it all began with. What a cluster's pass asks of `reconcile_managed` is
among its answers; the requests of that function are not looked at. -/
theorem settles_of_pass {Backend Managed : Type}
    (deployment : Option DeploymentStatus)
    (p : ReconcilePass Backend Managed) : p.Settles deployment := by
  cases p with
  | plugin libs ans obj =>
      exact Settling.settles_of_scripted (Plugin.scripted_round libs ans obj)
  | pluginMirror conditions ans obj =>
      exact Settling.settles_of_scripted
        (PluginMirror.scripted_round conditions ans obj)
  | pluginSet libs ans obj =>
      exact Settling.settles_of_scripted
        (PluginSet.Reconcile.scripted_round libs ans obj)
  | revocationList libs ans obj =>
      exact Settling.settles_of_scripted
        (RevocationList.scripted_round libs ans obj)
  | cluster libs ans obj =>
      exact Settling.settles_of_scripted (Cluster.scripted_round libs ans obj)
  | gateway libs cfg ans obj =>
      exact Settling.settles_of_scripted
        (Gateway.scripted_round libs cfg ans deployment obj)
  | route libs ans obj =>
      exact Settling.settles_of_scripted (Route.scripted_round libs ans obj)
  | server libs ans obj =>
      exact Settling.settles_of_scripted (Server.scripted_round libs ans obj)
  | tenant libs ans obj =>
      exact Settling.settles_of_scripted (Tenant.scripted_round libs ans obj)

end McpgOperator.Backoff
