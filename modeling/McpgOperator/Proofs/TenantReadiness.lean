import McpgOperator.Tenant.Reconcile

/-!
# When a Ready tenant is isolated

The loop over the declared namespaces sends what it has to send and looks at
none of the answers: a namespace is missing when the lookup says so, and
bound in every other case. So what a pass reports is right exactly when in
each namespace that exists the RoleBinding, the label and the quota all went
through.
-/

namespace McpgOperator.Tenant

open McpgOperator.Kube McpgOperator.Admission

variable {libs : TenantLibs} {ans : TenantAnswers} {obj : MCPGTenant}

/-! ## The loop -/

section Walk

/-- The lookup finds the namespace. -/
def present (ans : TenantAnswers) (ns : String) : Bool :=
  match ans.getNamespace ns with
  | .ok found => found
  | .error _ => false

/-- The lookup is answered. -/
def looked (ans : TenantAnswers) (ns : String) : Prop :=
  ∃ found, ans.getNamespace ns = .ok found

variable {tenant : String} {quotas : Option TenantQuotas}

/-- A walk whose lookups are answered splits the namespaces and works
through those that exist. -/
theorem bindNamespaces_of_looked {namespaces : List String}
    (h : ∀ ns ∈ namespaces, looked ans ns) :
    bindNamespaces libs ans tenant quotas namespaces =
      { trace := (namespaces.filter (present ans)).flatMap fun ns =>
          ensureNamespace libs ans ns tenant quotas
        outcome := .ok (namespaces.filter (present ans),
          namespaces.filter fun ns => !present ans ns) } := by
  induction namespaces with
  | nil => rfl
  | cons ns rest ih =>
      obtain ⟨⟨found, hfound⟩, hrest⟩ := List.forall_mem_cons.mp h
      unfold bindNamespaces
      rw [hfound, ih hrest]
      cases found with
      | true =>
          have hpresent : present ans ns = true := by
            rw [present, hfound]
          simp [hpresent, Except.map]
      | false =>
          have habsent : present ans ns = false := by
            rw [present, hfound]
          simp [habsent, Except.map]

theorem looked_of_bindNamespaces {namespaces : List String}
    {o : List String × List String}
    (h : (bindNamespaces libs ans tenant quotas namespaces).outcome =
      .ok o) : ∀ ns ∈ namespaces, looked ans ns := by
  induction namespaces generalizing o with
  | nil => exact List.forall_mem_nil _
  | cons ns rest ih =>
      unfold bindNamespaces at h
      split at h
      · cases h
      · next hns =>
          obtain ⟨o', hrest, _⟩ := Except.of_map_ok h
          exact List.forall_mem_cons.mpr ⟨⟨false, hns⟩, ih hrest⟩
      · next hns =>
          obtain ⟨o', hrest, _⟩ := Except.of_map_ok h
          exact List.forall_mem_cons.mpr ⟨⟨true, hns⟩, ih hrest⟩

theorem patchStatus_not_mem_ensureNamespace {ns : String}
    {status : MCPGTenantStatus} :
    .patchStatus status ∉ ensureNamespace libs ans ns tenant quotas := by
  unfold ensureNamespace ensureTenantSecretBinding ensureNamespaceLabel
    ensureResourceQuota
  split <;> split <;> simp

/-- The walk itself reports nothing. -/
theorem patchStatus_not_mem_bindNamespaces {namespaces : List String}
    {status : MCPGTenantStatus} :
    .patchStatus status ∉
      (bindNamespaces libs ans tenant quotas namespaces).trace := by
  induction namespaces with
  | nil => exact List.not_mem_nil
  | cons ns rest ih =>
      unfold bindNamespaces
      split
      · exact List.not_mem_nil
      · exact ih
      · rw [List.mem_append, not_or]
        exact ⟨patchStatus_not_mem_ensureNamespace, ih⟩

end Walk

/-! ## The counts -/

/-- The three lists of a namespace are answered. -/
def counted (ans : TenantAnswers) (ns : String) : Prop :=
  (∃ n, ans.countGateways ns = .ok n) ∧
    (∃ n, ans.countPluginSets ns = .ok n) ∧
      ∃ n, ans.countRoutes ns = .ok n

theorem countResources_ok_iff {namespaces : List String}
    {counts : TenantObservedCounts} :
    (∃ observed, countResources ans counts namespaces = .ok observed) ↔
      ∀ ns ∈ namespaces, counted ans ns := by
  induction namespaces generalizing counts with
  | nil => simp [countResources]
  | cons ns rest ih =>
      rw [List.forall_mem_cons]
      constructor
      · rintro ⟨observed, h⟩
        unfold countResources at h
        obtain ⟨gateways, hgateways, h⟩ := Except.of_bind_ok h
        obtain ⟨pluginSets, hpluginSets, h⟩ := Except.of_bind_ok h
        obtain ⟨routes, hroutes, h⟩ := Except.of_bind_ok h
        exact ⟨⟨⟨_, hgateways⟩, ⟨_, hpluginSets⟩, ⟨_, hroutes⟩⟩,
          ih.mp ⟨observed, h⟩⟩
      · rintro ⟨⟨⟨gateways, hgateways⟩, ⟨pluginSets, hpluginSets⟩,
          ⟨routes, hroutes⟩⟩, hrest⟩
        unfold countResources
        rw [hgateways, hpluginSets, hroutes]
        exact ih.mpr hrest

/-! ## What a pass reports -/

/-- The name of a tenant whose pass comes to its namespaces. -/
def passName (ans : TenantAnswers) (obj : MCPGTenant) : Option String :=
  match obj.metadata.name with
  | none => none
  | some name =>
      if obj.metadata.deletionTimestamp.isSome then none
      else
        match ensureFinalizer ans.addFinalizer obj.metadata with
        | .error _ => none
        | .ok _ => some name

theorem reconcileInner_of_passName {name : String}
    (h : passName ans obj = some name) :
    reconcileInner libs ans obj = bindAndReport libs ans obj name := by
  unfold passName at h
  unfold reconcileInner
  cases hname : obj.metadata.name with
  | none =>
      rw [hname] at h
      cases h
  | some given =>
      rw [hname] at h
      dsimp only at h ⊢
      by_cases hdeleting : obj.metadata.deletionTimestamp.isSome = true
      · rw [if_pos hdeleting] at h
        cases h
      rw [if_neg hdeleting] at h ⊢
      cases hfinalizer : ensureFinalizer ans.addFinalizer obj.metadata with
      | error e =>
          rw [hfinalizer] at h
          cases h
      | ok added =>
          rw [hfinalizer] at h
          cases h
          rfl

theorem patchStatus_not_mem_of_passName_none
    {status : MCPGTenantStatus} (h : passName ans obj = none) :
    .patchStatus status ∉ (reconcileInner libs ans obj).trace := by
  unfold passName at h
  unfold reconcileInner
  cases hname : obj.metadata.name with
  | none => exact List.not_mem_nil
  | some given =>
      rw [hname] at h
      dsimp only at h ⊢
      by_cases hdeleting : obj.metadata.deletionTimestamp.isSome = true
      · rw [if_pos hdeleting]
        simp [teardown, teardownNamespace]
      rw [if_neg hdeleting] at h ⊢
      cases hfinalizer : ensureFinalizer ans.addFinalizer obj.metadata with
      | error e => exact List.not_mem_nil
      | ok added =>
          rw [hfinalizer] at h
          cases h

/-- The pass comes to its report: the finalizer is in place, every lookup is
answered, and so are the lists of the namespaces found. -/
structure Reports (ans : TenantAnswers) (obj : MCPGTenant)
    (name : String) : Prop where
  name : passName ans obj = some name
  looked : ∀ ns ∈ obj.spec.namespaces, looked ans ns
  counted : ∀ ns ∈ obj.spec.namespaces, present ans ns = true →
    counted ans ns

/-- The namespaces a reporting pass takes as bound. -/
def boundNamespaces (ans : TenantAnswers) (obj : MCPGTenant) :
    List String :=
  obj.spec.namespaces.filter (present ans)

def missingNamespaces (ans : TenantAnswers) (obj : MCPGTenant) :
    List String :=
  obj.spec.namespaces.filter fun ns => !present ans ns

/-- The trace of a pass that reports. -/
theorem trace_of_reports {name : String} (h : Reports ans obj name) :
    ∃ observed, (reconcileInner libs ans obj).trace =
      ((boundNamespaces ans obj).flatMap fun ns =>
        ensureNamespace libs ans ns name obj.spec.quotas) ++
      .patchStatus (reportedStatus libs ans obj (boundNamespaces ans obj)
          (missingNamespaces ans obj) observed) ::
        missingEvent (missingNamespaces ans obj) := by
  have hcounted : ∀ ns ∈ boundNamespaces ans obj, counted ans ns := by
    intro ns hns
    obtain ⟨hmem, hpresent⟩ := List.mem_filter.mp hns
    exact h.counted ns hmem hpresent
  obtain ⟨observed, hobserved⟩ := countResources_ok_iff.mpr hcounted
  refine ⟨observed, ?_⟩
  rw [reconcileInner_of_passName h.name, bindAndReport,
    bindNamespaces_of_looked h.looked]
  dsimp only
  unfold boundNamespaces at hobserved
  rw [hobserved]
  rfl

/-- A status is only written by a pass that comes to its report. -/
theorem reports_of_patchStatus {status : MCPGTenantStatus}
    (h : .patchStatus status ∈ (reconcileInner libs ans obj).trace) :
    ∃ name, Reports ans obj name := by
  cases hname : passName ans obj with
  | none => exact absurd h (patchStatus_not_mem_of_passName_none hname)
  | some name =>
      rw [reconcileInner_of_passName hname, bindAndReport] at h
      split at h
      · exact absurd h patchStatus_not_mem_bindNamespaces
      · next bound missing hwalk =>
          have hlooked := looked_of_bindNamespaces hwalk
          rw [bindNamespaces_of_looked hlooked] at hwalk
          cases hwalk
          split at h
          · exact absurd h patchStatus_not_mem_bindNamespaces
          · next observed hobserved =>
              have hcounted := countResources_ok_iff.mp ⟨_, hobserved⟩
              exact ⟨name, hname, hlooked, fun ns hmem hpresent =>
                hcounted ns (List.mem_filter.mpr ⟨hmem, hpresent⟩)⟩

/-- Ready says that nothing is missing. -/
theorem readyTrue_reportedStatus {bound missing : List String}
    {observed : TenantObservedCounts} :
    readyTrue (reportedStatus libs ans obj bound missing observed).conditions
        = true ↔ missing = [] := by
  show readyTrue (libs.conditions.setCondition _
    (readyCondition missing (obj.metadata.generation.getD 0))) = true ↔ _
  rw [readyTrue_set_ready libs.conditions _ rfl]
  cases missing with
  | nil => simp [readyCondition]
  | cons ns rest => simp [readyCondition]

/-! ## What went through -/

/-- In the trace, the RoleBinding, the label and, when the spec declares
count quotas, the quota were applied to the namespace with success. The
operator's own namespace has its RoleBinding from the chart. -/
structure Applied (libs : TenantLibs) (obj : MCPGTenant)
    (trace : List Effect) (ns : String) : Prop where
  binding : ns ≠ operatorNamespace →
    .applyBinding ns
      (buildTenantBinding ns operatorNamespace libs.operatorServiceAccount)
      (.ok ()) ∈ trace
  label : .applyLabel ns obj.metadata.nameAny (.ok ()) ∈ trace
  quota : hardLimits obj.spec.quotas ≠ [] →
    .applyQuota ns
      (buildResourceQuota ns obj.metadata.nameAny
        (hardLimits obj.spec.quotas)) (.ok ()) ∈ trace

/-- The three calls succeed in the namespace. -/
structure Ensured (ans : TenantAnswers) (obj : MCPGTenant)
    (ns : String) : Prop where
  binding : ns ≠ operatorNamespace → ans.applyBinding ns = .ok ()
  label : ans.applyLabel ns = .ok ()
  quota : hardLimits obj.spec.quotas ≠ [] → ans.applyQuota ns = .ok ()

theorem nameAny_of_passName {name : String}
    (h : passName ans obj = some name) : obj.metadata.nameAny = name := by
  unfold passName at h
  split at h
  · cases h
  · next hname =>
      split at h
      · cases h
      · split at h
        · cases h
        · cases h
          rw [ObjectMeta.nameAny, hname]
          rfl

/-- There is one status it can have written. -/
theorem patchStatus_mem_iff {name : String} (h : Reports ans obj name) :
    ∃ observed, ∀ status,
      .patchStatus status ∈ (reconcileInner libs ans obj).trace ↔
        status = reportedStatus libs ans obj (boundNamespaces ans obj)
          (missingNamespaces ans obj) observed := by
  obtain ⟨observed, htrace⟩ := trace_of_reports h
  refine ⟨observed, fun status => ?_⟩
  have hwalk : .patchStatus status ∉
      (boundNamespaces ans obj).flatMap fun ns =>
        ensureNamespace libs ans ns name obj.spec.quotas := by
    rw [List.mem_flatMap]
    rintro ⟨ns, _, hmem⟩
    exact patchStatus_not_mem_ensureNamespace hmem
  have hevent : .patchStatus status ∉
      missingEvent (missingNamespaces ans obj) := by
    unfold missingEvent
    split <;> simp
  rw [htrace, List.mem_append, List.mem_cons, Effect.patchStatus.injEq]
  simp [hwalk, hevent]

theorem mem_trace_of_reports {name : String} (h : Reports ans obj name)
    {e : Effect} (hstatus : ∀ status, e ≠ .patchStatus status)
    (hevent : ∀ evt, e ≠ .publish evt) :
    e ∈ (reconcileInner libs ans obj).trace ↔
      ∃ ns ∈ boundNamespaces ans obj,
        e ∈ ensureNamespace libs ans ns name obj.spec.quotas := by
  obtain ⟨observed, htrace⟩ := trace_of_reports h
  have hpublish : e ∉ missingEvent (missingNamespaces ans obj) := by
    unfold missingEvent
    split
    · exact List.not_mem_nil
    · exact fun hmem => hevent _ (List.mem_singleton.mp hmem)
  rw [htrace, List.mem_append, List.mem_flatMap, List.mem_cons]
  constructor
  · rintro (hmem | hmem | hmem)
    · exact hmem
    · exact absurd hmem (hstatus _)
    · exact absurd hmem hpublish
  · exact .inl

section Effects

variable {ns ns' tenant : String} {quotas : Option TenantQuotas}

theorem applyBinding_mem_iff {binding : RoleBinding}
    {answer : Except KubeError Unit} :
    .applyBinding ns binding answer ∈
        ensureNamespace libs ans ns' tenant quotas ↔
      ns' = ns ∧ ns ≠ operatorNamespace ∧
        binding = buildTenantBinding ns operatorNamespace
          libs.operatorServiceAccount ∧ answer = ans.applyBinding ns := by
  unfold ensureNamespace ensureTenantSecretBinding ensureNamespaceLabel
    ensureResourceQuota
  split <;> split <;> grind

theorem applyLabel_mem_iff {label : String}
    {answer : Except KubeError Unit} :
    .applyLabel ns label answer ∈
        ensureNamespace libs ans ns' tenant quotas ↔
      ns' = ns ∧ label = tenant ∧ answer = ans.applyLabel ns := by
  unfold ensureNamespace ensureTenantSecretBinding ensureNamespaceLabel
    ensureResourceQuota
  split <;> split <;> grind

theorem applyQuota_mem_iff {quota : ResourceQuota}
    {answer : Except KubeError Unit} :
    .applyQuota ns quota answer ∈
        ensureNamespace libs ans ns' tenant quotas ↔
      ns' = ns ∧ hardLimits quotas ≠ [] ∧
        quota = buildResourceQuota ns tenant (hardLimits quotas) ∧
          answer = ans.applyQuota ns := by
  unfold ensureNamespace ensureTenantSecretBinding ensureNamespaceLabel
    ensureResourceQuota
  split <;> split <;> grind

end Effects

/-- In a pass that reports, what was applied is what exists and
succeeded. -/
theorem applied_iff {name : String} (h : Reports ans obj name)
    {ns : String} :
    Applied libs obj (reconcileInner libs ans obj).trace ns ↔
      ns ∈ boundNamespaces ans obj ∧ Ensured ans obj ns := by
  have hname := nameAny_of_passName h.name
  have htrace : ∀ e : Effect, (∀ status, e ≠ .patchStatus status) →
      (∀ evt, e ≠ .publish evt) →
      (e ∈ (reconcileInner libs ans obj).trace ↔
        ∃ ns ∈ boundNamespaces ans obj,
          e ∈ ensureNamespace libs ans ns name obj.spec.quotas) :=
    fun e => mem_trace_of_reports h
  constructor
  · rintro ⟨hbinding, hlabel, hquota⟩
    rw [htrace _ (by simp) (by simp)] at hlabel
    obtain ⟨ns', hbound, hlabel⟩ := hlabel
    obtain ⟨rfl, _, hlabel⟩ := applyLabel_mem_iff.mp hlabel
    refine ⟨hbound, fun hns => ?_, hlabel.symm, fun hhard => ?_⟩
    · obtain ⟨_, _, hmem⟩ := (htrace _ (by simp) (by simp)).mp (hbinding hns)
      exact (applyBinding_mem_iff.mp hmem).2.2.2.symm
    · obtain ⟨_, _, hmem⟩ := (htrace _ (by simp) (by simp)).mp (hquota hhard)
      exact (applyQuota_mem_iff.mp hmem).2.2.2.symm
  · rintro ⟨hbound, hbinding, hlabel, hquota⟩
    rw [← hname] at htrace
    refine ⟨fun hns => ?_, ?_, fun hhard => ?_⟩
    · exact (htrace _ (by simp) (by simp)).mpr ⟨ns, hbound,
        applyBinding_mem_iff.mpr ⟨rfl, hns, rfl, (hbinding hns).symm⟩⟩
    · exact (htrace _ (by simp) (by simp)).mpr ⟨ns, hbound,
        applyLabel_mem_iff.mpr ⟨rfl, rfl, hlabel.symm⟩⟩
    · exact (htrace _ (by simp) (by simp)).mpr ⟨ns, hbound,
        applyQuota_mem_iff.mpr ⟨rfl, hhard, rfl, (hquota hhard).symm⟩⟩

/-! ## Honest readiness -/

/-- A status the pass writes is Ready only when all that was declared was
applied in every declared namespace, and lists as bound those it was applied
in. -/
def Honest (libs : TenantLibs) (ans : TenantAnswers) (obj : MCPGTenant) :
    Prop :=
  ∀ status, .patchStatus status ∈ (reconcileInner libs ans obj).trace →
    (readyTrue status.conditions = true → ∀ ns ∈ obj.spec.namespaces,
      Applied libs obj (reconcileInner libs ans obj).trace ns) ∧
    ∀ ns, ns ∈ status.boundNamespaces ↔ ns ∈ obj.spec.namespaces ∧
      Applied libs obj (reconcileInner libs ans obj).trace ns

/-- A pass is honest if and only if it does not come to its report, or the
three calls succeed in every declared namespace that exists. -/
theorem honest_iff (libs : TenantLibs) (ans : TenantAnswers)
    (obj : MCPGTenant) :
    Honest libs ans obj ↔
      ∀ name, Reports ans obj name → ∀ ns ∈ obj.spec.namespaces,
        present ans ns = true → Ensured ans obj ns := by
  constructor
  · intro honest name hreports ns hmem hpresent
    obtain ⟨observed, hstatus⟩ := patchStatus_mem_iff hreports
    have hbound : ns ∈ boundNamespaces ans obj :=
      List.mem_filter.mpr ⟨hmem, hpresent⟩
    have hpatched := (hstatus _).mpr rfl
    have happlied := ((honest _ hpatched).2 ns).mp hbound
    exact ((applied_iff hreports).mp happlied.2).2
  · intro hensured status hpatched
    obtain ⟨name, hreports⟩ := reports_of_patchStatus hpatched
    obtain ⟨observed, hstatus⟩ := patchStatus_mem_iff hreports
    rw [hstatus] at hpatched
    have happlied : ∀ ns,
        Applied libs obj (reconcileInner libs ans obj).trace ns ↔
          ns ∈ boundNamespaces ans obj := by
      intro ns
      rw [applied_iff hreports]
      refine and_iff_left_of_imp fun hbound => ?_
      obtain ⟨hmem, hpresent⟩ := List.mem_filter.mp hbound
      exact hensured name hreports ns hmem hpresent
    subst hpatched
    constructor
    · intro hready ns hmem
      rw [readyTrue_reportedStatus] at hready
      rw [happlied]
      refine List.mem_filter.mpr ⟨hmem, ?_⟩
      by_contra habsent
      have hmissing : ns ∈ missingNamespaces ans obj :=
        List.mem_filter.mpr ⟨hmem, by simpa using habsent⟩
      rw [hready] at hmissing
      cases hmissing
    · intro ns
      rw [happlied]
      exact ⟨fun hbound => ⟨(List.mem_filter.mp hbound).1, hbound⟩, And.right⟩

/-! ## An isolation that was never installed -/

def prodLibs : TenantLibs :=
  { conditions := upsertConditions, operatorServiceAccount := "mcpg-operator" }

/-- Every request goes through, but for the label, which is forbidden. -/
def unlabelled : TenantAnswers where
  addFinalizer := .ok ()
  removeFinalizer := .ok ()
  getNamespace := fun _ => .ok true
  applyBinding := fun _ => .ok ()
  applyLabel := fun _ => .error (.api 403 "namespaces is forbidden")
  applyQuota := fun _ => .ok ()
  deleteQuota := fun _ => .ok ()
  dropLabel := fun _ => .ok ()
  countGateways := fun _ => .ok 0
  countPluginSets := fun _ => .ok 0
  countRoutes := fun _ => .ok 0
  resyncSecs := 300
  now := 0

def payments : MCPGTenant where
  metadata :=
    { name := some "team-payments", generation := some 1
      resourceVersion := some "1" }
  spec := { namespaces := ["payments"] }

theorem not_honest_unlabelled :
    ¬ ∀ (libs : TenantLibs) (ans : TenantAnswers) (obj : MCPGTenant),
      Honest libs ans obj := by
  intro honest
  have hreports : Reports unlabelled payments "team-payments" :=
    ⟨rfl, fun _ _ => ⟨true, rfl⟩,
      fun _ _ _ => ⟨⟨0, rfl⟩, ⟨0, rfl⟩, ⟨0, rfl⟩⟩⟩
  obtain ⟨observed, hstatus⟩ := patchStatus_mem_iff hreports
  have hready := (honest prodLibs unlabelled payments _
    ((hstatus _).mpr rfl)).1 (readyTrue_reportedStatus.mpr rfl)
  have happlied := hready "payments" List.mem_cons_self
  exact absurd ((applied_iff hreports).mp happlied).2.label (by decide)

end McpgOperator.Tenant
