import McpgOperator.Lib.Transition
import McpgOperator.Proofs.TenantReadiness
import McpgOperator.Tenant.Namespaces

/-!
# What a tenant leaves behind

A pass labels and caps the namespaces of the spec of the moment, and the
teardown releases those. Neither looks for a namespace that was in an earlier
spec. So after a pass the footprint of a tenant is what it declares together
with all it has touched and no longer declares, and the two are the same
exactly when nothing touched has left the spec.

Every step is one whole pass with every request answered well. Server-side
apply keeps an owner for each field; that the label and the quotas of a tenant
are owned by the controller alone is the invariant that makes a dropped label
disappear and a loosened limit too.
-/

namespace McpgOperator.Tenant

open McpgOperator.Kube McpgOperator.Admission Transition

/-! ## The life of one tenant -/

structure Life where
  tenant : Option MCPGTenant
  cluster : Cluster

/-- The namespace has nothing of the tenant's. -/
def Namespace.foreign (name : String) (n : Namespace) : Prop :=
  n.tenant ≠ some name ∧ n.hard (quotaName name) = none

inductive LifeEvent
  | edit (spec : MCPGTenantSpec)
  | delete (now : DateTime)
  | reconcile (r : Reading)
  | createNamespace (ns : String)
  | deleteNamespace (ns : String)

/-- The status a pass writes. -/
def writtenStatus (trace : List Effect) : Option MCPGTenantStatus :=
  trace.findSome? fun
    | .patchStatus status => some status
    | _ => none

/-- The stored object after a pass: gone, when it was being deleted. -/
def afterPass (obj : MCPGTenant) (p : Pass) : Option MCPGTenant :=
  if obj.metadata.deletionTimestamp.isSome then none
  else
    some
      { addFinalizer obj with
        status := writtenStatus p.trace <|> obj.status }

def lifeStep (libs : TenantLibs) (s : Life) : LifeEvent → Option Life
  | .edit spec =>
      s.tenant.map fun obj => { s with tenant := some { obj with spec } }
  | .delete now =>
      s.tenant.map fun obj =>
        if hasFinalizer obj then
          { s with
            tenant := some
              { obj with
                metadata :=
                  { obj.metadata with deletionTimestamp := some now } } }
        else { s with tenant := none }
  | .reconcile r =>
      s.tenant.map fun obj =>
        let p := reconcileInner libs (r.answers s.cluster) obj
        { tenant := afterPass obj p, cluster := s.cluster.run p.trace }
  | .createNamespace ns =>
      match s.cluster ns with
      | none =>
          some
            { s with
              cluster := Function.update s.cluster ns (some freshNamespace) }
      | some _ => none
  | .deleteNamespace ns =>
      some { s with cluster := Function.update s.cluster ns none }

/-- A tenant is created in a cluster that has nothing of it. -/
structure Created (name : String) (s : Life) : Prop where
  tenant : ∃ obj, s.tenant = some obj ∧ obj.metadata.name = some name ∧
    obj.metadata.resourceVersion.isSome = true ∧
      obj.metadata.deletionTimestamp = none ∧
        hasFinalizer obj = false
  cluster : ∀ ns n, s.cluster ns = some n → n.foreign name

def life (libs : TenantLibs) (name : String) : System Life LifeEvent where
  init := Created name
  step := lifeStep libs

/-! ## The footprint -/

section Footprint

variable (name : String)

def Cluster.labelled (c : Cluster) (ns : String) : Prop :=
  (c ns).bind Namespace.tenant = some name

/-- The limits of the tenant's quota in the namespace. -/
def Cluster.capped (c : Cluster) (ns : String) :
    Option (String → Option String) :=
  (c ns).bind fun n => n.hard (quotaName name)

/-- The namespace has the tenant's label or quota. -/
def Cluster.carries (c : Cluster) (ns : String) : Prop :=
  c.labelled name ns ∨ c.capped name ns ≠ none

variable {name}

/-- The namespaces the tenant declares, none once it is gone. -/
def Life.declared (s : Life) : List String :=
  (s.tenant.map (·.spec.namespaces)).getD []

/-- The limits the spec declares, if any. -/
def limits (quotas : Option TenantQuotas) :
    Option (String → Option String) :=
  match hardLimits quotas with
  | [] => none
  | hard => some (hardDoc hard)

def Life.limits (s : Life) : Option (String → Option String) :=
  s.tenant.bind fun obj => Tenant.limits obj.spec.quotas

/-- The tenant's label and quota are in the declared namespaces that exist,
with the declared limits, and nowhere else. -/
def Footprint (name : String) (s : Life) : Prop :=
  ∀ ns,
    (s.cluster.labelled name ns ↔
      (s.cluster ns).isSome = true ∧ ns ∈ s.declared) ∧
    s.cluster.capped name ns =
      if (s.cluster ns).isSome = true ∧ ns ∈ s.declared then s.limits
      else none

/-- Every namespace that has something of the tenant's is declared. -/
def Kept (name : String) (s : Life) : Prop :=
  ∀ ns, s.cluster.carries name ns → ns ∈ s.declared

/-- A pass comes while nothing the tenant has touched has left its spec. -/
def passesKept (name : String) (s : Life) : LifeEvent → Prop
  | .reconcile _ => Kept name s
  | _ => True

theorem kept_of_footprint {name : String} {s : Life}
    (h : Footprint name s) : Kept name s := by
  rintro ns (hlabelled | hcapped)
  · exact ((h ns).1.mp hlabelled).2
  · rw [(h ns).2] at hcapped
    split at hcapped
    · next hdeclared => exact hdeclared.2
    · exact absurd rfl hcapped

end Footprint

/-! ## One namespace -/

section OneNamespace

variable {libs : TenantLibs} {ans : TenantAnswers} {name ns : String}
  {quotas : Option TenantQuotas} {n : Namespace} {c : Cluster}

/-- What the tenant has in a namespace, the controller owns alone. -/
structure Namespace.Owned (name : String) (n : Namespace) : Prop where
  label : n.tenant = some name → n.label.owners () = {fieldManager}
  quota : ∀ live, n.quotas (quotaName name) = some live →
    Apply.SoleOwner fieldManager live

theorem owned_of_foreign (h : n.foreign name) : n.Owned name where
  label := fun htenant => absurd htenant h.1
  quota := by
    intro live hlive
    have hhard := h.2
    rw [Namespace.hard, hlive] at hhard
    cases hhard

theorem foreign_freshNamespace : freshNamespace.foreign name :=
  ⟨by simp [Namespace.tenant, freshNamespace], rfl⟩

/-- What a pass leaves of a namespace. -/
structure Namespace.Bound (name : String) (quotas : Option TenantQuotas)
    (n : Namespace) : Prop where
  owned : n.Owned name
  tenant : n.tenant = some name
  hard : n.hard (quotaName name) = limits quotas

theorem owners_setLabel (h : n.Owned name) :
    (n.setLabel (some name)).label.owners () = {fieldManager} := by
  show (if n.tenant = some name then
      insert fieldManager (n.label.owners ()) else {fieldManager}) = _
  split
  · next htenant =>
      rw [h.label htenant, Finset.insert_eq_of_mem (by simp)]
  · rfl

theorem owned_setLabel (h : n.Owned name) :
    (n.setLabel (some name)).Owned name where
  label := fun _ => owners_setLabel h
  quota := h.quota

/-- The label the controller owned alone is gone. -/
theorem tenant_setLabel_none (h : n.Owned name) :
    (n.setLabel none).tenant ≠ some name := by
  show (if n.label.owners () = {fieldManager} then none else n.tenant) ≠ _
  split
  · simp
  · next hshared => exact fun htenant => hshared (h.label htenant)

theorem hard_setQuota (h : n.Owned name) (quota : ResourceQuota)
    (hquota : quota.name = quotaName name) :
    (n.setQuota quota).hard (quotaName name) =
        some (hardDoc quota.hard) ∧
      (n.setQuota quota).Owned name := by
  have hput := quotas_setQuota n quota
  rw [hquota] at hput
  unfold Namespace.hard
  rw [hput]
  cases hlive : n.quotas (quotaName name) with
  | none =>
      rw [hlive] at hput
      refine ⟨rfl, h.label, fun live hnew => ?_⟩
      rw [hput] at hnew
      cases hnew
      exact Apply.soleOwner_single fieldManager (hardDoc quota.hard)
  | some live =>
      rw [hlive] at hput
      have hsole := h.quota live hlive
      refine ⟨congrArg some (Apply.force_value_of_soleOwner hsole _),
        h.label, fun live' hnew => ?_⟩
      rw [hput] at hnew
      cases hnew
      exact Apply.soleOwner_force hsole _

theorem hard_deleteQuota (h : n.Owned name) :
    (n.deleteQuota (quotaName name)).hard (quotaName name) = none ∧
      (n.deleteQuota (quotaName name)).Owned name := by
  refine ⟨by simp [Namespace.hard], h.label, fun live hlive => ?_⟩
  rw [quotas_deleteQuota] at hlive
  cases hlive

theorem applyNamespace_self (hns : c ns = some n) (tenant : Option String) :
    c.applyNamespace ns tenant ns = some (n.setLabel tenant) := by
  rw [Cluster.applyNamespace, Function.update_self, hns]
  rfl

theorem modify_self (hns : c ns = some n) (f : Namespace → Namespace) :
    c.modify ns f ns = some (f n) := by
  rw [Cluster.modify, Function.update_self, hns]
  rfl

/-- A pass binds a namespace that exists. -/
theorem run_ensureNamespace (hns : c ns = some n) (h : n.Owned name) :
    ∃ n', c.run (ensureNamespace libs ans ns name quotas) ns = some n' ∧
      n'.Bound name quotas := by
  have hbinding : ∀ e ∈ ensureTenantSecretBinding libs ans ns,
      e.target ≠ some ns := by
    unfold ensureTenantSecretBinding
    split
    · exact List.forall_mem_nil _
    · exact List.forall_mem_singleton.mpr (by simp [Effect.target])
  rw [ensureNamespace, run_append, run_append]
  have hstart := (run_apply_of_ne hbinding c).trans hns
  generalize c.run (ensureTenantSecretBinding libs ans ns) = c₁ at hstart
  have hlabel : c₁.run (ensureNamespaceLabel ans ns name) ns =
      some (n.setLabel (some name)) := applyNamespace_self hstart _
  generalize c₁.run (ensureNamespaceLabel ans ns name) = c₂ at hlabel
  have howned := owned_setLabel h
  unfold ensureResourceQuota
  split
  · next hhard =>
      have hlimits : limits quotas = none := by rw [limits, hhard]
      obtain ⟨hnone, howned'⟩ := hard_deleteQuota howned
      exact ⟨_, modify_self hlabel _, howned', rfl, hnone.trans hlimits.symm⟩
  · next hsome =>
      have hlimits : limits quotas = some (hardDoc (hardLimits quotas)) := by
        unfold limits
        split
        · next hnil => exact absurd hnil hsome
        · rfl
      obtain ⟨hdoc, howned'⟩ := hard_setQuota howned
        (buildResourceQuota ns name (hardLimits quotas)) rfl
      exact ⟨_, modify_self hlabel _, howned', rfl, hdoc.trans hlimits.symm⟩

/-- A teardown leaves nothing of the tenant in the namespace. It brings a
namespace that is gone back. -/
theorem run_teardownNamespace
    (h : ∀ n, c ns = some n → n.Owned name) :
    ∃ n, c.run (teardownNamespace ans ns name) ns = some n ∧
      n.foreign name := by
  have hdelete : (Effect.deleteQuota ns (quotaName name)
      (ans.deleteQuota ns)).act c ns =
        (c ns).map (·.deleteQuota (quotaName name)) :=
    Function.update_self ..
  rw [teardownNamespace, run_cons, run_cons, run_nil]
  generalize (Effect.deleteQuota ns (quotaName name)
    (ans.deleteQuota ns)).act c = c₁ at hdelete
  refine ⟨_, Function.update_self .., ?_⟩
  rw [hdelete]
  cases hns : c ns with
  | none =>
      exact ⟨tenant_setLabel_none (owned_of_foreign foreign_freshNamespace),
        rfl⟩
  | some n =>
      obtain ⟨hhard, howned⟩ := hard_deleteQuota (h n hns)
      exact ⟨tenant_setLabel_none howned, hhard⟩

end OneNamespace

/-! ## One pass -/

section OnePass

variable {libs : TenantLibs} {name : String} {obj : MCPGTenant}
  {r : Reading} {c : Cluster}

/-- In every namespace that exists the tenant's fields are the
controller's alone. -/
def Cluster.Owned (name : String) (c : Cluster) : Prop :=
  ∀ ns n, c ns = some n → n.Owned name

theorem reports_answers (hname : passName (r.answers c) obj = some name) :
    Reports (r.answers c) obj name where
  name := hname
  looked := fun ns _ => ⟨(c ns).isSome, rfl⟩
  counted := fun _ _ _ => ⟨⟨_, rfl⟩, ⟨_, rfl⟩, ⟨_, rfl⟩⟩

/-- The writes of a pass over a live tenant are those to the declared
namespaces that exist. -/
theorem run_reconcileInner (hname : passName (r.answers c) obj = some name) :
    c.run (reconcileInner libs (r.answers c) obj).trace =
      c.run ((obj.spec.namespaces.filter fun ns => (c ns).isSome).flatMap
        fun ns => ensureNamespace libs (r.answers c) ns name
          obj.spec.quotas) := by
  obtain ⟨observed, htrace⟩ := trace_of_reports (reports_answers hname)
  rw [htrace, run_append]
  have hreport : ∀ (c' : Cluster) (status : MCPGTenantStatus)
      (missing : List String),
      c'.run (.patchStatus status :: missingEvent missing) = c' := by
    intro c' status missing
    unfold missingEvent
    split
    · rfl
    · rfl
  exact hreport _ _ _

variable (libs) in
theorem bound_of_reconcileInner (howned : c.Owned name)
    (hname : passName (r.answers c) obj = some name) (ns : String) :
    (ns ∉ obj.spec.namespaces ∨ c ns = none →
      c.run (reconcileInner libs (r.answers c) obj).trace ns = c ns) ∧
    (ns ∈ obj.spec.namespaces → (c ns).isSome = true →
      ∃ n, c.run (reconcileInner libs (r.answers c) obj).trace ns = some n ∧
        n.Bound name obj.spec.quotas) := by
  rw [run_reconcileInner hname]
  have htarget : ∀ ns, ∀ e ∈ ensureNamespace libs (r.answers c) ns name
      obj.spec.quotas, ∀ ns', e.target = some ns' → ns' = ns :=
    fun ns e he ns' => target_ensureNamespace he
  constructor
  · intro h
    refine run_flatMap_of_not_mem htarget (fun hmem => ?_) c
    obtain ⟨hdeclared, hexists⟩ := List.mem_filter.mp hmem
    rcases h with h | h
    · exact h hdeclared
    · rw [h] at hexists
      cases hexists
  · intro hdeclared hexists
    refine run_flatMap_of_mem htarget
      (P := fun o => ∃ n, o = some n ∧ n.Owned name)
      (Q := fun o => ∃ n, o = some n ∧ n.Bound name obj.spec.quotas)
      ?_ ?_ (List.mem_filter.mpr ⟨hdeclared, hexists⟩) ?_
    · rintro c' ns' ⟨n, hn, hown⟩
      exact run_ensureNamespace hn hown
    · rintro o ⟨n, hn, hbound⟩
      exact ⟨n, hn, hbound.owned⟩
    · obtain ⟨n, hn⟩ := Option.isSome_iff_exists.mp hexists
      exact ⟨n, hn, howned ns n hn⟩

variable (libs r) in
theorem foreign_of_teardown (howned : c.Owned name)
    (hnamed : obj.metadata.name = some name)
    (hdeleting : obj.metadata.deletionTimestamp.isSome = true)
    (ns : String) :
    (ns ∉ obj.spec.namespaces →
      c.run (reconcileInner libs (r.answers c) obj).trace ns = c ns) ∧
    (ns ∈ obj.spec.namespaces →
      ∃ n, c.run (reconcileInner libs (r.answers c) obj).trace ns = some n ∧
        n.foreign name) := by
  have htrace : (reconcileInner libs (r.answers c) obj).trace =
      obj.spec.namespaces.flatMap fun ns =>
        teardownNamespace (r.answers c) ns name := by
    rw [reconcileInner, hnamed]
    dsimp only
    rw [if_pos hdeleting]
    rfl
  have htarget : ∀ ns, ∀ e ∈ teardownNamespace (r.answers c) ns name,
      ∀ ns', e.target = some ns' → ns' = ns :=
    fun ns e he ns' => target_teardownNamespace he
  rw [htrace]
  constructor
  · intro hmem
    exact run_flatMap_of_not_mem htarget hmem c
  · intro hmem
    refine run_flatMap_of_mem htarget
      (P := fun o => ∀ n, o = some n → n.Owned name)
      (Q := fun o => ∃ n, o = some n ∧ n.foreign name) ?_ ?_ hmem
      (howned ns)
    · intro c' ns' hown
      exact run_teardownNamespace hown
    · rintro o ⟨n, hn, hforeign⟩ n' hn'
      rw [hn] at hn'
      cases hn'
      exact owned_of_foreign hforeign

end OnePass

/-! ## The invariant -/

section Invariant

variable {libs : TenantLibs} {name : String} {s s' : Life}

structure LifeInv (name : String) (s : Life) : Prop where
  owned : s.cluster.Owned name
  named : ∀ obj, s.tenant = some obj → obj.metadata.name = some name ∧
    obj.metadata.resourceVersion.isSome = true
  /-- Nothing is touched before the finalizer is in place. -/
  untouched : ∀ obj, s.tenant = some obj →
    hasFinalizer obj = false → ∀ ns, ¬ s.cluster.carries name ns

theorem carries_congr {c c' : Cluster} {ns : String} (h : c' ns = c ns) :
    c'.carries name ns ↔ c.carries name ns := by
  unfold Cluster.carries Cluster.labelled Cluster.capped
  rw [h]

theorem not_carries_of_foreign {c : Cluster} {ns : String}
    (h : ∀ n, c ns = some n → n.foreign name) :
    ¬ c.carries name ns := by
  unfold Cluster.carries Cluster.labelled Cluster.capped
  cases hns : c ns with
  | none => simp
  | some n =>
      obtain ⟨hlabel, hhard⟩ := h n hns
      simp [hlabel, hhard]

theorem lifeInv_created (h : Created name s) : LifeInv name s where
  owned := fun ns n hn => owned_of_foreign (h.cluster ns n hn)
  named := by
    obtain ⟨obj, hobj, hname, hversion, _⟩ := h.tenant
    intro obj' hobj'
    rw [hobj] at hobj'
    cases hobj'
    exact ⟨hname, hversion⟩
  untouched := fun _ _ _ ns =>
    not_carries_of_foreign fun n hn => h.cluster ns n hn

theorem passName_of_live {obj : MCPGTenant} {r : Reading} {c : Cluster}
    (hname : obj.metadata.name = some name)
    (hversion : obj.metadata.resourceVersion.isSome = true)
    (hlive : ¬ obj.metadata.deletionTimestamp.isSome = true) :
    passName (r.answers c) obj = some name := by
  have hfinalizer : ∃ added,
      ensureFinalizer (r.answers c).addFinalizer obj.metadata = .ok added := by
    unfold ensureFinalizer
    split
    · exact ⟨false, rfl⟩
    · obtain ⟨version, hversion⟩ := Option.isSome_iff_exists.mp hversion
      rw [hversion, if_neg (by simp)]
      exact ⟨true, rfl⟩
  obtain ⟨added, hfinalizer⟩ := hfinalizer
  rw [passName, hname]
  dsimp only
  rw [if_neg hlive, hfinalizer]

theorem hasFinalizer_addFinalizer (obj : MCPGTenant) :
    hasFinalizer (addFinalizer obj) = true := by
  unfold addFinalizer
  split
  · next h => exact h
  · simp [hasFinalizer, ObjectMeta.hasFinalizer]

theorem spec_addFinalizer (obj : MCPGTenant) :
    (addFinalizer obj).spec = obj.spec := by
  unfold addFinalizer
  split <;> rfl

theorem named_addFinalizer (obj : MCPGTenant) :
    (addFinalizer obj).metadata.name = obj.metadata.name ∧
      (addFinalizer obj).metadata.resourceVersion =
        obj.metadata.resourceVersion := by
  unfold addFinalizer
  split <;> exact ⟨rfl, rfl⟩

theorem owned_update {c : Cluster} (h : c.Owned name) (ns : String)
    {o : Option Namespace} (ho : ∀ n, o = some n → n.Owned name) :
    Cluster.Owned name (Function.update c ns o) := by
  intro ns' n hn
  by_cases hns : ns' = ns
  · subst hns
    rw [Function.update_self] at hn
    exact ho n hn
  · rw [Function.update_of_ne hns] at hn
    exact h ns' n hn

theorem not_carries_update {c : Cluster} {ns ns' : String}
    (h : ¬ c.carries name ns') {o : Option Namespace}
    (ho : ∀ n, o = some n → n.foreign name) :
    ¬ Cluster.carries name (Function.update c ns o) ns' := by
  by_cases hns : ns' = ns
  · subst hns
    refine not_carries_of_foreign fun n hn => ho n ?_
    rwa [Function.update_self] at hn
  · rwa [carries_congr (Function.update_of_ne hns o c)]

/-- One pass keeps the tenant's fields the controller's alone. -/
theorem owned_reconcile (hinv : LifeInv name s) {obj : MCPGTenant}
    (hobj : s.tenant = some obj) (r : Reading) :
    Cluster.Owned name (s.cluster.run
      (reconcileInner libs (r.answers s.cluster) obj).trace) := by
  obtain ⟨hname, hversion⟩ := hinv.named obj hobj
  intro ns n hn
  by_cases hdeleting : obj.metadata.deletionTimestamp.isSome = true
  · obtain ⟨hout, hin⟩ := foreign_of_teardown libs r
      hinv.owned hname hdeleting ns
    by_cases hmem : ns ∈ obj.spec.namespaces
    · obtain ⟨n', hn', hforeign⟩ := hin hmem
      rw [hn'] at hn
      cases hn
      exact owned_of_foreign hforeign
    · rw [hout hmem] at hn
      exact hinv.owned ns n hn
  · have hpass := passName_of_live (r := r) (c := s.cluster) hname hversion
      hdeleting
    obtain ⟨hout, hin⟩ :=
      bound_of_reconcileInner libs hinv.owned hpass ns
    by_cases hbound : ns ∈ obj.spec.namespaces ∧
        (s.cluster ns).isSome = true
    · obtain ⟨n', hn', hbound⟩ := hin hbound.1 hbound.2
      rw [hn'] at hn
      cases hn
      exact hbound.owned
    · rw [not_and_or, Option.not_isSome_iff_eq_none] at hbound
      rw [hout hbound] at hn
      exact hinv.owned ns n hn

theorem lifeInv_step {e : LifeEvent} (hinv : LifeInv name s)
    (h : lifeStep libs s e = some s') : LifeInv name s' := by
  cases e with
  | edit spec =>
      obtain ⟨obj, hobj, rfl⟩ := Option.map_eq_some_iff.mp h
      refine ⟨hinv.owned, fun _ h => ?_, fun _ h hfin => ?_⟩
      · cases h
        exact hinv.named obj hobj
      · cases h
        exact hinv.untouched obj hobj hfin
  | delete now =>
      obtain ⟨obj, hobj, rfl⟩ := Option.map_eq_some_iff.mp h
      split
      · next hfin =>
          refine ⟨hinv.owned, fun _ h => ?_, fun _ h hnone => ?_⟩
          · cases h
            exact hinv.named obj hobj
          · cases h
            exact absurd (hfin.symm.trans hnone) (by simp)
      · refine ⟨hinv.owned, fun _ h => ?_, fun _ h => ?_⟩
        · cases h
        · cases h
  | reconcile r =>
      obtain ⟨obj, hobj, rfl⟩ := Option.map_eq_some_iff.mp h
      refine ⟨owned_reconcile hinv hobj r, fun obj' h => ?_,
        fun obj' h hnone => ?_⟩
      · dsimp only [afterPass] at h
        split at h
        · cases h
        · cases h
          have hnamed := named_addFinalizer obj
          show (addFinalizer obj).metadata.name = some name ∧
            (addFinalizer obj).metadata.resourceVersion.isSome = true
          rw [hnamed.1, hnamed.2]
          exact hinv.named obj hobj
      · dsimp only [afterPass] at h
        split at h
        · cases h
        · cases h
          exact absurd ((hasFinalizer_addFinalizer obj).symm.trans hnone)
            (by simp)
  | createNamespace ns =>
      dsimp only [lifeStep] at h
      split at h
      · cases h
        have hfresh : ∀ n, some freshNamespace = some n → n.foreign name := by
          intro n hn
          cases hn
          exact foreign_freshNamespace
        refine ⟨owned_update hinv.owned ns fun n hn => ?_, hinv.named,
          fun obj hobj hfin ns' => ?_⟩
        · exact owned_of_foreign (hfresh n hn)
        · exact not_carries_update (hinv.untouched obj hobj hfin ns') hfresh
      · cases h
  | deleteNamespace ns =>
      cases h
      have hgone : ∀ n : Namespace, none = some n → n.foreign name := by
        intro n hn
        cases hn
      refine ⟨owned_update hinv.owned ns fun n hn => ?_, hinv.named,
        fun obj hobj hfin ns' => ?_⟩
      · exact owned_of_foreign (hgone n hn)
      · exact not_carries_update (hinv.untouched obj hobj hfin ns') hgone

theorem lifeInv_reachable {ok : Life → LifeEvent → Prop}
    (h : Reachable (life libs name) ok s) : LifeInv name s := by
  refine Reachable.invariant ?_ ?_ h
  · exact fun s => lifeInv_created
  · exact fun s e s' hinv _ => lifeInv_step hinv

/-! ## What a pass comes to -/

/-- Binding the declared namespaces leaves the declared footprint exactly
when it was within them. -/
theorem footprint_iff_of_bound {c c' : Cluster} {declared : List String}
    {quotas : Option TenantQuotas}
    (hout : ∀ ns, ns ∉ declared ∨ c ns = none → c' ns = c ns)
    (hin : ∀ ns, ns ∈ declared → (c ns).isSome = true →
      ∃ n, c' ns = some n ∧ n.Bound name quotas) :
    (∀ ns,
      (c'.labelled name ns ↔ (c' ns).isSome = true ∧ ns ∈ declared) ∧
      c'.capped name ns =
        if (c' ns).isSome = true ∧ ns ∈ declared then limits quotas
        else none) ↔
      ∀ ns, c.carries name ns → ns ∈ declared := by
  constructor
  · intro hfootprint ns hcarries
    by_contra hns
    obtain ⟨hlabelled, hcapped⟩ := hfootprint ns
    rw [if_neg fun h => hns h.2] at hcapped
    rw [← carries_congr (hout ns (.inl hns))] at hcarries
    rcases hcarries with hlabel | hcap
    · exact hns (hlabelled.mp hlabel).2
    · exact hcap hcapped
  · intro hkept ns
    by_cases hbound : ns ∈ declared ∧ (c ns).isSome = true
    · obtain ⟨n, hn, hbound'⟩ := hin ns hbound.1 hbound.2
      have hexists : (c' ns).isSome = true ∧ ns ∈ declared :=
        ⟨by rw [hn]; rfl, hbound.1⟩
      rw [if_pos hexists, iff_true_right hexists, Cluster.labelled,
        Cluster.capped, hn]
      exact ⟨hbound'.tenant, hbound'.hard⟩
    · have hout' : ns ∉ declared ∨ c ns = none := by
        rwa [not_and_or, Option.not_isSome_iff_eq_none] at hbound
      have hsame := hout ns hout'
      have hclean : ¬ c.carries name ns := by
        intro hcarries
        have hnone := hout'.resolve_left fun h => h (hkept ns hcarries)
        refine not_carries_of_foreign (fun n hn => ?_) hcarries
        rw [hnone] at hn
        cases hn
      rw [← carries_congr hsame, Cluster.carries, not_or, not_not] at hclean
      have hnot : ¬ ((c' ns).isSome = true ∧ ns ∈ declared) := by
        rw [hsame]
        exact fun h => hbound h.symm
      rw [if_neg hnot]
      exact ⟨iff_of_false hclean.1 hnot, hclean.2⟩

/-- Releasing the declared namespaces leaves nothing exactly when the
footprint was within them. -/
theorem clean_iff_of_foreign {c c' : Cluster} {declared : List String}
    (hout : ∀ ns, ns ∉ declared → c' ns = c ns)
    (hin : ∀ ns, ns ∈ declared → ∃ n, c' ns = some n ∧ n.foreign name) :
    (∀ ns, ¬ c'.carries name ns) ↔
      ∀ ns, c.carries name ns → ns ∈ declared := by
  constructor
  · intro hclean ns hcarries
    by_contra hns
    exact hclean ns ((carries_congr (hout ns hns)).mpr hcarries)
  · intro hkept ns
    by_cases hns : ns ∈ declared
    · obtain ⟨n, hn, hforeign⟩ := hin ns hns
      refine not_carries_of_foreign fun n' hn' => ?_
      rw [hn] at hn'
      cases hn'
      exact hforeign
    · rw [carries_congr (hout ns hns)]
      exact fun hcarries => hns (hkept ns hcarries)

/-- A tenant that is gone has the footprint of nothing. -/
theorem footprint_gone_iff (h : s.tenant = none) :
    Footprint name s ↔ ∀ ns, ¬ s.cluster.carries name ns := by
  have hdeclared : s.declared = [] := by
    rw [Life.declared, h]
    rfl
  unfold Footprint Cluster.carries
  rw [hdeclared]
  simp

/-- After a pass the tenant has the footprint it declares if and only if all
it had is still declared. -/
theorem footprint_reconcile_iff (hinv : LifeInv name s) {r : Reading}
    (h : lifeStep libs s (.reconcile r) = some s') :
    Footprint name s' ↔ Kept name s := by
  obtain ⟨obj, hobj, rfl⟩ := Option.map_eq_some_iff.mp h
  obtain ⟨hname, hversion⟩ := hinv.named obj hobj
  have hkept : Kept name s ↔
      ∀ ns, s.cluster.carries name ns → ns ∈ obj.spec.namespaces := by
    unfold Kept Life.declared
    rw [hobj]
    rfl
  rw [hkept]
  by_cases hdeleting : obj.metadata.deletionTimestamp.isSome = true
  · have hcluster := foreign_of_teardown libs r hinv.owned
      hname hdeleting
    rw [footprint_gone_iff (if_pos hdeleting)]
    exact clean_iff_of_foreign (fun ns => (hcluster ns).1)
      fun ns => (hcluster ns).2
  · have hpass := passName_of_live (r := r) (c := s.cluster) hname hversion
      hdeleting
    have hcluster := bound_of_reconcileInner libs hinv.owned hpass
    rw [← footprint_iff_of_bound (fun ns => (hcluster ns).1)
      fun ns => (hcluster ns).2]
    unfold Footprint Life.declared Life.limits
    simp only [afterPass, if_neg hdeleting, Option.map_some,
      Option.getD_some, Option.bind_some, spec_addFinalizer]

/-- A tenant that goes at once, before its finalizer is in place, has touched
nothing. -/
theorem footprint_delete (hinv : LifeInv name s) {now : DateTime}
    (h : lifeStep libs s (.delete now) = some s')
    (hgone : s'.tenant = none) : Footprint name s' := by
  obtain ⟨obj, hobj, rfl⟩ := Option.map_eq_some_iff.mp h
  split at hgone
  · cases hgone
  · next hfinalizer =>
      rw [if_neg hfinalizer, footprint_gone_iff rfl]
      exact hinv.untouched obj hobj (Bool.eq_false_iff.mpr hfinalizer)

end Invariant

/-! ## Every run -/

/-- In a run whose passes all come while nothing touched has left the spec,
every pass leaves the footprint that is declared, the teardown nothing; in
any run, a pass does so only then. A tenant that goes without a teardown
leaves nothing either. -/
theorem footprint_iff (libs : TenantLibs) (name : String) :
    (∀ s s' r, Reachable (life libs name) (passesKept name) s →
      passesKept name s (.reconcile r) →
      lifeStep libs s (.reconcile r) = some s' → Footprint name s') ∧
    (∀ s s' r, Reachable (life libs name) anyStep s →
      lifeStep libs s (.reconcile r) = some s' →
        (Footprint name s' ↔ Kept name s)) ∧
    ∀ s s' now, Reachable (life libs name) anyStep s →
      lifeStep libs s (.delete now) = some s' → s'.tenant = none →
        Footprint name s' :=
  ⟨fun _ _ _ hs hkept h =>
      (footprint_reconcile_iff (lifeInv_reachable hs) h).mpr hkept,
    fun _ _ _ hs h => footprint_reconcile_iff (lifeInv_reachable hs) h,
    fun _ _ _ hs h hgone => footprint_delete (lifeInv_reachable hs) h hgone⟩

/-! ## A namespace that left the spec -/

/-- Two namespaces, and a tenant that declares the first, with a quota. -/
def beginning : Life where
  tenant := some
    { metadata := { name := some "team", resourceVersion := some "1" }
      spec :=
        { namespaces := ["a"], quotas := some { maxGateways := some 2 } } }
  cluster := fun ns =>
    if ns = "a" ∨ ns = "b" then some freshNamespace else none

theorem created_beginning : Created "team" beginning where
  tenant := ⟨_, rfl, rfl, rfl, rfl, rfl⟩
  cluster := by
    intro ns n hn
    simp only [beginning, Option.ite_none_right_eq_some] at hn
    obtain ⟨_, hn⟩ := hn
    cases hn
    exact foreign_freshNamespace

/-- A pass over the first namespace; then the spec takes in the second and
allows more gateways. -/
def growth : List LifeEvent :=
  [.reconcile quiet,
    .edit
      { namespaces := ["a", "b"], quotas := some { maxGateways := some 3 } }]

def grown : Life :=
  ((life prodLibs "team").run beginning growth).getD beginning

theorem kept_beginning : Kept "team" beginning := fun ns hcarries =>
  absurd hcarries
    (not_carries_of_foreign fun n hn => created_beginning.cluster ns n hn)

theorem reachable_grown :
    Reachable (life prodLibs "team") (passesKept "team") grown := by
  have hbegin : Reachable (life prodLibs "team") (passesKept "team")
      beginning := .init created_beginning
  have hpass := hbegin.step (a := LifeEvent.reconcile quiet) kept_beginning rfl
  exact hpass.step (a := LifeEvent.edit _) trivial rfl

/-- The second pass finds in the spec all that the first has bound. The
namespace that was taken in gets the label, and the other the new limit. -/
theorem footprint_grown :
    ∃ s', lifeStep prodLibs grown (.reconcile quiet) = some s' ∧
      Footprint "team" s' ∧ s'.cluster.labelled "team" "b" ∧
      (s'.cluster.capped "team" "a").bind
        (fun hard => hard "count/mcpggateways.mcpg.dev") = some "3" := by
  have hbound := (footprint_iff prodLibs "team").1 beginning _ quiet
    (.init created_beginning) kept_beginning rfl
  have hkept : Kept "team" grown := fun ns hcarries =>
    List.mem_append_left ["b"] (kept_of_footprint hbound ns hcarries)
  exact ⟨_, rfl,
    (footprint_iff prodLibs "team").1 grown _ quiet reachable_grown hkept rfl,
    rfl, rfl⟩

/-- A pass over the first namespace; then the spec moves to the second. -/
def move : List LifeEvent :=
  [.reconcile quiet, .edit { namespaces := ["b"] }]

/-- The label stays with the first. -/
theorem run_move :
    ((life prodLibs "team").run beginning move).map
      (fun s => (s.declared, (s.cluster "a").bind Namespace.tenant)) =
        some (["b"], some "team") := by
  rfl

theorem not_footprint_move :
    ¬ ∀ (libs : TenantLibs) (name : String) (s s' : Life) (r : Reading),
      Reachable (life libs name) anyStep s →
      lifeStep libs s (.reconcile r) = some s' → Footprint name s' := by
  intro h
  obtain ⟨s, hrun, hs⟩ := Option.map_eq_some_iff.mp run_move
  obtain ⟨hdeclared, hlabel⟩ := Prod.mk.inj hs
  have hreach : Reachable (life prodLibs "team") anyStep s :=
    .of_run (.init created_beginning) (System.permitted_anyStep ..) hrun
  have hlive : ∃ s', lifeStep prodLibs s (.reconcile quiet) = some s' := by
    cases htenant : s.tenant with
    | none =>
        rw [Life.declared, htenant] at hdeclared
        cases hdeclared
    | some obj => exact ⟨_, congrArg (Option.map _) htenant⟩
  obtain ⟨s', hstep⟩ := hlive
  have hkept := (footprint_reconcile_iff (lifeInv_reachable hreach)
    hstep).mp (h prodLibs "team" s s' quiet hreach hstep)
  have hdeclared' := hkept "a" (.inl hlabel)
  rw [hdeclared] at hdeclared'
  exact absurd hdeclared' (by decide)

end McpgOperator.Tenant
