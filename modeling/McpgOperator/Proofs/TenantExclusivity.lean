import McpgOperator.Proofs.TenantFootprint
import McpgOperator.Tenant.Requests

/-!
# Who owns a namespace

The webhook compares a tenant with those stored at that moment; nothing
compares again when it is persisted. And every tenant's passes write the label
under one field manager, with force, so a request that is late lands whoever
owns the namespace by then. Both gaps are in the moment a write is persisted:
if no other tenant has come to own one of its namespaces since the check, and
no unfinished pass of another tenant may still write the label of one, then
tenants stay apart and no pass touches a namespace that is another's.
-/

namespace McpgOperator.Tenant.Requests

open McpgOperator.Kube McpgOperator.Admission Transition

variable {libs : TenantLibs} {api : TenantApi} {s s' : State}

/-! ## What the check gives -/

theorem overlapping_of_checkOthers {obj : MCPGTenant} {selfName : String}
    {others : List MCPGTenant}
    (h : checkOthers api obj selfName others = .ok ()) :
    ∀ v ∈ others, v.metadata.name.getD "" ≠ selfName →
      api.overlappingNamespaces obj.spec v.spec = [] := by
  induction others with
  | nil => exact List.forall_mem_nil _
  | cons other rest ih =>
      unfold checkOthers at h
      dsimp only at h
      by_cases hself : other.metadata.name.getD "" = selfName
      · rw [if_pos hself] at h
        exact List.forall_mem_cons.mpr
          ⟨fun hother => absurd hself hother, ih h⟩
      · rw [if_neg hself] at h
        split at h
        · next hdisjoint =>
            exact List.forall_mem_cons.mpr ⟨fun _ => hdisjoint, ih h⟩
        · cases h

/-- An admitted tenant shares no namespace with any of the others that were
there. -/
theorem apart_of_admitTenant (hapi : Overlaps api) {obj : MCPGTenant}
    {listed : List MCPGTenant} {name : String}
    (hname : obj.metadata.name = some name)
    (hnamed : ∀ v ∈ listed, ∃ other, v.metadata.name = some other)
    (h : admitTenant api (.ok listed) obj = .ok ()) :
    ∀ v ∈ listed, v.metadata.name ≠ obj.metadata.name →
      ∀ ns ∈ obj.spec.namespaces, ns ∉ v.spec.namespaces := by
  obtain ⟨_, _, h⟩ := Except.of_bind_ok h
  intro v hv hne ns hns hmem
  obtain ⟨other, hother⟩ := hnamed v hv
  have hself : v.metadata.name.getD "" ≠ obj.metadata.name.getD "" := by
    rw [hother, hname] at hne ⊢
    exact fun heq => hne (congrArg some heq)
  have hnil := overlapping_of_checkOthers h v hv hself
  have hoverlap := (hapi obj.spec v.spec ns).mpr ⟨hns, hmem⟩
  rw [hnil] at hoverlap
  cases hoverlap

/-! ## Writes that give no tenant a namespace -/

/-- Every tenant was there before, with its spec. -/
def Within (tenants' tenants : List MCPGTenant) : Prop :=
  ∀ u' ∈ tenants', ∃ u ∈ tenants,
    u.metadata.name = u'.metadata.name ∧ u.spec = u'.spec

theorem within_refl (tenants : List MCPGTenant) : Within tenants tenants :=
  fun u hu => ⟨u, hu, rfl, rfl⟩

theorem within_updateTenant {f : MCPGTenant → MCPGTenant}
    (hname : ∀ t, (f t).metadata.name = t.metadata.name)
    (hspec : ∀ t, (f t).spec = t.spec) (tenants : List MCPGTenant)
    (name : String) : Within (updateTenant tenants name f) tenants := by
  intro u' hu'
  obtain ⟨u, hu, rfl⟩ := List.mem_map.mp hu'
  refine ⟨u, hu, ?_⟩
  split
  · exact ⟨(hname u).symm, (hspec u).symm⟩
  · exact ⟨rfl, rfl⟩

theorem within_removeTenant (tenants : List MCPGTenant) (name : String) :
    Within (removeTenant tenants name) tenants :=
  fun u hu => ⟨u, (List.mem_filter.mp hu).1, rfl, rfl⟩

theorem within_deleted (tenants : List MCPGTenant) (name : String)
    (now : DateTime) : Within (deleted tenants name now) tenants := by
  unfold deleted
  split
  · exact within_refl tenants
  · split
    · refine within_updateTenant ?_ ?_ tenants name
      · exact fun _ => rfl
      · exact fun _ => rfl
    · exact within_removeTenant tenants name

theorem within_released (tenants : List MCPGTenant) (name : String) :
    Within (released tenants name) tenants := by
  unfold released
  split
  · exact within_refl tenants
  · split
    · exact within_removeTenant tenants name
    · refine within_updateTenant ?_ ?_ tenants name
      · exact fun _ => rfl
      · exact fun _ => rfl

theorem within_addFinalizer (tenants : List MCPGTenant) (name : String) :
    Within (updateTenant tenants name addFinalizer) tenants := by
  refine within_updateTenant ?_ ?_ tenants name
  · intro t
    unfold addFinalizer
    split <;> rfl
  · intro t
    unfold addFinalizer
    split <;> rfl

theorem exclusive_of_within {tenants tenants' : List MCPGTenant}
    (hwithin : Within tenants' tenants) (h : Exclusive tenants) :
    Exclusive tenants' := by
  intro t' ht' u' hu' hne ns hns
  obtain ⟨t, ht, htname, htspec⟩ := hwithin t' ht'
  obtain ⟨u, hu, huname, huspec⟩ := hwithin u' hu'
  rw [← htname, ← huname] at hne
  rw [← htspec] at hns
  rw [← huspec]
  exact h t ht u hu hne ns hns

/-! ## The invariant -/

/-- What is stored, what was checked, and whose namespaces the passes still
have before them. -/
structure Inv (s : State) : Prop where
  stored : ∀ t ∈ s.tenants, ∃ name, t.metadata.name = some name
  exclusive : Exclusive s.tenants
  named : ∀ c ∈ s.checked, ∃ name, c.obj.metadata.name = some name
  checked : ∀ c ∈ s.checked, ∀ v ∈ c.listed,
    v.metadata.name ≠ c.obj.metadata.name →
      ∀ ns ∈ c.obj.spec.namespaces, ns ∉ v.spec.namespaces
  ahead : ∀ p ∈ s.running, ∀ ns ∈ p.ahead, ∀ u ∈ s.tenants,
    ns ∈ u.spec.namespaces → u.metadata.name = some p.tenant

theorem inv_start (h : Start s) : Inv s where
  stored := h.named
  exclusive := h.exclusive
  named := by
    rw [h.checked]
    exact List.forall_mem_nil _
  checked := by
    rw [h.checked]
    exact List.forall_mem_nil _
  ahead := by
    rw [h.running]
    exact List.forall_mem_nil _

theorem ahead_of_within {tenants tenants' : List MCPGTenant}
    (hwithin : Within tenants' tenants) {ns : String} {name : Option String}
    (h : ∀ u ∈ tenants, ns ∈ u.spec.namespaces → u.metadata.name = name) :
    ∀ u ∈ tenants', ns ∈ u.spec.namespaces → u.metadata.name = name := by
  intro u' hu' hns
  obtain ⟨u, hu, hname, hspec⟩ := hwithin u' hu'
  rw [← hname]
  rw [← hspec] at hns
  exact h u hu hns

theorem inv_within (hinv : Inv s) {tenants : List MCPGTenant}
    (hwithin : Within tenants s.tenants) : Inv { s with tenants } where
  stored := by
    intro t' ht'
    obtain ⟨t, ht, hname, _⟩ := hwithin t' ht'
    rw [← hname]
    exact hinv.stored t ht
  exclusive := exclusive_of_within hwithin hinv.exclusive
  named := hinv.named
  checked := hinv.checked
  ahead := fun p hp ns hns =>
    ahead_of_within hwithin (hinv.ahead p hp ns hns)

theorem inv_check (hapi : Overlaps api) (hinv : Inv s) {obj : MCPGTenant}
    {name : String} (hname : obj.metadata.name = some name)
    (h : admitTenant api (.ok s.tenants) obj = .ok ()) :
    Inv
      { s with
        checked := s.checked ++
          [{ obj := obj, base := find s.tenants name
             listed := s.tenants }] } where
  stored := hinv.stored
  exclusive := hinv.exclusive
  named := by
    intro c hc
    rcases List.mem_append.mp hc with hc | hc
    · exact hinv.named c hc
    · obtain rfl := List.mem_singleton.mp hc
      exact ⟨name, hname⟩
  checked := by
    intro c hc
    rcases List.mem_append.mp hc with hc | hc
    · exact hinv.checked c hc
    · obtain rfl := List.mem_singleton.mp hc
      exact apart_of_admitTenant hapi hname hinv.stored h
  ahead := hinv.ahead

/-- Persisting changes the one tenant it is about. -/
theorem mem_persisted {tenants : List MCPGTenant} {c : Checked}
    {name : String} (hname : c.obj.metadata.name = some name)
    {u : MCPGTenant} (hu : u ∈ persisted tenants c) :
    u ∈ tenants ∨ (u.metadata.name = c.obj.metadata.name ∧
      u.spec = c.obj.spec) := by
  have hself : c.name = name := by rw [Checked.name, hname, Option.getD_some]
  unfold persisted at hu
  rw [hself] at hu
  rw [hname]
  split at hu
  · split at hu
    · rcases List.mem_cons.mp hu with rfl | hu
      · exact .inr ⟨hname, rfl⟩
      · exact .inl hu
    · obtain ⟨t, ht, rfl⟩ := List.mem_map.mp hu
      split
      · next hmatch => exact .inr ⟨hmatch, rfl⟩
      · exact .inl ht
  · exact .inl hu

theorem inv_persist (hinv : Inv s) {c : Checked} (hc : c ∈ s.checked)
    (hcareful : find s.tenants c.name = c.base → CarefulWrite s c)
    {checked : List Checked}
    (hchecked : ∀ c' ∈ checked, c' ∈ s.checked) :
    Inv { s with tenants := persisted s.tenants c, checked } := by
  by_cases hbase : find s.tenants c.name = c.base
  case neg =>
    rw [persisted, if_neg hbase]
    exact ⟨hinv.stored, hinv.exclusive,
      fun c' h => hinv.named c' (hchecked c' h),
      fun c' h => hinv.checked c' (hchecked c' h), hinv.ahead⟩
  have hcareful := hcareful hbase
  obtain ⟨name, hname⟩ := hinv.named c hc
  have happart : ∀ u ∈ s.tenants, u.metadata.name ≠ c.obj.metadata.name →
      ∀ ns ∈ c.obj.spec.namespaces, ns ∉ u.spec.namespaces := by
    intro u hu hne ns hns hmem
    obtain ⟨v, hv, hvname, hvns⟩ := hcareful.unclaimed u hu hne ns hns hmem
    exact hinv.checked c hc v hv (hvname.trans_ne hne) ns hns hvns
  refine ⟨?_, ?_, fun c' h => hinv.named c' (hchecked c' h),
    fun c' h => hinv.checked c' (hchecked c' h), ?_⟩
  · intro t ht
    rcases mem_persisted hname ht with ht | ⟨htname, _⟩
    · exact hinv.stored t ht
    · exact ⟨name, htname.trans hname⟩
  · intro t ht u hu hne ns hns hmem
    rcases mem_persisted hname ht with ht | ⟨htname, htspec⟩
    · rcases mem_persisted hname hu with hu | ⟨huname, huspec⟩
      · exact hinv.exclusive t ht u hu hne ns hns hmem
      · rw [huspec] at hmem
        exact happart t ht (hne.trans_eq huname) ns hmem hns
    · rcases mem_persisted hname hu with hu | ⟨huname, _⟩
      · rw [htspec] at hns
        rw [htname] at hne
        exact happart u hu hne.symm ns hns hmem
      · exact hne (htname.trans huname.symm)
  · intro p hp ns hns u hu hmem
    rcases mem_persisted hname hu with hu | ⟨huname, huspec⟩
    · exact hinv.ahead p hp ns hns u hu hmem
    · by_contra hother
      rw [huname] at hother
      rw [huspec] at hmem
      exact hcareful.settled p hp (Ne.symm hother) ns hmem hns

/-! ## A pass -/

theorem mem_ahead {p : Running} {ns : String} :
    ns ∈ p.ahead ↔ ∃ t ∈ p.todo, t.labels = some ns :=
  List.mem_filterMap

theorem target_of_labels {e : Effect} {ns : String}
    (h : (Todo.send e).labels = some ns) : e.target = some ns := by
  cases e with
  | applyLabel ns' tenant answer => exact h
  | dropLabel ns' answer => exact h
  | applyBinding ns' binding answer => cases h
  | applyQuota ns' quota answer => cases h
  | deleteQuota ns' name answer => cases h
  | patchStatus status => cases h
  | publish evt => cases h

/-- A pass sets out for the namespaces of its object. -/
theorem namespace_of_agenda {obj : MCPGTenant} {name ns : String}
    {t : Todo} (ht : t ∈ agenda obj name) (hlabels : t.labels = some ns) :
    ns ∈ obj.spec.namespaces := by
  unfold agenda at ht
  split at ht
  · rcases List.mem_append.mp ht with ht | ht
    · obtain ⟨ns', hmem, ht⟩ := List.mem_flatMap.mp ht
      obtain ⟨e, he, rfl⟩ := List.mem_map.mp ht
      obtain rfl := target_teardownNamespace he (target_of_labels hlabels)
      exact hmem
    · obtain rfl := List.mem_singleton.mp ht
      cases hlabels
  · obtain ⟨ns', hmem, rfl⟩ := List.mem_map.mp ht
    cases hlabels
    exact hmem

/-- Working through a namespace is about that namespace. -/
theorem labels_of_lookedUp {c : Cluster} {p : Running} {ns ns' : String}
    {t : Todo} (ht : t ∈ lookedUp libs c p ns)
    (hlabels : t.labels = some ns') : ns' = ns := by
  unfold lookedUp at ht
  split at ht
  · obtain ⟨e, he, rfl⟩ := List.mem_map.mp ht
    exact target_ensureNamespace he (target_of_labels hlabels)
  · cases ht

theorem inv_start_pass (hinv : Inv s) {obj : MCPGTenant} {name : String}
    (hfind : find s.tenants name = some obj) :
    Inv
      { s with
        running := s.running ++
          [{ tenant := name, quotas := obj.spec.quotas
             todo := agenda obj name }] } where
  stored := hinv.stored
  exclusive := hinv.exclusive
  named := hinv.named
  checked := hinv.checked
  ahead := by
    intro p hp ns hns u hu hmem
    rcases List.mem_append.mp hp with hp | hp
    · exact hinv.ahead p hp ns hns u hu hmem
    · obtain rfl := List.mem_singleton.mp hp
      obtain ⟨t, ht, hlabels⟩ := mem_ahead.mp hns
      have hdeclared := namespace_of_agenda ht hlabels
      have hname : obj.metadata.name = some name := by
        simpa using List.find?_some hfind
      have hobj : obj ∈ s.tenants := List.mem_of_find?_eq_some hfind
      by_contra hother
      refine hinv.exclusive obj hobj u hu ?_ ns hdeclared hmem
      rw [hname]
      exact Ne.symm hother

/-- A pass that has less before it stays within what it may write. -/
theorem inv_setPass (hinv : Inv s) {i : Nat} {p p' : Running}
    (hp : s.running[i]? = some p) (htenant : p'.tenant = p.tenant)
    (hahead : ∀ ns ∈ p'.ahead, ns ∈ p.ahead) : Inv (s.setPass i p') where
  stored := hinv.stored
  exclusive := hinv.exclusive
  named := hinv.named
  checked := hinv.checked
  ahead := by
    intro q hq ns hns u hu hmem
    rcases List.mem_or_eq_of_mem_set hq with hq | rfl
    · exact hinv.ahead q hq ns hns u hu hmem
    · rw [htenant]
      exact hinv.ahead p (List.mem_of_getElem? hp) ns (hahead ns hns) u hu
        hmem

theorem inv_setPass_rest (hinv : Inv s) {i : Nat} {p : Running} {t : Todo}
    {rest : List Todo} (hp : s.running[i]? = some p)
    (htodo : p.todo = t :: rest) :
    Inv (s.setPass i { p with todo := rest }) := by
  refine inv_setPass hinv hp rfl fun ns hns => ?_
  obtain ⟨t', ht', hlabels⟩ := mem_ahead.mp hns
  rw [mem_ahead, htodo]
  exact ⟨t', List.mem_cons_of_mem t ht', hlabels⟩

theorem inv_act (hinv : Inv s) {i : Nat} {p : Running} {lands : Bool}
    (hp : s.running[i]? = some p)
    (h : actPass libs s i p lands = some s') : Inv s' := by
  unfold actPass at h
  split at h
  · cases h
  · next ns rest htodo =>
      cases h
      refine inv_setPass hinv hp rfl fun ns' hns' => ?_
      obtain ⟨t, ht, hlabels⟩ := mem_ahead.mp hns'
      rw [mem_ahead, htodo]
      rcases List.mem_append.mp ht with ht | ht
      · obtain rfl := labels_of_lookedUp ht hlabels
        exact ⟨_, List.mem_cons_self, rfl⟩
      · exact ⟨t, List.mem_cons_of_mem _ ht, hlabels⟩
  · next e rest htodo =>
      cases h
      have hset := inv_setPass_rest hinv hp htodo
      exact ⟨hset.stored, hset.exclusive, hset.named, hset.checked,
        hset.ahead⟩
  · next rest htodo =>
      cases h
      refine inv_within (inv_setPass_rest hinv hp htodo) ?_
      split
      · exact within_released s.tenants p.tenant
      · exact within_refl s.tenants

/-! ## Every step -/

theorem inv_step (hapi : Overlaps api) (hinv : Inv s) {e : Event}
    (hcareful : careful s e) (h : step libs api s e = some s') :
    Inv s' := by
  cases e with
  | check obj =>
      dsimp only [step] at h
      split at h
      · next hname hadmitted =>
          cases h
          exact inv_check hapi hinv hname hadmitted
      · cases h
  | persist i =>
      obtain ⟨c, hc, rfl⟩ := Option.map_eq_some_iff.mp h
      exact inv_persist hinv (List.mem_of_getElem? hc) (hcareful c hc)
        fun c' hc' => List.mem_of_mem_eraseIdx hc'
  | delete name now =>
      cases h
      exact inv_within hinv (within_deleted s.tenants name now)
  | start name =>
      obtain ⟨obj, hfind, rfl⟩ := Option.map_eq_some_iff.mp h
      refine inv_within (inv_start_pass hinv hfind) ?_
      split
      · exact within_refl s.tenants
      · exact within_addFinalizer s.tenants name
  | act i lands =>
      obtain ⟨p, hp, h⟩ := Option.bind_eq_some_iff.mp h
      exact inv_act hinv hp h
  | createNamespace ns =>
      dsimp only [step] at h
      split at h
      · cases h
        exact ⟨hinv.stored, hinv.exclusive, hinv.named, hinv.checked,
          hinv.ahead⟩
      · cases h
  | deleteNamespace ns =>
      cases h
      exact ⟨hinv.stored, hinv.exclusive, hinv.named, hinv.checked,
        hinv.ahead⟩

theorem inv_reachable (hapi : Overlaps api)
    (h : Reachable (tenancy libs api) careful s) : Inv s := by
  refine Reachable.invariant ?_ ?_ h
  · exact fun s => inv_start
  · exact fun s e s' hinv => inv_step hapi hinv

/-! ## Labels -/

theorem labelOf_update_of_ne {c : Cluster} {ns ns' : String}
    (h : ns ≠ ns') (o : Option Namespace) :
    labelOf (Function.update c ns' o) ns = labelOf c ns := by
  unfold labelOf
  rw [Function.update_of_ne h]

/-- The quotas of a namespace are not its label. -/
theorem labelOf_modify {c : Cluster} {f : Namespace → Namespace}
    (hf : ∀ n, (f n).tenant = n.tenant) (ns ns' : String) :
    labelOf (c.modify ns' f) ns = labelOf c ns := by
  by_cases hns : ns = ns'
  · subst hns
    unfold labelOf Cluster.modify
    rw [Function.update_self]
    cases c ns with
    | none => rfl
    | some n => exact hf n
  · exact labelOf_update_of_ne hns _

/-- A request that does not write the label of the namespace leaves it. -/
theorem labelOf_act {c : Cluster} {e : Effect} {ns : String}
    (h : (Todo.send e).labels ≠ some ns) :
    labelOf (e.act c) ns = labelOf c ns := by
  cases e with
  | applyLabel ns' tenant answer =>
      refine labelOf_update_of_ne (fun heq => h ?_) _
      rw [heq]
      rfl
  | dropLabel ns' answer =>
      refine labelOf_update_of_ne (fun heq => h ?_) _
      rw [heq]
      rfl
  | applyQuota ns' quota answer =>
      have hlabel : ∀ n : Namespace, (n.setQuota quota).tenant = n.tenant :=
        fun _ => rfl
      exact labelOf_modify hlabel ns ns'
  | deleteQuota ns' name answer =>
      have hlabel : ∀ n : Namespace, (n.deleteQuota name).tenant = n.tenant :=
        fun _ => rfl
      exact labelOf_modify hlabel ns ns'
  | applyBinding ns' binding answer => rfl
  | patchStatus status => rfl
  | publish evt => rfl

/-- What a pass has before it is nobody else's, so its requests leave the
others alone. -/
theorem leavesOthers_of_inv (hinv : Inv s) {e : Event}
    (h : step libs api s e = some s') : LeavesOthers s e s' := by
  rintro i lands p rfl hp u hu hother ns hns tenant hlabel
  obtain ⟨q, hq, h⟩ := Option.bind_eq_some_iff.mp h
  rw [hp] at hq
  cases hq
  unfold actPass at h
  split at h
  · cases h
  · cases h
    exact hlabel
  · next e rest htodo =>
      cases h
      have hnot : (Todo.send e).labels ≠ some ns := by
        intro hlabels
        have hmem : ns ∈ p.ahead := by
          rw [mem_ahead, htodo]
          exact ⟨_, List.mem_cons_self, hlabels⟩
        exact hother (hinv.ahead p (List.mem_of_getElem? hp) ns hmem u hu hns)
      cases lands with
      | false => exact hlabel
      | true => exact (labelOf_act hnot).trans hlabel
  · cases h
    exact hlabel

/-! ## What a careless write breaks -/

theorem mem_persisted_of_other {tenants : List MCPGTenant} {c : Checked}
    {u : MCPGTenant} (hu : u ∈ tenants)
    (hother : u.metadata.name ≠ some c.name) : u ∈ persisted tenants c := by
  unfold persisted
  split
  · split
    · exact List.mem_cons_of_mem _ hu
    · exact List.mem_map.mpr ⟨u, hu, if_neg hother⟩
  · exact hu

theorem exists_persisted {tenants : List MCPGTenant} {c : Checked}
    (hname : c.obj.metadata.name = some c.name)
    (hbase : find tenants c.name = c.base) :
    ∃ t ∈ persisted tenants c, t.metadata.name = c.obj.metadata.name ∧
      t.spec = c.obj.spec := by
  rw [persisted, if_pos hbase]
  cases hb : c.base with
  | none => exact ⟨c.obj, List.mem_cons_self, rfl, rfl⟩
  | some b =>
      rw [hb] at hbase
      have hmatch : b.metadata.name = some c.name := by
        simpa using List.find?_some hbase
      refine ⟨_, List.mem_map.mpr ⟨b, List.mem_of_find?_eq_some hbase, rfl⟩,
        ?_⟩
      rw [if_pos hmatch, hname]
      exact ⟨hmatch, rfl⟩

/-- A namespace claimed between check and persistence has two owners. -/
theorem not_exclusive_persisted {c : Checked}
    (hname : c.obj.metadata.name = some c.name)
    (hbase : find s.tenants c.name = c.base) (h : ¬ Unclaimed s c) :
    ¬ Exclusive (persisted s.tenants c) := by
  intro hexclusive
  refine h fun u hu hother ns hns hmem => ?_
  obtain ⟨t, ht, htname, htspec⟩ := exists_persisted hname hbase
  have hu' : u ∈ persisted s.tenants c :=
    mem_persisted_of_other hu (by rwa [← hname])
  rw [← htspec] at hns
  rw [← htname] at hother
  exact absurd hmem (hexclusive t ht u hu' (Ne.symm hother) ns hns)

/-! ## A pass nothing comes in between -/

section Alone

variable {i : Nat} {p : Running} {rest : List Todo}

/-- Steps of the pass alone, every write of it taking effect, lead to the
state. -/
def Advances (libs : TenantLibs) (api : TenantApi) (i : Nat)
    (s s' : State) : Prop :=
  ∃ n, (tenancy libs api).run s (List.replicate n (.act i true)) = some s'

theorem Advances.trans {s₁ s₂ s₃ : State} (h : Advances libs api i s₁ s₂)
    (h' : Advances libs api i s₂ s₃) : Advances libs api i s₁ s₃ := by
  obtain ⟨n, hn⟩ := h
  obtain ⟨m, hm⟩ := h'
  refine ⟨n + m, ?_⟩
  rw [← List.replicate_append_replicate]
  exact System.run_append hn hm

variable (api) in
theorem advances_of_actPass {s₁ s₂ : State}
    (hp : s₁.running[i]? = some p)
    (h : actPass libs s₁ i p true = some s₂) :
    Advances libs api i s₁ s₂ := by
  have hstep : (tenancy libs api).step s₁ (.act i true) = some s₂ :=
    Option.bind_eq_some_iff.mpr ⟨p, hp, h⟩
  exact ⟨1, Option.bind_eq_some_iff.mpr ⟨s₂, hstep, rfl⟩⟩

theorem getElem?_setPass (hp : s.running[i]? = some p) (p' : Running) :
    (s.setPass i p').running[i]? = some p' := by
  obtain ⟨hi, _⟩ := List.getElem?_eq_some_iff.mp hp
  exact List.getElem?_set_self hi

/-- The requests of a pass, one after the other. -/
theorem advances_sends {es : List Effect} (hp : s.running[i]? = some p)
    (htodo : p.todo = es.map .send ++ rest) :
    ∃ s', Advances libs api i s s' ∧
      s'.running[i]? = some { p with todo := rest } ∧
      s'.cluster = s.cluster.run es := by
  induction es generalizing s p with
  | nil =>
      obtain rfl : p.todo = rest := htodo
      exact ⟨s, ⟨0, rfl⟩, hp, rfl⟩
  | cons e es ih =>
      have hact : actPass libs s i p true = some
          { s.setPass i { p with todo := es.map .send ++ rest } with
            cluster := e.act s.cluster } := by
        rw [actPass, htodo]
        rfl
      have hp' := getElem?_setPass hp { p with todo := es.map .send ++ rest }
      obtain ⟨s', hadvances, hrunning, hcluster⟩ :=
        ih (s := { s.setPass i { p with todo := es.map .send ++ rest } with
          cluster := e.act s.cluster }) hp' rfl
      exact ⟨s', (advances_of_actPass api hp hact).trans hadvances, hrunning,
        hcluster⟩

theorem isSome_act {c : Cluster} {e : Effect} {ns : String}
    (htarget : ∀ ns', e.target = some ns' → (c ns').isSome = true) :
    ((e.act c) ns).isSome = (c ns).isSome := by
  by_cases hns : e.target = some ns
  · rw [htarget ns hns]
    obtain ⟨n, hn⟩ := Option.isSome_iff_exists.mp (htarget ns hns)
    cases e with
    | applyLabel ns' tenant answer =>
        cases hns
        exact congrArg Option.isSome (applyNamespace_self hn _)
    | dropLabel ns' answer =>
        cases hns
        exact congrArg Option.isSome (applyNamespace_self hn _)
    | applyQuota ns' quota answer =>
        cases hns
        exact congrArg Option.isSome (modify_self hn _)
    | deleteQuota ns' name answer =>
        cases hns
        exact congrArg Option.isSome (modify_self hn _)
    | applyBinding ns' binding answer => cases hns
    | patchStatus status => cases hns
    | publish evt => cases hns
  · rw [act_apply_of_ne hns]

/-- Requests about a namespace that exists bring none and take none. -/
theorem isSome_run {es : List Effect} {c : Cluster} {ns : String}
    (hns : (c ns).isSome = true)
    (htarget : ∀ e ∈ es, ∀ ns', e.target = some ns' → ns' = ns)
    (other : String) : ((c.run es) other).isSome = (c other).isSome := by
  induction es generalizing c with
  | nil => rfl
  | cons e es ih =>
      obtain ⟨he, hes⟩ := List.forall_mem_cons.mp htarget
      have hsame : ∀ other, ((e.act c) other).isSome = (c other).isSome :=
        fun other => isSome_act fun ns' h => by rw [he ns' h, hns]
      rw [run_cons, ih (by rw [hsame, hns]) hes, hsame]

variable (libs api) in
/-- The namespaces of a pass, one after the other. -/
theorem advances_looks {namespaces : List String}
    (hp : s.running[i]? = some p) (htodo : p.todo = namespaces.map .look) :
    ∃ s', Advances libs api i s s' ∧
      s'.running[i]? = some { p with todo := [] } ∧
      s'.cluster = s.cluster.run
        ((namespaces.filter fun ns => (s.cluster ns).isSome).flatMap
          fun ns => ensureNamespace libs (quiet.answers s.cluster) ns p.tenant
            p.quotas) := by
  induction namespaces generalizing s p with
  | nil =>
      cases p
      cases htodo
      exact ⟨s, ⟨0, rfl⟩, hp, rfl⟩
  | cons ns rest ih =>
      have hact : actPass libs s i p true = some (s.setPass i
          { p with
            todo := lookedUp libs s.cluster p ns ++ rest.map .look }) := by
        rw [actPass, htodo]
        rfl
      have hlook := advances_of_actPass api hp hact
      have hp' := getElem?_setPass hp
        { p with todo := lookedUp libs s.cluster p ns ++ rest.map .look }
      by_cases hns : (s.cluster ns).isSome = true
      · have htodo' : lookedUp libs s.cluster p ns ++ rest.map .look =
            (ensureNamespace libs (quiet.answers s.cluster) ns p.tenant
              p.quotas).map .send ++ rest.map .look := by
          rw [lookedUp, if_pos hns]
        obtain ⟨s₁, hsends, hp₁, hcluster₁⟩ := advances_sends hp' htodo'
        obtain ⟨s₂, hrest, hp₂, hcluster₂⟩ := ih hp₁ rfl
        refine ⟨s₂, (hlook.trans hsends).trans hrest, hp₂, ?_⟩
        have hsame : ∀ other, (s₁.cluster other).isSome =
            (s.cluster other).isSome := by
          intro other
          rw [hcluster₁]
          exact isSome_run hns
            (fun e he ns' => target_ensureNamespace he) other
        simp only [hsame] at hcluster₂
        have hfilter : (ns :: rest).filter
            (fun ns => (s.cluster ns).isSome) =
              ns :: rest.filter fun ns => (s.cluster ns).isSome :=
          List.filter_cons_of_pos hns
        rw [hcluster₂, hcluster₁, hfilter, List.flatMap_cons, run_append]
        rfl
      · have htodo' : lookedUp libs s.cluster p ns ++ rest.map .look =
            rest.map .look := by
          rw [lookedUp, if_neg hns]
          rfl
        obtain ⟨s₁, hrest, hp₁, hcluster₁⟩ := ih hp' htodo'
        refine ⟨s₁, hlook.trans hrest, hp₁, ?_⟩
        have hfilter : (ns :: rest).filter
            (fun ns => (s.cluster ns).isSome) =
              rest.filter fun ns => (s.cluster ns).isSome :=
          List.filter_cons_of_neg hns
        rw [hcluster₁, hfilter]
        rfl

/-- A pass nothing comes in between does to the namespaces what the whole
pass does. -/
theorem advances_pass {obj : MCPGTenant} {name : String} {r : Reading}
    (hp : s.running[i]? = some
      { tenant := name, quotas := obj.spec.quotas, todo := agenda obj name })
    (hname : passName (r.answers s.cluster) obj = some name)
    (hlive : obj.metadata.deletionTimestamp = none) :
    ∃ s', Advances libs api i s s' ∧
      s'.cluster = s.cluster.run
        (reconcileInner libs (r.answers s.cluster) obj).trace := by
  have htodo : agenda obj name = obj.spec.namespaces.map .look := by
    rw [agenda, hlive]
    rfl
  obtain ⟨s', hadvances, _, hcluster⟩ :=
    advances_looks libs api hp htodo
  refine ⟨s', hadvances, ?_⟩
  rw [hcluster, run_reconcileInner hname]
  rfl

end Alone

/-! ## Every run -/

/-- In a run whose writes are all persisted with care, no two stored tenants
own the same namespace, and no request of a pass removes or replaces the
label of a namespace that is another tenant's. A write that goes through on a
namespace claimed since its check gives it two owners. -/
theorem exclusive_of_careful (libs : TenantLibs) (api : TenantApi)
    (hapi : Overlaps api) :
    (∀ s, Reachable (tenancy libs api) careful s →
      Exclusive s.tenants ∧
        ∀ e s', step libs api s e = some s' → LeavesOthers s e s') ∧
    ∀ s c, c.obj.metadata.name = some c.name →
      find s.tenants c.name = c.base → ¬ Unclaimed s c →
        ¬ Exclusive (persisted s.tenants c) :=
  ⟨fun _ hs =>
    have hinv := inv_reachable hapi hs
    ⟨hinv.exclusive, fun _ _ h => leavesOthers_of_inv hinv h⟩,
    fun _ _ => not_exclusive_persisted⟩

/-! ## Two tenants, one namespace -/

/-- The methods of the API crate, as their names say. -/
def namespacesApi : TenantApi where
  ownsNamespace := fun spec ns => spec.namespaces.contains ns
  pluginAllowed := fun _ _ _ _ => true
  overlappingNamespaces := fun a b =>
    a.namespaces.filter fun ns => b.namespaces.contains ns

theorem overlaps_namespacesApi : Overlaps namespacesApi := by
  intro a b ns
  simp [namespacesApi]

def tenantOf (name ns : String) : MCPGTenant where
  metadata := { name := some name, resourceVersion := some "1" }
  spec := { namespaces := [ns] }

def nobody : State where
  tenants := []
  checked := []
  running := []
  cluster := fun ns =>
    if ns = "shared" ∨ ns = "blue" then some freshNamespace else none

theorem start_nobody : Start nobody where
  named := List.forall_mem_nil _
  exclusive := List.forall_mem_nil _
  checked := rfl
  running := rfl

/-- One create after the other, and their passes in between each other. -/
def inTurn : List Event :=
  [.check (tenantOf "red" "shared"), .persist 0, .start "red", .act 0 true,
    .check (tenantOf "blue" "blue"), .persist 0, .start "blue", .act 1 true,
    .act 0 true, .act 0 true, .act 1 true]

/-- The request that comes next is the label of the second. -/
theorem run_inTurn :
    ∃ s s' p u, (tenancy prodLibs namespacesApi).run nobody inTurn = some s ∧
      step prodLibs namespacesApi s (.act 1 true) = some s' ∧
      (s.running[1]? = some p ∧ p.tenant = "blue") ∧
      (u ∈ s.tenants ∧ u.metadata.name = some "red" ∧
        u.spec.namespaces = ["shared"]) ∧
      labelOf s.cluster "shared" = some "red" ∧
      labelOf s.cluster "blue" = none ∧
      labelOf s'.cluster "blue" = some "blue" :=
  ⟨_, _, _, _, rfl, rfl, ⟨rfl, rfl⟩,
    ⟨List.mem_cons_of_mem _ List.mem_cons_self, rfl, rfl⟩, rfl, rfl, rfl⟩

/-- The second write is persisted while the first tenant's pass has its label
yet to apply. -/
theorem permitted_inTurn :
    (tenancy prodLibs namespacesApi).Permitted careful nobody inTurn := by
  refine ⟨trivial, fun _ h => ?_⟩
  cases h
  refine ⟨fun c hc _ => ?_, fun _ h => ?_⟩
  · exact ⟨fun u hu => absurd hu List.not_mem_nil,
      fun p hp => absurd hp List.not_mem_nil⟩
  cases h
  refine ⟨trivial, fun _ h => ?_⟩
  cases h
  refine ⟨trivial, fun _ h => ?_⟩
  cases h
  refine ⟨trivial, fun _ h => ?_⟩
  cases h
  refine ⟨fun c hc _ => ?_, fun s _ => ?_⟩
  · cases hc
    refine ⟨fun u hu _ ns hns hmem => ?_, fun p hp _ ns hns hahead => ?_⟩
    · cases List.mem_singleton.mp hns
      cases List.mem_singleton.mp hu
      exact absurd hmem (by decide)
    · cases List.mem_singleton.mp hns
      cases List.mem_singleton.mp hp
      exact absurd hahead (by decide)
  · exact System.permitted_of_forall (by simp [careful]) s

/-- A write that was checked when nobody was there. -/
def lateWrite : Checked where
  obj := tenantOf "blue" "shared"
  base := none
  listed := []

theorem exclusive_inTurn :
    (∃ s s', (tenancy prodLibs namespacesApi).run nobody inTurn = some s ∧
      Exclusive s.tenants ∧
      step prodLibs namespacesApi s (.act 1 true) = some s' ∧
      labelOf s'.cluster "blue" = some "blue" ∧
      labelOf s'.cluster "shared" = some "red") ∧
    ¬ Exclusive (persisted [tenantOf "red" "shared"] lateWrite) := by
  have hall := exclusive_of_careful prodLibs namespacesApi
    overlaps_namespacesApi
  obtain ⟨s, s', p, u, hrun, hstep, ⟨hp, hblue⟩, ⟨hu, hname, hns⟩, hshared,
    -, hlabel⟩ := run_inTurn
  have hreach : Reachable (tenancy prodLibs namespacesApi) careful s :=
    .of_run (.init start_nobody) permitted_inTurn hrun
  obtain ⟨hexclusive, hleaves⟩ := hall.1 s hreach
  have hkept : labelOf s'.cluster "shared" = some "red" := by
    refine hleaves _ s' hstep 1 true p rfl hp u hu ?_ "shared" ?_ "red" hshared
    · rw [hname, hblue]
      decide
    · rw [hns]
      exact List.mem_cons_self
  refine ⟨⟨s, s', hrun, hexclusive, hstep, hlabel, hkept⟩, ?_⟩
  refine hall.2 { nobody with tenants := [tenantOf "red" "shared"] } lateWrite
    rfl rfl fun hunclaimed => ?_
  obtain ⟨v, hv, _⟩ := hunclaimed (tenantOf "red" "shared")
    List.mem_cons_self (by decide) "shared" List.mem_cons_self
    List.mem_cons_self
  cases hv

/-- Two creates, each checked before the other is persisted. -/
def crossed : List Event :=
  [.check (tenantOf "red" "shared"), .check (tenantOf "blue" "shared"),
    .persist 0, .persist 0]

theorem tenants_crossed :
    ((tenancy prodLibs namespacesApi).run nobody crossed).map (·.tenants) =
      some [tenantOf "blue" "shared", tenantOf "red" "shared"] := by
  rfl

theorem not_exclusive_crossed :
    ¬ ∀ (libs : TenantLibs) (api : TenantApi), Overlaps api →
      ∀ s, Reachable (tenancy libs api) anyStep s →
        Exclusive s.tenants ∧
          ∀ e s', step libs api s e = some s' → LeavesOthers s e s' := by
  intro h
  obtain ⟨s, hrun, hs⟩ := Option.map_eq_some_iff.mp tenants_crossed
  have hreach : Reachable (tenancy prodLibs namespacesApi) anyStep s :=
    .of_run (.init start_nobody) (System.permitted_anyStep ..) hrun
  have hexclusive :=
    (h prodLibs namespacesApi overlaps_namespacesApi s hreach).1
  rw [hs] at hexclusive
  exact hexclusive (tenantOf "blue" "shared") List.mem_cons_self
    (tenantOf "red" "shared") (List.mem_cons_of_mem _ List.mem_cons_self)
    (by decide) "shared" List.mem_cons_self List.mem_cons_self

end McpgOperator.Tenant.Requests
