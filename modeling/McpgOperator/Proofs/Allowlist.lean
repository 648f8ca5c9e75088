import McpgOperator.Admission.Plugin
import McpgOperator.Admission.Tenant
import McpgOperator.Lib.Transition
import McpgOperator.Proofs.SetReadiness

/-!
# The tenant's allowlist over histories

The allowlist is looked at once, when a plugin set is written: against the
tenants and the plugin images stored then. No pass looks again, and neither
does a write of a tenant or of a plugin. What a pass projects is therefore
what its version of the set was admitted with, whatever the tenant says by
then.

A pass is followed copy by copy. The answers to its reads are arbitrary, so
they may be from any moment.
-/

namespace McpgOperator.Allowlist

open McpgOperator.Kube McpgOperator.PluginSet
  McpgOperator.PluginSet.Reconcile McpgOperator.Admission Transition
open McpgOperator.Plugin (MCPGPlugin MCPGPluginStatus)

/-! ## What a pass projects -/

/-- The entries and the sources of the copies the second loop applies. -/
def projections (ans : SetAnswers) (i : Nat) :
    List ResolvedEntry → List (ResolvedEntry × Secret)
  | [] => []
  | r :: rest =>
      match ans.getSource i with
      | .error _ => []
      | .ok none => projections ans (i + 1) rest
      | .ok (some source) =>
          match ans.applySecret i with
          | .error _ => [(r, source)]
          | .ok _ => (r, source) :: projections ans (i + 1) rest

def copyEffect (set : MCPGPluginSet) (ns : String)
    (p : ResolvedEntry × Secret) : Effect :=
  let (copy, owner) := buildNamespaceCopy set ns p.2 p.1
  .applySecret copy owner

theorem trace_projectSecrets (ans : SetAnswers) (set : MCPGPluginSet)
    (ns : String) (i : Nat) (entries : List ResolvedEntry) :
    (projectSecrets ans set ns i entries).trace =
      (projections ans i entries).map (copyEffect set ns) := by
  induction entries generalizing i with
  | nil => rfl
  | cons r rest ih =>
      unfold projectSecrets projections
      rcases ans.getSource i with e | _ | source
      · rfl
      · exact ih (i + 1)
      · dsimp only
        cases ans.applySecret i with
        | error e => rfl
        | ok u => exact congrArg _ (ih (i + 1))

theorem mem_of_mem_projections {ans : SetAnswers} {i : Nat}
    {entries : List ResolvedEntry} {p : ResolvedEntry × Secret}
    (h : p ∈ projections ans i entries) : p.1 ∈ entries := by
  induction entries generalizing i with
  | nil => cases h
  | cons r rest ih =>
      unfold projections at h
      split at h
      · cases h
      · exact List.mem_cons_of_mem _ (ih h)
      · split at h
        · rw [List.mem_singleton.mp h]
          exact List.mem_cons_self
        · rcases List.mem_cons.mp h with rfl | h
          · exact List.mem_cons_self
          · exact List.mem_cons_of_mem _ (ih h)

def passProjections (ans : SetAnswers) (set : MCPGPluginSet) :
    List (ResolvedEntry × Secret) :=
  if (passNamespace ans set).isSome && ans.ensureTenantSecretBinding.isOk then
    projections ans 0 (resolved ans set)
  else []

theorem applySecret_mem_iff {libs : SetLibs} {ans : SetAnswers}
    {set : MCPGPluginSet} {copy : Secret} {owner : OwnerReference} :
    .applySecret copy owner ∈ (reconcileInner libs ans set).trace ↔
      ∃ p ∈ passProjections ans set, ∃ ns, passNamespace ans set = some ns ∧
        (copy, owner) = buildNamespaceCopy set ns p.2 p.1 := by
  have hcopy : ∀ ns p, copyEffect set ns p = Effect.applySecret copy owner ↔
      (copy, owner) = buildNamespaceCopy set ns p.2 p.1 := by
    intro ns p
    unfold copyEffect
    dsimp only
    rw [Effect.applySecret.injEq, Prod.ext_iff, eq_comm,
      eq_comm (a := (buildNamespaceCopy set ns p.2 p.1).2)]
  unfold passProjections
  cases hpast : passNamespace ans set with
  | none =>
      rw [trace_of_passNamespace_none hpast]
      simp
  | some ns =>
      rw [mem_reconcileInner hpast, trace_projectSecrets]
      cases hbound : ans.ensureTenantSecretBinding with
      | error e => simp [Except.isOk, Except.toBool]
      | ok u =>
          have hreport : Effect.applySecret copy owner ∉
              (report libs ans set).trace := by
            intro hmem
            rcases of_mem_report hmem with heq | ⟨_, heq⟩ <;> cases heq
          simp [Except.isOk, Except.toBool, publishSet, hcopy, hreport]

theorem entry_of_mem_resolved {ans : SetAnswers} {set : MCPGPluginSet}
    {r : ResolvedEntry} (h : r ∈ resolved ans set) :
    ∃ entry ∈ set.spec.entries, entry.enabled = true ∧
      r.pluginName = entry.pluginRef ∧ r.entryId = entry.id := by
  unfold resolved resolveEntries at h
  obtain ⟨_, hmem, hresolved⟩ := List.mem_filterMap.mp h
  obtain ⟨e, he, rfl⟩ := List.mem_map.mp hmem
  obtain ⟨hentry, henabled⟩ := List.mem_filter.mp he
  refine ⟨e.1, ?_, henabled, ?_⟩
  · exact (List.mem_zipIdx' hentry).2 ▸ List.getElem_mem _
  · cases hok : resolveEntry (ans.getPlugin e.2) e.1 with
    | error rejection =>
        rw [hok] at hresolved
        cases hresolved
    | ok r' =>
        rw [hok] at hresolved
        cases hresolved
        obtain ⟨_, _, hid, hname, _⟩ := plugin_of_resolveEntry_ok hok
        exact ⟨hname, hid⟩

/-! ## Histories -/

/-- What the allowlist is judged by. -/
structure Store where
  tenants : List MCPGTenant
  plugins : String → Option MCPGPlugin

/-- A plugin set, with the store its admission looked at. -/
structure Version where
  obj : MCPGPluginSet
  admittedAt : Store

/-- A pass, with the copies it has yet to apply. -/
structure Running where
  version : Version
  pending : List (ResolvedEntry × Secret)

/-- An apply of a copy, with the store at that moment. -/
structure Projection where
  version : Version
  entry : ResolvedEntry
  now : Store

structure State where
  store : Store
  /-- By namespace and name. -/
  sets : String × String → Option Version
  running : String × String → Option Running
  projected : List Projection

inductive Action
  | writeTenant (obj : MCPGTenant)
  | writePlugin (obj : MCPGPlugin)
  /-- A status patch, which no webhook sees. -/
  | reportPlugin (name : String) (status : MCPGPluginStatus)
  | writeSet (obj : MCPGPluginSet)
  | start (key : String × String) (ans : SetAnswers)
  /-- The pass applies its next copy. -/
  | project (key : String × String)
  /-- The pass is over, or lost. -/
  | stop (key : String × String)

/-- The libraries behind the webhooks. -/
structure AdmissionLibs where
  tenant : TenantApi
  capability : CapabilityLib
  protocol : PluginProtocol

/-- A create or an update. -/
def Store.putTenant (store : Store) (obj : MCPGTenant) : Store :=
  let same : MCPGTenant → Bool := fun t =>
    t.metadata.name == obj.metadata.name
  { store with
    tenants :=
      if store.tenants.any same then
        store.tenants.map fun t => if same t then obj else t
      else store.tenants ++ [obj] }

def Store.putPlugin (store : Store) (name : String) (obj : MCPGPlugin) :
    Store :=
  { store with plugins := Function.update store.plugins name (some obj) }

def State.setRunning (s : State) (key : String × String)
    (r : Option Running) : State :=
  { s with running := Function.update s.running key r }

def State.project (s : State) (key : String × String) (r : Running)
    (p : ResolvedEntry × Secret) (rest : List (ResolvedEntry × Secret)) :
    State :=
  { s.setRunning key (some { r with pending := rest }) with
    projected :=
      s.projected ++
        [{ version := r.version, entry := p.1, now := s.store }] }

/-- The set is stored as it was admitted. -/
def State.putSet (s : State) (key : String × String)
    (obj : MCPGPluginSet) : State :=
  { s with
    sets :=
      Function.update s.sets key
        (some { obj := obj, admittedAt := s.store }) }

/-- The verdict on a plugin set, with every lookup answered. -/
def Store.admits (store : Store) (libs : AdmissionLibs)
    (obj : MCPGPluginSet) : Except String Unit :=
  admitPluginSet libs.capability libs.tenant (.ok store.tenants)
    (fun name => .ok (store.plugins name)) obj

def State.step (libs : AdmissionLibs) (s : State) (a : Action) :
    Option State :=
  match a with
  | .writeTenant obj =>
      if admitTenant libs.tenant (.ok s.store.tenants) obj = .ok () then
        some { s with store := s.store.putTenant obj }
      else none
  | .writePlugin obj =>
      match obj.metadata.name with
      | none => none
      | some name =>
          if validatePlugin libs.protocol obj = .ok () then
            some { s with store := s.store.putPlugin name obj }
          else none
  | .reportPlugin name status =>
      match s.store.plugins name with
      | none => none
      | some obj =>
          some
            { s with
              store :=
                s.store.putPlugin name { obj with status := some status } }
  | .writeSet obj =>
      match obj.metadata.namespace_, obj.metadata.name with
      | some ns, some name =>
          if s.store.admits libs obj = .ok () then
            some (s.putSet (ns, name) obj)
          else none
      | _, _ => none
  | .start key ans =>
      match s.running key, s.sets key with
      | none, some v =>
          some
            (s.setRunning key
              (some { version := v, pending := passProjections ans v.obj }))
      | _, _ => none
  | .project key =>
      match s.running key with
      | none => none
      | some r =>
          match r.pending with
          | [] => none
          | p :: rest => some (s.project key r p rest)
  | .stop key => some (s.setRunning key none)

def system (libs : AdmissionLibs) : System State Action where
  init s :=
    s.store.tenants = [] ∧ (∀ name, s.store.plugins name = none) ∧
      (∀ key, s.sets key = none) ∧ (∀ key, s.running key = none) ∧
      s.projected = []
  step := State.step libs

/-! ## What is allowed -/

/-- The owner of the set's namespace, if it has one, lets the plugin in. -/
def Allowed (api : TenantApi) (store : Store) (set : MCPGPluginSet)
    (pluginName entryId : String) : Prop :=
  ∀ ns ∈ set.metadata.namespace_,
    ∀ tenant ∈ owningTenant api (.ok store.tenants) ns,
      api.pluginAllowed tenant.spec pluginName entryId
        (imageOf (.ok (store.plugins pluginName))) = true

/-- By the store at the moment of the apply. -/
def Projection.AllowedNow (api : TenantApi) (p : Projection) : Prop :=
  Allowed api p.now p.version.obj p.entry.pluginName p.entry.entryId

/-- By the store the set was admitted against. -/
def Projection.AllowedWhenAdmitted (api : TenantApi) (p : Projection) :
    Prop :=
  Allowed api p.version.admittedAt p.version.obj p.entry.pluginName
    p.entry.entryId

/-- Neither the tenants nor the image have changed in between. -/
def Projection.Undisturbed (p : Projection) : Prop :=
  p.now.tenants = p.version.admittedAt.tenants ∧
    imageOf (.ok (p.now.plugins p.entry.pluginName)) =
      imageOf (.ok (p.version.admittedAt.plugins p.entry.pluginName))

/-- Every entry of the version was let in. -/
def Version.Admitted (api : TenantApi) (v : Version) : Prop :=
  ∀ entry ∈ v.obj.spec.entries,
    Allowed api v.admittedAt v.obj entry.pluginRef entry.id

structure Inv (api : TenantApi) (s : State) : Prop where
  sets : ∀ key, ∀ v ∈ s.sets key, v.Admitted api
  running : ∀ key, ∀ r ∈ s.running key, ∀ p ∈ r.pending,
    Allowed api r.version.admittedAt r.version.obj p.1.pluginName p.1.entryId
  projected : ∀ p ∈ s.projected, p.AllowedWhenAdmitted api

section Histories

variable {libs : AdmissionLibs} {api : TenantApi} {s s' : State}
  {key : String × String}

theorem admitted_of_admits {store : Store} {obj : MCPGPluginSet}
    (h : store.admits libs obj = .ok ()) :
    Version.Admitted libs.tenant { obj := obj, admittedAt := store } := by
  intro entry hentry ns hns tenant howner
  exact pluginAllowed_of_admitPluginSet h hns howner entry hentry

theorem allowed_of_mem_passProjections {ans : SetAnswers} {v : Version}
    (hv : v.Admitted api) {p : ResolvedEntry × Secret}
    (hp : p ∈ passProjections ans v.obj) :
    Allowed api v.admittedAt v.obj p.1.pluginName p.1.entryId := by
  unfold passProjections at hp
  split at hp
  · obtain ⟨entry, hentry, _, hname, hid⟩ :=
      entry_of_mem_resolved (mem_of_mem_projections hp)
    rw [hname, hid]
    exact hv entry hentry
  · cases hp

theorem inv_setRunning {o : Option Running} (hinv : Inv api s)
    (h : ∀ r ∈ o, ∀ p ∈ r.pending,
      Allowed api r.version.admittedAt r.version.obj p.1.pluginName
        p.1.entryId) : Inv api (s.setRunning key o) where
  sets := hinv.sets
  running := by
    intro key' r hr
    unfold State.setRunning at hr
    dsimp only at hr
    by_cases hkey : key' = key
    · rw [hkey, Function.update_self] at hr
      exact h r hr
    · rw [Function.update_of_ne hkey] at hr
      exact hinv.running key' r hr
  projected := hinv.projected

theorem inv_project {r : Running} {p : ResolvedEntry × Secret}
    {rest : List (ResolvedEntry × Secret)} (hinv : Inv api s)
    (hr : s.running key = some r) (hpending : r.pending = p :: rest) :
    Inv api (s.project key r p rest) := by
  have hallowed := hinv.running key r hr
  rw [hpending] at hallowed
  have hset : Inv api
      (s.setRunning key (some { r with pending := rest })) := by
    refine inv_setRunning hinv ?_
    rintro _ ⟨⟩ q hq
    exact hallowed q (List.mem_cons_of_mem _ hq)
  refine ⟨hset.sets, hset.running, fun q hq => ?_⟩
  rcases List.mem_append.mp hq with hold | hnew
  · exact hinv.projected q hold
  · rw [List.mem_singleton.mp hnew]
    exact hallowed p List.mem_cons_self

theorem inv_step {a : Action} (hinv : Inv libs.tenant s)
    (h : s.step libs a = some s') : Inv libs.tenant s' := by
  cases a with
  | writeTenant obj =>
      dsimp only [State.step] at h
      split at h
      · cases h
        exact ⟨hinv.sets, hinv.running, hinv.projected⟩
      · cases h
  | writePlugin obj =>
      dsimp only [State.step] at h
      split at h
      · cases h
      · split at h
        · cases h
          exact ⟨hinv.sets, hinv.running, hinv.projected⟩
        · cases h
  | reportPlugin name status =>
      dsimp only [State.step] at h
      split at h
      · cases h
      · cases h
        exact ⟨hinv.sets, hinv.running, hinv.projected⟩
  | writeSet obj =>
      dsimp only [State.step] at h
      split at h
      · next ns name _ _ =>
          split at h
          · next hadmits =>
              cases h
              refine ⟨fun key v hv => ?_, hinv.running, hinv.projected⟩
              unfold State.putSet at hv
              dsimp only at hv
              by_cases hkey : key = (ns, name)
              · rw [hkey, Function.update_self] at hv
                cases hv
                exact admitted_of_admits hadmits
              · rw [Function.update_of_ne hkey] at hv
                exact hinv.sets key v hv
          · cases h
      · cases h
  | start key ans =>
      dsimp only [State.step] at h
      split at h
      · next v _ hv =>
          cases h
          refine inv_setRunning hinv ?_
          rintro _ ⟨⟩ p hp
          exact allowed_of_mem_passProjections (hinv.sets key v hv) hp
      · cases h
  | project key =>
      dsimp only [State.step] at h
      split at h
      · cases h
      next r hr =>
      split at h
      · cases h
      next p rest hpending =>
      cases h
      exact inv_project hinv hr hpending
  | stop key =>
      cases h
      exact inv_setRunning hinv fun _ hr => nomatch hr

theorem inv_init (h : (system libs).init s) : Inv libs.tenant s := by
  obtain ⟨_, _, hsets, hrunning, hprojected⟩ := h
  constructor
  · intro key
    rw [hsets]
    exact fun _ hv => nomatch hv
  · intro key
    rw [hrunning]
    exact fun _ hr => nomatch hr
  · rw [hprojected]
    exact fun _ hp => nomatch hp

/-- Whatever a pass projects was allowed when its version of the set was
admitted, and still is where tenants and image are as they were then. -/
theorem projected_allowedWhenAdmitted
    (h : Reachable (system libs) anyStep s) :
    ∀ p ∈ s.projected, p.AllowedWhenAdmitted libs.tenant ∧
      (p.Undisturbed → p.AllowedNow libs.tenant) := by
  have hinv : Inv libs.tenant s :=
    h.invariant (fun _ hinit => inv_init hinit)
      fun _ _ _ hinv _ hstep => inv_step hinv hstep
  intro p hp
  have hadmitted := hinv.projected p hp
  refine ⟨hadmitted, fun ⟨htenants, himage⟩ ns hns tenant howner => ?_⟩
  rw [htenants] at howner
  rw [himage]
  exact hadmitted ns hns tenant howner

end Histories

/-! ## A tenant that is edited -/

namespace Sample

def libs : AdmissionLibs where
  tenant :=
    { ownsNamespace := fun spec ns => spec.namespaces.contains ns
      pluginAllowed := fun spec pluginName id image =>
        spec.allowedPlugins.any fun a =>
          a.name == some pluginName || a.name == some id ||
            a.registryPrefix.any fun pre =>
              image.any fun i => pre.toList.isPrefixOf i.toList
      overlappingNamespaces := fun spec other =>
        spec.namespaces.filter other.namespaces.contains }
  capability := { parseError := fun _ => none, knownNames := [] }
  protocol :=
    { allKinds := ["identity_provider"], regexError := fun _ => none }

def tenantAllowing (matcher : AllowedPlugin) : MCPGTenant where
  metadata := { name := some "team-payments" }
  spec := { namespaces := ["payments"], allowedPlugins := [matcher] }

/-- Lets in what the vendor publishes. -/
def tenant : MCPGTenant :=
  tenantAllowing { registryPrefix := some "ghcr.io/mcpg-dev/" }

/-- Lets in another plugin alone. -/
def tightened : MCPGTenant := tenantAllowing { name := some "audit-log" }

def plugin : MCPGPlugin where
  metadata := { name := some "identity-workload" }
  spec :=
    { pluginId := "dev.mcpg.identity.workload", version := "1.2.3"
      pluginClass := "identity_provider"
      oci :=
        { image := "ghcr.io/mcpg-dev/identity-workload:1.2.3@sha256:abcd1234"
          pullSecretRef := none, mirrorRef := none }
      trust :=
        { signingKeyRef := { secretName := "release-trust", key := "pub" }
          cosignIdentity := none, slsaProvenance := none } }
  status := none

def verified : MCPGPluginStatus :=
  { conditions :=
      [{ type := CType.ready, status := "True"
         reason := Reasons.reconciled, message := ""
         observedGeneration := some 1 }]
    resolvedDigest := some "abcd1234"
    artefactSecretName := some "plugin-identity-workload" }

def set : MCPGPluginSet where
  metadata :=
    { name := some "secure", namespace_ := some "payments"
      finalizers := some [operatorFinalizer], uid := some "6f1c" }
  spec :=
    { entries :=
        [{ id := "dev.mcpg.identity.workload"
           pluginRef := "identity-workload", enabled := true
           config := none }] }

def answers : SetAnswers where
  addFinalizer := .ok ()
  removeFinalizer := .ok ()
  getPlugin _ := .ok (some { plugin with status := some verified })
  ensureTenantSecretBinding := .ok ()
  getSource _ :=
    .ok
      (some
        { name := some "plugin-identity-workload"
          namespace_ := some operatorNamespace })
  applySecret _ := .ok ()
  applyConfigMap := .ok ()
  listSecrets := .ok []
  now := 0

def start : State where
  store := { tenants := [], plugins := fun _ => none }
  sets _ := none
  running _ := none
  projected := []

theorem init_start : (system libs).init start :=
  ⟨rfl, fun _ => rfl, fun _ => rfl, fun _ => rfl, rfl⟩

/-- Tenant, plugin and set are written, in this order. -/
def written : List Action :=
  [.writeTenant tenant, .writePlugin plugin,
    .reportPlugin "identity-workload" verified, .writeSet set]

def pass : List Action :=
  [.start ("payments", "secure") answers, .project ("payments", "secure")]

/-- What the allowlist is asked about a projection, and of whom. -/
structure Question where
  namespace_ : Option String
  tenants : List MCPGTenant
  pluginName : String
  entryId : String
  image : Option String
  deriving DecidableEq

def question (p : Projection) : Question where
  namespace_ := p.version.obj.metadata.namespace_
  tenants := p.now.tenants
  pluginName := p.entry.pluginName
  entryId := p.entry.entryId
  image := imageOf (.ok (p.now.plugins p.entry.pluginName))

/-- The plugin's own question, of the tenant as it was tightened. -/
def refused : Question where
  namespace_ := some "payments"
  tenants := [tightened]
  pluginName := "identity-workload"
  entryId := "dev.mcpg.identity.workload"
  image := some plugin.spec.oci.image

end Sample

/-- The tenant is left as it was: the pass projects, and the plugin is
allowed. -/
theorem projected_allowedWhenAdmitted_written :
    ∃ s, (system Sample.libs).run Sample.start
        (Sample.written ++ Sample.pass) = some s ∧
      s.projected.length = 1 ∧
      ∀ p ∈ s.projected, p.AllowedWhenAdmitted Sample.libs.tenant ∧
        (p.Undisturbed → p.AllowedNow Sample.libs.tenant) := by
  have hrun : ((system Sample.libs).run Sample.start
      (Sample.written ++ Sample.pass)).map (·.projected.length) =
        some 1 := by
    decide +kernel
  obtain ⟨s, hs, hlength⟩ := Option.map_eq_some_iff.mp hrun
  exact ⟨s, hs, hlength, projected_allowedWhenAdmitted
    (.of_run (.init Sample.init_start) (System.permitted_anyStep _ _ _) hs)⟩

/-- The tenant is edited between the set's admission and the pass, and no
longer allows what the pass projects. -/
theorem not_allowedNow_tightened :
    ∃ s, Reachable (system Sample.libs) anyStep s ∧
      ¬ ∀ p ∈ s.projected, p.AllowedNow Sample.libs.tenant := by
  have hrun : ((system Sample.libs).run Sample.start
      (Sample.written ++ .writeTenant Sample.tightened ::
        Sample.pass)).map (·.projected.map Sample.question) =
      some [Sample.refused] := by
    decide +kernel
  obtain ⟨s, hs, hquestions⟩ := Option.map_eq_some_iff.mp hrun
  refine ⟨s, .of_run (.init Sample.init_start)
    (System.permitted_anyStep _ _ _) hs, fun hallowed => ?_⟩
  obtain ⟨p, hp, hquestion⟩ : ∃ p ∈ s.projected,
      Sample.question p = Sample.refused :=
    List.mem_map.mp (hquestions ▸ List.mem_singleton_self _)
  obtain ⟨hns, htenants, hname, hid, himage⟩ := by
    simpa only [Sample.question, Sample.refused, Sample.Question.mk.injEq]
      using hquestion
  have hnow := hallowed p hp
  unfold Projection.AllowedNow Allowed at hnow
  rw [hns, htenants, himage, hname, hid] at hnow
  exact absurd (hnow "payments" rfl Sample.tightened rfl) (by decide +kernel)

end McpgOperator.Allowlist
