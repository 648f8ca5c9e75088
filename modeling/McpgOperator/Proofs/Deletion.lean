import McpgOperator.Lib.Ownership
import McpgOperator.Lib.Transition
import McpgOperator.Proofs.CoordinationSecret
import McpgOperator.Proofs.TrustGate
import McpgOperator.RevocationList.Reconcile

/-!
# What a deletion leaves behind

A plugin, a revocation list and a managed cluster make objects in other
scopes than their own, and none of these names an owner: the renderers of
the artefact Secret, of the fan-out ConfigMap and of the coordinator's
children set no ownerReferences. The deletion branch of the first two
controllers takes the opposite for granted and deletes nothing. That of the
cluster names every child any pass can have made, whatever its spec was, but
only if the spec still asks for a coordinator.
-/

namespace McpgOperator.Deletion

open McpgOperator.Kube McpgOperator.Cluster Transition Ownership
open McpgOperator.Plugin (MCPGPlugin PluginLibs PluginAnswers
  MCPGRevocationList)
open McpgOperator.RevocationList (RevocationLibs ListAnswers)

variable {Backend Managed : Type}

/-! ## What the effects of a pass do to the children -/

structure ChildKey where
  kind : ManagedKind
  namespace_ : String
  name : String
  deriving DecidableEq, Repr

abbrev ChildOp := Op ChildKey String

def secretKey (secret : Secret) : ChildKey :=
  { kind := .secret, namespace_ := secret.namespace_.getD ""
    name := secret.name.getD "" }

/-- An apply of an artefact Secret that takes effect; one that is answered
by an error does when `lands` says so. -/
def pluginOp (lands : Bool) : Plugin.Effect → Option ChildOp
  | .applySecret secret answer =>
      if answer.isOk || lands then some (.create (secretKey secret) [])
      else none
  | _ => none

def listOp (ans : ListAnswers) (lands : String → Bool) :
    RevocationList.Effect → Option ChildOp
  | .applyConfigMap ns cm =>
      if (ans.applyConfigMap ns).isOk || lands ns then
        some (.create
          { kind := .configMap, namespace_ := ns
            name := cm.name.getD "" } [])
      else none
  | _ => none

def clusterOp : ManagedEffect → Option ChildOp
  | .apply child true =>
      some (.create
        { kind := child.kind, namespace_ := child.namespace_
          name := child.name } [])
  | .applySecret secret true => some (.create (secretKey secret) [])
  | .delete kind name true =>
      some (.delete
        { kind := kind, namespace_ := defaultOperatorNamespace
          name := name })
  | _ => none

/-! ## The life of one object -/

structure Libs (Backend Managed : Type) where
  plugin : PluginLibs
  list : RevocationLibs
  cluster : ClusterLibs Backend Managed
  managed : ManagedApi Backend Managed

/-- A pass over an object of one of the three kinds. -/
inductive ParentPass (Backend Managed : Type)
  | plugin (obj : MCPGPlugin) (ans : PluginAnswers) (lands : Bool)
  | revocationList (obj : MCPGRevocationList) (ans : ListAnswers)
      (lands : String → Bool)
  | cluster (obj : MCPGCluster Backend Managed) (ans : ClusterAnswers)
      (managed : ManagedAnswers) (deletes : ManagedKind → String → Bool)

inductive ParentKind
  | plugin
  | revocationList
  | cluster
  deriving DecidableEq, Repr

namespace ParentPass

def kind : ParentPass Backend Managed → ParentKind
  | .plugin .. => .plugin
  | .revocationList .. => .revocationList
  | .cluster .. => .cluster

def metadata : ParentPass Backend Managed → ObjectMeta
  | .plugin obj .. => obj.metadata
  | .revocationList obj .. => obj.metadata
  | .cluster obj .. => obj.metadata

/-- The answer to `remove_finalizer` is not an error. -/
def finalizerRemoved : ParentPass Backend Managed → Bool
  | .plugin _ ans _ => ans.removeFinalizer.isOk
  | .revocationList _ ans _ => ans.removeFinalizer.isOk
  | .cluster _ ans .. => ans.removeFinalizer.isOk

/-- What the pass does to the children, in order. -/
def allOps (libs : Libs Backend Managed) :
    ParentPass Backend Managed → List ChildOp
  | .plugin obj ans lands =>
      (Plugin.reconcileInner libs.plugin ans obj).trace.filterMap
        (pluginOp lands)
  | .revocationList obj ans lands =>
      (RevocationList.reconcileInner libs.list ans obj).trace.filterMap
        (listOp ans lands)
  | .cluster obj ans managed deletes =>
      (childEffects libs.cluster libs.managed ans managed deletes
        obj).filterMap clusterOp

end ParentPass

/-- One pass, cut short after some of its writes if the operator dies. The
finalizer may be gone though the answer was an error. -/
structure LifePass (Backend Managed : Type) where
  pass : ParentPass Backend Managed
  crashAfter : Option Nat
  removalLands : Bool

def LifePass.ops (libs : Libs Backend Managed)
    (p : LifePass Backend Managed) : List ChildOp :=
  match p.crashAfter with
  | none => p.pass.allOps libs
  | some n => (p.pass.allOps libs).take n

/-- The pass comes to the removal of the finalizer, and removes it. -/
def LifePass.releases (p : LifePass Backend Managed) : Bool :=
  p.crashAfter.isNone && p.pass.metadata.name.isSome &&
    p.pass.metadata.deletionTimestamp.isSome &&
    (p.pass.finalizerRemoved || p.removalLands)

structure State where
  children : Objects ChildKey String
  /-- Some child has been applied. -/
  applied : Bool
  /-- The finalizer has been removed. -/
  released : Bool
  deriving DecidableEq

def State.initial : State :=
  { children := [], applied := false, released := false }

def isCreate : ChildOp → Bool
  | .create .. => true
  | .delete _ => false

/-- Passes over one object, until its finalizer is gone. -/
def life (libs : Libs Backend Managed) :
    System State (LifePass Backend Managed) where
  init s := s = State.initial
  step s p :=
    if s.released then none
    else
      some
        { children := run s.children (p.ops libs)
          applied := s.applied || (p.ops libs).any isCreate
          released := p.releases }

/-- The passes are over the object of this kind and name. -/
def About (kind : ParentKind) (name : String) (_ : State)
    (p : LifePass Backend Managed) : Prop :=
  p.pass.kind = kind ∧ p.pass.metadata.name = some name

/-- Whatever happened to an object of this kind before it was deleted,
nothing that was created for it survives the collection. -/
def LeavesNothing (libs : Libs Backend Managed) (kind : ParentKind) :
    Prop :=
  ∀ name gone s, Reachable (life libs) (About kind name) s →
    s.released = true → survivors gone s.children = []

/-- What a deletion has to find: for a plugin or a list that nothing was
ever applied; for a cluster that its spec still has the managed block and
that every child there is gets deleted. -/
def Cleans (s : State) (p : LifePass Backend Managed) : Prop :=
  match p.pass with
  | .plugin .. => s.applied = false
  | .revocationList .. => s.applied = false
  | .cluster obj _ _ deletes =>
      ∀ o ∈ s.children,
        obj.spec.managed.isSome = true ∧
          deletes o.1.kind o.1.name = true

/-- The passes whose deletion, if they are one, finds that. -/
def CleanLife (kind : ParentKind) (name : String) (s : State)
    (p : LifePass Backend Managed) : Prop :=
  About kind name s p ∧ (p.releases = true → Cleans s p)

/-! ## What one pass does -/

section Pass

variable (libs : Libs Backend Managed)

/-- The children the prune of a cluster of that name names. -/
def teardownKeys (name : String) : List ChildKey :=
  (managedTeardown libs.cluster libs.managed name).map fun (kind, child) =>
    { kind := kind, namespace_ := defaultOperatorNamespace, name := child }

/-- A child that names no owner; that of a cluster is one the prune
names. -/
def Creates (kind : ParentKind) (name : String) (op : ChildOp) : Prop :=
  ∃ key, op = .create key [] ∧
    (kind = .cluster → key ∈ teardownKeys libs name)

variable {libs} {kind : ParentKind} {name : String} {s s' : State}
  {p : LifePass Backend Managed}

theorem creates_of_pluginOp {lands : Bool} {e : Plugin.Effect}
    {op : ChildOp} (h : pluginOp lands e = some op) :
    Creates libs .plugin name op := by
  unfold pluginOp at h
  split at h
  · split at h
    · exact ⟨_, (Option.some.inj h).symm, nofun⟩
    · cases h
  · cases h

theorem creates_of_listOp {ans : ListAnswers} {lands : String → Bool}
    {e : RevocationList.Effect} {op : ChildOp}
    (h : listOp ans lands e = some op) :
    Creates libs .revocationList name op := by
  unfold listOp at h
  split at h
  · split at h
    · exact ⟨_, (Option.some.inj h).symm, nofun⟩
    · cases h
  · cases h

theorem creates_of_clusterOp {e : ManagedEffect} {op : ChildOp}
    (he : Provisions libs.cluster libs.managed name e)
    (h : clusterOp e = some op) : Creates libs .cluster name op := by
  unfold clusterOp at h
  split at h
  · next child =>
      refine ⟨_, (Option.some.inj h).symm, fun _ => ?_⟩
      rw [he.1]
      exact List.mem_map_of_mem he.2
  · next secret =>
      refine ⟨_, (Option.some.inj h).symm, fun _ => ?_⟩
      have hname : (.secret,
          libs.cluster.cluster.managedCoordinationSecretName name) ∈
          managedTeardown libs.cluster libs.managed name := by
        simp [managedTeardown]
      simp only [secretKey, he.1, he.2, Option.getD_some]
      exact List.mem_map_of_mem hname
  · exact he.elim
  · cases h

/-- The passes of all but a deletion only create. -/
theorem creates_of_allOps (habout : About kind name s p)
    (h : kind = .cluster →
      p.pass.metadata.deletionTimestamp.isSome = false) :
    ∀ op ∈ p.pass.allOps libs, Creates libs kind name op := by
  obtain ⟨hkind, hname⟩ := habout
  intro op hop
  cases hpass : p.pass with
  | plugin obj ans lands =>
      rw [hpass] at hkind hop
      subst hkind
      obtain ⟨e, _, he⟩ := List.mem_filterMap.mp hop
      exact creates_of_pluginOp he
  | revocationList obj ans lands =>
      rw [hpass] at hkind hop
      subst hkind
      obtain ⟨e, _, he⟩ := List.mem_filterMap.mp hop
      exact creates_of_listOp he
  | cluster obj ans managed deletes =>
      rw [hpass] at hkind hname hop h
      subst hkind
      have hlive : obj.metadata.deletionTimestamp.isSome = false := h rfl
      have hnamed : obj.metadata.name = some name := hname
      obtain ⟨e, hmem, he⟩ := List.mem_filterMap.mp hop
      unfold childEffects at hmem
      rw [hnamed] at hmem
      dsimp only at hmem
      rw [hlive, if_neg Bool.false_ne_true] at hmem
      split at hmem
      · cases hmem
      · split at hmem
        · exact creates_of_clusterOp
            (provisions_reconcileManaged _ _ _ _ _ e hmem) he
        · cases hmem

/-- What the deletion of a cluster takes out. -/
def deletedKeys (libs : Libs Backend Managed)
    (obj : MCPGCluster Backend Managed)
    (deletes : ManagedKind → String → Bool) (name : String) :
    List ChildKey :=
  (teardownKeys libs name).filter fun key =>
    obj.spec.managed.isSome && deletes key.kind key.name

theorem mem_deletedKeys {obj : MCPGCluster Backend Managed}
    {deletes : ManagedKind → String → Bool} {key : ChildKey} :
    key ∈ deletedKeys libs obj deletes name ↔
      key ∈ teardownKeys libs name ∧ obj.spec.managed.isSome = true ∧
        deletes key.kind key.name = true := by
  simp [deletedKeys, List.mem_filter]

/-- The deletes of a prune, by the objects they take out. -/
theorem clusterOps_prune (deletes : ManagedKind → String → Bool)
    (children : List (ManagedKind × String)) :
    (children.map fun (kind, name) =>
        ManagedEffect.delete kind name (deletes kind name)).filterMap
          clusterOp =
      ((children.map fun (kind, name) =>
        ({ kind := kind, namespace_ := defaultOperatorNamespace
           name := name } : ChildKey)).filter
          fun key => deletes key.kind key.name).map .delete := by
  induction children with
  | nil => rfl
  | cons child children ih =>
      obtain ⟨kind, name⟩ := child
      rw [List.map_cons, List.filterMap_cons, ih]
      cases hlands : deletes kind name with
      | false => simp [clusterOp, hlands]
      | true => simp [clusterOp, hlands]

theorem clusterOps_of_deleting {obj : MCPGCluster Backend Managed}
    {ans : ClusterAnswers} {managed : ManagedAnswers}
    {deletes : ManagedKind → String → Bool}
    (hname : obj.metadata.name = some name)
    (hdel : obj.metadata.deletionTimestamp.isSome = true) :
    (ParentPass.cluster obj ans managed deletes).allOps libs =
      (deletedKeys libs obj deletes name).map .delete := by
  show (childEffects libs.cluster libs.managed ans managed deletes
    obj).filterMap clusterOp = _
  unfold childEffects
  rw [hname]
  dsimp only
  rw [if_pos hdel]
  unfold deletedKeys
  split
  · next hmanaged =>
      simp only [hmanaged, Bool.true_and]
      exact clusterOps_prune deletes _
  · next hmanaged =>
      rw [Bool.not_eq_true] at hmanaged
      simp [hmanaged]

theorem pluginOps_of_deleting {obj : MCPGPlugin} {ans : PluginAnswers}
    {lands : Bool} (hname : obj.metadata.name = some name)
    (hdel : obj.metadata.deletionTimestamp.isSome = true) :
    (ParentPass.plugin obj ans lands).allOps libs = [] := by
  show (Plugin.reconcileInner libs.plugin ans obj).trace.filterMap _ = _
  unfold Plugin.reconcileInner
  rw [hname]
  dsimp only
  rw [if_pos hdel]
  split <;> rfl

theorem listOps_of_deleting {obj : MCPGRevocationList} {ans : ListAnswers}
    {lands : String → Bool} (hname : obj.metadata.name = some name)
    (hdel : obj.metadata.deletionTimestamp.isSome = true) :
    (ParentPass.revocationList obj ans lands).allOps libs = [] := by
  show (RevocationList.reconcileInner libs.list ans obj).trace.filterMap
    _ = _
  unfold RevocationList.reconcileInner
  rw [hname]
  dsimp only
  rw [if_pos hdel]
  split <;> rfl

/-! ## The invariant -/

/-- No child names an owner, those of a cluster are among the ones its prune
names, and a plugin or a list loses none. -/
structure Inv (libs : Libs Backend Managed) (kind : ParentKind)
    (name : String) (s : State) : Prop where
  child : ∀ o ∈ s.children,
    o.2 = [] ∧ (kind = .cluster → o.1 ∈ teardownKeys libs name)
  applied : kind ≠ .cluster → (s.children = [] ↔ s.applied = false)

theorem ops_subset {op : ChildOp} (h : op ∈ p.ops libs) :
    op ∈ p.pass.allOps libs := by
  unfold LifePass.ops at h
  split at h
  · exact h
  · exact List.mem_of_mem_take h

/-- Whatever a pass is, what it creates is as the invariant has it. -/
theorem created_of_mem (habout : About kind name s p) {key : ChildKey}
    {owners : List String} (h : .create key owners ∈ p.ops libs) :
    owners = [] ∧ (kind = .cluster → key ∈ teardownKeys libs name) := by
  have hall := ops_subset h
  by_cases hsafe : kind = .cluster →
      p.pass.metadata.deletionTimestamp.isSome = false
  · obtain ⟨key', heq, hnamed⟩ := creates_of_allOps habout hsafe _ hall
    cases heq
    exact ⟨rfl, hnamed⟩
  · -- the deletion of a cluster creates nothing
    obtain ⟨hkind, hdel⟩ := Classical.not_imp.mp hsafe
    rw [Bool.not_eq_false] at hdel
    obtain ⟨hpass, hname⟩ := habout
    cases hp : p.pass with
    | plugin obj ans lands =>
        rw [hp, hkind] at hpass
        cases hpass
    | revocationList obj ans lands =>
        rw [hp, hkind] at hpass
        cases hpass
    | cluster obj ans managed deletes =>
        rw [hp] at hall hdel hname
        rw [clusterOps_of_deleting hname hdel] at hall
        obtain ⟨key', _, heq⟩ := List.mem_map.mp hall
        cases heq

theorem inv_initial : Inv libs kind name State.initial :=
  ⟨nofun, fun _ => ⟨fun _ => rfl, fun _ => rfl⟩⟩

theorem inv_step (hinv : Inv libs kind name s)
    (habout : About kind name s p) (hstep : (life libs).step s p = some s') :
    Inv libs kind name s' := by
  simp only [life] at hstep
  split at hstep
  · cases hstep
  cases hstep
  constructor
  · exact forall_run hinv.child fun key owners hmem =>
      created_of_mem habout hmem
  · intro hkind
    have hcreates : ∀ op ∈ p.ops libs, ∃ key owners,
        op = .create key owners := by
      intro op hop
      obtain ⟨key, heq, _⟩ := creates_of_allOps habout
        (fun h => absurd h hkind) op (ops_subset hop)
      exact ⟨key, [], heq⟩
    have hany : (p.ops libs).any isCreate = false ↔ p.ops libs = [] := by
      rw [List.any_eq_false]
      constructor
      · intro h
        refine List.eq_nil_iff_forall_not_mem.mpr fun op hop => ?_
        obtain ⟨key, owners, rfl⟩ := hcreates op hop
        exact h _ hop rfl
      · intro h op hop
        rw [h] at hop
        cases hop
    show run s.children (p.ops libs) = [] ↔
      (s.applied || (p.ops libs).any isCreate) = false
    rw [run_eq_nil_of_creates hcreates, hinv.applied hkind,
      Bool.or_eq_false_iff, hany]

theorem inv_of_reachable
    (h : Reachable (life libs) (About kind name) s) :
    Inv libs kind name s :=
  h.invariant (fun _ heq => heq ▸ inv_initial)
    fun _ _ _ hinv habout hstep => inv_step hinv habout hstep

/-! ## The releasing pass -/

/-- A pass that releases the finalizer is a deletion, and is not cut
short. -/
theorem of_releases (libs : Libs Backend Managed)
    (h : p.releases = true) :
    p.ops libs = p.pass.allOps libs ∧
      p.pass.metadata.deletionTimestamp.isSome = true := by
  unfold LifePass.releases at h
  simp only [Bool.and_eq_true] at h
  obtain ⟨⟨⟨hcrash, _⟩, hdel⟩, _⟩ := h
  refine ⟨?_, hdel⟩
  unfold LifePass.ops
  rw [Option.isNone_iff_eq_none.mp hcrash]

/-- What is left of the children when the finalizer goes. -/
theorem children_of_releases (hinv : Inv libs kind name s)
    (habout : About kind name s p) (hreleases : p.releases = true) :
    run s.children (p.ops libs) = [] ↔ Cleans s p := by
  obtain ⟨hops, hdel⟩ := of_releases libs hreleases
  obtain ⟨hkind, hname⟩ := habout
  rw [hops]
  unfold Cleans
  cases hp : p.pass with
  | plugin obj ans lands =>
      rw [hp] at hkind hname hdel
      subst hkind
      rw [pluginOps_of_deleting hname hdel, run_nil]
      exact hinv.applied nofun
  | revocationList obj ans lands =>
      rw [hp] at hkind hname hdel
      subst hkind
      rw [listOps_of_deleting hname hdel, run_nil]
      exact hinv.applied nofun
  | cluster obj ans managed deletes =>
      rw [hp] at hkind hname hdel
      subst hkind
      rw [clusterOps_of_deleting hname hdel, List.eq_nil_iff_forall_not_mem]
      constructor
      · intro hnone o ho
        by_contra hkept
        refine hnone o (mem_run_deletes.mpr ⟨ho, fun hdeleted => ?_⟩)
        exact hkept (mem_deletedKeys.mp hdeleted).2
      · intro hall o ho
        obtain ⟨hmem, hkept⟩ := mem_run_deletes.mp ho
        exact hkept (mem_deletedKeys.mpr
          ⟨(hinv.child o hmem).2 rfl, hall o hmem⟩)

theorem survivors_of_inv (hinv : Inv libs kind name s)
    (gone : String → Bool) : survivors gone s.children = s.children :=
  survivors_of_unowned fun o ho => (hinv.child o ho).1

/-- An object that has been released was so by its last pass. -/
theorem releases_of_step (hstep : (life libs).step s p = some s')
    (h : s'.released = true) :
    p.releases = true ∧ s'.children = run s.children (p.ops libs) := by
  simp only [life] at hstep
  split at hstep
  · cases hstep
  · cases hstep
    exact ⟨h, rfl⟩

end Pass

/-! ## What survives the collection -/

/-- Where every deletion finds what it has to, nothing survives the
collection; and a deletion that leaves nothing has found it. -/
theorem leavesNothing_iff (libs : Libs Backend Managed) (kind : ParentKind)
    (name : String) (gone : String → Bool) :
    (∀ s, Reachable (life libs) (CleanLife kind name) s →
      s.released = true → survivors gone s.children = []) ∧
    (∀ s p s', Reachable (life libs) (About kind name) s →
      About kind name s p → (life libs).step s p = some s' →
      s'.released = true →
      (survivors gone s'.children = [] ↔ Cleans s p)) := by
  have hexact : ∀ s p s', Reachable (life libs) (About kind name) s →
      About kind name s p → (life libs).step s p = some s' →
      s'.released = true →
      (survivors gone s'.children = [] ↔ Cleans s p) := by
    intro s p s' hs habout hstep hreleased
    have hinv := inv_of_reachable hs
    obtain ⟨hreleases, hchildren⟩ := releases_of_step hstep hreleased
    rw [survivors_of_inv (inv_step hinv habout hstep), hchildren]
    exact children_of_releases hinv habout hreleases
  refine ⟨fun s hs hreleased => ?_, hexact⟩
  cases hs with
  | init heq =>
      rw [show s = State.initial from heq] at hreleased
      cases hreleased
  | step hs hclean hstep =>
      have hany := hs.mono fun _ _ (h : CleanLife kind name _ _) => h.1
      exact (hexact _ _ _ hany hclean.1 hstep hreleased).mpr
        (hclean.2 (releases_of_step hstep hreleased).1)

namespace Sample

def libs : Libs String Bool where
  plugin := Plugin.Sample.libs
  list :=
    { conditions := upsertConditions
      toRfc3339 := fun _ => "2024-01-01T00:00:00+00:00"
      toStringPretty := fun _ => "{}"
      sha256Hex := fun _ => "44136fa3" }
  cluster := CoordinationSecret.Sample.libs
  managed := CoordinationSecret.Sample.api

def uncut (pass : ParentPass String Bool) : LifePass String Bool :=
  { pass := pass, crashAfter := none, removalLands := false }

def deleting (m : ObjectMeta) : ObjectMeta :=
  { m with deletionTimestamp := some 9 }

/-- The sample plugin is pulled, and deleted. -/
def pulled : LifePass String Bool :=
  uncut (.plugin Plugin.Sample.plugin Plugin.Sample.answers false)

def pluginDeleted : LifePass String Bool :=
  uncut (.plugin
    { Plugin.Sample.plugin with
      metadata := deleting Plugin.Sample.plugin.metadata }
    Plugin.Sample.answers false)

def list : MCPGRevocationList :=
  { metadata :=
      { name := some "default", finalizers := some [operatorFinalizer] }
    spec := { version := 1, issuedAt := none, revocations := [] } }

def listAnswers : ListAnswers where
  addFinalizer := .ok ()
  removeFinalizer := .ok ()
  listGateways :=
    .ok [{ metadata := { name := some "edge", namespace_ := some "payments" }
           spec := {} }]
  applyConfigMap _ := .ok ()
  now := 0

/-- A list is fanned out to the namespace of a gateway, and deleted. -/
def fannedOut : LifePass String Bool :=
  uncut (.revocationList list listAnswers fun _ => false)

def listDeleted : LifePass String Bool :=
  uncut (.revocationList { list with metadata := deleting list.metadata }
    listAnswers fun _ => false)

/-- A coordinator is provisioned. -/
def provisioned : LifePass String Bool :=
  uncut (.cluster (CoordinationSecret.Sample.cluster false)
    CoordinationSecret.Sample.answers
    CoordinationSecret.Sample.first.managed fun _ _ => true)

/-- Its cluster is deleted, with this `managed` block in its spec. -/
def clusterDeleted (managed : Option Bool) : LifePass String Bool :=
  uncut (.cluster
    { metadata := deleting (CoordinationSecret.Sample.cluster false).metadata
      spec := { backend := "nats", managed := managed, pluginRef := none } }
    CoordinationSecret.Sample.answers
    CoordinationSecret.Sample.first.managed fun _ _ => true)

/-- The state at the end of these passes. -/
def after (passes : List (LifePass String Bool)) : State :=
  ((life libs).run State.initial passes).getD State.initial

end Sample

/-- None of the three kinds leaves nothing: the artefact Secret stays, the
ConfigMap stays, and so does a coordinator whose block was taken out of the
spec before the deletion. -/
theorem not_leavesNothing :
    ¬ LeavesNothing Sample.libs .plugin ∧
      ¬ LeavesNothing Sample.libs .revocationList ∧
      ¬ LeavesNothing Sample.libs .cluster := by
  refine ⟨fun h => ?_, fun h => ?_, fun h => ?_⟩
  · have hleft := h "workload" (fun _ => true)
      (Sample.after [Sample.pulled, Sample.pluginDeleted])
      (.step (.step (.init rfl) (a := Sample.pulled) ⟨rfl, rfl⟩ rfl)
        (a := Sample.pluginDeleted) ⟨rfl, rfl⟩ (by decide +kernel))
      (by decide +kernel)
    revert hleft
    decide +kernel
  · have hleft := h "default" (fun _ => true)
      (Sample.after [Sample.fannedOut, Sample.listDeleted])
      (.step (.step (.init rfl) (a := Sample.fannedOut) ⟨rfl, rfl⟩ rfl)
        (a := Sample.listDeleted) ⟨rfl, rfl⟩ (by decide +kernel))
      (by decide +kernel)
    revert hleft
    decide +kernel
  · have hleft := h "prod" (fun _ => true)
      (Sample.after [Sample.provisioned, Sample.clusterDeleted none])
      (.step (.step (.init rfl) (a := Sample.provisioned) ⟨rfl, rfl⟩ rfl)
        (a := Sample.clusterDeleted none) ⟨rfl, rfl⟩ (by decide +kernel))
      (by decide +kernel)
    revert hleft
    decide +kernel

/-- A coordinator whose cluster still asks for it is taken down whole. -/
theorem leavesNothing_prod :
    survivors (fun _ => true)
      (Sample.after [Sample.provisioned,
        Sample.clusterDeleted (some false)]).children = [] := by
  refine (leavesNothing_iff Sample.libs .cluster "prod" fun _ => true).1 _
    (.step (.step (.init rfl) (a := Sample.provisioned)
        ⟨⟨rfl, rfl⟩, fun h => absurd h (by decide +kernel)⟩ rfl)
      (a := Sample.clusterDeleted (some false))
      ⟨⟨rfl, rfl⟩, fun _ o _ => ⟨rfl, rfl⟩⟩ (by decide +kernel))
    (by decide +kernel)

end McpgOperator.Deletion
