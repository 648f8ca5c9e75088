import McpgOperator.Lib.Apply
import McpgOperator.Tenant.Reconcile
import Mathlib.Logic.Function.Basic

/-!
# The namespaces the tenants write to

What the apiserver keeps of the tenant controller's requests: the finalizer of
the tenant, and of each namespace the tenant's label, and the ResourceQuotas in
it. Label and quotas are written by server-side apply under one field manager,
whichever tenant a pass is for.
-/

namespace McpgOperator.Tenant

open McpgOperator.Kube McpgOperator.Admission

/-- One field, the label `mcpg.dev/tenant`. -/
abbrev LabelField := fun _ : Unit => String

/-- The keys of `spec.hard`. -/
abbrev HardField := fun _ : String => String

/-- A namespace, with its quotas by name. -/
structure Namespace where
  label : Apply.Live String LabelField
  quotas : String → Option (Apply.Live String HardField)

/-- The namespaces that exist, by name. -/
abbrev Cluster := String → Option Namespace

/-- A namespace somebody created: no label, no quota. -/
def freshNamespace : Namespace where
  label := { value := fun _ => none, owners := fun _ => ∅ }
  quotas := fun _ => none

/-- The tenant a namespace is labelled with. -/
def Namespace.tenant (n : Namespace) : Option String := n.label.value ()

/-- The limits of the quota of that name. -/
def Namespace.hard (n : Namespace) (name : String) :
    Option (String → Option String) :=
  (n.quotas name).map fun live => live.value

def labelDoc (tenant : Option String) : Apply.Doc LabelField :=
  fun _ => tenant

def hardDoc (hard : List (String × String)) : Apply.Doc HardField :=
  fun key => hard.lookup key

/-! ## The requests as the apiserver carries them out -/

def Namespace.setLabel (n : Namespace) (tenant : Option String) :
    Namespace :=
  { n with label := Apply.force fieldManager (labelDoc tenant) n.label }

def Namespace.setQuota (n : Namespace) (quota : ResourceQuota) :
    Namespace :=
  { n with
    quotas := Function.update n.quotas quota.name <| some <|
      match n.quotas quota.name with
      | none => Apply.single fieldManager (hardDoc quota.hard)
      | some live => Apply.force fieldManager (hardDoc quota.hard) live }

def Namespace.deleteQuota (n : Namespace) (name : String) : Namespace :=
  { n with quotas := Function.update n.quotas name none }

@[simp] theorem quotas_setQuota (n : Namespace) (quota : ResourceQuota) :
    (n.setQuota quota).quotas quota.name = some
      (match n.quotas quota.name with
      | none => Apply.single fieldManager (hardDoc quota.hard)
      | some live => Apply.force fieldManager (hardDoc quota.hard) live) :=
  Function.update_self ..

@[simp] theorem quotas_deleteQuota (n : Namespace) (name : String) :
    (n.deleteQuota name).quotas name = none :=
  Function.update_self ..

/-- An apply of a namespace creates it where there is none. -/
def Cluster.applyNamespace (c : Cluster) (ns : String)
    (tenant : Option String) : Cluster :=
  Function.update c ns (some (((c ns).getD freshNamespace).setLabel tenant))

/-- What is inside a namespace needs one. -/
def Cluster.modify (c : Cluster) (ns : String) (f : Namespace → Namespace) :
    Cluster :=
  Function.update c ns ((c ns).map f)

/-- A request that is carried out. -/
def Effect.act (c : Cluster) : Effect → Cluster
  | .applyLabel ns tenant _ => c.applyNamespace ns (some tenant)
  | .dropLabel ns _ => c.applyNamespace ns none
  | .applyQuota ns quota _ => c.modify ns fun n => n.setQuota quota
  | .deleteQuota ns name _ => c.modify ns fun n => n.deleteQuota name
  | .applyBinding _ _ _ | .patchStatus _ | .publish _ => c

/-- Requests carried out in order. -/
def Cluster.run (c : Cluster) (effects : List Effect) : Cluster :=
  effects.foldl Effect.act c

/-! ## The tenant in the apiserver -/

def hasFinalizer (t : MCPGTenant) : Bool :=
  t.metadata.hasFinalizer operatorFinalizer

/-- The stored tenant once the finalizer is in place. -/
def addFinalizer (t : MCPGTenant) : MCPGTenant :=
  if hasFinalizer t then t
  else
    { t with
      metadata :=
        { t.metadata with
          finalizers :=
            some (t.metadata.finalizers.getD [] ++ [operatorFinalizer]) } }

/-! ## Answers -/

/-- What a pass reads that leaves the namespaces alone. -/
structure Reading where
  counts : String → Nat × Nat × Nat
  resyncSecs : Nat
  now : DateTime

/-- Every request is answered well, and the lookups truthfully. -/
def Reading.answers (r : Reading) (c : Cluster) : TenantAnswers where
  addFinalizer := .ok ()
  removeFinalizer := .ok ()
  getNamespace := fun ns => .ok (c ns).isSome
  applyBinding := fun _ => .ok ()
  applyLabel := fun _ => .ok ()
  applyQuota := fun _ => .ok ()
  deleteQuota := fun _ => .ok ()
  dropLabel := fun _ => .ok ()
  countGateways := fun ns => .ok (r.counts ns).1
  countPluginSets := fun ns => .ok (r.counts ns).2.1
  countRoutes := fun ns => .ok (r.counts ns).2.2
  resyncSecs := r.resyncSecs
  now := r.now

def quiet : Reading where
  counts := fun _ => (0, 0, 0)
  resyncSecs := 300
  now := 0

/-! ## What a request leaves alone -/

/-- The namespace a request writes to. -/
def Effect.target : Effect → Option String
  | .applyLabel ns _ _ | .dropLabel ns _ | .applyQuota ns _ _
  | .deleteQuota ns _ _ => some ns
  | .applyBinding _ _ _ | .patchStatus _ | .publish _ => none

@[simp] theorem run_nil (c : Cluster) : c.run [] = c := rfl

@[simp] theorem run_cons (c : Cluster) (e : Effect) (es : List Effect) :
    c.run (e :: es) = (e.act c).run es := rfl

theorem run_append (c : Cluster) (es es' : List Effect) :
    c.run (es ++ es') = (c.run es).run es' :=
  List.foldl_append

theorem act_apply_of_ne {e : Effect} {ns : String}
    (h : e.target ≠ some ns) (c : Cluster) : e.act c ns = c ns := by
  cases e with
  | applyLabel ns' tenant answer =>
      exact Function.update_of_ne (fun heq => h (by rw [heq]; rfl)) _ _
  | dropLabel ns' answer =>
      exact Function.update_of_ne (fun heq => h (by rw [heq]; rfl)) _ _
  | applyQuota ns' quota answer =>
      exact Function.update_of_ne (fun heq => h (by rw [heq]; rfl)) _ _
  | deleteQuota ns' name answer =>
      exact Function.update_of_ne (fun heq => h (by rw [heq]; rfl)) _ _
  | applyBinding ns' binding answer => rfl
  | patchStatus status => rfl
  | publish evt => rfl

theorem run_apply_of_ne {es : List Effect} {ns : String}
    (h : ∀ e ∈ es, e.target ≠ some ns) (c : Cluster) :
    c.run es ns = c ns := by
  induction es generalizing c with
  | nil => rfl
  | cons e es ih =>
      obtain ⟨he, hes⟩ := List.forall_mem_cons.mp h
      rw [run_cons, ih hes, act_apply_of_ne he]

/-! ## Namespace by namespace -/

section Targets

variable {libs : TenantLibs} {ans : TenantAnswers} {name ns ns' : String}
  {quotas : Option TenantQuotas} {e : Effect}

theorem target_ensureNamespace
    (he : e ∈ ensureNamespace libs ans ns name quotas)
    (htarget : e.target = some ns') : ns' = ns := by
  unfold ensureNamespace ensureTenantSecretBinding ensureNamespaceLabel
    ensureResourceQuota at he
  split at he <;> split at he <;> grind [Effect.target]

theorem target_teardownNamespace (he : e ∈ teardownNamespace ans ns name)
    (htarget : e.target = some ns') : ns' = ns := by
  unfold teardownNamespace at he
  grind [Effect.target]

end Targets

section FlatMap

variable {f : String → List Effect}
  (htarget : ∀ ns, ∀ e ∈ f ns, ∀ ns', e.target = some ns' → ns' = ns)

include htarget

theorem run_flatMap_of_not_mem {namespaces : List String} {ns : String}
    (h : ns ∉ namespaces) (c : Cluster) :
    c.run (namespaces.flatMap f) ns = c ns := by
  refine run_apply_of_ne (fun e he heq => ?_) c
  obtain ⟨ns', hmem, he⟩ := List.mem_flatMap.mp he
  rw [htarget ns' e he ns heq] at h
  exact h hmem

/-- What the requests for one namespace establish there, whatever they
established before, holds once all are carried out. -/
theorem run_flatMap_of_mem {P Q : Option Namespace → Prop}
    (hstep : ∀ c ns, P (c ns) → Q (Cluster.run c (f ns) ns))
    (hkept : ∀ o, Q o → P o) {namespaces : List String} {ns : String}
    (hmem : ns ∈ namespaces) {c : Cluster} (hstart : P (c ns)) :
    Q (c.run (namespaces.flatMap f) ns) := by
  induction namespaces generalizing c with
  | nil => cases hmem
  | cons a rest ih =>
      rw [List.flatMap_cons, run_append]
      by_cases hrest : ns ∈ rest
      · refine ih hrest ?_
        by_cases hns : ns = a
        · subst hns
          exact hkept _ (hstep c ns hstart)
        · rw [run_apply_of_ne fun e he heq => hns (htarget a e he ns heq)]
          exact hstart
      · obtain rfl : ns = a := (List.mem_cons.mp hmem).resolve_right hrest
        rw [run_flatMap_of_not_mem htarget hrest]
        exact hstep c ns hstart

end FlatMap

end McpgOperator.Tenant
