import McpgOperator.Lib.Transition
import McpgOperator.Tenant.Namespaces

/-!
# Tenants, request by request

Several tenants over one store. A create or an update is two steps: the
webhook looks at the stored tenants, and later the object is persisted, with
anything in between. A pass works from the object it started with, one request
at a time; its writes may fail, which it does not notice, but its lookups are
answered truthfully.

Adding the finalizer is part of the start: its patch tests the version that
was read. A start over a cached object is a start at the time of that object
whose first request is late.
-/

namespace McpgOperator.Tenant.Requests

open McpgOperator.Kube McpgOperator.Admission

/-- A create or update the webhook admitted: the object it replaces, if any,
and the tenants the check saw. -/
structure Checked where
  obj : MCPGTenant
  base : Option MCPGTenant
  listed : List MCPGTenant
  deriving DecidableEq

/-- What a pass has before it. -/
inductive Todo
  | look (ns : String)
  | send (e : Effect)
  | release
  deriving DecidableEq

structure Running where
  tenant : String
  quotas : Option TenantQuotas
  todo : List Todo
  deriving DecidableEq

structure State where
  tenants : List MCPGTenant
  checked : List Checked
  running : List Running
  cluster : Cluster

def find (tenants : List MCPGTenant) (name : String) : Option MCPGTenant :=
  tenants.find? fun t => t.metadata.name = some name

inductive Event
  /-- The webhook sees a create or an update. -/
  | check (obj : MCPGTenant)
  | persist (i : Nat)
  | delete (name : String) (now : DateTime)
  | start (name : String)
  /-- The next request of a pass, and whether a write takes effect. -/
  | act (i : Nat) (lands : Bool)
  | createNamespace (ns : String)
  | deleteNamespace (ns : String)
  deriving DecidableEq

/-! ## The stored tenants -/

/-- The stored tenant of that name, changed. -/
def updateTenant (tenants : List MCPGTenant) (name : String)
    (f : MCPGTenant → MCPGTenant) : List MCPGTenant :=
  tenants.map fun t => if t.metadata.name = some name then f t else t

def removeTenant (tenants : List MCPGTenant) (name : String) :
    List MCPGTenant :=
  tenants.filter fun t => t.metadata.name ≠ some name

def Checked.name (c : Checked) : String := c.obj.metadata.name.getD ""

/-- A write of what was checked goes through only on the object it was based
on. -/
def persisted (tenants : List MCPGTenant) (c : Checked) :
    List MCPGTenant :=
  if find tenants c.name = c.base then
    match c.base with
    | none => c.obj :: tenants
    | some _ =>
        updateTenant tenants c.name fun t => { t with spec := c.obj.spec }
  else tenants

def markDeleted (now : DateTime) (t : MCPGTenant) : MCPGTenant :=
  { t with metadata := { t.metadata with deletionTimestamp := some now } }

/-- A tenant without finalizer goes at once. -/
def deleted (tenants : List MCPGTenant) (name : String) (now : DateTime) :
    List MCPGTenant :=
  match find tenants name with
  | none => tenants
  | some t =>
      if hasFinalizer t then updateTenant tenants name (markDeleted now)
      else removeTenant tenants name

/-- `remove_finalizer`, by name, of whatever is stored under it. -/
def released (tenants : List MCPGTenant) (name : String) :
    List MCPGTenant :=
  match find tenants name with
  | none => tenants
  | some t =>
      if t.metadata.deletionTimestamp.isSome then removeTenant tenants name
      else
        updateTenant tenants name fun t =>
          { t with
            metadata :=
              { t.metadata with
                finalizers :=
                  t.metadata.finalizers.map
                    (·.filter (· ≠ operatorFinalizer)) } }

/-! ## A pass -/

/-- What a pass over the object sets out to do. -/
def agenda (obj : MCPGTenant) (name : String) : List Todo :=
  if obj.metadata.deletionTimestamp.isSome then
    (obj.spec.namespaces.flatMap fun ns =>
      (teardownNamespace (quiet.answers fun _ => none) ns name).map .send) ++
        [.release]
  else obj.spec.namespaces.map .look

/-- A namespace that exists is worked through at once. -/
def lookedUp (libs : TenantLibs) (c : Cluster) (p : Running) (ns : String) :
    List Todo :=
  if (c ns).isSome then
    (ensureNamespace libs (quiet.answers c) ns p.tenant p.quotas).map .send
  else []

def State.setPass (s : State) (i : Nat) (p : Running) : State :=
  { s with running := s.running.set i p }

/-- The next request of the pass `p`, at place `i`. -/
def actPass (libs : TenantLibs) (s : State) (i : Nat) (p : Running)
    (lands : Bool) : Option State :=
  match p.todo with
  | [] => none
  | .look ns :: rest =>
      some (s.setPass i
        { p with todo := lookedUp libs s.cluster p ns ++ rest })
  | .send e :: rest =>
      some
        { s.setPass i { p with todo := rest } with
          cluster := if lands then e.act s.cluster else s.cluster }
  | .release :: rest =>
      some
        { s.setPass i { p with todo := rest } with
          tenants :=
            if lands then released s.tenants p.tenant else s.tenants }

def step (libs : TenantLibs) (api : TenantApi) (s : State) :
    Event → Option State
  | .check obj =>
      match obj.metadata.name, admitTenant api (.ok s.tenants) obj with
      | some name, .ok _ =>
          some
            { s with
              checked := s.checked ++
                [{ obj := obj, base := find s.tenants name
                   listed := s.tenants }] }
      | _, _ => none
  | .persist i =>
      (s.checked[i]?).map fun c =>
        { s with
          tenants := persisted s.tenants c, checked := s.checked.eraseIdx i }
  | .delete name now =>
      some { s with tenants := deleted s.tenants name now }
  | .start name =>
      (find s.tenants name).map fun obj =>
        { s with
          tenants :=
            if obj.metadata.deletionTimestamp.isSome then s.tenants
            else updateTenant s.tenants name addFinalizer
          running := s.running ++
            [{ tenant := name, quotas := obj.spec.quotas
               todo := agenda obj name }] }
  | .act i lands =>
      (s.running[i]?).bind fun p => actPass libs s i p lands
  | .createNamespace ns =>
      match s.cluster ns with
      | none =>
          some
            { s with
              cluster := Function.update s.cluster ns (some freshNamespace) }
      | some _ => none
  | .deleteNamespace ns =>
      some { s with cluster := Function.update s.cluster ns none }

/-! ## Exclusivity -/

/-- No two stored tenants own the same namespace. -/
def Exclusive (tenants : List MCPGTenant) : Prop :=
  ∀ t ∈ tenants, ∀ u ∈ tenants, t.metadata.name ≠ u.metadata.name →
    ∀ ns ∈ t.spec.namespaces, ns ∉ u.spec.namespaces

/-- Named tenants that exclude each other, nothing under way, and any
namespaces. -/
structure Start (s : State) : Prop where
  named : ∀ t ∈ s.tenants, ∃ name, t.metadata.name = some name
  exclusive : Exclusive s.tenants
  checked : s.checked = []
  running : s.running = []

def tenancy (libs : TenantLibs) (api : TenantApi) :
    Transition.System State Event where
  init := Start
  step := step libs api

def labelOf (c : Cluster) (ns : String) : Option String :=
  (c ns).bind Namespace.tenant

/-- The request a pass makes neither removes nor replaces the label of a
namespace another stored tenant owns. -/
def LeavesOthers (s : State) (e : Event) (s' : State) : Prop :=
  ∀ i lands p, e = .act i lands → s.running[i]? = some p →
    ∀ u ∈ s.tenants, u.metadata.name ≠ some p.tenant →
      ∀ ns ∈ u.spec.namespaces, ∀ tenant,
        labelOf s.cluster ns = some tenant →
          labelOf s'.cluster ns = some tenant

/-! ## The condition on a persisted write -/

/-- The namespaces whose label the pass may still write. -/
def Todo.labels : Todo → Option String
  | .look ns | .send (.applyLabel ns _ _) | .send (.dropLabel ns _) => some ns
  | _ => none

def Running.ahead (p : Running) : List String := p.todo.filterMap Todo.labels

/-- Between its check and its persistence no other tenant has come to own a
namespace of the object. -/
def Unclaimed (s : State) (c : Checked) : Prop :=
  ∀ u ∈ s.tenants, u.metadata.name ≠ c.obj.metadata.name →
    ∀ ns ∈ c.obj.spec.namespaces, ns ∈ u.spec.namespaces →
      ∃ v ∈ c.listed, v.metadata.name = u.metadata.name ∧
        ns ∈ v.spec.namespaces

/-- No unfinished pass of another tenant may still write the label of one of
its namespaces. -/
def Settled (s : State) (c : Checked) : Prop :=
  ∀ p ∈ s.running, some p.tenant ≠ c.obj.metadata.name →
    ∀ ns ∈ c.obj.spec.namespaces, ns ∉ p.ahead

structure CarefulWrite (s : State) (c : Checked) : Prop where
  unclaimed : Unclaimed s c
  settled : Settled s c

/-- Every write that goes through does so with care. -/
def careful (s : State) : Event → Prop
  | .persist i => ∀ c, s.checked[i]? = some c →
      find s.tenants c.name = c.base → CarefulWrite s c
  | _ => True

/-- What the API crate's `overlapping_namespaces` reports: the namespaces in
both specs. -/
def Overlaps (api : TenantApi) : Prop :=
  ∀ a b ns, ns ∈ api.overlappingNamespaces a b ↔
    ns ∈ a.namespaces ∧ ns ∈ b.namespaces

end McpgOperator.Tenant.Requests
