import McpgOperator.Fleet.Agent

/-!
# A cell under the fleet's commands

What `run_loop` asks of the applier, one call after another, in front of an
apiserver that is not part of the operator. Of the apiserver there is a state,
what a patch and a delete make of it, and what becomes of it between two
calls, when finalizers are released and garbage is collected. An apply that
fails on its way has sent what came before it; a revocation that fails on a
Secret goes on to the next.
-/

namespace McpgOperator.Fleet

open McpgOperator.Kube

variable {σ : Type}

def Request.key (r : Request) : ObjectKey :=
  { gvk := r.api.gvk, namespace_ := r.api.namespace_, name := r.name }

/-- The apiserver of a cell. -/
structure CellApi (σ : Type) where
  patch : σ → Request → σ
  delete : DeleteApi σ
  settle : σ → σ
  /-- The object is stored and has no `deletionTimestamp`. -/
  live : σ → ObjectKey → Prop
  /-- Live, and so is all it goes with. -/
  safe : σ → ObjectKey → Prop
  /-- A delete of the second takes the first along: it is the object itself,
  one that owns it, or the namespace it is in. -/
  goesWith : ObjectKey → ObjectKey → Prop

/-- What is relied on. Nobody but the fleet creates or deletes the objects
looked at. -/
structure CellApi.Laws (api : CellApi σ) : Prop where
  live_of_safe : ∀ s k, api.safe s k → api.live s k
  safe_patch : ∀ s r k, api.safe s k → api.safe (api.patch s r) k
  /-- A delete leaves alone what does not go with its object. -/
  safe_delete : ∀ s r k, api.safe s k → ¬ api.goesWith k r.object →
    api.safe (api.delete s r).1 k
  safe_settle : ∀ s k, api.safe s k → api.safe (api.settle s) k
  /-- A `deletionTimestamp` is never taken back. -/
  live_of_patch : ∀ s r k, api.live (api.patch s r) k →
    api.live s k ∨ k = r.key
  live_of_delete : ∀ s r k, api.live (api.delete s r).1 k → api.live s k
  live_of_settle : ∀ s k, api.live (api.settle s) k → api.live s k
  /-- A delete that is served marks the object or takes it out, and a 404 is
  for an object that is not there. -/
  deleted : ∀ s r, tolerated (api.delete s r).2 = .ok () →
    ¬ api.live (api.delete s r).1 r.object

/-- A call of the applier. -/
inductive Command
  | apply (cell : Cell) (discovery : DiscoveryState) (ns : String)
      (objects : List (List UInt8))
  | deleteInstance (ns instanceUid : String)
  | deleteNamespace (ns : String)

/-- The cell, and how `mcpg_fleet_proto` names the Secrets of an instance. -/
structure FleetCell (σ : Type) where
  api : CellApi σ
  instanceSecretNames : String → List String

/-- The cell after a call, and what the call answers. -/
def FleetCell.call (c : FleetCell σ) (s : σ) :
    Command → σ × Except String Unit
  | .apply cell discovery ns raw =>
      let pass := cell.apply discovery ns raw
      (pass.requests.foldl c.api.patch s, pass.result)
  | .deleteInstance ns instanceUid =>
      Fleet.deleteInstance c.api.delete c.instanceSecretNames s ns instanceUid
  | .deleteNamespace ns => Fleet.deleteNamespace c.api.delete s ns

/-- The cell after these calls. -/
def FleetCell.after (c : FleetCell σ) (s : σ) (commands : List Command) : σ :=
  commands.foldl (fun s command => c.api.settle (c.call s command).1) s

/-! ## The objects of an instance -/

/-- The gateway of an instance and the Secrets beside it. -/
def FleetCell.instanceKeys (c : FleetCell σ) (ns instanceUid : String) :
    List ObjectKey :=
  (deleteGateway ns instanceUid).object ::
    (c.instanceSecretNames instanceUid).map fun name =>
      (deleteSecret ns name).object

def namespaceKey (ns : String) : ObjectKey :=
  { gvk := namespaceGvk, namespace_ := none, name := ns }

/-- Instances are told apart: their Secrets have different names, nothing is
owned by the objects of two, and no owner or namespace reaches into another
namespace. -/
structure FleetCell.Apart (c : FleetCell σ) : Prop where
  names : ∀ uid uid' name, name ∈ c.instanceSecretNames uid →
    name ∈ c.instanceSecretNames uid' → uid = uid'
  single : ∀ ns uid ns' uid' k o o', o ∈ c.instanceKeys ns uid →
    o' ∈ c.instanceKeys ns' uid' → c.api.goesWith k o →
    c.api.goesWith k o' → o = o'
  owner : ∀ ns uid k o, o ∈ c.instanceKeys ns uid → c.api.goesWith k o →
    k.namespace_ = some ns
  content : ∀ ns k, c.api.goesWith k (namespaceKey ns) →
    k = namespaceKey ns ∨ k.namespace_ = some ns

end McpgOperator.Fleet
