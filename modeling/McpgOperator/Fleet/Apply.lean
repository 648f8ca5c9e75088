import McpgOperator.Kube.Api
import McpgOperator.Kube.Object

/-!
# The fleet agent applies an assignment

`KubeCellApplier` of `fleet_agent.rs`. An assignment is a namespace and the
objects to apply in it, as bytes. Each is decoded, stamped with the namespace,
resolved to an API handle through discovery and applied; the first failure ends
the pass. Discovery is kept from one object to the next and run again where a
kind is unknown.
-/

namespace McpgOperator.Fleet

open McpgOperator.Kube

/-! ## Objects and their APIs -/

structure TypeMeta where
  apiVersion : String
  kind : String
  deriving DecidableEq, Repr

/-- `GroupVersionKind`. -/
structure Gvk where
  group : String
  version : String
  kind : String
  deriving DecidableEq, Repr

/-- `DynamicObject`; `data` is the rest of it. -/
structure DynamicObject where
  types : Option TypeMeta
  name : Option String
  namespace_ : Option String
  data : String
  deriving DecidableEq, Repr

/-- `kube::discovery::Scope`. -/
inductive Scope
  | cluster
  | namespaced
  deriving DecidableEq, Repr

/-- `Discovery::resolve_gvk`, as far as the scope of the kind. -/
abbrev Discovery := Gvk → Option Scope

/-- `Api<DynamicObject>`: the kind, and the namespace its requests go to. -/
structure ApiHandle where
  gvk : Gvk
  scope : Scope
  namespace_ : Option String
  deriving DecidableEq, Repr

/-- `api.patch(&name, &pp, &Patch::Apply(&obj))`. -/
structure Request where
  api : ApiHandle
  name : String
  object : DynamicObject
  deriving DecidableEq, Repr

/-- The cell: the crates the agent calls and what its apiserver answers.
`discover` takes the number of the run. -/
structure Cell where
  fromSlice : List UInt8 → Except String DynamicObject
  parseTypes : TypeMeta → Except String Gvk
  discover : Nat → Except String Discovery
  patch : Request → Except KubeError Unit
  /-- The namespace of the client, for handles that name none. -/
  defaultNamespace : String

/-! ## Discovery -/

/-- `discovery`, and how often it was run. -/
structure DiscoveryState where
  cached : Option Discovery := none
  runs : Nat := 0

/-- `match (caps.scope, ns)`. -/
def Cell.handle (cell : Cell) (gvk : Gvk) (scope : Scope)
    (ns : Option String) : ApiHandle :=
  { gvk := gvk, scope := scope
    namespace_ :=
      match scope, ns with
      | .namespaced, some ns => some ns
      | .namespaced, none => some cell.defaultNamespace
      | .cluster, _ => none }

/-- An attempt of `api_for` that runs discovery first. -/
def Cell.rediscover (cell : Cell) (s : DiscoveryState) :
    Except String (DiscoveryState × Discovery) :=
  match cell.discover s.runs with
  | .error _ => .error "kube discovery"
  | .ok d => .ok ({ cached := some d, runs := s.runs + 1 }, d)

/-- The two attempts of `api_for`: what is cached, or a first run, and then a
run of its own. -/
def Cell.resolve (cell : Cell) (s : DiscoveryState) (gvk : Gvk) :
    Except String (DiscoveryState × Scope) := do
  let (s, d) ←
    match s.cached with
    | some d => .ok (s, d)
    | none => cell.rediscover s
  match d gvk with
  | some scope => .ok (s, scope)
  | none =>
      let (s, d) ← cell.rediscover s
      match d gvk with
      | some scope => .ok (s, scope)
      | none =>
          .error ("no server resource for " ++ gvk.group ++ "/" ++
            gvk.kind ++ " — is the CRD installed in this cell?")

def Cell.gvkOf (cell : Cell) (obj : DynamicObject) : Except String Gvk :=
  match obj.types with
  | none => .error "object is missing apiVersion/kind"
  | some types =>
      (cell.parseTypes types).mapError
        ("unparseable apiVersion/kind: " ++ ·)

/-- `api_for`. -/
def Cell.apiFor (cell : Cell) (s : DiscoveryState) (obj : DynamicObject) :
    Except String (DiscoveryState × ApiHandle) := do
  let gvk ← cell.gvkOf obj
  let (s, scope) ← cell.resolve s gvk
  .ok (s, cell.handle gvk scope obj.namespace_)

/-! ## The pass -/

/-- An object as it came, with its name; `i` is its place in the
assignment. -/
def Cell.decode (cell : Cell) (i : Nat) (raw : List UInt8) :
    Except String (String × DynamicObject) :=
  match cell.fromSlice raw with
  | .error _ =>
      .error ("object " ++ toString i ++
        " in the assignment is not valid JSON")
  | .ok obj =>
      match obj.name with
      | none => .error ("object " ++ toString i ++ " has no metadata.name")
      | some name => .ok (name, obj)

/-- The re-stamping. -/
def stamp (ns : String) (obj : DynamicObject) : DynamicObject :=
  if obj.namespace_.isSome then { obj with namespace_ := some ns } else obj

/-- The requests of a pass, in order, and how it ends. -/
structure ApplyPass where
  requests : List Request
  result : Except String Unit

/-- The loop of `apply`, from the `i`th object on. -/
def Cell.applyFrom (cell : Cell) (ns : String) :
    Nat → DiscoveryState → List (List UInt8) → ApplyPass
  | _, _, [] => { requests := [], result := .ok () }
  | i, s, raw :: rest =>
      match cell.decode i raw with
      | .error e => { requests := [], result := .error e }
      | .ok (name, received) =>
          let obj := stamp ns received
          match cell.apiFor s obj with
          | .error e => { requests := [], result := .error e }
          | .ok (s, api) =>
              let request := { api := api, name := name, object := obj }
              match cell.patch request with
              | .error _ =>
                  { requests := [request], result := .error ("apply " ++ name) }
              | .ok _ =>
                  let pass := cell.applyFrom ns (i + 1) s rest
                  { pass with requests := request :: pass.requests }

/-- `apply`. -/
def Cell.apply (cell : Cell) (s : DiscoveryState) (ns : String)
    (objects : List (List UInt8)) : ApplyPass :=
  cell.applyFrom ns 0 s objects

end McpgOperator.Fleet
