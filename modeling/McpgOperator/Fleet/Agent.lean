import McpgOperator.Fleet.Apply
import McpgOperator.Lib.CappedDoubling
import McpgOperator.Text

/-!
# The fleet agent

`fleet_agent.rs` from `read_token` to the loop that never ends, and the two
deletes of `KubeCellApplier`. What the agent does on an open channel is up to
`run_loop` of `mcpg_fleet_proto`, which calls the applier; the key it is given
and the order of the calls before it are decided here.
-/

namespace McpgOperator.Fleet

open McpgOperator.Kube McpgOperator.Text

/-! ## The token -/

/-- `read_token`; the file as `read_to_string` finds it, with its path as it
is displayed. -/
def readToken (inline : Option String)
    (file : Option (String × Except String String)) : Except String String :=
  match file with
  | some (path, .error _) => .error ("read fleet token from " ++ path)
  | some (path, .ok raw) =>
      let t := trim raw
      if t.isEmpty then .error ("fleet token file " ++ path ++ " is empty")
      else .ok t
  | none =>
      match (inline.map trim).filter (!·.isEmpty) with
      | some t => .ok t
      | none =>
          .error ("--fleet-attach needs a token: set --fleet-token-file " ++
            "(preferred) or --fleet-token")

/-! ## One attempt -/

/-- `RegisterCellRequest`. -/
structure RegisterCellRequest where
  enrollmentToken : String
  agentVersion : String
  kubeVersion : String
  deriving DecidableEq, Repr

/-- `RegisterCellResponse`. -/
structure Enrolled where
  cellId : String
  cellName : String
  cellJwt : String
  assignmentVerifyKey : List UInt8
  deriving DecidableEq, Repr

/-- The crates: the key of `mcpg_fleet_proto`, and the check that a text can
be a header value. -/
structure FleetLibs where
  VerifyKey : Type
  verifyKeyFromBytes : List UInt8 → Except String VerifyKey
  parseHeader : String → Except String Unit
  agentVersion : String

/-- What the agent is started with. -/
structure Attachment where
  endpoint : String
  token : String
  edgeAddress : String
  deriving DecidableEq, Repr

/-- How the fleet answers an attempt. -/
structure FleetAnswers where
  connect : Except String Unit
  registerCell : Except String Enrolled
  cellChannel : Except String Unit

inductive Call (libs : FleetLibs)
  | connect (endpoint : String)
  | registerCell (request : RegisterCellRequest)
  | cellChannel (authorization : String)
  | runLoop (verifyKey : libs.VerifyKey) (edgeAddress : String)

structure Attempt (libs : FleetLibs) where
  calls : List (Call libs)
  result : Except String Unit

/-- An attempt that made `calls` before it went on. -/
def Attempt.after {libs : FleetLibs} (calls : List (Call libs))
    (a : Attempt libs) : Attempt libs :=
  { a with calls := calls ++ a.calls }

/-- `attach_once` on an enrolment. -/
def attachEnrolled (libs : FleetLibs) (target : Attachment) (ans : FleetAnswers)
    (enrolled : Enrolled) : Attempt libs :=
  match libs.verifyKeyFromBytes enrolled.assignmentVerifyKey with
  | .error e => { calls := [], result := .error ("fleet verify key: " ++ e) }
  | .ok verifyKey =>
      let authorization := "Bearer " ++ enrolled.cellJwt
      match libs.parseHeader authorization with
      | .error e =>
          { calls := []
            result := .error ("credential is not a valid header: " ++ e) }
      | .ok _ =>
          .after [.cellChannel authorization]
            (match ans.cellChannel with
              | .error _ =>
                  { calls := [], result := .error "open the fleet channel" }
              | .ok _ =>
                  { calls := [.runLoop verifyKey target.edgeAddress]
                    result := .ok () })

/-- `attach_once`. -/
def attachOnce (libs : FleetLibs) (target : Attachment) (ans : FleetAnswers) :
    Attempt libs :=
  .after [.connect target.endpoint]
    (match ans.connect with
      | .error _ =>
          { calls := []
            result := .error ("dial fleet endpoint " ++ target.endpoint) }
      | .ok _ =>
          .after
            [.registerCell
              { enrollmentToken := target.token
                agentVersion := libs.agentVersion
                kubeVersion := "" }]
            (match ans.registerCell with
              | .error _ =>
                  { calls := [], result := .error "enrol with the fleet" }
              | .ok enrolled => attachEnrolled libs target ans enrolled))

/-! ## The loop -/

def reconnectMin : Nat := 2

def reconnectMax : Nat := 60

/-- What the loop makes of its backoff. -/
def nextBackoff (backoff : Nat) : Except String Unit → Nat
  | .ok _ => reconnectMin
  | .error _ => CappedDoubling.double reconnectMax backoff

/-- The loop of `run`: each attempt, and how long it sleeps after it. -/
def runFrom (libs : FleetLibs) (target : Attachment) :
    Nat → List FleetAnswers → List (Attempt libs × Nat)
  | _, [] => []
  | backoff, ans :: rest =>
      let attempt := attachOnce libs target ans
      let backoff := nextBackoff backoff attempt.result
      (attempt, backoff) :: runFrom libs target backoff rest

/-- `run`, as far as the fleet has answered. -/
def run (libs : FleetLibs) (target : Attachment) (answers : List FleetAnswers) :
    List (Attempt libs × Nat) :=
  runFrom libs target reconnectMin answers

/-! ## Deleting -/

/-- An object of the cell. -/
structure ObjectKey where
  gvk : Gvk
  namespace_ : Option String
  name : String
  deriving DecidableEq, Repr

def gatewayGvk : Gvk :=
  { group := "mcpg.dev", version := "v1alpha1", kind := "MCPGGateway" }

def secretGvk : Gvk := { group := "", version := "v1", kind := "Secret" }

def namespaceGvk : Gvk := { group := "", version := "v1", kind := "Namespace" }

/-- `api.delete(name, &dp)`; `foreground` is the propagation policy. -/
structure DeleteRequest where
  object : ObjectKey
  foreground : Bool
  deriving DecidableEq, Repr

/-- A cell that is asked to delete and answers. -/
abbrev DeleteApi (σ : Type) :=
  σ → DeleteRequest → σ × Except KubeError Unit

/-- A delete that takes a 404 for done. -/
def tolerated : Except KubeError Unit → Except KubeError Unit
  | .error e => if isNotFound e then .ok () else .error e
  | .ok _ => .ok ()

def deleteGateway (ns instanceUid : String) : DeleteRequest :=
  { object :=
      { gvk := gatewayGvk, namespace_ := some ns, name := instanceUid }
    foreground := true }

def deleteSecret (ns name : String) : DeleteRequest :=
  { object := { gvk := secretGvk, namespace_ := some ns, name := name }
    foreground := false }

/-- `delete_instance`; `instanceSecretNames` is of `mcpg_fleet_proto`. What
the deletes of the Secrets answer is logged and no more. -/
def deleteInstance {σ : Type} (api : DeleteApi σ)
    (instanceSecretNames : String → List String) (s : σ)
    (ns instanceUid : String) : σ × Except String Unit :=
  let (s, answer) := api s (deleteGateway ns instanceUid)
  match tolerated answer with
  | .error e =>
      (s,
        .error ("delete gateway " ++ instanceUid ++ ": " ++ displayKube e))
  | .ok _ =>
      ((instanceSecretNames instanceUid).foldl
        (fun s name => (api s (deleteSecret ns name)).1) s, .ok ())

/-- `delete_namespace`. -/
def deleteNamespace {σ : Type} (api : DeleteApi σ) (s : σ) (ns : String) :
    σ × Except String Unit :=
  let (s, answer) := api s
    { object := { gvk := namespaceGvk, namespace_ := none, name := ns }
      foreground := true }
  (s, (tolerated answer).mapError fun e =>
    "delete namespace " ++ ns ++ ": " ++ displayKube e)

end McpgOperator.Fleet
