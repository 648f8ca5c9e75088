import McpgOperator.Leader.Lease
import McpgOperator.Lib.Transition
import Mathlib.Logic.Function.Basic

/-!
# Several replicas over one Lease

Any number of replicas run `try_acquire_or_renew` against the same Lease. An
attempt is cut wherever another replica can come in between: before the GET
is served, between its answer and the expiry test, between the test and the
write's `Timestamp::now()`, while the write travels, and while its answer
travels back. The clock is common and may advance at any point; requests and
answers may be lost, also after the write took effect.
-/

namespace McpgOperator.Leader

open McpgOperator.Kube

/-- Replicas with validated configurations, distinct identities and one
common Lease. -/
structure Fleet (ι : Type) where
  cfg : ι → LeaderElectionConfig
  valid : ∀ i, (cfg i).validate = .ok ()
  distinct : ∀ i j, (cfg i).identity = (cfg j).identity → i = j
  oneLease : ∀ i j, (cfg i).leaseName = (cfg j).leaseName ∧
    (cfg i).leaseNamespace = (cfg j).leaseNamespace

/-- Where an attempt stands. `stamp` is the `renewTime` its write carries. -/
inductive Phase
  | idle
  | read (answer : Except KubeError Lease)
  | chosen (op : LeaseOp)
  | sent (op : LeaseOp) (stamp : Timestamp) (request : WriteRequest)
  | answered (stamp : Timestamp) (answer : Except KubeError Lease)
  deriving DecidableEq

/-- One replica: its attempt, the result of the last completed attempt, and
the `renewTime` that attempt wrote if it wrote one. -/
structure Replica where
  phase : Phase
  last : Option (Except KubeError Bool)
  wrote : Option Timestamp
  deriving DecidableEq

def Replica.start : Replica := { phase := .idle, last := none, wrote := none }

structure State (ι : Type) where
  now : Timestamp
  lease : Option Lease
  replica : ι → Replica

inductive Action (ι : Type)
  | tick (elapsed : Nat)
  | get (i : ι)
  | getFails (i : ι) (e : KubeError)
  | decide (i : ι)
  | send (i : ι)
  | serve (i : ι)
  | lose (i : ι) (e : KubeError)
  | finish (i : ι)

variable {ι : Type} [DecidableEq ι]

def State.setReplica (s : State ι) (i : ι) (r : Replica) : State ι :=
  { s with replica := Function.update s.replica i r }

def State.setPhase (s : State ι) (i : ι) (p : Phase) : State ι :=
  s.setReplica i { s.replica i with phase := p }

/-- `try_acquire_or_renew` returns. -/
def State.complete (s : State ι) (i : ι) (result : Except KubeError Bool)
    (wrote : Option Timestamp) : State ι :=
  s.setReplica i { phase := .idle, last := some result, wrote := wrote }

def step (f : Fleet ι) (s : State ι) : Action ι → Option (State ι)
  | .tick elapsed => some { s with now := s.now + elapsed }
  | .get i =>
      match (s.replica i).phase with
      | .idle => some (s.setPhase i (.read (getLease s.lease)))
      | _ => none
  | .getFails i e =>
      match (s.replica i).phase with
      | .idle => some (s.setPhase i (.read (.error e)))
      | _ => none
  | .decide i =>
      match (s.replica i).phase with
      | .read answer =>
          match afterGet (f.cfg i) answer s.now with
          | .write op => some (s.setPhase i (.chosen op))
          | .done result => some (s.complete i result none)
      | _ => none
  | .send i =>
      match (s.replica i).phase with
      | .chosen op =>
          some (s.setPhase i
            (.sent op (microTime s.now) (op.request (f.cfg i) s.now)))
      | _ => none
  | .serve i =>
      match (s.replica i).phase with
      | .sent _ stamp request =>
          match applyWrite s.lease request with
          | .ok l =>
              some (({ s with lease := some l } : State ι).setPhase i
                (.answered stamp (.ok l)))
          | .error e => some (s.setPhase i (.answered stamp (.error e)))
      | _ => none
  | .lose i e =>
      match (s.replica i).phase with
      | .sent _ stamp _ => some (s.setPhase i (.answered stamp (.error e)))
      | .answered stamp _ => some (s.setPhase i (.answered stamp (.error e)))
      | _ => none
  | .finish i =>
      match (s.replica i).phase with
      | .answered stamp answer =>
          match afterWrite answer with
          | .ok b => some (s.complete i (.ok b) (some stamp))
          | .error e => some (s.complete i (.error e) none)
      | _ => none

/-- Any Lease content, any clock, every replica before its first attempt. -/
def election (f : Fleet ι) : Transition.System (State ι) (Action ι) where
  init := fun s => ∀ i, s.replica i = .start
  step := step f

/-- The last completed attempt returned `Ok(true)` and `lease_duration` has
not elapsed since the `renewTime` it wrote. -/
def leads (f : Fleet ι) (s : State ι) (i : ι) : Prop :=
  (s.replica i).last = some (.ok true) ∧
    hasExpired (s.replica i).wrote (f.cfg i).leaseDuration s.now = false

instance (f : Fleet ι) (s : State ι) (i : ι) : Decidable (leads f s i) :=
  inferInstanceAs (Decidable (_ ∧ _))

/-- At most one replica leads. -/
def exclusive (f : Fleet ι) (s : State ι) : Prop :=
  ∀ i j, leads f s i → leads f s j → i = j

/-! ## The condition on a write

A patch names no `resourceVersion`, so the apiserver lets it land whatever
the Lease says by then. -/

/-- The stored Lease is held by a replica other than `i` and has not expired
by that replica's own `lease_duration`. -/
def heldByPeer (f : Fleet ι) (s : State ι) (i : ι) : Prop :=
  ∃ l j, s.lease = some l ∧ j ≠ i ∧ l.holder = (f.cfg j).identity ∧
    hasExpired l.renewTime (f.cfg j).leaseDuration s.now = false

/-- The request of `i` in flight is a patch. -/
def patchInFlight (s : State ι) (i : ι) : Prop :=
  ∃ op stamp rv body, (s.replica i).phase = .sent op stamp (.patch rv body)

/-- A patch that is served finds a Lease no peer holds unexpired. Every
other step is unrestricted. -/
def patchLandsClear (f : Fleet ι) (s : State ι) : Action ι → Prop
  | .serve i => patchInFlight s i → ¬ heldByPeer f s i
  | _ => True

end McpgOperator.Leader
