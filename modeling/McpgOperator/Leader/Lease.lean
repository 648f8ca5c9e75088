import McpgOperator.Kube.Api

/-!
# The Lease and one attempt to hold it

`leader.rs` talks to one `coordination.k8s.io/v1` Lease. An attempt is a GET,
a decision taken on the answer and the clock, and at most one write. The
writes are kept as the values that go over the wire, because what they carry
decides who wins a race: the create is a POST of a whole object, while renewal
and takeover are merge patches of `{"spec": …}` with no `metadata` in them,
hence with no `resourceVersion`.

Instants and durations count nanoseconds.
-/

namespace McpgOperator.Leader

open McpgOperator.Kube

/-- `jiff::Timestamp`. -/
abbrev Timestamp := Int

/-- `std::time::Duration`. -/
abbrev Duration := Nat

def nanosPerSec : Nat := 1000000000

def Duration.asSecs (d : Duration) : Nat := d / nanosPerSec

/-- `jiff::SignedDuration::MAX`: `i64::MAX` seconds and all the
nanoseconds below one more. -/
def signedDurationMax : Nat := 9223372036854775807 * nanosPerSec + 999999999

/-- A timestamp as `MicroTime` puts it on the wire, with six fractional
digits. -/
def microTime (t : Timestamp) : Timestamp := t / 1000 * 1000

structure LeaderElectionConfig where
  leaseName : String
  leaseNamespace : String
  identity : String
  leaseDuration : Duration
  renewDeadline : Duration
  retryPeriod : Duration
  deriving DecidableEq, Repr

def LeaderElectionConfig.validate (c : LeaderElectionConfig) :
    Except String Unit :=
  if c.renewDeadline ≥ c.leaseDuration then
    .error "renew_deadline must be < lease_duration"
  else if c.retryPeriod ≥ c.renewDeadline then
    .error "retry_period must be < renew_deadline"
  else if c.identity.isEmpty then
    .error "identity must not be empty"
  else if c.leaseName.isEmpty then
    .error "lease_name must not be empty"
  else if c.leaseNamespace.isEmpty then
    .error "lease_namespace must not be empty"
  else
    .ok ()

structure LeaseSpec where
  holderIdentity : Option String
  leaseDurationSeconds : Option Int32
  acquireTime : Option Timestamp
  renewTime : Option Timestamp
  leaseTransitions : Option Int32
  deriving DecidableEq, Repr

/-- `LeaseSpec::default()`. -/
def LeaseSpec.default : LeaseSpec :=
  { holderIdentity := none, leaseDurationSeconds := none,
    acquireTime := none, renewTime := none, leaseTransitions := none }

structure Lease where
  resourceVersion : Nat
  spec : Option LeaseSpec
  deriving DecidableEq, Repr

/-- `existing.spec…holder_identity…unwrap_or_default()`. -/
def Lease.holder (l : Lease) : String :=
  (l.spec.bind (·.holderIdentity)).getD ""

def Lease.renewTime (l : Lease) : Option Timestamp :=
  l.spec.bind (·.renewTime)

/-! ## Writes on the wire -/

/-- The two writes an attempt can send. A patch names the `resourceVersion`
it relies on, or none; its body is the serialised spec, in which an absent
field is omitted and so left alone by the merge. -/
inductive WriteRequest
  | create (spec : LeaseSpec)
  | patch (resourceVersion : Option Nat) (spec : LeaseSpec)
  deriving DecidableEq, Repr

/-- JSON merge patch of a spec by a serialised spec. -/
def LeaseSpec.merge (stored body : LeaseSpec) : LeaseSpec :=
  { holderIdentity := body.holderIdentity <|> stored.holderIdentity
    leaseDurationSeconds :=
      body.leaseDurationSeconds <|> stored.leaseDurationSeconds
    acquireTime := body.acquireTime <|> stored.acquireTime
    renewTime := body.renewTime <|> stored.renewTime
    leaseTransitions := body.leaseTransitions <|> stored.leaseTransitions }

def notFound : KubeError := .api 404 "leases not found"

def conflict : KubeError := .api 409 "leases conflict"

/-- `api.get`. -/
def getLease : Option Lease → Except KubeError Lease
  | none => .error notFound
  | some l => .ok l

/-- The apiserver's side of a write: it refuses a create of an existing
object, a patch of an absent one, and a write carrying a stale
`resourceVersion`; nothing else. -/
def applyWrite : Option Lease → WriteRequest → Except KubeError Lease
  | none, .create spec => .ok { resourceVersion := 1, spec := some spec }
  | some _, .create _ => .error conflict
  | none, .patch _ _ => .error notFound
  | some l, .patch rv body =>
      if rv.isSome && rv != some l.resourceVersion then
        .error conflict
      else
        .ok { resourceVersion := l.resourceVersion + 1
              spec := some ((l.spec.getD .default).merge body) }

/-! ## The attempt -/

def hasExpired (renewTime : Option Timestamp) (leaseDuration : Duration)
    (now : Timestamp) : Bool :=
  match renewTime with
  | none => true
  | some rt =>
      let elapsed := now - rt
      -- `try_into().unwrap_or(SignedDuration::MAX)`
      let leaseDurationSigned : Int := min leaseDuration signedDurationMax
      decide (elapsed > leaseDurationSigned)

/-- Which of the three writers an attempt goes on to call. -/
inductive LeaseOp
  | createLease
  | renewLease (existing : Lease)
  | replaceHolder (existing : Lease)
  deriving DecidableEq, Repr

/-- What the GET leads to: a write, or the end of the attempt. -/
inductive Decision
  | write (op : LeaseOp)
  | done (result : Except KubeError Bool)
  deriving DecidableEq

/-- `try_acquire_or_renew` from the GET's answer up to the write. -/
def afterGet (cfg : LeaderElectionConfig) (answer : Except KubeError Lease)
    (now : Timestamp) : Decision :=
  match answer with
  | .ok existing =>
      if existing.holder = cfg.identity then
        .write (.renewLease existing)
      else if hasExpired existing.renewTime cfg.leaseDuration now then
        .write (.replaceHolder existing)
      else
        .done (.ok false)
  | .error e =>
      if isNotFound e then .write .createLease else .done (.error e)

/-- `cfg.lease_duration.as_secs() as i32`. -/
def durationSeconds (cfg : LeaderElectionConfig) : Int32 :=
  Int32.ofNat cfg.leaseDuration.asSecs

/-- The request `create_lease`, `renew_lease` or `replace_holder` sends when
its `Timestamp::now()` reads `now`. -/
def LeaseOp.request (op : LeaseOp) (cfg : LeaderElectionConfig)
    (now : Timestamp) : WriteRequest :=
  let now := microTime now
  match op with
  | .createLease =>
      .create
        { holderIdentity := some cfg.identity
          leaseDurationSeconds := some (durationSeconds cfg)
          acquireTime := some now
          renewTime := some now
          leaseTransitions := some 0 }
  | .renewLease existing =>
      let spec := existing.spec.getD .default
      .patch none
        { spec with
          holderIdentity := some cfg.identity
          leaseDurationSeconds := some (durationSeconds cfg)
          renewTime := some now }
  | .replaceHolder existing =>
      let priorTransitions :=
        (existing.spec.bind (·.leaseTransitions)).getD 0
      let spec := existing.spec.getD .default
      .patch none
        { spec with
          holderIdentity := some cfg.identity
          leaseDurationSeconds := some (durationSeconds cfg)
          acquireTime := some now
          renewTime := some now
          leaseTransitions := some (priorTransitions + 1) }

/-- What the attempt returns once its write was answered: `?` passes the
error on. -/
def afterWrite : Except KubeError Lease → Except KubeError Bool
  | .ok _ => .ok true
  | .error e => .error e

/-- An attempt with every request served and no other writer in between:
what is stored then, and what it returns. The expiry test reads the clock at
`now`, the write at `later`. -/
def tryAcquireOrRenew (cfg : LeaderElectionConfig) (stored : Option Lease)
    (now later : Timestamp) : Option Lease × Except KubeError Bool :=
  match afterGet cfg (getLease stored) now with
  | .done result => (stored, result)
  | .write op =>
      let answer := applyWrite stored (op.request cfg later)
      (answer.toOption <|> stored, afterWrite answer)

/-! ## Giving the Lease back -/

/-- The merge patch `{"spec": {"holderIdentity": null, "renewTime": …}}`:
null takes the field out. -/
def LeaseSpec.release (stored : LeaseSpec) (renewTime : Timestamp) :
    LeaseSpec :=
  { stored with holderIdentity := none, renewTime := some renewTime }

/-- The apiserver's side of it; the patch names no `resourceVersion`. -/
def applyRelease : Option Lease → Timestamp → Except KubeError Lease
  | none, _ => .error notFound
  | some l, renewTime =>
      .ok { resourceVersion := l.resourceVersion + 1
            spec := some ((l.spec.getD .default).release renewTime) }

/-- A Lease that is already gone is as good as released. -/
def afterRelease : Except KubeError Lease → Except KubeError Unit
  | .ok _ => .ok ()
  | .error e => if isNotFound e then .ok () else .error e

/-- `release_lease` with its patch served when the clock reads `now`. -/
def releaseLease (stored : Option Lease) (now : Timestamp) :
    Option Lease × Except KubeError Unit :=
  let answer := applyRelease stored (microTime now)
  (answer.toOption <|> stored, afterRelease answer)

end McpgOperator.Leader
