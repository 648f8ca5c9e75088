import McpgOperator.Leader.Lease
import McpgOperator.Leader.Process

/-!
# `run_loop`, request by request

The election loop with the requests of an attempt one by one, and with every
point where a call of `shutdown()` can find it. The `Notify` it waits on has
no memory: a call reaches the `Notified` that exists at that moment, if any,
and is forgotten otherwise. The `select!` of the loop holds one from its head
to the end of the attempt, `sleep_or_shutdown` holds another while it sleeps,
and between the two there is none.

A poll of the `select!` looks at its shutdown branch first and then lets the
attempt go on, up to its next request. A call in the middle of such a poll
is seen by the next one, after that request; `entered` and `deciding` are
those moments, with whether a call has come.
-/

namespace McpgOperator.Leader.RunLoop

open McpgOperator.Kube

/-- Where the loop stands, with the sleep it goes on to. -/
inductive Phase
  | turning
  | entered (notified : Bool)
  | getting
  | deciding (op : LeaseOp) (notified : Bool)
  | writing
  | settling (period : Duration)
  | sleeping (period : Duration)
  | interrupted
  | releasing
  | returned
  deriving DecidableEq, Repr

/-- What the loop sends; the release carries its `renewTime`. -/
inductive LoopRequest
  | get
  | write (request : WriteRequest)
  | release (renewTime : Timestamp)
  deriving DecidableEq, Repr

/-- It acquires or renews the Lease. -/
def LoopRequest.acquires : LoopRequest → Bool
  | .write _ => true
  | _ => false

def LoopRequest.isRelease : LoopRequest → Bool
  | .release _ => true
  | _ => false

structure State where
  isLeader : Bool
  phase : Phase
  issued : List LoopRequest
  deriving DecidableEq, Repr

def start : State := { isLeader := false, phase := .turning, issued := [] }

/-- The arm of an outcome: the flag, and how long to sleep. -/
def State.settle (cfg : LeaderElectionConfig) (s : State)
    (outcome : Except KubeError Bool) : State :=
  match outcome with
  | .ok true =>
      { s with isLeader := true, phase := .settling cfg.renewDeadline }
  | .ok false =>
      { s with isLeader := false, phase := .settling cfg.retryPeriod }
  | .error _ =>
      { s with isLeader := false, phase := .settling cfg.retryPeriod }

/-- `LeaderElection::shutdown`: a parked `select!` is woken into its
shutdown branch, one in the middle of a poll is left a mark, and a sleep
ends early. -/
def State.shutdown (s : State) : State :=
  match s.phase with
  | .entered _ => { s with phase := .entered true }
  | .deciding op _ => { s with phase := .deciding op true }
  | .getting | .writing => { s with phase := .interrupted }
  | .sleeping _ => { s with phase := .turning }
  | .turning | .settling _ | .interrupted | .releasing | .returned => s

inductive Event
  /-- The loop enters its `select!`. -/
  | enter
  /-- The attempt sends its GET. -/
  | get
  /-- The GET is answered, and the clock read. -/
  | got (answer : Except KubeError Lease) (now : Timestamp)
  /-- The attempt sends its write. -/
  | write (now : Timestamp)
  | wrote (answer : Except KubeError Lease)
  /-- The loop enters `sleep_or_shutdown`. -/
  | sleep
  /-- The sleep is over. -/
  | wake
  /-- The shutdown branch runs. -/
  | yieldLease (now : Timestamp)
  | released (answer : Except KubeError Unit)
  /-- Somebody calls `shutdown()`. -/
  | shutdown
  deriving DecidableEq

/-- Parks the `select!` on the next request, or not at all where a call has
come. -/
def park (notified : Bool) (phase : Phase) : Phase :=
  if notified then .interrupted else phase

def State.step (cfg : LeaderElectionConfig) (s : State) (e : Event) :
    Option State :=
  match e, s.phase with
  | .enter, .turning => some { s with phase := .entered false }
  | .get, .entered notified =>
      some
        { s with
          phase := park notified .getting
          issued := s.issued ++ [.get] }
  | .got answer now, .getting =>
      match afterGet cfg answer now with
      | .write op => some { s with phase := .deciding op false }
      | .done outcome => some (s.settle cfg outcome)
  | .write now, .deciding op notified =>
      some
        { s with
          phase := park notified .writing
          issued := s.issued ++ [.write (op.request cfg now)] }
  | .wrote answer, .writing => some (s.settle cfg (afterWrite answer))
  | .sleep, .settling period => some { s with phase := .sleeping period }
  | .wake, .sleeping _ => some { s with phase := .turning }
  | .yieldLease now, .interrupted =>
      if s.isLeader then
        some
          { isLeader := false, phase := .releasing
            issued := s.issued ++ [.release (microTime now)] }
      else some { s with phase := .returned }
  | .released _, .releasing => some { s with phase := .returned }
  | .shutdown, _ => some s.shutdown
  | _, _ => none

/-- The loop, with whatever the apiserver answers and `shutdown()` called at
any moment. -/
def runLoop (cfg : LeaderElectionConfig) :
    Transition.System State Event where
  init := fun s => s = start
  step := State.step cfg

/-- What a step does, case by case. -/
inductive Steps (cfg : LeaderElectionConfig) (s : State) : Event → State → Prop
  | enter (h : s.phase = .turning) :
      Steps cfg s .enter { s with phase := .entered false }
  | get {notified : Bool} (h : s.phase = .entered notified) :
      Steps cfg s .get
        { s with
          phase := park notified .getting
          issued := s.issued ++ [.get] }
  | decided {answer : Except KubeError Lease} {now : Timestamp} {op : LeaseOp}
      (h : s.phase = .getting) (hget : afterGet cfg answer now = .write op) :
      Steps cfg s (.got answer now) { s with phase := .deciding op false }
  | ended {answer : Except KubeError Lease} {now : Timestamp}
      {outcome : Except KubeError Bool} (h : s.phase = .getting)
      (hget : afterGet cfg answer now = .done outcome) :
      Steps cfg s (.got answer now) (s.settle cfg outcome)
  | write {now : Timestamp} {op : LeaseOp} {notified : Bool}
      (h : s.phase = .deciding op notified) :
      Steps cfg s (.write now)
        { s with
          phase := park notified .writing
          issued := s.issued ++ [.write (op.request cfg now)] }
  | wrote {answer : Except KubeError Lease} (h : s.phase = .writing) :
      Steps cfg s (.wrote answer) (s.settle cfg (afterWrite answer))
  | sleep {period : Duration} (h : s.phase = .settling period) :
      Steps cfg s .sleep { s with phase := .sleeping period }
  | wake {period : Duration} (h : s.phase = .sleeping period) :
      Steps cfg s .wake { s with phase := .turning }
  | yields {now : Timestamp} (h : s.phase = .interrupted)
      (hleads : s.isLeader = true) :
      Steps cfg s (.yieldLease now)
        { isLeader := false, phase := .releasing
          issued := s.issued ++ [.release (microTime now)] }
  | leaves {now : Timestamp} (h : s.phase = .interrupted)
      (hleads : s.isLeader = false) :
      Steps cfg s (.yieldLease now) { s with phase := .returned }
  | released {answer : Except KubeError Unit} (h : s.phase = .releasing) :
      Steps cfg s (.released answer) { s with phase := .returned }
  | shutdown : Steps cfg s .shutdown s.shutdown

theorem steps_of_step {cfg : LeaderElectionConfig} {s s' : State} {e : Event}
    (h : s.step cfg e = some s') : Steps cfg s e s' := by
  unfold State.step at h
  split at h
  · next hphase => cases h; exact .enter hphase
  · next notified hphase => cases h; exact .get hphase
  · next answer now hphase =>
      split at h
      · next op hget => cases h; exact .decided hphase hget
      · next outcome hget => cases h; exact .ended hphase hget
  · next now op notified hphase => cases h; exact .write hphase
  · next answer hphase => cases h; exact .wrote hphase
  · next period hphase => cases h; exact .sleep hphase
  · next period hphase => cases h; exact .wake hphase
  · next now hphase =>
      split at h
      · next hleads => cases h; exact .yields hphase hleads
      · next hleads =>
          cases h
          exact .leaves hphase (Bool.eq_false_iff.mpr hleads)
  · next answer hphase => cases h; exact .released hphase
  · cases h; exact .shutdown
  · cases h

/-! ## The loop of the process -/

/-- The phase as `Process` has it, which takes an attempt as one step. -/
def Phase.coarse : Phase → LoopPhase
  | .turning => .turning
  | .entered false | .getting | .deciding _ false | .writing => .attempting
  | .settling _ => .settling
  | .sleeping _ => .sleeping
  | .entered true | .deciding _ true | .interrupted => .interrupted
  | .releasing => .releasing
  | .returned => .returned

/-- The process whose loop this is. -/
def State.Within (s : State) (p : Process) : Prop :=
  p.loop = s.phase.coarse ∧ p.isLeader = s.isLeader

end McpgOperator.Leader.RunLoop
