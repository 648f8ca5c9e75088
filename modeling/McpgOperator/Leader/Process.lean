import McpgOperator.Kube.Api
import McpgOperator.Lib.Transition

/-!
# The operator process: the election loop and `main`

Two tasks share the `is_leader` flag and two `Notify` handles. `run_loop`
repeats an attempt and a sleep, and sets the flag from every attempt's
result. `main` waits until it reads the flag as true, spawns the controllers,
waits for a signal, asks the loop to shut down and drains. The controllers
end on the same signal by their own `shutdown_on_signal`, or when they fail.

`notify_waiters` reaches only a waiter that is registered when it is called,
so both tasks keep apart the points where they wait from the points where
they do not.
-/

namespace McpgOperator.Leader

open McpgOperator.Kube

/-- Where `run_loop` stands. A waiter on `shutdown` is registered while an
attempt is in flight and while it sleeps. -/
inductive LoopPhase
  | turning
  | attempting
  | settling
  | sleeping
  | interrupted
  | releasing
  | returned
  deriving DecidableEq, Repr

/-- Where `main` stands from `wait_until_leader` on. -/
inductive MainPhase
  | checking
  | registering
  | awaiting
  | admitted
  | serving
  | draining
  | exited
  deriving DecidableEq, Repr

/-- The nine spawned controllers: running while any of them may start a
reconcile. -/
inductive Controllers
  | notSpawned
  | running
  | stopped
  deriving DecidableEq, Repr

structure Process where
  isLeader : Bool
  loop : LoopPhase
  main : MainPhase
  controllers : Controllers
  deriving DecidableEq, Repr

def Process.start : Process :=
  { isLeader := false, loop := .turning, main := .checking,
    controllers := .notSpawned }

/-- `transition.notify_waiters()`. -/
def Process.notifyTransition (p : Process) : Process :=
  match p.main with
  | .awaiting => { p with main := .checking }
  | _ => p

/-- `is_leader.swap(flag)`, with the notification when it changed. -/
def Process.setLeader (p : Process) (flag : Bool) : Process :=
  if p.isLeader = flag then p
  else ({ p with isLeader := flag } : Process).notifyTransition

/-- `le.shutdown()`: the attempt's `select!` takes its shutdown branch, a
sleep only ends early, and nobody else hears it. -/
def Process.notifyShutdown (p : Process) : Process :=
  match p.loop with
  | .attempting => { p with loop := .interrupted }
  | .sleeping => { p with loop := .turning }
  | _ => p

def Process.exit (p : Process) : Process :=
  { p with main := .exited, controllers := .stopped, loop := .returned }

inductive Event
  /-- The loop enters its `select!`. -/
  | attempt
  /-- `try_acquire_or_renew` returns. -/
  | outcome (result : Except KubeError Bool)
  /-- The loop enters `sleep_or_shutdown`. -/
  | sleep
  | wake
  /-- The shutdown branch of the `select!`. -/
  | yieldLease
  | released (result : Except KubeError Unit)
  /-- `wait_until_leader` loads the flag. -/
  | check
  /-- It registers on `transition`. -/
  | register
  | spawn
  /-- SIGTERM or ctrl-c. -/
  | signal
  /-- The last controller ends. -/
  | controllersEnd
  /-- `main` returns. -/
  | finish
  deriving DecidableEq

def Process.step (p : Process) : Event → Option Process
  | .attempt =>
      if p.loop = .turning then some { p with loop := .attempting } else none
  | .outcome result =>
      if p.loop = .attempting then
        match result with
        | .ok held => some { p.setLeader held with loop := .settling }
        | .error _ => some { p.setLeader false with loop := .settling }
      else none
  | .sleep =>
      if p.loop = .settling then some { p with loop := .sleeping } else none
  | .wake =>
      if p.loop = .sleeping then some { p with loop := .turning } else none
  | .yieldLease =>
      if p.loop = .interrupted then
        if p.isLeader then
          some { p with isLeader := false, loop := .releasing }
        else some { p with loop := .returned }
      else none
  | .released _ =>
      if p.loop = .releasing then
        some ({ p with loop := .returned } : Process).notifyTransition
      else none
  | .check =>
      if p.main = .checking then
        some { p with main := if p.isLeader then .admitted else .registering }
      else none
  | .register =>
      if p.main = .registering then some { p with main := .awaiting }
      else none
  | .spawn =>
      if p.main = .admitted then
        some { p with main := .serving, controllers := .running }
      else none
  | .signal =>
      match p.main with
      -- no handler is installed yet: the default action ends the process
      | .checking | .registering | .awaiting | .admitted => some p.exit
      | .serving =>
          some ({ p with main := .draining } : Process).notifyShutdown
      | .draining | .exited => none
  | .controllersEnd =>
      if p.controllers = .running then some { p with controllers := .stopped }
      else none
  | .finish => if p.main = .draining then some p.exit else none

/-- The process from the start of the election, with the signals and lease
outcomes in any order. -/
def process : Transition.System Process Event where
  init := fun p => p = .start
  step := Process.step

/-- The reconcile loops run only while the flag says this replica leads. -/
def Process.gated (p : Process) : Prop :=
  p.controllers = .running → p.isLeader = true

/-- The gate is open: `main` read the flag as true, and the controllers it
goes on to spawn have not ended. -/
def Process.gateOpen (p : Process) : Prop :=
  p.main = .admitted ∨ p.controllers = .running

/-- Once the gate is open, no attempt returns anything but `Ok(true)` and
the loop does not take its shutdown branch, until the controllers have
ended. -/
def noLossWhileOpen (p : Process) : Event → Prop
  | .outcome result => p.gateOpen → result = .ok true
  | .yieldLease => ¬ p.gateOpen
  | _ => True

instance (p : Process) : Decidable p.gateOpen :=
  inferInstanceAs (Decidable (_ ∨ _))

instance (p : Process) : (e : Event) → Decidable (noLossWhileOpen p e)
  | .outcome _ => inferInstanceAs (Decidable (_ → _))
  | .yieldLease => inferInstanceAs (Decidable (¬ _))
  | .attempt | .sleep | .wake | .released _ | .check | .register | .spawn
  | .signal | .controllersEnd | .finish => isTrue trivial

end McpgOperator.Leader
