import McpgOperator.Lib.Transition

/-!
# The three health endpoints

`readiness.rs`, `admission/metrics.rs`, and what feeds them: the task of
`controllers/gateway.rs` that waits for the gateway store, and `main` from
the spawn of the controllers on.

Three tasks and `main` run side by side. The store's oneshot keeps one waker,
that of whoever polled it last, and the applier of the controller polls it
too; so the announcing task looks again every second. The gate waits on a
`watch` channel, which counts its sends: `changed()` comes back at once where
the count is not the one seen last. A task that is aborted in the middle of a
poll goes on to the end of that poll.
-/

namespace McpgOperator.Readiness

/-- The reflector store's initial LIST: not done, done, or its writer is
gone. -/
inductive StoreInit
  | pending
  | ready
  | dropped
  deriving DecidableEq, Repr

/-- Who waits for the store. -/
inductive Waiter
  | applier
  | announcer
  deriving DecidableEq, Repr

/-- The task that announces the store: about to poll its wait, parked with a
second on the clock, or ended. -/
inductive Announcer
  | woken
  | parked
  | announced
  | gaveUp
  deriving DecidableEq, Repr

/-- `gate_ready`. The three phases from `checking` to `storing` are within a
poll; `seen` is the count of sends it has seen. -/
inductive Gate
  | unspawned
  | queued
  | checking
  | changing (seen : Nat)
  | storing
  | parked (seen : Nat)
  | finished
  | cancelled
  deriving DecidableEq, Repr

/-- The gate is being polled. -/
def Gate.polling : Gate → Bool
  | .checking | .changing _ | .storing => true
  | _ => false

/-- `main`, by the statement it comes to next: the flag of `/readyz`, the
spawn of the gate, the signal, and then the abort and the three flags. -/
inductive Main
  | starting
  | spawning
  | serving
  | signalled
  | aborted
  | unhealthy
  | unready
  | draining
  deriving DecidableEq, Repr

structure State where
  store : StoreInit
  slot : Option Waiter
  announcer : Announcer
  /-- The `watch` channel: its value, and how often it was sent to. -/
  synced : Bool
  version : Nat
  gate : Gate
  /-- The abort found the gate within a poll. -/
  caught : Bool
  healthy : Bool
  ready : Bool
  reconcileReady : Bool
  main : Main
  deriving DecidableEq, Repr

def start : State where
  store := .pending
  slot := none
  announcer := .woken
  synced := false
  version := 0
  gate := .unspawned
  caught := false
  healthy := true
  ready := false
  reconcileReady := false
  main := .starting

/-! ## The endpoints -/

/-- Status code and body. -/
def answer (flag : Bool) (ok unavailable : String) : Nat × String :=
  if flag then (200, ok) else (503, unavailable)

def healthzHandler (s : State) : Nat × String :=
  answer s.healthy "ok\n" "unhealthy\n"

def readyzHandler (s : State) : Nat × String :=
  answer s.ready "ready\n" "not ready\n"

def reconcilezHandler (s : State) : Nat × String :=
  answer s.reconcileReady "reconciling\n" "watch not synced\n"

/-! ## The tasks -/

/-- The oneshot fires: it wakes the waker it has. -/
def State.fire (s : State) (store : StoreInit) : State :=
  { s with
    store := store
    slot := none
    announcer :=
      if s.slot = some .announcer ∧ s.announcer = .parked then .woken
      else s.announcer }

/-- `mark_synced`: `send_replace` wakes a parked receiver. -/
def State.markSynced (s : State) : State :=
  { s with
    synced := true
    version := s.version + 1
    gate :=
      match s.gate with
      | .parked _ => .queued
      | gate => gate }

/-- The announcing task is polled. -/
def State.announce (s : State) : State :=
  match s.store with
  | .pending => { s with announcer := .parked, slot := some .announcer }
  | .ready => { s.markSynced with announcer := .announced }
  | .dropped => { s with announcer := .gaveUp }

/-- What the gate does next within a poll. -/
def State.gateStep (s : State) : Option State :=
  match s.gate with
  | .checking =>
      some
        { s with gate := if s.synced then .storing else .changing s.version }
  | .changing seen =>
      if seen ≠ s.version then some { s with gate := .checking }
      else
        some { s with gate := if s.caught then .cancelled else .parked seen }
  | .storing => some { s with gate := .finished, reconcileReady := true }
  | _ => none

/-- `reconcile_gate.abort()`. -/
def State.abort (s : State) : State :=
  match s.gate with
  | .unspawned | .queued | .parked _ => { s with gate := .cancelled }
  | .checking | .changing _ | .storing => { s with caught := true }
  | .finished | .cancelled => s

def State.mainStep (s : State) : Option State :=
  match s.main with
  | .starting => some { s with ready := true, main := .spawning }
  | .spawning => some { s with gate := .queued, main := .serving }
  | .serving => none
  | .signalled => some { s.abort with main := .aborted }
  | .aborted => some { s with healthy := false, main := .unhealthy }
  | .unhealthy => some { s with ready := false, main := .unready }
  | .unready => some { s with reconcileReady := false, main := .draining }
  | .draining => none

inductive Event
  /-- The applier polls its own wait for the store. -/
  | applierPolls
  /-- The initial LIST is complete, also where it is empty. -/
  | initDone
  | writerDropped
  /-- The announcing task's second is over. -/
  | elapse
  | announce
  /-- The gate is polled. -/
  | poll
  | gateStep
  | mainStep
  /-- Ctrl-c or SIGTERM. -/
  | signal
  deriving DecidableEq, Repr

def State.step (s : State) : Event → Option State
  | .applierPolls =>
      if s.store = .pending then some { s with slot := some .applier }
      else some s
  | .initDone => if s.store = .pending then some (s.fire .ready) else none
  | .writerDropped =>
      if s.store = .pending then some (s.fire .dropped) else none
  | .elapse =>
      if s.announcer = .parked then some { s with announcer := .woken }
      else none
  | .announce => if s.announcer = .woken then some s.announce else none
  | .poll =>
      if s.gate = .queued then some { s with gate := .checking } else none
  | .gateStep => s.gateStep
  | .mainStep => s.mainStep
  | .signal =>
      if s.main = .serving then some { s with main := .signalled } else none

def system : Transition.System State Event where
  init s := s = start
  step := State.step

end McpgOperator.Readiness
