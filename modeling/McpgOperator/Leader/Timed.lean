import McpgOperator.Leader.Replicas
import McpgOperator.Leader.RunLoop
import Mathlib.Data.Fintype.Basic

/-!
# The election against the clock

The replicas of `Replicas`, with the sleeps of `run_loop` between their
attempts. Each carries one instant: while it sleeps, when the sleep is over;
in an attempt, when the attempt began. An attempt begins no earlier than the
sleep before it ends. How late it may begin and how long it may take is not
up to the code; both are assumed where a result needs them.
-/

namespace McpgOperator.Leader

open McpgOperator.Kube

/-- What `sleep_or_shutdown` is called with behind an attempt. -/
def sleepFor (cfg : LeaderElectionConfig) : Except KubeError Bool → Duration
  | .ok true => cfg.renewDeadline
  | .ok false => cfg.retryPeriod
  | .error _ => cfg.retryPeriod

/-- The loop goes on to this sleep. -/
theorem settle_phase (cfg : LeaderElectionConfig) (s : RunLoop.State)
    (outcome : Except KubeError Bool) :
    (s.settle cfg outcome).phase = .settling (sleepFor cfg outcome) := by
  rcases outcome with e | b
  · rfl
  · cases b <;> rfl

structure TimedState (ι : Type) where
  base : State ι
  /-- The end of the sleep, or the beginning of the attempt. -/
  mark : ι → Int

variable {ι : Type} [DecidableEq ι]

abbrev TimedState.now (s : TimedState ι) : Int := s.base.now

def TimedState.setMark (s : TimedState ι) (i : ι) (t : Int) :
    TimedState ι :=
  { s with mark := Function.update s.mark i t }

/-- A replica that has just completed an attempt goes to sleep. -/
def TimedState.settle (f : Fleet ι) (s : TimedState ι) (i : ι) :
    TimedState ι :=
  match (s.base.replica i).phase, (s.base.replica i).last with
  | .idle, some result =>
      s.setMark i (s.base.now + sleepFor (f.cfg i) result)
  | _, _ => s

def timedStep (f : Fleet ι) (s : TimedState ι) (a : Action ι) :
    Option (TimedState ι) :=
  match a with
  | .get i | .getFails i _ =>
      if s.mark i ≤ s.base.now then
        (step f s.base a).map fun b =>
          ({ s with base := b } : TimedState ι).setMark i s.base.now
      else none
  | .decide i | .finish i =>
      (step f s.base a).map fun b =>
        ({ s with base := b } : TimedState ι).settle f i
  | .tick _ | .send _ | .serve _ | .lose _ _ =>
      (step f s.base a).map fun b => { s with base := b }

/-- What a step does, case by case. -/
inductive TimedSteps (f : Fleet ι) (s : TimedState ι) :
    Action ι → TimedState ι → Prop
  | tick (elapsed : Nat) :
      TimedSteps f s (.tick elapsed)
        { s with base := { s.base with now := s.base.now + elapsed } }
  | get {i : ι} (h : (s.base.replica i).phase = .idle)
      (hwoken : s.mark i ≤ s.base.now) :
      TimedSteps f s (.get i)
        (({ s with
            base := s.base.setPhase i (.read (getLease s.base.lease)) } :
          TimedState ι).setMark i s.base.now)
  | getFails {i : ι} {e : KubeError} (h : (s.base.replica i).phase = .idle)
      (hwoken : s.mark i ≤ s.base.now) :
      TimedSteps f s (.getFails i e)
        (({ s with base := s.base.setPhase i (.read (.error e)) } :
          TimedState ι).setMark i s.base.now)
  | chooses {i : ι} {answer : Except KubeError Lease} {op : LeaseOp}
      (h : (s.base.replica i).phase = .read answer)
      (hget : afterGet (f.cfg i) answer s.base.now = .write op) :
      TimedSteps f s (.decide i)
        { s with base := s.base.setPhase i (.chosen op) }
  | ends {i : ι} {answer : Except KubeError Lease}
      {result : Except KubeError Bool}
      (h : (s.base.replica i).phase = .read answer)
      (hget : afterGet (f.cfg i) answer s.base.now = .done result) :
      TimedSteps f s (.decide i)
        (({ s with base := s.base.complete i result none } :
          TimedState ι).setMark i (s.base.now + sleepFor (f.cfg i) result))
  | send {i : ι} {op : LeaseOp}
      (h : (s.base.replica i).phase = .chosen op) :
      TimedSteps f s (.send i)
        { s with
          base := s.base.setPhase i
            (.sent op (microTime s.base.now)
              (op.request (f.cfg i) s.base.now)) }
  | serves {i : ι} {op : LeaseOp} {t : Timestamp} {req : WriteRequest}
      {l : Lease} (h : (s.base.replica i).phase = .sent op t req)
      (hok : applyWrite s.base.lease req = .ok l) :
      TimedSteps f s (.serve i)
        { s with
          base := ({ s.base with lease := some l } : State ι).setPhase i
            (.answered t (.ok l)) }
  | refuses {i : ι} {op : LeaseOp} {t : Timestamp} {req : WriteRequest}
      {e : KubeError} (h : (s.base.replica i).phase = .sent op t req)
      (herror : applyWrite s.base.lease req = .error e) :
      TimedSteps f s (.serve i)
        { s with base := s.base.setPhase i (.answered t (.error e)) }
  | loses {i : ι} {e : KubeError} {t : Timestamp}
      (h : (∃ op req, (s.base.replica i).phase = .sent op t req) ∨
        ∃ answer, (s.base.replica i).phase = .answered t answer) :
      TimedSteps f s (.lose i e)
        { s with base := s.base.setPhase i (.answered t (.error e)) }
  | succeeds {i : ι} {t : Timestamp} {l : Lease}
      (h : (s.base.replica i).phase = .answered t (.ok l)) :
      TimedSteps f s (.finish i)
        (({ s with base := s.base.complete i (.ok true) (some t) } :
          TimedState ι).setMark i (s.base.now + (f.cfg i).renewDeadline))
  | fails {i : ι} {t : Timestamp} {e : KubeError}
      (h : (s.base.replica i).phase = .answered t (.error e)) :
      TimedSteps f s (.finish i)
        (({ s with base := s.base.complete i (.error e) none } :
          TimedState ι).setMark i (s.base.now + (f.cfg i).retryPeriod))

theorem settle_of_phase_ne_idle {f : Fleet ι} {s : TimedState ι} {i : ι}
    (h : (s.base.replica i).phase ≠ .idle) : s.settle f i = s := by
  unfold TimedState.settle
  split
  · next hidle _ => exact absurd hidle h
  · rfl

theorem settle_complete {f : Fleet ι} {s : TimedState ι} {i : ι}
    {result : Except KubeError Bool} {wrote : Option Timestamp} :
    ({ s with base := s.base.complete i result wrote } :
      TimedState ι).settle f i =
      ({ s with base := s.base.complete i result wrote } :
        TimedState ι).setMark i (s.base.now + sleepFor (f.cfg i) result) := by
  unfold TimedState.settle State.complete State.setReplica
  simp only [Function.update_self]

theorem timedSteps_of_timedStep {f : Fleet ι} {s s' : TimedState ι}
    {a : Action ι} (h : timedStep f s a = some s') : TimedSteps f s a s' := by
  cases a with
  | tick elapsed =>
      cases h
      exact .tick elapsed
  | get i =>
      obtain ⟨hwoken, h⟩ := Option.ite_none_right_eq_some.mp h
      obtain ⟨b, hb, rfl⟩ := Option.map_eq_some_iff.mp h
      simp only [step] at hb
      split at hb
      · next hidle =>
          cases hb
          exact .get hidle hwoken
      · cases hb
  | getFails i e =>
      obtain ⟨hwoken, h⟩ := Option.ite_none_right_eq_some.mp h
      obtain ⟨b, hb, rfl⟩ := Option.map_eq_some_iff.mp h
      simp only [step] at hb
      split at hb
      · next hidle =>
          cases hb
          exact .getFails hidle hwoken
      · cases hb
  | decide i =>
      obtain ⟨b, hb, rfl⟩ := Option.map_eq_some_iff.mp h
      simp only [step] at hb
      split at hb
      · next answer hread =>
          split at hb
          · next op hop =>
              cases hb
              rw [settle_of_phase_ne_idle (by simp [State.setPhase,
                State.setReplica])]
              exact .chooses hread hop
          · next result hdone =>
              cases hb
              rw [settle_complete]
              exact .ends hread hdone
      · cases hb
  | send i =>
      obtain ⟨b, hb, rfl⟩ := Option.map_eq_some_iff.mp h
      simp only [step] at hb
      split at hb
      · next op hchosen =>
          cases hb
          exact .send hchosen
      · cases hb
  | serve i =>
      obtain ⟨b, hb, rfl⟩ := Option.map_eq_some_iff.mp h
      simp only [step] at hb
      split at hb
      · next op t req hsent =>
          split at hb
          · next l hok =>
              cases hb
              exact .serves hsent hok
          · next e herror =>
              cases hb
              exact .refuses hsent herror
      · cases hb
  | lose i e =>
      obtain ⟨b, hb, rfl⟩ := Option.map_eq_some_iff.mp h
      simp only [step] at hb
      split at hb
      · next op t req hsent =>
          cases hb
          exact .loses (.inl ⟨op, req, hsent⟩)
      · next t answer hanswered =>
          cases hb
          exact .loses (.inr ⟨answer, hanswered⟩)
      · cases hb
  | finish i =>
      obtain ⟨b, hb, rfl⟩ := Option.map_eq_some_iff.mp h
      simp only [step] at hb
      split at hb
      · next t answer hanswered =>
          cases answer with
          | ok l =>
              cases hb
              rw [settle_complete]
              exact .succeeds hanswered
          | error e =>
              cases hb
              rw [settle_complete]
              exact .fails hanswered
      · cases hb

/-- Every replica before its first attempt, which may begin at any time. -/
def timedElection (f : Fleet ι) :
    Transition.System (TimedState ι) (Action ι) where
  init s := ∀ i, s.base.replica i = .start
  step := timedStep f

/-! ## What the environment is trusted with -/

/-- No attempt takes longer than `latency`, and no sleep of `i` is followed
by its attempt later than `lateness`. -/
def inTime (s : TimedState ι) (i : ι) (lateness latency elapsed : Nat) :
    Prop :=
  (∀ j, (s.base.replica j).phase ≠ .idle →
    s.now + elapsed ≤ s.mark j + latency) ∧
  ((s.base.replica i).phase = .idle →
    s.now + elapsed ≤ s.mark i + lateness)

/-- Replica `i` is attended to: its requests are answered and it is in
time. -/
def attended (i : ι) (lateness latency : Nat) (s : TimedState ι) :
    Action ι → Prop
  | .tick elapsed => inTime s i lateness latency elapsed
  | .getFails j _ | .lose j _ => j ≠ i
  | _ => True

instance [Fintype ι] (i : ι) (lateness latency : Nat) (s : TimedState ι) :
    (a : Action ι) → Decidable (attended i lateness latency s a)
  | .tick _ => inferInstanceAs (Decidable (_ ∧ _))
  | .getFails j _ | .lose j _ => inferInstanceAs (Decidable (j ≠ i))
  | .get _ | .decide _ | .send _ | .serve _ | .finish _ => isTrue trivial

end McpgOperator.Leader
