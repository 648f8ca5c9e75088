import McpgOperator.Leader.Process
import Mathlib.Tactic.Common

/-!
# The leader gate opens once

`main` consults the flag before it spawns the controllers and never again:
no arm of its final `select!` looks at the election, and the controllers end
on a signal, not on a lost lease. So the flag and the controllers agree
exactly as long as nothing clears the flag behind an open gate. The run that
does is short: acquire, pass the gate, lose the lease on the next renewal.
-/

namespace McpgOperator.Leader

open McpgOperator.Kube Transition

variable {p p' : Process}

@[simp] theorem notifyTransition_isLeader :
    p.notifyTransition.isLeader = p.isLeader := by
  unfold Process.notifyTransition
  split <;> rfl

@[simp] theorem notifyTransition_controllers :
    p.notifyTransition.controllers = p.controllers := by
  unfold Process.notifyTransition
  split <;> rfl

/-- A notification never opens the gate by itself. -/
theorem notifyTransition_admitted {p : Process}
    (h : p.notifyTransition.main = .admitted) : p.main = .admitted := by
  unfold Process.notifyTransition at h
  split at h
  · cases h
  · exact h

@[simp] theorem setLeader_isLeader (flag : Bool) :
    (p.setLeader flag).isLeader = flag := by
  unfold Process.setLeader
  split
  · next h => exact h
  · simp

theorem setLeader_gateOpen {flag : Bool}
    (h : (p.setLeader flag).gateOpen) : p.gateOpen := by
  unfold Process.setLeader at h
  split at h
  · exact h
  · rcases h with h | h
    · have hadm := notifyTransition_admitted h
      exact .inl hadm
    · rw [notifyTransition_controllers] at h
      exact .inr h

@[simp] theorem notifyShutdown_isLeader :
    p.notifyShutdown.isLeader = p.isLeader := by
  unfold Process.notifyShutdown
  split <;> rfl

@[simp] theorem notifyShutdown_controllers :
    p.notifyShutdown.controllers = p.controllers := by
  unfold Process.notifyShutdown
  split <;> rfl

@[simp] theorem notifyShutdown_main : p.notifyShutdown.main = p.main := by
  unfold Process.notifyShutdown
  split <;> rfl

theorem not_gateOpen_exit : ¬ p.exit.gateOpen := by
  rintro (h | h) <;> cases h

/-- Behind an open gate the flag is set. -/
def Process.Guarded (p : Process) : Prop :=
  p.gateOpen → p.isLeader = true

/-- After a step the gate is closed; or it was open and the flag did not
move; or the flag is set; or the step lost the lease behind an open gate. -/
theorem step_gate {e : Event} (h : p.step e = some p')
    (hopen : p'.gateOpen) :
    (p.gateOpen ∧ p'.isLeader = p.isLeader) ∨ p'.isLeader = true ∨
      ¬ noLossWhileOpen p e := by
  cases e with
  | attempt | sleep | wake =>
      simp only [Process.step] at h
      split at h
      · cases h
        exact .inl ⟨hopen, rfl⟩
      · cases h
  | outcome result =>
      simp only [Process.step] at h
      split at h
      · cases result with
        | ok held =>
            cases h
            cases held with
            | true => exact .inr (.inl (setLeader_isLeader true))
            | false =>
                have hgate : p.gateOpen := setLeader_gateOpen hopen
                exact .inr (.inr fun hok => by cases hok hgate)
        | error err =>
            cases h
            have hgate : p.gateOpen := setLeader_gateOpen hopen
            exact .inr (.inr fun hok => by cases hok hgate)
      · cases h
  | yieldLease =>
      simp only [Process.step] at h
      split at h
      · split at h
        · cases h
          exact .inr (.inr fun hok => hok hopen)
        · cases h
          exact .inl ⟨hopen, rfl⟩
      · cases h
  | released result =>
      simp only [Process.step] at h
      split at h
      · cases h
        refine .inl ⟨?_, notifyTransition_isLeader⟩
        rcases hopen with hmain | hctl
        · have hadm := notifyTransition_admitted hmain
          exact .inl hadm
        · rw [notifyTransition_controllers] at hctl
          exact .inr hctl
      · cases h
  | check =>
      simp only [Process.step] at h
      split at h
      · cases h
        by_cases hflag : p.isLeader = true
        · exact .inr (.inl hflag)
        · rw [if_neg hflag] at hopen
          rcases hopen with hmain | hctl
          · cases hmain
          · exact .inl ⟨.inr hctl, rfl⟩
      · cases h
  | register =>
      simp only [Process.step] at h
      split at h
      · cases h
        rcases hopen with hmain | hctl
        · cases hmain
        · exact .inl ⟨.inr hctl, rfl⟩
      · cases h
  | spawn =>
      simp only [Process.step] at h
      split at h
      · next hmain =>
          cases h
          exact .inl ⟨.inl hmain, rfl⟩
      · cases h
  | signal =>
      simp only [Process.step] at h
      split at h
      · cases h
        exact absurd hopen not_gateOpen_exit
      · cases h
        exact absurd hopen not_gateOpen_exit
      · cases h
        exact absurd hopen not_gateOpen_exit
      · cases h
        exact absurd hopen not_gateOpen_exit
      · cases h
        refine .inl ⟨?_, notifyShutdown_isLeader⟩
        rcases hopen with hmain | hctl
        · rw [notifyShutdown_main] at hmain
          cases hmain
        · rw [notifyShutdown_controllers] at hctl
          exact .inr hctl
      · cases h
      · cases h
  | controllersEnd =>
      simp only [Process.step] at h
      split at h
      · cases h
        rcases hopen with hmain | hctl
        · exact .inl ⟨.inl hmain, rfl⟩
        · cases hctl
      · cases h
  | finish =>
      simp only [Process.step] at h
      split at h
      · cases h
        exact absurd hopen not_gateOpen_exit
      · cases h

theorem guarded_step {e : Event} (hinv : p.Guarded)
    (hok : noLossWhileOpen p e) (h : p.step e = some p') : p'.Guarded := by
  intro hopen
  rcases step_gate h hopen with ⟨hgate, hsame⟩ | hset | hloss
  · rw [hsame]
    exact hinv hgate
  · exact hset
  · exact absurd hok hloss

/-- In every run that loses no lease behind an open gate, the reconcile
loops run only under a set flag. -/
theorem gated_of_noLossWhileOpen (p : Process)
    (h : Reachable process noLossWhileOpen p) : p.gated := by
  have hguarded : p.Guarded := by
    refine h.invariant ?_ (fun _ _ _ hinv hok hs => guarded_step hinv hok hs)
    rintro _ rfl hopen
    rcases hopen with hmain | hctl
    · cases hmain
    · cases hctl
  exact fun hrunning => hguarded (.inr hrunning)

/-! ## Losing the lease afterwards -/

/-- Acquire, pass the gate, spawn. -/
def acquired : List Event :=
  [.attempt, .outcome (.ok true), .check, .spawn, .sleep]

/-- The next renewal finds that a peer took over. -/
def lost : List Event :=
  acquired ++ [.wake, .attempt, .outcome (.ok false)]

def afterLoss : Process :=
  { isLeader := false, loop := .settling, main := .serving,
    controllers := .running }

/-- Unrestricted runs reach a state whose controllers run without the
lease. -/
theorem not_gated_lost :
    ¬ ∀ p, Reachable process anyStep p → p.gated := by
  intro hall
  have hrun : process.run .start lost = some afterLoss := by decide
  have hreach : Reachable process anyStep afterLoss :=
    .of_run (.init rfl) (System.permitted_anyStep ..) hrun
  exact absurd (hall afterLoss hreach rfl) (by decide)

/-- Two renewals behind the open gate. -/
def renewed : List Event :=
  acquired ++ [.wake, .attempt, .outcome (.ok true), .sleep, .wake, .attempt,
    .outcome (.ok true)]

def afterRenewals : Process :=
  { isLeader := true, loop := .settling, main := .serving,
    controllers := .running }

theorem gated_acquired :
    afterRenewals.controllers = .running ∧ afterRenewals.gated := by
  have hrun : process.checkedRun noLossWhileOpen .start renewed =
      some afterRenewals := by
    decide
  exact ⟨rfl,
    gated_of_noLossWhileOpen _ (.of_checkedRun (.init rfl) hrun)⟩

end McpgOperator.Leader
