import McpgOperator.Readiness
import Mathlib.Tactic.Common

/-!
# What the endpoints say

`/readyz` and `/healthz` follow `main` and nothing else. `/reconcilez` never
speaks before the store has completed its initial LIST, and once it has, no
wake-up is lost on the way: the announcing task has a clock of its own, and
the gate looks at the channel again before it parks.

At shutdown `main` aborts the gate before it clears the flags, so that a
store which completes later does not raise the flag again. An abort does not
reach into a poll that is under way, and such a poll may end long after.
-/

namespace McpgOperator.Readiness

open Transition

/-! ## The invariant -/

/-- `main` has come to its abort. -/
def Main.stopping : Main → Bool
  | .starting | .spawning | .serving | .signalled => false
  | .aborted | .unhealthy | .unready | .draining => true

/-- What the gate has seen of the channel. -/
def Gate.Seen (synced : Bool) (version : Nat) : Gate → Prop
  | .changing seen => seen ≤ version ∧ (seen = version ↔ synced = false)
  | .parked seen => seen = version ∧ synced = false
  | .storing | .finished => synced = true
  | _ => True

structure Inv (s : State) : Prop where
  announced : s.synced = true ↔ s.announcer = .announced
  gaveUp : s.announcer = .gaveUp → s.store = .dropped
  listed : s.synced = true → s.store = .ready
  seen : s.gate.Seen s.synced s.version
  raised : s.reconcileReady = true → s.gate = .finished
  kept : s.gate = .finished → s.main ≠ .draining → s.reconcileReady = true
  unspawned : s.gate = .unspawned ↔ s.main = .starting ∨ s.main = .spawning
  stopped : s.main.stopping = true → s.caught = false →
    s.gate = .finished ∨ s.gate = .cancelled
  cancelled : s.gate = .cancelled → s.main.stopping = true
  caught : s.caught = true → s.main.stopping = true
  withdrawn : s.main = .draining → s.reconcileReady = true → s.caught = true
  healthy : s.healthy = true ↔
    s.main ≠ .unhealthy ∧ s.main ≠ .unready ∧ s.main ≠ .draining
  ready : s.ready = true ↔
    s.main ≠ .starting ∧ s.main ≠ .unready ∧ s.main ≠ .draining

theorem inv_start : Inv start := by
  constructor <;> simp [start, Gate.Seen, Main.stopping]

/-- Until the store is announced, nobody has been told. -/
theorem unsynced_of_pending {s : State} (h : Inv s)
    (hpending : s.store ≠ .ready) : s.synced = false := by
  by_contra hsynced
  exact hpending (h.listed (Bool.not_eq_false _ ▸ hsynced))

theorem inv_fire {s : State} (h : Inv s) {store : StoreInit}
    (hpending : s.store = .pending) : Inv (s.fire store) := by
  have hunsynced : s.synced = false :=
    unsynced_of_pending h (by simp [hpending])
  have hannouncer : s.announcer ≠ .announced := fun hannounced => by
    rw [h.announced.mpr hannounced] at hunsynced
    cases hunsynced
  have hgaveUp := h.gaveUp
  refine { h with announced := ?_, gaveUp := ?_, listed := ?_ }
  · show s.synced = true ↔ (if _ then _ else _) = Announcer.announced
    rw [hunsynced]
    split
    · simp
    · simp [hannouncer]
  · show (if _ then _ else _) = Announcer.gaveUp → _
    grind
  · intro hsynced
    exact absurd (hunsynced.symm.trans hsynced) (by simp)

theorem seen_markSynced {s : State} (h : s.gate.Seen s.synced s.version) :
    s.markSynced.gate.Seen true (s.version + 1) := by
  unfold State.markSynced
  cases hgate : s.gate with
  | changing seen =>
      rw [hgate] at h
      have hne : seen ≠ s.version + 1 := Nat.ne_of_lt (Nat.lt_succ_of_le h.1)
      exact ⟨Nat.le_succ_of_le h.1, by simp [hne]⟩
  | storing => rfl
  | finished => rfl
  | _ => trivial

theorem inv_announce {s : State} (h : Inv s) (hwoken : s.announcer = .woken) :
    Inv s.announce := by
  have hunsynced : s.synced = false := by
    by_contra hsynced
    have hannounced := h.announced.mp (Bool.not_eq_false _ ▸ hsynced)
    rw [hwoken] at hannounced
    cases hannounced
  unfold State.announce
  split
  · exact
      { h with
        announced := by simp [hunsynced]
        gaveUp := by simp }
  · next hready =>
      have hgate : ∀ gate, gate ≠ .queued → (∀ seen, gate ≠ .parked seen) →
          (s.markSynced.gate = gate ↔ s.gate = gate) := by
        intro gate hqueued hparked
        unfold State.markSynced
        cases hgate : s.gate <;> grind
      exact
        { announced := by simp [State.markSynced]
          gaveUp := by simp
          listed := fun _ => hready
          seen := seen_markSynced h.seen
          raised := fun hraised =>
            (hgate _ (by simp) (by simp)).mpr (h.raised hraised)
          kept := fun hfinished =>
            h.kept ((hgate _ (by simp) (by simp)).mp hfinished)
          cancelled := fun hcancelled =>
            h.cancelled ((hgate _ (by simp) (by simp)).mp hcancelled)
          unspawned := (hgate _ (by simp) (by simp)).trans h.unspawned
          stopped := fun hstopping hcaught =>
            (h.stopped hstopping hcaught).imp
              (hgate _ (by simp) (by simp)).mpr
              (hgate _ (by simp) (by simp)).mpr
          caught := h.caught
          withdrawn := h.withdrawn
          healthy := h.healthy
          ready := h.ready }
  · next hdropped =>
      exact
        { h with
          announced := by simp [hunsynced]
          gaveUp := fun _ => hdropped }

theorem inv_gateStep {s s' : State} (h : Inv s) (hstep : s.gateStep = some s') :
    Inv s' := by
  have hseen := h.seen
  unfold State.gateStep at hstep
  split at hstep
  · next hgate =>
      cases hstep
      have hunspawned := h.unspawned
      have hstopped := h.stopped
      have hraised := h.raised
      exact
        { h with
          seen := by
            cases hsynced : s.synced with
            | true => rfl
            | false => exact ⟨Nat.le_refl _, by simp⟩
          raised := by grind
          kept := by grind
          unspawned := by grind
          cancelled := by grind
          stopped := by grind }
  · next seen hgate =>
      have hunspawned := h.unspawned
      have hstopped := h.stopped
      have hraised := h.raised
      have hcaught := h.caught
      rw [hgate] at hseen
      split at hstep
      · cases hstep
        exact
          { h with
            seen := trivial
            raised := by grind
            kept := by grind
            unspawned := by grind
            cancelled := by grind
            stopped := by grind }
      · next heq =>
          cases hstep
          have heq : seen = s.version := not_not.mp heq
          exact
            { h with
              seen := by
                split
                · trivial
                · exact ⟨heq, hseen.2.mp heq⟩
              raised := by grind
              kept := by grind
              unspawned := by grind
              cancelled := by grind
              stopped := by grind }
  · next hgate =>
      cases hstep
      have hunspawned := h.unspawned
      have hstopped := h.stopped
      have hcaught := h.caught
      rw [hgate] at hseen
      exact
        { h with
          seen := hseen
          raised := fun _ => rfl
          kept := fun _ _ => rfl
          unspawned := by grind
          cancelled := by grind
          stopped := fun _ _ => .inl rfl
          withdrawn := by grind [Main.stopping] }
  · cases hstep

/-- An abort cancels a gate that waits, catches one within a poll and leaves
one that is done. -/
theorem abort_cases (s : State) :
    (s.abort = { s with gate := .cancelled } ∧ s.gate ≠ .finished) ∨
    ∃ caught, s.abort = { s with caught := caught } ∧
      (caught = false → s.gate = .finished ∨ s.gate = .cancelled) := by
  unfold State.abort
  cases hgate : s.gate with
  | unspawned | queued | parked => exact .inl ⟨rfl, by simp⟩
  | checking | changing | storing => exact .inr ⟨true, rfl, by simp⟩
  | finished =>
      exact .inr ⟨s.caught, by cases s; cases hgate; rfl, fun _ => .inl rfl⟩
  | cancelled =>
      exact .inr ⟨s.caught, by cases s; cases hgate; rfl, fun _ => .inr rfl⟩

theorem inv_abort {s : State} (h : Inv s) (hmain : s.main = .signalled) :
    Inv { s.abort with main := .aborted } := by
  have hhealthy : s.healthy = true := h.healthy.mpr (by simp [hmain])
  have hready : s.ready = true := h.ready.mpr (by simp [hmain])
  obtain ⟨habort, hgate⟩ | ⟨caught, habort, hdone⟩ := abort_cases s
  · rw [habort]
    exact
      { h with
        seen := trivial
        raised := fun hraised => absurd (h.raised hraised) hgate
        kept := by simp
        unspawned := by simp
        stopped := fun _ _ => .inr rfl
        cancelled := fun _ => rfl
        caught := fun _ => rfl
        withdrawn := by simp
        healthy := by simp [hhealthy]
        ready := by simp [hready] }
  · rw [habort]
    exact
      { h with
        kept := fun hfinished _ => h.kept hfinished (by simp [hmain])
        unspawned := by simp [h.unspawned, hmain]
        stopped := fun _ => hdone
        cancelled := fun _ => rfl
        caught := fun _ => rfl
        withdrawn := by simp
        healthy := by simp [hhealthy]
        ready := by simp [hready] }

theorem inv_mainStep {s s' : State} (h : Inv s) (hstep : s.mainStep = some s') :
    Inv s' := by
  unfold State.mainStep at hstep
  split at hstep
  · next hmain =>
      cases hstep
      exact
        { h with
          kept := fun hfinished _ => h.kept hfinished (by simp [hmain])
          unspawned := by simp [h.unspawned, hmain]
          stopped := by simp [Main.stopping]
          cancelled := by simpa [hmain, Main.stopping] using h.cancelled
          caught := by simpa [hmain, Main.stopping] using h.caught
          withdrawn := by simp
          healthy := by simp [h.healthy, hmain]
          ready := by simp }
  · next hmain =>
      cases hstep
      have hgate : s.gate = .unspawned := h.unspawned.mpr (.inr hmain)
      exact
        { h with
          seen := trivial
          raised := fun hraised =>
            absurd (hgate.symm.trans (h.raised hraised)) (by simp)
          kept := by simp
          unspawned := by simp
          stopped := by simp [Main.stopping]
          cancelled := by simp
          caught := by simpa [hmain, Main.stopping] using h.caught
          withdrawn := by simp
          healthy := by simp [h.healthy, hmain]
          ready := by simp [h.ready, hmain] }
  · cases hstep
  · next hmain =>
      cases hstep
      exact inv_abort h hmain
  · next hmain =>
      cases hstep
      exact
        { h with
          kept := fun hfinished _ => h.kept hfinished (by simp [hmain])
          unspawned := by simp [h.unspawned, hmain]
          stopped := fun _ => h.stopped (by rw [hmain]; rfl)
          cancelled := fun _ => rfl
          caught := fun _ => rfl
          withdrawn := by simp
          healthy := by simp
          ready := by simp [h.ready, hmain] }
  · next hmain =>
      cases hstep
      exact
        { h with
          kept := fun hfinished _ => h.kept hfinished (by simp [hmain])
          unspawned := by simp [h.unspawned, hmain]
          stopped := fun _ => h.stopped (by rw [hmain]; rfl)
          cancelled := fun _ => rfl
          caught := fun _ => rfl
          withdrawn := by simp
          healthy := by simp [h.healthy, hmain]
          ready := by simp }
  · next hmain =>
      cases hstep
      exact
        { h with
          raised := by simp
          kept := by simp
          unspawned := by simp [h.unspawned, hmain]
          stopped := fun _ => h.stopped (by rw [hmain]; rfl)
          cancelled := fun _ => rfl
          caught := fun _ => rfl
          withdrawn := by simp
          healthy := by simp [h.healthy, hmain]
          ready := by simp [h.ready, hmain] }
  · cases hstep

theorem inv_step {s s' : State} {e : Event} (h : Inv s)
    (hstep : s.step e = some s') : Inv s' := by
  cases e with
  | applierPolls =>
      simp only [State.step] at hstep
      split at hstep <;> cases hstep
      · exact { h with }
      · exact h
  | initDone =>
      obtain ⟨hpending, ⟨⟩⟩ := Option.ite_none_right_eq_some.mp hstep
      exact inv_fire h hpending
  | writerDropped =>
      obtain ⟨hpending, ⟨⟩⟩ := Option.ite_none_right_eq_some.mp hstep
      exact inv_fire h hpending
  | elapse =>
      obtain ⟨hparked, ⟨⟩⟩ := Option.ite_none_right_eq_some.mp hstep
      exact
        { h with
          announced := by simp [h.announced, hparked]
          gaveUp := by simp }
  | announce =>
      obtain ⟨hwoken, ⟨⟩⟩ := Option.ite_none_right_eq_some.mp hstep
      exact inv_announce h hwoken
  | poll =>
      obtain ⟨hqueued, ⟨⟩⟩ := Option.ite_none_right_eq_some.mp hstep
      have hunspawned := h.unspawned
      have hstopped := h.stopped
      have hraised := h.raised
      exact
        { h with
          seen := trivial
          raised := by grind
          kept := by grind
          unspawned := by grind
          cancelled := by grind
          stopped := by grind }
  | gateStep => exact inv_gateStep h hstep
  | mainStep => exact inv_mainStep h hstep
  | signal =>
      obtain ⟨hserving, ⟨⟩⟩ := Option.ite_none_right_eq_some.mp hstep
      have hkept := h.kept
      have hunspawned := h.unspawned
      have hcancelled := h.cancelled
      have hcaught := h.caught
      have hhealthy := h.healthy
      have hready := h.ready
      exact
        { h with
          kept := by grind
          unspawned := by grind
          stopped := by grind [Main.stopping]
          cancelled := by grind [Main.stopping]
          caught := by grind [Main.stopping]
          withdrawn := by grind
          healthy := by grind
          ready := by grind }

theorem inv_of_reachable {s : State} (h : Reachable system anyStep s) :
    Inv s := by
  induction h with
  | init hinit => exact hinit ▸ inv_start
  | step _ _ hstep ih => exact inv_step ih hstep

/-! ## What is told -/

theorem answer_ok_iff {flag : Bool} {ok unavailable : String} :
    (answer flag ok unavailable).1 = 200 ↔ flag = true := by
  cases flag <;> simp [answer]

/-- What a probe may conclude from each of the three, in any interleaving. -/
theorem endpoints_of_reachable {s : State} (h : Reachable system anyStep s) :
    ((healthzHandler s).1 = 200 ↔
      s.main ≠ .unhealthy ∧ s.main ≠ .unready ∧ s.main ≠ .draining) ∧
    ((readyzHandler s).1 = 200 ↔
      s.main ≠ .starting ∧ s.main ≠ .unready ∧ s.main ≠ .draining) ∧
    ((reconcilezHandler s).1 = 200 →
      s.store = .ready ∧ (s.main = .draining → s.caught = true)) := by
  have hinv := inv_of_reachable h
  refine ⟨answer_ok_iff.trans hinv.healthy, answer_ok_iff.trans hinv.ready,
    fun hok => ?_⟩
  have hraised := answer_ok_iff.mp hok
  have hseen := hinv.seen
  rw [hinv.raised hraised] at hseen
  exact ⟨hinv.listed hseen, fun hdraining => hinv.withdrawn hdraining hraised⟩

/-- The applier has taken the announcing task's place in the oneshot, and
the task has found the store by its clock. -/
def announcing : List Event :=
  [.mainStep, .announce, .applierPolls, .initDone, .mainStep, .poll, .gateStep,
    .gateStep, .elapse, .announce]

/-- Then the gate is polled once more. -/
def raising : List Event := [.poll, .gateStep, .gateStep]

/-- A signal in the middle of that poll, and its last step when the flags are
down. -/
def raisingLate : List Event :=
  [.poll, .gateStep, .signal, .mainStep, .mainStep, .mainStep, .mainStep,
    .gateStep]

theorem reachable_of_events {es : List Event} {s : State}
    (hrun : system.run start es = some s) : Reachable system anyStep s :=
  .of_run (.init rfl) (system.permitted_anyStep es start) hrun

theorem endpoints_of_reachable_raised :
    ∃ s, system.run start (announcing ++ raising) = some s ∧
      (reconcilezHandler s).1 = 200 ∧ s.store = .ready := by
  obtain ⟨s, hrun, hraised⟩ :
      ∃ s, system.run start (announcing ++ raising) = some s ∧
        (reconcilezHandler s).1 = 200 := ⟨_, rfl, by decide⟩
  have htold := endpoints_of_reachable (reachable_of_events hrun)
  exact ⟨s, hrun, hraised, (htold.2.2 hraised).1⟩

/-- The abort does not reach into the poll: `/reconcilez` is up again while
`main` drains. -/
theorem reconcilez_raised_late :
    ∃ s, system.run start (announcing ++ raisingLate) = some s ∧
      s.main = .draining ∧ (reconcilezHandler s).1 = 200 :=
  ⟨_, rfl, by decide, by decide⟩

/-! ## Nothing is lost on the way -/

/-- How far the gate is from the flag, the store announced. -/
def Gate.remaining : Gate → Nat
  | .unspawned => 5
  | .queued => 4
  | .changing _ => 3
  | .checking => 2
  | .storing => 1
  | .parked _ | .finished | .cancelled => 0

/-- How far the gate is from parking, the store not announced. -/
def Gate.unparked : Gate → Nat
  | .unspawned => 4
  | .queued => 3
  | .checking => 2
  | .changing _ => 1
  | .storing | .parked _ | .finished | .cancelled => 0

/-- How many steps are left to the announcing task and the gate, once the
store is ready. -/
def remaining (s : State) : Nat :=
  match s.announcer with
  | .parked => 6 + s.gate.unparked
  | .woken => 5 + s.gate.unparked
  | .announced | .gaveUp => s.gate.remaining

theorem remaining_le (s : State) : remaining s ≤ 10 := by
  unfold remaining
  cases s.announcer <;> cases s.gate <;>
    simp [Gate.remaining, Gate.unparked]

/-- A step of the announcing task or of the gate. -/
def Event.serves : Event → Bool
  | .elapse | .announce | .poll | .gateStep => true
  | _ => false

/-- The store has completed its initial LIST. -/
structure Listed (s : State) : Prop where
  inv : Inv s
  ready : s.store = .ready

theorem Listed.ne_gaveUp {s : State} (h : Listed s) :
    s.announcer ≠ .gaveUp := fun hgaveUp => by
  have hdropped := h.inv.gaveUp hgaveUp
  rw [h.ready] at hdropped
  cases hdropped

theorem Listed.step {s s' : State} {e : Event} (h : Listed s)
    (hstep : s.step e = some s') : Listed s' := by
  refine ⟨inv_step h.inv hstep, ?_⟩
  have hready := h.ready
  cases e with
  | announce =>
      obtain ⟨-, ⟨⟩⟩ := Option.ite_none_right_eq_some.mp hstep
      simp only [State.announce, hready]
      exact hready
  | gateStep =>
      simp only [State.step, State.gateStep] at hstep
      split at hstep <;> grind
  | mainStep =>
      simp only [State.step, State.mainStep] at hstep
      split at hstep <;> grind [State.abort]
  | _ =>
      simp only [State.step] at hstep
      grind

theorem remaining_announce {s : State} (h : Listed s)
    (hwoken : s.announcer = .woken) :
    remaining s.announce + 1 ≤ remaining s := by
  simp only [State.announce, h.ready, remaining, hwoken, State.markSynced]
  cases s.gate <;> simp [Gate.remaining, Gate.unparked]

theorem remaining_gateStep {s s' : State} (h : Listed s)
    (hstep : s.gateStep = some s') : remaining s' + 1 ≤ remaining s := by
  have hseen := h.inv.seen
  have hannounced := h.inv.announced
  have hgaveUp := h.ne_gaveUp
  unfold State.gateStep at hstep
  split at hstep
  · next hgate =>
      cases hstep
      simp only [remaining, hgate]
      split <;> grind [Gate.remaining, Gate.unparked]
  · next seen hgate =>
      rw [hgate] at hseen
      have hsame := hseen.2
      split at hstep <;> cases hstep <;> simp only [remaining, hgate] <;>
        split <;> grind [Gate.remaining, Gate.unparked]
  · next hgate =>
      cases hstep
      rw [hgate] at hseen
      simp only [remaining, hgate, hannounced.mp hseen]
      exact Nat.le_refl _
  · cases hstep

theorem remaining_abort (s : State) : remaining s.abort ≤ remaining s := by
  unfold remaining State.abort
  cases hgate : s.gate <;> dsimp only <;> split <;>
    simp [hgate, Gate.remaining, Gate.unparked]

theorem remaining_mainStep {s s' : State} (h : Listed s)
    (hstep : s.mainStep = some s') : remaining s' ≤ remaining s := by
  unfold State.mainStep at hstep
  split at hstep
  · cases hstep
    exact Nat.le_refl _
  · next hmain =>
      cases hstep
      have hgate : s.gate = .unspawned := h.inv.unspawned.mpr (.inr hmain)
      simp only [remaining, hgate]
      split <;> simp [Gate.remaining, Gate.unparked]
  · cases hstep
  · cases hstep
    exact remaining_abort s
  · cases hstep
    exact Nat.le_refl _
  · cases hstep
    exact Nat.le_refl _
  · cases hstep
    exact Nat.le_refl _
  · cases hstep

/-- Each step of the announcing task and of the gate counts, and no step of
anyone else sets them back. -/
theorem remaining_step {s s' : State} {e : Event} (h : Listed s)
    (hstep : s.step e = some s') :
    remaining s' + (if e.serves then 1 else 0) ≤ remaining s := by
  have hready := h.ready
  cases e with
  | applierPolls =>
      rw [State.step, if_neg (by simp [hready])] at hstep
      cases hstep
      exact Nat.le_refl _
  | initDone | writerDropped =>
      obtain ⟨hpending, -⟩ := Option.ite_none_right_eq_some.mp hstep
      rw [hready] at hpending
      cases hpending
  | elapse =>
      obtain ⟨hparked, ⟨⟩⟩ := Option.ite_none_right_eq_some.mp hstep
      simp only [remaining, hparked, Event.serves, if_true]
      omega
  | announce =>
      obtain ⟨hwoken, ⟨⟩⟩ := Option.ite_none_right_eq_some.mp hstep
      exact remaining_announce h hwoken
  | poll =>
      obtain ⟨hqueued, ⟨⟩⟩ := Option.ite_none_right_eq_some.mp hstep
      simp only [remaining, hqueued]
      split <;> simp [Gate.remaining, Gate.unparked, Event.serves]
  | gateStep => exact remaining_gateStep h hstep
  | mainStep => exact remaining_mainStep h hstep
  | signal =>
      obtain ⟨-, ⟨⟩⟩ := Option.ite_none_right_eq_some.mp hstep
      exact Nat.le_refl _

/-- The flag is down after the announcement only where the gate has steps
left. -/
theorem Listed.gate_of_announced {s : State} (h : Listed s)
    (hmain : s.main = .serving ∨ s.main = .signalled)
    (hannounced : s.announcer = .announced) (hdown : s.reconcileReady = false) :
    s.gate = .queued ∨ s.gate = .checking ∨ s.gate = .storing ∨
      ∃ seen, s.gate = .changing seen := by
  have hsynced := h.inv.announced.mpr hannounced
  have hseen := h.inv.seen
  have hunspawned := h.inv.unspawned
  have hcancelled := h.inv.cancelled
  have hkept := h.inv.kept
  cases hgate : s.gate with
  | queued => exact .inl rfl
  | checking => exact .inr (.inl rfl)
  | storing => exact .inr (.inr (.inl rfl))
  | changing seen => exact .inr (.inr (.inr ⟨seen, rfl⟩))
  | parked seen =>
      rw [hgate] at hseen
      exact absurd (hsynced.symm.trans hseen.2) (by simp)
  | unspawned => grind
  | finished => grind
  | cancelled => grind [Main.stopping]

/-- While the flag is down, the announcing task or the gate can go on. -/
theorem exists_serving_step {s : State} (h : Listed s)
    (hmain : s.main = .serving ∨ s.main = .signalled)
    (hdown : s.reconcileReady = false) :
    ∃ e, e.serves = true ∧ (s.step e).isSome = true := by
  cases hannouncer : s.announcer with
  | gaveUp => exact absurd hannouncer h.ne_gaveUp
  | parked => exact ⟨.elapse, rfl, by simp [State.step, hannouncer]⟩
  | woken => exact ⟨.announce, rfl, by simp [State.step, hannouncer]⟩
  | announced =>
      rcases h.gate_of_announced hmain hannouncer hdown with
        hgate | hgate | hgate | ⟨seen, hgate⟩
      · exact ⟨.poll, rfl, by simp [State.step, hgate]⟩
      · exact ⟨.gateStep, rfl, by simp [State.step, State.gateStep, hgate]⟩
      · exact ⟨.gateStep, rfl, by simp [State.step, State.gateStep, hgate]⟩
      · refine ⟨.gateStep, rfl, ?_⟩
        simp only [State.step, State.gateStep, hgate]
        split <;> rfl

/-- Once the store has completed its LIST, the announcing task and the gate
have ten steps at most between them, whatever else happens; and as long as
`main` has not come to the abort, they stop only with the flag up. -/
theorem reconcilez_of_listed {s s' : State} {es : List Event}
    (h : Reachable system anyStep s) (hready : s.store = .ready)
    (hrun : system.run s es = some s') :
    es.countP Event.serves ≤ 10 ∧
      (s'.main = .serving ∨ s'.main = .signalled →
        (∀ e, e.serves = true → s'.step e = none) →
          (reconcilezHandler s').1 = 200) := by
  have hlisted : Listed s := ⟨inv_of_reachable h, hready⟩
  have hstep : ∀ s e s', Listed s → system.step s e = some s' →
      Listed s' ∧ remaining s' + (if e.serves then 1 else 0) ≤ remaining s :=
    fun _ _ _ hs hstep => ⟨hs.step hstep, remaining_step hs hstep⟩
  obtain ⟨hend, hcount⟩ := System.countP_add_rank_le hstep hlisted hrun
  refine ⟨?_, fun hmain hstuck => answer_ok_iff.mpr ?_⟩
  · exact Nat.le_trans (Nat.le_of_add_right_le hcount) (remaining_le s)
  · by_contra hdown
    obtain ⟨e, hserves, hstep⟩ :=
      exists_serving_step hend hmain (Bool.eq_false_iff.mpr hdown)
    rw [hstuck e hserves] at hstep
    cases hstep

theorem reconcilez_of_listed_raised :
    ∃ s s', system.run start announcing = some s ∧
      system.run s raising = some s' ∧ (reconcilezHandler s').1 = 200 := by
  obtain ⟨s, hrun, hready⟩ :
      ∃ s, system.run start announcing = some s ∧ s.store = .ready :=
    ⟨_, rfl, rfl⟩
  obtain ⟨s', hrest, hmain, hstuck⟩ :
      ∃ s', system.run s raising = some s' ∧ s'.main = .serving ∧
        ∀ e, e.serves = true → s'.step e = none := by
    cases hrun
    refine ⟨_, rfl, rfl, fun e hserves => ?_⟩
    cases e with
    | elapse | announce | poll | gateStep => rfl
    | _ => cases hserves
  have hdone := reconcilez_of_listed (reachable_of_events hrun) hready hrest
  exact ⟨s, s', hrun, hrest, hdone.2 (.inl hmain) hstuck⟩

end McpgOperator.Readiness
