import McpgOperator.Leader.RunLoop
import McpgOperator.Proofs.LeaderGate

/-!
# Which calls of `shutdown()` the loop hears

A call that finds an attempt waiting for an answer, or the shutdown branch
already taken, ends the loop: nothing acquires or renews the Lease any more,
and a leader releases it. Every other call is lost. Between the attempt and
the sleep and at the head of the loop nobody waits; the sleep has a waiter
of its own, which takes the call and only ends early; and an attempt that
has just decided on a write sends it first.
-/

namespace McpgOperator.Leader.RunLoop

open McpgOperator.Kube Transition

section Loop

variable {cfg : LeaderElectionConfig} {s s' : State}

/-! ## The loop refines that of the process -/

theorem within_shutdown {p : Process} (h : s.Within p) :
    s.shutdown.Within p.notifyShutdown := by
  obtain ⟨hloop, hflag⟩ := h
  unfold State.Within State.shutdown Process.notifyShutdown
  rw [hloop]
  cases hphase : s.phase with
  | entered notified | deciding op notified =>
      cases notified <;> simp_all [Phase.coarse]
  | _ => simp_all [Phase.coarse]

theorem within_settle {p : Process} (h : s.Within p)
    (hattempt : s.phase.coarse = .attempting)
    (outcome : Except KubeError Bool) :
    ∃ p', p.step (.outcome outcome) = some p' ∧
      (s.settle cfg outcome).Within p' := by
  have hloop : p.loop = .attempting := h.1.trans hattempt
  rcases outcome with e | _ | _
  · exact ⟨_, if_pos hloop, rfl, setLeader_isLeader false⟩
  · exact ⟨_, if_pos hloop, rfl, setLeader_isLeader false⟩
  · exact ⟨_, if_pos hloop, rfl, setLeader_isLeader true⟩

/-- Every step of the loop is one of the process, or none. -/
theorem within_step {p : Process} {e : Event} (hwithin : s.Within p)
    (he : e ≠ .shutdown) (hstep : s.step cfg e = some s') :
    s'.Within p ∨ ∃ event p', p.step event = some p' ∧ s'.Within p' := by
  obtain ⟨hloop, hflag⟩ := hwithin
  cases steps_of_step hstep with
  | shutdown => exact absurd rfl he
  | enter h =>
      rw [h] at hloop
      exact .inr ⟨.attempt, _, if_pos hloop, rfl, hflag⟩
  | get h | write h =>
      next notified =>
      rw [h] at hloop
      cases notified <;> exact .inl ⟨hloop, hflag⟩
  | decided h hget =>
      rw [h] at hloop
      exact .inl ⟨hloop, hflag⟩
  | ended h hget =>
      have hattempt : s.phase.coarse = .attempting := by rw [h]; rfl
      obtain ⟨p', hp', hwithin⟩ := within_settle ⟨hloop, hflag⟩ hattempt _
      exact .inr ⟨_, p', hp', hwithin⟩
  | wrote h =>
      have hattempt : s.phase.coarse = .attempting := by rw [h]; rfl
      obtain ⟨p', hp', hwithin⟩ := within_settle ⟨hloop, hflag⟩ hattempt _
      exact .inr ⟨_, p', hp', hwithin⟩
  | sleep h =>
      rw [h] at hloop
      exact .inr ⟨.sleep, _, if_pos hloop, rfl, hflag⟩
  | wake h =>
      rw [h] at hloop
      exact .inr ⟨.wake, _, if_pos hloop, rfl, hflag⟩
  | yields h hleads =>
      rw [h] at hloop
      exact .inr ⟨.yieldLease, _,
        (if_pos hloop).trans (if_pos (hflag.trans hleads)), rfl, rfl⟩
  | leaves h hleads =>
      rw [h] at hloop
      have hp : ¬ p.isLeader = true := by
        rw [hflag, hleads]
        exact Bool.false_ne_true
      exact .inr ⟨.yieldLease, _,
        (if_pos hloop).trans (if_neg hp), rfl, hflag⟩
  | released h =>
      rw [h] at hloop
      refine .inr ⟨.released (.ok ()), _, if_pos hloop, ?_, ?_⟩
      · unfold Process.notifyTransition
        split <;> rfl
      · unfold Process.notifyTransition
        split <;> exact hflag

/-! ## A call that is heard -/

/-- The loop is on its way out. -/
def Phase.ending : Phase → Bool
  | .entered notified => notified
  | .interrupted | .releasing | .returned => true
  | _ => false

/-- The flag has not been cleared on the way out yet. -/
def Phase.holdsFlag : Phase → Bool
  | .entered _ | .interrupted => true
  | _ => false

/-- The calls that are heard: they find the attempt before its first
request, or with a request in flight, or the loop on its way out. -/
def State.hears (s : State) : Bool :=
  match s.phase with
  | .entered _ | .getting | .writing | .interrupted | .releasing
  | .returned => true
  | .turning | .deciding _ _ | .settling _ | .sleeping _ => false

/-- After a call at `s`, whatever happens: nothing more acquires or renews
the Lease, and a leader does not return without having sent the release. -/
def State.Honoured (cfg : LeaderElectionConfig) (s : State) : Prop :=
  ∀ events s', (runLoop cfg).run s.shutdown events = some s' →
    ∃ sent, s'.issued = s.issued ++ sent ∧
      (∀ r ∈ sent, r.acquires = false) ∧
      (s'.phase = .returned → s.isLeader = true →
        ∃ r ∈ sent, r.isRelease = true)

/-- On its way out the loop hears nothing new. -/
theorem shutdown_of_ending (h : s.phase.ending = true) : s.shutdown = s := by
  unfold State.shutdown
  obtain ⟨isLeader, phase, issued⟩ := s
  cases phase with
  | entered notified =>
      cases notified with
      | true => rfl
      | false => cases h
  | interrupted | releasing | returned => rfl
  | _ => cases h

/-- A call that is heard sets the loop on its way out. -/
theorem ending_shutdown (h : s.hears = true) :
    s.shutdown.phase.ending = true := by
  unfold State.hears at h
  unfold State.shutdown
  split at h <;> simp_all [Phase.ending]

theorem issued_shutdown : s.shutdown.issued = s.issued := by
  unfold State.shutdown
  split <;> rfl

theorem isLeader_shutdown : s.shutdown.isLeader = s.isLeader := by
  unfold State.shutdown
  split <;> rfl

/-- What a loop on its way out has sent since, and whether the flag is still
to be cleared. -/
structure Leaving (s s' : State) (sent : List LoopRequest) : Prop where
  ending : s'.phase.ending = true
  issued : s'.issued = s.issued ++ sent
  acquires : ∀ r ∈ sent, r.acquires = false
  releases : s.isLeader = true →
    (s'.isLeader = true ∧ s'.phase.holdsFlag = true) ∨
      ∃ r ∈ sent, r.isRelease = true

theorem leaving_step {t : State} {sent : List LoopRequest} {e : Event}
    (h : Leaving s t sent) (hstep : t.step cfg e = some s') :
    ∃ sent', Leaving s s' sent' := by
  obtain ⟨hending, hissued, hacquires, hreleases⟩ := h
  cases steps_of_step hstep with
  | enter h | decided h _ | ended h _ | write h | wrote h | sleep h
  | wake h =>
      -- the loop is past these points
      rw [h] at hending
      cases hending
  | get h =>
      rw [h] at hending
      cases hending
      refine ⟨sent ++ [.get], rfl, ?_, ?_, fun hleads => ?_⟩
      · rw [← List.append_assoc, ← hissued]
      · exact List.forall_mem_append.mpr
          ⟨hacquires, List.forall_mem_singleton.mpr rfl⟩
      · rcases hreleases hleads with ⟨hflag, _⟩ | ⟨r, hr, hrelease⟩
        · exact .inl ⟨hflag, rfl⟩
        · exact .inr ⟨r, List.mem_append_left _ hr, hrelease⟩
  | @yields now h hleads =>
      refine ⟨sent ++ [.release (microTime now)], rfl, ?_, ?_,
        fun _ => .inr ?_⟩
      · rw [← List.append_assoc, ← hissued]
      · exact List.forall_mem_append.mpr
          ⟨hacquires, List.forall_mem_singleton.mpr rfl⟩
      · exact ⟨_, List.mem_append_right _ (List.mem_singleton_self _), rfl⟩
  | leaves h hleads =>
      refine ⟨sent, rfl, hissued, hacquires, fun hs => ?_⟩
      rcases hreleases hs with ⟨hflag, _⟩ | hrelease
      · rw [hleads] at hflag
        cases hflag
      · exact .inr hrelease
  | released h =>
      refine ⟨sent, rfl, hissued, hacquires, fun hs => ?_⟩
      rcases hreleases hs with ⟨_, hholds⟩ | hrelease
      · rw [h] at hholds
        cases hholds
      · exact .inr hrelease
  | shutdown =>
      rw [shutdown_of_ending hending]
      exact ⟨sent, hending, hissued, hacquires, hreleases⟩

theorem leaving_run {t : State} {sent : List LoopRequest}
    {events : List Event} (h : Leaving s t sent)
    (hrun : (runLoop cfg).run t events = some s') :
    ∃ sent', Leaving s s' sent' := by
  induction events generalizing t sent with
  | nil =>
      cases hrun
      exact ⟨sent, h⟩
  | cons e events ih =>
      obtain ⟨m, hm, hrest⟩ := System.run_cons hrun
      obtain ⟨sent', hsent'⟩ := leaving_step h hm
      exact ih hsent' hrest

/-! ## The flag -/

/-- Past the shutdown branch the flag is cleared. -/
def FlagCleared (s : State) : Prop :=
  s.phase = .releasing ∨ s.phase = .returned → s.isLeader = false

theorem settle_phase (s : State) (outcome : Except KubeError Bool) :
    ∃ period, (s.settle cfg outcome).phase = .settling period := by
  unfold State.settle
  split <;> exact ⟨_, rfl⟩

theorem flagCleared_of_settling {period : Duration}
    (h : s.phase = .settling period) : FlagCleared s := by
  rintro (h' | h') <;> rw [h] at h' <;> cases h'

theorem flagCleared_shutdown (h : FlagCleared s) :
    FlagCleared s.shutdown := by
  intro hphase
  rw [isLeader_shutdown]
  refine h ?_
  obtain ⟨isLeader, phase, issued⟩ := s
  unfold State.shutdown at hphase
  cases phase <;> simp at hphase ⊢

theorem flagCleared_step {e : Event} (h : FlagCleared s)
    (hstep : s.step cfg e = some s') : FlagCleared s' := by
  cases steps_of_step hstep with
  | get _ | write _ =>
      next notified _ =>
      unfold FlagCleared
      cases notified <;> simp [park]
  | ended _ _ =>
      exact flagCleared_of_settling (settle_phase s _).choose_spec
  | wrote _ =>
      exact flagCleared_of_settling (settle_phase s _).choose_spec
  | released h' => exact fun _ => h (.inl h')
  | leaves _ hleads => exact fun _ => hleads
  | yields _ _ => exact fun _ => rfl
  | shutdown => exact flagCleared_shutdown h
  | enter _ | decided _ _ | sleep _ | wake _ => simp [FlagCleared]

theorem flagCleared_of_reachable (h : Reachable (runLoop cfg) anyStep s) :
    FlagCleared s := by
  refine h.invariant ?_ ?_
  · rintro t rfl
    rintro (h | h) <;> cases h
  · intro t e t' hinv _ hstep
    exact flagCleared_step hinv hstep

theorem honoured_of_hears (hflag : FlagCleared s) (h : s.hears = true) :
    s.Honoured cfg := by
  intro events s' hrun
  have hleaving : Leaving s s.shutdown [] := by
    refine ⟨ending_shutdown h, ?_, (fun _ hr => nomatch hr),
      fun hleads => ?_⟩
    · rw [issued_shutdown, List.append_nil]
    · have hnot : ¬ (s.phase = .releasing ∨ s.phase = .returned) := by
        intro hphase
        rw [hflag hphase] at hleads
        cases hleads
      refine .inl ⟨isLeader_shutdown.trans hleads, ?_⟩
      unfold State.hears at h
      unfold State.shutdown
      split at h <;> simp_all [Phase.holdsFlag]
  obtain ⟨sent, hsent⟩ := leaving_run hleaving hrun
  refine ⟨sent, hsent.issued, hsent.acquires, fun hreturned hleads => ?_⟩
  rcases hsent.releases hleads with ⟨_, hholds⟩ | hrelease
  · rw [hreturned] at hholds
    cases hholds
  · exact hrelease

/-! ## A call that is lost -/

variable (cfg) in
/-- From its head the loop can go on to create the Lease. -/
theorem run_of_turning (h : s.phase = .turning) :
    ∃ s' request, (runLoop cfg).run s
        [.enter, .get, .got (.error notFound) 0, .write 0] = some s' ∧
      s'.issued = s.issued ++ [.get, .write request] := by
  obtain ⟨isLeader, phase, issued⟩ := s
  cases h
  exact ⟨_, LeaseOp.createLease.request cfg 0, rfl,
    List.append_assoc _ _ _⟩

theorem not_honoured_of_run {events : List Event}
    {sent : List LoopRequest} {request : WriteRequest}
    (hrun : (runLoop cfg).run s.shutdown events = some s')
    (hissued : s'.issued = s.issued ++ sent)
    (hwrite : .write request ∈ sent) : ¬ s.Honoured cfg := by
  intro h
  obtain ⟨sent', hissued', hacquires, _⟩ := h events s' hrun
  rw [hissued] at hissued'
  rw [← List.append_cancel_left hissued'] at hacquires
  cases hacquires _ hwrite

theorem not_honoured_of_lost (h : s.hears = false) : ¬ s.Honoured cfg := by
  unfold State.hears at h
  cases hphase : s.phase with
  | turning | sleeping _ =>
      have hturning : s.shutdown.phase = .turning := by
        simp [State.shutdown, hphase]
      obtain ⟨s', request, hrun, hissued⟩ := run_of_turning cfg hturning
      rw [issued_shutdown] at hissued
      exact not_honoured_of_run hrun hissued (List.mem_of_getLast? rfl)
  | settling period =>
      have hsame : s.shutdown = s := by simp [State.shutdown, hphase]
      obtain ⟨s', request, hrun, hissued⟩ := run_of_turning cfg
        (s := { s with phase := .turning }) rfl
      have hrun' : (runLoop cfg).run s.shutdown
          (.sleep :: .wake ::
            [.enter, .get, .got (.error notFound) 0, .write 0]) =
          some s' := by
        rw [hsame, ← hrun]
        simp [System.run, runLoop, State.step, hphase]
      exact not_honoured_of_run hrun' hissued (List.mem_of_getLast? rfl)
  | deciding op notified =>
      have hrun : (runLoop cfg).run s.shutdown [.write 0] = some
          { s with
            phase := .interrupted
            issued := s.issued ++ [.write (op.request cfg 0)] } := by
        simp [System.run, runLoop, State.step, State.shutdown, hphase, park]
      exact not_honoured_of_run hrun rfl (List.mem_singleton_self _)
  | _ =>
      rw [hphase] at h
      cases h

/-- A call of `shutdown()` ends the loop exactly when the loop hears it. -/
theorem honoured_iff_hears (h : Reachable (runLoop cfg) anyStep s) :
    s.Honoured cfg ↔ s.hears = true := by
  constructor
  · intro hhonoured
    by_contra hlost
    exact not_honoured_of_lost (Bool.eq_false_iff.mpr hlost) hhonoured
  · exact honoured_of_hears (flagCleared_of_reachable h)

end Loop

/-! ## A call in the renewal sleep -/

namespace Sample

def cfg : LeaderElectionConfig where
  leaseName := "mcpg-operator"
  leaseNamespace := "mcpg-system"
  identity := "pod-1"
  leaseDuration := 30 * nanosPerSec
  renewDeadline := 20 * nanosPerSec
  retryPeriod := 4 * nanosPerSec

/-- The loop acquires the Lease and goes to sleep. -/
def acquired : List Event :=
  [.enter, .get, .got (.error notFound) 0, .write 0,
    .wrote (.ok { resourceVersion := 1, spec := none }), .sleep]

/-- The loop acquires the Lease and comes to renew it. -/
def renewing : List Event :=
  acquired ++ [.wake, .enter, .get]

end Sample

/-- A call that finds the GET of a renewal in flight is honoured. -/
theorem honoured_renewing : ∃ s,
    (runLoop Sample.cfg).run start Sample.renewing = some s ∧
      s.isLeader = true ∧ s.Honoured Sample.cfg := by
  refine ⟨_, rfl, rfl, ?_⟩
  refine (honoured_iff_hears ?_).mpr rfl
  exact (Reachable.init rfl).of_run
    (System.permitted_anyStep _ Sample.renewing start) rfl

/-- A call in the sleep of a leader is lost. -/
theorem not_honoured_acquired : ∃ s,
    Reachable (runLoop Sample.cfg) anyStep s ∧
      s.phase = .sleeping Sample.cfg.renewDeadline ∧ s.isLeader = true ∧
      ¬ s.Honoured Sample.cfg := by
  refine ⟨_, (Reachable.init rfl).of_run
    (System.permitted_anyStep _ Sample.acquired start) rfl, rfl, rfl, ?_⟩
  exact not_honoured_of_lost rfl

end McpgOperator.Leader.RunLoop
