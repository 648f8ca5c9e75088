import McpgOperator.Leader.Replicas
import Mathlib.Tactic.Common

/-!
# Who leads, and when two do

A replica that leads rests on a write of its own: the apiserver accepted its
create or patch, so at that moment the Lease named it with the `renewTime` it
counts from. The invariant says the Lease still does, for as long as that
term has not expired. Three kinds of step can touch it. The clock only makes
terms expire. Everything a replica does on its own side changes neither the
Lease nor what was granted. That leaves a write landing, and here the code
and its module comment part: a patch names no `resourceVersion`, so it lands
on whatever Lease it finds. When it never finds one that a peer holds
unexpired, at most one replica leads in every state; the race of two
replicas over the same expired Lease shows the condition is not vacuous.
-/

namespace McpgOperator.Leader

open McpgOperator.Kube Transition

/-! ## Expiry and the clock -/

theorem hasExpired_eq_false {rt now : Int} {d : Duration} :
    hasExpired (some rt) d now = false ↔
      now - rt ≤ min (d : Int) signedDurationMax := by
  simp [hasExpired]

/-- A later renewal seen at an earlier instant has not expired either. -/
theorem hasExpired_mono {rt rt' now now' : Int} {d : Duration}
    (hrt : rt ≤ rt') (hnow : now' ≤ now)
    (h : hasExpired (some rt) d now = false) :
    hasExpired (some rt') d now' = false := by
  rw [hasExpired_eq_false] at h ⊢
  omega

theorem microTime_mono {t t' : Int} (h : t ≤ t') :
    microTime t ≤ microTime t' := by
  show (t / 1000 * 1000 : Int) ≤ t' / 1000 * 1000
  omega

/-! ## What a write carries -/

/-- The request sets the holder to `id` and the renew time to `t`. -/
def WriteRequest.carries (id : String) (t : Timestamp) :
    WriteRequest → Prop
  | .create spec | .patch _ spec =>
      spec.holderIdentity = some id ∧ spec.renewTime = some t

theorem request_carries (op : LeaseOp) (cfg : LeaderElectionConfig)
    (now : Timestamp) :
    (op.request cfg now).carries cfg.identity (microTime now) := by
  cases op with
  | createLease => exact ⟨rfl, rfl⟩
  | renewLease existing => exact ⟨rfl, rfl⟩
  | replaceHolder existing => exact ⟨rfl, rfl⟩

theorem applyWrite_carries {server : Option Lease} {req : WriteRequest}
    {l : Lease} {id : String} {t : Timestamp} (hc : req.carries id t)
    (h : applyWrite server req = .ok l) :
    l.holder = id ∧ l.renewTime = some t := by
  cases req with
  | create spec =>
      cases server with
      | some stored => cases h
      | none =>
          cases h
          simp [Lease.holder, Lease.renewTime, hc.1, hc.2]
  | patch rv body =>
      cases server with
      | none => cases h
      | some stored =>
          simp only [applyWrite] at h
          split at h
          · cases h
          · cases h
            simp [Lease.holder, Lease.renewTime, LeaseSpec.merge, hc.1, hc.2]

/-- A create is accepted only where no Lease exists. -/
theorem applyWrite_ok_existing {stored l : Lease} {req : WriteRequest}
    (h : applyWrite (some stored) req = .ok l) :
    ∃ rv body, req = .patch rv body := by
  cases req with
  | create spec => cases h
  | patch rv body => exact ⟨rv, body, rfl⟩

variable {ι : Type} {f : Fleet ι} {s s' : State ι}

/-! ## The invariant -/

/-- The replica was granted a term from `t` on: its last completed attempt
says so, or the accepted answer is on its way back. -/
def Replica.granted (r : Replica) (t : Timestamp) : Prop :=
  (r.last = some (.ok true) ∧ r.wrote = some t) ∨
    ∃ l, r.phase = .answered t (.ok l)

/-- What holds in every state of a run whose patches land clear. -/
structure Inv (f : Fleet ι) (s : State ι) : Prop where
  /-- A granted term that has not expired is still on the Lease. -/
  held : ∀ i t, (s.replica i).granted t →
    hasExpired (some t) (f.cfg i).leaseDuration s.now = false →
    ∃ l r, s.lease = some l ∧ l.holder = (f.cfg i).identity ∧
      l.renewTime = some r ∧ t ≤ r
  /-- Terms start in the past. -/
  past : ∀ i t, (s.replica i).granted t → t ≤ microTime s.now
  /-- A request in flight is the replica's own and no older than the term
  it already has. -/
  flight : ∀ i op t req, (s.replica i).phase = .sent op t req →
    t ≤ microTime s.now ∧ req.carries (f.cfg i).identity t ∧
      ∀ t₀, (s.replica i).granted t₀ → t₀ ≤ t

theorem inv_init (h : ∀ i, s.replica i = .start) : Inv f s where
  held := by
    intro i t hg
    rw [h i] at hg
    rcases hg with ⟨hl, _⟩ | ⟨l, hl⟩ <;> cases hl
  past := by
    intro i t hg
    rw [h i] at hg
    rcases hg with ⟨hl, _⟩ | ⟨l, hl⟩ <;> cases hl
  flight := by
    intro i op t req hp
    rw [h i] at hp
    cases hp

theorem inv_tick (hinv : Inv f s) (elapsed : Nat) :
    Inv f { s with now := s.now + elapsed } := by
  have hnow : s.now ≤ s.now + elapsed :=
    Int.le_add_of_nonneg_right (Int.natCast_nonneg elapsed)
  refine ⟨?_, ?_, ?_⟩
  · intro i t hg hfresh
    exact hinv.held i t hg (hasExpired_mono (le_refl t) hnow hfresh)
  · intro i t hg
    exact le_trans (hinv.past i t hg) (microTime_mono hnow)
  · intro i op t req hp
    obtain ⟨ht, hc, hafter⟩ := hinv.flight i op t req hp
    exact ⟨le_trans ht (microTime_mono hnow), hc, hafter⟩

/-- A leader is on the Lease. -/
theorem holder_of_leads (hinv : Inv f s) {i : ι} (h : leads f s i) :
    ∃ l, s.lease = some l ∧ l.holder = (f.cfg i).identity := by
  obtain ⟨hlast, hfresh⟩ := h
  cases hw : (s.replica i).wrote with
  | none =>
      rw [hw] at hfresh
      cases hfresh
  | some t =>
      rw [hw] at hfresh
      obtain ⟨l, _, hl, hh, _⟩ := hinv.held i t (.inl ⟨hlast, hw⟩) hfresh
      exact ⟨l, hl, hh⟩

/-! ## What a step can do -/

/-- Replacing replica `i` by `r` grants nothing new, and a request put in
flight carries the identity of `i` and the present instant. -/
structure Quiet (f : Fleet ι) (s : State ι) (i : ι)
    (r : Replica) : Prop where
  granted : ∀ t, r.granted t → (s.replica i).granted t
  sent : ∀ op t req, r.phase = .sent op t req →
    t = microTime s.now ∧ req.carries (f.cfg i).identity t

/-- Moving an attempt to a phase that is neither a request in flight nor an
accepted answer is quiet. -/
theorem quiet_phase {i : ι} {p : Phase}
    (hans : ∀ t l, p ≠ .answered t (.ok l))
    (hsent : ∀ op t req, p ≠ .sent op t req) :
    Quiet f s i { s.replica i with phase := p } where
  granted := by
    rintro t (h | ⟨l, hl⟩)
    · exact .inl h
    · exact absurd hl (hans t l)
  sent := fun op t req h => absurd h (hsent op t req)

theorem quiet_unwritten {i : ι} {result : Except KubeError Bool} :
    Quiet f s i { phase := .idle, last := some result, wrote := none } where
  granted := by
    rintro t (⟨_, h⟩ | ⟨l, h⟩) <;> cases h
  sent := by
    intro op t req h
    cases h

variable [DecidableEq ι]

@[simp] theorem setReplica_self (i : ι) (r : Replica) :
    (s.setReplica i r).replica i = r := Function.update_self ..

theorem setReplica_of_ne {i j : ι} (h : j ≠ i) (r : Replica) :
    (s.setReplica i r).replica j = s.replica j :=
  Function.update_of_ne h ..

@[simp] theorem setReplica_now (i : ι) (r : Replica) :
    (s.setReplica i r).now = s.now := rfl

@[simp] theorem setReplica_lease (i : ι) (r : Replica) :
    (s.setReplica i r).lease = s.lease := rfl

/-- The three kinds of step: the clock advances, one replica moves on its
own side, or a write is accepted. -/
theorem step_kinds {a : Action ι} (h : step f s a = some s') :
    (∃ elapsed : Nat, s' = { s with now := s.now + elapsed }) ∨
    (∃ i r, s' = s.setReplica i r ∧ Quiet f s i r) ∨
    (∃ i op t req l, a = .serve i ∧ (s.replica i).phase = .sent op t req ∧
      applyWrite s.lease req = .ok l ∧
      s' = ({ s with lease := some l } : State ι).setPhase i
        (.answered t (.ok l))) := by
  cases a with
  | tick elapsed => exact .inl ⟨elapsed, by simpa [step] using h.symm⟩
  | get i =>
      simp only [step] at h
      split at h
      · cases h
        exact .inr (.inl ⟨i, _, rfl, quiet_phase (by simp) (by simp)⟩)
      · cases h
  | getFails i e =>
      simp only [step] at h
      split at h
      · cases h
        exact .inr (.inl ⟨i, _, rfl, quiet_phase (by simp) (by simp)⟩)
      · cases h
  | decide i =>
      simp only [step] at h
      split at h
      · next answer hp =>
          split at h
          · cases h
            exact .inr (.inl ⟨i, _, rfl, quiet_phase (by simp) (by simp)⟩)
          · cases h
            exact .inr (.inl ⟨i, _, rfl, quiet_unwritten⟩)
      · cases h
  | send i =>
      simp only [step] at h
      split at h
      · next op hp =>
          cases h
          refine .inr (.inl ⟨i, _, rfl, ?_, ?_⟩)
          · rintro t (ht | ⟨l, hl⟩)
            · exact .inl ht
            · cases hl
          · intro op' t req hsent
            cases hsent
            exact ⟨rfl, request_carries op (f.cfg i) s.now⟩
      · cases h
  | serve i =>
      simp only [step] at h
      split at h
      · next op t req hp =>
          split at h
          · next l happ =>
              cases h
              exact .inr (.inr ⟨i, op, t, req, l, rfl, hp, happ, rfl⟩)
          · next e happ =>
              cases h
              exact .inr (.inl ⟨i, _, rfl, quiet_phase (by simp) (by simp)⟩)
      · cases h
  | lose i e =>
      simp only [step] at h
      split at h
      · cases h
        exact .inr (.inl ⟨i, _, rfl, quiet_phase (by simp) (by simp)⟩)
      · cases h
        exact .inr (.inl ⟨i, _, rfl, quiet_phase (by simp) (by simp)⟩)
      · cases h
  | finish i =>
      simp only [step] at h
      split at h
      · next t answer hp =>
          cases answer with
          | error e =>
              cases h
              exact .inr (.inl ⟨i, _, rfl, quiet_unwritten⟩)
          | ok l =>
              cases h
              refine .inr (.inl ⟨i, _, rfl, ?_, by simp⟩)
              rintro t' (⟨_, ht⟩ | ⟨l', hl⟩)
              · cases ht
                exact .inr ⟨l, hp⟩
              · cases hl
      · cases h

/-! ## The invariant along a run -/

theorem inv_quiet (hinv : Inv f s) {i : ι} {r : Replica}
    (hq : Quiet f s i r) : Inv f (s.setReplica i r) := by
  have hgrant : ∀ j t, ((s.setReplica i r).replica j).granted t →
      (s.replica j).granted t := by
    intro j t hg
    by_cases hj : j = i
    · subst hj
      rw [setReplica_self] at hg
      exact hq.granted t hg
    · rwa [setReplica_of_ne hj] at hg
  refine ⟨?_, ?_, ?_⟩
  · intro j t hg hfresh
    exact hinv.held j t (hgrant j t hg) hfresh
  · intro j t hg
    exact hinv.past j t (hgrant j t hg)
  · intro j op t req hp
    by_cases hj : j = i
    · subst hj
      rw [setReplica_self] at hp
      obtain ⟨ht, hc⟩ := hq.sent op t req hp
      refine ⟨le_of_eq ht, hc, fun t₀ hg => ?_⟩
      rw [ht]
      exact hinv.past j t₀ (hgrant j t₀ hg)
    · rw [setReplica_of_ne hj] at hp
      obtain ⟨ht, hc, hafter⟩ := hinv.flight j op t req hp
      exact ⟨ht, hc, fun t₀ hg => hafter t₀ (hgrant j t₀ hg)⟩

/-- The step everything rests on: a write that lands clear overwrites no
unexpired term but its own replica's older one. -/
theorem inv_accept (hinv : Inv f s) {i : ι} {op : LeaseOp} {t : Timestamp}
    {req : WriteRequest} {l : Lease}
    (hp : (s.replica i).phase = .sent op t req)
    (happ : applyWrite s.lease req = .ok l)
    (hclear : patchLandsClear f s (.serve i)) :
    Inv f (({ s with lease := some l } : State ι).setPhase i
      (.answered t (.ok l))) := by
  obtain ⟨htnow, hcarries, hafter⟩ := hinv.flight i op t req hp
  obtain ⟨hholder, hrenew⟩ := applyWrite_carries hcarries happ
  -- Terms of the writer are no newer than what it just wrote.
  have hself : ∀ t₀, (({ s.replica i with
      phase := .answered t (.ok l) } : Replica).granted t₀) → t₀ ≤ t := by
    rintro t₀ (h | ⟨l', hl⟩)
    · exact hafter t₀ (.inl h)
    · cases hl
      exact le_refl t
  refine ⟨?_, ?_, ?_⟩
  · intro j t₀ hg hfresh
    by_cases hj : j = i
    · subst hj
      simp only [State.setPhase, setReplica_self] at hg
      exact ⟨l, t, rfl, hholder, hrenew, hself t₀ hg⟩
    · simp only [State.setPhase, setReplica_of_ne hj] at hg
      obtain ⟨l₀, r, hl₀, hh, hr, hle⟩ := hinv.held j t₀ hg hfresh
      rw [hl₀] at happ
      obtain ⟨rv, body, rfl⟩ := applyWrite_ok_existing happ
      have hheld : heldByPeer f s i := by
        refine ⟨l₀, j, hl₀, hj, hh, ?_⟩
        rw [hr]
        exact hasExpired_mono hle (le_refl s.now) hfresh
      exact absurd hheld (hclear ⟨op, t, rv, body, hp⟩)
  · intro j t₀ hg
    by_cases hj : j = i
    · subst hj
      simp only [State.setPhase, setReplica_self] at hg
      exact le_trans (hself t₀ hg) htnow
    · simp only [State.setPhase, setReplica_of_ne hj] at hg
      exact hinv.past j t₀ hg
  · intro j op' t' req' hp'
    by_cases hj : j = i
    · subst hj
      simp only [State.setPhase, setReplica_self] at hp'
      cases hp'
    · simp only [State.setPhase, setReplica_of_ne hj] at hp' ⊢
      exact hinv.flight j op' t' req' hp'

theorem inv_step {a : Action ι} (hinv : Inv f s)
    (hclear : patchLandsClear f s a) (h : step f s a = some s') :
    Inv f s' := by
  rcases step_kinds h with ⟨elapsed, rfl⟩ | ⟨i, r, rfl, hq⟩ |
    ⟨i, op, t, req, l, rfl, hp, happ, rfl⟩
  · exact inv_tick hinv elapsed
  · exact inv_quiet hinv hq
  · exact inv_accept hinv hp happ hclear

theorem inv_reachable
    (h : Reachable (election f) (patchLandsClear f) s) : Inv f s :=
  h.invariant (fun _ hi => inv_init hi)
    (fun _ _ _ hinv hclear hs => inv_step hinv hclear hs)

/-! ## Mutual exclusion -/

/-- While every patch lands clear, at most one replica leads. -/
theorem exclusive_of_patchLandsClear (f : Fleet ι) (s : State ι)
    (h : Reachable (election f) (patchLandsClear f) s) : exclusive f s := by
  intro i j hi hj
  have hinv := inv_reachable h
  obtain ⟨l, hl, hli⟩ := holder_of_leads hinv hi
  obtain ⟨l', hl', hlj⟩ := holder_of_leads hinv hj
  have hsame : l = l' := Option.some.inj (hl.symm.trans hl')
  exact f.distinct i j (by rw [← hli, hsame, hlj])

/-! ## The race

Two replicas read the same expired Lease, and each patch lands: nothing in
the second one refers to the version it was decided on. -/

def pod (identity : String) : LeaderElectionConfig :=
  { leaseName := "mcpg-operator"
    leaseNamespace := "mcpg-system"
    identity := identity
    leaseDuration := 30 * nanosPerSec
    renewDeadline := 20 * nanosPerSec
    retryPeriod := 4 * nanosPerSec }

def twoPods : Fleet Bool where
  cfg := fun i => pod (if i then "pod-2" else "pod-1")
  valid := by decide
  distinct := by decide
  oneLease := by decide

/-- The Lease a crashed `pod-0` left behind a hundred seconds ago. -/
def abandoned : State Bool where
  now := 100 * nanosPerSec
  lease := some
    { resourceVersion := 7
      spec := some
        { holderIdentity := some "pod-0"
          leaseDurationSeconds := some 30
          acquireTime := some 0
          renewTime := some 0
          leaseTransitions := some 0 } }
  replica := fun _ => .start

def race : List (Action Bool) :=
  [.get false, .get true, .decide false, .decide true, .send false,
    .send true, .serve false, .serve true, .finish false, .finish true]

theorem race_leads :
    ((election twoPods).run abandoned race).map
      (fun s => decide (leads twoPods s false ∧ leads twoPods s true)) =
      some true := by
  decide +kernel

/-- Unrestricted runs reach a state with two leaders. -/
theorem not_exclusive_race :
    ¬ ∀ s, Reachable (election twoPods) anyStep s → exclusive twoPods s := by
  intro hall
  obtain ⟨s, hrun, hs⟩ := Option.map_eq_some_iff.mp race_leads
  obtain ⟨hfirst, hsecond⟩ := of_decide_eq_true hs
  have hreach : Reachable (election twoPods) anyStep s :=
    .of_run (.init fun _ => rfl) (System.permitted_anyStep ..) hrun
  exact absurd (hall s hreach false true hfirst hsecond) (by decide)

/-- A takeover with nobody in the way: `pod-1` patches the Lease the dead
`pod-0` still holds. -/
def takeover : List (Action Bool) :=
  [.get false, .decide false, .send false, .serve false, .finish false]

theorem takeover_leads :
    ((election twoPods).run abandoned takeover).map
      (fun s => decide (leads twoPods s false)) = some true := by
  decide +kernel

theorem takeover_permitted :
    (election twoPods).Permitted (patchLandsClear twoPods) abandoned
      takeover := by
  refine ⟨trivial, fun _ h => ?_⟩
  cases h
  refine ⟨trivial, fun _ h => ?_⟩
  cases h
  refine ⟨trivial, fun _ h => ?_⟩
  cases h
  refine ⟨?_, fun _ h => ?_⟩
  · -- The holder is `pod-0`, which is no replica of this fleet.
    rintro _ ⟨l, j, hl, _, hholder, _⟩
    cases hl
    cases j <;> exact absurd hholder (by decide)
  · cases h
    exact ⟨trivial, fun _ _ => trivial⟩

theorem takeover_exclusive :
    ∃ s, leads twoPods s false ∧ exclusive twoPods s := by
  obtain ⟨s, hrun, hs⟩ := Option.map_eq_some_iff.mp takeover_leads
  have hreach : Reachable (election twoPods) (patchLandsClear twoPods) s :=
    .of_run (.init fun _ => rfl) takeover_permitted hrun
  exact ⟨s, of_decide_eq_true hs,
    exclusive_of_patchLandsClear twoPods s hreach⟩

end McpgOperator.Leader
