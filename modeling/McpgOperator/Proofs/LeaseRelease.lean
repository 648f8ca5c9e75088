import McpgOperator.Leader.Replicas
import McpgOperator.Proofs.LeaderExclusion

/-!
# What a released Lease is worth to a peer

A shutdown releases the Lease so that the next replica picks it up at once.
`release_lease` takes the holder out and sets `renewTime` to the moment of
the release, which it calls a bump for peers to see. But the attempt of a
peer never looks for a Lease without a holder: a holder that is not itself is
a peer, and whether it may take over is the expiry test alone, which counts
from that very `renewTime`. The peer waits out its whole `lease_duration`,
as if the holder had renewed and died.
-/

namespace McpgOperator.Leader

open McpgOperator.Kube

/-! ## What is stored after a release -/

/-- The release of a stored Lease goes through, and leaves no holder and
the time of the release. -/
theorem releaseLease_some (l : Lease) (now : Timestamp) :
    ∃ l', releaseLease (some l) now = (some l', .ok ()) ∧
      l'.holder = "" ∧ l'.renewTime = some (microTime now) :=
  ⟨_, rfl, rfl, rfl⟩

theorem identity_ne_empty {cfg : LeaderElectionConfig}
    (h : cfg.validate = .ok ()) : cfg.identity ≠ "" := by
  rintro hempty
  unfold LeaderElectionConfig.validate at h
  split at h
  · cases h
  · split at h
    · cases h
    · rw [if_pos (by rw [hempty]; rfl)] at h
      cases h

/-! ## What an attempt makes of a stored Lease -/

/-- The attempt returns `Ok(true)` and the stored Lease names the replica. -/
def Acquires (cfg : LeaderElectionConfig) (stored : Option Lease)
    (now later : Timestamp) : Prop :=
  (tryAcquireOrRenew cfg stored now later).2 = .ok true ∧
    ∃ l, (tryAcquireOrRenew cfg stored now later).1 = some l ∧
      l.holder = cfg.identity

instance (cfg : LeaderElectionConfig) (stored : Option Lease)
    (now later : Timestamp) : Decidable (Acquires cfg stored now later) :=
  match h : (tryAcquireOrRenew cfg stored now later).1 with
  | none => isFalse fun hacq => by
      obtain ⟨_, l, hl, _⟩ := hacq
      rw [h] at hl
      cases hl
  | some l =>
      decidable_of_iff
        ((tryAcquireOrRenew cfg stored now later).2 = .ok true ∧
          l.holder = cfg.identity) (by simp [Acquires, h])

/-- A patch for an existing Lease is served, and names its sender. -/
theorem acquires_of_write {cfg : LeaderElectionConfig} {l : Lease}
    {now later : Timestamp} {op : LeaseOp}
    (hget : afterGet cfg (.ok l) now = .write op)
    (hop : op = .renewLease l ∨ op = .replaceHolder l) :
    Acquires cfg (some l) now later := by
  unfold Acquires tryAcquireOrRenew
  simp only [getLease, hget]
  rcases hop with rfl | rfl
  · exact ⟨rfl, _, rfl, rfl⟩
  · exact ⟨rfl, _, rfl, rfl⟩

/-- An attempt on a Lease somebody else holds, or nobody, goes by the expiry
test. -/
theorem acquires_iff_hasExpired {cfg : LeaderElectionConfig} {l : Lease}
    (hholder : l.holder ≠ cfg.identity) (now later : Timestamp) :
    Acquires cfg (some l) now later ↔
      hasExpired l.renewTime cfg.leaseDuration now = true := by
  constructor
  · rintro ⟨hresult, _⟩
    by_contra hfresh
    have hget : afterGet cfg (.ok l) now = .done (.ok false) := by
      rw [afterGet, if_neg hholder, if_neg hfresh]
    simp only [tryAcquireOrRenew, getLease, hget] at hresult
    cases hresult
  · intro hexpired
    refine acquires_of_write ?_ (.inr rfl)
    rw [afterGet, if_neg hholder, if_pos hexpired]

/-! ## Among the replicas -/

theorem run_attempt_done {ι : Type} [DecidableEq ι] {f : Fleet ι}
    {s : State ι} {i : ι} {result : Except KubeError Bool}
    (hidle : (s.replica i).phase = .idle)
    (hget : afterGet (f.cfg i) (getLease s.lease) s.now = .done result) :
    ∃ s', (election f).run s [.get i, .decide i] = some s' ∧
      s'.lease = s.lease ∧ (s'.replica i).last = some result := by
  simp [Transition.System.run, election, step, hidle, State.setPhase,
    State.setReplica, State.complete, hget]

theorem run_attempt_write {ι : Type} [DecidableEq ι] {f : Fleet ι}
    {s : State ι} {i : ι} {op : LeaseOp} (elapsed : Nat)
    (hidle : (s.replica i).phase = .idle)
    (hget : afterGet (f.cfg i) (getLease s.lease) s.now = .write op) :
    ∃ s', (election f).run s [.get i, .decide i, .tick elapsed, .send i,
          .serve i, .finish i] = some s' ∧
      s'.lease = ((applyWrite s.lease
        (op.request (f.cfg i) (s.now + elapsed))).toOption <|> s.lease) ∧
      (s'.replica i).last = some (afterWrite (applyWrite s.lease
        (op.request (f.cfg i) (s.now + elapsed)))) := by
  cases happly : applyWrite s.lease (op.request (f.cfg i) (s.now + elapsed))
    with
  | ok l =>
      simp [Transition.System.run, election, step, hidle, State.setPhase,
        State.setReplica, State.complete, hget, happly, afterWrite,
        Except.toOption]
  | error e =>
      simp [Transition.System.run, election, step, hidle, State.setPhase,
        State.setReplica, State.complete, hget, happly, afterWrite,
        Except.toOption]

/-- The attempt of one of several replicas, when no step of another comes in
between, is `tryAcquireOrRenew`. -/
theorem run_attempt {ι : Type} [DecidableEq ι] (f : Fleet ι) (s : State ι)
    (i : ι) (elapsed : Nat) (hidle : (s.replica i).phase = .idle) :
    ∃ as s', (election f).run s as = some s' ∧
      (s'.lease, (s'.replica i).last) =
        (tryAcquireOrRenew (f.cfg i) s.lease s.now (s.now + elapsed)).map
          id some := by
  unfold tryAcquireOrRenew
  cases hget : afterGet (f.cfg i) (getLease s.lease) s.now with
  | done result =>
      obtain ⟨s', hrun, hlease, hlast⟩ := run_attempt_done hidle hget
      exact ⟨_, s', hrun, Prod.ext hlease hlast⟩
  | write op =>
      obtain ⟨s', hrun, hlease, hlast⟩ :=
        run_attempt_write elapsed hidle hget
      exact ⟨_, s', hrun, Prod.ext hlease hlast⟩

/-! ## The hand-over -/

/-- The first attempt of a peer after the release acquires the Lease if and
only if its own `lease_duration` has passed since. -/
theorem handsOver_iff (l : Lease) (released : Timestamp)
    (cfg : LeaderElectionConfig) (hvalid : cfg.validate = .ok ())
    (now later : Timestamp) :
    (releaseLease (some l) released).2 = .ok () ∧
      (Acquires cfg (releaseLease (some l) released).1 now later ↔
        now - microTime released >
          min (cfg.leaseDuration : Int) signedDurationMax) := by
  obtain ⟨l', hrelease, hholder, hrenew⟩ := releaseLease_some l released
  rw [hrelease]
  refine ⟨rfl, ?_⟩
  have hpeer : l'.holder ≠ cfg.identity := by
    rw [hholder]
    exact (identity_ne_empty hvalid).symm
  rw [acquires_iff_hasExpired hpeer, hrenew]
  exact decide_eq_true_iff

/-- A Lease `pod-1` holds since a while. -/
def heldLease : Lease :=
  { resourceVersion := 7
    spec := some
      { holderIdentity := some "pod-1", leaseDurationSeconds := some 30,
        acquireTime := some 0, renewTime := some 5000000000,
        leaseTransitions := some 3 } }

theorem handsOver_pod :
    (pod "pod-0").validate = .ok () ∧
      (releaseLease (some heldLease) 9000000000).2 = .ok () ∧
      (Acquires (pod "pod-0") (releaseLease (some heldLease) 9000000000).1
          60000000000 60000000001 ↔
        60000000000 - microTime 9000000000 >
          min ((pod "pod-0").leaseDuration : Int) signedDurationMax) :=
  ⟨by decide,
    handsOver_iff heldLease 9000000000 (pod "pod-0") (by decide) 60000000000
      60000000001⟩

/-- Four seconds after a graceful release nobody leads. -/
theorem not_handsOver :
    ¬ ∀ (l : Lease) (holder cfg : LeaderElectionConfig)
      (released now later : Timestamp),
      l.holder = holder.identity → holder.validate = .ok () →
      cfg.validate = .ok () → cfg.identity ≠ holder.identity →
      Acquires cfg (releaseLease (some l) released).1 now later := by
  intro h
  have hacq := h heldLease (pod "pod-1") (pod "pod-0") 9000000000
    13000000000 13000000001 rfl (by decide) (by decide) (by decide)
  exact absurd hacq (by decide)

end McpgOperator.Leader
