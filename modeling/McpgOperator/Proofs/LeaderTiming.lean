import McpgOperator.Leader.Timed
import McpgOperator.Proofs.LeaderExclusion

/-!
# How long a replica keeps the Lease

`renew_deadline` below `lease_duration` is all that `validate` asks for. What
it buys depends on the environment. With a bound on how late a sleep of the
holder ends and on how long any attempt takes, of whichever replica, the age
of the stored renewal is bounded while its holder is attended to. A peer whose `lease_duration` leaves room for that
age and one attempt of its own then never finds it expired, and never sends a
patch: the holder keeps the Lease for good.
-/

namespace McpgOperator.Leader

open McpgOperator.Kube Transition

/-- `lease_duration`, as the expiry test has it. -/
def LeaderElectionConfig.term (c : LeaderElectionConfig) : Int :=
  min (c.leaseDuration : Int) signedDurationMax

/-- What `MicroTime` cuts off is less than a microsecond. -/
theorem le_microTime (t : Int) : t ≤ microTime t + 999 := by
  show t ≤ t / 1000 * 1000 + 999
  omega

variable {ι : Type} {f : Fleet ι} {i j : ι}
  {lateness latency : Nat} {s s' : TimedState ι}

/-! ## The holder -/

/-- The age of a renewal when the next attempt of its holder begins, at
most. -/
def renewalGap (f : Fleet ι) (i : ι) (lateness latency : Nat) : Int :=
  lateness + (f.cfg i).renewDeadline + latency + 999

/-- The times of an attempt of the holder that has not been served yet. -/
structure Underway (f : Fleet ι) (i : ι) (lateness latency : Nat)
    (now mark stamp : Int) : Prop where
  begun : mark ≤ now
  inTime : now ≤ mark + latency
  recent : mark ≤ stamp + renewalGap f i lateness latency

/-- Where the holder stands, with `stamp` on the Lease. -/
def Holding (f : Fleet ι) (i : ι) (lateness latency : Nat)
    (now mark stamp : Int) (r : Replica) : Prop :=
  match r.phase with
  | .idle => r.wrote = some stamp ∧ now ≤ mark + lateness ∧
      mark + lateness ≤ stamp + renewalGap f i lateness latency
  | .read answer => r.wrote = some stamp ∧
      Underway f i lateness latency now mark stamp ∧
      ∃ l, answer = .ok l ∧ l.holder = (f.cfg i).identity
  | .chosen op => r.wrote = some stamp ∧
      Underway f i lateness latency now mark stamp ∧
      ∃ l, op = .renewLease l
  | .sent op t req => r.wrote = some stamp ∧
      Underway f i lateness latency now mark stamp ∧ mark ≤ t + 999 ∧
      ∃ l sentAt, op = .renewLease l ∧ t = microTime sentAt ∧
        req = op.request (f.cfg i) sentAt
  | .answered t answer => t = stamp ∧ mark ≤ stamp + 999 ∧
      (∃ w, r.wrote = some w ∧ Underway f i lateness latency now mark w) ∧
      ∃ l, answer = .ok l

/-- A peer that has seen the holder's renewals, and sends no patch. -/
def Yielding (f : Fleet ι) (i : ι) (lateness latency : Nat)
    (now mark : Int) (r : Replica) : Prop :=
  r.last ≠ some (.ok true) ∧
  match r.phase with
  | .idle => True
  | .read answer => now ≤ mark + latency ∧
      ∀ l, answer = .ok l → l.holder = (f.cfg i).identity ∧
        ∃ stamp, l.renewTime = some stamp ∧
          mark ≤ stamp + (renewalGap f i lateness latency + latency)
  | .chosen op => op = .createLease
  | .sent _ _ req => ∃ spec, req = .create spec
  | .answered _ answer => ∃ e, answer = .error e

structure Keeps (f : Fleet ι) (i : ι) (lateness latency : Nat)
    (s : TimedState ι) : Prop where
  holder : ∃ l stamp, s.base.lease = some l ∧
    l.holder = (f.cfg i).identity ∧ l.renewTime = some stamp ∧
    (s.base.replica i).last = some (.ok true) ∧
    Holding f i lateness latency s.now (s.mark i) stamp (s.base.replica i)
  peers : ∀ j, j ≠ i → Yielding f i lateness latency s.now (s.mark j)
    (s.base.replica j)

/-- The renewal on the Lease, and the one the holder counts from, are no
older than this. -/
theorem age_of_holding {now mark stamp : Int} {r : Replica}
    (h : Holding f i lateness latency now mark stamp r) :
    now ≤ stamp + (renewalGap f i lateness latency + latency) ∧
      ∃ w, r.wrote = some w ∧
        now ≤ w + (renewalGap f i lateness latency + latency) := by
  have hunder : ∀ {stamp : Int}, Underway f i lateness latency now mark stamp →
      now ≤ stamp + (renewalGap f i lateness latency + latency) := by
    intro stamp hu
    have := hu.inTime
    have := hu.recent
    omega
  unfold Holding at h
  split at h
  · obtain ⟨hwrote, hnow, hmark⟩ := h
    have hage : now ≤ stamp + (renewalGap f i lateness latency + latency) := by
      omega
    exact ⟨hage, stamp, hwrote, hage⟩
  · exact ⟨hunder h.2.1, stamp, h.1, hunder h.2.1⟩
  · exact ⟨hunder h.2.1, stamp, h.1, hunder h.2.1⟩
  · exact ⟨hunder h.2.1, stamp, h.1, hunder h.2.1⟩
  · obtain ⟨rfl, hmark, ⟨w, hwrote, hu⟩, _⟩ := h
    have := hu.inTime
    refine ⟨?_, w, hwrote, hunder hu⟩
    unfold renewalGap
    omega

/-! ## An acquisition -/

/-- An attempt of `i` has just ended with `Ok(true)`, its write on the Lease,
and no attempt of a peer is under way. -/
structure Acquired (f : Fleet ι) (i : ι) (latency : Nat)
    (s : TimedState ι) : Prop where
  granted : ∃ (l : Lease) (stamp : Int), s.base.lease = some l ∧
    l.holder = (f.cfg i).identity ∧ l.renewTime = some stamp ∧
    s.base.replica i =
      { phase := .idle, last := some (.ok true), wrote := some stamp } ∧
    s.now ≤ stamp + (latency + 999)
  asleep : s.mark i = s.now + (f.cfg i).renewDeadline
  peers : ∀ j, j ≠ i → (s.base.replica j).phase = .idle ∧
    (s.base.replica j).last ≠ some (.ok true)

theorem keeps_of_acquired (h : Acquired f i latency s) :
    Keeps f i lateness latency s where
  holder := by
    obtain ⟨l, stamp, hlease, hholder, hrenew, hreplica, hrecent⟩ := h.granted
    refine ⟨l, stamp, hlease, hholder, hrenew, ?_⟩
    rw [hreplica, h.asleep]
    refine ⟨rfl, rfl, ?_, ?_⟩
    · omega
    · unfold renewalGap
      omega
  peers j hj := by
    obtain ⟨hidle, hlast⟩ := h.peers j hj
    refine ⟨hlast, ?_⟩
    rw [hidle]
    trivial

/-! ## One step -/

theorem keeps_tick (h : Keeps f i lateness latency s) {elapsed : Nat}
    (htime : inTime s i lateness latency elapsed) :
    Keeps f i lateness latency
      { s with base := { s.base with now := s.base.now + elapsed } } where
  holder := by
    obtain ⟨l, stamp, hlease, hholder, hrenew, hlast, hholding⟩ := h.holder
    refine ⟨l, stamp, hlease, hholder, hrenew, hlast, ?_⟩
    have hunder : (s.base.replica i).phase ≠ .idle → ∀ {stamp : Int},
        Underway f i lateness latency s.base.now (s.mark i) stamp →
        Underway f i lateness latency (s.base.now + elapsed) (s.mark i)
          stamp := by
      intro hphase stamp hu
      have hbegun : (s.mark i : Int) ≤ s.base.now := hu.begun
      exact ⟨by omega, htime.1 i hphase, hu.recent⟩
    show Holding f i lateness latency (s.base.now + elapsed) (s.mark i) stamp
      (s.base.replica i)
    unfold Holding at hholding ⊢
    split at hholding
    · next hidle => exact ⟨hholding.1, htime.2 hidle, hholding.2.2⟩
    · next hphase =>
        exact ⟨hholding.1, hunder (by simp [hphase]) hholding.2.1,
          hholding.2.2⟩
    · next hphase =>
        exact ⟨hholding.1, hunder (by simp [hphase]) hholding.2.1,
          hholding.2.2⟩
    · next hphase =>
        exact ⟨hholding.1, hunder (by simp [hphase]) hholding.2.1,
          hholding.2.2⟩
    · next hphase =>
        obtain ⟨ht, hmark, ⟨w, hw, hu⟩, hok⟩ := hholding
        exact ⟨ht, hmark, ⟨w, hw, hunder (by simp [hphase]) hu⟩, hok⟩
  peers j hj := by
    obtain ⟨hlast, hpeer⟩ := h.peers j hj
    refine ⟨hlast, ?_⟩
    split at hpeer
    · next hphase => rw [hphase]; trivial
    · next hphase =>
        rw [hphase]
        exact ⟨htime.1 j (by simp [hphase]), hpeer.2⟩
    · next hphase => rw [hphase]; exact hpeer
    · next hphase => rw [hphase]; exact hpeer
    · next hphase => rw [hphase]; exact hpeer

/-- Every renewal leaves this much room to every replica. -/
def Roomy (f : Fleet ι) (i : ι) (lateness latency : Nat) : Prop :=
  ∀ j, renewalGap f i lateness latency + 2 * latency ≤ (f.cfg j).term

/-- A peer that has read a renewal does not find it expired. -/
theorem afterGet_of_yielding (hroom : Roomy f i lateness latency)
    (hj : j ≠ i) {now mark : Int} {r : Replica}
    {answer : Except KubeError Lease}
    (h : Yielding f i lateness latency now mark r)
    (hphase : r.phase = .read answer) :
    afterGet (f.cfg j) answer now = .write .createLease ∨
      ∃ result, afterGet (f.cfg j) answer now = .done result ∧
        result ≠ .ok true := by
  have hread := h.2
  rw [hphase] at hread
  obtain ⟨hnow, hseen⟩ := hread
  cases answer with
  | error e =>
      simp only [afterGet]
      split
      · exact .inl rfl
      · exact .inr ⟨_, rfl, by simp⟩
  | ok l =>
      obtain ⟨hholder, stamp, hrenew, hmark⟩ := hseen l rfl
      have hforeign : l.holder ≠ (f.cfg j).identity := by
        rw [hholder]
        exact fun heq => hj (f.distinct i j heq).symm
      have hfresh : hasExpired l.renewTime (f.cfg j).leaseDuration now =
          false := by
        rw [hrenew, hasExpired_eq_false]
        have := hroom j
        unfold LeaderElectionConfig.term at this
        omega
      simp only [afterGet, hforeign, hfresh]
      exact .inr ⟨_, rfl, by simp⟩

variable [DecidableEq ι]

/-- Replica `i` and its instant are replaced. -/
def TimedState.put (s : TimedState ι) (i : ι) (r : Replica) (t : Int) :
    TimedState ι :=
  ({ s with base := s.base.setReplica i r } : TimedState ι).setMark i t

theorem put_replica_self (s : TimedState ι) (i : ι) (r : Replica) (t : Int) :
    (s.put i r t).base.replica i = r := Function.update_self ..

theorem put_mark_self (s : TimedState ι) (i : ι) (r : Replica) (t : Int) :
    (s.put i r t).mark i = t := Function.update_self ..

theorem put_replica_of_ne (s : TimedState ι) (h : j ≠ i) (r : Replica)
    (t : Int) : (s.put i r t).base.replica j = s.base.replica j :=
  Function.update_of_ne h ..

theorem put_mark_of_ne (s : TimedState ι) (h : j ≠ i) (r : Replica)
    (t : Int) : (s.put i r t).mark j = s.mark j := Function.update_of_ne h ..

theorem put_keeping_mark (s : TimedState ι) (i : ι) (r : Replica) :
    { s with base := s.base.setReplica i r } = s.put i r (s.mark i) := by
  unfold TimedState.put TimedState.setMark
  rw [Function.update_eq_self]

/-- A peer moves on its own side. -/
theorem keeps_peer (h : Keeps f i lateness latency s) (hj : j ≠ i)
    {r : Replica} {t : Int}
    (hr : Yielding f i lateness latency s.now t r) :
    Keeps f i lateness latency (s.put j r t) where
  holder := by
    obtain ⟨l, stamp, hlease, hholder, hrenew, hlast, hholding⟩ := h.holder
    refine ⟨l, stamp, hlease, hholder, hrenew, ?_⟩
    rw [put_replica_of_ne s hj.symm, put_mark_of_ne s hj.symm]
    exact ⟨hlast, hholding⟩
  peers k hk := by
    rcases eq_or_ne k j with rfl | hne
    · rw [put_replica_self, put_mark_self]
      exact hr
    · rw [put_replica_of_ne s hne, put_mark_of_ne s hne]
      exact h.peers k hk

/-- The holder moves, with its Lease as it is or renewed. -/
theorem keeps_holder (h : Keeps f i lateness latency s) {l : Lease}
    {stamp t : Int} {r : Replica} (hholder : l.holder = (f.cfg i).identity)
    (hrenew : l.renewTime = some stamp) (hlast : r.last = some (.ok true))
    (hr : Holding f i lateness latency s.now t stamp r) :
    Keeps f i lateness latency
      (({ s with base := { s.base with lease := some l } } :
        TimedState ι).put i r t) where
  holder := by
    refine ⟨l, stamp, rfl, hholder, hrenew, ?_⟩
    rw [put_replica_self, put_mark_self]
    exact ⟨hlast, hr⟩
  peers k hk := by
    rw [put_replica_of_ne _ hk, put_mark_of_ne _ hk]
    exact h.peers k hk

/-- Who takes the step; nobody takes a tick. -/
def Action.actor : Action ι → Option ι
  | .tick _ => none
  | .get i | .getFails i _ | .decide i | .send i | .serve i | .lose i _
  | .finish i => some i

theorem keeps_step_of_peer (hroom : Roomy f i lateness latency)
    (h : Keeps f i lateness latency s) {a : Action ι}
    (hactor : a.actor = some j) (hj : j ≠ i)
    (hstep : timedStep f s a = some s') :
    Keeps f i lateness latency s' := by
  obtain ⟨l, stamp, hlease, hholder, hrenew, _, hholding⟩ := h.holder
  obtain ⟨hlast, hphases⟩ := h.peers j hj
  cases timedSteps_of_timedStep hstep with
  | tick elapsed => cases hactor
  | get hphase hwoken =>
      cases hactor
      refine keeps_peer h hj ⟨hlast, ?_, ?_⟩
      · exact Int.le_add_of_nonneg_right (Int.natCast_nonneg latency)
      · intro l' hl'
        rw [hlease] at hl'
        cases hl'
        exact ⟨hholder, stamp, hrenew, (age_of_holding hholding).1⟩
  | getFails hphase hwoken =>
      cases hactor
      refine keeps_peer h hj ⟨hlast, ?_, fun l hl => nomatch hl⟩
      exact Int.le_add_of_nonneg_right (Int.natCast_nonneg latency)
  | chooses hphase hget =>
      cases hactor
      rw [State.setPhase, put_keeping_mark]
      refine keeps_peer h hj ⟨hlast, ?_⟩
      rcases afterGet_of_yielding hroom hj (h.peers j hj) hphase with
        hcreate | ⟨result, hdone, _⟩
      · rw [hget] at hcreate
        cases hcreate
        rfl
      · rw [hget] at hdone
        cases hdone
  | ends hphase hget =>
      cases hactor
      refine keeps_peer h hj ⟨?_, trivial⟩
      rcases afterGet_of_yielding hroom hj (h.peers j hj) hphase with
        hcreate | ⟨result, hdone, hne⟩
      · rw [hget] at hcreate
        cases hcreate
      · rw [hget] at hdone
        cases hdone
        simpa using hne
  | send hphase =>
      cases hactor
      rw [State.setPhase, put_keeping_mark]
      rw [hphase] at hphases
      cases hphases
      exact keeps_peer h hj ⟨hlast, _, rfl⟩
  | serves hphase happ =>
      cases hactor
      rw [hphase] at hphases
      obtain ⟨spec, rfl⟩ := hphases
      rw [hlease] at happ
      cases happ
  | refuses hphase happ =>
      cases hactor
      rw [State.setPhase, put_keeping_mark]
      exact keeps_peer h hj ⟨hlast, _, rfl⟩
  | loses hphase =>
      cases hactor
      rw [State.setPhase, put_keeping_mark]
      exact keeps_peer h hj ⟨hlast, _, rfl⟩
  | succeeds hphase =>
      cases hactor
      rw [hphase] at hphases
      obtain ⟨e, he⟩ := hphases
      cases he
  | fails hphase =>
      cases hactor
      exact keeps_peer h hj ⟨by simp, trivial⟩

theorem keeps_step_of_holder (h : Keeps f i lateness latency s)
    {a : Action ι} (hactor : a.actor = some i)
    (hok : attended i lateness latency s a)
    (hstep : timedStep f s a = some s') :
    Keeps f i lateness latency s' := by
  obtain ⟨l, stamp, hlease, hholder, hrenew, hlast, hholding⟩ := h.holder
  -- the Lease stays as it is
  have hmove : ∀ {r : Replica} {t : Int}, r.last = some (.ok true) →
      Holding f i lateness latency s.now t stamp r →
      Keeps f i lateness latency (s.put i r t) := by
    intro r t hlast hr
    have hput := keeps_holder h hholder hrenew hlast hr
    rw [← hlease] at hput
    exact hput
  unfold Holding at hholding
  cases timedSteps_of_timedStep hstep with
  | tick elapsed => cases hactor
  | get hphase hwoken =>
      cases hactor
      rw [hphase] at hholding
      obtain ⟨hwrote, hlate, hgap⟩ := hholding
      unfold TimedState.now at hlate hmove
      refine hmove hlast ⟨hwrote, ⟨le_refl _, ?_, ?_⟩, l, ?_, hholder⟩
      · omega
      · omega
      · rw [hlease]
        rfl
  | getFails hphase hwoken =>
      cases hactor
      exact absurd rfl hok
  | chooses hphase hget =>
      cases hactor
      rw [State.setPhase, put_keeping_mark]
      rw [hphase] at hholding
      obtain ⟨hwrote, hunder, l', rfl, hown⟩ := hholding
      simp only [afterGet, hown, if_true] at hget
      cases hget
      exact hmove hlast ⟨hwrote, hunder, l', rfl⟩
  | ends hphase hget =>
      cases hactor
      rw [hphase] at hholding
      obtain ⟨_, _, l', rfl, hown⟩ := hholding
      simp only [afterGet, hown, if_true] at hget
      cases hget
  | send hphase =>
      cases hactor
      rw [State.setPhase, put_keeping_mark]
      rw [hphase] at hholding
      obtain ⟨hwrote, hunder, l', rfl⟩ := hholding
      exact hmove hlast ⟨hwrote, hunder,
        hunder.begun.trans (le_microTime _), l', s.base.now, rfl, rfl, rfl⟩
  | @serves _ _ _ _ l' hphase happ =>
      cases hactor
      rw [hphase] at hholding
      obtain ⟨hwrote, hunder, hmark, _, sentAt, rfl, rfl, rfl⟩ := hholding
      obtain ⟨hown, hnew⟩ := applyWrite_carries (request_carries _ _ _) happ
      let r : Replica :=
        { s.base.replica i with
          phase := .answered (microTime sentAt) (.ok l') }
      have hput := keeps_holder (r := r) h hown hnew hlast
        ⟨rfl, hmark, ⟨stamp, hwrote, hunder⟩, l', rfl⟩
      rw [← put_keeping_mark] at hput
      exact hput
  | refuses hphase happ =>
      cases hactor
      rw [hphase] at hholding
      obtain ⟨_, _, _, l', sentAt, rfl, _, rfl⟩ := hholding
      rw [hlease] at happ
      cases happ
  | loses hphase =>
      cases hactor
      exact absurd rfl hok
  | succeeds hphase =>
      cases hactor
      rw [hphase] at hholding
      obtain ⟨rfl, hmark, ⟨w, _, hunder⟩, _⟩ := hholding
      have hintime := hunder.inTime
      unfold TimedState.now at hintime hmove
      refine hmove rfl ⟨rfl, ?_, ?_⟩
      · omega
      · unfold renewalGap
        omega
  | fails hphase =>
      cases hactor
      rw [hphase] at hholding
      obtain ⟨_, _, _, l', hl'⟩ := hholding
      cases hl'

theorem keeps_step (hroom : Roomy f i lateness latency)
    (h : Keeps f i lateness latency s) {a : Action ι}
    (hok : attended i lateness latency s a)
    (hstep : timedStep f s a = some s') :
    Keeps f i lateness latency s' := by
  cases hactor : a.actor with
  | none =>
      cases a with
      | tick elapsed =>
          cases hstep
          exact keeps_tick h hok
      | _ => cases hactor
  | some j =>
      rcases eq_or_ne j i with rfl | hj
      · exact keeps_step_of_holder h hactor hok hstep
      · exact keeps_step_of_peer hroom h hactor hj hstep

/-! ## A Lease that is kept -/

/-- What follows on an acquisition by `i`. -/
def afterAcquisition (f : Fleet ι) (i : ι) (latency : Nat) :
    System (TimedState ι) (Action ι) :=
  { timedElection f with init := Acquired f i latency }

/-- As long as it is attended to, every attempt of every replica is bounded,
and its renewals leave everyone room, the holder leads without interruption,
and nobody else does. A peer that is paused between its GET and its patch may
lead as well; the bound on its attempt is what excludes it. -/
theorem leads_of_attended (hroom : Roomy f i lateness latency)
    (h : Reachable (afterAcquisition f i latency)
      (attended i lateness latency) s) :
    leads f s.base i ∧ ∀ j, leads f s.base j → j = i := by
  have hkeeps : Keeps f i lateness latency s := by
    induction h with
    | init hacquired => exact keeps_of_acquired hacquired
    | step _ hok hstep ih => exact keeps_step hroom ih hok hstep
  obtain ⟨l, stamp, _, _, _, hlast, hholding⟩ := hkeeps.holder
  obtain ⟨_, w, hwrote, hage⟩ := age_of_holding hholding
  have hterm := hroom i
  unfold LeaderElectionConfig.term at hterm
  unfold TimedState.now at hage
  refine ⟨⟨hlast, ?_⟩, fun j hleads => ?_⟩
  · rw [hwrote, hasExpired_eq_false]
    omega
  · by_contra hne
    exact (hkeeps.peers j hne).1 hleads.1

/-! ## A holder that renews -/

namespace Sample

/-- `pod-1` wrote half a second ago and goes to sleep. -/
def acquired : TimedState Bool where
  base :=
    { now := 100500 * 1000000
      lease := some
        { resourceVersion := 8
          spec := some
            { holderIdentity := some "pod-1"
              leaseDurationSeconds := some 30
              acquireTime := some (100000 * 1000000)
              renewTime := some (100000 * 1000000)
              leaseTransitions := some 1 } }
      replica := fun i =>
        if i then .start
        else
          { phase := .idle, last := some (.ok true)
            wrote := some (100000 * 1000000) } }
  mark i := if i then 101000 * 1000000 else 120500 * 1000000

/-- `pod-2` looks before and behind a renewal that takes two seconds. -/
def renewing : List (Action Bool) :=
  [.tick 20000000000, .get true, .tick 1000000000, .decide true,
    .get false, .decide false, .send false, .tick 2000000000, .serve false,
    .finish false, .tick 3000000000, .get true, .decide true]

end Sample

/-- It leads behind it as before. -/
theorem leads_of_attended_renewing :
    ∃ s, (timedElection twoPods).run Sample.acquired Sample.renewing =
        some s ∧
      (leads twoPods s.base false ∧
        ∀ j, leads twoPods s.base j → j = false) := by
  have hrun : ((afterAcquisition twoPods false (2 * nanosPerSec)).checkedRun
      (attended false nanosPerSec (2 * nanosPerSec)) Sample.acquired
      Sample.renewing).isSome = true := by
    decide +kernel
  obtain ⟨s, hs⟩ := Option.isSome_iff_exists.mp hrun
  have hacquired : Acquired twoPods false (2 * nanosPerSec)
      Sample.acquired := by
    refine ⟨⟨_, _, rfl, rfl, rfl, rfl, ?_⟩, rfl, ?_⟩
    · decide
    · decide
  have hroom : Roomy twoPods false nanosPerSec (2 * nanosPerSec) := by
    intro j
    cases j <;> decide
  exact ⟨s, System.run_of_checkedRun hs,
    leads_of_attended hroom (.of_checkedRun (.init hacquired) hs)⟩

end McpgOperator.Leader
