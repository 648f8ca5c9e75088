import McpgOperator.Proofs.LeaderTiming

/-!
# How soon another replica has the Lease

Nobody tells a replica that the holder is gone; it looks at the Lease now and
then. With a bound on how late its sleeps end and on how long an attempt of
any replica takes, one replica that is attended to is enough: the renewal on
the Lease never grows older than its own term, one sleep and three attempts.

The bound counts from the last renewal, which need not be the newest: a patch
that travels longer than another one lands with the older instant. It is still
no older than an attempt.
-/

namespace McpgOperator.Leader

open McpgOperator.Kube Transition

variable {ι : Type} {f : Fleet ι} {i j : ι} {lateness latency : Nat}
  {s s' : TimedState ι} {now₀ : Int}

/-! ## The renewal on the Lease -/

/-- The last renewal; what was there before `now₀` does not count. -/
def renewal (now₀ : Int) (lease : Option Lease) : Int :=
  max now₀ ((lease.bind (·.renewTime)).getD now₀)

/-- A request carries an instant no attempt's length before the present. -/
def Prompt (f : Fleet ι) (k : ι) (latency : Nat) (now mark : Int)
    (r : Replica) : Prop :=
  r.phase ≠ .idle → (mark ≤ now ∧ now ≤ mark + latency) ∧
    ∀ op t req, r.phase = .sent op t req →
      mark ≤ t + 999 ∧
        ∃ sentAt, t = microTime sentAt ∧ req = op.request (f.cfg k) sentAt

/-- How long a sleep of `j` lasts behind a renewal, at most. -/
def watchGap (f : Fleet ι) (j : ι) (latency : Nat) : Int :=
  (f.cfg j).term + (f.cfg j).renewDeadline + 2 * latency + 999

/-- Somebody renewed during the attempt of the watching replica, or nobody
did and it knows the Lease as it is. -/
def Watching (f : Fleet ι) (j : ι) (lateness latency : Nat)
    (now mark : Int) (ref : Int) (lease : Option Lease) (phase : Phase) :
    Prop :=
  match phase with
  | .idle => mark ≤ ref + watchGap f j latency ∧
      mark ≤ now + (f.cfg j).renewDeadline ∧ now ≤ mark + lateness
  | .read answer => mark ≤ ref + latency + 999 ∨
      answer = getLease lease ∧
        mark ≤ ref + watchGap f j latency + lateness
  | .chosen op | .sent op _ _ => mark ≤ ref + latency + 999 ∨
      (op = .createLease ↔ lease = none) ∧
        mark ≤ ref + watchGap f j latency + lateness
  | .answered _ _ => mark ≤ ref + latency + 999

structure Watches (f : Fleet ι) (j : ι) (lateness latency : Nat)
    (now₀ : Int) (s : TimedState ι) : Prop where
  prompt : ∀ k, Prompt f k latency s.now (s.mark k) (s.base.replica k)
  watching : Watching f j lateness latency s.now (s.mark j)
    (renewal now₀ s.base.lease) s.base.lease (s.base.replica j).phase

/-- The age of a renewal, at most. -/
def unattendedFor (f : Fleet ι) (j : ι) (lateness latency : Nat) : Int :=
  watchGap f j latency + lateness + latency

theorem term_nonneg : 0 ≤ (f.cfg j).term := by
  unfold LeaderElectionConfig.term signedDurationMax nanosPerSec
  omega

theorem age_of_watches (h : Watches f j lateness latency now₀ s) :
    s.now ≤
      renewal now₀ s.base.lease + unattendedFor f j lateness latency := by
  have hprompt := h.prompt j
  have hwatching := h.watching
  have hterm := term_nonneg (f := f) (j := j)
  unfold Prompt at hprompt
  unfold unattendedFor watchGap
  unfold Watching watchGap at hwatching
  split at hwatching
  · omega
  all_goals
    next hphase =>
    obtain ⟨⟨_, hnow⟩, _⟩ := hprompt (by simp [hphase])
    omega

theorem le_renewal (now₀ : Int) (lease : Option Lease) :
    now₀ ≤ renewal now₀ lease :=
  Int.le_max_left _ _

theorem renewTime_le_renewal (now₀ : Int) {l : Lease} {t : Int}
    (h : l.renewTime = some t) : t ≤ renewal now₀ (some l) := by
  unfold renewal
  rw [Option.bind_some, h]
  exact Int.le_max_right _ _

/-! ## The beginning -/

/-- Between attempts, everywhere; `j` is in time. -/
structure Resting (f : Fleet ι) (j : ι) (lateness : Nat)
    (s : TimedState ι) : Prop where
  idle : ∀ k, (s.base.replica k).phase = .idle
  mark : s.mark j ≤ s.now + (f.cfg j).renewDeadline
  late : s.now ≤ s.mark j + lateness

theorem watches_of_resting (h : Resting f j lateness s) :
    Watches f j lateness latency s.now s where
  prompt k hbusy := absurd (h.idle k) hbusy
  watching := by
    rw [h.idle j]
    have hterm := term_nonneg (f := f) (j := j)
    have hnow := le_renewal s.now s.base.lease
    have hmark := h.mark
    refine ⟨?_, hmark, h.late⟩
    unfold watchGap
    omega

/-! ## One step -/

theorem prompt_of_busy {k : ι} {now mark : Int} {r r' : Replica}
    (h : Prompt f k latency now mark r) (hbusy : r.phase ≠ .idle)
    (hunsent : ∀ op t req, r'.phase ≠ .sent op t req) :
    Prompt f k latency now mark r' :=
  fun _ => ⟨(h hbusy).1, fun op t req hsent => absurd hsent
    (hunsent op t req)⟩

/-- No sleep is longer than the one behind a renewal. -/
theorem sleepFor_le (result : Except KubeError Bool) :
    (sleepFor (f.cfg j) result : Int) ≤ ((f.cfg j).renewDeadline : Int) := by
  have hretry : (f.cfg j).retryPeriod ≤ (f.cfg j).renewDeadline := by
    have hvalid := f.valid j
    unfold LeaderElectionConfig.validate at hvalid
    split at hvalid
    · cases hvalid
    · split at hvalid
      · cases hvalid
      · next hshort => exact (Nat.lt_of_not_le hshort).le
  refine Int.ofNat_le.mpr ?_
  rcases result with e | b
  · exact hretry
  · cases b with
    | false => exact hretry
    | true => exact le_refl _

/-- Right behind a renewal, whoever's it is, there is nothing to fear. -/
theorem watching_of_recent {now mark ref : Int} {lease : Option Lease}
    {r : Replica} (hprompt : Prompt f j latency now mark r)
    (hidle : r.phase = .idle →
      mark ≤ now + (f.cfg j).renewDeadline ∧ now ≤ mark + lateness)
    (hrecent : now ≤ ref + latency + 999) :
    Watching f j lateness latency now mark ref lease r.phase := by
  have hterm := term_nonneg (f := f) (j := j)
  unfold Watching
  split
  · next hphase =>
      obtain ⟨hmark, hlate⟩ := hidle hphase
      refine ⟨?_, hmark, hlate⟩
      unfold watchGap
      omega
  all_goals
    next hphase =>
    obtain ⟨⟨hbegun, _⟩, _⟩ := hprompt (by simp [hphase])
    first
    | exact .inl (by omega)
    | omega

/-- A write of `k` is on the Lease. -/
theorem renewal_of_served (now₀ : Int) {k : ι} {op : LeaseOp} {t : Int}
    {req : WriteRequest} {l : Lease}
    (hprompt : Prompt f k latency s.now (s.mark k) (s.base.replica k))
    (hsent : (s.base.replica k).phase = .sent op t req)
    (happ : applyWrite s.base.lease req = .ok l) :
    s.now ≤ renewal now₀ (some l) + latency + 999 ∧
      s.mark k ≤ renewal now₀ (some l) + 999 := by
  obtain ⟨⟨_, hnow⟩, hrequest⟩ := hprompt (by simp [hsent])
  obtain ⟨hmark, sentAt, rfl, rfl⟩ := hrequest op t req hsent
  have hcarries := request_carries op (f.cfg k) sentAt
  have hrenew := renewTime_le_renewal now₀
    (applyWrite_carries hcarries happ).2
  constructor <;> omega

theorem idle_of_watching {now mark ref : Int} {lease : Option Lease}
    {phase : Phase}
    (h : Watching f j lateness latency now mark ref lease phase)
    (hidle : phase = .idle) :
    mark ≤ now + (f.cfg j).renewDeadline ∧ now ≤ mark + lateness := by
  subst hidle
  exact h.2

/-- A sleep that begins while the renewal on the Lease counts. -/
theorem watching_idle {now ref : Int} {lease : Option Lease} {d : Duration}
    (hfresh : now ≤ ref + (f.cfg j).term)
    (hsleep : (d : Int) ≤ ((f.cfg j).renewDeadline : Int)) :
    Watching f j lateness latency now (now + d) ref lease .idle := by
  refine ⟨?_, by omega, by omega⟩
  unfold watchGap
  omega

/-- Behind an attempt that found the Lease renewed, or that renewed it. -/
theorem watching_sleep {now mark ref : Int} {lease : Option Lease}
    (result : Except KubeError Bool) (hnow : now ≤ mark + latency)
    (hrecent : mark ≤ ref + latency + 999) :
    Watching f j lateness latency now
      (now + sleepFor (f.cfg j) result) ref lease .idle := by
  have hterm := term_nonneg (f := f) (j := j)
  have hsleep := sleepFor_le (f := f) (j := j) result
  refine ⟨?_, by omega, by omega⟩
  unfold watchGap
  omega

/-- A Lease is created where none was found. -/
theorem createLease_iff {lease : Option Lease} {now : Int} {op : LeaseOp}
    (h : afterGet (f.cfg j) (getLease lease) now = .write op) :
    op = .createLease ↔ lease = none := by
  cases lease with
  | none =>
      cases h
      exact ⟨fun _ => rfl, fun _ => rfl⟩
  | some l =>
      simp only [getLease, afterGet] at h
      split at h
      · cases h
        simp
      · split at h
        · cases h
          simp
        · cases h

/-- An attempt that writes nothing found a renewal that counts. -/
theorem fresh_of_done (now₀ : Int) {lease : Option Lease} {now : Int}
    {result : Except KubeError Bool}
    (h : afterGet (f.cfg j) (getLease lease) now = .done result) :
    now ≤ renewal now₀ lease + (f.cfg j).term := by
  cases lease with
  | none => cases h
  | some l =>
      simp only [getLease, afterGet] at h
      split at h
      · cases h
      · split at h
        · cases h
        · next hfresh =>
            cases hrenew : l.renewTime with
            | none =>
                rw [hrenew] at hfresh
                exact absurd rfl hfresh
            | some t =>
                rw [hrenew] at hfresh
                have hterm := hasExpired_eq_false.mp
                  (Bool.eq_false_iff.mpr hfresh)
                have hle := renewTime_le_renewal now₀ hrenew
                unfold LeaderElectionConfig.term
                omega

/-- What was decided on the Lease as it is, is accepted. -/
theorem applyWrite_request {lease : Option Lease} {op : LeaseOp}
    {cfg : LeaderElectionConfig} {sentAt : Timestamp}
    (h : op = .createLease ↔ lease = none) :
    ∃ l, applyWrite lease (op.request cfg sentAt) = .ok l := by
  cases lease with
  | none =>
      rw [h.mpr rfl]
      exact ⟨_, rfl⟩
  | some l =>
      cases op with
      | createLease => exact absurd (h.mp rfl) (by simp)
      | renewLease existing => exact ⟨_, rfl⟩
      | replaceHolder existing => exact ⟨_, rfl⟩

variable [DecidableEq ι]

theorem prompt_put (h : ∀ k, Prompt f k latency s.now (s.mark k)
      (s.base.replica k)) {k : ι} {r : Replica} {t : Int}
    (hr : Prompt f k latency s.now t r) :
    ∀ j, Prompt f j latency (s.put k r t).now ((s.put k r t).mark j)
      ((s.put k r t).base.replica j) := by
  intro j
  rcases eq_or_ne j k with rfl | hne
  · rw [put_replica_self, put_mark_self]
    exact hr
  · rw [put_replica_of_ne s hne, put_mark_of_ne s hne]
    exact h j

theorem prompt_step {a : Action ι}
    (h : ∀ k, Prompt f k latency s.now (s.mark k) (s.base.replica k))
    (hok : attended i lateness latency s a)
    (hstep : timedStep f s a = some s') :
    ∀ k, Prompt f k latency s'.now (s'.mark k) (s'.base.replica k) := by
  -- an attempt goes on, without a request in flight
  have hgoes : ∀ {k p}, (s.base.replica k).phase ≠ .idle →
      (∀ op t req, p ≠ .sent op t req) →
      ∀ j, Prompt f j latency (s.put k { s.base.replica k with phase := p }
        (s.mark k)).now _ _ :=
    fun hbusy hunsent => prompt_put h (prompt_of_busy (h _) hbusy hunsent)
  cases timedSteps_of_timedStep hstep with
  | tick elapsed =>
      intro k hbusy
      obtain ⟨⟨hbegun, _⟩, hsent⟩ := h k hbusy
      have hbegun : s.mark k ≤ s.now := hbegun
      have hlate := hok.1 k hbusy
      refine ⟨⟨?_, hlate⟩, hsent⟩
      exact hbegun.trans (Int.le_add_of_nonneg_right
        (Int.natCast_nonneg elapsed))
  | get hphase hwoken =>
      refine prompt_put h fun _ => ⟨⟨le_refl _, ?_⟩, fun _ _ _ hsent => ?_⟩
      · exact Int.le_add_of_nonneg_right (Int.natCast_nonneg latency)
      · cases hsent
  | getFails hphase hwoken =>
      refine prompt_put h fun _ => ⟨⟨le_refl _, ?_⟩, fun _ _ _ hsent => ?_⟩
      · exact Int.le_add_of_nonneg_right (Int.natCast_nonneg latency)
      · cases hsent
  | chooses hphase hget =>
      rw [State.setPhase, put_keeping_mark]
      exact hgoes (by simp [hphase]) (by simp)
  | ends hphase hget => exact prompt_put h fun hbusy => absurd rfl hbusy
  | @send k op hphase =>
      rw [State.setPhase, put_keeping_mark]
      refine prompt_put h fun _ => ?_
      obtain ⟨htimes, _⟩ := h k (by simp [hphase])
      refine ⟨htimes, fun op t req hsent => ?_⟩
      cases hsent
      exact ⟨htimes.1.trans (le_microTime _), s.base.now, rfl, rfl⟩
  | @serves k op t req l hphase happ =>
      let answered : Replica :=
        { s.base.replica k with phase := .answered t (.ok l) }
      have hprompt : Prompt f k latency s.now (s.mark k) answered :=
        prompt_of_busy (h k) (by simp [hphase])
          fun _ _ _ hsent => by cases hsent
      have hput := prompt_put
        (s := { s with base := { s.base with lease := some l } }) h hprompt
      rw [← put_keeping_mark] at hput
      exact hput
  | refuses hphase happ =>
      rw [State.setPhase, put_keeping_mark]
      exact hgoes (by simp [hphase]) (by simp)
  | loses hphase =>
      rw [State.setPhase, put_keeping_mark]
      refine hgoes ?_ (by simp)
      rcases hphase with ⟨op, req, hsent⟩ | ⟨answer, hanswered⟩
      · simp [hsent]
      · simp [hanswered]
  | succeeds hphase => exact prompt_put h fun hbusy => absurd rfl hbusy
  | fails hphase => exact prompt_put h fun hbusy => absurd rfl hbusy

/-- What the watching replica knows of the Lease, of its own put. -/
theorem watching_put {r : Replica} {t : Int}
    (h : Watching f j lateness latency s.now t (renewal now₀ s.base.lease)
      s.base.lease r.phase) :
    Watching f j lateness latency (s.put j r t).now ((s.put j r t).mark j)
      (renewal now₀ (s.put j r t).base.lease) (s.put j r t).base.lease
      ((s.put j r t).base.replica j).phase := by
  rw [put_replica_self, put_mark_self]
  exact h

theorem watching_step_of_self (h : Watches f j lateness latency now₀ s)
    {a : Action ι} (hactor : a.actor = some j)
    (hok : attended j lateness latency s a)
    (hstep : timedStep f s a = some s') :
    Watching f j lateness latency s'.now (s'.mark j)
      (renewal now₀ s'.base.lease) s'.base.lease
      (s'.base.replica j).phase := by
  have hprompt := h.prompt j
  have hwatching := h.watching
  have htimes : (s.base.replica j).phase ≠ .idle →
      s.now ≤ s.mark j + latency := fun hbusy => (hprompt hbusy).1.2
  cases timedSteps_of_timedStep hstep with
  | tick elapsed => cases hactor
  | get hphase hwoken =>
      cases hactor
      rw [hphase] at hwatching
      obtain ⟨hmark, _, hlate⟩ := hwatching
      refine watching_put (.inr ⟨rfl, ?_⟩)
      unfold TimedState.now at hlate
      omega
  | getFails hphase hwoken =>
      cases hactor
      exact absurd rfl hok
  | chooses hphase hget =>
      cases hactor
      rw [State.setPhase, put_keeping_mark]
      rw [hphase] at hwatching
      refine watching_put ?_
      rcases hwatching with htouched | ⟨rfl, hmark⟩
      · exact .inl htouched
      · exact .inr ⟨createLease_iff hget, hmark⟩
  | ends hphase hget =>
      cases hactor
      have hnow := htimes (by simp [hphase])
      rw [hphase] at hwatching
      refine watching_put ?_
      rcases hwatching with htouched | ⟨rfl, hmark⟩
      · exact watching_sleep _ hnow htouched
      · have hfresh := fresh_of_done now₀ hget
        exact watching_idle hfresh (sleepFor_le _)
  | send hphase =>
      cases hactor
      rw [State.setPhase, put_keeping_mark]
      rw [hphase] at hwatching
      exact watching_put hwatching
  | @serves k op t req l hphase happ =>
      cases hactor
      have hrenew := (renewal_of_served now₀ hprompt hphase happ).2
      have hserved : Watching f j lateness latency s.now (s.mark j)
          (renewal now₀ (some l)) (some l) (.answered t (.ok l)) := by
        show s.mark j ≤ renewal now₀ (some l) + latency + 999
        omega
      have hput := watching_put
        (s := { s with base := { s.base with lease := some l } })
        (r := { s.base.replica j with phase := .answered t (.ok l) }) hserved
      rw [← put_keeping_mark] at hput
      exact hput
  | refuses hphase happ =>
      cases hactor
      rw [State.setPhase, put_keeping_mark]
      rw [hphase] at hwatching
      refine watching_put ?_
      rcases hwatching with htouched | ⟨hop, hmark⟩
      · exact htouched
      · obtain ⟨_, _, sentAt, _, rfl⟩ := (hprompt (by simp [hphase])).2 _ _ _
          hphase
        obtain ⟨l, hok⟩ := applyWrite_request hop
        rw [hok] at happ
        cases happ
  | loses hphase =>
      cases hactor
      exact absurd rfl hok
  | succeeds hphase =>
      cases hactor
      have hnow := htimes (by simp [hphase])
      rw [hphase] at hwatching
      exact watching_put (watching_sleep (.ok true) hnow hwatching)
  | @fails k t e hphase =>
      cases hactor
      have hnow := htimes (by simp [hphase])
      rw [hphase] at hwatching
      exact watching_put (watching_sleep (.error e) hnow hwatching)

theorem watching_step (h : Watches f j lateness latency now₀ s)
    {a : Action ι} (hok : attended j lateness latency s a)
    (hstep : timedStep f s a = some s') :
    Watching f j lateness latency s'.now (s'.mark j)
      (renewal now₀ s'.base.lease) s'.base.lease
      (s'.base.replica j).phase := by
  by_cases hactor : a.actor = some j
  · exact watching_step_of_self h hactor hok hstep
  have hwatching := h.watching
  -- another replica moves on its own side
  have hother : ∀ {k r t}, j ≠ k →
      Watching f j lateness latency (s.put k r t).now ((s.put k r t).mark j)
        (renewal now₀ (s.put k r t).base.lease) (s.put k r t).base.lease
        ((s.put k r t).base.replica j).phase := by
    intro k r t hne
    rw [put_replica_of_ne s hne, put_mark_of_ne s hne]
    exact hwatching
  have hne : ∀ {k}, a.actor = some k → j ≠ k :=
    fun hk heq => hactor (heq ▸ hk)
  cases timedSteps_of_timedStep hstep with
  | tick elapsed =>
      show Watching f j lateness latency (s.now + elapsed) (s.mark j)
        (renewal now₀ s.base.lease) s.base.lease (s.base.replica j).phase
      unfold Watching at hwatching ⊢
      split at hwatching
      · next hphase =>
          obtain ⟨hgap, hmark, _⟩ := hwatching
          exact ⟨hgap, by omega, hok.2 hphase⟩
      all_goals exact hwatching
  | get hphase hwoken => exact hother (hne rfl)
  | getFails hphase hwoken => exact hother (hne rfl)
  | chooses hphase hget =>
      rw [State.setPhase, put_keeping_mark]
      exact hother (hne rfl)
  | ends hphase hget => exact hother (hne rfl)
  | send hphase =>
      rw [State.setPhase, put_keeping_mark]
      exact hother (hne rfl)
  | @serves k op t req l hphase happ =>
      have hrecent := (renewal_of_served now₀ (h.prompt k) hphase
        happ).1
      have hreplica := setReplica_of_ne
        (s := { s.base with lease := some l }) (hne rfl)
        { s.base.replica k with phase := .answered t (.ok l) }
      show Watching f j lateness latency s.now (s.mark j)
        (renewal now₀ (some l)) (some l) (State.replica _ j).phase
      rw [State.setPhase, hreplica]
      exact watching_of_recent (h.prompt j) (idle_of_watching hwatching)
        hrecent
  | refuses hphase happ =>
      rw [State.setPhase, put_keeping_mark]
      exact hother (hne rfl)
  | loses hphase =>
      rw [State.setPhase, put_keeping_mark]
      exact hother (hne rfl)
  | succeeds hphase => exact hother (hne rfl)
  | fails hphase => exact hother (hne rfl)

/-! ## Every run -/

/-- What follows on the state `s₀`. -/
def following (f : Fleet ι) (s₀ : TimedState ι) :
    System (TimedState ι) (Action ι) :=
  { timedElection f with init := (· = s₀) }

theorem watches_of_reachable {s₀ : TimedState ι}
    (hresting : Resting f j lateness s₀)
    (h : Reachable (following f s₀) (attended j lateness latency) s) :
    Watches f j lateness latency s₀.now s := by
  induction h with
  | init hinit =>
      cases hinit
      exact watches_of_resting hresting
  | step _ hok hstep ih =>
      exact ⟨prompt_step ih.prompt hok hstep, watching_step ih hok hstep⟩

/-- With one replica attended to and every attempt of every replica bounded,
from some time on there always is a Lease, and its renewal is never older than
that. -/
theorem renewed_of_attended {s₀ : TimedState ι}
    (hresting : Resting f j lateness s₀)
    (h : Reachable (following f s₀) (attended j lateness latency) s)
    (hlong : s₀.now + unattendedFor f j lateness latency < s.now) :
    ∃ l stamp, s.base.lease = some l ∧ l.renewTime = some stamp ∧
      s.now ≤ stamp + unattendedFor f j lateness latency := by
  have hage := age_of_watches (watches_of_reachable hresting h)
  cases hlease : s.base.lease with
  | none =>
      rw [hlease] at hage
      unfold renewal at hage
      simp only [Option.bind_none, Option.getD_none, max_self] at hage
      omega
  | some l =>
      rw [hlease] at hage
      unfold renewal at hage
      cases hrenew : l.renewTime with
      | none =>
          simp only [Option.bind_some, hrenew, Option.getD_none,
            max_self] at hage
          omega
      | some stamp =>
          simp only [Option.bind_some, hrenew, Option.getD_some] at hage
          refine ⟨l, stamp, rfl, hrenew, ?_⟩
          omega

/-- Nobody else writes. -/
def silent (j : ι) : Action ι → Prop
  | .serve k => k = j
  | _ => True

instance (j : ι) : (a : Action ι) → Decidable (silent j a)
  | .serve k => inferInstanceAs (Decidable (k = j))
  | .tick _ | .get _ | .getFails _ _ | .decide _ | .send _ | .lose _ _
  | .finish _ => isTrue trivial

def alone (j : ι) (lateness latency : Nat) (s : TimedState ι)
    (a : Action ι) : Prop :=
  attended j lateness latency s a ∧ silent j a

instance [Fintype ι] (j : ι) (lateness latency : Nat) (s : TimedState ι)
    (a : Action ι) : Decidable (alone j lateness latency s a) :=
  inferInstanceAs (Decidable (attended j lateness latency s a ∧ silent j a))

/-- The Lease is as it was, or names `j`. -/
theorem lease_of_alone {s₀ : TimedState ι}
    (hresting : Resting f j lateness s₀)
    (h : Reachable (following f s₀) (alone j lateness latency) s) :
    s.base.lease = s₀.base.lease ∨
      ∃ l ∈ s.base.lease, l.holder = (f.cfg j).identity := by
  induction h with
  | init hinit =>
      cases hinit
      exact .inl rfl
  | @step s s' a hreach hok hstep ih =>
      have hwatches := watches_of_reachable hresting
        (hreach.mono fun _ _ hok => hok.1)
      cases timedSteps_of_timedStep hstep with
      | @serves k op t req l hphase happ =>
          obtain rfl : k = j := hok.2
          obtain ⟨_, _, sentAt, _, rfl⟩ :=
            (hwatches.prompt k (by simp [hphase])).2 _ _ _ hphase
          exact .inr ⟨l, rfl,
            (applyWrite_carries (request_carries _ _ _) happ).1⟩
      | _ => exact ih

/-- If everybody else has fallen silent, it has taken over by then. -/
theorem holder_of_alone {s₀ : TimedState ι}
    (hresting : Resting f j lateness s₀)
    (hpast : ∀ l ∈ s₀.base.lease, ∀ stamp : Int,
      l.renewTime = some stamp → stamp ≤ s₀.now)
    (h : Reachable (following f s₀) (alone j lateness latency) s)
    (hlong : s₀.now + unattendedFor f j lateness latency < s.now) :
    ∃ l, s.base.lease = some l ∧ l.holder = (f.cfg j).identity := by
  obtain ⟨l, stamp, hlease, hrenew, hage⟩ := renewed_of_attended hresting
    (h.mono fun _ _ hok => hok.1) hlong
  rcases lease_of_alone hresting h with hsame | ⟨l', hl', hholder⟩
  · have hstamp := hpast l (hsame ▸ hlease) stamp hrenew
    omega
  · cases hlease.symm.trans hl'
    exact ⟨l, hlease, hholder⟩

/-! ## A holder that crashed -/

namespace Sample

/-- `pod-1` has the Lease and is gone; `pod-2` is about to look. -/
def crashed : TimedState Bool where
  base :=
    { now := 100500 * 1000000
      lease := acquired.base.lease
      replica := fun _ => .start }
  mark _ := 101000 * 1000000

/-- It looks every five seconds. -/
def look : List (Action Bool) := [.get true, .decide true, .tick 5000000000]

/-- Until the Lease has expired; then it goes on from there. -/
def takingOver : List (Action Bool) :=
  .tick 500000000 ::
    ((List.replicate 6 look).flatten ++
      [.get true, .decide true, .send true, .tick 1000000000, .serve true,
        .finish true, .tick 20000000000, .get true, .decide true,
        .send true, .tick 2000000000, .serve true, .finish true,
        .tick 10000000000])

theorem resting_crashed : Resting twoPods true nanosPerSec crashed where
  idle _ := rfl
  mark := by decide
  late := by decide

theorem run_takingOver :
    ∃ s, (following twoPods crashed).checkedRun
        (alone true nanosPerSec (2 * nanosPerSec)) crashed takingOver =
          some s ∧
      crashed.now + unattendedFor twoPods true nanosPerSec
        (2 * nanosPerSec) < s.now := by
  have hrun : (((following twoPods crashed).checkedRun
      (alone true nanosPerSec (2 * nanosPerSec)) crashed takingOver).map
        fun s => decide (crashed.now + unattendedFor twoPods true nanosPerSec
          (2 * nanosPerSec) < s.now)) = some true := by
    decide +kernel
  obtain ⟨s, hs, hlong⟩ := Option.map_eq_some_iff.mp hrun
  exact ⟨s, hs, of_decide_eq_true hlong⟩

end Sample

theorem renewed_of_attended_takingOver :
    ∃ s, (timedElection twoPods).run Sample.crashed Sample.takingOver =
        some s ∧
      ∃ l stamp, s.base.lease = some l ∧ l.renewTime = some stamp ∧
        s.now ≤ stamp + unattendedFor twoPods true nanosPerSec
          (2 * nanosPerSec) := by
  obtain ⟨s, hs, hlong⟩ := Sample.run_takingOver
  have hreach : Reachable (following twoPods Sample.crashed)
      (attended true nanosPerSec (2 * nanosPerSec)) s :=
    (Reachable.of_checkedRun (.init rfl) hs).mono fun _ _ hok => hok.1
  exact ⟨s, System.run_of_checkedRun hs,
    renewed_of_attended Sample.resting_crashed hreach hlong⟩

theorem holder_of_alone_takingOver :
    ∃ s, (timedElection twoPods).run Sample.crashed Sample.takingOver =
        some s ∧
      ∃ l, s.base.lease = some l ∧
        l.holder = (twoPods.cfg true).identity := by
  obtain ⟨s, hs, hlong⟩ := Sample.run_takingOver
  have hpast : ∀ l ∈ Sample.crashed.base.lease, ∀ stamp : Int,
      l.renewTime = some stamp → stamp ≤ Sample.crashed.now := by
    rintro l ⟨⟩ stamp ⟨⟩
    decide
  exact ⟨s, System.run_of_checkedRun hs,
    holder_of_alone Sample.resting_crashed hpast
      (.of_checkedRun (.init rfl) hs) hlong⟩

end McpgOperator.Leader
