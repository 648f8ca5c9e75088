import Mathlib.Data.Set.Basic

/-!
# Transition systems with guarded runs

A small library about programs that take one step after another. A system
has initial states and a partial step function: an action either does not
apply (`none`) or gives the next state. A guard restricts which steps a run
may take; the unrestricted runs are the guarded runs of the guard that is
always true.

The rules the developments above use are the invariant rule (what the
initial states satisfy and every permitted step keeps holds of every state
reached), the passage from an explicit list of actions to reachability, by
which a concrete run becomes a counterexample, and the rank rule (where every
action of a kind brings the rank down, a run has at most that many of them).
-/

namespace Transition

variable {σ α : Type*}

/-- Initial states and a partial step function. -/
structure System (σ α : Type*) where
  init : σ → Prop
  step : σ → α → Option σ

/-- The states some run reaches when it takes only steps the guard
permits. -/
inductive Reachable (sys : System σ α) (ok : σ → α → Prop) : σ → Prop
  | init {s : σ} : sys.init s → Reachable sys ok s
  | step {s s' : σ} {a : α} : Reachable sys ok s → ok s a →
      sys.step s a = some s' → Reachable sys ok s'

/-- The guard that permits every step. -/
def anyStep : σ → α → Prop := fun _ _ => True

theorem Reachable.invariant {sys : System σ α} {ok : σ → α → Prop}
    {inv : σ → Prop} (hinit : ∀ s, sys.init s → inv s)
    (hstep : ∀ s a s', inv s → ok s a → sys.step s a = some s' → inv s')
    {s : σ} (h : Reachable sys ok s) : inv s := by
  induction h with
  | init hi => exact hinit _ hi
  | step _ hok hs ih => exact hstep _ _ _ ih hok hs

/-- A weaker guard permits the same runs. -/
theorem Reachable.mono {sys : System σ α} {ok ok' : σ → α → Prop}
    (hok : ∀ s a, ok s a → ok' s a) {s : σ} (h : Reachable sys ok s) :
    Reachable sys ok' s := by
  induction h with
  | init hi => exact .init hi
  | step _ ha hs ih => exact .step ih (hok _ _ ha) hs

/-! ## Runs given by their actions -/

/-- The state a list of actions leads to, if each of them applies. -/
def System.run (sys : System σ α) : σ → List α → Option σ
  | s, [] => some s
  | s, a :: as => (sys.step s a).bind fun s' => sys.run s' as

@[simp] theorem System.run_nil (sys : System σ α) (s : σ) :
    sys.run s [] = some s := rfl

theorem System.run_cons {sys : System σ α} {s s' : σ} {a : α}
    {as : List α} (h : sys.run s (a :: as) = some s') :
    ∃ m, sys.step s a = some m ∧ sys.run m as = some s' :=
  Option.bind_eq_some_iff.mp h

theorem System.run_cons_of_step {sys : System σ α} {s m : σ} {a : α}
    (h : sys.step s a = some m) (as : List α) :
    sys.run s (a :: as) = sys.run m as := by
  show (sys.step s a).bind (fun s' => sys.run s' as) = sys.run m as
  rw [h, Option.bind_some]

theorem System.run_append {sys : System σ α} {s m s' : σ} {as bs : List α}
    (has : sys.run s as = some m) (hbs : sys.run m bs = some s') :
    sys.run s (as ++ bs) = some s' := by
  induction as generalizing s with
  | nil =>
      cases has
      exact hbs
  | cons a as ih =>
      obtain ⟨next, hstep, hrest⟩ := System.run_cons has
      rw [List.cons_append, System.run_cons_of_step hstep]
      exact ih hrest

/-- The guard permits each action where the run takes it. -/
def System.Permitted (sys : System σ α) (ok : σ → α → Prop) :
    σ → List α → Prop
  | _, [] => True
  | s, a :: as =>
      ok s a ∧ ∀ s', sys.step s a = some s' → sys.Permitted ok s' as

/-- Actions the guard permits wherever they are taken. -/
theorem System.permitted_of_forall {sys : System σ α} {ok : σ → α → Prop}
    {as : List α} (h : ∀ a ∈ as, ∀ s, ok s a) (s : σ) :
    sys.Permitted ok s as := by
  induction as generalizing s with
  | nil => trivial
  | cons a as ih =>
      obtain ⟨ha, has⟩ := List.forall_mem_cons.mp h
      exact ⟨ha s, fun s' _ => ih has s'⟩

theorem System.permitted_anyStep (sys : System σ α) (as : List α) (s : σ) :
    sys.Permitted anyStep s as :=
  System.permitted_of_forall (fun _ _ _ => trivial) s

/-- A run whose steps the guard permits ends in a state it reaches. -/
theorem Reachable.of_run {sys : System σ α} {ok : σ → α → Prop}
    {s s' : σ} {as : List α} (hs : Reachable sys ok s)
    (hok : sys.Permitted ok s as) (h : sys.run s as = some s') :
    Reachable sys ok s' := by
  induction as generalizing s with
  | nil =>
      cases h
      exact hs
  | cons a as ih =>
      obtain ⟨m, hm, hrest⟩ := System.run_cons h
      exact ih (.step hs hok.1 hm) (hok.2 m hm) hrest

/-- The run of a list of actions that checks the guard at every step. -/
def System.checkedRun (sys : System σ α) (ok : σ → α → Prop)
    [∀ s a, Decidable (ok s a)] : σ → List α → Option σ
  | s, [] => some s
  | s, a :: as =>
      if ok s a then
        (sys.step s a).bind fun s' => sys.checkedRun ok s' as
      else none

theorem Reachable.of_checkedRun {sys : System σ α} {ok : σ → α → Prop}
    [∀ s a, Decidable (ok s a)] {s s' : σ} {as : List α}
    (hs : Reachable sys ok s) (h : sys.checkedRun ok s as = some s') :
    Reachable sys ok s' := by
  induction as generalizing s with
  | nil =>
      cases h
      exact hs
  | cons a as ih =>
      simp only [System.checkedRun] at h
      split at h
      · next hok =>
          obtain ⟨m, hm, hrest⟩ := Option.bind_eq_some_iff.mp h
          exact ih (.step hs hok hm) hrest
      · cases h

theorem System.run_of_checkedRun {sys : System σ α} {ok : σ → α → Prop}
    [∀ s a, Decidable (ok s a)] {s s' : σ} {as : List α}
    (h : sys.checkedRun ok s as = some s') : sys.run s as = some s' := by
  induction as generalizing s with
  | nil => exact h
  | cons a as ih =>
      simp only [System.checkedRun] at h
      split at h
      · obtain ⟨m, hm, hrest⟩ := Option.bind_eq_some_iff.mp h
        rw [System.run_cons_of_step hm]
        exact ih hrest
      · cases h

theorem System.checkedRun_append {sys : System σ α} {ok : σ → α → Prop}
    [∀ s a, Decidable (ok s a)] {s m s' : σ} {as bs : List α}
    (has : sys.checkedRun ok s as = some m)
    (hbs : sys.checkedRun ok m bs = some s') :
    sys.checkedRun ok s (as ++ bs) = some s' := by
  induction as generalizing s with
  | nil =>
      cases has
      exact hbs
  | cons a as ih =>
      simp only [System.checkedRun] at has
      split at has
      · next hok =>
          obtain ⟨next, hstep, hrest⟩ := Option.bind_eq_some_iff.mp has
          simp only [List.cons_append, System.checkedRun, if_pos hok, hstep,
            Option.bind_some]
          exact ih hrest
      · cases has

/-! ## Progress -/

/-- Where every own action brings the rank down and no action raises it, a
run has at most as many own actions as the rank it begins with. -/
theorem System.countP_add_rank_le {sys : System σ α} {inv : σ → Prop}
    {own : α → Bool} {rank : σ → Nat}
    (hstep : ∀ s a s', inv s → sys.step s a = some s' →
      inv s' ∧ rank s' + (if own a then 1 else 0) ≤ rank s)
    {s s' : σ} {as : List α} (h : inv s) (hrun : sys.run s as = some s') :
    inv s' ∧ as.countP own + rank s' ≤ rank s := by
  induction as generalizing s with
  | nil =>
      cases hrun
      simp [h]
  | cons a as ih =>
      obtain ⟨m, hs, hrest⟩ := System.run_cons hrun
      obtain ⟨hm, hless⟩ := hstep s a m h hs
      obtain ⟨hend, hsum⟩ := ih hm hrest
      rw [List.countP_cons]
      exact ⟨hend, by omega⟩

end Transition
