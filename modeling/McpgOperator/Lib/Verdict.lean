import McpgOperator.Lib.Transition
import Mathlib.Logic.Function.Basic

/-!
# Verdicts that lag behind what they judge

A small library about objects whose owner judges them and writes the verdict
back into the object. Each edit gives the object a new generation. An owner's
pass works on a copy it read earlier and writes statuses; some of them hold a
verdict the pass reached itself, others carry over the one it read. Readers
take the object as it stands, verdict and all, whenever they like. There may
be several workers, each with its own copy, and nothing keeps a pass from
finishing after the object has moved on.

A status records the generation each of its positive verdicts is about
(`claims`) and the generation of the pass that wrote it (`stamped`). The
question is whether a reader ever relies on a verdict about another
generation, and whether a status is ever stamped with a generation no pass
has judged. The rule `exact_of_fresh` answers it for runs in which readers
accept, and carrying passes start from, only copies whose claims name their
own generation.
-/

namespace Verdict

open Transition

section

variable {Spec Status Answers Consumer ρ : Type*}

/-- An object as one read returns it. -/
structure View (Spec Status : Type*) where
  generation : Int
  spec : Spec
  status : Option Status

/-- A status write of a pass. -/
structure Write (Status : Type*) where
  status : Status
  landed : Bool
  /-- The pass judged the object itself; otherwise a positive verdict in the
  status is one it read. -/
  judged : Bool

/-- The claims of a status that may be absent. -/
def claimsOf (claims : Status → List (Option Int)) (status : Option Status) :
    List (Option Int) :=
  (status.map claims).getD []

/-- A kind of object with the passes of its owner and the tests of its
readers. -/
structure Owner (Spec Status Answers Consumer : Type*) where
  claims : Status → List (Option Int)
  stamped : Status → Option Int
  pass : View Spec Status → Answers → List (Write Status)
  /-- The pass writes a status that carries over the verdict it read. -/
  Carries : View Spec Status → Answers → Prop
  /-- What a positive verdict of a pass means. -/
  Judged : View Spec Status → Answers → Prop
  accepts : Consumer → View Spec Status → Bool
  stamped_pass : ∀ v a, ∀ w ∈ pass v a,
    stamped w.status = some v.generation
  judged_pass : ∀ v a, ∀ w ∈ pass v a, w.judged = true →
    ∀ c ∈ claims w.status, c = some v.generation ∧ Judged v a
  carried_pass : ∀ v a, ∀ w ∈ pass v a, w.judged = false →
    Carries v a ∧ ∀ c ∈ claims w.status, c ∈ claimsOf claims v.status
  claims_accepts : ∀ k v, accepts k v = true →
    claimsOf claims v.status ≠ []

/-- A judgement: what was judged, and on which answers. -/
structure Judgement (Spec Status Answers : Type*) where
  subject : View Spec Status
  answers : Answers

/-- A copy of the object, with the judgement the verdict in it comes
from. -/
structure Copy (Spec Status Answers : Type*) where
  view : View Spec Status
  origin : Option (Judgement Spec Status Answers)

/-- A pass under way. -/
structure Run (Spec Status Answers : Type*) where
  base : Copy Spec Status Answers
  answers : Answers
  pending : List (Write Status)

/-- The stored object, what each worker `ρ` has of it, and what has happened
so far: the positive judgements of passes, the statuses written and the
copies readers accepted. -/
structure State (Spec Status Answers ρ : Type*) where
  stored : Copy Spec Status Answers
  cache : ρ → Copy Spec Status Answers
  running : ρ → Option (Run Spec Status Answers)
  judgements : List (Judgement Spec Status Answers)
  written : List Status
  accepted : List (Copy Spec Status Answers)

inductive Action (Spec Answers Consumer ρ : Type*)
  | edit (spec : Spec)
  | sync (p : ρ)
  | start (p : ρ) (answers : Answers)
  | write (p : ρ)
  | stop (p : ρ)
  | consume (k : Consumer)

/-- The judgement of a run. -/
def Run.judgement (r : Run Spec Status Answers) :
    Judgement Spec Status Answers :=
  { subject := r.base.view, answers := r.answers }

/-- Where the verdict of a write comes from. -/
def Run.originOf (r : Run Spec Status Answers) (w : Write Status) :
    Option (Judgement Spec Status Answers) :=
  if w.judged then some r.judgement else r.base.origin

/-- A write lands on the object as it stands by then. -/
def State.afterWrite [DecidableEq ρ]
    (O : Owner Spec Status Answers Consumer)
    (s : State Spec Status Answers ρ) (p : ρ)
    (r : Run Spec Status Answers) (w : Write Status)
    (rest : List (Write Status)) : State Spec Status Answers ρ :=
  { s with
    stored :=
      if w.landed then
        { view := { s.stored.view with status := some w.status }
          origin := r.originOf w }
      else s.stored
    running := Function.update s.running p (some { r with pending := rest })
    judgements :=
      if w.judged ∧ O.claims w.status ≠ [] then
        r.judgement :: s.judgements
      else s.judgements
    written := w.status :: s.written }

def State.edited (s : State Spec Status Answers ρ) (spec : Spec) :
    State Spec Status Answers ρ :=
  { s with
    stored :=
      { s.stored with
        view :=
          { s.stored.view with
            generation := s.stored.view.generation + 1, spec := spec } } }

def step [DecidableEq ρ] (O : Owner Spec Status Answers Consumer)
    (s : State Spec Status Answers ρ) :
    Action Spec Answers Consumer ρ → Option (State Spec Status Answers ρ)
  | .edit spec => some (s.edited spec)
  | .sync p => some { s with cache := Function.update s.cache p s.stored }
  | .start p answers =>
      match s.running p with
      | some _ => none
      | none =>
          some
            { s with
              running := Function.update s.running p
                (some
                  { base := s.cache p, answers := answers
                    pending := O.pass (s.cache p).view answers }) }
  | .write p =>
      match s.running p with
      | none => none
      | some r =>
          match r.pending with
          | [] => none
          | w :: rest => some (s.afterWrite O p r w rest)
  | .stop p => some { s with running := Function.update s.running p none }
  | .consume k =>
      some
        (if O.accepts k s.stored.view then
          { s with accepted := s.stored :: s.accepted }
        else s)

/-- A new object has no status, and nobody has done anything with it. -/
structure Fresh (s : State Spec Status Answers ρ) : Prop where
  status : s.stored.view.status = none
  cache : ∀ p, s.cache p = s.stored
  running : ∀ p, s.running p = none
  judgements : s.judgements = []
  written : s.written = []
  accepted : s.accepted = []

def system [DecidableEq ρ] (O : Owner Spec Status Answers Consumer) :
    System (State Spec Status Answers ρ)
      (Action Spec Answers Consumer ρ) where
  init := Fresh
  step := step O

/-! ## Exactness -/

/-- Every positive verdict in the copy names the copy's own generation. -/
def Current (O : Owner Spec Status Answers Consumer)
    (v : View Spec Status) : Prop :=
  ∀ c ∈ claimsOf O.claims v.status, c = some v.generation

/-- Readers accept, and passes that carry a verdict over start from, current
copies only. -/
def CurrentReads (O : Owner Spec Status Answers Consumer)
    (s : State Spec Status Answers ρ) :
    Action Spec Answers Consumer ρ → Prop
  | .consume k => O.accepts k s.stored.view = true → Current O s.stored.view
  | .start p answers =>
      O.Carries (s.cache p).view answers → Current O (s.cache p).view
  | _ => True

/-- Verdicts were relied on, and statuses stamped, for what was judged. -/
structure Exact (O : Owner Spec Status Answers Consumer)
    (s : State Spec Status Answers ρ) : Prop where
  /-- A reader relied on a verdict about the generation and the spec it
  read. -/
  accepted : ∀ r ∈ s.accepted, ∃ j ∈ s.judgements, r.origin = some j ∧
    j.subject.generation = r.view.generation ∧ j.subject.spec = r.view.spec
  /-- A status with a positive verdict is stamped with a generation that a
  pass has judged. -/
  written : ∀ st ∈ s.written, O.claims st ≠ [] →
    ∃ j ∈ s.judgements, O.stamped st = some j.subject.generation
  judgements : ∀ j ∈ s.judgements, O.Judged j.subject j.answers

instance (O : Owner Spec Status Answers Consumer) (v : View Spec Status) :
    Decidable (Current O v) :=
  inferInstanceAs (Decidable (∀ c ∈ _, _))

instance (O : Owner Spec Status Answers Consumer)
    [∀ v a, Decidable (O.Carries v a)] (s : State Spec Status Answers ρ) :
    ∀ a : Action Spec Answers Consumer ρ, Decidable (CurrentReads O s a)
  | .consume _ => inferInstanceAs (Decidable (_ → Current O _))
  | .start _ _ => inferInstanceAs (Decidable (O.Carries _ _ → Current O _))
  | .edit _ | .sync _ | .write _ | .stop _ => .isTrue trivial

/-- The generations alone: each one accepted, or stamped under a positive
verdict, is one that was judged. -/
def generationsExact (O : Owner Spec Status Answers Consumer)
    (s : State Spec Status Answers ρ) : Bool :=
  (s.accepted.all fun r =>
    s.judgements.any fun j =>
      j.subject.generation == r.view.generation) &&
  s.written.all fun st =>
    (O.claims st).isEmpty ||
      s.judgements.any fun j => O.stamped st == some j.subject.generation

theorem Exact.generations {O : Owner Spec Status Answers Consumer}
    {s : State Spec Status Answers ρ} (h : Exact O s) :
    generationsExact O s = true := by
  simp only [generationsExact, Bool.and_eq_true, List.all_eq_true,
    Bool.or_eq_true, List.any_eq_true, beq_iff_eq, List.isEmpty_iff]
  constructor
  · intro r hr
    obtain ⟨j, hj, _, hgen, _⟩ := h.accepted r hr
    exact ⟨j, hj, hgen⟩
  · intro st hst
    by_cases hclaims : O.claims st = []
    · exact .inl hclaims
    · exact .inr (h.written st hst hclaims)

/-- `v` was the object at some time before it was `w`. -/
def Precedes (v w : View Spec Status) : Prop :=
  v.generation ≤ w.generation ∧
    (v.generation = w.generation → v.spec = w.spec)

theorem Precedes.refl (v : View Spec Status) : Precedes v v :=
  ⟨le_refl _, fun _ => rfl⟩

/-- A copy is an earlier object, and its verdict one of the judgements. -/
structure Known (O : Owner Spec Status Answers Consumer)
    (s : State Spec Status Answers ρ) (r : Copy Spec Status Answers) :
    Prop where
  precedes : Precedes r.view s.stored.view
  origin : claimsOf O.claims r.view.status ≠ [] →
    ∃ j ∈ s.judgements, r.origin = some j ∧
      ∀ c ∈ claimsOf O.claims r.view.status, c = some j.subject.generation

/-- A pass under way: its writes are some of the pass's, and it started from
a current copy if it carries the verdict over. -/
structure RunKnown (O : Owner Spec Status Answers Consumer)
    (s : State Spec Status Answers ρ) (r : Run Spec Status Answers) :
    Prop where
  base : Known O s r.base
  pending : ∀ w ∈ r.pending, w ∈ O.pass r.base.view r.answers
  current : O.Carries r.base.view r.answers → Current O r.base.view

/-- The invariant of the runs with current reads. -/
structure Inv (O : Owner Spec Status Answers Consumer)
    (s : State Spec Status Answers ρ) : Prop where
  stored : Known O s s.stored
  cache : ∀ p, Known O s (s.cache p)
  running : ∀ p r, s.running p = some r → RunKnown O s r
  precedes : ∀ j ∈ s.judgements, Precedes j.subject s.stored.view
  exact : Exact O s

variable {O : Owner Spec Status Answers Consumer}
  {s s' : State Spec Status Answers ρ}

theorem inv_fresh (h : Fresh s) : Inv O s := by
  have hstored : Known O s s.stored :=
    { precedes := Precedes.refl _
      origin := fun hclaims => by
        rw [h.status] at hclaims
        exact absurd rfl hclaims }
  exact
    { stored := hstored
      cache := fun p => by
        rw [h.cache p]
        exact hstored
      running := fun p r hr => by
        rw [h.running p] at hr
        cases hr
      precedes := by simp [h.judgements]
      exact :=
        { accepted := by simp [h.accepted]
          written := by simp [h.written]
          judgements := by simp [h.judgements] } }

/-! ## One step -/

/-- What was known stays known: the object only moves on and judgements are
kept. -/
structure Grows (s s' : State Spec Status Answers ρ) : Prop where
  precedes : ∀ v, Precedes v s.stored.view → Precedes v s'.stored.view
  judgements : s.judgements ⊆ s'.judgements

theorem Known.mono (hgrows : Grows s s') {r : Copy Spec Status Answers}
    (h : Known O s r) : Known O s' r where
  precedes := hgrows.precedes _ h.precedes
  origin hclaims := by
    obtain ⟨j, hj, hrest⟩ := h.origin hclaims
    exact ⟨j, hgrows.judgements hj, hrest⟩

theorem RunKnown.mono (hgrows : Grows s s')
    {r : Run Spec Status Answers} (h : RunKnown O s r) :
    RunKnown O s' r where
  base := h.base.mono hgrows
  pending := h.pending
  current := h.current

theorem grows_edited (s : State Spec Status Answers ρ) (spec : Spec) :
    Grows s (s.edited spec) where
  precedes v h := by
    have hlt : v.generation < (s.edited spec).stored.view.generation :=
      Int.lt_add_one_of_le h.1
    exact ⟨hlt.le, fun heq => absurd heq hlt.ne⟩
  judgements := List.Subset.refl _

/-- Steps that leave the object's generation, its spec and the judgements
alone. -/
theorem grows_of_same
    (hgen : s'.stored.view.generation = s.stored.view.generation)
    (hspec : s'.stored.view.spec = s.stored.view.spec)
    (hjudge : s.judgements ⊆ s'.judgements) : Grows s s' where
  precedes v h := by
    rw [Precedes, hgen, hspec]
    exact h
  judgements := hjudge

theorem Exact.of_same (h : Exact O s)
    (hj : s'.judgements = s.judgements) (hw : s'.written = s.written)
    (ha : s'.accepted = s.accepted) : Exact O s' where
  accepted := by
    rw [ha, hj]
    exact h.accepted
  written := by
    rw [hw, hj]
    exact h.written
  judgements := by
    rw [hj]
    exact h.judgements

theorem inv_edited (h : Inv O s) (spec : Spec) : Inv O (s.edited spec) := by
  have hgrows := grows_edited s spec
  exact
    { stored :=
        { precedes := Precedes.refl _
          origin := h.stored.origin }
      cache := fun p => (h.cache p).mono hgrows
      running := fun p r hr => (h.running p r hr).mono hgrows
      precedes := fun j hj => hgrows.precedes _ (h.precedes j hj)
      exact := h.exact.of_same rfl rfl rfl }

/-- A reader that accepts a current copy relies on a verdict about it. -/
theorem inv_consume (h : Inv O s) {k : Consumer}
    (haccepts : O.accepts k s.stored.view = true)
    (hcurrent : Current O s.stored.view) :
    Inv O { s with accepted := s.stored :: s.accepted } := by
  have hgrows : Grows s { s with accepted := s.stored :: s.accepted } :=
    grows_of_same rfl rfl (List.Subset.refl _)
  refine
    { stored := h.stored.mono hgrows
      cache := fun q => (h.cache q).mono hgrows
      running := fun q r hr => (h.running q r hr).mono hgrows
      precedes := h.precedes
      exact :=
        { accepted := fun r hr => ?_
          written := h.exact.written
          judgements := h.exact.judgements } }
  rcases List.mem_cons.mp hr with rfl | hold
  · have hclaims := O.claims_accepts k _ haccepts
    obtain ⟨j, hj, horigin, hall⟩ := h.stored.origin hclaims
    obtain ⟨c, hc⟩ := List.exists_mem_of_ne_nil _ hclaims
    have hgen : j.subject.generation = s.stored.view.generation :=
      Option.some.inj ((hall c hc).symm.trans (hcurrent c hc))
    exact ⟨j, hj, horigin, hgen, (h.precedes j hj).2 hgen⟩
  · exact h.exact.accepted r hold

variable [DecidableEq ρ]

theorem grows_afterWrite (p : ρ) (r : Run Spec Status Answers)
    (w : Write Status) (rest : List (Write Status)) :
    Grows s (s.afterWrite O p r w rest) := by
  refine grows_of_same ?_ ?_ ?_
  · simp only [State.afterWrite]
    split <;> rfl
  · simp only [State.afterWrite]
    split <;> rfl
  · simp only [State.afterWrite]
    split
    · exact List.subset_cons_self _ _
    · exact List.Subset.refl _

theorem running_update {p q : ρ} {f : ρ → Option (Run Spec Status Answers)}
    {x : Option (Run Spec Status Answers)} {r : Run Spec Status Answers}
    (h : Function.update f p x q = some r) : x = some r ∨ f q = some r := by
  rcases eq_or_ne q p with rfl | hne
  · rw [Function.update_self] at h
    exact .inl h
  · rw [Function.update_of_ne hne] at h
    exact .inr h

theorem inv_sync (h : Inv O s) (p : ρ) :
    Inv O { s with cache := Function.update s.cache p s.stored } := by
  have hgrows : Grows s
      { s with cache := Function.update s.cache p s.stored } :=
    grows_of_same rfl rfl (List.Subset.refl _)
  refine
    { stored := h.stored.mono hgrows
      cache := fun q => ?_
      running := fun q r hr => (h.running q r hr).mono hgrows
      precedes := h.precedes
      exact := h.exact.of_same rfl rfl rfl }
  dsimp only
  rcases eq_or_ne q p with rfl | hne
  · rw [Function.update_self]
    exact h.stored.mono hgrows
  · rw [Function.update_of_ne hne]
    exact (h.cache q).mono hgrows

/-- A worker's slot is emptied, or filled with a pass that is known. -/
theorem inv_running (h : Inv O s) (p : ρ)
    (x : Option (Run Spec Status Answers))
    (hx : ∀ r, x = some r → RunKnown O s r) :
    Inv O { s with running := Function.update s.running p x } := by
  have hgrows : Grows s { s with running := Function.update s.running p x } :=
    grows_of_same rfl rfl (List.Subset.refl _)
  refine
    { stored := h.stored.mono hgrows
      cache := fun q => (h.cache q).mono hgrows
      running := fun q r hr => ?_
      precedes := h.precedes
      exact := h.exact.of_same rfl rfl rfl }
  rcases running_update hr with hnew | hold
  · exact (hx r hnew).mono hgrows
  · exact (h.running q r hold).mono hgrows

/-- The verdict of a write is that of the judgement it comes from. -/
theorem origin_of_write (p : ρ) {r : Run Spec Status Answers}
    {w : Write Status} (rest : List (Write Status)) (hr : RunKnown O s r)
    (hw : w ∈ r.pending) (hclaims : O.claims w.status ≠ []) :
    ∃ j ∈ (s.afterWrite O p r w rest).judgements,
      r.originOf w = some j ∧
      (∀ c ∈ O.claims w.status, c = some j.subject.generation) ∧
      O.stamped w.status = some j.subject.generation := by
  have hpass := hr.pending w hw
  have hstamp := O.stamped_pass _ _ w hpass
  rcases Bool.eq_false_or_eq_true w.judged with hjudged | hcarried
  · refine ⟨r.judgement, ?_, by simp [Run.originOf, hjudged], ?_, hstamp⟩
    · simp [State.afterWrite, hjudged, hclaims]
    · intro c hc
      exact (O.judged_pass _ _ w hpass hjudged c hc).1
  · obtain ⟨hcarries, hsub⟩ := O.carried_pass _ _ w hpass hcarried
    obtain ⟨c, hc⟩ := List.exists_mem_of_ne_nil _ hclaims
    obtain ⟨j, hj, horigin, hall⟩ :=
      hr.base.origin (List.ne_nil_of_mem (hsub c hc))
    refine ⟨j, (grows_afterWrite p r w rest).judgements hj,
      by simp [Run.originOf, hcarried, horigin],
      fun c' hc' => hall c' (hsub c' hc'), ?_⟩
    -- the copy was current, so the claim it carries names both generations
    have hcurrent := hr.current hcarries c (hsub c hc)
    rw [hstamp, ← hcurrent]
    exact hall c (hsub c hc)

theorem inv_write (h : Inv O s) {p : ρ} {r : Run Spec Status Answers}
    {w : Write Status} {rest : List (Write Status)}
    (hr : s.running p = some r) (hpending : r.pending = w :: rest) :
    Inv O (s.afterWrite O p r w rest) := by
  have hgrows : Grows s (s.afterWrite O p r w rest) :=
    grows_afterWrite p r w rest
  have hknown := h.running p r hr
  have hw : w ∈ r.pending := by
    rw [hpending]
    exact List.mem_cons_self
  have horigin := fun hclaims =>
    origin_of_write p rest hknown hw hclaims
  have hjudgements : ∀ j ∈ (s.afterWrite O p r w rest).judgements,
      j ∈ s.judgements ∨
        (j = r.judgement ∧ w.judged = true ∧ O.claims w.status ≠ []) := by
    intro j hj
    simp only [State.afterWrite] at hj
    split at hj
    · next hnew =>
        rcases List.mem_cons.mp hj with rfl | hold
        · exact .inr ⟨rfl, hnew⟩
        · exact .inl hold
    · exact .inl hj
  refine
    { stored := ?_
      cache := fun q => (h.cache q).mono hgrows
      running := fun q r' hr' => ?_
      precedes := fun j hj => ?_
      exact :=
        { accepted := fun r' hr' => ?_
          written := fun st hst hclaims => ?_
          judgements := fun j hj => ?_ } }
  · have hstored : (s.afterWrite O p r w rest).stored =
        if w.landed then
          { view := { s.stored.view with status := some w.status }
            origin := r.originOf w }
        else s.stored := rfl
    rcases Bool.eq_false_or_eq_true w.landed with hlanded | hlost
    · refine ⟨Precedes.refl _, fun hclaims => ?_⟩
      rw [hstored, if_pos hlanded] at hclaims ⊢
      obtain ⟨j, hj, hj', hall, _⟩ := horigin hclaims
      exact ⟨j, hj, hj', hall⟩
    · rw [hstored, if_neg (by rw [hlost]; exact Bool.false_ne_true)]
      exact h.stored.mono hgrows
  · rcases running_update hr' with hnew | hold
    · cases hnew
      exact
        { base := hknown.base.mono hgrows
          pending := fun w' hw' => hknown.pending w' (by
            rw [hpending]
            exact List.mem_cons_of_mem w hw')
          current := hknown.current }
    · exact (h.running q r' hold).mono hgrows
  · rcases hjudgements j hj with hold | ⟨rfl, _⟩
    · exact hgrows.precedes _ (h.precedes j hold)
    · exact hgrows.precedes _ hknown.base.precedes
  · obtain ⟨j, hj, hrest⟩ := h.exact.accepted r' hr'
    exact ⟨j, hgrows.judgements hj, hrest⟩
  · rcases List.mem_cons.mp hst with rfl | hold
    · obtain ⟨j, hj, _, _, hstamp⟩ := horigin hclaims
      exact ⟨j, hj, hstamp⟩
    · obtain ⟨j, hj, hstamp⟩ := h.exact.written st hold hclaims
      exact ⟨j, hgrows.judgements hj, hstamp⟩
  · rcases hjudgements j hj with hold | ⟨rfl, hjudged, hclaims⟩
    · exact h.exact.judgements j hold
    · obtain ⟨c, hc⟩ := List.exists_mem_of_ne_nil _ hclaims
      exact (O.judged_pass _ _ w (hknown.pending w hw) hjudged c hc).2

theorem inv_step {a : Action Spec Answers Consumer ρ} (h : Inv O s)
    (hok : CurrentReads O s a) (hstep : step O s a = some s') :
    Inv O s' := by
  cases a with
  | edit spec =>
      cases hstep
      exact inv_edited h spec
  | sync p =>
      cases hstep
      exact inv_sync h p
  | start p answers =>
      simp only [step] at hstep
      split at hstep
      · cases hstep
      · cases hstep
        refine inv_running h p _ fun r hr => ?_
        cases hr
        exact
          { base := h.cache p
            pending := fun _ hw => hw
            current := hok }
  | write p =>
      simp only [step] at hstep
      split at hstep
      · cases hstep
      · next r hr =>
          split at hstep
          · cases hstep
          · next w rest hpending =>
              cases hstep
              exact inv_write h hr hpending
  | stop p =>
      cases hstep
      exact inv_running h p none fun r hr => by cases hr
  | consume k =>
      simp only [step, Option.some.injEq] at hstep
      split at hstep
      · next haccepts =>
          subst hstep
          exact inv_consume h haccepts (hok haccepts)
      · subst hstep
        exact h

/-! ## Whole runs -/

/-- Runs with current reads are exact. -/
theorem exact_of_fresh
    (h : Reachable (system O) (CurrentReads O) s) : Exact O s :=
  Inv.exact (h.invariant (fun _ => inv_fresh)
    fun _ _ _ hinv hok hstep => inv_step hinv hok hstep)

end

end Verdict
