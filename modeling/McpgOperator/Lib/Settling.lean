import Mathlib.Data.List.Forall2
import Mathlib.Data.List.Induction
import Mathlib.Data.Option.Basic
import Mathlib.Data.Set.Basic

/-!
# Rounds that settle

A controller works in rounds. A round starts from the report that the round
before left behind, issues effects in order, and some of these send a new
report, which may be lost on its way. The report is the only thing that one
round passes on to the next, and the time at which a round runs may show in
it. Such a controller settles if, with nothing else changing, every round
after the first does what the second does, up to a relation between reports.

A controller settles when each report it sends overwrites what it owns of the
one before and copies the rest: what is sent on top of itself is itself.
-/

namespace Settling

/-! ## Lists that are overwritten by key -/

section Overwriting

variable {α κ : Type*} {key : α → κ} {F G : List α → List α}

/-- Puts its own items in the place of all whose key it owns. -/
def Overwrites (key : α → κ) (F : List α → List α) : Prop :=
  ∃ (put : Set α) (owned : Set κ), (∀ a ∈ put, key a ∈ owned) ∧
    ∀ l a, a ∈ F l ↔ a ∈ put ∨ (a ∈ l ∧ key a ∉ owned)

theorem overwrites_id (key : α → κ) : Overwrites key fun l => l :=
  ⟨∅, ∅, fun _ h => absurd h (Set.notMem_empty _), by simp⟩

theorem overwrites_const (key : α → κ) (l' : List α) :
    Overwrites key fun _ => l' :=
  ⟨{a | a ∈ l'}, Set.univ, fun _ _ => trivial, by simp⟩

/-- Dropping the items of one key. -/
theorem overwrites_filter [DecidableEq κ] (key : α → κ) (k : κ) :
    Overwrites key fun l => l.filter fun a => key a ≠ k :=
  ⟨∅, {a | a = k}, fun _ h => absurd h (Set.notMem_empty _), by simp⟩

/-- What the second owns, the first no longer puts. -/
theorem Overwrites.comp (hG : Overwrites key G) (hF : Overwrites key F) :
    Overwrites key fun l => G (F l) := by
  obtain ⟨putF, ownedF, hputF, hmemF⟩ := hF
  obtain ⟨putG, ownedG, hputG, hmemG⟩ := hG
  refine ⟨putG ∪ {a ∈ putF | key a ∉ ownedG}, ownedF ∪ ownedG, ?_, ?_⟩
  · rintro a (ha | ⟨ha, -⟩)
    · exact .inr (hputG a ha)
    · exact .inl (hputF a ha)
  · intro l a
    rw [hmemG, hmemF]
    simp only [Set.mem_union, Set.mem_ofPred_eq]
    tauto

/-- A list that was overwritten is not changed by being overwritten. -/
theorem Overwrites.mem_idem (h : Overwrites key F) (l : List α) (a : α) :
    a ∈ F (F l) ↔ a ∈ F l := by
  obtain ⟨put, owned, hput, hmem⟩ := h
  rw [hmem, hmem l]
  constructor
  · rintro (ha | ⟨ha, -⟩)
    · exact .inl ha
    · exact ha
  · rintro (ha | ⟨ha, hkey⟩)
    · exact .inl ha
    · exact .inr ⟨.inr ⟨ha, hkey⟩, hkey⟩

theorem Overwrites.mem_congr (h : Overwrites key F) {l l' : List α}
    (hl : ∀ a, a ∈ l ↔ a ∈ l') (a : α) : a ∈ F l ↔ a ∈ F l' := by
  obtain ⟨put, owned, -, hmem⟩ := h
  rw [hmem, hmem, hl]

end Overwriting

/-! ## Controllers -/

/-- What is looked at of a controller. A report is sent in one of the ways
`ι`, which says whether it arrives. -/
structure Controller (τ σ ε ρ ι : Type*) where
  round : τ → Option σ → List ε × ρ
  send : ι → σ → ε
  arrives : ι → Bool
  /-- The report an effect leaves behind. -/
  left : ε → Option σ
  left_send : ∀ i s, left (send i s) = if arrives i then some s else none

variable {τ σ ε ρ ι : Type*}

namespace Controller

variable (c : Controller τ σ ε ρ ι) (r : Setoid σ)

/-- The report that stands after a round: the last that arrived. -/
def next (t : τ) (o : Option σ) : Option σ :=
  ((c.round t o).1.filterMap c.left).getLast?.or o

/-- After rounds at these times. -/
def after (ts : List τ) (o : Option σ) : Option σ :=
  ts.foldl (fun held t => c.next t held) o

/-- The same effect, up to the report it sends. -/
def Alike (e e' : ε) : Prop :=
  e = e' ∨ ∃ i s s', r s s' ∧ e = c.send i s ∧ e' = c.send i s'

/-- From the second round on nothing changes any more. -/
def Settles : Prop :=
  ∀ (o : Option σ) (t : τ) (ts : List τ) (u v : τ),
    Option.Rel r (c.after [t] o) (c.after (t :: ts) o) ∧
      List.Forall₂ (c.Alike r) (c.round u (c.after [t] o)).1
        (c.round v (c.after (t :: ts) o)).1 ∧
      (c.round v (c.after (t :: ts) o)).2 = (c.round u o).2

end Controller

/-! ## Scripts -/

/-- A step of a round, before it is known when it runs and from what. -/
inductive Step (τ σ ε ι : Type*)
  | issue (e : ε)
  | report (i : ι) (tell : τ → Option σ → σ)

/-- What is told depends on the report before by what is copied from it. -/
structure Steady (r : Setoid σ) (tell : τ → Option σ → σ) : Prop where
  congr : ∀ t t' o o', Option.Rel r o o' → r (tell t o) (tell t' o')
  idem : ∀ t t' o, r (tell t' (some (tell t o))) (tell t o)

namespace Step

variable (c : Controller τ σ ε ρ ι) (r : Setoid σ)

def effect (t : τ) (o : Option σ) : Step τ σ ε ι → ε
  | .issue e => e
  | .report i tell => c.send i (tell t o)

/-- What it tells, if that arrives. -/
def tells : Step τ σ ε ι → Option (τ → Option σ → σ)
  | .issue _ => none
  | .report i tell => if c.arrives i then some tell else none

def Fine : Step τ σ ε ι → Prop
  | .issue e => c.left e = none
  | .report _ tell => Steady r tell

variable {c r}

theorem left_effect {st : Step τ σ ε ι} (h : st.Fine c r) (t : τ)
    (o : Option σ) :
    c.left (st.effect c t o) = (st.tells c).map fun tell => tell t o := by
  cases st with
  | issue e => exact h
  | report i tell =>
      rw [effect, c.left_send, tells]
      split
      · rfl
      · rfl

theorem steady_of_tells {st : Step τ σ ε ι} (h : st.Fine c r)
    {tell : τ → Option σ → σ} (htell : st.tells c = some tell) :
    Steady r tell := by
  cases st with
  | issue e => cases htell
  | report i told =>
      rw [tells] at htell
      split at htell
      · cases htell
        exact h
      · cases htell

theorem alike_effect {st : Step τ σ ε ι} (h : st.Fine c r) (t t' : τ)
    {o o' : Option σ} (ho : Option.Rel r o o') :
    c.Alike r (st.effect c t o) (st.effect c t' o') := by
  cases st with
  | issue e => exact .inl rfl
  | report i tell => exact .inr ⟨i, _, _, h.congr t t' o o' ho, rfl, rfl⟩

end Step

/-- A round that is played from one script whenever it runs and whatever it
starts from, and that always ends in the same way. -/
def Scripted (c : Controller τ σ ε ρ ι) (r : Setoid σ)
    (round : τ → Option σ → List ε × ρ) : Prop :=
  ∃ script : List (Step τ σ ε ι),
    (∀ st ∈ script, st.Fine c r) ∧
      (∀ t o, (round t o).1 = script.map (Step.effect c t o)) ∧
      ∀ t t' o o', (round t o).2 = (round t' o').2

namespace Scripted

variable {c : Controller τ σ ε ρ ι} {r : Setoid σ}
  {round round' : τ → Option σ → List ε × ρ}

/-- The end. -/
theorem ends (result : ρ) : Scripted c r fun _ _ => ([], result) :=
  ⟨[], List.forall_mem_nil _, fun _ _ => rfl, fun _ _ _ _ => rfl⟩

/-- Effects that send no report, and the end. -/
theorem issues {es : List ε} (hes : ∀ e ∈ es, c.left e = none)
    (hround : ∀ t o, (round t o).1 = es)
    (hresult : ∀ t t' o o', (round t o).2 = (round t' o').2) :
    Scripted c r round := by
  refine ⟨es.map .issue, ?_, ?_, hresult⟩
  · intro st hst
    obtain ⟨e, he, rfl⟩ := List.mem_map.mp hst
    exact hes e he
  · intro t o
    rw [hround, List.map_map]
    exact (List.map_id es).symm

/-- A report first. -/
theorem report (i : ι) {tell : τ → Option σ → σ}
    (h : Scripted c r round')
    (hround : ∀ t o, (round t o).1 = c.send i (tell t o) :: (round' t o).1)
    (hresult : ∀ t o, (round t o).2 = (round' t o).2)
    (htell : Steady r tell) : Scripted c r round := by
  obtain ⟨script, hfine, htrace, hend⟩ := h
  refine ⟨.report i tell :: script, ?_, ?_, ?_⟩
  · exact List.forall_mem_cons.mpr ⟨htell, hfine⟩
  · intro t o
    rw [hround, htrace]
    rfl
  · intro t t' o o'
    rw [hresult, hresult]
    exact hend t t' o o'

/-- Effects that send no report first. -/
theorem append {es : List ε} (hes : ∀ e ∈ es, c.left e = none)
    (h : Scripted c r round')
    (hround : ∀ t o, (round t o).1 = es ++ (round' t o).1)
    (hresult : ∀ t o, (round t o).2 = (round' t o).2) :
    Scripted c r round := by
  obtain ⟨script, hfine, htrace, hend⟩ := h
  refine ⟨es.map .issue ++ script, ?_, ?_, ?_⟩
  · intro st hst
    rcases List.mem_append.mp hst with hst | hst
    · obtain ⟨e, he, rfl⟩ := List.mem_map.mp hst
      exact hes e he
    · exact hfine st hst
  · intro t o
    rw [hround, htrace, List.map_append, List.map_map]
    exact congrArg (· ++ _) (List.map_id es).symm
  · intro t t' o o'
    rw [hresult, hresult]
    exact hend t t' o o'

/-- Effects around one report, and the end. -/
theorem around (i : ι) {before later : List ε} {tell : τ → Option σ → σ}
    (hbefore : ∀ e ∈ before, c.left e = none)
    (hlater : ∀ e ∈ later, c.left e = none)
    (hround : ∀ t o,
      (round t o).1 = before ++ c.send i (tell t o) :: later)
    (hresult : ∀ t t' o o', (round t o).2 = (round t' o').2)
    (htell : Steady r tell) : Scripted c r round := by
  refine ⟨before.map .issue ++ .report i tell :: later.map .issue, ?_, ?_,
    hresult⟩
  · intro st hst
    rcases List.mem_append.mp hst with hst | hst
    · obtain ⟨e, he, rfl⟩ := List.mem_map.mp hst
      exact hbefore e he
    · rcases List.mem_cons.mp hst with rfl | hst
      · exact htell
      · obtain ⟨e, he, rfl⟩ := List.mem_map.mp hst
        exact hlater e he
  · intro t o
    rw [hround, List.map_append, List.map_cons, List.map_map, List.map_map]
    exact congrArg₂ (fun l l' => l ++ c.send i (tell t o) :: l')
      (List.map_id before).symm (List.map_id later).symm

end Scripted

/-! ## Settling -/

variable {c : Controller τ σ ε ρ ι} {r : Setoid σ}

/-- What stands after a round is what was held, or what the last report of
the script that arrives tells. -/
theorem next_of_scripted {script : List (Step τ σ ε ι)}
    (hfine : ∀ st ∈ script, st.Fine c r)
    (hround : ∀ t o, (c.round t o).1 = script.map (Step.effect c t o))
    (t : τ) (o : Option σ) :
    c.next t o =
      ((script.filterMap (Step.tells c)).getLast?.map
        fun tell => tell t o).or o := by
  have hleft : (script.map (Step.effect c t o)).filterMap c.left =
      (script.filterMap (Step.tells c)).map fun tell => tell t o := by
    rw [List.filterMap_map, List.map_filterMap]
    refine List.filterMap_congr ?_
    intro st hst
    exact Step.left_effect (hfine st hst) t o
  rw [Controller.next, hround, hleft, List.getLast?_map]

/-- Where the last report of a round tells this, all that stand later say
the same. -/
theorem after_of_steady {tell : τ → Option σ → σ} (htell : Steady r tell)
    (hnext : ∀ t o, c.next t o = some (tell t o)) (t : τ) (ts : List τ)
    (o : Option σ) :
    Option.Rel r (some (tell t o)) (c.after (t :: ts) o) := by
  induction ts using List.reverseRecOn with
  | nil =>
      have hfirst : c.after [t] o = some (tell t o) := hnext t o
      rw [hfirst]
      exact .some (r.refl _)
  | append_singleton ts u ih =>
      have hlast : c.after (t :: (ts ++ [u])) o =
          c.next u (c.after (t :: ts) o) := by
        rw [← List.cons_append]
        exact List.foldl_append
      rw [hlast, hnext]
      have hmore := htell.congr u u _ _ ih
      exact .some (r.trans (r.symm (htell.idem t u o)) hmore)

theorem after_of_still (hnext : ∀ t o, c.next t o = o) (ts : List τ)
    (o : Option σ) : c.after ts o = o := by
  induction ts with
  | nil => rfl
  | cons t ts ih =>
      show c.after ts (c.next t o) = o
      rw [hnext, ih]

theorem rel_after_of_scripted {script : List (Step τ σ ε ι)}
    (hfine : ∀ st ∈ script, st.Fine c r)
    (hround : ∀ t o, (c.round t o).1 = script.map (Step.effect c t o))
    (t : τ) (ts : List τ) (o : Option σ) :
    Option.Rel r (c.after [t] o) (c.after (t :: ts) o) := by
  have hnext := next_of_scripted hfine hround
  cases hlast : (script.filterMap (Step.tells c)).getLast? with
  | none =>
      have hheld : ∀ t o, c.next t o = o := by
        intro t o
        rw [hnext, hlast]
        rfl
      rw [after_of_still hheld, after_of_still hheld]
      cases o with
      | none => exact .none
      | some s => exact .some (r.refl s)
  | some tell =>
      have hmem := List.mem_of_getLast? hlast
      obtain ⟨st, hst, htells⟩ := List.mem_filterMap.mp hmem
      have htell := Step.steady_of_tells (hfine st hst) htells
      have htold : ∀ t o, c.next t o = some (tell t o) := by
        intro t o
        rw [hnext, hlast]
        rfl
      have hfirst : c.after [t] o = some (tell t o) := htold t o
      rw [hfirst]
      exact after_of_steady htell htold t ts o

/-- A controller whose rounds are played from one script settles. -/
theorem settles_of_scripted (h : Scripted c r c.round) : c.Settles r := by
  obtain ⟨script, hfine, hround, hresult⟩ := h
  intro o t ts u v
  have hrel := rel_after_of_scripted hfine hround t ts o
  refine ⟨hrel, ?_, hresult v u _ o⟩
  rw [hround, hround, List.forall₂_map_left_iff,
    List.forall₂_map_right_iff, List.forall₂_same]
  intro st hst
  exact Step.alike_effect (hfine st hst) u v hrel

end Settling
