import Mathlib.Data.List.Basic
import Mathlib.Logic.Function.Iterate
import Mathlib.Tactic.Common

/-!
# Regular expressions over the positions of a subject

An expression matches from one position of a subject to another. A look
matches at a single one, by what is around it: so `^` and `$` are part of the
expression, each where it stands, and say nothing of the rest of it. `Matches`
is the meaning and `ends` computes it (`mem_ends_iff`).

An expression has many ways through it, and each is a list of looks and
characters. When every way begins at the start of the text and ends at the end
of it, the expression matches whole subjects only (`AnchoredWays.whole`). A way
that leaves out an anchor is gone along in the middle of longer texts as well,
and an expression that takes them all as a whole takes any text at that end
(`anchoredWays_of_whole`).
-/

namespace Regex

/-! ## Expressions -/

/-- The lines of the subject are told apart by `startLine` and `endLine`. -/
inductive Look
  | start
  | end_
  | startLine
  | endLine
  | other (holds : List Char → Nat → Bool)

def Look.holds (s : List Char) (i : Nat) : Look → Bool
  | .start => i = 0
  | .end_ => i = s.length
  | .startLine => i = 0 || s[i - 1]? = some '\n'
  | .endLine => i = s.length || s[i]? = some '\n'
  | .other holds => holds s i

/-- `one` matches a character. -/
inductive Re
  | empty
  | one (holds : Char → Bool)
  | look (l : Look)
  | seq (a b : Re)
  | alt (a b : Re)
  | star (e : Re)

def Re.plus (e : Re) : Re := .seq e (.star e)

def Re.opt (e : Re) : Re := .alt e .empty

/-- The expression matches from `i` to `j`. -/
inductive Matches (s : List Char) : Re → Nat → Nat → Prop
  | empty {i : Nat} (hi : i ≤ s.length) : Matches s .empty i i
  | one {holds : Char → Bool} {i : Nat} {c : Char} (hc : s[i]? = some c)
      (h : holds c = true) : Matches s (.one holds) i (i + 1)
  | look {l : Look} {i : Nat} (hi : i ≤ s.length)
      (h : l.holds s i = true) : Matches s (.look l) i i
  | seq {a b : Re} {i k j : Nat} (ha : Matches s a i k)
      (hb : Matches s b k j) : Matches s (.seq a b) i j
  | altLeft {a b : Re} {i j : Nat} (h : Matches s a i j) :
      Matches s (.alt a b) i j
  | altRight {a b : Re} {i j : Nat} (h : Matches s b i j) :
      Matches s (.alt a b) i j
  | starNil {e : Re} {i : Nat} (hi : i ≤ s.length) :
      Matches s (.star e) i i
  | starCons {e : Re} {i k j : Nat} (he : Matches s e i k)
      (h : Matches s (.star e) k j) : Matches s (.star e) i j

/-- It matches somewhere. -/
def Occurs (e : Re) (s : List Char) : Prop := ∃ i j, Matches s e i j

/-- It matches the subject from its first to its last character. -/
def Whole (e : Re) (s : List Char) : Prop := Matches s e 0 s.length

theorem Matches.le {s : List Char} {e : Re} {i j : Nat}
    (h : Matches s e i j) : i ≤ j := by
  induction h with
  | empty => exact Nat.le_refl _
  | one => exact Nat.le_succ _
  | look => exact Nat.le_refl _
  | seq _ _ iha ihb => exact Nat.le_trans iha ihb
  | altLeft _ ih => exact ih
  | altRight _ ih => exact ih
  | starNil => exact Nat.le_refl _
  | starCons _ _ ihe ih => exact Nat.le_trans ihe ih

theorem Matches.le_length {s : List Char} {e : Re} {i j : Nat}
    (h : Matches s e i j) : j ≤ s.length := by
  induction h with
  | empty hi => exact hi
  | one hc _ => exact (List.getElem?_eq_some_iff.mp hc).1
  | look hi _ => exact hi
  | seq _ _ _ ihb => exact ihb
  | altLeft _ ih => exact ih
  | altRight _ ih => exact ih
  | starNil hi => exact hi
  | starCons _ _ _ ih => exact ih

theorem Matches.star_snoc {s : List Char} {e : Re} {i k j : Nat}
    (h : Matches s (.star e) i k) (he : Matches s e k j) :
    Matches s (.star e) i j := by
  generalize hstar : Re.star e = f at h
  induction h with
  | starNil => exact hstar ▸ .starCons he (.starNil he.le_length)
  | starCons hfirst _ _ ih =>
      cases hstar
      exact .starCons hfirst (ih he rfl)
  | _ => cases hstar

/-! ## Computing the matches -/

/-- The positions, and those one step further, of those up to `n`. -/
def spread (step : Nat → List Nat) (n : Nat) (ps : List Nat) : List Nat :=
  (List.range (n + 1)).filter fun j =>
    ps.contains j || ps.any fun i => (step i).contains j

/-- Where the matches from a position end. -/
def ends (s : List Char) : Re → Nat → List Nat
  | .empty, i => if i ≤ s.length then [i] else []
  | .one holds, i => if (s[i]?).any holds then [i + 1] else []
  | .look l, i => if i ≤ s.length ∧ l.holds s i = true then [i] else []
  | .seq a b, i => (ends s a i).flatMap (ends s b)
  | .alt a b, i => ends s a i ++ ends s b i
  | .star e, i =>
      if i ≤ s.length then (spread (ends s e) s.length)^[s.length] [i]
      else []

theorem mem_spread {step : Nat → List Nat} {n j : Nat} {ps : List Nat} :
    j ∈ spread step n ps ↔ j ≤ n ∧ (j ∈ ps ∨ ∃ i ∈ ps, j ∈ step i) := by
  unfold spread
  rw [List.mem_filter, List.mem_range, Bool.or_eq_true, List.any_eq_true]
  simp only [List.contains_iff_mem, Nat.lt_succ_iff]

/-- Every step of the closure is a match. -/
theorem of_mem_iterate {s : List Char} {e : Re} {i : Nat}
    (hstep : ∀ i j, j ∈ ends s e i → Matches s e i j) (k : Nat)
    {ps : List Nat} (hps : ∀ p ∈ ps, Matches s (.star e) i p) {j : Nat}
    (h : j ∈ (spread (ends s e) s.length)^[k] ps) :
    Matches s (.star e) i j := by
  induction k generalizing ps with
  | zero => exact hps j h
  | succ k ih =>
      refine ih ?_ h
      intro p hp
      rcases (mem_spread.mp hp).2 with hold | ⟨q, hq, hnew⟩
      · exact hps p hold
      · exact (hps q hq).star_snoc (hstep q p hnew)

/-- The steps of a closure that do not advance may be left out, and so there
is one for each position at most. -/
theorem mem_iterate {s : List Char} {e : Re}
    (hstep : ∀ i j, Matches s e i j → j ∈ ends s e i) {i j : Nat}
    (h : Matches s (.star e) i j) {k : Nat} (hk : j - i ≤ k)
    {ps : List Nat} (hi : i ∈ ps) :
    j ∈ (spread (ends s e) s.length)^[k] ps := by
  generalize hstar : Re.star e = f at h
  induction h generalizing k ps with
  | starNil hlength =>
      clear hk
      induction k generalizing ps with
      | zero => exact hi
      | succ k ih => exact ih (mem_spread.mpr ⟨hlength, .inl hi⟩)
  | @starCons e' i m j hfirst hrest _ ih =>
      cases hstar
      have him := hfirst.le
      have hmj := hrest.le
      by_cases hstay : m = i
      · subst hstay
        exact ih hk hi rfl
      · obtain ⟨k, rfl⟩ : ∃ k', k = k' + 1 := ⟨k - 1, by omega⟩
        have hm : m ∈ spread (ends s e) s.length ps :=
          mem_spread.mpr ⟨hfirst.le_length, .inr ⟨i, hi, hstep i m hfirst⟩⟩
        have hthere : j ∈ (spread (ends s e) s.length)^[k]
            (spread (ends s e) s.length ps) := ih (by omega) hm rfl
        exact hthere
  | _ => cases hstar

theorem mem_ends_iff {s : List Char} {e : Re} {i j : Nat} :
    j ∈ ends s e i ↔ Matches s e i j := by
  induction e generalizing i j with
  | empty =>
      unfold ends
      constructor
      · intro h
        split at h
        · next hi =>
          rw [List.mem_singleton.mp h]
          exact .empty hi
        · exact absurd h List.not_mem_nil
      · intro h
        cases h with
        | empty hi =>
            rw [if_pos hi]
            exact List.mem_singleton_self _
  | one holds =>
      unfold ends
      constructor
      · intro h
        split at h
        · next hany =>
          obtain ⟨c, hc, hholds⟩ := (Option.any_eq_true _ _).mp hany
          rw [List.mem_singleton.mp h]
          exact .one hc hholds
        · exact absurd h List.not_mem_nil
      · intro h
        cases h with
        | one hc hholds =>
            rw [if_pos ((Option.any_eq_true _ _).mpr ⟨_, hc, hholds⟩)]
            exact List.mem_singleton_self _
  | look l =>
      unfold ends
      constructor
      · intro h
        split at h
        · next hlook =>
          rw [List.mem_singleton.mp h]
          exact .look hlook.1 hlook.2
        · exact absurd h List.not_mem_nil
      · intro h
        cases h with
        | look hi hholds =>
            rw [if_pos ⟨hi, hholds⟩]
            exact List.mem_singleton_self _
  | seq a b iha ihb =>
      show j ∈ (ends s a i).flatMap (ends s b) ↔ _
      rw [List.mem_flatMap]
      constructor
      · rintro ⟨k, hk, hj⟩
        exact .seq (iha.mp hk) (ihb.mp hj)
      · intro h
        cases h with
        | seq ha hb => exact ⟨_, iha.mpr ha, ihb.mpr hb⟩
  | alt a b iha ihb =>
      show j ∈ ends s a i ++ ends s b i ↔ _
      rw [List.mem_append]
      constructor
      · rintro (h | h)
        · exact .altLeft (iha.mp h)
        · exact .altRight (ihb.mp h)
      · intro h
        cases h with
        | altLeft h => exact .inl (iha.mpr h)
        | altRight h => exact .inr (ihb.mpr h)
  | star e ih =>
      unfold ends
      constructor
      · intro h
        split at h
        · next hi =>
          refine of_mem_iterate (fun _ _ => ih.mp) s.length ?_ h
          intro p hp
          rw [List.mem_singleton.mp hp]
          exact .starNil hi
        · exact absurd h List.not_mem_nil
      · intro h
        have hij := h.le
        have hj := h.le_length
        rw [if_pos (Nat.le_trans hij hj)]
        exact mem_iterate (fun _ _ => ih.mpr) h (by omega)
          (List.mem_singleton_self i)

/-- Whether it matches somewhere. -/
def occurs (e : Re) (s : List Char) : Bool :=
  (List.range (s.length + 1)).any fun i => !(ends s e i).isEmpty

theorem occurs_iff {e : Re} {s : List Char} :
    occurs e s = true ↔ Occurs e s := by
  unfold occurs Occurs
  rw [List.any_eq_true]
  constructor
  · rintro ⟨i, -, h⟩
    obtain ⟨j, hj⟩ := List.exists_mem_of_ne_nil _
      (by simpa using h : ends s e i ≠ [])
    exact ⟨i, j, mem_ends_iff.mp hj⟩
  · rintro ⟨i, j, h⟩
    have hij := h.le
    have hj := h.le_length
    have hmem : j ∈ ends s e i := mem_ends_iff.mpr h
    refine ⟨i, List.mem_range.mpr (by omega), ?_⟩
    simpa using List.ne_nil_of_mem hmem

instance (e : Re) (s : List Char) : Decidable (Occurs e s) :=
  decidable_of_iff _ occurs_iff

instance (e : Re) (s : List Char) : Decidable (Whole e s) :=
  decidable_of_iff (s.length ∈ ends s e 0) mem_ends_iff

/-! ## Anchors -/

/-- A look or a character of the expression. -/
inductive Step
  | look (l : Look)
  | one (holds : Char → Bool)

def Step.isLook : Step → Bool
  | .look _ => true
  | .one _ => false

/-- Of every look and every character. -/
def every (p : Step → Bool) : Re → Bool
  | .empty => true
  | .one holds => p (.one holds)
  | .look l => p (.look l)
  | .seq a b | .alt a b => every p a && every p b
  | .star e => every p e

/-- It matches nothing but the empty text. -/
def zeroWidth (e : Re) : Bool := every Step.isLook e

/-- Every way through it begins at the start of the text. -/
def startsAtText : Re → Bool
  | .look .start => true
  | .empty | .look _ | .one _ | .star _ => false
  | .seq a b => startsAtText a || (zeroWidth a && startsAtText b)
  | .alt a b => startsAtText a && startsAtText b

/-- Every way through it ends at the end of the text. -/
def endsAtText : Re → Bool
  | .look .end_ => true
  | .empty | .look _ | .one _ | .star _ => false
  | .seq a b => endsAtText b || (zeroWidth b && endsAtText a)
  | .alt a b => endsAtText a && endsAtText b

def anchored (e : Re) : Bool := startsAtText e && endsAtText e

/-! ## Ways through an expression -/

/-- One choice at each alternative, and of each repetition a number of
times. -/
inductive Way : Re → List Step → Prop
  | empty : Way .empty []
  | one (holds : Char → Bool) : Way (.one holds) [.one holds]
  | look (l : Look) : Way (.look l) [.look l]
  | seq {a b : Re} {u w : List Step} (ha : Way a u) (hb : Way b w) :
      Way (.seq a b) (u ++ w)
  | altLeft {a b : Re} {w : List Step} (h : Way a w) : Way (.alt a b) w
  | altRight {a b : Re} {w : List Step} (h : Way b w) : Way (.alt a b) w
  | starNil {e : Re} : Way (.star e) []
  | starCons {e : Re} {u w : List Step} (he : Way e u)
      (h : Way (.star e) w) : Way (.star e) (u ++ w)

/-- The subject goes along the way from `i` to `j`. -/
def Follows (s : List Char) : List Step → Nat → Nat → Prop
  | [], i, j => i = j ∧ i ≤ s.length
  | .look l :: w, i, j => i ≤ s.length ∧ l.holds s i = true ∧ Follows s w i j
  | .one holds :: w, i, j =>
      ∃ c, s[i]? = some c ∧ holds c = true ∧ Follows s w (i + 1) j

theorem Follows.le_length {s : List Char} {w : List Step} {i j : Nat}
    (h : Follows s w i j) : i ≤ s.length := by
  cases w with
  | nil => exact h.2
  | cons step w =>
      cases step with
      | look l => exact h.1
      | one holds =>
          obtain ⟨c, hc, -, -⟩ := h
          exact Nat.le_of_lt (List.getElem?_eq_some_iff.mp hc).1

theorem follows_append {s : List Char} {u w : List Step} {i j : Nat} :
    Follows s (u ++ w) i j ↔ ∃ k, Follows s u i k ∧ Follows s w k j := by
  induction u generalizing i with
  | nil =>
      constructor
      · intro h
        exact ⟨i, ⟨rfl, h.le_length⟩, h⟩
      · rintro ⟨k, ⟨rfl, -⟩, h⟩
        exact h
  | cons step u ih =>
      cases step with
      | look l =>
          constructor
          · rintro ⟨hi, hl, h⟩
            obtain ⟨k, hu, hw⟩ := ih.mp h
            exact ⟨k, ⟨hi, hl, hu⟩, hw⟩
          · rintro ⟨k, ⟨hi, hl, hu⟩, hw⟩
            exact ⟨hi, hl, ih.mpr ⟨k, hu, hw⟩⟩
      | one holds =>
          constructor
          · rintro ⟨c, hc, hholds, h⟩
            obtain ⟨k, hu, hw⟩ := ih.mp h
            exact ⟨k, ⟨c, hc, hholds, hu⟩, hw⟩
          · rintro ⟨k, ⟨c, hc, hholds, hu⟩, hw⟩
            exact ⟨c, hc, hholds, ih.mpr ⟨k, hu, hw⟩⟩

theorem Matches.exists_way {s : List Char} {e : Re} {i j : Nat}
    (h : Matches s e i j) : ∃ w, Way e w ∧ Follows s w i j := by
  induction h with
  | empty hi => exact ⟨[], .empty, rfl, hi⟩
  | one hc hholds =>
      exact ⟨_, .one _, _, hc, hholds, rfl,
        (List.getElem?_eq_some_iff.mp hc).1⟩
  | look hi hl => exact ⟨_, .look _, hi, hl, rfl, hi⟩
  | seq _ _ iha ihb =>
      obtain ⟨u, hu, hfirst⟩ := iha
      obtain ⟨w, hw, hrest⟩ := ihb
      exact ⟨u ++ w, .seq hu hw, follows_append.mpr ⟨_, hfirst, hrest⟩⟩
  | altLeft _ ih =>
      obtain ⟨w, hw, h⟩ := ih
      exact ⟨w, .altLeft hw, h⟩
  | altRight _ ih =>
      obtain ⟨w, hw, h⟩ := ih
      exact ⟨w, .altRight hw, h⟩
  | starNil hi => exact ⟨[], .starNil, rfl, hi⟩
  | starCons _ _ ihe ih =>
      obtain ⟨u, hu, hfirst⟩ := ihe
      obtain ⟨w, hw, hrest⟩ := ih
      exact ⟨u ++ w, .starCons hu hw, follows_append.mpr ⟨_, hfirst, hrest⟩⟩

theorem Way.matches {s : List Char} {e : Re} {w : List Step} {i j : Nat}
    (hw : Way e w) (h : Follows s w i j) : Matches s e i j := by
  induction hw generalizing i j with
  | empty =>
      obtain ⟨rfl, hi⟩ := h
      exact .empty hi
  | one holds =>
      obtain ⟨c, hc, hholds, rfl, -⟩ := h
      exact .one hc hholds
  | look l =>
      obtain ⟨hi, hl, rfl, -⟩ := h
      exact .look hi hl
  | seq _ _ iha ihb =>
      obtain ⟨k, hu, hw⟩ := follows_append.mp h
      exact .seq (iha hu) (ihb hw)
  | altLeft _ ih => exact .altLeft (ih h)
  | altRight _ ih => exact .altRight (ih h)
  | starNil =>
      obtain ⟨rfl, hi⟩ := h
      exact .starNil hi
  | starCons _ _ ihe ih =>
      obtain ⟨k, hu, hw⟩ := follows_append.mp h
      exact .starCons (ihe hu) (ih hw)

theorem Way.all {p : Step → Bool} {e : Re} {w : List Step} (h : Way e w)
    (he : every p e = true) : w.all p = true := by
  induction h with
  | empty => rfl
  | one => exact (Bool.and_true _).trans he
  | look l => exact (Bool.and_true _).trans he
  | seq _ _ iha ihb =>
      obtain ⟨ha, hb⟩ := Bool.and_eq_true_iff.mp he
      rw [List.all_append, iha ha, ihb hb]
      rfl
  | altLeft _ ih => exact ih (Bool.and_eq_true_iff.mp he).1
  | altRight _ ih => exact ih (Bool.and_eq_true_iff.mp he).2
  | starNil => rfl
  | starCons _ _ ihe ih =>
      rw [List.all_append, ihe he, ih he]
      rfl

/-! ### Anchored ways -/

/-- The way looks for the start of the text before its first character. -/
def leavesStart : List Step → Bool
  | .look .start :: _ => true
  | .look _ :: w => leavesStart w
  | _ => false

/-- The way looks for the end of the text behind its last character. -/
def reachesEnd : List Step → Bool
  | [] => false
  | .look .end_ :: w => w.all Step.isLook || reachesEnd w
  | _ :: w => reachesEnd w

/-- Every way that any subject goes along is anchored at both ends. -/
def AnchoredWays (e : Re) : Prop :=
  ∀ w, Way e w → (∃ s i j, Follows s w i j) →
    leavesStart w = true ∧ reachesEnd w = true

theorem Follows.eq_of_looks {s : List Char} {w : List Step} {i j : Nat}
    (hw : w.all Step.isLook = true) (h : Follows s w i j) : i = j := by
  induction w with
  | nil => exact h.1
  | cons step w ih =>
      obtain ⟨hstep, hrest⟩ := Bool.and_eq_true_iff.mp hw
      cases step with
      | look l => exact ih hrest h.2.2
      | one holds => cases hstep

theorem Follows.eq_zero {s : List Char} {w : List Step} {i j : Nat}
    (hw : leavesStart w = true) (h : Follows s w i j) : i = 0 := by
  induction w with
  | nil => cases hw
  | cons step w ih =>
      cases step with
      | one holds => cases hw
      | look l =>
          obtain ⟨-, hl, hrest⟩ := h
          cases l with
          | start => exact of_decide_eq_true hl
          | _ => exact ih hw hrest

theorem Follows.eq_length {s : List Char} {w : List Step} {i j : Nat}
    (hw : reachesEnd w = true) (h : Follows s w i j) : j = s.length := by
  induction w generalizing i with
  | nil => cases hw
  | cons step w ih =>
      cases step with
      | one holds =>
          obtain ⟨c, -, -, hrest⟩ := h
          exact ih hw hrest
      | look l =>
          obtain ⟨-, hl, hrest⟩ := h
          cases l with
          | end_ =>
              rcases Bool.or_eq_true_iff.mp hw with hlooks | hw
              · exact (hrest.eq_of_looks hlooks).symm.trans
                  (of_decide_eq_true hl)
              · exact ih hw hrest
          | _ => exact ih hw hrest

theorem AnchoredWays.whole {e : Re} {s : List Char} (he : AnchoredWays e)
    (h : Occurs e s) : Whole e s := by
  obtain ⟨i, j, hmatch⟩ := h
  obtain ⟨w, hw, hfollows⟩ := hmatch.exists_way
  obtain ⟨hstart, hend⟩ := he w hw ⟨s, i, j, hfollows⟩
  obtain rfl := hfollows.eq_zero hstart
  obtain rfl := hfollows.eq_length hend
  exact hmatch

theorem leavesStart_append {u w : List Step}
    (h : leavesStart u = true ∨
      u.all Step.isLook = true ∧ leavesStart w = true) :
    leavesStart (u ++ w) = true := by
  induction u with
  | nil =>
      rcases h with h | ⟨-, h⟩
      · cases h
      · exact h
  | cons step u ih =>
      cases step with
      | one holds =>
          rcases h with h | ⟨h, -⟩
          · cases h
          · cases h
      | look l =>
          cases l with
          | start => rfl
          | _ => exact ih h

theorem leavesStart_of_startsAtText {e : Re} {w : List Step}
    (he : startsAtText e = true) (h : Way e w) :
    leavesStart w = true := by
  induction h with
  | empty => cases he
  | one => cases he
  | look l =>
      cases l with
      | start => rfl
      | _ => cases he
  | seq hfirst _ iha ihb =>
      rcases Bool.or_eq_true_iff.mp he with ha | hb
      · exact leavesStart_append (.inl (iha ha))
      · obtain ⟨hzero, hb⟩ := Bool.and_eq_true_iff.mp hb
        exact leavesStart_append
          (.inr ⟨hfirst.all hzero, ihb hb⟩)
  | altLeft _ ih => exact ih (Bool.and_eq_true_iff.mp he).1
  | altRight _ ih => exact ih (Bool.and_eq_true_iff.mp he).2
  | starNil => cases he
  | starCons => cases he

theorem reachesEnd_append {u w : List Step}
    (h : reachesEnd w = true ∨
      w.all Step.isLook = true ∧ reachesEnd u = true) :
    reachesEnd (u ++ w) = true := by
  induction u with
  | nil =>
      rcases h with h | ⟨-, h⟩
      · exact h
      · cases h
  | cons step u ih =>
      cases step with
      | one holds => exact ih h
      | look l =>
          cases l with
          | end_ =>
              refine Bool.or_eq_true_iff.mpr ?_
              rcases h with h | ⟨hlooks, h⟩
              · exact .inr (ih (.inl h))
              · rcases Bool.or_eq_true_iff.mp h with hu | hu
                · refine .inl (List.all_append.trans ?_)
                  rw [hu, hlooks]
                  rfl
                · exact .inr (ih (.inr ⟨hlooks, hu⟩))
          | _ => exact ih h

theorem reachesEnd_of_endsAtText {e : Re} {w : List Step}
    (he : endsAtText e = true) (h : Way e w) : reachesEnd w = true := by
  induction h with
  | empty => cases he
  | one => cases he
  | look l =>
      cases l with
      | end_ => rfl
      | _ => cases he
  | seq _ hlast iha ihb =>
      rcases Bool.or_eq_true_iff.mp he with hb | ha
      · exact reachesEnd_append (.inl (ihb hb))
      · obtain ⟨hzero, ha⟩ := Bool.and_eq_true_iff.mp ha
        exact reachesEnd_append
          (.inr ⟨hlast.all hzero, iha ha⟩)
  | altLeft _ ih => exact ih (Bool.and_eq_true_iff.mp he).1
  | altRight _ ih => exact ih (Bool.and_eq_true_iff.mp he).2
  | starNil => cases he
  | starCons => cases he

/-- The alternatives of an expression. -/
def alternatives : Re → List Re
  | .alt a b => alternatives a ++ alternatives b
  | e => [e]

theorem Way.exists_alternative {e : Re} {w : List Step} (h : Way e w) :
    ∃ b ∈ alternatives e, Way b w := by
  induction h with
  | altLeft _ ih =>
      obtain ⟨b, hb, h⟩ := ih
      exact ⟨b, List.mem_append_left _ hb, h⟩
  | altRight _ ih =>
      obtain ⟨b, hb, h⟩ := ih
      exact ⟨b, List.mem_append_right _ hb, h⟩
  | empty => exact ⟨_, List.mem_singleton_self _, .empty⟩
  | one holds => exact ⟨_, List.mem_singleton_self _, .one holds⟩
  | look l => exact ⟨_, List.mem_singleton_self _, .look l⟩
  | seq ha hb => exact ⟨_, List.mem_singleton_self _, .seq ha hb⟩
  | starNil => exact ⟨_, List.mem_singleton_self _, .starNil⟩
  | starCons he h => exact ⟨_, List.mem_singleton_self _, .starCons he h⟩

theorem anchoredWays_of_alternatives {e : Re}
    (h : ∀ b ∈ alternatives e, anchored b = true) : AnchoredWays e := by
  intro w hw _
  obtain ⟨b, hb, hway⟩ := hw.exists_alternative
  obtain ⟨hstart, hend⟩ := Bool.and_eq_true_iff.mp (h b hb)
  exact ⟨leavesStart_of_startsAtText hstart hway,
    reachesEnd_of_endsAtText hend hway⟩

/-! ### Ways without an anchor

What goes along one does so at that end of a longer text too, if the lines it
looks for begin and end there. -/

/-- It looks at the text and its lines only. -/
def Look.plain : Look → Bool
  | .other _ => false
  | _ => true

def Step.plain : Step → Bool
  | .look l => l.plain
  | .one _ => true

/-- Its looks are of the text and its lines. -/
def plain (e : Re) : Bool := every Step.plain e

/-- It does not look for the lines of the text. -/
def Step.ofText : Step → Bool
  | .look .startLine | .look .endLine => false
  | _ => true

theorem getElem?_last {before s : List Char} {c : Char}
    (h : before.getLast? = some c) :
    (before ++ s)[before.length - 1]? = some c := by
  have hne : before ≠ [] := by
    rintro rfl
    cases h
  have hpos := List.length_pos_iff.mpr hne
  rw [List.getElem?_append_left (by omega), ← List.getLast?_eq_getElem?, h]

theorem Look.holds_behind {s before : List Char} {i : Nat} {l : Look}
    (hplain : l.plain = true) (hfree : l ≠ .start ∨ 0 < i)
    (hline : l = .startLine → before.getLast? = some '\n')
    (h : l.holds s i = true) :
    l.holds (before ++ s) (before.length + i) = true := by
  have hget : ∀ k, (before ++ s)[before.length + k]? = s[k]? := by
    intro k
    rw [List.getElem?_append_right (by omega), Nat.add_sub_cancel_left]
  have hlength : (before ++ s).length = before.length + s.length :=
    List.length_append
  cases l with
  | start =>
      rcases hfree with hne | hpos
      · exact absurd rfl hne
      · exact absurd (of_decide_eq_true h) (by omega)
  | end_ =>
      have : i = s.length := of_decide_eq_true h
      exact decide_eq_true (by omega)
  | startLine =>
      refine Bool.or_eq_true_iff.mpr (.inr (decide_eq_true ?_))
      have h' := Bool.or_eq_true_iff.mp h
      cases i with
      | zero => exact getElem?_last (hline rfl)
      | succ i =>
          rcases h' with hzero | hbreak
          · exact absurd (of_decide_eq_true hzero) (Nat.succ_ne_zero i)
          · have hbreak : s[i]? = some '\n' := of_decide_eq_true hbreak
            exact (hget i).trans hbreak
  | endLine =>
      refine Bool.or_eq_true_iff.mpr ?_
      rcases Bool.or_eq_true_iff.mp h with hlast | hbreak
      · have : i = s.length := of_decide_eq_true hlast
        exact .inl (decide_eq_true (by omega))
      · have hbreak : s[i]? = some '\n' := of_decide_eq_true hbreak
        exact .inr (decide_eq_true ((hget i).trans hbreak))
  | other => cases hplain

/-- Behind any text, which ends a line if the way looks for lines. -/
theorem Follows.behind {s before : List Char} {w : List Step} {i j : Nat}
    (hplain : w.all Step.plain = true)
    (hfree : leavesStart w = false ∨ 0 < i)
    (hline : w.all Step.ofText = true ∨ before.getLast? = some '\n')
    (h : Follows s w i j) :
    Follows (before ++ s) w (before.length + i) (before.length + j) := by
  induction w generalizing i with
  | nil =>
      obtain ⟨rfl, hi⟩ := h
      refine ⟨rfl, ?_⟩
      rw [List.length_append]
      omega
  | cons step w ih =>
      obtain ⟨hstep, hrest⟩ := Bool.and_eq_true_iff.mp hplain
      have hline' : w.all Step.ofText = true ∨ before.getLast? = some '\n' :=
        hline.imp_left fun h => (Bool.and_eq_true_iff.mp h).2
      cases step with
      | look l =>
          obtain ⟨hi, hl, hw⟩ := h
          refine ⟨?_, Look.holds_behind hstep ?_ ?_ hl, ih hrest ?_ hline' hw⟩
          · rw [List.length_append]
            omega
          · refine hfree.imp_left ?_
            rintro hloose rfl
            cases hloose
          · rintro rfl
            exact hline.resolve_left Bool.false_ne_true
          · refine hfree.imp_left ?_
            intro hloose
            cases l with
            | start => cases hloose
            | _ => exact hloose
      | one holds =>
          obtain ⟨c, hc, hholds, hw⟩ := h
          refine ⟨c, ?_, hholds, ih hrest (.inr (Nat.succ_pos i)) hline' hw⟩
          rw [List.getElem?_append_right (by omega),
            Nat.add_sub_cancel_left, hc]

theorem Look.holds_before {s after : List Char} {i : Nat} {l : Look}
    (hplain : l.plain = true) (hfree : l ≠ .end_ ∨ i < s.length)
    (hline : l = .endLine → after.head? = some '\n')
    (h : l.holds s i = true) : l.holds (s ++ after) i = true := by
  cases l with
  | start => exact h
  | end_ =>
      rcases hfree with hne | hlt
      · exact absurd rfl hne
      · exact absurd (of_decide_eq_true h) (by omega)
  | startLine =>
      refine Bool.or_eq_true_iff.mpr ?_
      refine (Bool.or_eq_true_iff.mp h).imp_right ?_
      intro hbreak
      have hbreak : s[i - 1]? = some '\n' := of_decide_eq_true hbreak
      have hlt := (List.getElem?_eq_some_iff.mp hbreak).1
      exact decide_eq_true ((List.getElem?_append_left hlt).trans hbreak)
  | endLine =>
      refine Bool.or_eq_true_iff.mpr (.inr (decide_eq_true ?_))
      rcases Bool.or_eq_true_iff.mp h with hlast | hbreak
      · have hlast : i = s.length := of_decide_eq_true hlast
        subst hlast
        rw [List.getElem?_append_right (Nat.le_refl _), Nat.sub_self,
          ← List.head?_eq_getElem?]
        exact hline rfl
      · have hbreak : s[i]? = some '\n' := of_decide_eq_true hbreak
        have hlt := (List.getElem?_eq_some_iff.mp hbreak).1
        exact (List.getElem?_append_left hlt).trans hbreak
  | other => cases hplain

theorem Follows.lt_length {s : List Char} {w : List Step} {i j : Nat}
    (hw : w.all Step.isLook = false) (h : Follows s w i j) :
    i < s.length := by
  induction w with
  | nil => cases hw
  | cons step w ih =>
      cases step with
      | look l => exact ih hw h.2.2
      | one holds =>
          obtain ⟨c, hc, -, -⟩ := h
          exact (List.getElem?_eq_some_iff.mp hc).1

/-- Before any text, which begins with a line break if the way looks for
lines. -/
theorem Follows.before {s after : List Char} {w : List Step} {i j : Nat}
    (hplain : w.all Step.plain = true) (hfree : reachesEnd w = false)
    (hline : w.all Step.ofText = true ∨ after.head? = some '\n')
    (h : Follows s w i j) : Follows (s ++ after) w i j := by
  induction w generalizing i with
  | nil =>
      obtain ⟨rfl, hi⟩ := h
      refine ⟨rfl, ?_⟩
      rw [List.length_append]
      omega
  | cons step w ih =>
      obtain ⟨hstep, hrest⟩ := Bool.and_eq_true_iff.mp hplain
      have hline' : w.all Step.ofText = true ∨ after.head? = some '\n' :=
        hline.imp_left fun h => (Bool.and_eq_true_iff.mp h).2
      cases step with
      | look l =>
          obtain ⟨hi, hl, hw⟩ := h
          refine ⟨?_, Look.holds_before hstep ?_ ?_ hl, ih hrest ?_ hline' hw⟩
          · rw [List.length_append]
            omega
          · cases l with
            | end_ =>
                exact .inr (hw.lt_length (Bool.or_eq_false_iff.mp hfree).1)
            | _ => exact .inl (by simp)
          · rintro rfl
            exact hline.resolve_left Bool.false_ne_true
          · cases l with
            | end_ => exact (Bool.or_eq_false_iff.mp hfree).2
            | _ => exact hfree
      | one holds =>
          obtain ⟨c, hc, hholds, hw⟩ := h
          have hlt := (List.getElem?_eq_some_iff.mp hc).1
          exact ⟨c, (List.getElem?_append_left hlt).trans hc, hholds,
            ih hrest hfree hline' hw⟩

/-- Some text begins no subject that the expression matches as a whole, and
some text ends none. -/
structure Selective (e : Re) : Prop where
  front : ∃ v, ∀ s, ¬ Whole e (v ++ s)
  back : ∃ v, ∀ s, ¬ Whole e (s ++ v)

/-- It takes no such character. -/
def Step.spares (c : Char) : Step → Bool
  | .look _ => true
  | .one holds => !holds c

theorem Follows.getElem?_ne {c : Char} {s : List Char} {w : List Step}
    {i j : Nat} (hw : w.all (Step.spares c) = true) (h : Follows s w i j)
    {k : Nat} (hi : i ≤ k) (hj : k < j) : s[k]? ≠ some c := by
  induction w generalizing i with
  | nil =>
      obtain ⟨rfl, -⟩ := h
      omega
  | cons step w ih =>
      obtain ⟨hstep, hrest⟩ := Bool.and_eq_true_iff.mp hw
      cases step with
      | look l => exact ih hrest h.2.2 hi
      | one holds =>
          obtain ⟨d, hd, hholds, hfollows⟩ := h
          rcases Nat.lt_or_eq_of_le hi with hlt | rfl
          · exact ih hrest hfollows hlt
          · intro hc
            obtain rfl := Option.some.inj (hd.symm.trans hc)
            rw [show Step.spares d (.one holds) = !holds d from rfl,
              hholds] at hstep
            cases hstep

/-- One character that the expression takes nowhere is enough. -/
theorem selective_of_spares {c : Char} {e : Re}
    (h : every (Step.spares c) e = true) : Selective e := by
  have hne : ∀ s, Whole e s → ∀ k, k < s.length → s[k]? ≠ some c := by
    intro s hwhole k hk
    obtain ⟨w, hw, hfollows⟩ := hwhole.exists_way
    exact hfollows.getElem?_ne (hw.all h) (Nat.zero_le k) hk
  constructor
  · refine ⟨[c], fun s hwhole => ?_⟩
    exact hne _ hwhole 0 (Nat.succ_pos _) rfl
  · refine ⟨[c], fun s hwhole => hne _ hwhole s.length ?_ ?_⟩
    · rw [List.length_append]
      exact Nat.lt_succ_self _
    · rw [List.getElem?_append_right (Nat.le_refl _), Nat.sub_self]
      rfl

/-- A selective expression matches whole subjects only by its anchors. -/
theorem anchoredWays_of_whole {e : Re} (hplain : plain e = true)
    (hselective : Selective e) (h : ∀ s, Occurs e s → Whole e s) :
    AnchoredWays e := by
  rintro w hw ⟨s, i, j, hfollows⟩
  have hsteps := hw.all hplain
  constructor
  · by_contra hloose
    obtain ⟨v, hv⟩ := hselective.front
    have hthere : Follows (v ++ ['\n'] ++ s) w _ _ :=
      hfollows.behind hsteps (.inl (Bool.eq_false_iff.mpr hloose))
        (.inr List.getLast?_concat)
    have hwhole := h _ ⟨_, _, hw.matches hthere⟩
    rw [List.append_assoc] at hwhole
    exact hv _ hwhole
  · by_contra hloose
    obtain ⟨v, hv⟩ := hselective.back
    have hthere : Follows (s ++ '\n' :: v) w i j :=
      hfollows.before hsteps (Bool.eq_false_iff.mpr hloose) (.inr rfl)
    have hwhole := h _ ⟨_, _, hw.matches hthere⟩
    rw [← List.singleton_append, ← List.append_assoc] at hwhole
    exact hv _ hwhole

/-! ## A core of the pattern syntax

Characters, escaped punctuation, `.`, `^` and `$`, groups, the flags `m` and
`s`, alternatives, `*`, `+` and `?`. A flag set in a group holds for what is
left of the group. -/

structure Flags where
  multiLine : Bool := false
  dotAll : Bool := false

/-- The characters that stand for themselves only behind a backslash. -/
def special : List Char :=
  ['\\', '.', '+', '*', '?', '(', ')', '|', '[', ']', '\x7b', '\x7d', '^',
    '$']

/-- The others that may be escaped. -/
def escapable : List Char := ['#', '&', '-', '~', '/']

/-- The letters of a flag group, and what ends it. -/
def parseFlags (on : Bool) (flags : Flags) :
    List Char → Option (Flags × List Char)
  | ')' :: cs => some (flags, ')' :: cs)
  | ':' :: cs => some (flags, ':' :: cs)
  | '-' :: cs => parseFlags false flags cs
  | 'm' :: cs => parseFlags on { flags with multiLine := on } cs
  | 's' :: cs => parseFlags on { flags with dotAll := on } cs
  | _ => none

/-- The repetition behind an atom. -/
def parseRepeat (e : Re) : List Char → Re × List Char
  | '*' :: cs => (.star e, cs)
  | '+' :: cs => (e.plus, cs)
  | '?' :: cs => (e.opt, cs)
  | cs => (e, cs)

/-- The rest of a group, behind what is parsed of its alternative. -/
def parseGroup : Nat → Flags → Re → List Char → Option (Re × List Char)
  | 0, _, _, _ => none
  | n + 1, flags, before, cs =>
      let atom (e : Re) (cs : List Char) : Option (Re × List Char) :=
        let (e, cs) := parseRepeat e cs
        parseGroup n flags (.seq before e) cs
      let inner (flags : Flags) (cs : List Char) : Option (Re × List Char) :=
        (parseGroup n flags .empty cs).bind fun (e, rest) =>
          match rest with
          | ')' :: rest => atom e rest
          | _ => none
      match cs with
      | [] => some (before, [])
      | ')' :: _ => some (before, cs)
      | '|' :: cs =>
          (parseGroup n flags .empty cs).map fun (other, rest) =>
            (.alt before other, rest)
      | '(' :: '?' :: cs =>
          (parseFlags true flags cs).bind fun (flags', rest) =>
            match rest with
            | ')' :: rest => parseGroup n flags' before rest
            | ':' :: rest => inner flags' rest
            | _ => none
      | '(' :: cs => inner flags cs
      | '^' :: cs =>
          atom (.look (if flags.multiLine then .startLine else .start)) cs
      | '$' :: cs =>
          atom (.look (if flags.multiLine then .endLine else .end_)) cs
      | '.' :: cs => atom (.one fun c => flags.dotAll || c ≠ '\n') cs
      | '\\' :: c :: cs =>
          if special.contains c || escapable.contains c then
            atom (.one (· = c)) cs
          else none
      | c :: cs =>
          if special.contains c then none else atom (.one (· = c)) cs

/-- The expression of a pattern of the core. -/
def parse (pattern : String) : Option Re :=
  match parseGroup (2 * pattern.toList.length + 1) {} .empty
      pattern.toList with
  | some (e, []) => some e
  | _ => none

end Regex
