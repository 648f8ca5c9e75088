import McpgOperator.Lib.AssocList
import Mathlib.Data.List.Induction

/-!
# Counting failures in a row

A counter for each key, raised by attempts that fail and dropped by attempts
that succeed. It is meant to be the number of failures since the last success.
It is that as long as every failure is counted, every success that follows a
failure drops the counter, and the failures in a row do not outgrow it.
-/

namespace FailureCount

variable {κ : Type*}

/-- How an attempt ends, and whether the counter is told. -/
inductive Ending
  | ok (dropped : Bool)
  | failed (raised : Bool)
  deriving DecidableEq, Repr

structure Attempt (κ : Type*) where
  key : κ
  ending : Ending

/-- `p` holds at every attempt for the key, of the attempts before it and of
itself. -/
def AtEach (key : κ) (p : List (Attempt κ) → Attempt κ → Prop)
    (as : List (Attempt κ)) : Prop :=
  ∀ before a after, as = before ++ a :: after → a.key = key → p before a

/-- What holds at each attempt holds at the last and at each before. -/
theorem atEach_append {key : κ} {as : List (Attempt κ)} {a : Attempt κ}
    {p : List (Attempt κ) → Attempt κ → Prop} :
    AtEach key p (as ++ [a]) ↔
      AtEach key p as ∧ (a.key = key → p as a) := by
  constructor
  · intro h
    refine ⟨fun before b after heq hb => ?_, fun ha => h as a [] rfl ha⟩
    refine h before b (after ++ [a]) ?_ hb
    rw [heq, List.append_assoc]
    rfl
  · rintro ⟨hrest, hlast⟩ before b after heq hb
    rcases List.eq_nil_or_concat after with rfl | ⟨init, c, hafter⟩
    · obtain ⟨rfl, hsingle⟩ := List.append_inj' heq rfl
      cases hsingle
      exact hlast hb
    · rw [List.concat_eq_append] at hafter
      rw [hafter, ← List.cons_append, ← List.append_assoc] at heq
      obtain ⟨hfront, -⟩ := List.append_inj' heq rfl
      exact hrest before b init hfront hb

/-- Attempts that are read off something else. -/
theorem atEach_map {β : Type*} {f : β → Attempt κ} {key : κ} {bs : List β}
    {p : List (Attempt κ) → Attempt κ → Prop} :
    AtEach key p (bs.map f) ↔
      ∀ before b after, bs = before ++ b :: after → (f b).key = key →
        p (before.map f) (f b) := by
  constructor
  · intro h before b after heq hb
    refine h (before.map f) (f b) (after.map f) ?_ hb
    rw [heq, List.map_append, List.map_cons]
  · intro h before a after heq ha
    obtain ⟨front, rest, rfl, rfl, hrest⟩ := List.map_eq_append_iff.mp heq
    obtain ⟨b, back, rfl, rfl, -⟩ := List.map_eq_cons_iff.mp hrest
    exact h front b back rfl ha

variable [DecidableEq κ]

/-! ## The counters -/

def count (m : List (κ × Nat)) (key : κ) : Nat := (m.lookup key).getD 0

/-- No counter goes beyond `top`. -/
def raise (top : Nat) (key : κ) (m : List (κ × Nat)) : List (κ × Nat) :=
  AssocList.put key (min (count m key + 1) top) m

def step (top : Nat) (m : List (κ × Nat)) (a : Attempt κ) :
    List (κ × Nat) :=
  match a.ending with
  | .ok true => AssocList.drop a.key m
  | .failed true => raise top a.key m
  | _ => m

def run (top : Nat) (as : List (Attempt κ)) : List (κ × Nat) :=
  as.foldl (step top) []

/-! ## What they are meant to be -/

/-- The failures since the last success, after one more attempt. -/
def tally (key : κ) (n : Nat) (a : Attempt κ) : Nat :=
  if a.key = key then
    match a.ending with
    | .ok _ => 0
    | .failed _ => n + 1
  else n

def failures (key : κ) (as : List (Attempt κ)) : Nat :=
  as.foldl (tally key) 0

/-- The counter of the key is what it is meant to be. -/
def Counts (top : Nat) (key : κ) (as : List (Attempt κ)) : Prop :=
  AtEach key (fun before a =>
    count (run top (before ++ [a])) key = failures key (before ++ [a])) as

/-- After `n` failures an attempt that ends like this is counted right. -/
def Ending.Right (top n : Nat) : Ending → Prop
  | .ok true => True
  | .ok false => n = 0
  | .failed true => n < top
  | .failed false => False

/-- No attempt for the key is counted wrong. -/
def Faithful (top : Nat) (key : κ) (as : List (Attempt κ)) : Prop :=
  AtEach key (fun before a => a.ending.Right top (failures key before)) as

section Append

variable {top : Nat} {key : κ} {as : List (Attempt κ)} {a : Attempt κ}

theorem run_append (top : Nat) (as : List (Attempt κ)) (a : Attempt κ) :
    run top (as ++ [a]) = step top (run top as) a := by
  unfold run
  rw [List.foldl_append]
  rfl

theorem failures_append (key : κ) (as : List (Attempt κ)) (a : Attempt κ) :
    failures key (as ++ [a]) = tally key (failures key as) a := by
  unfold failures
  rw [List.foldl_append]
  rfl

theorem count_raise (top : Nat) (key : κ) (m : List (κ × Nat)) :
    count (raise top key m) key = min (count m key + 1) top := by
  unfold raise
  rw [count, AssocList.lookup_put_self, Option.getD_some]

theorem count_drop (key : κ) (m : List (κ × Nat)) :
    count (AssocList.drop key m) key = 0 := by
  rw [count, AssocList.lookup_drop_self, Option.getD_none]

/-- An attempt for another key leaves the counter alone. -/
theorem count_step_ne (h : a.key ≠ key) (m : List (κ × Nat)) :
    count (step top m a) key = count m key := by
  unfold step count
  split
  · rw [AssocList.lookup_drop_ne (Ne.symm h)]
  · rw [raise, AssocList.lookup_put_ne (Ne.symm h)]
  · rfl

/-- One attempt, from a counter that is right. -/
theorem count_step_iff {m : List (κ × Nat)} {n : Nat} (hkey : a.key = key)
    (hn : count m key = n) :
    count (step top m a) key = tally key n a ↔ a.ending.Right top n := by
  subst hkey
  unfold step tally
  rw [if_pos rfl]
  rcases a.ending with (_ | _) | (_ | _)
  · exact hn ▸ Iff.rfl
  · exact iff_of_true (count_drop a.key m) trivial
  · show count m a.key = n + 1 ↔ False
    rw [hn, iff_false]
    omega
  · show count (raise top a.key m) a.key = n + 1 ↔ n < top
    rw [count_raise, hn]
    omega

end Append

/-! ## When they are -/

variable {top : Nat} {key : κ} {as : List (Attempt κ)}

theorem count_of_counts (h : Counts top key as) :
    count (run top as) key = failures key as := by
  induction as using List.reverseRecOn with
  | nil => rfl
  | append_singleton as a ih =>
      obtain ⟨hrest, hlast⟩ := atEach_append.mp h
      by_cases hkey : a.key = key
      · exact hlast hkey
      · have htally : tally key (failures key as) a = failures key as :=
          if_neg hkey
        rw [run_append, failures_append, count_step_ne hkey, ih hrest, htally]

/-- The counter of a key is right at each of its attempts exactly when each
of them is counted right. -/
theorem counts_iff : Counts top key as ↔ Faithful top key as := by
  induction as using List.reverseRecOn with
  | nil =>
      refine iff_of_true ?_ ?_
      · intro before a after heq
        simp at heq
      · intro before a after heq
        simp at heq
  | append_singleton as a ih =>
      unfold Counts Faithful
      rw [atEach_append, atEach_append]
      refine Iff.trans (and_congr_right fun hcounts => ?_)
        (and_congr_left' ih)
      refine forall_congr' fun hkey => ?_
      rw [run_append, failures_append]
      exact count_step_iff hkey (count_of_counts hcounts)

end FailureCount
