import Mathlib.Data.List.Chain
import Mathlib.Tactic.Common

/-!
# DNS-1123 names

A subdomain is labels with dots between them, and a label is lower-case letters,
digits and hyphens, with no hyphen at either end. Read from the front this is a
condition on neighbours: on either side of a dot stands a letter or a digit.
So a name can be cut and joined, and what has to be looked at are the
characters where it was.
-/

namespace DnsName

/-- `[a-z0-9]`. -/
def alnum (c : Char) : Bool :=
  ('a' ≤ c && c ≤ 'z') || ('0' ≤ c && c ≤ '9')

theorem alnum_iff {c : Char} :
    alnum c = true ↔ (97 ≤ c.toNat ∧ c.toNat ≤ 122) ∨
      (48 ≤ c.toNat ∧ c.toNat ≤ 57) := by
  simp only [alnum, Bool.or_eq_true, Bool.and_eq_true, decide_eq_true_eq]
  exact Iff.rfl

/-- `[a-z0-9]([-a-z0-9]*[a-z0-9])?`. -/
structure Label (cs : List Char) : Prop where
  front : ∃ c, cs.head? = some c ∧ alnum c = true
  back : ∃ c, cs.getLast? = some c ∧ alnum c = true
  chars : ∀ c ∈ cs, alnum c = true ∨ c = '-'

inductive Subdomain : List Char → Prop
  | label {l : List Char} (h : Label l) : Subdomain l
  | dot {l rest : List Char} (h : Label l) (hrest : Subdomain rest) :
      Subdomain (l ++ '.' :: rest)

/-- A name the apiserver takes. -/
def Valid (name : String) : Prop :=
  Subdomain name.toList ∧ name.length ≤ 253

/-! ## Neighbours -/

/-- No dot but between two letters or digits. -/
def Beside (a b : Char) : Prop :=
  (a = '.' → alnum b = true) ∧ (b = '.' → alnum a = true)

structure Spaced (cs : List Char) : Prop where
  front : ∃ c, cs.head? = some c ∧ alnum c = true
  back : ∃ c, cs.getLast? = some c ∧ alnum c = true
  chars : ∀ c ∈ cs, alnum c = true ∨ c = '-' ∨ c = '.'
  dots : cs.IsChain Beside

theorem not_alnum_dot : alnum '.' = false := by decide

theorem not_alnum_hyphen : alnum '-' = false := by decide

theorem ne_dot_of_alnum {c : Char} (h : alnum c = true) : c ≠ '.' := by
  intro heq
  rw [heq, not_alnum_dot] at h
  cases h

theorem Label.not_mem_dot {cs : List Char} (h : Label cs) : '.' ∉ cs := by
  intro hmem
  rcases h.chars '.' hmem with halnum | hhyphen
  · exact ne_dot_of_alnum halnum rfl
  · exact absurd hhyphen (by decide)

theorem isChain_of_not_mem_dot {cs : List Char} (h : '.' ∉ cs) :
    cs.IsChain Beside := by
  induction cs with
  | nil => exact .nil
  | cons c cs ih =>
      obtain ⟨hc, hcs⟩ := not_or.mp (mt List.mem_cons.mpr h)
      refine List.isChain_cons.mpr ⟨fun d hd => ⟨?_, ?_⟩, ih hcs⟩
      · intro heq
        exact absurd heq.symm hc
      · intro heq
        rw [heq] at hd
        exact absurd (List.mem_of_mem_head? hd) hcs

theorem Label.spaced {cs : List Char} (h : Label cs) : Spaced cs where
  front := h.front
  back := h.back
  chars c hc := (h.chars c hc).imp_right .inl
  dots := isChain_of_not_mem_dot h.not_mem_dot

/-- A dot between two names. -/
theorem Spaced.dot {a b : List Char} (ha : Spaced a) (hb : Spaced b) :
    Spaced (a ++ '.' :: b) := by
  obtain ⟨c, hc, hcalnum⟩ := ha.front
  obtain ⟨d, hd, hdalnum⟩ := ha.back
  obtain ⟨e, he, healnum⟩ := hb.front
  obtain ⟨f, hf, hfalnum⟩ := hb.back
  refine ⟨⟨c, ?_, hcalnum⟩, ⟨f, ?_, hfalnum⟩, ?_, ?_⟩
  · rw [List.head?_append, hc]
    rfl
  · rw [List.getLast?_append, List.getLast?_cons, hf]
    rfl
  · intro x hx
    rcases List.mem_append.mp hx with hx | hx
    · exact ha.chars x hx
    · rcases List.mem_cons.mp hx with rfl | hx
      · exact .inr (.inr rfl)
      · exact hb.chars x hx
  · refine List.isChain_append.mpr ⟨ha.dots, ?_, ?_⟩
    · refine List.isChain_cons.mpr ⟨fun x hx => ?_, hb.dots⟩
      rw [he] at hx
      cases hx
      exact ⟨fun _ => healnum,
        fun heq => absurd heq (ne_dot_of_alnum healnum)⟩
    · intro x hx y hy
      rw [hd] at hx
      cases hx
      exact ⟨fun heq => absurd heq (ne_dot_of_alnum hdalnum),
        fun _ => hdalnum⟩

theorem Subdomain.spaced {cs : List Char} (h : Subdomain cs) :
    Spaced cs := by
  induction h with
  | label h => exact h.spaced
  | dot h _ ih => exact h.spaced.dot ih

/-- What precedes the first dot is a label, and what follows a name. -/
theorem Spaced.split {a b : List Char} (h : Spaced (a ++ '.' :: b))
    (ha : '.' ∉ a) : Label a ∧ Spaced b := by
  obtain ⟨hadots, htail, hjoin⟩ := List.isChain_append.mp h.dots
  obtain ⟨hfirst, hbdots⟩ := List.isChain_cons.mp htail
  obtain ⟨c, hc, hcalnum⟩ := h.front
  obtain ⟨f, hf, hfalnum⟩ := h.back
  have hane : a ≠ [] := by
    rintro rfl
    cases hc
    exact ne_dot_of_alnum hcalnum rfl
  have hbne : b ≠ [] := by
    rintro rfl
    rw [List.getLast?_append, List.getLast?_singleton] at hf
    cases hf
    exact ne_dot_of_alnum hfalnum rfl
  obtain ⟨d, hd⟩ := Option.isSome_iff_exists.mp
    (List.getLast?_isSome.mpr hane)
  obtain ⟨e, he⟩ := Option.isSome_iff_exists.mp
    (List.isSome_head?.mpr hbne)
  constructor
  · refine ⟨⟨c, ?_, hcalnum⟩, ⟨d, hd, (hjoin d hd '.' rfl).2 rfl⟩, ?_⟩
    · rw [List.head?_append_of_ne_nil _ hane] at hc
      exact hc
    · intro x hx
      rcases h.chars x (List.mem_append_left _ hx) with halnum | hhyphen | hdot
      · exact .inl halnum
      · exact .inr hhyphen
      · exact absurd (hdot ▸ hx) ha
  · refine ⟨⟨e, he, (hfirst e he).1 rfl⟩, ⟨f, ?_, hfalnum⟩, ?_, hbdots⟩
    · rw [List.getLast?_append, List.getLast?_cons] at hf
      cases hlast : b.getLast? with
      | none => exact absurd (List.getLast?_eq_none_iff.mp hlast) hbne
      | some x =>
          rw [hlast] at hf
          exact hf
    · intro x hx
      exact h.chars x (List.mem_append_right _ (List.mem_cons_of_mem _ hx))

/-- The grammar and the condition on neighbours. -/
theorem subdomain_iff {cs : List Char} : Subdomain cs ↔ Spaced cs := by
  refine ⟨Subdomain.spaced, fun h => ?_⟩
  induction hn : cs.length using Nat.strong_induction_on generalizing cs with
  | _ n ih =>
      by_cases hdot : '.' ∈ cs
      · obtain ⟨a, b, rfl, ha⟩ := List.eq_append_cons_of_mem hdot
        obtain ⟨hlabel, hrest⟩ := h.split ha
        have hlength : b.length < n := by
          rw [← hn, List.length_append, List.length_cons]
          omega
        exact .dot hlabel (ih b.length hlength hrest rfl)
      · refine .label ⟨h.front, h.back, fun c hc => ?_⟩
        rcases h.chars c hc with halnum | hhyphen | heq
        · exact .inl halnum
        · exact .inr hhyphen
        · exact absurd (heq ▸ hc) hdot

instance (a b : Char) : Decidable (Beside a b) :=
  inferInstanceAs (Decidable
    ((a = '.' → alnum b = true) ∧ (b = '.' → alnum a = true)))

theorem spaced_iff {cs : List Char} :
    Spaced cs ↔ (cs.head?.any alnum = true ∧ cs.getLast?.any alnum = true) ∧
      (cs.all fun c => alnum c || c == '-' || c == '.') = true ∧
      cs.IsChain Beside := by
  have hchars : (cs.all fun c => alnum c || c == '-' || c == '.') = true ↔
      ∀ c ∈ cs, alnum c = true ∨ c = '-' ∨ c = '.' := by
    simp only [List.all_eq_true, Bool.or_eq_true, beq_iff_eq, or_assoc]
  rw [Option.any_eq_true, Option.any_eq_true, hchars]
  constructor
  · intro h
    exact ⟨⟨h.front, h.back⟩, h.chars, h.dots⟩
  · intro h
    exact ⟨h.1.1, h.1.2, h.2.1, h.2.2⟩

instance (cs : List Char) : Decidable (Subdomain cs) :=
  decidable_of_iff _ (subdomain_iff.trans spaced_iff).symm

instance (name : String) : Decidable (Valid name) :=
  inferInstanceAs (Decidable (_ ∧ _))

/-! ## Joining with a hyphen -/

/-- A hyphen may join any two texts, unless a dot stands beside it. -/
theorem isChain_hyphen {a b : List Char} :
    (a ++ '-' :: b).IsChain Beside ↔
      (a.IsChain Beside ∧ a.getLast? ≠ some '.') ∧
        b.IsChain Beside ∧ b.head? ≠ some '.' := by
  have hbefore : (∀ x ∈ a.getLast?, ∀ y ∈ ('-' :: b).head?, Beside x y) ↔
      a.getLast? ≠ some '.' := by
    constructor
    · intro h hdot
      have halnum := (h '.' hdot '-' rfl).1 rfl
      rw [not_alnum_hyphen] at halnum
      cases halnum
    · intro h x hx y hy
      cases hy
      refine ⟨fun heq => absurd (heq ▸ hx) h, fun heq => ?_⟩
      exact absurd heq (by decide)
  have hafter : (∀ y ∈ b.head?, Beside '-' y) ↔ b.head? ≠ some '.' := by
    constructor
    · intro h hdot
      have halnum := (h '.' hdot).2 rfl
      rw [not_alnum_hyphen] at halnum
      cases halnum
    · intro h y hy
      refine ⟨fun heq => absurd heq (by decide), fun heq => ?_⟩
      exact absurd (heq ▸ hy) h
  rw [List.isChain_append, List.isChain_cons, hbefore, hafter]
  tauto

theorem Subdomain.head?_ne_dot {cs : List Char} (h : Subdomain cs) :
    cs.head? ≠ some '.' := by
  obtain ⟨c, hc, halnum⟩ := h.spaced.front
  rw [hc]
  exact fun heq => ne_dot_of_alnum halnum (Option.some.inj heq)

theorem Subdomain.getLast?_ne_dot {cs : List Char} (h : Subdomain cs) :
    cs.getLast? ≠ some '.' := by
  obtain ⟨c, hc, halnum⟩ := h.spaced.back
  rw [hc]
  exact fun heq => ne_dot_of_alnum halnum (Option.some.inj heq)

theorem head?_of_alnum {cs : List Char}
    (h : ∀ c ∈ cs, alnum c = true) : cs.head? ≠ some '.' :=
  fun heq => ne_dot_of_alnum (h '.' (List.mem_of_mem_head? heq)) rfl

theorem isChain_of_alnum {cs : List Char}
    (h : ∀ c ∈ cs, alnum c = true) : cs.IsChain Beside :=
  isChain_of_not_mem_dot fun hmem => ne_dot_of_alnum (h '.' hmem) rfl

theorem getLast?_hyphen_of_alnum {a b : List Char}
    (h : ∀ c ∈ b, alnum c = true) :
    (a ++ '-' :: b).getLast? ≠ some '.' := by
  rw [List.getLast?_append, List.getLast?_cons]
  cases hb : b.getLast? with
  | none =>
      intro heq
      have hdot : '-' = '.' := Option.some.inj heq
      exact absurd hdot (by decide)
  | some c =>
      intro heq
      have hdot : c = '.' := Option.some.inj heq
      exact ne_dot_of_alnum (h c (List.mem_of_getLast? hb)) hdot

/-- A label, a text and an end joined with hyphens are a name when the text
ends in no dot and is spaced in itself. -/
theorem spaced_hyphens_iff {front a b : List Char} (hfront : Label front)
    (ha : a.head? ≠ some '.')
    (hachars : ∀ c ∈ a, alnum c = true ∨ c = '-' ∨ c = '.')
    (hb : ∀ c ∈ b, alnum c = true) (hbne : b ≠ []) :
    Spaced (front ++ '-' :: (a ++ '-' :: b)) ↔
      a.IsChain Beside ∧ a.getLast? ≠ some '.' := by
  constructor
  · intro h
    obtain ⟨-, hrest, -⟩ := isChain_hyphen.mp h.dots
    exact (isChain_hyphen.mp hrest).1
  · intro h
    obtain ⟨c, hc, hcalnum⟩ := hfront.front
    obtain ⟨d, hd⟩ := Option.isSome_iff_exists.mp
      (List.getLast?_isSome.mpr hbne)
    refine ⟨⟨c, ?_, hcalnum⟩,
      ⟨d, ?_, hb d (List.mem_of_getLast? hd)⟩, ?_, ?_⟩
    · rw [List.head?_append, hc]
      rfl
    · rw [List.getLast?_append, List.getLast?_cons, List.getLast?_append,
        List.getLast?_cons, hd]
      rfl
    · intro x hx
      simp only [List.mem_append, List.mem_cons] at hx
      rcases hx with hx | rfl | hx | rfl | hx
      · exact hfront.spaced.chars x hx
      · exact .inr (.inl rfl)
      · exact hachars x hx
      · exact .inr (.inl rfl)
      · exact .inl (hb x hx)
    · have hhead : (a ++ '-' :: b).head? ≠ some '.' := by
        cases a with
        | nil =>
            intro heq
            have hdot : '-' = '.' := Option.some.inj heq
            exact absurd hdot (by decide)
        | cons x a => exact ha
      have hfrontdots : front.IsChain Beside ∧ front.getLast? ≠ some '.' :=
        ⟨hfront.spaced.dots, (Subdomain.label hfront).getLast?_ne_dot⟩
      exact isChain_hyphen.mpr ⟨hfrontdots,
        isChain_hyphen.mpr ⟨h, isChain_of_alnum hb, head?_of_alnum hb⟩,
        hhead⟩

end DnsName
