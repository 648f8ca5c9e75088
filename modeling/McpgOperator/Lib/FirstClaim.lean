import Mathlib.Data.List.Basic
import Mathlib.Data.List.Nodup

/-!
# Claims in the order they are made

A loop goes through its items and takes each whose key is still free: not
taken when the loop began, and not by an item it took before. What it takes
has keys of its own, and whoever comes with a free key is in.
-/

namespace FirstClaim

variable {α κ : Type*} [DecidableEq κ]

/-- The items that get their key. -/
def claims (key : α → κ) (taken : List κ) : List α → List α
  | [] => []
  | a :: as =>
      if key a ∈ taken then claims key taken as
      else a :: claims key (taken ++ [key a]) as

section

variable {key : α → κ} {taken : List κ} {a : α} {as : List α}

theorem claims_cons_of_mem (h : key a ∈ taken) :
    claims key taken (a :: as) = claims key taken as := if_pos h

theorem claims_cons_of_free (h : key a ∉ taken) :
    claims key taken (a :: as) = a :: claims key (taken ++ [key a]) as :=
  if_neg h

/-- A later loop finds taken what an earlier one took. -/
theorem claims_append (as bs : List α) :
    claims key taken (as ++ bs) =
      claims key taken as ++
        claims key (taken ++ (claims key taken as).map key) bs := by
  induction as generalizing taken with
  | nil =>
      show claims key taken bs = claims key (taken ++ []) bs
      rw [List.append_nil]
  | cons a as ih =>
      rw [List.cons_append]
      by_cases h : key a ∈ taken
      · rw [claims_cons_of_mem h, claims_cons_of_mem h, ih]
      · rw [claims_cons_of_free h, claims_cons_of_free h, ih,
          List.cons_append, List.map_cons, List.append_assoc,
          List.singleton_append]

theorem claims_sublist (as : List α) :
    (claims key taken as).Sublist as := by
  induction as generalizing taken with
  | nil => exact List.Sublist.refl []
  | cons a as ih =>
      by_cases h : key a ∈ taken
      · rw [claims_cons_of_mem h]
        exact ih.trans (List.sublist_cons_self a as)
      · rw [claims_cons_of_free h]
        exact ih.cons_cons a

/-- The keys that go are those asked for that were free. -/
theorem mem_keys_iff {k : κ} :
    k ∈ (claims key taken as).map key ↔ k ∈ as.map key ∧ k ∉ taken := by
  induction as generalizing taken with
  | nil => simp [claims]
  | cons a as ih =>
      by_cases h : key a ∈ taken
      · rw [claims_cons_of_mem h, ih, List.map_cons, List.mem_cons]
        constructor
        · intro hk
          exact ⟨.inr hk.1, hk.2⟩
        · rintro ⟨rfl | hk, hfree⟩
          · exact absurd h hfree
          · exact ⟨hk, hfree⟩
      · rw [claims_cons_of_free h, List.map_cons, List.map_cons,
          List.mem_cons, List.mem_cons, ih, List.mem_append,
          List.mem_singleton, not_or]
        constructor
        · rintro (rfl | ⟨hk, hfree, -⟩)
          · exact ⟨.inl rfl, h⟩
          · exact ⟨.inr hk, hfree⟩
        · rintro ⟨rfl | hk, hfree⟩
          · exact .inl rfl
          · by_cases heq : k = key a
            · exact .inl heq
            · exact .inr ⟨hk, hfree, heq⟩

theorem claims_eq_nil (h : ∀ a ∈ as, key a ∈ taken) :
    claims key taken as = [] := by
  induction as with
  | nil => rfl
  | cons a as ih =>
      obtain ⟨hfirst, hrest⟩ := List.forall_mem_cons.mp h
      rw [claims_cons_of_mem hfirst]
      exact ih hrest

/-- Made again, the claims find their keys taken. -/
theorem claims_again :
    claims key (taken ++ (claims key taken as).map key) as = [] := by
  refine claims_eq_nil fun a ha => ?_
  rw [List.mem_append, mem_keys_iff]
  by_cases h : key a ∈ taken
  · exact .inl h
  · exact .inr ⟨List.mem_map_of_mem ha, h⟩

theorem nodup_claims (as : List α) :
    ((claims key taken as).map key).Nodup := by
  induction as generalizing taken with
  | nil => exact List.nodup_nil
  | cons a as ih =>
      by_cases h : key a ∈ taken
      · rw [claims_cons_of_mem h]
        exact ih
      · rw [claims_cons_of_free h, List.map_cons, List.nodup_cons]
        refine ⟨?_, ih⟩
        intro hmem
        exact (mem_keys_iff.mp hmem).2
          (List.mem_append_right _ List.mem_cons_self)

/-- Whoever gets a key finds it free, of those who got theirs before as
well. -/
theorem free_of_claims {before after : List α}
    (h : claims key taken as = before ++ a :: after) :
    key a ∉ taken ++ before.map key := by
  induction as generalizing taken before with
  | nil =>
      cases before <;> cases h
  | cons b as ih =>
      by_cases hb : key b ∈ taken
      · rw [claims_cons_of_mem hb] at h
        exact ih h
      · rw [claims_cons_of_free hb] at h
        cases before with
        | nil =>
            obtain ⟨rfl, -⟩ := List.cons.inj h
            rw [List.map_nil, List.append_nil]
            exact hb
        | cons c before =>
            obtain ⟨rfl, hrest⟩ := List.cons.inj h
            have hfree := ih hrest
            rw [List.append_assoc] at hfree
            exact hfree

/-- An item whose key is free when its turn comes. -/
theorem claims_split {before after : List α} (hfree : key a ∉ taken)
    (hfirst : ∀ b ∈ before, key b ≠ key a) :
    claims key taken (before ++ a :: after) =
      claims key taken before ++
        a :: claims key
          (taken ++ (claims key taken before).map key ++ [key a]) after := by
  rw [claims_append]
  refine congrArg _ (claims_cons_of_free ?_)
  rw [List.mem_append, mem_keys_iff, not_or]
  refine ⟨hfree, ?_⟩
  rintro ⟨hmem, -⟩
  obtain ⟨b, hb, heq⟩ := List.mem_map.mp hmem
  exact hfirst b hb heq

/-- It is the only one with that key. -/
theorem filter_claims {before after : List α} (hfree : key a ∉ taken)
    (hfirst : ∀ b ∈ before, key b ≠ key a) :
    (claims key taken (before ++ a :: after)).filter
      (fun b => key b = key a) = [a] := by
  have hearlier : (claims key taken before).filter
      (fun b => key b = key a) = [] := by
    rw [List.filter_eq_nil_iff]
    intro b hb
    rw [decide_eq_true_eq]
    exact hfirst b ((claims_sublist before).subset hb)
  have hlater : ∀ taken' : List κ, key a ∈ taken' →
      (claims key taken' after).filter (fun b => key b = key a) = [] := by
    intro taken' htaken
    rw [List.filter_eq_nil_iff]
    intro b hb heq
    have hkey : key b ∉ taken' :=
      (mem_keys_iff.mp (List.mem_map_of_mem hb)).2
    rw [of_decide_eq_true heq] at hkey
    exact hkey htaken
  rw [claims_split hfree hfirst, List.filter_append, hearlier,
    List.nil_append, List.filter_cons_of_pos (by simp),
    hlater _ (List.mem_append_right _ List.mem_cons_self)]

theorem claims_eq_filter (h : (as.map key).Nodup) :
    claims key taken as = as.filter fun a => key a ∉ taken := by
  induction as generalizing taken with
  | nil => rfl
  | cons a as ih =>
      obtain ⟨hfirst, hrest⟩ := List.nodup_cons.mp h
      by_cases ha : key a ∈ taken
      · rw [claims_cons_of_mem ha, ih hrest,
          List.filter_cons_of_neg (by simpa using ha)]
      · rw [claims_cons_of_free ha, ih hrest,
          List.filter_cons_of_pos (by simpa using ha)]
        refine congrArg _ (List.filter_congr fun b hb => ?_)
        have hne : key b ≠ key a := fun heq =>
          hfirst (heq ▸ List.mem_map_of_mem hb)
        simp [hne]

end

/-! ## The loop -/

/-- A loop whose state tells the keys taken in it. -/
theorem foldl_eq {σ : Type*} (key : α → κ) (keys : σ → List κ)
    (push : σ → α → σ) {step : σ → α → σ}
    (hskip : ∀ s a, key a ∈ keys s → step s a = s)
    (hpush : ∀ s a, key a ∉ keys s → step s a = push s a)
    (hkeys : ∀ s a, keys (push s a) = keys s ++ [key a])
    (as : List α) (s : σ) :
    as.foldl step s = (claims key (keys s) as).foldl push s := by
  induction as generalizing s with
  | nil => rfl
  | cons a as ih =>
      rw [List.foldl_cons]
      by_cases h : key a ∈ keys s
      · rw [hskip s a h, claims_cons_of_mem h]
        exact ih s
      · rw [hpush s a h, claims_cons_of_free h, ← hkeys s a]
        exact ih (push s a)

end FirstClaim
