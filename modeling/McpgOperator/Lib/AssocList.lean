import Mathlib.Tactic.Common

/-!
# Maps as lists of entries

A finite map is the list of its entries, read by `List.lookup`, which takes
the first entry of a key. Nothing here needs the keys to be distinct: `drop`
takes out every entry of its key, and `put` leaves one.
-/

namespace AssocList

variable {κ : Type*} [DecidableEq κ] {β : Type*}

/-- The map without the key. -/
def drop (key : κ) (m : List (κ × β)) : List (κ × β) :=
  m.filter fun e => e.1 ≠ key

/-- The map with the value at the key. -/
def put (key : κ) (value : β) (m : List (κ × β)) : List (κ × β) :=
  (key, value) :: drop key m

/-- The map with the value at the key, where the key has none yet. -/
def putNew (key : κ) (value : β) (m : List (κ × β)) : List (κ × β) :=
  if (m.lookup key).isSome then m else put key value m

@[simp] theorem lookup_drop_self (key : κ) (m : List (κ × β)) :
    List.lookup key (drop key m) = none := by
  rw [List.lookup_eq_none_iff]
  intro e he
  have hne : e.1 ≠ key := of_decide_eq_true (List.mem_filter.mp he).2
  exact bne_iff_ne.mpr (Ne.symm hne)

theorem drop_cons_self (key : κ) (value : β) (m : List (κ × β)) :
    drop key ((key, value) :: m) = drop key m := by
  simp [drop]

theorem drop_cons_ne {key k : κ} (h : k ≠ key) (value : β)
    (m : List (κ × β)) :
    drop key ((k, value) :: m) = (k, value) :: drop key m := by
  simp [drop, h]

theorem lookup_drop_ne {key other : κ} (h : other ≠ key)
    (m : List (κ × β)) :
    List.lookup other (drop key m) = List.lookup other m := by
  induction m with
  | nil => rfl
  | cons e m ih =>
      obtain ⟨k, x⟩ := e
      rcases eq_or_ne k key with rfl | hk
      · rw [drop_cons_self, ih, List.lookup_cons, beq_false_of_ne h]
      · rw [drop_cons_ne hk, List.lookup_cons, List.lookup_cons, ih]

@[simp] theorem lookup_put_self (key : κ) (value : β) (m : List (κ × β)) :
    List.lookup key (put key value m) = some value := by
  rw [put, List.lookup_cons_self]

theorem lookup_put_ne {key other : κ} (h : other ≠ key) (value : β)
    (m : List (κ × β)) :
    List.lookup other (put key value m) = List.lookup other m := by
  have hb : (other == key) = false := beq_eq_false_iff_ne.mpr h
  rw [put, List.lookup_cons, hb]
  exact lookup_drop_ne h m

theorem lookup_putNew_self (key : κ) (value : β) (m : List (κ × β)) :
    List.lookup key (putNew key value m) =
      some ((m.lookup key).getD value) := by
  unfold putNew
  cases hm : m.lookup key with
  | none => simp
  | some v => simpa using hm

theorem lookup_putNew_ne {key other : κ} (h : other ≠ key) (value : β)
    (m : List (κ × β)) :
    List.lookup other (putNew key value m) = List.lookup other m := by
  unfold putNew
  split
  · rfl
  · exact lookup_put_ne h value m

theorem lookup_eq_some_of_mem {m : List (κ × β)}
    (hm : (m.map Prod.fst).Nodup) {e : κ × β} (he : e ∈ m) :
    m.lookup e.1 = some e.2 := by
  induction m with
  | nil => exact absurd he List.not_mem_nil
  | cons e' m ih =>
      obtain ⟨hnotin, htail⟩ := List.nodup_cons.mp hm
      rcases List.mem_cons.mp he with rfl | he
      · exact List.lookup_cons_self
      · have hne : e.1 ≠ e'.1 := by
          intro heq
          exact hnotin (heq ▸ List.mem_map_of_mem he)
        rw [List.lookup_cons, beq_false_of_ne hne]
        exact ih htail he

end AssocList
