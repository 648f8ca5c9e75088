import Mathlib.Order.Lattice
import Mathlib.Data.List.Basic

/-!
# Maps as lists of entries in key order

A map that keeps its keys in order is the list of its entries, strictly
increasing in their keys. Reading it is `List.lookup`, and a search that goes
through it from the front finds the least key there is.
-/

namespace SortedMap

variable {κ : Type*} [LinearOrder κ] {β : Type*}

/-- The entries are in key order, with no key twice. -/
def Ordered (m : List (κ × β)) : Prop := m.Pairwise fun a b => a.1 < b.1

theorem eq_of_mem {m : List (κ × β)} (hm : Ordered m) {key : κ} {a b : β}
    (ha : (key, a) ∈ m) (hb : (key, b) ∈ m) : a = b := by
  induction m with
  | nil => exact absurd ha List.not_mem_nil
  | cons e m ih =>
      obtain ⟨hfirst, hrest⟩ := List.pairwise_cons.mp hm
      rcases List.mem_cons.mp ha with rfl | ha'
      · rcases List.mem_cons.mp hb with heq | hb'
        · exact (Prod.mk.inj heq).2.symm
        · exact absurd (hfirst _ hb') (lt_irrefl key)
      · rcases List.mem_cons.mp hb with rfl | hb'
        · exact absurd (hfirst _ ha') (lt_irrefl key)
        · exact ih hrest ha' hb'

theorem mem_of_lookup {m : List (κ × β)} {key : κ} {value : β}
    (h : m.lookup key = some value) : (key, value) ∈ m := by
  obtain ⟨before, after, rfl, -⟩ := List.lookup_eq_some_iff.mp h
  exact List.mem_append_right _ List.mem_cons_self

/-- The first entry found has the least key of those searched for. -/
theorem find?_le {m : List (κ × β)} (hm : Ordered m) {p : κ × β → Bool}
    {e : κ × β} (h : m.find? p = some e) {other : κ × β}
    (hmem : other ∈ m) (hp : p other = true) : e.1 ≤ other.1 := by
  obtain ⟨-, before, after, rfl, hbefore⟩ :=
    List.find?_eq_some_iff_append.mp h
  rcases List.mem_append.mp hmem with hmem | hmem
  · exact absurd hp (by simpa using hbefore other hmem)
  · rcases List.mem_cons.mp hmem with rfl | hmem
    · exact le_refl _
    · have hafter := (List.pairwise_append.mp hm).2.1
      exact le_of_lt ((List.pairwise_cons.mp hafter).1 other hmem)

end SortedMap
