import Mathlib.Data.Finset.Basic

/-!
# Server-side apply

A live object is a value for each field that is set, with the managers that
own it. A forced apply of a document by a manager sets and takes over every
field the document gives, and gives up the fields it omits: one that the
manager owned alone disappears, one that others own stays with them. Fields
carry values of their own types.

For a manager that owns every field alone the rule collapses: what it applies
last is all there is.
-/

namespace Apply

variable {F M : Type*} {V : F → Type*}

/-- A partial assignment of values to fields. -/
abbrev Doc (V : F → Type*) := (f : F) → Option (V f)

/-- The live fields and their owners. -/
structure Live (M : Type*) (V : F → Type*) where
  value : Doc V
  owners : F → Finset M

/-- The document `doc`, owned by `m`. -/
def single (m : M) (doc : Doc V) : Live M V where
  value := doc
  owners f := if (doc f).isSome then {m} else ∅

/-- Nobody but `m` owns the field, and `m` does when it is set. -/
def OwnsAlone (m : M) (live : Live M V) (f : F) : Prop :=
  live.owners f ⊆ {m} ∧ (live.value f ≠ none → live.owners f = {m})

/-- Every set field is owned by `m` and nobody else; an unset one has no
other owner either. -/
def SoleOwner (m : M) (live : Live M V) : Prop :=
  ∀ f, live.owners f ⊆ {m} ∧ (live.value f ≠ none → live.owners f = {m})

theorem ownsAlone_single (m : M) (doc : Doc V) (f : F) :
    OwnsAlone m (single m doc) f := by
  cases h : doc f with
  | none => simp [OwnsAlone, single, h]
  | some v => simp [OwnsAlone, single, h]

/-- What one manager creates by its first apply. -/
theorem soleOwner_single (m : M) (doc : Doc V) :
    SoleOwner m (single m doc) :=
  ownsAlone_single m doc

variable [DecidableEq M] [∀ f, DecidableEq (V f)]

/-- A forced apply of `doc` by `m`. -/
def force (m : M) (doc : Doc V) (live : Live M V) : Live M V where
  value f :=
    match doc f with
    | some v => some v
    | none => if live.owners f = {m} then none else live.value f
  owners f :=
    match doc f with
    | some v =>
        -- owners that agree share the field; the others lose it
        if live.value f = some v then insert m (live.owners f) else {m}
    | none => (live.owners f).erase m

/-- A field the document gives has its value. -/
theorem force_value_of_some {m : M} {doc : Doc V} {f : F} {v : V f}
    (h : doc f = some v) (live : Live M V) :
    (force m doc live).value f = some v := by
  simp [force, h]

theorem force_value_of_ownsAlone {m : M} {live : Live M V} {f : F}
    (h : OwnsAlone m live f) (doc : Doc V) :
    (force m doc live).value f = doc f := by
  simp only [force]
  split
  · next v hv => exact hv.symm
  · next hnone =>
      rw [hnone]
      split
      · rfl
      · next hne =>
          by_contra hset
          exact hne (h.2 hset)

theorem ownsAlone_force {m : M} {live : Live M V} {f : F}
    (h : OwnsAlone m live f) (doc : Doc V) :
    OwnsAlone m (force m doc live) f := by
  unfold OwnsAlone
  rw [force_value_of_ownsAlone h doc]
  simp only [force]
  split
  · next v hv =>
      have howners : (if live.value f = some v then insert m (live.owners f)
          else {m}) = ({m} : Finset M) := by
        split
        · next hlive =>
            have hset : live.value f ≠ none := by simp [hlive]
            rw [h.2 hset, Finset.insert_eq_of_mem (by simp)]
        · rfl
      exact ⟨howners.le, fun _ => howners⟩
  · next hnone =>
      refine ⟨(Finset.erase_subset m _).trans h.1, fun hset => ?_⟩
      exact absurd hnone hset

theorem force_value_of_soleOwner {m : M} {live : Live M V}
    (h : SoleOwner m live) (doc : Doc V) :
    (force m doc live).value = doc :=
  funext fun f => force_value_of_ownsAlone (h f) doc

theorem soleOwner_force {m : M} {live : Live M V} (h : SoleOwner m live)
    (doc : Doc V) : SoleOwner m (force m doc live) :=
  fun f => ownsAlone_force (h f) doc

end Apply
