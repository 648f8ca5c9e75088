import McpgOperator.Kube.Object
import Mathlib.Data.List.Nodup

/-!
# Reading conditions back

What a list of conditions says of a type once several conditions are set on
it, each of a type of its own: the conditions that were set, and the old ones
of the other types.
-/

namespace McpgOperator.Kube

/-- No two conditions are of one type. -/
def DistinctTypes (cs : List Condition) : Prop :=
  (cs.map (·.type)).Nodup

theorem mem_setAll_iff {api : ConditionsApi} {cs us : List Condition}
    (hus : DistinctTypes us) {c : Condition} :
    c ∈ api.setAll cs us ↔
      c ∈ us ∨ (c ∈ cs ∧ ∀ u ∈ us, c.type ≠ u.type) := by
  refine ⟨mem_setAll, ?_⟩
  induction us generalizing cs with
  | nil =>
      rintro (h | ⟨h, -⟩)
      · exact absurd h List.not_mem_nil
      · exact h
  | cons u us ih =>
      obtain ⟨hnew, hrest⟩ := List.nodup_cons.mp hus
      have hother : ∀ v ∈ us, u.type ≠ v.type := by
        intro v hv heq
        exact hnew (List.mem_map.mpr ⟨v, hv, heq.symm⟩)
      show _ → c ∈ api.setAll (api.setCondition cs u) us
      rintro (h | ⟨hcs, hne⟩)
      · rcases List.mem_cons.mp h with rfl | h
        · exact ih hrest
            (.inr ⟨(api.mem_setCondition cs c c).mpr (.inl rfl), hother⟩)
        · exact ih hrest (.inl h)
      · obtain ⟨hu, hus⟩ := List.forall_mem_cons.mp hne
        exact ih hrest
          (.inr ⟨(api.mem_setCondition cs u c).mpr (.inr ⟨hcs, hu⟩), hus⟩)

/-- Some condition of the type is True. -/
def saysTrue (type_ : String) (cs : List Condition) : Bool :=
  cs.any fun c => c.type == type_ && c.status == "True"

theorem saysTrue_iff {type_ : String} {cs : List Condition} :
    saysTrue type_ cs = true ↔
      ∃ c ∈ cs, c.type = type_ ∧ c.status = "True" := by
  simp [saysTrue]

/-- What was set is what is read. -/
theorem saysTrue_setAll {api : ConditionsApi} {cs us : List Condition}
    (hus : DistinctTypes us) {u : Condition} (hu : u ∈ us) :
    saysTrue u.type (api.setAll cs us) = (u.status == "True") := by
  rw [Bool.eq_iff_iff, saysTrue_iff, beq_iff_eq]
  constructor
  · rintro ⟨c, hmem, htype, hstatus⟩
    rcases (mem_setAll_iff hus).mp hmem with hc | ⟨-, hne⟩
    · rwa [← List.inj_on_of_nodup_map hus hc hu htype]
    · exact absurd htype (hne u hu)
  · intro hstatus
    exact ⟨u, (mem_setAll_iff hus).mpr (.inl hu), rfl, hstatus⟩

/-! ## The conditions of one type -/

/-- An upsert where there is a condition to set. -/
def ConditionsApi.setOptional (api : ConditionsApi) (cs : List Condition) :
    Option Condition → List Condition
  | none => cs
  | some c => api.setCondition cs c

/-- No condition is of the type. -/
def Absent (type_ : String) (cs : List Condition) : Prop :=
  ∀ c ∈ cs, c.type ≠ type_

/-- A condition of the type can only be this one. -/
def Carries (type_ : String) (outcome : Option Condition)
    (cs : List Condition) : Prop :=
  ∀ c ∈ cs, c.type = type_ → outcome = some c

theorem carries_none_iff {type_ : String} {cs : List Condition} :
    Carries type_ none cs ↔ Absent type_ cs := by
  constructor
  · intro h c hc htype
    cases h c hc htype
  · intro h c hc htype
    exact absurd htype (h c hc)

/-- Both lists hold the same conditions of the type. -/
def SameOfType (type_ : String) (cs cs' : List Condition) : Prop :=
  ∀ c, c.type = type_ → (c ∈ cs' ↔ c ∈ cs)

namespace SameOfType

variable {api : ConditionsApi} {type_ : String}
  {cs cs' cs'' : List Condition}

theorem refl (type_ : String) (cs : List Condition) :
    SameOfType type_ cs cs := fun _ _ => Iff.rfl

theorem trans (h : SameOfType type_ cs cs')
    (h' : SameOfType type_ cs' cs'') : SameOfType type_ cs cs'' :=
  fun c hc => (h' c hc).trans (h c hc)

theorem setCondition {u : Condition} (hu : u.type ≠ type_) :
    SameOfType type_ cs (api.setCondition cs u) := by
  intro c hc
  have hne : c.type ≠ u.type := fun h => hu (h.symm.trans hc)
  rw [api.mem_setCondition]
  constructor
  · rintro (rfl | ⟨hmem, -⟩)
    · exact absurd rfl hne
    · exact hmem
  · intro hmem
    exact .inr ⟨hmem, hne⟩

theorem setOptional {other : String} {o : Option Condition}
    (ho : ∀ u ∈ o, u.type = other) (hne : other ≠ type_) :
    SameOfType type_ cs (api.setOptional cs o) := by
  cases o with
  | none => exact refl type_ cs
  | some u =>
      refine setCondition ?_
      rw [ho u rfl]
      exact hne

theorem setAll {us : List Condition} (hus : ∀ u ∈ us, u.type ≠ type_) :
    SameOfType type_ cs (api.setAll cs us) := by
  induction us generalizing cs with
  | nil => exact refl type_ cs
  | cons u us ih =>
      obtain ⟨hu, hus⟩ := List.forall_mem_cons.mp hus
      exact (setCondition hu).trans (ih hus)

/-- `retain` of what is not of another type. -/
theorem filter {other : String} (hne : type_ ≠ other) :
    SameOfType type_ cs (cs.filter fun c => c.type ≠ other) := by
  intro c hc
  rw [List.mem_filter]
  refine and_iff_left (decide_eq_true ?_)
  rw [hc]
  exact hne

theorem saysTrue (h : SameOfType type_ cs cs') :
    saysTrue type_ cs' = saysTrue type_ cs := by
  rw [Bool.eq_iff_iff, saysTrue_iff, saysTrue_iff]
  constructor
  · rintro ⟨c, hmem, htype, hstatus⟩
    exact ⟨c, (h c htype).mp hmem, htype, hstatus⟩
  · rintro ⟨c, hmem, htype, hstatus⟩
    exact ⟨c, (h c htype).mpr hmem, htype, hstatus⟩

theorem carries (h : SameOfType type_ cs cs') {o : Option Condition} :
    Carries type_ o cs' ↔ Carries type_ o cs := by
  constructor
  · intro hcarries c hc htype
    exact hcarries c ((h c htype).mpr hc) htype
  · intro hcarries c hc htype
    exact hcarries c ((h c htype).mp hc) htype

theorem absent (h : SameOfType type_ cs cs') :
    Absent type_ cs' ↔ Absent type_ cs := by
  rw [← carries_none_iff, ← carries_none_iff]
  exact h.carries

end SameOfType

theorem saysTrue_setCondition {api : ConditionsApi} (cs : List Condition)
    (u : Condition) :
    saysTrue u.type (api.setCondition cs u) = (u.status == "True") := by
  have hdistinct : DistinctTypes [u] := List.nodup_singleton u.type
  have hset : saysTrue u.type (api.setAll cs [u]) = (u.status == "True") :=
    saysTrue_setAll hdistinct (List.mem_singleton_self u)
  exact hset

theorem carries_setCondition {api : ConditionsApi} (cs : List Condition)
    (u : Condition) : Carries u.type (some u) (api.setCondition cs u) := by
  intro c hc htype
  rcases (api.mem_setCondition cs u c).mp hc with rfl | ⟨-, hne⟩
  · rfl
  · exact absurd htype hne

/-- What is set where there is something to set is right unless an old
condition of the type stays behind. -/
theorem carries_setOptional_iff {api : ConditionsApi} {type_ : String}
    {o : Option Condition} (ho : ∀ u ∈ o, u.type = type_)
    {cs : List Condition} :
    Carries type_ o (api.setOptional cs o) ↔
      (o = none → Absent type_ cs) := by
  cases o with
  | none =>
      have hold : Carries type_ none (api.setOptional cs none) ↔
          Absent type_ cs := carries_none_iff
      rw [hold]
      exact ⟨fun h _ => h, fun h => h rfl⟩
  | some u =>
      obtain rfl := ho u rfl
      refine iff_of_true (carries_setCondition cs u) ?_
      intro h
      cases h

end McpgOperator.Kube
