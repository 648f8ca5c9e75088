import McpgOperator.Lib.FailureCount
import McpgOperator.Text
import Mathlib.Algebra.Order.Field.Rat

/-!
# Exponential backoff

`backoff.rs`: a failure counter for each resource, and the delay before the
next attempt as a function of it. One map is shared by the controllers; what
keeps their counters apart is the key.
-/

namespace McpgOperator.Backoff

open McpgOperator.Text

def baseSecs : Nat := 5

def maxExponent : Nat := 6

def maxBackoffSecs : Nat := 300

/-- `u32::MAX`. -/
def u32Max : Nat := 2 ^ 32 - 1

abbrev BackoffMap := List (String × Nat)

namespace BackoffMap

/-- The new count comes with the map. -/
def recordError (m : BackoffMap) (key : String) : BackoffMap × Nat :=
  let entry := min ((m.lookup key).getD 0 + 1) u32Max
  (AssocList.put key entry m, entry)

def recordSuccess (m : BackoffMap) (key : String) : BackoffMap :=
  AssocList.drop key m

def count (m : BackoffMap) (key : String) : Nat := (m.lookup key).getD 0

end BackoffMap

/-- In seconds; `jitter` is the factor that is drawn, between 0.8 and
1.2. -/
def backoffForCount (jitter : ℚ) (count : Nat) : ℚ :=
  (min (baseSecs * 2 ^ min count maxExponent) maxBackoffSecs : Nat) * jitter

def BackoffMap.durationFor (jitter : ℚ) (m : BackoffMap) (key : String) : ℚ :=
  backoffForCount jitter (m.count key)

def resourceKey (controller namespace_ name : String) : String :=
  if namespace_.isEmpty then controller ++ "/" ++ name
  else controller ++ "/" ++ namespace_ ++ "/" ++ name

/-! ## Keys -/

/-- A part of a path, as the names in the API are. -/
def IsSegment (s : String) : Prop := '/' ∉ s.toList

theorem toList_resourceKey (controller namespace_ name : String) :
    (resourceKey controller namespace_ name).toList =
      controller.toList ++ '/' ::
        if namespace_.isEmpty then name.toList
        else namespace_.toList ++ '/' :: name.toList := by
  unfold resourceKey
  split
  · rw [String.toList_append, String.toList_append, List.append_assoc]
    rfl
  · simp only [String.toList_append, List.append_assoc]
    rfl

/-- A key tells what it was made of. -/
theorem resourceKey_inj {c c' ns ns' n n' : String}
    (hc : IsSegment c) (hc' : IsSegment c') (hns : IsSegment ns)
    (hns' : IsSegment ns') (hn : IsSegment n) (hn' : IsSegment n') :
    resourceKey c ns n = resourceKey c' ns' n' ↔
      c = c' ∧ ns = ns' ∧ n = n' := by
  refine ⟨fun h => ?_, ?_⟩
  · have htext := congrArg String.toList h
    rw [toList_resourceKey, toList_resourceKey] at htext
    have hsplit := congrArg (splitOnce '/') htext
    rw [splitOnce_append hc, splitOnce_append hc'] at hsplit
    obtain ⟨hcontroller, hrest⟩ := Prod.mk.inj (Option.some.inj hsplit)
    refine ⟨String.toList_inj.mp hcontroller, ?_⟩
    by_cases he : ns.isEmpty = true
    · by_cases he' : ns'.isEmpty = true
      · rw [if_pos he, if_pos he'] at hrest
        rw [String.isEmpty_iff.mp he, String.isEmpty_iff.mp he']
        exact ⟨rfl, String.toList_inj.mp hrest⟩
      · rw [if_pos he, if_neg he'] at hrest
        exact absurd (hrest ▸ List.mem_append_right _ List.mem_cons_self) hn
    · by_cases he' : ns'.isEmpty = true
      · rw [if_neg he, if_pos he'] at hrest
        exact absurd (hrest ▸ List.mem_append_right _ List.mem_cons_self) hn'
      · rw [if_neg he, if_neg he'] at hrest
        have hparts := congrArg (splitOnce '/') hrest
        rw [splitOnce_append hns, splitOnce_append hns'] at hparts
        obtain ⟨hnamespace, hname⟩ := Prod.mk.inj (Option.some.inj hparts)
        exact ⟨String.toList_inj.mp hnamespace, String.toList_inj.mp hname⟩
  · rintro ⟨rfl, rfl, rfl⟩
    rfl

end McpgOperator.Backoff
