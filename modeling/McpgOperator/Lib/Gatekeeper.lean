import McpgOperator.Lib.Transition
import Mathlib.Logic.Function.Basic

/-!
# A store behind a check

Objects are stored under keys of their own. Every write is judged first, with
the object it replaces and with whatever else the judge may look at, which is
not known; an object may be dropped at any time.

The rule says what can be known of a store that was filled in this way: a
property that a write must have to be let in, given that the object it
replaces has it, is one of every object in the store.
-/

namespace Gatekeeper

open Transition

variable {ε κ ω : Type*}

structure Gate (ε κ ω : Type*) where
  key : ω → κ
  admits : ε → ω → Option ω → Bool

inductive Request (ε κ ω : Type*)
  | write (env : ε) (obj : ω)
  | drop (key : κ)

variable [DecidableEq κ]

def Gate.step (g : Gate ε κ ω) (store : κ → Option ω) :
    Request ε κ ω → Option (κ → Option ω)
  | .write env obj =>
      if g.admits env obj (store (g.key obj)) then
        some (Function.update store (g.key obj) (some obj))
      else none
  | .drop key => some (Function.update store key none)

def Gate.system (g : Gate ε κ ω) :
    System (κ → Option ω) (Request ε κ ω) where
  init store := store = fun _ => none
  step := g.step

theorem Gate.step_of_admits {g : Gate ε κ ω} {store : κ → Option ω}
    {env : ε} {obj : ω} (h : g.admits env obj (store (g.key obj)) = true) :
    g.step store (.write env obj) =
      some (Function.update store (g.key obj) (some obj)) := by
  simp only [Gate.step]
  rw [if_pos h]

theorem Gate.step_write {g : Gate ε κ ω} {store store' : κ → Option ω}
    {env : ε} {obj : ω} (h : g.step store (.write env obj) = some store') :
    g.admits env obj (store (g.key obj)) = true ∧
      store' = Function.update store (g.key obj) (some obj) := by
  simp only [Gate.step] at h
  split at h
  · next hadmits => exact ⟨hadmits, (Option.some.inj h).symm⟩
  · cases h

/-- A write that is let in over what is stored under its key. -/
theorem Gate.reachable_write {g : Gate ε κ ω}
    {ok : (κ → Option ω) → Request ε κ ω → Prop} {store : κ → Option ω}
    (h : Reachable g.system ok store) {env : ε} {obj : ω} {old : Option ω}
    (hadmits : g.admits env obj old = true)
    (hold : store (g.key obj) = old) (hok : ok store (.write env obj)) :
    Reachable g.system ok
      (Function.update store (g.key obj) (some obj)) := by
  subst hold
  exact .step h hok (Gate.step_of_admits hadmits)

/-- What a write has to have, every stored object has. -/
theorem Gate.stored {g : Gate ε κ ω}
    {ok : (κ → Option ω) → Request ε κ ω → Prop} {P : ω → Prop}
    (hwrite : ∀ store env obj, ok store (.write env obj) →
      (∀ old, store (g.key obj) = some old → P old) →
      g.admits env obj (store (g.key obj)) = true → P obj)
    {store : κ → Option ω} (h : Reachable g.system ok store) :
    ∀ key obj, store key = some obj → P obj := by
  induction h with
  | init hinit =>
      intro key obj hobj
      rw [hinit] at hobj
      cases hobj
  | @step store store' request hreach hok hstep ih =>
      intro key obj hobj
      cases request with
      | write env new =>
          obtain ⟨hadmits, rfl⟩ := Gate.step_write hstep
          by_cases hkey : key = g.key new
          · rw [hkey, Function.update_self] at hobj
            cases hobj
            exact hwrite store env obj hok (fun old hold => ih _ old hold)
              hadmits
          · rw [Function.update_of_ne hkey] at hobj
            exact ih key obj hobj
      | drop dropped =>
          obtain rfl : Function.update store dropped none = store' :=
            Option.some.inj hstep
          by_cases hkey : key = dropped
          · rw [hkey, Function.update_self] at hobj
            cases hobj
          · rw [Function.update_of_ne hkey] at hobj
            exact ih key obj hobj

end Gatekeeper
