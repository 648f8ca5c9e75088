import McpgOperator.Lib.AssocList

/-!
# Objects with owners

A store of objects, each with the owners it names, under writes that create
or replace an object and deletes by key. Garbage collection removes an object
once it has owners and all of them are gone; an object without owners is
never collected.

The rules below say which objects a run of writes leaves: those it created
and those that were there, but for the deleted ones.
-/

namespace Ownership

variable {K U : Type*} [DecidableEq K]

/-- The objects, by key, with their owners. -/
abbrev Objects (K U : Type*) := List (K × List U)

inductive Op (K U : Type*)
  | create (key : K) (owners : List U)
  | delete (key : K)
  deriving DecidableEq

/-- The object the write is about. -/
def Op.key : Op K U → K
  | .create key _ => key
  | .delete key => key

def Op.act (objs : Objects K U) : Op K U → Objects K U
  | .create key owners => AssocList.put key owners objs
  | .delete key => AssocList.drop key objs

def run (objs : Objects K U) (ops : List (Op K U)) : Objects K U :=
  ops.foldl Op.act objs

/-- The keys of the objects that are there. -/
def keys (objs : Objects K U) : List K := objs.map Prod.fst

@[simp] theorem run_nil (objs : Objects K U) : run objs [] = objs := rfl

@[simp] theorem run_cons (objs : Objects K U) (op : Op K U)
    (ops : List (Op K U)) :
    run objs (op :: ops) = run (op.act objs) ops := rfl

/-! ## What a run leaves -/

theorem mem_drop {key : K} {o : K × List U} {objs : Objects K U} :
    o ∈ AssocList.drop key objs ↔ o ∈ objs ∧ o.1 ≠ key := by
  simp [AssocList.drop, List.mem_filter]

/-- What holds of the objects that are there, and of each that is created,
holds of all a run leaves. -/
theorem forall_run {P : K × List U → Prop} {objs : Objects K U}
    {ops : List (Op K U)} (hobjs : ∀ o ∈ objs, P o)
    (hops : ∀ key owners, .create key owners ∈ ops → P (key, owners)) :
    ∀ o ∈ run objs ops, P o := by
  induction ops generalizing objs with
  | nil => exact hobjs
  | cons op ops ih =>
      refine ih ?_ fun key owners h => hops key owners (.tail _ h)
      intro o ho
      cases op with
      | create key owners =>
          rcases List.mem_cons.mp ho with rfl | ho
          · exact hops key owners List.mem_cons_self
          · exact hobjs o (mem_drop.mp ho).1
      | delete key => exact hobjs o (mem_drop.mp ho).1

/-- Deletes leave what none of them names. -/
theorem mem_run_deletes {objs : Objects K U} {keys : List K}
    {o : K × List U} :
    o ∈ run objs (keys.map .delete) ↔ o ∈ objs ∧ o.1 ∉ keys := by
  induction keys generalizing objs with
  | nil => simp
  | cons key keys ih =>
      rw [List.map_cons, run_cons, ih, Op.act, mem_drop, List.mem_cons,
        not_or, and_assoc]

theorem mem_keys_act {objs : Objects K U} {op : Op K U} {key : K} :
    key ∈ keys (op.act objs) ↔
      (∃ owners, op = .create key owners) ∨
        (key ∈ keys objs ∧ key ≠ op.key) := by
  cases op with
  | create k owners =>
      by_cases hkey : key = k
      · subst hkey
        simp [keys, Op.act, AssocList.put]
      · have hne : ∀ o, .create k owners ≠ (.create key o : Op K U) :=
          fun o h => hkey (Op.create.inj h).1.symm
        simp [keys, Op.act, Op.key, AssocList.put, AssocList.drop, hkey, hne]
  | delete k => simp [keys, Op.act, Op.key, AssocList.drop]

/-- A write settles whether its own object is there, and no other. -/
theorem mem_keys_act_congr {objs objs' : Objects K U} {op : Op K U}
    {key : K}
    (h : key = op.key ∨ (key ∈ keys objs ↔ key ∈ keys objs')) :
    key ∈ keys (op.act objs) ↔ key ∈ keys (op.act objs') := by
  rw [mem_keys_act, mem_keys_act]
  rcases h with hkey | h
  · simp [hkey]
  · rw [h]

/-- So does a run of the objects its writes are about. -/
theorem mem_keys_run_congr {objs objs' : Objects K U} {ops : List (Op K U)}
    {key : K}
    (h : (∃ op ∈ ops, op.key = key) ∨
      (key ∈ keys objs ↔ key ∈ keys objs')) :
    key ∈ keys (run objs ops) ↔ key ∈ keys (run objs' ops) := by
  induction ops generalizing objs objs' with
  | nil => exact h.resolve_left (by simp)
  | cons op ops ih =>
      refine ih ?_
      rcases h with ⟨named, hnamed, rfl⟩ | h
      · rcases List.mem_cons.mp hnamed with rfl | hrest
        · exact .inr (mem_keys_act_congr (.inl rfl))
        · exact .inl ⟨named, hrest, rfl⟩
      · exact .inr (mem_keys_act_congr (.inr h))

theorem mem_keys_run_of_not_named {objs : Objects K U}
    {ops : List (Op K U)} {key : K} (h : ¬ ∃ op ∈ ops, op.key = key) :
    key ∈ keys (run objs ops) ↔ key ∈ keys objs := by
  induction ops generalizing objs with
  | nil => rfl
  | cons op ops ih =>
      simp only [List.mem_cons, exists_eq_or_imp, not_or] at h
      obtain ⟨hop, hops⟩ := h
      have hcreate : ∀ owners, op ≠ .create key owners := by
        rintro owners rfl
        exact hop rfl
      rw [run_cons, ih hops, mem_keys_act]
      simp [hcreate, Ne.symm hop]

/-- Whether an object is there after a run depends on whether it was there
before, unless the run is about it. -/
theorem mem_keys_run_forgets_iff {objs : Objects K U} {ops : List (Op K U)}
    {key : K} :
    (key ∈ keys (run objs ops) ↔ key ∈ keys (run [] ops)) ↔
      (key ∈ keys objs → ∃ op ∈ ops, op.key = key) := by
  constructor
  · intro h hkey
    by_contra hnamed
    have hleft := h.mp ((mem_keys_run_of_not_named hnamed).mpr hkey)
    cases (mem_keys_run_of_not_named hnamed).mp hleft
  · intro h
    by_cases hkey : key ∈ keys objs
    · exact mem_keys_run_congr (.inl (h hkey))
    · exact mem_keys_run_congr (.inr ⟨fun hmem => absurd hmem hkey, nofun⟩)

/-- Nothing is left of creates only if there was nothing and nothing was
created. -/
theorem run_eq_nil_of_creates {objs : Objects K U} {ops : List (Op K U)}
    (h : ∀ op ∈ ops, ∃ key owners, op = .create key owners) :
    run objs ops = [] ↔ objs = [] ∧ ops = [] := by
  induction ops generalizing objs with
  | nil => simp
  | cons op ops ih =>
      obtain ⟨⟨key, owners, rfl⟩, hops⟩ := List.forall_mem_cons.mp h
      rw [run_cons, ih hops]
      simp [Op.act, AssocList.put]

/-! ## Garbage collection -/

/-- What is left once the owners of which `gone` says so are. -/
def survivors (gone : U → Bool) (objs : Objects K U) : Objects K U :=
  objs.filter fun o => o.2.isEmpty || o.2.any fun u => !gone u

omit [DecidableEq K] in
/-- Objects without owners survive whoever goes. -/
theorem survivors_of_unowned {gone : U → Bool} {objs : Objects K U}
    (h : ∀ o ∈ objs, o.2 = []) : survivors gone objs = objs := by
  refine List.filter_eq_self.mpr fun o ho => ?_
  rw [h o ho]
  rfl

end Ownership
