import McpgOperator.JsonPath
import Mathlib.Data.List.Infix

/-!
# What overlays leave of a document

A program that overlays a document owns some paths in it, each a list of
keys, and writes nowhere else. A reader follows any JSON path, through
objects and arrays; off the owned paths it finds what it found before, as
long as the nodes on the way to an owned path are objects (or not there
yet). Nodes that had to be created on the way are objects as well.

`Overlaid` states this of the document as it was and as it is, and `write`
is the one rule by which an overlay extends it.
-/

namespace McpgOperator.Json

/-! ## JSON paths -/

/-- A member of an object, or an item of an array. -/
inductive Step
  | key (k : String)
  | index (i : Nat)
  deriving DecidableEq, Repr

def child (v : Json) : Step → Option Json
  | .key k => v.get k
  | .index i => v.asArray.bind (·[i]?)

/-- The value at a path. -/
def pointer : List Step → Json → Option Json
  | [], v => some v
  | s :: p, v => (v.child s).bind (pointer p)

/-- The path leaves the way to `owned`, by another key or by an index. -/
def Parts : List String → List Step → Prop
  | k :: owned, .key k' :: p => k ≠ k' ∨ Parts owned p
  | _ :: _, .index _ :: _ => True
  | _, _ => False

/-- The keys a path starts with, and the rest of it. -/
def leadingKeys : List Step → List String × List Step
  | .key k :: p => (k :: (leadingKeys p).1, (leadingKeys p).2)
  | p => ([], p)

theorem pointer_eq (p : List Step) (v : Json) :
    pointer p v =
      (getPath (leadingKeys p).1 v).bind (pointer (leadingKeys p).2) := by
  induction p generalizing v with
  | nil => rfl
  | cons s p ih =>
      cases s with
      | index i => rfl
      | key k =>
          show (v.get k).bind (pointer p) = _
          rw [leadingKeys, getPath_cons, Option.bind_assoc]
          congr 1
          funext x
          exact ih x

/-- A path that parts from the way to an owned one does so by a key, or at
an array. -/
theorem diverges_or_index {owned : List String} {p : List Step}
    (h : Parts owned p) :
    Diverges owned (leadingKeys p).1 ∨
      ((leadingKeys p).1 <+: owned ∧ (leadingKeys p).1 ≠ owned ∧
        ∃ i rest, (leadingKeys p).2 = .index i :: rest) := by
  induction owned generalizing p with
  | nil => exact h.elim
  | cons k owned ih =>
      cases p with
      | nil => exact h.elim
      | cons s p =>
          cases s with
          | index i =>
              exact .inr ⟨List.nil_prefix, nofun, i, p, rfl⟩
          | key k' =>
              by_cases hk : k = k'
              · subst hk
                rcases ih (h.resolve_left fun hne => hne rfl) with
                  hdiv | ⟨hpre, hne, hrest⟩
                · exact .inl (.inr hdiv)
                · refine .inr ⟨List.cons_prefix_cons.mpr ⟨rfl, hpre⟩, ?_, hrest⟩
                  exact fun heq => hne (List.cons.inj heq).2
              · exact .inl (.inl hk)

/-- Two paths part, or one is on the way to the other. -/
theorem diverges_or_prefix (p q : List String) :
    Diverges p q ∨ p <+: q ∨ (q <+: p ∧ q ≠ p) := by
  induction p generalizing q with
  | nil => exact .inr (.inl List.nil_prefix)
  | cons k p ih =>
      cases q with
      | nil => exact .inr (.inr ⟨List.nil_prefix, nofun⟩)
      | cons k' q =>
          by_cases hk : k = k'
          · subst hk
            rcases ih q with hdiv | hpre | ⟨hpre, hne⟩
            · exact .inl (.inr hdiv)
            · exact .inr (.inl (List.cons_prefix_cons.mpr ⟨rfl, hpre⟩))
            · refine .inr (.inr ⟨List.cons_prefix_cons.mpr ⟨rfl, hpre⟩, ?_⟩)
              exact fun heq => hne (List.cons.inj heq).2
          · exact .inl (.inl hk)

theorem not_diverges_of_prefix {p q : List String} (h : q <+: p) :
    ¬ Diverges p q := by
  induction p generalizing q with
  | nil => exact id
  | cons k p ih =>
      cases q with
      | nil => exact id
      | cons k' q =>
          obtain ⟨rfl, hrest⟩ := List.cons_prefix_cons.mp h
          exact fun hdiv => ih hrest (hdiv.resolve_left fun hne => hne rfl)

/-! ## Nodes on the way -/

/-- Nothing, or an object. -/
def Container (x : Option Json) : Prop := ∀ v, x = some v → ∃ m, v = .obj m

instance : (x : Option Json) → Decidable (Container x)
  | none => .isTrue fun _ h => nomatch h
  | some (.obj m) => .isTrue fun v h => ⟨m, (Option.some.inj h).symm⟩
  | some .null | some (.bool _) | some (.num _) | some (.str _)
  | some (.arr _) => .isFalse fun h => by
      obtain ⟨m, hm⟩ := h _ rfl
      cases hm

/-- `q` is on the way to `owned`, short of it. -/
def OnTheWay (q owned : List String) : Prop := q <+: owned ∧ q ≠ owned

/-- The nodes on the way to the owned paths are objects, those there are. -/
def Regular (owned : List (List String)) (v : Json) : Prop :=
  ∀ o ∈ owned, ∀ q, OnTheWay q o → Container (getPath q v)

theorem regular_iff {owned : List (List String)} {v : Json} :
    Regular owned v ↔
      ∀ o ∈ owned, ∀ q ∈ o.inits, q ≠ o → Container (getPath q v) := by
  unfold Regular OnTheWay
  simp only [List.mem_inits, and_imp]

instance (owned : List (List String)) (v : Json) :
    Decidable (Regular owned v) :=
  decidable_of_iff _ regular_iff.symm

/-- No owned path leads through another. -/
def PrefixFree (owned : List (List String)) : Prop :=
  ∀ o ∈ owned, ∀ o' ∈ owned, o <+: o' → o = o'

instance (owned : List (List String)) : Decidable (PrefixFree owned) :=
  inferInstanceAs (Decidable (∀ o ∈ owned, ∀ o' ∈ owned, o <+: o' → o = o'))

/-- Nothing can be read at an index of an object. -/
theorem pointer_index_of_container {x : Option Json} (h : Container x)
    (i : Nat) (rest : List Step) :
    x.bind (pointer (.index i :: rest)) = none := by
  cases x with
  | none => rfl
  | some v =>
      obtain ⟨m, rfl⟩ := h v rfl
      rfl

theorem container_ensurePath_of_onTheWay {p q : List String}
    (h : OnTheWay q p) (f : Json → Json) (v : Json) :
    ∃ m, getPath q (ensurePath p f v) = some (.obj m) := by
  obtain ⟨hpre, hne⟩ := h
  induction p generalizing q v with
  | nil => exact absurd (List.prefix_nil.mp hpre) hne
  | cons k p ih =>
      cases q with
      | nil => exact ⟨_, rfl⟩
      | cons k' q =>
          obtain ⟨rfl, hrest⟩ := List.cons_prefix_cons.mp hpre
          have hne' : q ≠ p := fun heq => hne (congrArg _ heq)
          obtain ⟨m, hm⟩ := ih ((v.get k').getD (.obj [])) hrest hne'
          refine ⟨m, ?_⟩
          rw [ensurePath, getPath_cons, get_update_self, Option.bind_some]
          exact hm

/-! ## Writing one member of the node at a path -/

theorem ensurePath_append (p q : List String) (f : Json → Json) (v : Json) :
    ensurePath (p ++ q) f v = ensurePath p (ensurePath q f) v := by
  induction p generalizing v with
  | nil => rfl
  | cons k p ih =>
      rw [List.cons_append, ensurePath, ensurePath]
      congr 1
      funext x
      exact ih _

/-- `f` touches no member but `k`, and makes an object of what is none. -/
structure Touches (k : String) (f : Json → Json) : Prop where
  keeps : ∀ q, Diverges [k] q → Keeps q f
  object : ∀ v, ∃ m, f v = .obj m

theorem touches_update (k : String) (g : Option Json → Json) :
    Touches k (update k g) where
  keeps _ h := keeps_update_of_diverges h g
  object _ := ⟨_, rfl⟩

theorem touches_set (k : String) (x : Json) : Touches k (set k x) :=
  touches_update k fun _ => x

theorem touches_ensurePath (k : String) (f : Json → Json) :
    Touches k (ensurePath [k] f) :=
  touches_update k fun x => f (x.getD (.obj []))

theorem touches_remove (k : String) : Touches k (remove k) where
  keeps q h v := by
    cases q with
    | nil => exact h.elim
    | cons k' q =>
        have hne : k ≠ k' := h.resolve_right id
        rw [getPath_cons, getPath_cons, get_remove_ne hne.symm]
  object _ := ⟨_, rfl⟩

theorem Touches.keeps_ensurePath {k : String} {f : Json → Json}
    (hf : Touches k f) {p q : List String} (h : Diverges (p ++ [k]) q) :
    Keeps q (ensurePath p f) := by
  induction p generalizing q with
  | nil => exact hf.keeps q h
  | cons k₀ p ih =>
      cases q with
      | nil => exact h.elim
      | cons k' q =>
          intro v
          by_cases hk : k' = k₀
          · subst hk
            have hrest : Diverges (p ++ [k]) q :=
              h.resolve_left fun hne => hne rfl
            rw [ensurePath, getPath_cons, get_update_self,
              Option.bind_some, ih hrest, getPath_cons]
            cases v.get k' with
            | some x => rfl
            | none => exact hrest.getPath_empty
          · exact keeps_update q hk _ v

/-- On the way to the member there are objects afterwards. -/
theorem Touches.object_of_onTheWay {k : String} {f : Json → Json}
    (hf : Touches k f) {p q : List String} (h : OnTheWay q (p ++ [k]))
    (v : Json) : ∃ m, getPath q (ensurePath p f v) = some (.obj m) := by
  obtain ⟨hpre, hne⟩ := h
  have hp : q <+: p := by
    rcases List.prefix_concat_iff.mp hpre with heq | hp
    · exact absurd heq hne
    · exact hp
  by_cases heq : q = p
  · subst heq
    obtain ⟨m, hm⟩ := hf.object ((getPath q v).getD (.obj []))
    exact ⟨m, by rw [getPath_ensurePath, hm]⟩
  · exact container_ensurePath_of_onTheWay ⟨hp, heq⟩ f v

/-! ## A document and its overlay -/

/-- `v` is what overlays that own `owned` have made of `base`. -/
structure Overlaid (owned : List (List String)) (base v : Json) : Prop where
  keeps : ∀ q, (∀ o ∈ owned, Diverges o q) → getPath q v = getPath q base
  regular : Regular owned v
  /-- An object on the way stays. -/
  stays : ∀ o ∈ owned, ∀ q, OnTheWay q o →
    getPath q v = none → getPath q base = none

namespace Overlaid

variable {owned : List (List String)} {base v : Json}

theorem refl (h : Regular owned base) : Overlaid owned base base :=
  ⟨fun _ _ => rfl, h, fun _ _ _ _ h => h⟩

/-- A write that changes nothing off the owned paths, and has objects on the
way to `p ++ [k]`, which is owned or on no way to an owned path. -/
theorem of_touches {k : String} {f : Json → Json} {p : List String}
    (h : Overlaid owned base v) (hf : Touches k f)
    (hfree : ∀ o ∈ owned, p ++ [k] <+: o → p ++ [k] = o)
    (hkeeps : ∀ q, (∀ o ∈ owned, Diverges o q) →
      getPath q (ensurePath p f v) = getPath q v) :
    Overlaid owned base (ensurePath p f v) where
  keeps q hq := (hkeeps q hq).trans (h.keeps q hq)
  regular o ho q hq := by
    rcases diverges_or_prefix (p ++ [k]) q with hdiv | hpre | hway
    · rw [hf.keeps_ensurePath hdiv v]
      exact h.regular o ho q hq
    · have heq := hfree o ho (hpre.trans hq.1)
      exact absurd (hq.1.eq_of_length_le (heq ▸ hpre.length_le)) hq.2
    · obtain ⟨m, hm⟩ := hf.object_of_onTheWay hway v
      intro x hx
      rw [hm] at hx
      exact ⟨m, (Option.some.inj hx).symm⟩
  stays o ho q hq hnone := by
    rcases diverges_or_prefix (p ++ [k]) q with hdiv | hpre | hway
    · rw [hf.keeps_ensurePath hdiv v] at hnone
      exact h.stays o ho q hq hnone
    · have heq := hfree o ho (hpre.trans hq.1)
      exact absurd (hq.1.eq_of_length_le (heq ▸ hpre.length_le)) hq.2
    · obtain ⟨m, hm⟩ := hf.object_of_onTheWay hway v
      rw [hm] at hnone
      cases hnone

/-- A write at an owned path. -/
theorem write {k : String} {f : Json → Json} {p : List String}
    (h : Overlaid owned base v) (hfree : PrefixFree owned)
    (ho : p ++ [k] ∈ owned) (hf : Touches k f) :
    Overlaid owned base (ensurePath p f v) :=
  h.of_touches hf (hfree _ ho)
    fun _ hq => hf.keeps_ensurePath (hq _ ho) v

/-- A write of the value at an owned path. -/
theorem writeAt {k : String} {p : List String} (f : Json → Json)
    (h : Overlaid owned base v) (hfree : PrefixFree owned)
    (ho : p ++ [k] ∈ owned) :
    Overlaid owned base (ensurePath (p ++ [k]) f v) := by
  rw [ensurePath_append]
  exact h.write hfree ho (touches_ensurePath k f)

/-- What a reader finds off the owned paths. -/
theorem pointer_eq_base (h : Overlaid owned base v)
    (hbase : Regular owned base) {p : List Step}
    (hp : ∀ o ∈ owned, Parts o p) : pointer p v = pointer p base := by
  rw [pointer_eq p v, pointer_eq p base]
  by_cases hdiv : ∀ o ∈ owned, Diverges o (leadingKeys p).1
  · rw [h.keeps _ hdiv]
  · -- the path indexes an object on the way to an owned path
    push Not at hdiv
    obtain ⟨o, ho, hnot⟩ := hdiv
    rcases diverges_or_index (hp o ho) with hd | ⟨hpre, hne, i, rest, hrest⟩
    · exact absurd hd hnot
    · rw [hrest,
        pointer_index_of_container (h.regular o ho _ ⟨hpre, hne⟩),
        pointer_index_of_container (hbase o ho _ ⟨hpre, hne⟩)]

end Overlaid

end McpgOperator.Json
