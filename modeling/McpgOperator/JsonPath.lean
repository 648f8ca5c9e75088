import McpgOperator.Json
import McpgOperator.Lib.AssocList
import Mathlib.Data.String.Basic
import Mathlib.Tactic.Common

/-!
# Writing under a path

The renderers write into a JSON document by walking a path and replacing
whatever is in the way by an object. `update` is one step of such a walk,
`ensurePath` the whole of it. What a write at one path leaves alone is any
path that branches off from it (`Diverges`), whatever the document looked
like: where the walk replaced a value that was no object, nothing could be
read below it either.

`Keeps` states this of a whole transformation of the document, and composes.
-/

namespace McpgOperator.Json

/-! ## One step -/

/-- The fields of an object; of anything else, those of the `{}` that
replaces it. -/
def fields : Json → JsonMap
  | .obj fields => fields
  | _ => []

/-- Replace the value under `key`, which may be absent. -/
def update (key : String) (f : Option Json → Json) (v : Json) : Json :=
  .obj (JsonMap.insert v.fields key (f (v.get key)))

/-- `insert` into the value as an object. -/
def set (key : String) (x : Json) (v : Json) : Json :=
  v.update key fun _ => x

/-- `remove` from the value as an object. -/
def remove (key : String) (v : Json) : Json :=
  .obj (v.fields.filter fun f => f.1 ≠ key)

theorem get_eq_lookup (v : Json) (key : String) :
    v.get key = List.lookup key v.fields := by
  cases v <;> rfl

@[simp] theorem get_obj (m : JsonMap) (key : String) :
    (Json.obj m).get key = List.lookup key m := rfl

theorem get_update_self (key : String) (f : Option Json → Json) (v : Json) :
    (v.update key f).get key = some (f (v.get key)) :=
  JsonMap.lookup_insert_self _ _ _

theorem get_update_ne {key other : String} (h : other ≠ key)
    (f : Option Json → Json) (v : Json) :
    (v.update key f).get other = v.get other := by
  rw [update, get_obj, JsonMap.lookup_insert_ne h, get_eq_lookup]

theorem get_set_self (key : String) (x v : Json) :
    (set key x v).get key = some x :=
  get_update_self key _ v

theorem get_set_ne {key other : String} (h : other ≠ key) (x v : Json) :
    (set key x v).get other = v.get other :=
  get_update_ne h _ v

theorem get_remove_self (key : String) (v : Json) :
    (v.remove key).get key = none :=
  AssocList.lookup_drop_self key v.fields

theorem get_remove_ne {key other : String} (h : other ≠ key) (v : Json) :
    (v.remove key).get other = v.get other := by
  rw [get_eq_lookup v, ← AssocList.lookup_drop_ne h v.fields]
  rfl

/-! ## The walk -/

/-- `ensure_path`, with what the caller does to the leaf. -/
def ensurePath : List String → (Json → Json) → Json → Json
  | [], f, v => f v
  | key :: path, f, v =>
      v.update key fun x => ensurePath path f (x.getD (.obj []))

theorem getPath_cons (key : String) (path : List String) (v : Json) :
    getPath (key :: path) v = (v.get key).bind (getPath path) := rfl

theorem getPath_append (p q : List String) (v : Json) :
    getPath (p ++ q) v = (getPath p v).bind (getPath q) := by
  induction p generalizing v with
  | nil => rfl
  | cons key p ih =>
      rw [List.cons_append, getPath_cons, getPath_cons, Option.bind_assoc]
      congr 1
      funext x
      exact ih x

/-- The leaf is what the caller made of the value that was there, or of the
`{}` put in its place. -/
theorem getPath_ensurePath (path : List String) (f : Json → Json)
    (v : Json) :
    getPath path (ensurePath path f v) =
      some (f ((getPath path v).getD (.obj []))) := by
  induction path generalizing v with
  | nil => rfl
  | cons key path ih =>
      rw [ensurePath, getPath_cons, get_update_self, Option.bind_some, ih,
        getPath_cons]
      cases v.get key with
      | some x => rfl
      | none => cases path <;> rfl

theorem getPath_singleton (key : String) (v : Json) :
    getPath [key] v = v.get key := by
  rw [getPath_cons]
  cases v.get key <;> rfl

theorem getPath_ensurePath_key (path : List String) (key : String)
    (f : Json → Json) (v : Json) :
    getPath (path ++ [key]) (ensurePath path f v) =
      (f ((getPath path v).getD (.obj []))).get key := by
  rw [getPath_append, getPath_ensurePath, Option.bind_some,
    getPath_singleton]

/-- The two paths part, each with a step of its own. -/
def Diverges : List String → List String → Prop
  | k :: p, k' :: q => k ≠ k' ∨ Diverges p q
  | _, _ => False

instance : ∀ p q, Decidable (Diverges p q)
  | k :: p, k' :: q =>
      have := instDecidableDiverges p q
      inferInstanceAs (Decidable (k ≠ k' ∨ Diverges p q))
  | [], _ => .isFalse id
  | _ :: _, [] => .isFalse id

theorem Diverges.of_ne {k k' : String} {p q : List String} (h : k ≠ k') :
    Diverges (k :: p) (k' :: q) := .inl h

/-- Paths that have parted stay so. -/
theorem Diverges.append {p q : List String} (h : Diverges p q)
    (r : List String) : Diverges (p ++ r) q := by
  induction p generalizing q with
  | nil => exact h.elim
  | cons k p ih =>
      cases q with
      | nil => exact h.elim
      | cons k' q => exact h.imp_right ih

/-- Nothing can be read below `{}` on a path that goes on. -/
theorem Diverges.getPath_empty {p q : List String} (h : Diverges p q) :
    getPath q (.obj []) = none := by
  cases p with
  | nil => exact h.elim
  | cons k p =>
      cases q with
      | nil => exact h.elim
      | cons k' q => rfl

/-! ## What a transformation keeps -/

/-- The transformation does not change what `path` reads. -/
def Keeps (path : List String) (f : Json → Json) : Prop :=
  ∀ v, getPath path (f v) = getPath path v

theorem keeps_id (path : List String) : Keeps path id := fun _ => rfl

theorem Keeps.comp {path : List String} {f g : Json → Json}
    (hf : Keeps path f) (hg : Keeps path g) :
    Keeps path fun v => g (f v) :=
  fun v => (hg (f v)).trans (hf v)

theorem keeps_foldl {α : Type} {path : List String}
    {f : Json → α → Json} (h : ∀ a, Keeps path fun v => f v a)
    (items : List α) : Keeps path fun v => items.foldl f v := by
  induction items with
  | nil => exact keeps_id path
  | cons a items ih => exact (h a).comp ih

theorem keeps_update {key k : String} (path : List String) (h : k ≠ key)
    (f : Option Json → Json) : Keeps (k :: path) (update key f) := by
  intro v
  rw [getPath_cons, getPath_cons, get_update_ne h]

theorem keeps_update_of_diverges {key : String} {path : List String}
    (h : Diverges [key] path) (f : Option Json → Json) :
    Keeps path (update key f) := by
  cases path with
  | nil => exact h.elim
  | cons k path =>
      have hne : key ≠ k := h.resolve_right id
      exact keeps_update path hne.symm f

theorem keeps_set_of_diverges {key : String} {path : List String}
    (h : Diverges [key] path) (x : Json) : Keeps path (set key x) :=
  keeps_update_of_diverges h _

theorem keeps_ensurePath {p q : List String} (h : Diverges p q)
    (f : Json → Json) : Keeps q (ensurePath p f) := by
  induction p generalizing q with
  | nil => exact h.elim
  | cons k p ih =>
      cases q with
      | nil => exact h.elim
      | cons k' q =>
          intro v
          by_cases hk : k' = k
          · subst hk
            have hrest : Diverges p q := h.resolve_left fun hne => hne rfl
            rw [ensurePath, getPath_cons, get_update_self,
              Option.bind_some, ih hrest, getPath_cons]
            cases v.get k' with
            | some x => rfl
            | none => exact hrest.getPath_empty
          · exact keeps_update q hk _ v

/-! ## Writing what is there -/

theorem insert_insert (m : JsonMap) (key : String) (x y : Json) :
    (m.insert key x).insert key y = m.insert key y := by
  induction m with
  | nil => simp [JsonMap.insert]
  | cons p m ih =>
      obtain ⟨k, z⟩ := p
      by_cases heq : key = k
      · simp [JsonMap.insert, heq]
      · by_cases hlt : key < k
        · simp [JsonMap.insert, heq, hlt]
        · simp [JsonMap.insert, heq, hlt, ih]

/-- The keys of a map are sorted, as serde_json keeps them. -/
def SortedKeys (m : JsonMap) : Prop := m.Pairwise fun a b => a.1 < b.1

theorem SortedKeys.insert {m : JsonMap} (h : SortedKeys m) (key : String)
    (x : Json) : SortedKeys (m.insert key x) := by
  have hmem : ∀ m : JsonMap, ∀ f ∈ m.insert key x, f.1 = key ∨ f ∈ m := by
    intro m
    induction m with
    | nil => simp [JsonMap.insert]
    | cons p m ih =>
        obtain ⟨k, z⟩ := p
        intro f hf
        unfold JsonMap.insert at hf
        split at hf
        · rcases List.mem_cons.mp hf with rfl | hf
          · exact .inl rfl
          · exact .inr (List.mem_cons_of_mem _ hf)
        · split at hf
          · rcases List.mem_cons.mp hf with rfl | hf
            · exact .inl rfl
            · exact .inr hf
          · rcases List.mem_cons.mp hf with rfl | hf
            · exact .inr List.mem_cons_self
            · exact (ih f hf).imp_right (List.mem_cons_of_mem _)
  induction m with
  | nil => exact List.pairwise_singleton _ _
  | cons p m ih =>
      obtain ⟨k, z⟩ := p
      obtain ⟨hhead, htail⟩ := List.pairwise_cons.mp h
      unfold JsonMap.insert
      split
      · next heq =>
          rw [heq]
          exact List.pairwise_cons.mpr ⟨hhead, htail⟩
      · next hne =>
          split
          · next hlt =>
              refine List.pairwise_cons.mpr ⟨fun f hf => ?_, h⟩
              rcases List.mem_cons.mp hf with rfl | hf
              · exact hlt
              · exact lt_trans hlt (hhead f hf)
          · next hlt =>
              refine List.pairwise_cons.mpr ⟨fun f hf => ?_, ih htail⟩
              rcases hmem m f hf with hkey | hf
              · rw [hkey]
                exact lt_of_le_of_ne (not_lt.mp hlt) (Ne.symm hne)
              · exact hhead f hf

theorem SortedKeys.insert_self {m : JsonMap} (h : SortedKeys m)
    {key : String} {x : Json} (hx : List.lookup key m = some x) :
    m.insert key x = m := by
  induction m with
  | nil => cases hx
  | cons p m ih =>
      obtain ⟨k, z⟩ := p
      obtain ⟨hhead, htail⟩ := List.pairwise_cons.mp h
      rw [List.lookup_cons] at hx
      unfold JsonMap.insert
      by_cases heq : key = k
      · rw [heq, beq_self_eq_true] at hx
        cases hx
        rw [if_pos heq, heq]
      · rw [beq_eq_false_iff_ne.mpr heq] at hx
        have hlt : ¬ key < k := by
          obtain ⟨f, hf, hkey⟩ : ∃ f ∈ m, f.1 = key := by
            by_contra hnone
            push Not at hnone
            have := List.lookup_eq_none_iff.mpr fun f hf =>
              bne_iff_ne.mpr (Ne.symm (hnone f hf))
            rw [this] at hx
            cases hx
          rw [← hkey]
          exact lt_asymm (hhead f hf)
        rw [if_neg heq, if_neg hlt, ih htail hx]

theorem insert_cons_self (m : JsonMap) (key : String) (x y : Json) :
    JsonMap.insert ((key, x) :: m) key y = (key, y) :: m := if_pos rfl

theorem insert_cons_lt {key k : String} (h : key < k) (m : JsonMap)
    (x y : Json) :
    JsonMap.insert ((k, x) :: m) key y = (key, y) :: (k, x) :: m := by
  unfold JsonMap.insert
  rw [if_neg h.ne, if_pos h]

theorem insert_cons_gt {key k : String} (h : k < key) (m : JsonMap)
    (x y : Json) :
    JsonMap.insert ((k, x) :: m) key y = (k, x) :: m.insert key y := by
  conv_lhs => unfold JsonMap.insert
  rw [if_neg h.ne', if_neg (lt_asymm h)]

/-- A key that stands where a write of it goes does so after another
write. -/
theorem insert_of_fixed {m : JsonMap} {key other : String} {x y : Json}
    (h : m.insert key x = m) (hne : other ≠ key) :
    (m.insert other y).insert key x = m.insert other y := by
  induction m with
  | nil => cases h
  | cons p m ih =>
      obtain ⟨k, z⟩ := p
      rcases lt_trichotomy key k with hlt | rfl | hgt
      · -- the write would add a field
        rw [insert_cons_lt hlt] at h
        have hlength := congrArg List.length h
        rw [List.length_cons] at hlength
        omega
      · rw [insert_cons_self] at h
        obtain ⟨hx, -⟩ := List.cons.inj h
        rw [← hx]
        rcases lt_or_gt_of_ne hne with hbefore | hafter
        · rw [insert_cons_lt hbefore, insert_cons_gt hbefore,
            insert_cons_self]
        · rw [insert_cons_gt hafter, insert_cons_self]
      · rw [insert_cons_gt hgt] at h
        obtain ⟨-, hrest⟩ := List.cons.inj h
        rcases lt_trichotomy other k with hbefore | rfl | hafter
        · rw [insert_cons_lt hbefore, insert_cons_gt (hbefore.trans hgt),
            insert_cons_gt hgt, hrest]
        · rw [insert_cons_self, insert_cons_gt hgt, hrest]
        · rw [insert_cons_gt hafter, insert_cons_gt hgt, ih hrest]

/-- The value under the key stands where a write of the key goes. -/
def Settled (key : String) (v : Json) : Prop :=
  ∃ x, v.get key = some x ∧ set key x v = v

theorem settled_update (key : String) (f : Option Json → Json) (v : Json) :
    Settled key (update key f v) :=
  ⟨_, get_update_self key f v, congrArg obj (insert_insert _ _ _ _)⟩

theorem Settled.update {key : String} {v : Json} (h : Settled key v)
    (other : String) (f : Option Json → Json) :
    Settled key (update other f v) := by
  by_cases heq : other = key
  · subst heq
    exact settled_update _ _ _
  · obtain ⟨x, hx, hset⟩ := h
    refine ⟨x, by rw [get_update_ne (Ne.symm heq), hx], ?_⟩
    cases v with
    | obj m => exact congrArg obj (insert_of_fixed (obj.inj hset) heq)
    | _ => cases hx

/-- A write of what is there. -/
theorem Settled.update_self {key : String} {v : Json} (h : Settled key v)
    {f : Option Json → Json} (hf : ∀ x, v.get key = some x → f (some x) = x) :
    Json.update key f v = v := by
  obtain ⟨x, hx, hset⟩ := h
  unfold Json.update
  rw [hx, hf x hx]
  exact hset

/-- Only what the caller makes of the leaf matters. -/
theorem ensurePath_congr {path : List String} {f g : Json → Json}
    {v : Json} (h : f ((getPath path v).getD (.obj [])) =
      g ((getPath path v).getD (.obj []))) :
    ensurePath path f v = ensurePath path g v := by
  induction path generalizing v with
  | nil => exact h
  | cons key path ih =>
      unfold ensurePath update
      congr 2
      refine ih ?_
      cases hkey : v.get key with
      | some x =>
          rw [getPath_cons, hkey] at h
          exact h
      | none =>
          rw [getPath_cons, hkey] at h
          cases path with
          | nil => exact h
          | cons _ _ => exact h

theorem ensurePath_ensurePath (path : List String) (f g : Json → Json)
    (v : Json) :
    ensurePath path g (ensurePath path f v) =
      ensurePath path (fun x => g (f x)) v := by
  induction path generalizing v with
  | nil => rfl
  | cons key path ih =>
      rw [ensurePath, ensurePath, ensurePath, update, get_update_self]
      show Json.obj ((JsonMap.insert v.fields key _).insert key _) = _
      rw [insert_insert, Option.getD_some, ih]
      rfl

/-- Every object on the way has its keys sorted. -/
def SortedAlong (path : List String) (v : Json) : Prop :=
  ∀ q, q <+: path → ∀ m, getPath q v = some (.obj m) → SortedKeys m

/-- A write of what is there is no write. -/
theorem ensurePath_self {path : List String} {x v : Json}
    (hsorted : SortedAlong path v) (h : getPath path v = some x) :
    ensurePath path (fun _ => x) v = v := by
  induction path generalizing v with
  | nil => exact (Option.some.inj h).symm
  | cons key path ih =>
      rw [getPath_cons] at h
      obtain ⟨y, hy, hx⟩ := Option.bind_eq_some_iff.mp h
      have hrest : SortedAlong path y := by
        intro q hq m hm
        refine hsorted (key :: q) (List.cons_prefix_cons.mpr ⟨rfl, hq⟩) m ?_
        rw [getPath_cons, hy]
        exact hm
      unfold ensurePath update
      dsimp only
      rw [hy, Option.getD_some, ih hrest hx]
      cases v with
      | obj m =>
          rw [get_obj] at hy
          exact congrArg Json.obj
            ((hsorted [] (List.nil_prefix) m rfl).insert_self hy)
      | _ => cases hy

theorem SortedAlong.update {key k : String} {path : List String} {v : Json}
    (h : SortedAlong (k :: path) v) (hne : k ≠ key) (f : Option Json → Json) :
    SortedAlong (k :: path) (update key f v) := by
  intro q hq m hm
  cases q with
  | nil =>
      cases hm
      refine SortedKeys.insert ?_ _ _
      cases v with
      | obj fields => exact h [] List.nil_prefix fields rfl
      | _ => exact List.Pairwise.nil
  | cons k' q =>
      obtain ⟨rfl, _⟩ := List.cons_prefix_cons.mp hq
      rw [keeps_update q hne] at hm
      exact h _ hq m hm

/-- The document is `c`, but for what was written at the path. -/
def WritesAt (path : List String) (c c' : Json) : Prop :=
  c' = c ∨ ∃ x, c' = ensurePath path (fun _ => x) c

theorem WritesAt.ensurePath (path : List String) (f : Json → Json)
    (c : Json) : WritesAt path c (ensurePath path f c) :=
  .inr ⟨f ((getPath path c).getD (.obj [])), ensurePath_congr rfl⟩

theorem WritesAt.trans {path : List String} {a b c : Json}
    (ha : WritesAt path c a) (hb : WritesAt path a b) :
    WritesAt path c b := by
  rcases hb with rfl | ⟨y, rfl⟩
  · exact ha
  · rcases ha with rfl | ⟨x, rfl⟩
    · exact .inr ⟨y, rfl⟩
    · exact .inr ⟨y, ensurePath_ensurePath _ _ _ _⟩

/-- Of two such documents only the leaf can differ. -/
theorem WritesAt.eq_of_getPath {path : List String} {c a b : Json}
    (hsorted : SortedAlong path c) (ha : WritesAt path c a)
    (hb : WritesAt path c b) (h : getPath path a = getPath path b) :
    a = b := by
  rcases ha with rfl | ⟨x, rfl⟩ <;> rcases hb with rfl | ⟨y, rfl⟩
  · rfl
  · rw [getPath_ensurePath] at h
    exact (ensurePath_self hsorted h).symm
  · rw [getPath_ensurePath] at h
    exact ensurePath_self hsorted h.symm
  · rw [getPath_ensurePath, getPath_ensurePath] at h
    rw [Option.some.inj h]

end McpgOperator.Json
