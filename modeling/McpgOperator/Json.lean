/-!
# JSON values

`serde_json::Value` and the operations on it the source uses. An object is a
list of fields; `insert` keeps the key order serde_json's map has, and none
of the lookup lemmas needs the list to be sorted.
-/

namespace McpgOperator

/-- `serde_json::Number`; a float by its bits. -/
inductive JsonNumber
  | int (n : Int)
  | float (bits : UInt64)
  deriving DecidableEq, Repr

inductive Json
  | null
  | bool (b : Bool)
  | num (n : JsonNumber)
  | str (s : String)
  | arr (items : List Json)
  | obj (fields : List (String × Json))
  deriving Repr

/-- `serde_json::Map`. -/
abbrev JsonMap := List (String × Json)

namespace Json

/-! ## Equality -/

mutual

def beq : Json → Json → Bool
  | .null, .null => true
  | .bool a, .bool b => a == b
  | .num a, .num b => a == b
  | .str a, .str b => a == b
  | .arr as, .arr bs => beqItems as bs
  | .obj as, .obj bs => beqFields as bs
  | _, _ => false

def beqItems : List Json → List Json → Bool
  | [], [] => true
  | a :: as, b :: bs => beq a b && beqItems as bs
  | _, _ => false

def beqFields : List (String × Json) → List (String × Json) → Bool
  | [], [] => true
  | (k, a) :: as, (k', b) :: bs => k == k' && beq a b && beqFields as bs
  | _, _ => false

end

mutual

theorem beq_sound : ∀ {a b : Json}, beq a b = true → a = b
  | .null, .null, _ => rfl
  | .bool a, .bool b, h => by rw [beq_iff_eq.mp h]
  | .num a, .num b, h => by rw [beq_iff_eq.mp h]
  | .str a, .str b, h => by rw [beq_iff_eq.mp h]
  | .arr as, .arr bs, h => by rw [beqItems_sound h]
  | .obj as, .obj bs, h => by rw [beqFields_sound h]

theorem beqItems_sound :
    ∀ {as bs : List Json}, beqItems as bs = true → as = bs
  | [], [], _ => rfl
  | a :: as, b :: bs, h => by
      rw [beqItems, Bool.and_eq_true] at h
      rw [beq_sound h.1, beqItems_sound h.2]

theorem beqFields_sound :
    ∀ {as bs : List (String × Json)}, beqFields as bs = true → as = bs
  | [], [], _ => rfl
  | (k, a) :: as, (k', b) :: bs, h => by
      rw [beqFields, Bool.and_eq_true, Bool.and_eq_true] at h
      rw [beq_iff_eq.mp h.1.1, beq_sound h.1.2, beqFields_sound h.2]

end

mutual

theorem beq_self : ∀ a : Json, beq a a = true
  | .null => rfl
  | .bool _ => beq_self_eq_true _
  | .num _ => beq_self_eq_true _
  | .str _ => beq_self_eq_true _
  | .arr as => beqItems_self as
  | .obj as => beqFields_self as

theorem beqItems_self : ∀ as : List Json, beqItems as as = true
  | [] => rfl
  | a :: as => by rw [beqItems, beq_self a, beqItems_self as]; rfl

theorem beqFields_self : ∀ as : List (String × Json), beqFields as as = true
  | [] => rfl
  | (k, a) :: as => by
      rw [beqFields, beq_self a, beqFields_self as, beq_self_eq_true]
      rfl

end

instance : DecidableEq Json := fun a b =>
  decidable_of_iff (beq a b = true)
    ⟨beq_sound, fun h => h ▸ beq_self a⟩

/-! ## Reading -/

/-- `Value::as_str`. -/
def asStr : Json → Option String
  | .str s => some s
  | _ => none

/-- `Value::as_object`. -/
def asObject : Json → Option JsonMap
  | .obj fields => some fields
  | _ => none

/-- `Value::as_array`. -/
def asArray : Json → Option (List Json)
  | .arr items => some items
  | _ => none

/-- `Value::get` with a string key. -/
def get (v : Json) (key : String) : Option Json :=
  v.asObject.bind fun fields => fields.lookup key

/-- `Value::pointer` along keys that are no array indices. -/
def getPath : List String → Json → Option Json
  | [], v => some v
  | key :: path, v => (v.get key).bind (getPath path)

end Json

/-! ## Writing -/

/-- `Map::insert`. -/
def JsonMap.insert : JsonMap → String → Json → JsonMap
  | [], key, v => [(key, v)]
  | (k, x) :: rest, key, v =>
      if key = k then (key, v) :: rest
      else if key < k then (key, v) :: (k, x) :: rest
      else (k, x) :: JsonMap.insert rest key v

theorem JsonMap.lookup_insert_self (m : JsonMap) (key : String) (v : Json) :
    List.lookup key (m.insert key v) = some v := by
  induction m with
  | nil => simp [JsonMap.insert]
  | cons p m ih =>
      obtain ⟨k, x⟩ := p
      simp only [JsonMap.insert]
      split
      · simp
      · next hne =>
          split
          · simp
          · have hb : (key == k) = false := beq_eq_false_iff_ne.mpr hne
            simpa [List.lookup_cons, hb] using ih

theorem JsonMap.lookup_insert_ne {m : JsonMap} {key other : String}
    (h : other ≠ key) (v : Json) :
    List.lookup other (m.insert key v) = List.lookup other m := by
  have hb : (other == key) = false := beq_eq_false_iff_ne.mpr h
  induction m with
  | nil => simp [JsonMap.insert, List.lookup_cons, hb]
  | cons p m ih =>
      obtain ⟨k, x⟩ := p
      simp only [JsonMap.insert]
      split
      · next heq =>
          subst heq
          simp [List.lookup_cons, hb]
      · split
        · simp [List.lookup_cons, hb]
        · simp [List.lookup_cons, ih]

end McpgOperator
