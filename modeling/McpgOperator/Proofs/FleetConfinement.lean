import McpgOperator.Fleet.Apply
import McpgOperator.JsonText
import McpgOperator.Text

/-!
# What the fleet applies stays in its namespace

An object with a namespace is stamped with the assignment's, and one without is
left as it is; the handle of a namespaced kind then falls back on the namespace
of the client. So an object without a namespace is applied wherever the agent
itself runs.
-/

namespace McpgOperator.Fleet

open McpgOperator.Kube

/-- Objects of a namespaced kind are applied in the assignment's namespace. -/
def Confined (ns : String) (pass : ApplyPass) : Prop :=
  ∀ r ∈ pass.requests, r.api.scope = .namespaced →
    r.api.namespace_ = some ns

/-- The objects the loop gets to, as they came, and the scopes of their
kinds: up to the first that fails. -/
def Cell.reached (cell : Cell) (ns : String) :
    Nat → DiscoveryState → List (List UInt8) → List (DynamicObject × Scope)
  | _, _, [] => []
  | i, s, raw :: rest =>
      match cell.decode i raw with
      | .error _ => []
      | .ok (name, obj) =>
          match cell.apiFor s (stamp ns obj) with
          | .error _ => []
          | .ok (s, api) =>
              (obj, api.scope) ::
                (match cell.patch
                    { api := api, name := name, object := stamp ns obj } with
                  | .error _ => []
                  | .ok _ => cell.reached ns (i + 1) s rest)

section

variable {cell : Cell}

/-- A handle goes where its object says, and else where the client is. -/
theorem namespace_of_apiFor {s s' : DiscoveryState} {obj : DynamicObject}
    {api : ApiHandle} (h : cell.apiFor s obj = .ok (s', api))
    (hscope : api.scope = .namespaced) :
    api.namespace_ =
      some (obj.namespace_.getD cell.defaultNamespace) := by
  obtain ⟨gvk, -, h⟩ := Except.of_bind_ok h
  obtain ⟨⟨s'', scope⟩, -, h⟩ := Except.of_bind_ok h
  cases h
  cases hscope
  unfold Cell.handle
  cases obj.namespace_ with
  | none => rfl
  | some ns => rfl

theorem namespace_stamp (ns : String) (obj : DynamicObject) :
    (stamp ns obj).namespace_ = obj.namespace_.map fun _ => ns := by
  unfold stamp
  cases hns : obj.namespace_ with
  | none => rw [if_neg (by simp), hns]; rfl
  | some other => rw [if_pos (by simp)]; rfl

/-- Where the object of a request goes: with a namespace of its own to the
assignment's. -/
theorem confined_request {s s' : DiscoveryState} {ns : String}
    {obj : DynamicObject} {api : ApiHandle}
    (h : cell.apiFor s (stamp ns obj) = .ok (s', api)) :
    (api.scope = .namespaced → api.namespace_ = some ns) ↔
      (api.scope = .namespaced → obj.namespace_ = none →
        cell.defaultNamespace = ns) := by
  refine imp_congr_right fun hscope => ?_
  rw [namespace_of_apiFor h hscope, namespace_stamp]
  cases obj.namespace_ with
  | none => simp
  | some other => simp

/-- A pass is confined when every object it gets to, of a namespaced kind,
has a namespace, or the client's is the assignment's. -/
theorem confined_applyFrom_iff (ns : String) (i : Nat) (s : DiscoveryState)
    (objects : List (List UInt8)) :
    Confined ns (cell.applyFrom ns i s objects) ↔
      ∀ x ∈ cell.reached ns i s objects, x.2 = .namespaced →
        x.1.namespace_ = none → cell.defaultNamespace = ns := by
  induction objects generalizing i s with
  | nil =>
      unfold Confined Cell.applyFrom Cell.reached
      simp
  | cons raw rest ih =>
      unfold Cell.applyFrom Cell.reached
      cases cell.decode i raw with
      | error e => simp [Confined]
      | ok found =>
          obtain ⟨name, obj⟩ := found
          dsimp only
          cases hapi : cell.apiFor s (stamp ns obj) with
          | error e => simp [Confined]
          | ok resolved =>
              obtain ⟨s', api⟩ := resolved
              have hfirst := confined_request hapi
              dsimp only
              cases cell.patch
                  { api := api, name := name, object := stamp ns obj } with
              | error e =>
                  unfold Confined
                  simp only [List.mem_singleton, forall_eq]
                  exact hfirst
              | ok _ =>
                  have hrest := ih (i + 1) s'
                  unfold Confined at hrest ⊢
                  dsimp only
                  rw [List.forall_mem_cons, List.forall_mem_cons, hrest]
                  exact and_congr_left' hfirst

end

theorem confined_apply_iff (cell : Cell) (s : DiscoveryState) (ns : String)
    (objects : List (List UInt8)) :
    Confined ns (cell.apply s ns objects) ↔
      ∀ obj scope, (obj, scope) ∈ cell.reached ns 0 s objects →
        scope = .namespaced → obj.namespace_ = none →
          cell.defaultNamespace = ns := by
  rw [Cell.apply, confined_applyFrom_iff, Prod.forall]

namespace Sample

/-- The bytes of an ASCII text. -/
def bytesOf (text : String) : List UInt8 :=
  text.toList.map fun c => UInt8.ofNat c.toNat

/-- Documents with integers only. -/
def noFloats : JsonText.FloatText where
  write _ := ['0']
  read _ := none
  write_ne_nil _ := List.cons_ne_nil _ _
  isNumChar_write _ := List.forall_mem_singleton.mpr rfl

def stringAt (v : Json) (key : String) : Option String :=
  match v.get key with
  | some (.str s) => some s
  | _ => none

/-- The type, the name and the namespace of an object that is a JSON
document. -/
def decodeObject (raw : List UInt8) : Except String DynamicObject := do
  let v ← JsonText.fromStr noFloats
    (String.ofList (raw.map fun b => Char.ofNat b.toNat))
  let metadata := (v.get "metadata").getD .null
  let rest := (v.asObject.getD []).filter fun field =>
    field.1 ∉ ["apiVersion", "kind", "metadata"]
  .ok
    { types := do
        let apiVersion ← stringAt v "apiVersion"
        let kind ← stringAt v "kind"
        some { apiVersion := apiVersion, kind := kind }
      name := stringAt metadata "name"
      namespace_ := stringAt metadata "namespace"
      data := JsonText.toStringPretty noFloats (.obj rest) }

/-- `group/version`, of the core group without the group. -/
def gvkOf (types : TypeMeta) : Gvk :=
  match Text.splitOnce '/' types.apiVersion.toList with
  | some (group, version) =>
      { group := String.ofList group, version := String.ofList version
        kind := types.kind }
  | none => { group := "", version := types.apiVersion, kind := types.kind }

def configMap : Gvk := { group := "", version := "v1", kind := "ConfigMap" }

/-- A cell that knows ConfigMaps; the agent runs in `mcpg-system`. -/
def configMapCell : Cell where
  fromSlice := decodeObject
  parseTypes types := .ok (gvkOf types)
  discover _ := .ok fun gvk =>
    if gvk = configMap then some .namespaced else none
  patch _ := .ok ()
  defaultNamespace := "mcpg-system"

def settings (metadata : String) : List UInt8 :=
  bytesOf ("\x7b\"apiVersion\":\"v1\",\"kind\":\"ConfigMap\"," ++
    "\"metadata\":\x7b" ++ metadata ++ "\x7d\x7d")

/-- A request for the ConfigMap in that namespace. -/
def settingsRequest (own : Option String) (ns : String) : Request where
  api := { gvk := configMap, scope := .namespaced, namespace_ := some ns }
  name := "settings"
  object :=
    { types := some { apiVersion := "v1", kind := "ConfigMap" }
      name := some "settings", namespace_ := own, data := "\x7b\x7d" }

/-- One ConfigMap with a namespace, which is not the assignment's, and one
without. -/
def assignment : List (List UInt8) :=
  [settings "\"name\":\"settings\",\"namespace\":\"org-b\"",
    settings "\"name\":\"settings\""]

end Sample

open Sample in
/-- The ConfigMap without a namespace goes to that of the agent. -/
theorem not_confined_apply :
    (configMapCell.apply {} "org-a" assignment).requests =
        [settingsRequest (some "org-a") "org-a",
          settingsRequest none "mcpg-system"] ∧
      ¬ Confined "org-a" (configMapCell.apply {} "org-a" assignment) := by
  have hrequests : (configMapCell.apply {} "org-a" assignment).requests =
      [settingsRequest (some "org-a") "org-a",
        settingsRequest none "mcpg-system"] := by
    decide +kernel
  refine ⟨hrequests, fun h => ?_⟩
  have hmem : settingsRequest none "mcpg-system" ∈
      (configMapCell.apply {} "org-a" assignment).requests := by
    rw [hrequests]
    exact List.mem_cons_of_mem _ (List.mem_singleton_self _)
  exact absurd (h _ hmem rfl) (by decide)

end McpgOperator.Fleet
