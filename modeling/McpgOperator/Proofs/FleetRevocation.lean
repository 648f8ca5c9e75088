import McpgOperator.Fleet.CellState
import Mathlib.Tactic.Common

/-!
# What the fleet takes out of a cell

A namespace of a cell holds the instances of one organisation, and a
revocation is of one of them. Over any sequence of the fleet's calls, whatever
fails on the way, an object is lost only to the revocation of its own instance
or to the delete of its own namespace. And a revocation that was reported as
done has ended the gateway, whose finalizer may keep it stored for a while,
until an assignment writes it again.
-/

namespace McpgOperator.Fleet

open McpgOperator.Kube

variable {σ : Type} {c : FleetCell σ} {s : σ} {k : ObjectKey}

/-! ## What a call takes -/

/-- The objects a call may ask the apiserver to delete. -/
def FleetCell.targets (c : FleetCell σ) : Command → List ObjectKey
  | .apply .. => []
  | .deleteInstance ns instanceUid => c.instanceKeys ns instanceUid
  | .deleteNamespace ns => [namespaceKey ns]

/-- An assignment that writes the object. -/
def Command.Brings (k : ObjectKey) : Command → Prop
  | .apply cell discovery ns raw =>
      k ∈ (cell.apply discovery ns raw).requests.map Request.key
  | .deleteInstance .. | .deleteNamespace .. => False

/-- The Secrets whose delete was served or answered by a 404. -/
def CellApi.takenSecrets (api : CellApi σ) (ns : String) :
    σ → List String → List String
  | _, [] => []
  | s, name :: names =>
      let (s, answer) := api.delete s (deleteSecret ns name)
      match tolerated answer with
      | .ok _ => name :: api.takenSecrets ns s names
      | .error _ => api.takenSecrets ns s names

/-- What a revocation of the instance is done with. -/
def FleetCell.Done (c : FleetCell σ) (s : σ) (ns instanceUid : String)
    (k : ObjectKey) : Prop :=
  k = (deleteGateway ns instanceUid).object ∨
    ∃ name ∈ c.api.takenSecrets ns
        (c.api.delete s (deleteGateway ns instanceUid)).1
        (c.instanceSecretNames instanceUid),
      k = (deleteSecret ns name).object

theorem live_of_foldl_deleteSecret (hlaws : c.api.Laws) {ns : String}
    {names : List String}
    (h : c.api.live (names.foldl
      (fun s name => (c.api.delete s (deleteSecret ns name)).1) s) k) :
    c.api.live s k := by
  induction names generalizing s with
  | nil => exact h
  | cons name names ih => exact hlaws.live_of_delete s _ k (ih h)

theorem not_live_of_taken (hlaws : c.api.Laws) {ns name : String}
    {names : List String} (h : name ∈ c.api.takenSecrets ns s names) :
    ¬ c.api.live (names.foldl
      (fun s name => (c.api.delete s (deleteSecret ns name)).1) s)
      (deleteSecret ns name).object := by
  induction names generalizing s with
  | nil => cases h
  | cons first names ih =>
      simp only [CellApi.takenSecrets] at h
      split at h
      · next hserved =>
          rcases List.mem_cons.mp h with rfl | h
          · exact fun hlive => hlaws.deleted s (deleteSecret ns name) hserved
              (live_of_foldl_deleteSecret hlaws hlive)
          · exact ih h
      · exact ih h

/-- The revocation itself. -/
theorem not_live_deleteInstance (hlaws : c.api.Laws) {ns uid : String}
    (hok : (c.call s (.deleteInstance ns uid)).2 = .ok ())
    (hk : c.Done s ns uid k) :
    ¬ c.api.live (c.call s (.deleteInstance ns uid)).1 k := by
  simp only [FleetCell.call, deleteInstance] at hok ⊢
  split
  · next e he =>
      rw [he] at hok
      cases hok
  · next u hserved =>
      rcases hk with rfl | ⟨name, hname, rfl⟩
      · exact fun hlive => hlaws.deleted s (deleteGateway ns uid) hserved
          (live_of_foldl_deleteSecret hlaws hlive)
      · exact not_live_of_taken hlaws hname

theorem live_of_foldl_patch (hlaws : c.api.Laws) {requests : List Request}
    (h : c.api.live (requests.foldl c.api.patch s) k) :
    c.api.live s k ∨ k ∈ requests.map Request.key := by
  induction requests generalizing s with
  | nil => exact .inl h
  | cons r requests ih =>
      rcases ih h with hlive | hmem
      · rcases hlaws.live_of_patch s r k hlive with hbefore | rfl
        · exact .inl hbefore
        · exact .inr List.mem_cons_self
      · exact .inr (List.mem_cons_of_mem _ hmem)

/-- No call but an assignment of it gives an object back. -/
theorem live_of_call (hlaws : c.api.Laws) {command : Command}
    (hbrings : ¬ command.Brings k) (h : c.api.live (c.call s command).1 k) :
    c.api.live s k := by
  cases command with
  | apply cell discovery ns raw =>
      exact (live_of_foldl_patch hlaws h).resolve_right hbrings
  | deleteInstance ns uid =>
      simp only [FleetCell.call, deleteInstance] at h
      split at h
      · exact hlaws.live_of_delete s _ k h
      · exact hlaws.live_of_delete s _ k (live_of_foldl_deleteSecret hlaws h)
  | deleteNamespace ns => exact hlaws.live_of_delete s _ k h

theorem live_of_after (hlaws : c.api.Laws) {commands : List Command}
    (hbrings : ∀ command ∈ commands, ¬ command.Brings k)
    (h : c.api.live (c.after s commands) k) : c.api.live s k := by
  induction commands generalizing s with
  | nil => exact h
  | cons command commands ih =>
      obtain ⟨hfirst, hrest⟩ := List.forall_mem_cons.mp hbrings
      exact live_of_call hlaws hfirst (hlaws.live_of_settle _ k (ih hrest h))

/-- Whatever the fleet asked before and after: a revocation reported as done
has ended the gateway for as long as no assignment writes it again, and so
each Secret whose delete was served. -/
theorem gone_of_revoked (hlaws : c.api.Laws) {before after : List Command}
    {ns uid : String}
    (hok : (c.call (c.after s before) (.deleteInstance ns uid)).2 = .ok ())
    (hk : c.Done (c.after s before) ns uid k)
    (hbrings : ∀ command ∈ after, ¬ command.Brings k) :
    ¬ c.api.live (c.after s (before ++ .deleteInstance ns uid :: after)) k := by
  rw [FleetCell.after, List.foldl_append]
  intro hlive
  have hsettled : c.api.live
      (c.api.settle (c.call (c.after s before) (.deleteInstance ns uid)).1)
      k :=
    live_of_after hlaws hbrings hlive
  exact not_live_deleteInstance hlaws hok hk
    (hlaws.live_of_settle _ k hsettled)

/-! ## A cell of two instances -/

namespace Sample

/-- A stored object; one with a finalizer outlives its delete. -/
structure Entry where
  key : ObjectKey
  finalizer : Bool
  deleting : Bool := false
  deriving DecidableEq

/-- An object goes with itself and with its namespace. -/
def goesWith (k owner : ObjectKey) : Bool :=
  k == owner ||
    owner.gvk == namespaceGvk && k.namespace_ == some owner.name

def delete : DeleteApi (List Entry) := fun s r =>
  if s.any fun e => e.key == r.object then
    (s.filterMap fun e =>
      if goesWith e.key r.object then
        if e.finalizer then some { e with deleting := true } else none
      else some e, .ok ())
  else (s, .error (.api 404 "not found"))

/-- The operator puts its finalizer on a gateway. -/
def patch (s : List Entry) (r : Request) : List Entry :=
  if s.any fun e => e.key == r.key then s
  else s ++ [{ key := r.key, finalizer := r.key.gvk == gatewayGvk }]

def Live (s : List Entry) (k : ObjectKey) : Prop :=
  ∃ e ∈ s, e.key = k ∧ e.deleting = false

instance (s : List Entry) (k : ObjectKey) : Decidable (Live s k) :=
  inferInstanceAs (Decidable (∃ e ∈ s, _))

/-- Between two calls the finalizers of what is being deleted are
released. -/
def api : CellApi (List Entry) where
  patch := patch
  delete := delete
  settle s := s.filter (!·.deleting)
  live := Live
  safe := Live
  goesWith k owner := goesWith k owner = true

theorem live_patch {s : List Entry} {r : Request} {k : ObjectKey} :
    Live (patch s r) k → Live s k ∨ k = r.key := by
  unfold patch
  split
  · exact .inl
  · rintro ⟨e, he, rfl, hlive⟩
    rcases List.mem_append.mp he with hold | hnew
    · exact .inl ⟨e, hold, rfl, hlive⟩
    · exact .inr (List.mem_singleton.mp hnew ▸ rfl)

theorem live_delete {s : List Entry} {r : DeleteRequest} {k : ObjectKey}
    (h : Live (delete s r).1 k) : Live s k := by
  unfold delete at h
  split at h
  · obtain ⟨e, he, rfl, hlive⟩ := h
    obtain ⟨old, hold, hkept⟩ := List.mem_filterMap.mp he
    split at hkept
    · split at hkept
      · cases hkept
        cases hlive
      · cases hkept
    · cases hkept
      exact ⟨e, hold, rfl, hlive⟩
  · exact h

theorem laws_api : api.Laws where
  live_of_safe _ _ h := h
  safe_patch s r k h := by
    show Live (patch s r) k
    unfold patch
    split
    · exact h
    · exact h.imp fun e he => he.imp_left (List.mem_append_left _)
  safe_delete s r k h hspared := by
    obtain ⟨e, he, rfl, hlive⟩ := h
    show Live (delete s r).1 _
    unfold delete
    split
    · exact ⟨e, List.mem_filterMap.mpr ⟨e, he, if_neg hspared⟩, rfl, hlive⟩
    · exact ⟨e, he, rfl, hlive⟩
  safe_settle s k h := by
    obtain ⟨e, he, rfl, hlive⟩ := h
    exact ⟨e, List.mem_filter.mpr ⟨he, by rw [hlive]; rfl⟩, rfl, hlive⟩
  live_of_patch _ _ _ := live_patch
  live_of_delete _ _ _ := live_delete
  live_of_settle s k h :=
    h.imp fun e he => he.imp_left fun hmem => (List.mem_filter.mp hmem).1
  deleted s r hserved := by
    rintro ⟨e, he, hkey, hlive⟩
    change e ∈ (delete s r).1 at he
    unfold delete at he
    split at he
    · obtain ⟨old, hold, hkept⟩ := List.mem_filterMap.mp he
      split at hkept
      · split at hkept
        · cases hkept
          cases hlive
        · cases hkept
      · next hspared =>
          cases hkept
          exact hspared (by simp [goesWith, hkey])
    · next hnone =>
        exact hnone (List.any_eq_true.mpr ⟨e, he, beq_iff_eq.mpr hkey⟩)

/-- An instance has one Secret, of its own name. -/
def twoInstances : FleetCell (List Entry) where
  api := api
  instanceSecretNames uid := [uid ++ "-env"]

def gateway (uid : String) : Entry :=
  { key := (deleteGateway "org-acme" uid).object, finalizer := true }

def secret (uid : String) : Entry :=
  { key := (deleteSecret "org-acme" (uid ++ "-env")).object
    finalizer := false }

def acme : List Entry := [gateway "a", secret "a", gateway "b", secret "b"]

def revokeA : Command := .deleteInstance "org-acme" "a"

end Sample

open Sample

/-- Its gateway is ended, and that of the other instance is as it was. -/
theorem gone_of_revoked_acme :
    ¬ Live (twoInstances.after acme ([] ++ revokeA :: [])) (gateway "a").key ∧
      Live (twoInstances.after acme ([] ++ revokeA :: []))
        (gateway "b").key := by
  have hok : (twoInstances.call (twoInstances.after acme [])
      (.deleteInstance "org-acme" "a")).2 = .ok () := by decide
  refine ⟨?_, by decide⟩
  exact gone_of_revoked laws_api hok (.inl rfl) (fun _ hmem => nomatch hmem)

end McpgOperator.Fleet
