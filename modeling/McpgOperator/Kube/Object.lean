import McpgOperator.Kube.Api

/-!
# Objects and their conditions

Metadata, the namespaced data objects the controllers read and write, and
status conditions. `Condition` and `set_condition` belong to the API crate,
whose source is not part of the repository; what the controllers rely on is
that `set_condition` replaces the condition of that type and touches no
other, which `ConditionsApi` carries with the function.
-/

namespace McpgOperator.Kube

abbrev Bytes := List UInt8

/-- Instants as the controllers stamp them (`Utc::now()`). -/
abbrev DateTime := Nat

structure ObjectMeta where
  name : Option String
  namespace_ : Option String := none
  generation : Option Int := none
  resourceVersion : Option String := none
  finalizers : Option (List String) := none
  deletionTimestamp : Option DateTime := none
  uid : Option String := none
  deriving DecidableEq, Repr

/-- `kube::ResourceExt::name_any`, for objects without `generateName`. -/
def ObjectMeta.nameAny (m : ObjectMeta) : String := m.name.getD ""

structure Condition where
  type : String
  status : String
  reason : String
  message : String
  observedGeneration : Option Int
  deriving DecidableEq, Repr

/-! ## Condition types and reasons -/

namespace CType

def ready : String := "Ready"

def progressing : String := "Progressing"

def available : String := "Available"

end CType

namespace Reasons

def reconciled : String := "Reconciled"

def progressing : String := "Progressing"

def dependencyMissing : String := "DependencyMissing"

def allReplicasAvailable : String := "AllReplicasAvailable"

def podsReady : String := "PodsReady"

end Reasons

/-- `mcpg_operator_api::conditions`: the upsert by condition type. -/
structure ConditionsApi where
  setCondition : List Condition → Condition → List Condition
  mem_setCondition : ∀ cs c c', c' ∈ setCondition cs c ↔
    c' = c ∨ (c' ∈ cs ∧ c'.type ≠ c.type)

/-- The upsert that keeps the order and appends a new type. -/
def upsert (cs : List Condition) (c : Condition) : List Condition :=
  cs.filter (fun c' => c'.type ≠ c.type) ++ [c]

def upsertConditions : ConditionsApi where
  setCondition := upsert
  mem_setCondition := by
    intro cs c c'
    simp only [upsert, List.mem_append, List.mem_filter, List.mem_singleton,
      decide_eq_true_eq]
    exact or_comm

/-- Setting several conditions in turn. -/
def ConditionsApi.setAll (api : ConditionsApi) (cs : List Condition)
    (updates : List Condition) : List Condition :=
  updates.foldl api.setCondition cs

/-- The readiness test every consumer makes:
`conditions.iter().any(|c| c.type == READY && c.status == "True")`. -/
def readyTrue (cs : List Condition) : Bool :=
  cs.any fun c => c.type == CType.ready && c.status == "True"

theorem readyTrue_iff {cs : List Condition} :
    readyTrue cs = true ↔
      ∃ c ∈ cs, c.type = CType.ready ∧ c.status = "True" := by
  simp [readyTrue]

/-- Setting the Ready condition decides the readiness test. -/
theorem readyTrue_set_ready (api : ConditionsApi) (cs : List Condition)
    {c : Condition} (hc : c.type = CType.ready) :
    readyTrue (api.setCondition cs c) = (c.status == "True") := by
  rw [Bool.eq_iff_iff, readyTrue_iff, beq_iff_eq]
  constructor
  · rintro ⟨c', hmem, htype, hstatus⟩
    rcases (api.mem_setCondition cs c c').mp hmem with rfl | ⟨_, hne⟩
    · exact hstatus
    · exact absurd (htype.trans hc.symm) hne
  · intro hstatus
    exact ⟨c, (api.mem_setCondition cs c c).mpr (.inl rfl), hc, hstatus⟩

theorem readyTrue_set_other (api : ConditionsApi) (cs : List Condition)
    {c : Condition} (hc : c.type ≠ CType.ready) :
    readyTrue (api.setCondition cs c) = readyTrue cs := by
  rw [Bool.eq_iff_iff, readyTrue_iff, readyTrue_iff]
  constructor
  · rintro ⟨c', hmem, htype, hstatus⟩
    rcases (api.mem_setCondition cs c c').mp hmem with rfl | ⟨hold, _⟩
    · exact absurd htype hc
    · exact ⟨c', hold, htype, hstatus⟩
  · rintro ⟨c', hold, htype, hstatus⟩
    refine ⟨c', (api.mem_setCondition cs c c').mpr (.inr ⟨hold, ?_⟩), htype,
      hstatus⟩
    exact fun heq => hc (heq.symm.trans htype)

/-- What is in the result of setting several conditions: one of them, or an
old condition of a type none of them sets. -/
theorem mem_setAll {api : ConditionsApi} {cs us : List Condition}
    {c : Condition} (h : c ∈ api.setAll cs us) :
    c ∈ us ∨ (c ∈ cs ∧ ∀ u ∈ us, c.type ≠ u.type) := by
  induction us generalizing cs with
  | nil => exact .inr ⟨h, by simp⟩
  | cons u us ih =>
      rcases ih h with hus | ⟨hmem, hne⟩
      · exact .inl (List.mem_cons_of_mem u hus)
      · rcases (api.mem_setCondition cs u c).mp hmem with rfl | ⟨hcs, hu⟩
        · exact .inl List.mem_cons_self
        · exact .inr ⟨hcs, List.forall_mem_cons.mpr ⟨hu, hne⟩⟩

/-- Conditions that set Ready, and never to True, leave the object not
ready. -/
theorem readyTrue_setAll_false {api : ConditionsApi}
    {cs us : List Condition} (hset : ∃ u ∈ us, u.type = CType.ready)
    (hfalse : ∀ u ∈ us, u.type = CType.ready → u.status ≠ "True") :
    readyTrue (api.setAll cs us) = false := by
  rw [Bool.eq_false_iff]
  intro hready
  obtain ⟨c, hmem, htype, hstatus⟩ := readyTrue_iff.mp hready
  rcases mem_setAll hmem with hus | ⟨_, hne⟩
  · exact hfalse c hus htype hstatus
  · obtain ⟨u, hu, hutype⟩ := hset
    exact hne u hu (htype.trans hutype.symm)

/-! ## Data objects -/

structure Secret where
  name : Option String
  namespace_ : Option String
  labels : List (String × String) := []
  type_ : Option String := none
  immutable_ : Option Bool := none
  data : Option (List (String × Bytes)) := none
  deriving DecidableEq, Repr

structure ConfigMap where
  name : Option String
  namespace_ : Option String
  labels : List (String × String) := []
  data : Option (List (String × String)) := none
  deriving DecidableEq, Repr

/-- A controlling owner that blocks its deletion, as the renderers write
it. -/
structure OwnerReference where
  apiVersion : String
  kind : String
  name : String
  uid : String
  deriving DecidableEq, Repr

/-- An event a controller publishes about the object it reconciles. -/
structure K8sEvent where
  type_ : String
  reason : String
  note : Option String
  action : String
  deriving DecidableEq, Repr

/-! ## How a pass ends -/

/-- `kube::runtime::controller::Action`; the delay is in seconds. -/
inductive Requeue
  | awaitChange
  | after (secs : Nat)
  deriving DecidableEq, Repr

inductive ReconcileOutcome
  | success
  | dependencyPending
  | transientError
  | permanentError
  deriving DecidableEq, Repr

end McpgOperator.Kube
