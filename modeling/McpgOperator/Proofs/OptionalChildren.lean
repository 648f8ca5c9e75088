import McpgOperator.Lib.Ownership
import McpgOperator.Proofs.EdgeWiring
import McpgOperator.Proofs.RevocationMount

/-!
# What a feature leaves once it is off

A pass applies the children its spec asks for. Of those an earlier spec
asked for and this one does not, it deletes the disruption budget and, as
long as the gateway is in the cloud, gives up the listeners and collects the
Certificates. Nothing deletes an autoscaler, an HTTPRoute, the ConfigMap of
a revocation list or a copy of a coordination Secret, and nothing looks at
the edge once `spec.cloud` is gone.

So what is there after a pass is a function of the pass exactly where every
child that was there before is one the pass applies or takes out.
-/

namespace McpgOperator.OptionalChildren

open McpgOperator.Kube McpgOperator.Gateway McpgOperator.Templates
  McpgOperator.EdgeWiring Transition
open McpgOperator.EdgeCertificates (Outcome)
open McpgOperator.PluginHold (comesToApply comesToApply_eq_some)
open Ownership (Objects Op)

variable {Backend Managed : Type}

/-! ## The children -/

/-- The kinds in the namespace of the gateway, which all name it as their
owner. -/
inductive ObjectKind
  | hpa
  | podDisruptionBudget
  | httpRoute
  | coordinationSecret
  | revocationConfigMap
  deriving DecidableEq, Repr

abbrev ObjectKey := ObjectKind × String

inductive Child
  | object (key : ObjectKey)
  | listener (name : String)
  | certificate (name : String)
  deriving DecidableEq, Repr

structure Children where
  objects : Objects ObjectKey String := []
  edge : EdgeStore := {}
  deriving DecidableEq

def Children.Has (c : Children) : Child → Prop
  | .object key => key ∈ Ownership.keys c.objects
  | .listener name => name ∈ c.edge.listenerNames
  | .certificate name => name ∈ c.edge.certNames

/-! ## A pass -/

/-- A pass with all that comes to it from outside: what is read, what is
answered, and which requests take effect although the answer is an error, or
is ignored. -/
structure ChildPass (Backend Managed : Type) where
  obj : MCPGGateway
  ans : GatewayAnswers Backend Managed
  lands : ObjectKey → Bool
  /-- `--edge-cluster-issuer`. -/
  issuer : Option String
  edge : EdgeRequest → Outcome

namespace ChildPass

variable (libs : GatewayLibs Backend Managed) (cfg : OperatorConfig)
  (p : ChildPass Backend Managed)

/-- Edge wiring over what is stored. -/
def wire (store : EdgeStore) : EdgeStore × Except KubeError Unit :=
  wireEdge libs.sha256Hex p.edge p.issuer p.obj store

/-- The answers, with the end that the edge wiring comes to. -/
def answers (c : Children) : GatewayAnswers Backend Managed :=
  { p.ans with reconcileEdgeDomains := (p.wire libs c.edge).2 }

def reconcile (c : Children) : Pass :=
  reconcileInner libs cfg (p.answers libs c) p.obj

def Completes (c : Children) : Prop :=
  (p.reconcile libs cfg c).result = .ok .applied

instance (c : Children) : Decidable (p.Completes libs cfg c) :=
  inferInstanceAs (Decidable (_ = _))

end ChildPass

/-- The answer to an effect. -/
def answerTo (ans : GatewayAnswers Backend Managed) :
    Effect → Except KubeError Unit
  | .applyConfigMap .. => ans.applyConfigMap
  | .applyService => ans.applyService
  | .applyServiceAccount => ans.applyServiceAccount
  | .ensureTenantSecretBinding => ans.ensureTenantSecretBinding
  | .applyCoordinationSecret _ => ans.applyCoordinationSecret
  | .applyDeployment _ => ans.applyDeployment
  | .applyHttpRoute _ => ans.applyHttpRoute
  | .reconcileEdgeDomains => ans.reconcileEdgeDomains
  | .applyHpa _ => ans.applyHpa
  | .applyPdb _ => ans.applyPdb
  | _ => .ok ()

/-- The optional child an effect applies. -/
def appliedKey : Effect → Option ObjectKey
  | .applyCoordinationSecret secret =>
      some (.coordinationSecret, secret.name.getD "")
  | .applyHttpRoute route => some (.httpRoute, route.name)
  | .applyHpa hpa => some (.hpa, hpa.name)
  | .applyPdb pdb => some (.podDisruptionBudget, pdb.name)
  | _ => none

def deletedKey : Effect → Option ObjectKey
  | .deletePdb name => some (.podDisruptionBudget, name)
  | _ => none

namespace ChildPass

variable (libs : GatewayLibs Backend Managed) (cfg : OperatorConfig)
  (p : ChildPass Backend Managed)

/-- An apply that is answered, if it takes effect. -/
def applyOps (answer : Except KubeError Unit) (key : ObjectKey) :
    List (Op ObjectKey String) :=
  if answer.isOk || p.lands key then [.create key [edgeUid p.obj]] else []

/-- What an effect does in the namespace of the gateway. -/
def effectOps (e : Effect) : List (Op ObjectKey String) :=
  (appliedKey e).toList.flatMap (p.applyOps (answerTo p.ans e)) ++
  ((deletedKey e).toList.filter fun key => p.lands key).map .delete

/-- The ConfigMap of the revocation list comes before the effects. -/
def revocationOps : List (Op ObjectKey String) :=
  if reachesRevocationList libs p.ans p.obj then
    (revocationConfigmap libs.resolve p.ans.resolve p.obj).toList.flatMap
      fun cm => p.applyOps p.ans.resolve.applyRevocationCm
        (.revocationConfigMap, cm.name.getD "")
  else []

def ops (c : Children) : List (Op ObjectKey String) :=
  p.revocationOps libs ++ (p.reconcile libs cfg c).trace.flatMap p.effectOps

/-- What is there after the pass. -/
def after (c : Children) : Children :=
  { objects := Ownership.run c.objects (p.ops libs cfg c)
    edge :=
      if .reconcileEdgeDomains ∈ (p.reconcile libs cfg c).trace then
        (p.wire libs c.edge).1
      else c.edge }

end ChildPass

/-! ## Runs -/

structure State (Backend Managed : Type) where
  children : Children
  /-- The last pass, if it completed. -/
  completed : Option (ChildPass Backend Managed)

/-- Passes over one gateway. Between two of them its spec may be edited, and
the rest of the world may change. -/
def life (libs : GatewayLibs Backend Managed) (cfg : OperatorConfig) :
    System (State Backend Managed) (ChildPass Backend Managed) where
  init s := s = { children := {}, completed := none }
  step s p :=
    some
      { children := p.after libs cfg s.children
        completed :=
          if p.Completes libs cfg s.children then some p else none }

/-- The passes are over the gateway of this name and uid, which is not being
deleted. -/
def Over (name ns uid : String) (_ : State Backend Managed)
    (p : ChildPass Backend Managed) : Prop :=
  p.obj.metadata.name = some name ∧ p.obj.metadata.namespace_ = some ns ∧
    p.obj.metadata.uid = some uid ∧
    p.obj.metadata.deletionTimestamp = none

/-! ## The children of the features that are on -/

/-- The feature the child belongs to is on. -/
def Asked (libs : GatewayLibs Backend Managed)
    (p : ChildPass Backend Managed) : Child → Prop
  | .object (.hpa, name) =>
      ∃ hpa, buildHpa p.obj = some hpa ∧ hpa.name = name
  | .object (.podDisruptionBudget, name) =>
      ∃ pdb, buildPdb libs.render.gateway p.obj = some pdb ∧ pdb.name = name
  | .object (.httpRoute, name) =>
      ∃ route, buildHttproute p.obj = some route ∧ route.name = name
  | .object (.coordinationSecret, name) =>
      ∃ found ∈ comesToApply libs p.ans p.obj,
        ∃ secret, found.2.coordinationCopy p.obj found.1 = some secret ∧
          secret.name.getD "" = name
  | .object (.revocationConfigMap, name) =>
      ∃ cm, revocationConfigmap libs.resolve p.ans.resolve p.obj = some cm ∧
        cm.name.getD "" = name
  | .listener name =>
      name ∈ (customDomains p.obj).map (edgeObjectName libs.sha256Hex)
  | .certificate name => name ∈ wantedCerts libs.sha256Hex p.issuer p.obj

/-- After a completed pass the children are those the same pass makes where
there were none before, whatever the history; and those of a feature that is
off are not among them. -/
def Settled (libs : GatewayLibs Backend Managed) (cfg : OperatorConfig)
    (s : State Backend Managed) : Prop :=
  ∀ p ∈ s.completed,
    (∀ child, s.children.Has child ↔ (p.after libs cfg {}).Has child) ∧
      ∀ child, s.children.Has child → Asked libs p child

/-! ## When it does -/

/-- Whether the child is there after the pass does not depend on whether it
was: it is applied, or it is taken out. -/
def Renews (libs : GatewayLibs Backend Managed)
    (p : ChildPass Backend Managed) : Child → Prop
  | .object (.podDisruptionBudget, name) =>
      Asked libs p (.object (.podDisruptionBudget, name)) ∨
        (buildPdb libs.render.gateway p.obj = none ∧
          name = childName p.obj "gateway" ∧
          p.lands (.podDisruptionBudget, name) = true)
  | .object (.revocationConfigMap, name) =>
      Asked libs p (.object (.revocationConfigMap, name)) ∧
        (p.ans.resolve.applyRevocationCm.isOk = true ∨
          p.lands (.revocationConfigMap, name) = true)
  | .object key => Asked libs p (.object key)
  | .listener _ =>
      p.obj.spec.cloud ≠ none ∧
        (p.edge (listenersRequest libs.sha256Hex p.obj)).takesEffect = true
  | .certificate name =>
      p.obj.spec.cloud ≠ none ∧
        (Asked libs p (.certificate name) ∨
          Collects p.edge (edgeUid p.obj) name)

/-- The pass, if it completes, renews every child there is. -/
def Clean (libs : GatewayLibs Backend Managed) (cfg : OperatorConfig)
    (s : State Backend Managed) (p : ChildPass Backend Managed) : Prop :=
  p.Completes libs cfg s.children →
    ∀ child, s.children.Has child → Renews libs p child

/-! ## What a pass does -/

section Pass

variable {libs : GatewayLibs Backend Managed} {cfg : OperatorConfig}
  {p : ChildPass Backend Managed} {c : Children} {ns : String}
  {r : Resolved}

/-- What is stored has no say in what the pass is answered. -/
theorem answers_eq (libs : GatewayLibs Backend Managed)
    (p : ChildPass Backend Managed) (c c' : Children) :
    p.answers libs c = p.answers libs c' := by
  unfold ChildPass.answers ChildPass.wire
  rw [wireEdge_result c.edge c'.edge]

theorem reconcile_eq (libs : GatewayLibs Backend Managed)
    (cfg : OperatorConfig) (p : ChildPass Backend Managed)
    (c c' : Children) : p.reconcile libs cfg c = p.reconcile libs cfg c' := by
  unfold ChildPass.reconcile
  rw [answers_eq libs p c c']

theorem ops_eq (libs : GatewayLibs Backend Managed) (cfg : OperatorConfig)
    (p : ChildPass Backend Managed) (c c' : Children) :
    p.ops libs cfg c = p.ops libs cfg c' := by
  unfold ChildPass.ops
  rw [reconcile_eq libs cfg p c c']

theorem answer_of_listed {ans : GatewayAnswers Backend Managed}
    {obj : MCPGGateway} {a : Effect × Except KubeError Unit}
    (h : Listed libs cfg ans obj ns r a) : a.2 = answerTo ans a.1 := by
  cases h <;> rfl

/-- The effects of step 3. -/
theorem mem_effects_iff {ans : GatewayAnswers Backend Managed}
    {obj : MCPGGateway} {e : Effect} :
    e ∈ (children libs cfg ans obj ns r).map (·.1) ↔
      ∃ answer, Listed libs cfg ans obj ns r (e, answer) := by
  simp [mem_children_iff]

theorem edge_mem_effects_iff {ans : GatewayAnswers Backend Managed}
    {obj : MCPGGateway} :
    .reconcileEdgeDomains ∈ (children libs cfg ans obj ns r).map (·.1) ↔
      obj.spec.cloud ≠ none := by
  rw [mem_effects_iff]
  constructor
  · rintro ⟨answer, hlisted⟩
    cases hlisted with
    | edgeDomains hcloud => exact hcloud
  · exact fun hcloud => ⟨_, .edgeDomains hcloud⟩

/-- A completed pass came to apply, and issued all it had to, with
success. -/
structure Completed (libs : GatewayLibs Backend Managed)
    (cfg : OperatorConfig) (p : ChildPass Backend Managed) (c : Children)
    (ns : String) (r : Resolved) : Prop where
  applies : Applies libs p.ans p.obj ns r
  trace : (p.reconcile libs cfg c).trace =
    (children libs cfg (p.answers libs c) p.obj ns r).map (·.1)
  answered : ∀ e ∈ (p.reconcile libs cfg c).trace,
    (answerTo (p.answers libs c) e).isOk = true

theorem completed_of_completes (h : p.Completes libs cfg c) :
    ∃ ns r, Completed libs cfg p c ns r := by
  unfold ChildPass.Completes at h
  obtain ⟨ns, r, happlies⟩ := applies_of_result h
  have hpass : p.reconcile libs cfg c =
      applyInOrder (children libs cfg (p.answers libs c) p.obj ns r) :=
    happlies.pass cfg
  rw [hpass] at h
  refine ⟨ns, r, ⟨happlies.past, happlies.resolved, happlies.notHeld⟩, ?_, ?_⟩
  · rw [hpass]
    exact trace_of_applyInOrder_ok h
  · intro e he
    rw [hpass, trace_of_applyInOrder_ok h] at he
    obtain ⟨a, ha, rfl⟩ := List.mem_map.mp he
    rw [← answer_of_listed (mem_children_iff.mp ha)]
    exact List.all_eq_true.mp (all_of_applyInOrder_ok h) a ha

namespace Completed

/-- A completed pass issues the applies the spec asks for, and no others. -/
theorem applied_iff (h : Completed libs cfg p c ns r) {key : ObjectKey} :
    (∃ e ∈ (p.reconcile libs cfg c).trace, appliedKey e = some key) ↔
      key.1 ≠ .revocationConfigMap ∧ Asked libs p (.object key) := by
  have hcomes : comesToApply libs p.ans p.obj = some (ns, r) :=
    comesToApply_eq_some.mpr h.applies
  simp only [h.trace, mem_effects_iff]
  constructor
  · rintro ⟨e, ⟨answer, hlisted⟩, hkey⟩
    cases hlisted with
    | coordinationSecret hcopy =>
        cases hkey
        exact ⟨ObjectKind.noConfusion, (ns, r), hcomes, _, hcopy, rfl⟩
    | httpRoute hroute =>
        cases hkey
        exact ⟨ObjectKind.noConfusion, _, hroute, rfl⟩
    | hpa hhpa =>
        cases hkey
        exact ⟨ObjectKind.noConfusion, _, hhpa, rfl⟩
    | pdb hpdb =>
        cases hkey
        exact ⟨ObjectKind.noConfusion, _, hpdb, rfl⟩
    | _ => cases hkey
  · rintro ⟨hkind, hasked⟩
    obtain ⟨kind, name⟩ := key
    cases kind with
    | hpa =>
        obtain ⟨hpa, hbuild, rfl⟩ := hasked
        exact ⟨_, ⟨_, .hpa hbuild⟩, rfl⟩
    | podDisruptionBudget =>
        obtain ⟨pdb, hbuild, rfl⟩ := hasked
        exact ⟨_, ⟨_, .pdb hbuild⟩, rfl⟩
    | httpRoute =>
        obtain ⟨route, hbuild, rfl⟩ := hasked
        exact ⟨_, ⟨_, .httpRoute hbuild⟩, rfl⟩
    | coordinationSecret =>
        obtain ⟨found, hfound, secret, hcopy, rfl⟩ := hasked
        cases hcomes.symm.trans hfound
        exact ⟨_, ⟨_, .coordinationSecret hcopy⟩, rfl⟩
    | revocationConfigMap => exact absurd rfl hkind

theorem deleted_iff (h : Completed libs cfg p c ns r) {key : ObjectKey} :
    (∃ e ∈ (p.reconcile libs cfg c).trace, deletedKey e = some key) ↔
      key = (.podDisruptionBudget, childName p.obj "gateway") ∧
        buildPdb libs.render.gateway p.obj = none := by
  simp only [h.trace, mem_effects_iff]
  constructor
  · rintro ⟨e, ⟨answer, hlisted⟩, hkey⟩
    cases hlisted with
    | stalePdb hnone =>
        cases hkey
        exact ⟨rfl, hnone⟩
    | _ => cases hkey
  · rintro ⟨rfl, hnone⟩
    exact ⟨_, ⟨_, .stalePdb hnone⟩, rfl⟩

theorem mem_effectOps_iff (h : Completed libs cfg p c ns r) {e : Effect}
    (he : e ∈ (p.reconcile libs cfg c).trace) {op : Op ObjectKey String} :
    op ∈ p.effectOps e ↔
      (∃ key, appliedKey e = some key ∧ op = .create key [edgeUid p.obj]) ∨
        ∃ key, deletedKey e = some key ∧ p.lands key = true ∧
          op = .delete key := by
  have hanswered : (appliedKey e).isSome = true →
      (answerTo p.ans e).isOk = true := by
    intro hkey
    have hok := h.answered e he
    cases e with
    | reconcileEdgeDomains => cases hkey
    | _ => exact hok
  unfold ChildPass.effectOps
  rw [List.mem_append, List.mem_flatMap]
  refine or_congr ?_ ?_
  · constructor
    · rintro ⟨key, hkey, hop⟩
      have hkey := Option.mem_toList.mp hkey
      rw [ChildPass.applyOps, hanswered (by rw [hkey]; rfl),
        Bool.true_or, if_pos rfl] at hop
      exact ⟨key, hkey, List.mem_singleton.mp hop⟩
    · rintro ⟨key, hkey, rfl⟩
      refine ⟨key, Option.mem_toList.mpr hkey, ?_⟩
      rw [ChildPass.applyOps, hanswered (by rw [hkey]; rfl),
        Bool.true_or, if_pos rfl]
      exact List.mem_singleton_self _
  · simp only [List.mem_map, List.mem_filter, Option.mem_toList,
      and_assoc, eq_comm (a := op)]

theorem named_by_effects_iff (h : Completed libs cfg p c ns r)
    {key : ObjectKey} :
    (∃ op ∈ (p.reconcile libs cfg c).trace.flatMap p.effectOps,
        op.key = key) ↔
      (key.1 ≠ .revocationConfigMap ∧ Asked libs p (.object key)) ∨
        (key = (.podDisruptionBudget, childName p.obj "gateway") ∧
          buildPdb libs.render.gateway p.obj = none) ∧
          p.lands key = true := by
  rw [← h.applied_iff, ← h.deleted_iff]
  constructor
  · rintro ⟨op, hop, rfl⟩
    obtain ⟨e, he, hop⟩ := List.mem_flatMap.mp hop
    rcases (h.mem_effectOps_iff he).mp hop with
      ⟨key, hkey, rfl⟩ | ⟨key, hkey, hlands, rfl⟩
    · exact .inl ⟨e, he, hkey⟩
    · exact .inr ⟨⟨e, he, hkey⟩, hlands⟩
  · rintro (⟨e, he, hkey⟩ | ⟨⟨e, he, hkey⟩, hlands⟩)
    · exact ⟨_, List.mem_flatMap.mpr ⟨e, he, (h.mem_effectOps_iff he).mpr
        (.inl ⟨key, hkey, rfl⟩)⟩, rfl⟩
    · exact ⟨_, List.mem_flatMap.mpr ⟨e, he, (h.mem_effectOps_iff he).mpr
        (.inr ⟨key, hkey, hlands, rfl⟩)⟩, rfl⟩

theorem mem_revocationOps_iff (h : Completed libs cfg p c ns r)
    {op : Op ObjectKey String} :
    op ∈ p.revocationOps libs ↔
      ∃ key, key.1 = .revocationConfigMap ∧ Asked libs p (.object key) ∧
        (p.ans.resolve.applyRevocationCm.isOk = true ∨
          p.lands key = true) ∧
        op = .create key [edgeUid p.obj] := by
  unfold ChildPass.revocationOps ChildPass.applyOps
  rw [if_pos (reachesRevocationList_of_applies h.applies), List.mem_flatMap]
  constructor
  · rintro ⟨cm, hcm, hop⟩
    split at hop
    · next htakes =>
        exact ⟨(.revocationConfigMap, cm.name.getD ""), rfl,
          ⟨cm, Option.mem_toList.mp hcm, rfl⟩,
          Bool.or_eq_true _ _ ▸ htakes, List.mem_singleton.mp hop⟩
    · cases hop
  · rintro ⟨⟨kind, name⟩, rfl, ⟨cm, hcm, rfl⟩, htakes, rfl⟩
    refine ⟨cm, Option.mem_toList.mpr hcm, ?_⟩
    rw [if_pos (by simpa using htakes)]
    exact List.mem_singleton_self _

/-- The writes of a completed pass are about the objects it renews. -/
theorem named_iff (h : Completed libs cfg p c ns r) {key : ObjectKey} :
    (∃ op ∈ p.ops libs cfg c, op.key = key) ↔
      Renews libs p (.object key) := by
  have hops : (∃ op ∈ p.ops libs cfg c, op.key = key) ↔
      (∃ op ∈ p.revocationOps libs, op.key = key) ∨
        ∃ op ∈ (p.reconcile libs cfg c).trace.flatMap p.effectOps,
          op.key = key := by
    simp only [ChildPass.ops, List.mem_append, or_and_right, exists_or]
  have hrevocation : (∃ op ∈ p.revocationOps libs, op.key = key) ↔
      key.1 = .revocationConfigMap ∧ Asked libs p (.object key) ∧
        (p.ans.resolve.applyRevocationCm.isOk = true ∨
          p.lands key = true) := by
    simp only [h.mem_revocationOps_iff]
    constructor
    · rintro ⟨_, ⟨key', hkind, hasked, htakes, rfl⟩, rfl⟩
      exact ⟨hkind, hasked, htakes⟩
    · rintro ⟨hkind, hasked, htakes⟩
      exact ⟨_, ⟨key, hkind, hasked, htakes, rfl⟩, rfl⟩
  rw [hops, hrevocation, h.named_by_effects_iff]
  obtain ⟨kind, name⟩ := key
  cases kind with
  | revocationConfigMap => simp [Renews]
  | podDisruptionBudget =>
      constructor
      · rintro (⟨hkind, _⟩ | ⟨_, hasked⟩ | ⟨⟨heq, hnone⟩, hlands⟩)
        · cases hkind
        · exact .inl hasked
        · cases heq
          exact .inr ⟨hnone, rfl, hlands⟩
      · rintro (hasked | ⟨hnone, rfl, hlands⟩)
        · exact .inr (.inl ⟨ObjectKind.noConfusion, hasked⟩)
        · exact .inr (.inr ⟨⟨rfl, hnone⟩, hlands⟩)
  | hpa | httpRoute | coordinationSecret => simp [Renews]

theorem asked_of_create (h : Completed libs cfg p c ns r) {key : ObjectKey}
    {owners : List String} (hop : .create key owners ∈ p.ops libs cfg c) :
    Asked libs p (.object key) := by
  rcases List.mem_append.mp hop with hrevocation | heffect
  · obtain ⟨key', _, hasked, _, heq⟩ := h.mem_revocationOps_iff.mp hrevocation
    cases heq
    exact hasked
  · obtain ⟨e, he, hop⟩ := List.mem_flatMap.mp heffect
    rcases (h.mem_effectOps_iff he).mp hop with
      ⟨key', hkey, heq⟩ | ⟨_, _, _, heq⟩
    · cases heq
      exact (h.applied_iff.mp ⟨e, he, hkey⟩).2
    · cases heq

theorem edge_after (h : Completed libs cfg p c ns r) :
    (p.after libs cfg c).edge =
      if p.obj.spec.cloud = none then c.edge else (p.wire libs c.edge).1 := by
  unfold ChildPass.after
  rw [h.trace]
  dsimp only
  by_cases hcloud : p.obj.spec.cloud = none
  · rw [if_pos hcloud,
      if_neg fun hmem => edge_mem_effects_iff.mp hmem hcloud]
  · rw [if_neg hcloud, if_pos (edge_mem_effects_iff.mpr hcloud)]

/-- The same pass over anything else completes, too. -/
theorem other (h : Completed libs cfg p c ns r) (c' : Children) :
    Completed libs cfg p c' ns r := by
  obtain ⟨happlies, htrace, hanswered⟩ := h
  rw [reconcile_eq libs cfg p c c', answers_eq libs p c c'] at htrace
  rw [reconcile_eq libs cfg p c c', answers_eq libs p c c'] at hanswered
  exact ⟨happlies, htrace, hanswered⟩

/-- Its edge wiring ended well. -/
theorem wire_ok (h : Completed libs cfg p c ns r)
    (hcloud : p.obj.spec.cloud ≠ none) : (p.wire libs c.edge).2 = .ok () := by
  have hmem : Effect.reconcileEdgeDomains ∈ (p.reconcile libs cfg c).trace := by
    rw [h.trace]
    exact edge_mem_effects_iff.mpr hcloud
  have hok : (p.wire libs c.edge).2.isOk = true := h.answered _ hmem
  cases hwire : (p.wire libs c.edge).2 with
  | ok _ => rfl
  | error e =>
      rw [hwire] at hok
      cases hok

/-- What is at the edge after the pass, over a gateway in the cloud. -/
theorem edge_ok (h : Completed libs cfg p c ns r)
    (hcloud : p.obj.spec.cloud ≠ none)
    (hlabelled : Labelled (edgeUid p.obj) c.edge) (name : String) :
    ((p.after libs cfg c).Has (.listener name) ↔
      if (p.edge (listenersRequest libs.sha256Hex p.obj)).takesEffect then
        Asked libs p (.listener name)
      else c.Has (.listener name)) ∧
    ((p.after libs cfg c).Has (.certificate name) ↔
      (c.Has (.certificate name) ∨ Asked libs p (.certificate name)) ∧
        (Asked libs p (.certificate name) ∨
          ¬ Collects p.edge (edgeUid p.obj) name)) := by
  obtain ⟨hlisteners, hcerts⟩ :=
    wireEdge_ok hcloud hlabelled (h.wire_ok hcloud)
  have hedge := h.edge_after
  rw [if_neg hcloud] at hedge
  unfold Children.Has
  rw [hedge]
  refine ⟨?_, hcerts name⟩
  show name ∈ (p.wire libs c.edge).1.listeners.map (·.name) ↔ _
  have hwire : (p.wire libs c.edge).1.listeners = _ := hlisteners
  rw [hwire]
  split
  · simp [Asked, buildEdgeListenerApply]
  · rfl

/-- What there was before makes a difference only to a child the pass does
not renew. -/
theorem has_after_iff_iff (h : Completed libs cfg p c ns r)
    (hlabelled : Labelled (edgeUid p.obj) c.edge) (child : Child) :
    ((p.after libs cfg c).Has child ↔ (p.after libs cfg {}).Has child) ↔
      (c.Has child → Renews libs p child) := by
  have hnone : Labelled (edgeUid p.obj) ({} : Children).edge :=
    labelled_empty
  have hempty := h.other {}
  cases child with
  | object key =>
      rw [← h.named_iff]
      show (key ∈ Ownership.keys (Ownership.run c.objects
          (p.ops libs cfg c)) ↔
        key ∈ Ownership.keys (Ownership.run [] (p.ops libs cfg {}))) ↔ _
      rw [ops_eq libs cfg p {} c]
      exact Ownership.mem_keys_run_forgets_iff
  | listener name =>
      by_cases hcloud : p.obj.spec.cloud = none
      · rw [Children.Has, Children.Has, h.edge_after, hempty.edge_after,
          if_pos hcloud, if_pos hcloud]
        simp [Renews, hcloud, Children.Has, EdgeStore.listenerNames]
      · rw [(h.edge_ok hcloud hlabelled name).1,
          (hempty.edge_ok hcloud hnone name).1]
        cases htakes : (p.edge
          (listenersRequest libs.sha256Hex p.obj)).takesEffect with
        | true => simp [Renews, hcloud, htakes]
        | false => simp [Renews, htakes, Children.Has, EdgeStore.listenerNames]
  | certificate name =>
      by_cases hcloud : p.obj.spec.cloud = none
      · rw [Children.Has, Children.Has, h.edge_after, hempty.edge_after,
          if_pos hcloud, if_pos hcloud]
        simp [Renews, hcloud, Children.Has, EdgeStore.certNames]
      · rw [(h.edge_ok hcloud hlabelled name).2,
          (hempty.edge_ok hcloud hnone name).2]
        have hbefore : ¬ ({} : Children).Has (.certificate name) :=
          List.not_mem_nil
        simp only [Renews, hbefore, false_or]
        tauto

/-- Where there was nothing before, there is nothing that is not asked
for. -/
theorem asked_of_has_after_empty (h : Completed libs cfg p {} ns r)
    {child : Child} (hhas : (p.after libs cfg {}).Has child) :
    Asked libs p child := by
  have hnone : Labelled (edgeUid p.obj) ({} : Children).edge :=
    labelled_empty
  cases child with
  | object key =>
      obtain ⟨o, ho, rfl⟩ := List.mem_map.mp hhas
      exact Ownership.forall_run (P := fun o => Asked libs p (.object o.1))
        (fun _ hmem => absurd hmem List.not_mem_nil)
        (fun _ _ hop => h.asked_of_create hop) o ho
  | listener name =>
      by_cases hcloud : p.obj.spec.cloud = none
      · rw [Children.Has, h.edge_after, if_pos hcloud] at hhas
        cases hhas
      · rw [(h.edge_ok hcloud hnone name).1] at hhas
        split at hhas
        · exact hhas
        · cases hhas
  | certificate name =>
      by_cases hcloud : p.obj.spec.cloud = none
      · rw [Children.Has, h.edge_after, if_pos hcloud] at hhas
        cases hhas
      · rw [(h.edge_ok hcloud hnone name).2] at hhas
        exact hhas.1.resolve_left List.not_mem_nil

end Completed

/-! ## Runs -/

variable {name uid : String} {s s' : State Backend Managed}

/-- The Certificates there are carry the uid of the gateway. -/
def Inv (uid : String) (s : State Backend Managed) : Prop :=
  Labelled uid s.children.edge

theorem inv_step (hinv : Inv uid s) (hover : Over name ns uid s p)
    (hstep : (life libs cfg).step s p = some s') : Inv uid s' := by
  have huid : edgeUid p.obj = uid := by
    rw [edgeUid, hover.2.2.1]
    rfl
  cases hstep
  show Labelled uid (p.after libs cfg s.children).edge
  unfold ChildPass.after
  dsimp only
  split
  · exact huid ▸ labelled_wireEdge (huid.symm ▸ hinv)
  · exact hinv

theorem inv_of_reachable (h : Reachable (life libs cfg) (Over name ns uid) s) :
    Inv uid s :=
  h.invariant (fun _ heq => by cases heq; exact labelled_empty)
    fun _ _ _ hinv hover hstep => inv_step hinv hover hstep

theorem step_of_completes (h : p.Completes libs cfg s.children) :
    (life libs cfg).step s p =
      some
        { children := p.after libs cfg s.children, completed := some p } := by
  simp only [life, if_pos h]

theorem settled_of_not_completed (h : s.completed = none) :
    Settled libs cfg s := by
  intro p hp
  rw [h] at hp
  cases hp

/-- A completed pass settles the children exactly where it is clean. -/
theorem settled_step_iff (hinv : Inv uid s) (hover : Over name ns uid s p)
    (hstep : (life libs cfg).step s p = some s')
    (hdone : p.Completes libs cfg s.children) :
    Settled libs cfg s' ↔
      ∀ child, s.children.Has child → Renews libs p child := by
  obtain ⟨ns', r, hcompleted⟩ := completed_of_completes hdone
  have hlabelled : Labelled (edgeUid p.obj) s.children.edge := by
    rw [edgeUid, hover.2.2.1]
    exact hinv
  have hall : (∀ child, (p.after libs cfg s.children).Has child ↔
      (p.after libs cfg {}).Has child) ↔
      ∀ child, s.children.Has child → Renews libs p child :=
    forall_congr' (hcompleted.has_after_iff_iff hlabelled)
  cases hstep
  rw [← hall]
  unfold Settled
  simp only [if_pos hdone, Option.mem_def, Option.some.injEq, forall_eq']
  refine ⟨And.left, fun h => ⟨h, fun child hhas => ?_⟩⟩
  exact (hcompleted.other {}).asked_of_has_after_empty ((h child).mp hhas)

end Pass

/-! ## Settled children -/

/-- Where every completed pass of a run renews whatever is there, what is
there is a function of the last one; and a pass that settles the children
renewed them. -/
theorem settled_iff_clean (libs : GatewayLibs Backend Managed)
    (cfg : OperatorConfig) (name ns uid : String) :
    (∀ s, Reachable (life libs cfg)
        (fun s p => Over name ns uid s p ∧ Clean libs cfg s p) s →
      Settled libs cfg s) ∧
    (∀ s p s', Reachable (life libs cfg) (Over name ns uid) s →
      Over name ns uid s p → (life libs cfg).step s p = some s' →
      (Settled libs cfg s' ↔ Clean libs cfg s p)) := by
  have hexact : ∀ s p s', Reachable (life libs cfg) (Over name ns uid) s →
      Over name ns uid s p → (life libs cfg).step s p = some s' →
      (Settled libs cfg s' ↔ Clean libs cfg s p) := by
    intro s p s' hs hover hstep
    by_cases hdone : p.Completes libs cfg s.children
    · rw [settled_step_iff (inv_of_reachable hs) hover hstep hdone]
      exact ⟨fun h _ => h, fun h => h hdone⟩
    · have hnone : s'.completed = none := by
        cases hstep
        exact if_neg hdone
      exact ⟨fun _ h => absurd h hdone, fun _ =>
        settled_of_not_completed hnone⟩
  refine ⟨fun s hs => ?_, hexact⟩
  cases hs with
  | init heq => exact settled_of_not_completed (congrArg State.completed heq)
  | step hs hok hstep =>
      have hany := hs.mono fun _ _ h => h.1
      exact (hexact _ _ _ hany hok.1 hstep).mpr hok.2

namespace Sample

open McpgOperator.Gateway.Sample (libs cfg answers)

/-- A gateway of one tenant, outside the cloud. -/
def gateway (replicas : Int) (autoscaling : Option HorizontalAutoscaler) :
    MCPGGateway :=
  { metadata :=
      { name := some "edge", namespace_ := some "payments"
        uid := some "uid-1", finalizers := some [operatorFinalizer] }
    spec :=
      { image := { tag := some "0.1.0-beta.60" }, config := .obj []
        replicas := replicas, autoscaling := autoscaling } }

/-- A pass in which every request succeeds. -/
def pass (obj : MCPGGateway) : ChildPass String Unit where
  obj := obj
  ans := answers
  lands _ := true
  issuer := none
  edge _ := { error := none, landed := true }

def autoscaled : ChildPass String Unit :=
  pass (gateway 1 (some { enabled := true, maxReplicas := some 5 }))

/-- With the block removed. -/
def single : ChildPass String Unit := pass (gateway 1 none)

def replicated : ChildPass String Unit := pass (gateway 3 none)

def initial : State String Unit := { children := {}, completed := none }

theorem over_pass (s : State String Unit) (replicas : Int)
    (autoscaling : Option HorizontalAutoscaler) :
    Over "edge" "payments" "uid-1" s (pass (gateway replicas autoscaling)) :=
  ⟨rfl, rfl, rfl, rfl⟩

/-- The budget of the five replicas goes with it. -/
def scaledOut : Children :=
  { objects :=
      [((.podDisruptionBudget, "edge-gateway"), ["uid-1"]),
        ((.hpa, "edge-gateway"), ["uid-1"])] }

def scaledUp : Children :=
  { objects := [((.podDisruptionBudget, "edge-gateway"), ["uid-1"])] }

theorem step_autoscaled : (life libs cfg).step initial autoscaled =
    some { children := scaledOut, completed := some autoscaled } := by
  have hafter : autoscaled.after libs cfg {} = scaledOut := by decide
  rw [← hafter]
  exact step_of_completes (by decide)

theorem step_replicated : (life libs cfg).step initial replicated =
    some { children := scaledUp, completed := some replicated } := by
  have hafter : replicated.after libs cfg {} = scaledUp := by decide
  rw [← hafter]
  exact step_of_completes (by decide)

/-- The autoscaler outlives its block in the spec, the budget does not. -/
example : (single.after libs cfg scaledOut).objects =
    [((.hpa, "edge-gateway"), ["uid-1"])] := by decide

theorem clean_initial (p : ChildPass String Unit) :
    Clean libs cfg initial p := by
  intro _ child hhas
  cases child <;> cases hhas

theorem clean_scaledUp (completed : Option (ChildPass String Unit)) :
    Clean libs cfg { children := scaledUp, completed := completed }
      single := by
  intro _ child hhas
  cases child with
  | object key =>
      cases List.mem_singleton.mp hhas
      exact .inr ⟨by decide, by decide, rfl⟩
  | listener name => cases hhas
  | certificate name => cases hhas

end Sample

section

open Sample
open McpgOperator.Gateway.Sample (libs cfg)

/-- A gateway that is scaled down to one replica loses its budget. -/
theorem settled_scaledDown :
    Settled libs cfg
      { children := single.after libs cfg scaledUp
        completed := some single } :=
  (settled_iff_clean libs cfg "edge" "payments" "uid-1").1 _
    (.step
      (.step (.init rfl) ⟨over_pass initial 3 none, clean_initial replicated⟩
        step_replicated)
      ⟨over_pass _ 1 none, clean_scaledUp _⟩ (step_of_completes (by decide)))

/-- One that was autoscaled, and is not any more, keeps its autoscaler. -/
theorem not_settled_single :
    ¬ ∀ s, Reachable (life libs cfg) (Over "edge" "payments" "uid-1") s →
      Settled libs cfg s := by
  intro h
  have hs : Reachable (life libs cfg) (Over "edge" "payments" "uid-1")
      { children := scaledOut, completed := some autoscaled } :=
    .step (.init rfl) (over_pass initial 1 _) step_autoscaled
  have hdone : single.Completes libs cfg scaledOut := by decide
  have hstep := step_of_completes (s := ⟨scaledOut, some autoscaled⟩) hdone
  have hover := over_pass (⟨scaledOut, some autoscaled⟩) 1 none
  have hrenews := (settled_step_iff (inv_of_reachable hs) hover hstep
    hdone).mp (h _ (.step hs hover hstep))
  obtain ⟨hpa, hnone, _⟩ := hrenews (.object (.hpa, "edge-gateway"))
    (List.mem_cons_of_mem _ List.mem_cons_self)
  cases hnone

end

end McpgOperator.OptionalChildren
