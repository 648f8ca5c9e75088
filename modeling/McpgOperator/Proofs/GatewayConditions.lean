import McpgOperator.Gateway.Status
import McpgOperator.Proofs.GatewayPass

/-!
# Whether a gateway's conditions say what its last pass found

Every pass starts from the conditions the last one left and sets some of
them. What it does not set stays: `Available` through a pass that finds too
few replicas, `Progressing` through one that finds them all, the condition of
a reference through the passes after the reference is gone, and through a
held pass everything but `Ready` and the cluster. Only the alignment with the
authorization server is taken back when there is nothing to say of it.

So a pass leaves consistent conditions exactly when it meets none that it
neither sets nor agrees with.
-/

namespace McpgOperator.Gateway

open McpgOperator.Kube McpgOperator.Templates McpgOperator.Cluster

/-! ## What the conditions should say -/

/-- There are replicas, and no fewer than wanted. -/
def Enough (obj : MCPGGateway) (seen : Int) : Prop :=
  0 < seen ∧ effectiveReplicas obj ≤ seen

instance (obj : MCPGGateway) (seen : Int) :
    Decidable (Enough obj seen) :=
  inferInstanceAs (Decidable (_ ∧ _))

/-- The conditions fit what the pass found. -/
structure Consistent (obj : MCPGGateway) (r : Resolved) (seen : Int)
    (cs : List Condition) : Prop where
  verdict : readyTrue cs = true →
    saysTrue CType.available cs = true ∧
      saysTrue CType.progressing cs = false
  available : saysTrue CType.available cs = true → Enough obj seen
  progressing : saysTrue CType.progressing cs = true →
    ¬ Enough obj seen
  pluginSet : Carries CondType.pluginSetReady (r.pluginSetCondition obj) cs
  revocationList :
    Carries CondType.revocationListReady (r.revocationListCondition obj) cs
  cluster : Carries CondType.clusterReady (r.clusterCondition obj) cs

/-! ## What a pass has to meet -/

/-- A pass that applies meets no condition that it leaves as it is and
should not. -/
structure Meets (obj : MCPGGateway) (r : Resolved) (seen : Int)
    (cs : List Condition) : Prop where
  noSurplus : Enough obj seen → seen = effectiveReplicas obj
  progressing : Enough obj seen →
    saysTrue CType.progressing cs = false
  available : ¬ Enough obj seen → saysTrue CType.available cs = false
  pluginSet : r.pluginSet = none → Absent CondType.pluginSetReady cs
  revocationList : r.revocationList = none →
    Absent CondType.revocationListReady cs
  cluster : r.cluster = none → Absent CondType.clusterReady cs

/-- A held pass leaves all but Ready and the cluster. -/
structure MeetsHeld (obj : MCPGGateway) (r : Resolved) (seen : Int)
    (cs : List Condition) : Prop where
  available : saysTrue CType.available cs = true → Enough obj seen
  progressing : saysTrue CType.progressing cs = true →
    ¬ Enough obj seen
  pluginSet : Carries CondType.pluginSetReady (r.pluginSetCondition obj) cs
  revocationList :
    Carries CondType.revocationListReady (r.revocationListCondition obj) cs

/-! ## The types of the references' conditions -/

structure Resolved.WellTyped (r : Resolved) : Prop where
  pluginSet : ∀ p ∈ r.pluginSet, p.condition.type = CondType.pluginSetReady
  revocationList : ∀ l ∈ r.revocationList,
    l.condition.type = CondType.revocationListReady
  cluster : ∀ c ∈ r.cluster, c.condition.type = CondType.clusterReady

theorem type_viewOfConfigMap {libs : ResolveLibs}
    {set : PluginSet.MCPGPluginSet} {name hash : String}
    {cm : Option ConfigMap} :
    (viewOfConfigMap libs set name hash cm).condition.type =
      CondType.pluginSetReady := by
  unfold viewOfConfigMap
  cases cm with
  | none => rfl
  | some cm =>
      dsimp only
      split <;> rfl

theorem type_of_resolvePluginSet {libs : ResolveLibs} {ans : ResolveAnswers}
    {ns : String} {obj : MCPGGateway} {o : Option ResolvedPluginSet}
    (h : resolvePluginSet libs ans ns obj = .ok o) :
    ∀ p ∈ o, p.condition.type = CondType.pluginSetReady := by
  unfold resolvePluginSet at h
  split at h
  · cases h
    intro p hp
    cases hp
  obtain ⟨set, -, h⟩ := Except.of_bind_ok h
  cases set with
  | none =>
      cases h
      rintro p ⟨⟩
      rfl
  | some set =>
      dsimp only at h
      split at h
      · cases h
        rintro p ⟨⟩
        rfl
      · obtain ⟨cm, -, h⟩ := Except.of_bind_ok h
        cases h
        rintro p ⟨⟩
        exact type_viewOfConfigMap

theorem type_of_resolveRevocationList {libs : ResolveLibs}
    {ans : ResolveAnswers} {obj : MCPGGateway}
    {o : Option ResolvedRevocationList}
    (h : resolveRevocationList libs ans obj = .ok o) :
    ∀ l ∈ o, l.condition.type = CondType.revocationListReady := by
  obtain ⟨rl, -, h⟩ := Except.of_bind_ok h
  cases rl with
  | none =>
      dsimp only at h
      split at h
      · cases h
        rintro l ⟨⟩
        rfl
      · cases h
        intro l hl
        cases hl
  | some rl =>
      dsimp only at h
      split at h <;>
      · cases h
        rintro l ⟨⟩
        rfl

section Cluster

variable {Backend Managed : Type} {gatewayApi : GatewayApi}
  {clusterApi : ClusterApi Backend Managed} {obj : MCPGGateway}

theorem type_classifyClusterBinding
    {cluster : Option (MCPGCluster Backend Managed)} :
    (classifyClusterBinding gatewayApi clusterApi obj
      cluster).condition.type = CondType.clusterReady := by
  unfold classifyClusterBinding
  cases cluster with
  | none => rfl
  | some cluster =>
      dsimp only
      split
      · rfl
      · split <;> rfl

theorem type_of_resolveCluster {reads : ClusterReads Backend Managed}
    {o : Option ResolvedCluster}
    (h : resolveCluster gatewayApi clusterApi reads obj = .ok o) :
    ∀ c ∈ o, c.condition.type = CondType.clusterReady := by
  unfold resolveCluster at h
  split at h
  · cases h
    intro c hc
    cases hc
  obtain ⟨cluster, -, h⟩ := Except.of_bind_ok h
  dsimp only at h
  split at h
  · obtain ⟨coordination, -, h⟩ := Except.of_bind_ok h
    cases h
    rintro c ⟨⟩
    exact type_classifyClusterBinding
  · cases h
    rintro c ⟨⟩
    exact type_classifyClusterBinding

end Cluster

section Steps

variable {Backend Managed : Type} {libs : GatewayLibs Backend Managed}
  {cfg : OperatorConfig} {ans : GatewayAnswers Backend Managed}
  {obj : MCPGGateway} {ns : String} {r : Resolved}

theorem wellTyped_of_resolveStep (h : resolveStep libs ans obj ns = .ok r) :
    r.WellTyped := by
  obtain ⟨hset, hlist, hcluster⟩ := of_resolveStep_ok h
  exact ⟨type_of_resolvePluginSet hset, type_of_resolveRevocationList hlist,
    type_of_resolveCluster hcluster⟩

theorem Resolved.WellTyped.conditions (h : r.WellTyped)
    (obj : MCPGGateway) :
    (∀ c ∈ r.pluginSetCondition obj, c.type = CondType.pluginSetReady) ∧
      (∀ c ∈ r.revocationListCondition obj,
        c.type = CondType.revocationListReady) ∧
      ∀ c ∈ r.clusterCondition obj, c.type = CondType.clusterReady := by
  refine ⟨?_, ?_, ?_⟩
  · intro c hc
    obtain ⟨p, hp, rfl⟩ := Option.map_eq_some_iff.mp hc
    exact h.pluginSet p hp
  · intro c hc
    obtain ⟨l, hl, rfl⟩ := Option.map_eq_some_iff.mp hc
    exact h.revocationList l hl
  · intro c hc
    obtain ⟨k, hk, rfl⟩ := Option.map_eq_some_iff.mp hc
    exact h.cluster k hk

/-! ## A pass that applies -/

variable {api : ConditionsApi} {seen : Int} {cs : List Condition}
  {alignment : Option Condition}

theorem sameOfType_setReferences (hr : r.WellTyped) {t : String}
    (hset : CondType.pluginSetReady ≠ t)
    (hlist : CondType.revocationListReady ≠ t)
    (hcluster : CondType.clusterReady ≠ t) :
    SameOfType t cs (r.setReferences obj api cs) := by
  obtain ⟨tset, tlist, tcluster⟩ := hr.conditions obj
  unfold Resolved.setReferences
  dsimp only
  exact ((SameOfType.setOptional tset hset).trans
    (.setOptional tlist hlist)).trans (.setOptional tcluster hcluster)

/-- What the plugin set came to is there, unless it came to nothing and an
old condition stays. The other two references are alike. -/
theorem carries_pluginSet (hr : r.WellTyped) :
    Carries CondType.pluginSetReady (r.pluginSetCondition obj)
        (r.setReferences obj api cs) ↔
      (r.pluginSet = none → Absent CondType.pluginSetReady cs) := by
  obtain ⟨tset, tlist, tcluster⟩ := hr.conditions obj
  have hnone : r.pluginSetCondition obj = none ↔ r.pluginSet = none :=
    Option.map_eq_none_iff
  have hlater : SameOfType CondType.pluginSetReady
      (api.setOptional cs (r.pluginSetCondition obj))
      (r.setReferences obj api cs) :=
    .trans (.setOptional tlist (by decide)) (.setOptional tcluster (by decide))
  rw [hlater.carries, carries_setOptional_iff tset, hnone]

theorem carries_revocationList (hr : r.WellTyped) :
    Carries CondType.revocationListReady (r.revocationListCondition obj)
        (r.setReferences obj api cs) ↔
      (r.revocationList = none →
        Absent CondType.revocationListReady cs) := by
  obtain ⟨tset, tlist, tcluster⟩ := hr.conditions obj
  have hnone : r.revocationListCondition obj = none ↔
      r.revocationList = none := Option.map_eq_none_iff
  have hearlier : SameOfType CondType.revocationListReady cs
      (api.setOptional cs (r.pluginSetCondition obj)) :=
    .setOptional tset (by decide)
  have hlater : SameOfType CondType.revocationListReady
      (api.setOptional (api.setOptional cs (r.pluginSetCondition obj))
        (r.revocationListCondition obj))
      (r.setReferences obj api cs) := .setOptional tcluster (by decide)
  rw [hlater.carries, carries_setOptional_iff tlist, hearlier.absent, hnone]

theorem carries_cluster (hr : r.WellTyped) :
    Carries CondType.clusterReady (r.clusterCondition obj)
        (r.setReferences obj api cs) ↔
      (r.cluster = none → Absent CondType.clusterReady cs) := by
  obtain ⟨tset, tlist, tcluster⟩ := hr.conditions obj
  have hnone : r.clusterCondition obj = none ↔ r.cluster = none :=
    Option.map_eq_none_iff
  have hearlier : SameOfType CondType.clusterReady cs
      (api.setOptional (api.setOptional cs (r.pluginSetCondition obj))
        (r.revocationListCondition obj)) :=
    .trans (.setOptional tset (by decide)) (.setOptional tlist (by decide))
  unfold Resolved.setReferences
  dsimp only
  rw [carries_setOptional_iff tcluster, hearlier.absent, hnone]

theorem sameOfType_setAlignment
    (ha : ∀ c ∈ alignment, c.type = CondType.authorizationServerAligned)
    {t : String} (ht : CondType.authorizationServerAligned ≠ t) :
    SameOfType t cs (setAlignment api obj alignment cs) := by
  cases alignment with
  | none => exact .filter ht.symm
  | some c =>
      refine .setCondition ?_
      have htype : (observed obj c).type =
          CondType.authorizationServerAligned := ha c rfl
      rw [htype]
      exact ht

theorem sameOfType_setVerdict {t : String} (hready : CType.ready ≠ t)
    (havailable : CType.available ≠ t) (hprogressing : CType.progressing ≠ t) :
    SameOfType t cs (setVerdict api obj seen cs) := by
  unfold setVerdict
  split
  · exact .trans (.setCondition hready) (.setCondition havailable)
  · exact .trans (.setCondition hready) (.setCondition hprogressing)

theorem allReplicasAvailable_iff :
    allReplicasAvailable obj seen = true ↔
      Enough obj seen ∧ seen = effectiveReplicas obj := by
  unfold allReplicasAvailable Enough
  rw [Bool.and_eq_true, decide_eq_true_eq, beq_iff_eq]
  constructor
  · rintro ⟨hpos, heq⟩
    exact ⟨⟨hpos, heq.ge⟩, heq⟩
  · rintro ⟨⟨hpos, -⟩, heq⟩
    exact ⟨hpos, heq⟩

theorem readyTrue_setVerdict :
    readyTrue (setVerdict api obj seen cs) =
      allReplicasAvailable obj seen := by
  have havailable : CType.available ≠ CType.ready := by decide
  have hprogressing : CType.progressing ≠ CType.ready := by decide
  show saysTrue CType.ready _ = _
  unfold setVerdict
  split
  · next h =>
    rw [h]
    exact (SameOfType.setCondition havailable).saysTrue.trans
      (saysTrue_setCondition cs _)
  · next h =>
    rw [Bool.eq_false_iff.mpr h]
    exact (SameOfType.setCondition hprogressing).saysTrue.trans
      (saysTrue_setCondition cs _)

/-- `Available` is only ever set to True. -/
theorem available_setVerdict :
    saysTrue CType.available (setVerdict api obj seen cs) =
      (allReplicasAvailable obj seen || saysTrue CType.available cs) := by
  have hready : CType.ready ≠ CType.available := by decide
  have hprogressing : CType.progressing ≠ CType.available := by decide
  unfold setVerdict
  split
  · next h =>
    rw [h, Bool.true_or]
    exact saysTrue_setCondition _ _
  · next h =>
    rw [Bool.eq_false_iff.mpr h, Bool.false_or]
    exact ((SameOfType.setCondition hready).trans
      (.setCondition hprogressing)).saysTrue

/-- And so is `Progressing`. -/
theorem progressing_setVerdict :
    saysTrue CType.progressing (setVerdict api obj seen cs) =
      (!allReplicasAvailable obj seen ||
        saysTrue CType.progressing cs) := by
  have hready : CType.ready ≠ CType.progressing := by decide
  have havailable : CType.available ≠ CType.progressing := by decide
  unfold setVerdict
  split
  · next h =>
    rw [h, Bool.not_true, Bool.false_or]
    exact ((SameOfType.setCondition hready).trans
      (.setCondition havailable)).saysTrue
  · next h =>
    rw [Bool.eq_false_iff.mpr h, Bool.not_false, Bool.true_or]
    exact saysTrue_setCondition _ _

/-- `merged`: the list a pass that applies makes of the one it read. -/
def Resolved.merged (r : Resolved) (api : ConditionsApi) (obj : MCPGGateway)
    (seen : Int) (alignment : Option Condition) (cs : List Condition) :
    List Condition :=
  setAlignment api obj alignment
    (r.setReferences obj api (setVerdict api obj seen cs))

section Merged

variable (hr : r.WellTyped)
  (ha : ∀ c ∈ alignment, c.type = CondType.authorizationServerAligned)
include hr ha

theorem sameOfType_merged {t : String}
    (hset : CondType.pluginSetReady ≠ t)
    (hlist : CondType.revocationListReady ≠ t)
    (hcluster : CondType.clusterReady ≠ t)
    (halignment : CondType.authorizationServerAligned ≠ t) :
    SameOfType t (setVerdict api obj seen cs)
      (r.merged api obj seen alignment cs) :=
  (sameOfType_setReferences hr hset hlist hcluster).trans
    (sameOfType_setAlignment ha halignment)

theorem readyTrue_merged :
    readyTrue (r.merged api obj seen alignment cs) =
      allReplicasAvailable obj seen :=
  (sameOfType_merged hr ha (t := CType.ready) (by decide) (by decide)
    (by decide) (by decide)).saysTrue.trans readyTrue_setVerdict

theorem available_merged :
    saysTrue CType.available (r.merged api obj seen alignment cs) =
      (allReplicasAvailable obj seen || saysTrue CType.available cs) :=
  (sameOfType_merged hr ha (by decide) (by decide) (by decide)
    (by decide)).saysTrue.trans available_setVerdict

theorem progressing_merged :
    saysTrue CType.progressing (r.merged api obj seen alignment cs) =
      (!allReplicasAvailable obj seen ||
        saysTrue CType.progressing cs) :=
  (sameOfType_merged hr ha (by decide) (by decide) (by decide)
    (by decide)).saysTrue.trans progressing_setVerdict

variable (obj api seen cs) in
/-- The references are right unless an old condition stays behind. -/
theorem carries_merged :
    (Carries CondType.pluginSetReady (r.pluginSetCondition obj)
        (r.merged api obj seen alignment cs) ↔
      (r.pluginSet = none → Absent CondType.pluginSetReady cs)) ∧
    (Carries CondType.revocationListReady (r.revocationListCondition obj)
        (r.merged api obj seen alignment cs) ↔
      (r.revocationList = none →
        Absent CondType.revocationListReady cs)) ∧
    (Carries CondType.clusterReady (r.clusterCondition obj)
        (r.merged api obj seen alignment cs) ↔
      (r.cluster = none → Absent CondType.clusterReady cs)) := by
  have hbefore : ∀ t, CType.ready ≠ t → CType.available ≠ t →
      CType.progressing ≠ t →
      (Absent t (setVerdict api obj seen cs) ↔ Absent t cs) :=
    fun t h₁ h₂ h₃ => (sameOfType_setVerdict h₁ h₂ h₃).absent
  have hafter : ∀ t, CondType.authorizationServerAligned ≠ t →
      SameOfType t (r.setReferences obj api (setVerdict api obj seen cs))
        (r.merged api obj seen alignment cs) :=
    fun t ht => sameOfType_setAlignment ha ht
  refine ⟨?_, ?_, ?_⟩
  · rw [(hafter _ (by decide)).carries, carries_pluginSet hr,
      hbefore _ (by decide) (by decide) (by decide)]
  · rw [(hafter _ (by decide)).carries, carries_revocationList hr,
      hbefore _ (by decide) (by decide) (by decide)]
  · rw [(hafter _ (by decide)).carries, carries_cluster hr,
      hbefore _ (by decide) (by decide) (by decide)]

/-- A pass that applies leaves consistent conditions exactly when it meets
none it should have reset. -/
theorem consistent_merged_iff :
    Consistent obj r seen (r.merged api obj seen alignment cs) ↔
      Meets obj r seen cs := by
  have hready : readyTrue (r.merged api obj seen alignment cs) =
      allReplicasAvailable obj seen := readyTrue_merged hr ha
  have havailable :
      saysTrue CType.available (r.merged api obj seen alignment cs) =
        (allReplicasAvailable obj seen || saysTrue CType.available cs) :=
    available_merged hr ha
  have hprogressing :
      saysTrue CType.progressing (r.merged api obj seen alignment cs) =
        (!allReplicasAvailable obj seen || saysTrue CType.progressing cs) :=
    progressing_merged hr ha
  obtain ⟨hset, hlist, hcluster⟩ := carries_merged obj api seen cs hr ha
  constructor
  · intro h
    have hall : Enough obj seen → allReplicasAvailable obj seen = true := by
      intro henough
      by_contra hnot
      refine h.progressing ?_ henough
      rw [hprogressing, Bool.eq_false_iff.mpr hnot]
      rfl
    refine ⟨?_, ?_, ?_, hset.mp h.pluginSet, hlist.mp h.revocationList,
      hcluster.mp h.cluster⟩
    · intro henough
      exact (allReplicasAvailable_iff.mp (hall henough)).2
    · intro henough
      by_contra hold
      refine h.progressing ?_ henough
      rw [hprogressing, Bool.eq_true_of_not_eq_false hold, Bool.or_true]
    · intro hfew
      by_contra hold
      refine hfew (h.available ?_)
      rw [havailable, Bool.eq_true_of_not_eq_false hold, Bool.or_true]
  · intro h
    refine ⟨?_, ?_, ?_, hset.mpr h.pluginSet, hlist.mpr h.revocationList,
      hcluster.mpr h.cluster⟩
    · intro hverdict
      rw [hready] at hverdict
      have henough := (allReplicasAvailable_iff.mp hverdict).1
      rw [havailable, hprogressing, hverdict, h.progressing henough]
      exact ⟨rfl, rfl⟩
    · intro htrue
      by_contra hfew
      have hnot : allReplicasAvailable obj seen = false :=
        Bool.eq_false_iff.mpr fun hall =>
          hfew (allReplicasAvailable_iff.mp hall).1
      rw [havailable, hnot, h.available hfew] at htrue
      cases htrue
    · intro htrue henough
      have hall : allReplicasAvailable obj seen = true :=
        allReplicasAvailable_iff.mpr ⟨henough, h.noSurplus henough⟩
      rw [hprogressing, hall, h.progressing henough] at htrue
      cases htrue

end Merged

/-! ## A held pass -/

variable {cluster : ResolvedCluster}

theorem sameOfType_held (hr : r.WellTyped)
    (hcluster : r.cluster = some cluster) {t : String}
    (ht : CondType.clusterReady ≠ t) (hready : CType.ready ≠ t) :
    SameOfType t (obj.status.getD {}).conditions
      (heldStatus libs ans obj cluster).conditions := by
  refine .setAll (List.forall_mem_cons.mpr ⟨?_, ?_⟩)
  · have htype : cluster.condition.type = CondType.clusterReady :=
      hr.cluster cluster hcluster
    rw [htype]
    exact ht
  · intro u hu
    rw [List.mem_singleton.mp hu]
    exact hready

theorem readyTrue_held :
    readyTrue (heldStatus libs ans obj cluster).conditions = false :=
  saysTrue_setCondition _ _

theorem carries_held (hr : r.WellTyped)
    (hcluster : r.cluster = some cluster) :
    Carries CondType.clusterReady (r.clusterCondition obj)
      (heldStatus libs ans obj cluster).conditions := by
  have htype : (observed obj cluster.condition).type =
      CondType.clusterReady := hr.cluster cluster hcluster
  have hready : CType.ready ≠ CondType.clusterReady := by decide
  have hsame : SameOfType CondType.clusterReady
      (libs.conditions.setCondition (obj.status.getD {}).conditions
        (observed obj cluster.condition))
      (heldStatus libs ans obj cluster).conditions := .setCondition hready
  rw [hsame.carries]
  unfold Resolved.clusterCondition
  rw [hcluster, ← htype]
  exact carries_setCondition _ _

/-- A held pass leaves consistent conditions exactly when all it carries
forward still fits. -/
theorem consistent_held_iff (hr : r.WellTyped)
    (hcluster : r.cluster = some cluster) :
    Consistent obj r seen (heldStatus libs ans obj cluster).conditions ↔
      MeetsHeld obj r seen (obj.status.getD {}).conditions := by
  have hsame : ∀ t, CondType.clusterReady ≠ t → CType.ready ≠ t →
      SameOfType t (obj.status.getD {}).conditions
        (heldStatus libs ans obj cluster).conditions :=
    fun t => sameOfType_held hr hcluster
  have havailable := (hsame CType.available (by decide)
    (by decide)).saysTrue
  have hprogressing := (hsame CType.progressing (by decide)
    (by decide)).saysTrue
  have hset := (hsame CondType.pluginSetReady (by decide)
    (by decide)).carries (o := r.pluginSetCondition obj)
  have hlist := (hsame CondType.revocationListReady (by decide)
    (by decide)).carries (o := r.revocationListCondition obj)
  constructor
  · intro h
    refine ⟨?_, ?_, hset.mp h.pluginSet, hlist.mp h.revocationList⟩
    · rw [← havailable]
      exact h.available
    · rw [← hprogressing]
      exact h.progressing
  · intro h
    refine ⟨?_, ?_, ?_, hset.mpr h.pluginSet, hlist.mpr h.revocationList,
      carries_held hr hcluster⟩
    · intro hready
      rw [readyTrue_held] at hready
      cases hready
    · rw [havailable]
      exact h.available
    · rw [hprogressing]
      exact h.progressing

end Steps

/-! ## What a pass reports -/

/-- What a pass is given, besides the gateway it reads. -/
structure Turn (Backend Managed : Type) where
  cfg : OperatorConfig
  ans : GatewayAnswers Backend Managed
  deployment : Option DeploymentStatus

/-- What a pass read, found and wrote. -/
structure Reported where
  obj : MCPGGateway
  resolved : Resolved
  /-- The replicas it knows to be available. -/
  seen : Int
  status : MCPGGatewayStatus

def Effect.status : Effect → Option MCPGGatewayStatus
  | .patchStatus status => some status
  | _ => none

/-- The conditions a pass starts from. -/
def storedConditions (obj : MCPGGateway) : List Condition :=
  (obj.status.getD {}).conditions

/-- A held pass reads no Deployment; what it knows is the count it carries
forward. -/
def availableSeen (obj : MCPGGateway) (r : Resolved)
    (deployment : Option DeploymentStatus) : Int :=
  match r.holding with
  | some _ => (obj.status.getD {}).availableReplicas.getD 0
  | none => (deployment.getD {}).availableReplicas.getD 0

variable {Backend Managed : Type}

/-- The conditions it wrote fit what it found. -/
def Reported.Consistent (rep : Reported) : Prop :=
  Gateway.Consistent rep.obj rep.resolved rep.seen rep.status.conditions

/-- It met no condition it should have reset. -/
def Reported.Careful (rep : Reported) : Prop :=
  match rep.resolved.holding with
  | none => Meets rep.obj rep.resolved rep.seen (storedConditions rep.obj)
  | some _ =>
      MeetsHeld rep.obj rep.resolved rep.seen (storedConditions rep.obj)

section Reports

variable {libs : GatewayLibs Backend Managed} {cfg : OperatorConfig}
  {ans : GatewayAnswers Backend Managed} {obj : MCPGGateway} {ns : String}
  {r : Resolved}

/-- No child is a status. -/
theorem status_applyInOrder_children :
    (applyInOrder (children libs cfg ans obj ns r)).trace.findSome?
      Effect.status = none := by
  rw [List.findSome?_eq_none_iff]
  intro e he
  obtain ⟨a, ha, rfl⟩ :=
    List.mem_map.mp ((applyInOrder_trace_initial _).subset he)
  cases mem_children_iff.mp ha <;> rfl

theorem applyInOrder_result
    (applies : List (Effect × Except KubeError Unit)) :
    (∃ e, (applyInOrder applies).result = .error e) ∨
      (applyInOrder applies).result = .ok .applied := by
  induction applies with
  | nil => exact .inr rfl
  | cons a rest ih =>
      obtain ⟨e, answer⟩ := a
      cases answer with
      | error x => exact .inl ⟨_, rfl⟩
      | ok _ => exact ih

theorem resolvedOf_eq (hpast : passNamespace ans obj = some ns)
    (hresolved : resolveStep libs ans obj ns = .ok r) :
    resolvedOf libs ans obj = some r := by
  unfold resolvedOf
  rw [namespace_of_passNamespace hpast, Option.bind_some, hresolved]
  rfl

/-- The status patch of a pass, if it makes one. -/
def Turn.status (turn : Turn Backend Managed)
    (libs : GatewayLibs Backend Managed) (obj : MCPGGateway) :
    Option MCPGGatewayStatus :=
  (reconcile libs turn.cfg turn.ans turn.deployment obj).1.findSome?
    Effect.status

section Status

variable {turn : Turn Backend Managed}

theorem status_held (hpast : passNamespace turn.ans obj = some ns)
    (hresolved : resolveStep libs turn.ans obj ns = .ok r)
    {cluster : ResolvedCluster} (hheld : r.holding = some cluster) :
    turn.status libs obj = some (heldStatus libs turn.ans obj cluster) := by
  unfold Turn.status reconcile
  rw [reconcileInner_of_passNamespace hpast, hresolved]
  dsimp only
  rw [hheld]
  rfl

/-- A pass that is not held fails in a child, or reports. -/
theorem status_applied (hpast : passNamespace turn.ans obj = some ns)
    (hresolved : resolveStep libs turn.ans obj ns = .ok r)
    (hfree : r.holding = none) :
    ((∃ e, (reconcile libs turn.cfg turn.ans turn.deployment obj).2 =
        .error e) ∧ turn.status libs obj = none) ∨
    ∃ hash alignment,
      (∀ c ∈ alignment, c.type = CondType.authorizationServerAligned) ∧
      turn.status libs obj =
        some (reportedStatus libs turn.ans obj r hash
          (turn.deployment.getD {}) alignment) := by
  unfold Turn.status reconcile
  rw [reconcileInner_of_passNamespace hpast, hresolved]
  dsimp only
  rw [hfree]
  dsimp only
  rcases applyInOrder_result
    (children libs turn.cfg turn.ans obj ns r) with ⟨e, hfail⟩ | hok
  · rw [hfail]
    exact .inl ⟨⟨e, rfl⟩, status_applyInOrder_children⟩
  · rw [hok, resolvedOf_eq hpast hresolved]
    dsimp only
    rw [List.findSome?_append, status_applyInOrder_children]
    refine .inr ⟨_, _, ?_, rfl⟩
    intro c hc
    obtain ⟨-, -, hc⟩ := Option.bind_eq_some_iff.mp hc
    exact type_of_mem_alignment hc

/-- A pass that does not come to the references fails or deletes, and
writes no status. -/
theorem status_idle (h : passNamespace turn.ans obj = none) :
    turn.status libs obj = none := by
  obtain ⟨htrace, hresult⟩ :
      (reconcileInner libs turn.cfg turn.ans obj).trace = [] ∧
        (reconcileInner libs turn.cfg turn.ans obj).result ≠ .ok .applied :=
    idle_of_passNamespace_none h
  unfold Turn.status reconcile
  dsimp only
  rw [htrace]
  split
  · rfl
  · rfl
  · rfl
  · next happlied => exact absurd happlied hresult

end Status

theorem resolveStep_of_resolvedOf (hns : obj.metadata.namespace_ = some ns)
    (h : resolvedOf libs ans obj = some r) :
    resolveStep libs ans obj ns = .ok r := by
  unfold resolvedOf at h
  rw [hns, Option.bind_some] at h
  cases hstep : resolveStep libs ans obj ns with
  | error e =>
      rw [hstep] at h
      cases h
  | ok r' =>
      rw [hstep] at h
      cases h
      rfl

theorem storedConditions_eq :
    (obj.status.map (·.conditions)).getD [] = storedConditions obj := by
  unfold storedConditions
  cases obj.status <;> rfl

theorem cluster_of_holding {cluster : ResolvedCluster}
    (h : r.holding = some cluster) : r.cluster = some cluster :=
  (Option.filter_eq_some_iff.mp h).1

/-- The report of a pass that makes one. -/
def Turn.report (turn : Turn Backend Managed)
    (libs : GatewayLibs Backend Managed) (obj : MCPGGateway) :
    Option Reported := do
  let r ← resolvedOf libs turn.ans obj
  let status ← turn.status libs obj
  some
    { obj := obj, resolved := r
      seen := availableSeen obj r turn.deployment, status := status }

/-- The condition of one pass. -/
theorem Reported.consistent_iff {turn : Turn Backend Managed}
    {rep : Reported} (h : turn.report libs obj = some rep) :
    rep.Consistent ↔ rep.Careful := by
  obtain ⟨r, hr, h⟩ := Option.bind_eq_some_iff.mp h
  obtain ⟨status, hstatus, h⟩ := Option.bind_eq_some_iff.mp h
  cases h
  cases hpast : passNamespace turn.ans obj with
  | none =>
      rw [status_idle hpast] at hstatus
      cases hstatus
  | some ns =>
      have hstep := resolveStep_of_resolvedOf
        (namespace_of_passNamespace hpast) hr
      have htyped := wellTyped_of_resolveStep hstep
      unfold Reported.Consistent Reported.Careful availableSeen
      dsimp only
      cases hheld : r.holding with
      | some cluster =>
          rw [status_held hpast hstep hheld] at hstatus
          cases hstatus
          exact consistent_held_iff htyped (cluster_of_holding hheld)
      | none =>
          rcases status_applied hpast hstep hheld with
            ⟨-, hnone⟩ | ⟨hash, alignment, ha, hsome⟩
          · rw [hnone] at hstatus
            cases hstatus
          · rw [hsome] at hstatus
            cases hstatus
            dsimp only
            rw [← storedConditions_eq]
            exact consistent_merged_iff htyped ha

theorem error_of_passNamespace_none
    (hlive : obj.metadata.deletionTimestamp = none)
    (h : passNamespace ans obj = none) :
    ∃ e, (reconcileInner libs cfg ans obj).result = .error e := by
  have hends : (∃ e, reconcileInner libs cfg ans obj = .fail e) ∨
      obj.metadata.deletionTimestamp.isSome = true ∧
        reconcileInner libs cfg ans obj =
          { trace := [], result := .ok .deleted } :=
    reconcileInner_of_passNamespace_none h
  rcases hends with ⟨e, hfail⟩ | ⟨hdeleted, -⟩
  · rw [hfail]
    exact ⟨e, rfl⟩
  · rw [hlive] at hdeleted
    cases hdeleted

/-- Of a gateway that is not being deleted, every pass that completes
reports. -/
theorem report_of_completed {turn : Turn Backend Managed}
    {outcome : ReconcileOutcome}
    (h : (reconcile libs turn.cfg turn.ans turn.deployment obj).2 =
      .ok outcome)
    (hlive : obj.metadata.deletionTimestamp = none) :
    ∃ rep, turn.report libs obj = some rep := by
  have hreports : ∀ {r status}, resolvedOf libs turn.ans obj = some r →
      turn.status libs obj = some status →
      ∃ rep, turn.report libs obj = some rep := fun hr hstatus =>
    ⟨_, Option.bind_eq_some_iff.mpr ⟨_, hr,
      Option.bind_eq_some_iff.mpr ⟨_, hstatus, rfl⟩⟩⟩
  cases hpast : passNamespace turn.ans obj with
  | none =>
      obtain ⟨e, hfail⟩ :
          ∃ e, (reconcileInner libs turn.cfg turn.ans obj).result =
            .error e := error_of_passNamespace_none hlive hpast
      unfold reconcile at h
      dsimp only at h
      rw [hfail] at h
      cases h
  | some ns =>
      cases hstep : resolveStep libs turn.ans obj ns with
      | error e =>
          unfold reconcile at h
          rw [reconcileInner_of_passNamespace hpast, hstep] at h
          cases h
      | ok r =>
          have hr := resolvedOf_eq hpast hstep
          cases hheld : r.holding with
          | some cluster => exact hreports hr (status_held hpast hstep hheld)
          | none =>
              rcases status_applied hpast hstep hheld with
                ⟨⟨e, hfail⟩, -⟩ | ⟨hash, alignment, -, hsome⟩
              · rw [hfail] at h
                cases h
              · exact hreports hr hsome

end Reports

/-! ## Runs -/

/-- A client writes the metadata and the spec, or a pass runs and its status
patch is stored or lost. -/
inductive Event (Backend Managed : Type)
  | edit (metadata : ObjectMeta) (spec : MCPGGatewaySpec)
  | pass (turn : Turn Backend Managed) (stored : Bool)

def Event.report (libs : GatewayLibs Backend Managed) (obj : MCPGGateway) :
    Event Backend Managed → Option Reported
  | .edit _ _ => none
  | .pass turn _ => turn.report libs obj

/-- The gateway as it is stored afterwards. -/
def Event.next (libs : GatewayLibs Backend Managed) (obj : MCPGGateway) :
    Event Backend Managed → MCPGGateway
  | .edit metadata spec => { obj with metadata := metadata, spec := spec }
  | .pass turn stored =>
      match turn.report libs obj with
      | none => obj
      | some rep =>
          if stored then { obj with status := some rep.status } else obj

/-- What the passes of a run report, in order. -/
def reports (libs : GatewayLibs Backend Managed) :
    MCPGGateway → List (Event Backend Managed) → List Reported
  | _, [] => []
  | obj, e :: events =>
      (e.report libs obj).toList ++ reports libs (e.next libs obj) events

theorem exists_turn_of_mem_reports {libs : GatewayLibs Backend Managed}
    {obj : MCPGGateway} {events : List (Event Backend Managed)}
    {rep : Reported} (h : rep ∈ reports libs obj events) :
    ∃ obj' turn, Turn.report turn libs obj' = some rep := by
  induction events generalizing obj with
  | nil => exact absurd h List.not_mem_nil
  | cons e events ih =>
      rcases List.mem_append.mp h with hnow | hlater
      · have hreport : e.report libs obj = some rep :=
          Option.mem_toList.mp hnow
        cases e with
        | edit metadata spec => cases hreport
        | pass turn stored => exact ⟨obj, turn, hreport⟩
      · exact ih hlater

/-- The conditions fit after every pass of a run exactly when each pass met
none that it should have reset. -/
theorem reports_consistent_iff (libs : GatewayLibs Backend Managed)
    (obj : MCPGGateway) (events : List (Event Backend Managed)) :
    (∀ rep ∈ reports libs obj events, rep.Consistent) ↔
      ∀ rep ∈ reports libs obj events, rep.Careful := by
  have hpass : ∀ rep ∈ reports libs obj events,
      (rep.Consistent ↔ rep.Careful) := by
    intro rep hrep
    obtain ⟨obj', turn, hreport⟩ := exists_turn_of_mem_reports hrep
    exact rep.consistent_iff hreport
  exact forall₂_congr hpass

namespace Sample

/-- Two replicas, and a plugin set that nobody has written. -/
def storefront : MCPGGateway where
  metadata :=
    { name := some "edge", namespace_ := some "payments"
      generation := some 1, finalizers := some [operatorFinalizer] }
  spec := { replicas := 2, pluginSetRef := some "tools" }

/-- A pass that finds this many replicas available. -/
def finds (available : Int) : Event String Unit :=
  .pass
    { cfg := cfg, ans := answers
      deployment := some { availableReplicas := some available } }
    true

/-- The rollout comes up, the reference is dropped, the pods go. -/
def rollout : List (Event String Unit) :=
  [finds 0, finds 2,
    .edit { storefront.metadata with generation := some 2 }
      { storefront.spec with pluginSetRef := none },
    finds 0]

end Sample

open Sample in
/-- The second pass is Ready and still progressing; the third finds no
replica and leaves the gateway available, and speaks of a plugin set nobody
refers to. -/
theorem not_reports_consistent :
    (∃ rep ∈ reports libs storefront rollout,
      readyTrue rep.status.conditions = true ∧
        saysTrue CType.progressing rep.status.conditions = true) ∧
    (∃ rep ∈ reports libs storefront rollout, rep.seen = 0 ∧
      saysTrue CType.available rep.status.conditions = true ∧
      rep.obj.spec.pluginSetRef = none ∧
      rep.status.conditions.any
        (fun c => c.type == CondType.pluginSetReady) = true) ∧
    ¬ ∀ rep ∈ reports libs storefront rollout, rep.Consistent := by
  have hsecond : ∃ rep ∈ reports libs storefront rollout,
      readyTrue rep.status.conditions = true ∧
        saysTrue CType.progressing rep.status.conditions = true := by
    have hany : (reports libs storefront rollout).any (fun rep =>
        decide (readyTrue rep.status.conditions = true ∧
          saysTrue CType.progressing rep.status.conditions = true)) =
        true := by decide +kernel
    obtain ⟨rep, hrep, h⟩ := List.any_eq_true.mp hany
    exact ⟨rep, hrep, of_decide_eq_true h⟩
  refine ⟨hsecond, ?_, ?_⟩
  · have hany : (reports libs storefront rollout).any (fun rep =>
        decide (rep.seen = 0 ∧
          saysTrue CType.available rep.status.conditions = true ∧
          rep.obj.spec.pluginSetRef = none ∧
          rep.status.conditions.any
            (fun c => c.type == CondType.pluginSetReady) = true)) =
        true := by decide +kernel
    obtain ⟨rep, hrep, h⟩ := List.any_eq_true.mp hany
    exact ⟨rep, hrep, of_decide_eq_true h⟩
  · intro hall
    obtain ⟨rep, hrep, hready, hprogressing⟩ := hsecond
    have hsettled := ((hall rep hrep).verdict hready).2
    rw [hprogressing] at hsettled
    cases hsettled

end McpgOperator.Gateway
