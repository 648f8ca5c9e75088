import McpgOperator.Rounds

/-!
# Reports that overwrite, and the rounds of the plugin controllers

Of the status it finds a pass of any controller reads the conditions, and of
these it replaces those of the types it sets. The status it reports is
therefore a report that overwrites what it owns, and nothing else the pass
does depends on the status. Here this is read off the four controllers of the
plugin kinds, branch by branch.
-/

namespace McpgOperator.Rounds

open McpgOperator.Kube Settling

/-! ## Conditions -/

theorem overwrites_setCondition (api : ConditionsApi) (u : Condition) :
    Overwrites Condition.type fun cs => api.setCondition cs u := by
  refine ⟨{c | c = u}, {ty | ty = u.type}, ?_, ?_⟩
  · rintro c rfl
    rfl
  · intro cs c
    exact api.mem_setCondition cs u c

theorem overwrites_setAll (api : ConditionsApi) (us : List Condition) :
    Overwrites Condition.type fun cs => api.setAll cs us := by
  induction us with
  | nil => exact overwrites_id Condition.type
  | cons u us ih => exact ih.comp (overwrites_setCondition api u)

theorem overwrites_setOptional (api : ConditionsApi) (u : Option Condition) :
    Overwrites Condition.type fun cs => api.setOptional cs u := by
  cases u with
  | none => exact overwrites_id Condition.type
  | some u => exact overwrites_setCondition api u

/-! ## Reports -/

variable {τ σ β : Type} {conditions : σ → List Condition} {rest : σ → β}
  {tell : τ → Option σ → σ}

/-- The conditions a report starts from. -/
def carried (conditions : σ → List Condition) (o : Option σ) :
    List Condition :=
  (o.map conditions).getD []

theorem mem_carried_congr {o o' : Option σ}
    (h : Option.Rel (sameReport conditions rest) o o') (c : Condition) :
    c ∈ carried conditions o ↔ c ∈ carried conditions o' := by
  cases h with
  | none => exact Iff.rfl
  | some h => exact h.2 c

/-- A report whose conditions overwrite those it starts from, and which
copies the rest or sets it anew. -/
theorem steady_of_overwrites
    {F : τ → Option σ → List Condition → List Condition}
    (hF : ∀ t o, Overwrites Condition.type (F t o))
    (hsame : ∀ t t' o o', F t o = F t' o')
    (hconditions : ∀ t o,
      conditions (tell t o) = F t o (carried conditions o))
    (hcongr : ∀ t t' o o', Option.Rel (sameReport conditions rest) o o' →
      rest (tell t o) = rest (tell t' o'))
    (hidem : ∀ t t' o,
      rest (tell t' (some (tell t o))) = rest (tell t o)) :
    Steady (sameReport conditions rest) tell := by
  constructor
  · intro t t' o o' ho
    refine ⟨hcongr t t' o o' ho, fun c => ?_⟩
    rw [hconditions, hconditions, hsame t' t o' o]
    exact (hF t o).mem_congr (mem_carried_congr ho) c
  · intro t t' o
    refine ⟨hidem t t' o, fun c => ?_⟩
    have hself : carried conditions (some (tell t o)) =
        F t o (carried conditions o) := hconditions t o
    rw [hconditions, hself, hconditions, hsame t' t _ o]
    exact (hF t o).mem_idem _ c

section Anew

variable (api : ConditionsApi)
  (hrest : ∀ t t' o o', rest (tell t o) = rest (tell t' o'))

include hrest

/-- All but the conditions is new, and the same every time. -/
theorem steady_of_setAll {us : τ → Option σ → List Condition}
    (hconditions : ∀ t o,
      conditions (tell t o) = api.setAll (carried conditions o) (us t o))
    (hsame : ∀ t t' o o', us t o = us t' o') :
    Steady (sameReport conditions rest) tell := by
  refine steady_of_overwrites (fun t o => overwrites_setAll api (us t o)) ?_
    hconditions (fun t t' o o' _ => hrest t t' o o')
    fun t t' o => hrest t' t (some (tell t o)) o
  intro t t' o o'
  rw [hsame t t' o o']

theorem steady_of_setCondition {u : τ → Option σ → Condition}
    (hconditions : ∀ t o,
      conditions (tell t o) = api.setCondition (carried conditions o) (u t o))
    (hsame : ∀ t t' o o', u t o = u t' o') :
    Steady (sameReport conditions rest) tell := by
  have hset : ∀ t o, conditions (tell t o) =
      api.setAll (carried conditions o) [u t o] := hconditions
  refine steady_of_setAll api hrest hset ?_
  intro t t' o o'
  rw [hsame t t' o o']

end Anew

end McpgOperator.Rounds

namespace McpgOperator.Plugin

open McpgOperator.Kube McpgOperator.Rounds Settling

variable (libs : PluginLibs) (ans : PluginAnswers) (obj : MCPGPlugin)

theorem scripted_write (r : Report) (generation : Int) :
    Scripted (rounds libs ans obj) MCPGPluginStatus.same fun now status =>
      let p := r.write libs { ans with now := now }
        { obj with status := status } generation
      (p.trace, p.result) := by
  have hevent : ∀ e ∈ [Effect.publish r.event],
      (rounds libs ans obj).left e = none := List.forall_mem_singleton.mpr rfl
  exact .around ans.outcomeLands (List.forall_mem_nil _) hevent
    (fun _ _ => rfl) (fun _ _ _ _ => rfl)
    (steady_of_setAll libs.api (fun _ _ _ _ => rfl) (fun _ _ => rfl)
      fun _ _ _ _ => rfl)

/-- The one report that does not start from the conditions it finds. -/
theorem steady_successStatus (generation : Int)
    (result : NativeVerifyResult) (cosignVerified slsaVerified : Option Bool)
    (secretName : String) :
    Steady MCPGPluginStatus.same fun now (_ : Option MCPGPluginStatus) =>
      successStatus libs { ans with now := now } generation result
        cosignVerified slsaVerified secretName := by
  have hconst : ∀ (_ : DateTime) (_ : Option MCPGPluginStatus),
      Overwrites Condition.type fun _ =>
        successConditions libs.api generation :=
    fun _ _ => overwrites_const _ _
  exact steady_of_overwrites hconst (fun _ _ _ _ => rfl) (fun _ _ => rfl)
    (fun _ _ _ _ _ => rfl) fun _ _ _ => rfl

theorem buildArtefactSecret_status (status : Option MCPGPluginStatus) :
    buildArtefactSecret { obj with status := status } =
      buildArtefactSecret obj := rfl

theorem scripted_materialise (name : String) (generation : Int)
    (artefact : PullArtefact) (result : NativeVerifyResult)
    (cosignVerified slsaVerified : Option Bool) :
    Scripted (rounds libs ans obj) MCPGPluginStatus.same fun now status =>
      let p := materialise libs { ans with now := now }
        { obj with status := status } name generation artefact result
        cosignVerified slsaVerified
      (p.trace, p.result) := by
  have hsecret : ∀ secret answer,
      ∀ e ∈ [Effect.applySecret secret answer],
        (rounds libs ans obj).left e = none :=
    fun _ _ => List.forall_mem_singleton.mpr rfl
  have hlater : ∀ e ∈ [Effect.publish (pulledEvent obj result),
      .recordSuccess ("plugin/" ++ name)],
      (rounds libs ans obj).left e = none :=
    List.forall_mem_cons.mpr ⟨rfl, List.forall_mem_singleton.mpr rfl⟩
  simp only [materialise, buildArtefactSecret_status]
  cases ans.applySecret (buildArtefactSecret obj operatorNamespace
      (artefactSecretName libs name result.artifactHash) artefact) with
  | error e =>
      exact .issues (hsecret _ (.error e)) (fun _ _ => rfl)
        fun _ _ _ _ => rfl
  | ok _ =>
      exact .around ans.outcomeLands (hsecret _ (.ok ())) hlater
        (fun _ _ => rfl) (fun _ _ _ _ => rfl)
        (steady_successStatus libs ans generation result cosignVerified
          slsaVerified _)

theorem verifyFailure_status (status : Option MCPGPluginStatus) :
    verifyFailure { obj with status := status } = verifyFailure obj := rfl

theorem pullFailure_status (status : Option MCPGPluginStatus) :
    pullFailure { obj with status := status } = pullFailure obj := rfl

theorem cosignGate_unchanged (now : DateTime)
    (status : Option MCPGPluginStatus) :
    cosignGate { ans with now := now } { obj with status := status } =
      cosignGate ans obj := rfl

theorem slsaGate_unchanged (now : DateTime)
    (status : Option MCPGPluginStatus) :
    slsaGate libs { ans with now := now } { obj with status := status } =
      slsaGate libs ans obj := rfl

theorem scripted_attestStep (name : String) (generation : Int)
    (artefact : PullArtefact) (result : NativeVerifyResult) :
    Scripted (rounds libs ans obj) MCPGPluginStatus.same fun now status =>
      let p := attestStep libs { ans with now := now }
        { obj with status := status } name generation artefact result
      (p.trace, p.result) := by
  simp only [attestStep, cosignGate_unchanged, slsaGate_unchanged,
    verifyFailure_status]
  cases cosignGate ans obj artefact.manifestDigest with
  | error e => exact scripted_write libs ans obj _ generation
  | ok cosignVerified =>
      cases slsaGate libs ans obj result.artifactHash with
      | error e => exact scripted_write libs ans obj _ generation
      | ok slsaVerified =>
          exact scripted_materialise libs ans obj name generation _ result
            cosignVerified slsaVerified

theorem loadRevocationList_now (now : DateTime) :
    loadRevocationList libs { ans with now := now } =
      loadRevocationList libs ans := rfl

theorem scripted_verifyStep (name : String) (generation : Int)
    (artefact : PullArtefact) :
    Scripted (rounds libs ans obj) MCPGPluginStatus.same fun now status =>
      let p := verifyStep libs { ans with now := now }
        { obj with status := status } name generation artefact
      (p.trace, p.result) := by
  simp only [verifyStep, loadRevocationList_now, verifyFailure_status]
  cases loadSigningKey libs.codec ans.getSecret
      obj.spec.trust.signingKeyRef with
  | error e => exact scripted_write libs ans obj _ generation
  | ok publicKey =>
      cases loadRevocationList libs ans with
      | error e => exact .ends _
      | ok revocationList =>
          cases hjoin : ans.join with
          | error e => exact .ends _
          | ok _ =>
              dsimp only
              rw [← hjoin]
              cases verifyArtefact libs.codec libs.host artefact publicKey
                  revocationList obj.spec.pluginId with
              | error e =>
                  cases e with
                  | revoked sha reason =>
                      exact scripted_write libs ans obj _ generation
                  | _ => exact scripted_write libs ans obj _ generation
              | ok result =>
                  exact scripted_attestStep libs ans obj name generation
                    artefact result

theorem scripted_pullStep (name : String) (generation : Int) :
    Scripted (rounds libs ans obj) MCPGPluginStatus.same fun now status =>
      let p := pullStep libs { ans with now := now }
        { obj with status := status } name generation
      (p.trace, p.result) := by
  have hpulled : ∀ oci options,
      (∀ now status,
        resolvePullTarget libs { ans with now := now }
          { obj with status := status } generation = .ok (oci, options)) →
      Scripted (rounds libs ans obj) MCPGPluginStatus.same fun now status =>
        let p := pullStep libs { ans with now := now }
          { obj with status := status } name generation
        (p.trace, p.result) := by
    intro oci options hresolve
    simp only [pullStep, hresolve, pullFailure_status]
    cases pullAndUnpack libs.package ans.pull oci options with
    | error e => exact scripted_write libs ans obj _ generation
    | ok artefact =>
        exact scripted_verifyStep libs ans obj name generation artefact
  cases hmirror : obj.spec.oci.mirrorRef with
  | none =>
      apply hpulled
      intro now status
      simp only [resolvePullTarget, hmirror]
      rfl
  | some mirrorRef =>
      cases hget : ans.getMirror mirrorRef with
      | error e =>
          simp only [pullStep, resolvePullTarget, hmirror, hget]
          exact .ends _
      | ok found =>
          cases found with
          | none =>
              simp only [pullStep, resolvePullTarget, hmirror, hget]
              exact scripted_write libs ans obj _ generation
          | some mirror =>
              cases hrewrite : libs.rewrite mirror obj.spec.oci.image with
              | rewritten image =>
                  apply hpulled
                  intro now status
                  simp only [resolvePullTarget, hmirror, hget, hrewrite]
                  rfl
              | notApplicable =>
                  simp only [pullStep, resolvePullTarget, hmirror, hget,
                    hrewrite]
                  exact scripted_write libs ans obj _ generation

theorem scripted_round :
    Scripted (rounds libs ans obj) MCPGPluginStatus.same
      (rounds libs ans obj).round := by
  show Scripted _ _ fun now status =>
    ((reconcileInner libs { ans with now := now }
        { obj with status := status }).trace,
      (reconcileInner libs { ans with now := now }
        { obj with status := status }).result)
  unfold reconcileInner
  dsimp only
  cases obj.metadata.name with
  | none => exact .ends _
  | some name =>
      by_cases hdeleted : obj.metadata.deletionTimestamp.isSome = true
      · simp only [hdeleted, if_true]
        cases ans.removeFinalizer with
        | error e => exact .ends _
        | ok _ => exact .ends _
      · simp only [hdeleted, Bool.false_eq_true, if_false]
        cases ensureFinalizer ans.addFinalizer obj.metadata with
        | error e => exact .ends _
        | ok _ =>
            exact .report ans.pullingLands
              (scripted_pullStep libs ans obj name obj.observedGeneration)
              (fun _ _ => rfl) (fun _ _ => rfl)
              (steady_of_setCondition libs.api (fun _ _ _ _ => rfl)
                (fun _ _ => rfl) fun _ _ _ _ => rfl)

end McpgOperator.Plugin

namespace McpgOperator.PluginMirror

open McpgOperator.Kube McpgOperator.Rounds Settling

variable (conditions : ConditionsApi) (ans : MirrorAnswers)
  (obj : MirrorObject)

theorem scripted_report (reachable : Bool) (proxied : Nat) :
    Scripted (rounds conditions ans obj) MCPGPluginMirrorStatus.same
      fun now status =>
        let p := report conditions { ans with now := now }
          { obj with status := status } reachable proxied
        (p.trace, p.result) := by
  have hevent : ∀ e ∈ resolveEvent obj reachable,
      (rounds conditions ans obj).left e = none := by
    intro e he
    rw [resolveEvent] at he
    split at he
    · cases he
    · rw [List.mem_singleton.mp he]
      rfl
  exact .around () (List.forall_mem_nil _) hevent (fun _ _ => rfl)
    (fun _ _ _ _ => rfl)
    (steady_of_setCondition conditions (fun _ _ _ _ => rfl) (fun _ _ => rfl)
      fun _ _ _ _ => rfl)

theorem scripted_round :
    Scripted (rounds conditions ans obj) MCPGPluginMirrorStatus.same
      (rounds conditions ans obj).round := by
  show Scripted _ _ fun now status =>
    ((reconcileInner conditions { ans with now := now }
        { obj with status := status }).trace,
      (reconcileInner conditions { ans with now := now }
        { obj with status := status }).result)
  unfold reconcileInner
  dsimp only
  cases obj.mirror.metadata.name with
  | none => exact .ends _
  | some name =>
      by_cases hdeleted : obj.mirror.metadata.deletionTimestamp.isSome = true
      · simp only [hdeleted, if_true]
        cases ans.removeFinalizer with
        | error e => exact .ends _
        | ok _ => exact .ends _
      · simp only [hdeleted, Bool.false_eq_true, if_false]
        cases ensureFinalizer ans.addFinalizer obj.mirror.metadata with
        | error e => exact .ends _
        | ok _ =>
            cases ans.getService obj.serviceNamespace obj.serviceName with
            | error e => exact .ends _
            | ok reachable =>
                cases hlisted : ans.listPlugins with
                | error e => exact .ends _
                | ok plugins =>
                    dsimp only
                    rw [← hlisted]
                    exact scripted_report conditions ans obj reachable
                      (countProxiedPlugins plugins name)

end McpgOperator.PluginMirror

namespace McpgOperator.PluginSet.Reconcile

open McpgOperator.Kube McpgOperator.Rounds Settling

variable (libs : SetLibs) (ans : SetAnswers) (set : MCPGPluginSet)

/-- A stage that writes no status, and what comes after it. -/
theorem scripted_andThen {stage : Stage}
    {rest : DateTime → Option MCPGPluginSetStatus → Pass}
    (hstage : ∀ e ∈ stage.trace, (rounds libs ans set).left e = none)
    (h : Scripted (rounds libs ans set) MCPGPluginSetStatus.same
      fun now status => ((rest now status).trace, (rest now status).result)) :
    Scripted (rounds libs ans set) MCPGPluginSetStatus.same
      fun now status =>
        ((stage.andThen (rest now status)).trace,
          (stage.andThen (rest now status)).result) := by
  simp only [Stage.andThen]
  cases stage.result with
  | error e => exact .issues hstage (fun _ _ => rfl) fun _ _ _ _ => rfl
  | ok _ => exact .append hstage h (fun _ _ => rfl) fun _ _ => rfl

theorem projectSecrets_unchanged (now : DateTime)
    (status : Option MCPGPluginSetStatus) (ns : String) (i : Nat)
    (entries : List ResolvedEntry) :
    projectSecrets { ans with now := now } { set with status := status } ns i
        entries =
      projectSecrets ans set ns i entries := by
  induction entries generalizing i with
  | nil => rfl
  | cons r rest ih =>
      simp only [projectSecrets, ih]
      rfl

theorem left_projectSecrets (ns : String) (i : Nat)
    (entries : List ResolvedEntry) :
    ∀ e ∈ (projectSecrets ans set ns i entries).trace,
      (rounds libs ans set).left e = none := by
  induction entries generalizing i with
  | nil => exact List.forall_mem_nil _
  | cons r rest ih =>
      rw [projectSecrets]
      split
      · exact List.forall_mem_nil _
      · exact ih (i + 1)
      · dsimp only
        split
        · exact List.forall_mem_singleton.mpr rfl
        · exact List.forall_mem_cons.mpr ⟨rfl, ih (i + 1)⟩

theorem resolved_now (now : DateTime) :
    resolved { ans with now := now } = resolved ans := rfl

theorem resolved_status (status : Option MCPGPluginSetStatus) :
    resolved ans { set with status := status } = resolved ans set := rfl

theorem failed_now (now : DateTime) :
    failed { ans with now := now } = failed ans := rfl

theorem failed_status (status : Option MCPGPluginSetStatus) :
    failed ans { set with status := status } = failed ans set := rfl

theorem allResolved_status (status : Option MCPGPluginSetStatus) :
    allResolved ans { set with status := status } = allResolved ans set := rfl

theorem bindTenant_now (now : DateTime) :
    bindTenant { ans with now := now } = bindTenant ans := rfl

theorem publishSet_unchanged (now : DateTime)
    (status : Option MCPGPluginSetStatus) :
    publishSet libs { ans with now := now } { set with status := status } =
      publishSet libs ans set := rfl

/-- The conditions of a report that starts from these. -/
def conditionsFrom (cs : List Condition) : List Condition :=
  statusConditions libs ans { set with status := some { conditions := cs } }

theorem overwrites_conditionsFrom :
    Overwrites Condition.type (conditionsFrom libs ans set) := by
  unfold conditionsFrom statusConditions
  by_cases hall : allResolved ans set = true
  · simp only [resolved_status, failed_status, allResolved_status, hall,
      if_true]
    exact overwrites_setAll libs.conditions _
  · by_cases hfailed : (failed ans set).isEmpty = true
    · simp only [resolved_status, failed_status, allResolved_status, hall,
        hfailed, Bool.false_eq_true, if_false, if_true]
      exact overwrites_setAll libs.conditions _
    · simp only [resolved_status, failed_status, allResolved_status, hall,
        hfailed, Bool.false_eq_true, if_false]
      exact overwrites_setAll libs.conditions _

theorem steady_reportedStatus :
    Steady MCPGPluginSetStatus.same fun now status =>
      reportedStatus libs { ans with now := now }
        { set with status := status } := by
  refine steady_of_overwrites
    (fun _ _ => overwrites_conditionsFrom libs ans set) (fun _ _ _ _ => rfl)
    ?_ (fun _ _ _ _ _ => rfl) fun _ _ _ => rfl
  intro now status
  cases status with
  | none => rfl
  | some s => rfl

theorem scripted_report (names : List String) :
    Scripted (rounds libs ans set) MCPGPluginSetStatus.same
      fun now status =>
        let p := report libs { ans with now := now }
          { set with status := status }
        (names.map .deleteSecret ++ p.trace, p.result) := by
  have hnames : ∀ e ∈ names.map Effect.deleteSecret,
      (rounds libs ans set).left e = none :=
    List.forall_mem_map.mpr fun _ _ => rfl
  by_cases hfailed : (failed ans set).isEmpty = true
  · simp only [report, failed_now, failed_status, resolved_now,
      resolved_status, hfailed, if_true]
    exact .around () hnames (List.forall_mem_singleton.mpr rfl)
      (fun _ _ => rfl) (fun _ _ _ _ => rfl)
      (steady_reportedStatus libs ans set)
  · simp only [report, failed_now, failed_status, hfailed,
      Bool.false_eq_true, if_false]
    exact .around () hnames (List.forall_mem_nil _) (fun _ _ => rfl)
      (fun _ _ _ _ => rfl) (steady_reportedStatus libs ans set)

theorem scripted_round :
    Scripted (rounds libs ans set) MCPGPluginSetStatus.same
      (rounds libs ans set).round := by
  show Scripted _ _ fun now status =>
    ((reconcileInner libs { ans with now := now }
        { set with status := status }).trace,
      (reconcileInner libs { ans with now := now }
        { set with status := status }).result)
  unfold reconcileInner
  dsimp only
  cases set.metadata.name with
  | none => exact .ends _
  | some name =>
      cases set.metadata.namespace_ with
      | none => exact .ends _
      | some ns =>
          by_cases hdeleted : set.metadata.deletionTimestamp.isSome = true
          · simp only [hdeleted, if_true]
            cases ans.removeFinalizer with
            | error e => exact .ends _
            | ok _ => exact .ends _
          · simp only [hdeleted, Bool.false_eq_true, if_false]
            cases ensureFinalizer ans.addFinalizer set.metadata with
            | error e => exact .ends _
            | ok _ =>
                simp only [materialise, resolved_now, resolved_status,
                  bindTenant_now, projectSecrets_unchanged,
                  publishSet_unchanged]
                exact scripted_andThen libs ans set
                  (List.forall_mem_singleton.mpr rfl)
                  (scripted_andThen libs ans set
                    (left_projectSecrets libs ans set ns 0 _)
                    (scripted_andThen libs ans set
                      (List.forall_mem_singleton.mpr rfl)
                      (scripted_report libs ans set _)))

end McpgOperator.PluginSet.Reconcile

namespace McpgOperator.RevocationList

open McpgOperator.Kube McpgOperator.Rounds Settling
open McpgOperator.Plugin (MCPGRevocationList MCPGRevocationListStatus)

variable (libs : RevocationLibs) (ans : ListAnswers)
  (obj : MCPGRevocationList)

theorem scripted_materialise (targets : List String) :
    Scripted (rounds libs ans obj) sameStatus fun now status =>
      let p := materialise libs { ans with now := now }
        { obj with status := status } targets
      (p.trace, p.result) := by
  have happlied : ∀ e ∈ targets.map fun ns =>
      Effect.applyConfigMap ns (listConfigmap libs obj ns),
      (rounds libs ans obj).left e = none :=
    List.forall_mem_map.mpr fun _ _ => rfl
  have hevent : ∀ e ∈ [Effect.publish (reportedEvent obj
      (appliedNamespaces ans targets).length targets.length)],
      (rounds libs ans obj).left e = none := List.forall_mem_singleton.mpr rfl
  exact .around () happlied hevent (fun _ _ => rfl) (fun _ _ _ _ => rfl)
    (steady_of_setCondition libs.conditions (fun _ _ _ _ => rfl)
      (fun _ _ => rfl) fun _ _ _ _ => rfl)

theorem scripted_round :
    Scripted (rounds libs ans obj) sameStatus
      (rounds libs ans obj).round := by
  show Scripted _ _ fun now status =>
    ((reconcileInner libs { ans with now := now }
        { obj with status := status }).trace,
      (reconcileInner libs { ans with now := now }
        { obj with status := status }).result)
  unfold reconcileInner
  dsimp only
  cases obj.metadata.name with
  | none => exact .ends _
  | some name =>
      by_cases hdeleted : obj.metadata.deletionTimestamp.isSome = true
      · simp only [hdeleted, if_true]
        cases ans.removeFinalizer with
        | error e => exact .ends _
        | ok _ => exact .ends _
      · simp only [hdeleted, Bool.false_eq_true, if_false]
        cases ensureFinalizer ans.addFinalizer obj.metadata with
        | error e => exact .ends _
        | ok _ =>
            cases hlisted : ans.listGateways with
            | error e => exact .ends _
            | ok gateways =>
                dsimp only
                rw [← hlisted]
                exact scripted_materialise libs ans obj
                  (namespacesWithGateways gateways)

end McpgOperator.RevocationList
