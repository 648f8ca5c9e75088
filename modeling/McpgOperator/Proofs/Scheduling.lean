import McpgOperator.Backoff.Schedule
import McpgOperator.Cluster.Managed
import McpgOperator.Lib.CappedDoubling
import McpgOperator.Proofs.BackoffCounts
import Mathlib.Tactic.Linarith

/-!
# No live object is left alone

A controller that is told to wait for the next event may never hear of one, so
`await_change` is for what has no next pass: an object the operator has let
go, and one the apiserver could not have stored. Every other pass, of any of
the nine controllers and however it ends, is followed by another within ten
minutes or the resync interval; after an error within six minutes, and later
the more errors were counted.
-/

namespace McpgOperator.Backoff

open McpgOperator.Kube McpgOperator.Watch

/-- The outcome asks for another pass within so many seconds, or is an error
that is retried. -/
def Outcome.Timed (bound : Nat) : Outcome → Prop
  | .ok (.after secs) => secs ≤ bound
  | .ok .awaitChange => False
  | .error policy => policy ≠ .awaitChange

theorem Outcome.Timed.mono {o : Outcome} {bound bound' : Nat}
    (h : o.Timed bound) (hle : bound ≤ bound') : o.Timed bound' := by
  match o, h with
  | .ok (.after secs), h => exact Nat.le_trans h hle
  | .error policy, h => exact h

/-- How a pass ends, by whether its object has what every stored object of
the kind has, and whether it is being deleted. -/
def Outcome.Ends (bound : Nat) (named deleting : Bool) (o : Outcome) : Prop :=
  match named, deleting with
  | false, _ => o = .error .awaitChange
  | true, true =>
      o = .ok .awaitChange ∨ ∃ policy, o = .error policy ∧ policy ≠ .awaitChange
  | true, false => o.Timed bound

theorem Outcome.Ends.mono {o : Outcome} {bound bound' : Nat}
    {named deleting : Bool} (h : o.Ends bound named deleting)
    (hle : bound ≤ bound') : o.Ends bound' named deleting := by
  cases named with
  | false => exact h
  | true =>
      cases deleting with
      | true => exact h
      | false => exact Outcome.Timed.mono h hle

section Ends

variable {bound : Nat} {named deleting : Bool}

theorem Outcome.Ends.of_error {policy : ErrorPolicy}
    (h : Outcome.Ends bound named deleting (.error policy)) :
    policy = .awaitChange ↔ named = false := by
  cases named <;> cases deleting <;>
    simp_all [Outcome.Ends, Outcome.Timed]

theorem Outcome.Ends.of_await
    (h : Outcome.Ends bound named deleting (.ok .awaitChange)) :
    named = true ∧ deleting = true := by
  cases named <;> cases deleting <;>
    simp_all [Outcome.Ends, Outcome.Timed]

theorem Outcome.Ends.of_after {secs : Nat}
    (h : Outcome.Ends bound named deleting (.ok (.after secs))) :
    named = true ∧ deleting = false ∧ secs ≤ bound := by
  cases named <;> cases deleting <;>
    simp_all [Outcome.Ends, Outcome.Timed]

end Ends

/-! ## What the nine controllers share -/

section Frame

variable {ε α γ : Type}

/-- A pass looks who the object is, lets it go if it is being deleted, and
does the rest behind the finalizer. -/
def framed (unnamed : ε) (failed : FinalizerError → ε) (released : γ)
    (identity : Option α) (deleting : Bool)
    (removed : Except FinalizerError Unit)
    (added : Except FinalizerError Bool) (rest : α → Except ε γ) :
    Except ε γ :=
  match identity with
  | none => .error unnamed
  | some a =>
      if deleting then
        match removed with
        | .error e => .error (failed e)
        | .ok _ => .ok released
      else
        match added with
        | .error e => .error (failed e)
        | .ok _ => rest a

/-- The name and the namespace of an object that has both. -/
def bothNames (m : ObjectMeta) : Option (String × String) :=
  match m.name, m.namespace_ with
  | some name, some ns => some (name, ns)
  | _, _ => none

theorem isSome_bothNames (m : ObjectMeta) :
    (bothNames m).isSome = (m.name.isSome && m.namespace_.isSome) := by
  unfold bothNames
  cases m.name <;> cases m.namespace_ <;> rfl

theorem ends_framed {outcome : Except ε γ → Outcome} {unnamed : ε}
    {failed : FinalizerError → ε} {released : γ} {identity : Option α}
    {deleting : Bool} {removed : Except FinalizerError Unit}
    {added : Except FinalizerError Bool} {rest : α → Except ε γ} {bound : Nat}
    (hunnamed : outcome (.error unnamed) = .error .awaitChange)
    (hfailed : ∀ e, ∃ policy, outcome (.error (failed e)) = .error policy ∧
      policy ≠ .awaitChange)
    (hreleased : outcome (.ok released) = .ok .awaitChange)
    (hrest : ∀ a, (outcome (rest a)).Timed bound) :
    (outcome (framed unnamed failed released identity deleting removed added
      rest)).Ends bound identity.isSome deleting := by
  cases identity with
  | none => exact hunnamed
  | some a =>
      cases deleting with
      | true =>
          cases removed with
          | ok u => exact .inl hreleased
          | error e => exact .inr (hfailed e)
      | false =>
          cases added with
          | ok u => exact hrest a
          | error e =>
              obtain ⟨policy, heq, hretried⟩ := hfailed e
              show (outcome (.error (failed e))).Timed bound
              rw [heq]
              exact hretried

end Frame

end McpgOperator.Backoff

/-! ## Controller by controller -/

namespace McpgOperator.Plugin

open McpgOperator.Kube McpgOperator.Backoff

/-- What is left of a pass once its object is live. -/
def Pass.Timed (p : Pass) : Prop := (Outcome.of errorPolicy p.result).Timed 600

theorem timed_write (r : Report) (libs : PluginLibs) (ans : PluginAnswers)
    (obj : MCPGPlugin) (generation : Int) (h : r.requeueSecs ≤ 600) :
    (r.write libs ans obj generation).Timed := h

theorem timed_materialise (libs : PluginLibs) (ans : PluginAnswers)
    (obj : MCPGPlugin) (name : String) (generation : Int)
    (artefact : PullArtefact) (result : NativeVerifyResult)
    (cosign slsa : Option Bool) :
    (materialise libs ans obj name generation artefact result cosign
      slsa).Timed := by
  unfold materialise Pass.Timed
  dsimp only
  split
  · exact fun h => nomatch h
  · exact Nat.le_refl 600

theorem timed_attestStep (libs : PluginLibs) (ans : PluginAnswers)
    (obj : MCPGPlugin) (name : String) (generation : Int)
    (artefact : PullArtefact) (result : NativeVerifyResult) :
    (attestStep libs ans obj name generation artefact result).Timed := by
  unfold attestStep
  dsimp only
  split
  · exact timed_write _ _ _ _ _ (Nat.le_refl 600)
  · split
    · exact timed_write _ _ _ _ _ (Nat.le_refl 600)
    · exact timed_materialise ..

theorem timed_verifyStep (libs : PluginLibs) (ans : PluginAnswers)
    (obj : MCPGPlugin) (name : String) (generation : Int)
    (artefact : PullArtefact) :
    (verifyStep libs ans obj name generation artefact).Timed := by
  unfold verifyStep
  split
  · exact timed_write _ _ _ _ _ (Nat.le_refl 600)
  · split
    · exact fun h => nomatch h
    · split
      · exact fun h => nomatch h
      · split
        · exact timed_write _ _ _ _ _ (Nat.le_refl 600)
        · exact timed_write _ _ _ _ _ (Nat.le_refl 600)
        · exact timed_attestStep ..

theorem timed_of_resolvePullTarget {libs : PluginLibs} {ans : PluginAnswers}
    {obj : MCPGPlugin} {generation : Int} {pass : Pass}
    (h : resolvePullTarget libs ans obj generation = .error pass) :
    pass.Timed := by
  have hsoon : (60 : Nat) ≤ 600 := by decide
  unfold resolvePullTarget at h
  dsimp only at h
  split at h
  · cases h
  · split at h
    · cases h
      exact (by decide : (30 : Nat) ≤ 600)
    · cases h
      exact timed_write _ _ _ _ _ hsoon
    · split at h
      · cases h
      · cases h
        exact timed_write _ _ _ _ _ hsoon

theorem timed_pullStep (libs : PluginLibs) (ans : PluginAnswers)
    (obj : MCPGPlugin) (name : String) (generation : Int) :
    (pullStep libs ans obj name generation).Timed := by
  unfold pullStep
  split
  · next hresolve => exact timed_of_resolvePullTarget hresolve
  · split
    · exact timed_write _ _ _ _ _ (by decide : (60 : Nat) ≤ 600)
    · exact timed_verifyStep ..

theorem ends_reconcileInner (libs : PluginLibs) (ans : PluginAnswers)
    (obj : MCPGPlugin) :
    Outcome.Ends 600 obj.metadata.name.isSome
      obj.metadata.deletionTimestamp.isSome
      (.of errorPolicy (reconcileInner libs ans obj).result) := by
  have hframed : (reconcileInner libs ans obj).result =
      framed .missingName .finalizer (.awaitChange, .success)
        obj.metadata.name obj.metadata.deletionTimestamp.isSome
        ans.removeFinalizer (ensureFinalizer ans.addFinalizer obj.metadata)
        fun name =>
          (pullStep libs ans obj name obj.observedGeneration).result := by
    unfold reconcileInner framed
    cases obj.metadata.name <;> cases obj.metadata.deletionTimestamp.isSome <;>
      cases ans.removeFinalizer <;>
      cases ensureFinalizer ans.addFinalizer obj.metadata <;> rfl
  rw [hframed]
  exact ends_framed rfl (fun _ => ⟨_, rfl, fun h => nomatch h⟩) rfl
    fun _ => timed_pullStep ..

end McpgOperator.Plugin

namespace McpgOperator.PluginSet.Reconcile

open McpgOperator.Kube McpgOperator.Backoff

/-- A stage that fails is retried. -/
def Stage.Retried (s : Stage) : Prop :=
  ∀ e, s.result = .error e → errorPolicy e ≠ .awaitChange

theorem timed_andThen {s : Stage} {p : Pass} {bound : Nat} (hs : s.Retried)
    (hp : (Outcome.of errorPolicy p.result).Timed bound) :
    (Outcome.of errorPolicy (s.andThen p).result).Timed bound := by
  unfold Stage.andThen
  split
  · next e he => exact hs e he
  · exact hp

theorem retried_mapError {α : Type} {trace : List Effect}
    {answer : Except α Unit} {f : α → ReconcileError}
    (hf : ∀ x, errorPolicy (f x) ≠ .awaitChange) :
    Stage.Retried { trace := trace, result := answer.mapError f } := by
  intro e he
  cases answer with
  | ok u => cases he
  | error x =>
      cases he
      exact hf x

theorem retried_projectSecrets (ans : SetAnswers) (set : MCPGPluginSet)
    (ns : String) (i : Nat) (entries : List ResolvedEntry) :
    (projectSecrets ans set ns i entries).Retried := by
  induction entries generalizing i with
  | nil => exact fun e he => nomatch he
  | cons r rest ih =>
      intro e he
      simp only [projectSecrets] at he
      split at he
      · cases he
        exact fun h => nomatch h
      · exact ih (i + 1) e he
      · split at he
        · cases he
          exact fun h => nomatch h
        · exact ih (i + 1) e he

theorem timed_report (libs : SetLibs) (ans : SetAnswers)
    (set : MCPGPluginSet) :
    (Outcome.of errorPolicy (report libs ans set).result).Timed 300 := by
  unfold report
  dsimp only
  split
  · exact Nat.le_refl 300
  · exact Nat.le_refl 300

theorem timed_materialise (libs : SetLibs) (ans : SetAnswers)
    (set : MCPGPluginSet) (ns : String) :
    (Outcome.of errorPolicy (materialise libs ans set ns).result).Timed
      300 := by
  refine timed_andThen (retried_mapError fun x h => nomatch h) ?_
  refine timed_andThen (retried_projectSecrets ans set ns 0 _) ?_
  refine timed_andThen (retried_mapError fun x h => nomatch h) ?_
  exact timed_report libs ans set

theorem ends_reconcileInner (libs : SetLibs) (ans : SetAnswers)
    (set : MCPGPluginSet) :
    Outcome.Ends 300
      (set.metadata.name.isSome && set.metadata.namespace_.isSome)
      set.metadata.deletionTimestamp.isSome
      (.of errorPolicy (reconcileInner libs ans set).result) := by
  have hframed : (reconcileInner libs ans set).result =
      framed
        (if set.metadata.name.isNone then .missingName
          else .missingNamespace set.metadata.nameAny)
        .finalizer (.awaitChange, .success) (bothNames set.metadata)
        set.metadata.deletionTimestamp.isSome ans.removeFinalizer
        (ensureFinalizer ans.addFinalizer set.metadata)
        fun names => (materialise libs ans set names.2).result := by
    unfold reconcileInner framed bothNames ObjectMeta.nameAny
    cases set.metadata.name <;> cases set.metadata.namespace_ <;>
      cases set.metadata.deletionTimestamp.isSome <;>
      cases ans.removeFinalizer <;>
      cases ensureFinalizer ans.addFinalizer set.metadata <;> rfl
  rw [hframed, ← isSome_bothNames]
  exact ends_framed (by split <;> rfl)
    (fun _ => ⟨_, rfl, fun h => nomatch h⟩) rfl
    fun names => timed_materialise libs ans set names.2

end McpgOperator.PluginSet.Reconcile

namespace McpgOperator.Cluster

open McpgOperator.Kube McpgOperator.Backoff

variable {Backend Managed : Type}

theorem missingName_ne_write {α : Type} {e : ManagedEffect} {w : Write α}
    {rest : α → ManagedPass}
    (hrest : ∀ a, (rest a).result ≠ .error .missingName) :
    (ManagedPass.write e w rest).result ≠ .error .missingName := by
  rcases ManagedPass.write_cases e w rest with ⟨err, _, heq⟩ | ⟨a, _, heq⟩
  · rw [heq]
    exact fun h => nomatch h
  · rw [heq]
    exact hrest a

/-- `reconcile_managed` is past the check of the name. -/
theorem missingName_ne_reconcileManaged (libs : ClusterLibs Backend Managed)
    (api : ManagedApi Backend Managed) (ans : ManagedAnswers)
    (obj : MCPGCluster Backend Managed) (name : String) :
    (reconcileManaged libs api ans obj name).result ≠
      .error .missingName := by
  have hensure : (ensureCoordinationSecret libs api.envs ans name
      (managedCa api ans obj) fun secretName => workloadStep api ans name
        (managedOutcomeOf secretName (api.managedTlsEnabled obj.spec)
          (!api.managedTlsEnabled obj.spec || (managedCa api ans obj).isSome)
          ((api.managedNatsReplicas obj.spec).getD 1))).result ≠
        .error .missingName := by
    unfold ensureCoordinationSecret
    dsimp only
    split
    · exact fun h => nomatch h
    · refine missingName_ne_write fun _ => ?_
      refine missingName_ne_write fun _ => missingName_ne_write fun _ => ?_
      refine missingName_ne_write fun _ => missingName_ne_write fun _ => ?_
      exact fun h => nomatch h
  show (certificateStep api ans obj name _).result ≠ _
  unfold certificateStep
  split
  · exact missingName_ne_write fun _ => hensure
  · exact hensure

theorem timed_judgeStep {libs : ClusterLibs Backend Managed}
    {ans : ClusterAnswers} {obj : MCPGCluster Backend Managed} {name : String}
    {generation : Int}
    (hmanaged : ans.reconcileManaged ≠ .error .missingName) :
    (Outcome.of errorPolicy
      (judgeStep libs ans obj name generation).result).Timed
        (max 15 ans.resyncSecs) := by
  unfold judgeStep
  split
  · next e he =>
      unfold managedOutcome at he
      split at he
      · cases he
      · cases hanswer : ans.reconcileManaged with
        | ok m =>
            rw [hanswer] at he
            cases he
        | error x =>
            rw [hanswer] at he hmanaged
            cases he
            cases e with
            | missingName => exact absurd rfl hmanaged
            | finalizer | apply | kube => exact fun h => nomatch h
  · split
    · next e he =>
        unfold classifyReadiness at he
        cases e <;> grind [Outcome.of, Outcome.Timed, errorPolicy, Pass.fail]
    · split
      · next e he =>
          unfold countBoundGateways at he
          split at he
          · cases he
            exact fun h => nomatch h
          · cases he
      · unfold reportVerdict
        dsimp only
        split
        · exact Nat.le_max_right ..
        · show (if _ then _ else _) ≤ _
          split
          · exact Nat.le_max_left ..
          · exact Nat.le_max_right ..

theorem ends_reconcileInner (libs : ClusterLibs Backend Managed)
    (ans : ClusterAnswers) (obj : MCPGCluster Backend Managed)
    (hmanaged : ans.reconcileManaged ≠ .error .missingName) :
    Outcome.Ends (max 15 ans.resyncSecs) obj.metadata.name.isSome
      obj.metadata.deletionTimestamp.isSome
      (.of errorPolicy (reconcileInner libs ans obj).result) := by
  have hframed : (reconcileInner libs ans obj).result =
      framed .missingName .finalizer (.awaitChange, .success)
        obj.metadata.name obj.metadata.deletionTimestamp.isSome
        ans.removeFinalizer (ensureFinalizer ans.addFinalizer obj.metadata)
        fun name => (judgeStep libs ans obj name
          (obj.metadata.generation.getD 0)).result := by
    unfold reconcileInner framed
    cases obj.metadata.name <;> cases obj.metadata.deletionTimestamp.isSome <;>
      cases ans.removeFinalizer <;>
      cases ensureFinalizer ans.addFinalizer obj.metadata <;> rfl
  rw [hframed]
  exact ends_framed rfl (fun _ => ⟨_, rfl, fun h => nomatch h⟩) rfl
    fun _ => timed_judgeStep hmanaged

end McpgOperator.Cluster

namespace McpgOperator.Server

open McpgOperator.Kube McpgOperator.Backoff McpgOperator.Gateway

theorem timed_applyThen {steps : List (Effect × Except KubeError Unit)}
    {last : Pass} {bound : Nat}
    (h : (Outcome.of errorPolicy last.result).Timed bound) :
    (Outcome.of errorPolicy (applyThen steps last).result).Timed bound := by
  induction steps with
  | nil => exact h
  | cons first rest ih =>
      obtain ⟨e, answer⟩ := first
      cases answer with
      | error x => exact fun h => nomatch h
      | ok u => exact ih

theorem timed_report (libs : ServerLibs) (ans : ServerAnswers)
    (obj : MCPGServer) (ns : String) (verdict : ImageVerdict) :
    (Outcome.of errorPolicy (report libs ans obj ns verdict).result).Timed
      ans.resyncSecs := by
  unfold report
  dsimp only
  split
  · exact fun h => nomatch h
  · split
    · exact fun h => nomatch h
    · exact Nat.le_refl _

theorem ends_reconcileInner (libs : ServerLibs) (ans : ServerAnswers)
    (obj : MCPGServer) :
    Outcome.Ends ans.resyncSecs
      (obj.metadata.name.isSome && obj.metadata.namespace_.isSome)
      obj.metadata.deletionTimestamp.isSome
      (.of errorPolicy (reconcileInner libs ans obj).result) := by
  have hframed : (reconcileInner libs ans obj).result =
      framed
        (if obj.metadata.name.isNone then .missingName
          else .missingNamespace obj.metadata.nameAny)
        .finalizer (.awaitChange, .success) (bothNames obj.metadata)
        obj.metadata.deletionTimestamp.isSome ans.removeFinalizer
        (ensureFinalizer ans.addFinalizer obj.metadata)
        fun names =>
          let verdict := imageVerdict ans.sigstore obj.spec
          (applyThen (workload libs ans obj verdict)
            (report libs ans obj names.2 verdict)).result := by
    unfold reconcileInner framed bothNames ObjectMeta.nameAny
    cases obj.metadata.name <;> cases obj.metadata.namespace_ <;>
      cases obj.metadata.deletionTimestamp.isSome <;>
      cases ans.removeFinalizer <;>
      cases ensureFinalizer ans.addFinalizer obj.metadata <;> rfl
  rw [hframed, ← isSome_bothNames]
  exact ends_framed (by split <;> rfl)
    (fun _ => ⟨_, rfl, fun h => nomatch h⟩) rfl
    fun _ => timed_applyThen (timed_report ..)

end McpgOperator.Server

namespace McpgOperator.Tenant

open McpgOperator.Kube McpgOperator.Backoff McpgOperator.Admission

theorem timed_bindAndReport (libs : TenantLibs) (ans : TenantAnswers)
    (obj : MCPGTenant) (name : String) :
    (Outcome.of errorPolicy
      (bindAndReport libs ans obj name).result).Timed ans.resyncSecs := by
  unfold bindAndReport
  dsimp only
  split
  · exact fun h => nomatch h
  · split
    · exact fun h => nomatch h
    · exact Nat.le_refl _

theorem ends_reconcileInner (libs : TenantLibs) (ans : TenantAnswers)
    (obj : MCPGTenant) :
    Outcome.Ends ans.resyncSecs obj.metadata.name.isSome
      obj.metadata.deletionTimestamp.isSome
      (.of errorPolicy (reconcileInner libs ans obj).result) := by
  have hframed : (reconcileInner libs ans obj).result =
      framed .missingName .finalizer (.awaitChange, .success)
        obj.metadata.name obj.metadata.deletionTimestamp.isSome
        ans.removeFinalizer (ensureFinalizer ans.addFinalizer obj.metadata)
        fun name => (bindAndReport libs ans obj name).result := by
    unfold reconcileInner framed teardown
    cases obj.metadata.name <;> cases obj.metadata.deletionTimestamp.isSome <;>
      cases ans.removeFinalizer <;>
      cases ensureFinalizer ans.addFinalizer obj.metadata <;> rfl
  rw [hframed]
  exact ends_framed rfl (fun _ => ⟨_, rfl, fun h => nomatch h⟩) rfl
    fun _ => timed_bindAndReport ..

end McpgOperator.Tenant

namespace McpgOperator.Route

open McpgOperator.Kube McpgOperator.Backoff McpgOperator.Gateway

/-- What is left of a pass once its object is live. -/
def liveStep (libs : RouteLibs) (ans : RouteAnswers) (obj : MCPGRoute)
    (ns : String) : Pass :=
  match ans.getGateway (libs.gateway.gatewayNamespace obj.spec ns)
      obj.spec.gatewayRef with
  | .error e => .fail (.kube e)
  | .ok gateway => report libs ans obj ns gateway

theorem timed_liveStep (libs : RouteLibs) (ans : RouteAnswers)
    (obj : MCPGRoute) (ns : String) :
    (Outcome.of errorPolicy (liveStep libs ans obj ns).result).Timed
      ans.resyncSecs := by
  unfold liveStep
  split
  · exact fun h => nomatch h
  · exact Nat.le_refl _

theorem ends_reconcileInner (libs : RouteLibs) (ans : RouteAnswers)
    (obj : MCPGRoute) :
    Outcome.Ends ans.resyncSecs
      (obj.metadata.name.isSome && obj.metadata.namespace_.isSome)
      obj.metadata.deletionTimestamp.isSome
      (.of errorPolicy (reconcileInner libs ans obj).result) := by
  have hframed : (reconcileInner libs ans obj).result =
      framed
        (if obj.metadata.name.isNone then .missingName
          else .missingNamespace obj.metadata.nameAny)
        .finalizer (.awaitChange, .success) (bothNames obj.metadata)
        obj.metadata.deletionTimestamp.isSome ans.removeFinalizer
        (ensureFinalizer ans.addFinalizer obj.metadata)
        fun names => (liveStep libs ans obj names.2).result := by
    unfold reconcileInner framed bothNames ObjectMeta.nameAny
    cases obj.metadata.name <;> cases obj.metadata.namespace_ <;>
      cases obj.metadata.deletionTimestamp.isSome <;>
      cases ans.removeFinalizer <;>
      cases ensureFinalizer ans.addFinalizer obj.metadata <;> rfl
  rw [hframed, ← isSome_bothNames]
  exact ends_framed (by split <;> rfl)
    (fun _ => ⟨_, rfl, fun h => nomatch h⟩) rfl
    fun names => timed_liveStep libs ans obj names.2

end McpgOperator.Route

namespace McpgOperator.RevocationList

open McpgOperator.Kube McpgOperator.Backoff McpgOperator.Plugin

/-- What is left of a pass once its object is live. -/
def liveStep (libs : RevocationLibs) (ans : ListAnswers)
    (obj : MCPGRevocationList) : Pass :=
  match ans.listGateways with
  | .error e => .fail (.kube e)
  | .ok gateways =>
      materialise libs ans obj (namespacesWithGateways gateways)

theorem timed_liveStep (libs : RevocationLibs) (ans : ListAnswers)
    (obj : MCPGRevocationList) :
    (Outcome.of RevocationList.errorPolicy
      (liveStep libs ans obj).result).Timed 60 := by
  unfold liveStep
  split
  · exact fun h => nomatch h
  · exact Nat.le_refl 60

theorem ends_reconcileInner (libs : RevocationLibs) (ans : ListAnswers)
    (obj : MCPGRevocationList) :
    Outcome.Ends 60 obj.metadata.name.isSome
      obj.metadata.deletionTimestamp.isSome
      (.of RevocationList.errorPolicy
        (RevocationList.reconcileInner libs ans obj).result) := by
  have hframed : (RevocationList.reconcileInner libs ans obj).result =
      framed .missingName .finalizer (.awaitChange, .success)
        obj.metadata.name obj.metadata.deletionTimestamp.isSome
        ans.removeFinalizer (ensureFinalizer ans.addFinalizer obj.metadata)
        fun _ => (liveStep libs ans obj).result := by
    unfold RevocationList.reconcileInner framed
    cases obj.metadata.name <;> cases obj.metadata.deletionTimestamp.isSome <;>
      cases ans.removeFinalizer <;>
      cases ensureFinalizer ans.addFinalizer obj.metadata <;> rfl
  rw [hframed]
  exact ends_framed rfl (fun _ => ⟨_, rfl, fun h => nomatch h⟩) rfl
    fun _ => timed_liveStep libs ans obj

end McpgOperator.RevocationList

namespace McpgOperator.PluginMirror

open McpgOperator.Kube McpgOperator.Backoff

/-- What is left of a pass once its object is live. -/
def liveStep (conditions : ConditionsApi) (ans : MirrorAnswers)
    (obj : MirrorObject) (name : String) : Pass :=
  match ans.getService obj.serviceNamespace obj.serviceName with
  | .error e => .fail (.kube e)
  | .ok reachable =>
      match ans.listPlugins with
      | .error e => .fail (.kube e)
      | .ok plugins =>
          report conditions ans obj reachable
            (countProxiedPlugins plugins name)

theorem timed_liveStep (conditions : ConditionsApi) (ans : MirrorAnswers)
    (obj : MirrorObject) (name : String) :
    (Outcome.of errorPolicy (liveStep conditions ans obj name).result).Timed
      ans.resyncSecs := by
  unfold liveStep
  split
  · exact fun h => nomatch h
  · split
    · exact fun h => nomatch h
    · exact Nat.le_refl _

theorem ends_reconcileInner (conditions : ConditionsApi)
    (ans : MirrorAnswers) (obj : MirrorObject) :
    Outcome.Ends ans.resyncSecs obj.mirror.metadata.name.isSome
      obj.mirror.metadata.deletionTimestamp.isSome
      (.of errorPolicy (reconcileInner conditions ans obj).result) := by
  have hframed : (reconcileInner conditions ans obj).result =
      framed .missingName .finalizer (.awaitChange, .success)
        obj.mirror.metadata.name obj.mirror.metadata.deletionTimestamp.isSome
        ans.removeFinalizer
        (ensureFinalizer ans.addFinalizer obj.mirror.metadata)
        fun name => (liveStep conditions ans obj name).result := by
    unfold reconcileInner framed
    cases obj.mirror.metadata.name <;>
      cases obj.mirror.metadata.deletionTimestamp.isSome <;>
      cases ans.removeFinalizer <;>
      cases ensureFinalizer ans.addFinalizer obj.mirror.metadata <;> rfl
  rw [hframed]
  exact ends_framed rfl (fun _ => ⟨_, rfl, fun h => nomatch h⟩) rfl
    fun name => timed_liveStep conditions ans obj name

end McpgOperator.PluginMirror

namespace McpgOperator.Gateway

open McpgOperator.Kube McpgOperator.Backoff

variable {Backend Managed : Type}

theorem applied_of_applyInOrder
    (steps : List (Effect × Except KubeError Unit)) :
    (applyInOrder steps).result = .ok .applied ∨
      ∃ e, (applyInOrder steps).result = .error (.apply e) := by
  induction steps with
  | nil => exact .inl rfl
  | cons first rest ih =>
      obtain ⟨e, answer⟩ := first
      cases answer with
      | error x => exact .inr ⟨x, rfl⟩
      | ok u => exact ih

/-- What the runtime is told of a gateway's pass. -/
def outcomeOf (resyncSecs : Nat) : Except ReconcileError Ended → Outcome
  | .ok ended => .ok (ended.requeue resyncSecs)
  | .error e => .error (errorPolicy e)

/-- What is left of a pass once its object is live. -/
def liveStep (libs : GatewayLibs Backend Managed) (cfg : OperatorConfig)
    (ans : GatewayAnswers Backend Managed) (obj : MCPGGateway)
    (ns : String) : Pass :=
  match resolveStep libs ans obj ns with
  | .error e => .fail (.kube e)
  | .ok resolved =>
      match resolved.holding with
      | some cluster => holdStep libs ans obj cluster
      | none => applyInOrder (children libs cfg ans obj ns resolved)

theorem timed_liveStep (libs : GatewayLibs Backend Managed)
    (cfg : OperatorConfig) (ans : GatewayAnswers Backend Managed)
    (obj : MCPGGateway) (ns : String) (resyncSecs : Nat) :
    (outcomeOf resyncSecs (liveStep libs cfg ans obj ns).result).Timed
      (max 30 resyncSecs) := by
  unfold liveStep
  split
  · exact fun h => nomatch h
  · next resolved _ =>
      split
      · exact Nat.le_max_left ..
      · rcases applied_of_applyInOrder
          (children libs cfg ans obj ns resolved) with happlied | ⟨e, herror⟩
        · rw [happlied]
          exact Nat.le_max_right ..
        · rw [herror]
          exact fun h => nomatch h

theorem ends_reconcileInner (libs : GatewayLibs Backend Managed)
    (cfg : OperatorConfig) (ans : GatewayAnswers Backend Managed)
    (obj : MCPGGateway) (resyncSecs : Nat) :
    Outcome.Ends (max 30 resyncSecs)
      (obj.metadata.name.isSome && obj.metadata.namespace_.isSome)
      obj.metadata.deletionTimestamp.isSome
      (outcomeOf resyncSecs (reconcileInner libs cfg ans obj).result) := by
  have hframed : (reconcileInner libs cfg ans obj).result =
      framed
        (if obj.metadata.namespace_.isNone then
            .missingNamespace obj.metadata.nameAny
          else .missingName)
        .finalizer .deleted (bothNames obj.metadata)
        obj.metadata.deletionTimestamp.isSome ans.removeFinalizer
        (ensureFinalizer ans.addFinalizer obj.metadata)
        fun names => (liveStep libs cfg ans obj names.2).result := by
    unfold reconcileInner framed bothNames ObjectMeta.nameAny
    cases obj.metadata.name <;> cases obj.metadata.namespace_ <;>
      cases obj.metadata.deletionTimestamp.isSome <;>
      cases ans.removeFinalizer <;>
      cases ensureFinalizer ans.addFinalizer obj.metadata <;> rfl
  rw [hframed, ← isSome_bothNames]
  exact ends_framed (by split <;> rfl)
    (fun _ => ⟨_, rfl, fun h => nomatch h⟩) rfl
    fun names => timed_liveStep libs cfg ans obj names.2 resyncSecs

end McpgOperator.Gateway

/-! ## Any of them -/

namespace McpgOperator.Backoff

open McpgOperator.Kube McpgOperator.Watch

variable {Backend Managed : Type} {resyncSecs : Nat}

/-- The object has a name, and a namespace where its kind has one. -/
def ReconcilePass.named (p : ReconcilePass Backend Managed) : Bool :=
  if p.kind.namespaced then
    p.metadata.name.isSome && p.metadata.namespace_.isSome
  else p.metadata.name.isSome

def ReconcilePass.deleting (p : ReconcilePass Backend Managed) : Bool :=
  p.metadata.deletionTimestamp.isSome

/-- A cluster's pass gets what `reconcile_managed` comes to. -/
def ReconcilePass.Provisioned : ReconcilePass Backend Managed → Prop
  | .cluster libs ans obj => ∃ api managed, ans.reconcileManaged =
      (Cluster.reconcileManaged libs api managed obj
        obj.metadata.nameAny).result
  | _ => True

theorem ends_outcome (resyncSecs : Nat) {p : ReconcilePass Backend Managed}
    (hprovisioned : p.Provisioned) :
    (p.outcome resyncSecs).Ends (max 600 (p.resync resyncSecs)) p.named
      p.deleting := by
  cases p with
  | plugin libs ans obj =>
      exact (Plugin.ends_reconcileInner libs ans obj).mono (Nat.le_max_left ..)
  | pluginMirror conditions ans obj =>
      exact (PluginMirror.ends_reconcileInner conditions ans obj).mono
        (Nat.le_max_right ..)
  | pluginSet libs ans obj =>
      exact (PluginSet.Reconcile.ends_reconcileInner libs ans obj).mono
        (Nat.le_trans (by decide) (Nat.le_max_left ..))
  | revocationList libs ans obj =>
      exact (RevocationList.ends_reconcileInner libs ans obj).mono
        (Nat.le_trans (by decide) (Nat.le_max_left ..))
  | cluster libs ans obj =>
      obtain ⟨api, managed, hmanaged⟩ := hprovisioned
      exact (Cluster.ends_reconcileInner libs ans obj (hmanaged ▸
        Cluster.missingName_ne_reconcileManaged libs api managed obj _)).mono
        (max_le_max (by decide) (Nat.le_refl _))
  | gateway libs cfg ans obj =>
      exact (Gateway.ends_reconcileInner libs cfg ans obj resyncSecs).mono
        (max_le_max (by decide) (Nat.le_refl _))
  | route libs ans obj =>
      exact (Route.ends_reconcileInner libs ans obj).mono
        (Nat.le_max_right ..)
  | server libs ans obj =>
      exact (Server.ends_reconcileInner libs ans obj).mono
        (Nat.le_max_right ..)
  | tenant libs ans obj =>
      exact (Tenant.ends_reconcileInner libs ans obj).mono
        (Nat.le_max_right ..)

/-! ## What the runtime is told -/

theorem ending_of_outcome {p : ReconcilePass Backend Managed}
    {policy : ErrorPolicy} (h : p.outcome resyncSecs = .error policy) :
    p.ending = .error policy := by
  have hof : ∀ {ε : Type} {f : ε → ErrorPolicy} {recorded : Bool}
      {result : Except ε (Requeue × ReconcileOutcome)},
      Outcome.of f result = .error policy →
        Ending.of f recorded result = .error policy := by
    intro ε f recorded result hresult
    cases result with
    | ok a => cases hresult
    | error e =>
        cases hresult
        rfl
  cases p with
  | gateway libs cfg ans obj =>
      simp only [ReconcilePass.outcome, ReconcilePass.ending,
        Gateway.Pass.ending] at h ⊢
      split at h
      · cases h
      · next e he =>
          cases h
          rw [he]
          rfl
  | _ => exact hof h

/-- After an error that backs off the count is not zero. -/
theorem count_pos {before : List (ReconcilePass Backend Managed)}
    {p : ReconcilePass Backend Managed}
    (h : p.outcome resyncSecs = .error .backOff) :
    1 ≤ (mapAfter (before ++ [p])).count p.key := by
  have hmap : mapAfter (before ++ [p]) =
      ((mapAfter before).recordError p.key).1 := by
    unfold mapAfter
    rw [List.foldl_append]
    simp only [List.foldl_cons, List.foldl_nil, afterPass,
      ending_of_outcome h]
    rfl
  rw [hmap]
  unfold BackoffMap.count BackoffMap.recordError
  rw [AssocList.lookup_put_self]
  exact Nat.le_min.mpr ⟨Nat.le_add_left 1 _, by decide⟩

/-- The one fixed delay is the server controller's. -/
theorem fixed_of_outcome {p : ReconcilePass Backend Managed} {secs : Nat}
    (h : p.outcome resyncSecs = .error (.fixed secs)) : secs = 10 := by
  have hof : ∀ {ε : Type} {f : ε → ErrorPolicy}
      {result : Except ε (Requeue × ReconcileOutcome)},
      (∀ e, f e = .fixed secs → secs = 10) →
        Outcome.of f result = .error (.fixed secs) → secs = 10 := by
    intro ε f result hf hresult
    cases result with
    | ok a => cases hresult
    | error e => exact hf e (Except.error.inj hresult)
  cases p with
  | gateway libs cfg ans obj =>
      simp only [ReconcilePass.outcome] at h
      split at h
      · cases h
      · next e he => cases e <;> cases h
  | _ =>
      refine hof (fun e he => ?_) h
      cases e <;> cases he <;> rfl

/-- The delay after an error of which the map holds the count. -/
theorem backoffForCount_eq (jitter : ℚ) (count : Nat) :
    backoffForCount jitter count =
      (CappedDoubling.delay baseSecs maxBackoffSecs count : Nat) * jitter := by
  have htop : maxBackoffSecs ≤ baseSecs * 2 ^ maxExponent := by decide
  unfold backoffForCount
  rw [← CappedDoubling.delay_min htop]
  rfl

/-- Ten seconds to five minutes, but for the jitter. -/
theorem backoffForCount_bounds {jitter : ℚ} {count : Nat}
    (hlow : 4 / 5 ≤ jitter) (hhigh : jitter < 6 / 5) (hcount : 1 ≤ count) :
    8 ≤ backoffForCount jitter count ∧ backoffForCount jitter count < 360 := by
  have hten : 10 ≤ CappedDoubling.delay baseSecs maxBackoffSecs count :=
    CappedDoubling.delay_mono baseSecs maxBackoffSecs hcount
  have htop : CappedDoubling.delay baseSecs maxBackoffSecs count ≤ 300 :=
    CappedDoubling.delay_le ..
  rw [backoffForCount_eq]
  generalize CappedDoubling.delay baseSecs maxBackoffSecs count = delay
    at hten htop
  have hten : (10 : ℚ) ≤ (delay : ℚ) := by exact_mod_cast hten
  have htop : (delay : ℚ) ≤ 300 := by exact_mod_cast htop
  constructor
  · nlinarith
  · nlinarith

/-- After any passes of the nine controllers and one more: the runtime is told
to wait for an event only where the object is gone or could not have been
stored. It is told to come back within ten minutes or the resync interval
otherwise, and after an error that backs off by the count of errors. -/
theorem next_of_pass {jitter : ℚ} (hlow : 4 / 5 ≤ jitter)
    (hhigh : jitter < 6 / 5) {p : ReconcilePass Backend Managed}
    (hprovisioned : p.Provisioned) (before : List (ReconcilePass Backend Managed)) :
    (p.next resyncSecs jitter (mapAfter (before ++ [p])) = .awaitChange ↔
      p.named = false ∨
        p.deleting = true ∧ ∃ requeue, p.outcome resyncSecs = .ok requeue) ∧
    ∀ delay,
      p.next resyncSecs jitter (mapAfter (before ++ [p])) = .after delay →
      delay ≤ max 600 (p.resync resyncSecs) ∧
      (p.outcome resyncSecs = .error .backOff →
        8 ≤ delay ∧ delay = jitter * (CappedDoubling.delay 5 300
          ((mapAfter (before ++ [p])).count p.key) : Nat)) := by
  have hends := ends_outcome resyncSecs hprovisioned
  unfold ReconcilePass.next
  cases hout : p.outcome resyncSecs with
  | error policy =>
      rw [hout] at hends
      have hawait := hends.of_error
      cases policy with
      | awaitChange =>
          refine ⟨iff_of_true rfl (.inl (hawait.mp rfl)), fun delay h => ?_⟩
          cases h
      | fixed secs =>
          refine ⟨?_, fun delay h => ?_⟩
          · simp [ErrorPolicy.retry, ← hawait]
          · cases h
            rw [Nat.cast_max, fixed_of_outcome hout]
            exact ⟨le_max_of_le_left (by norm_num), fun h => nomatch h⟩
      | backOff =>
          have hcount : 1 ≤ (mapAfter (before ++ [p])).count p.key :=
            count_pos hout
          obtain ⟨hsoon, hlate⟩ := backoffForCount_bounds hlow hhigh hcount
          refine ⟨?_, fun delay h => ?_⟩
          · simp [ErrorPolicy.retry, ← hawait]
          · cases h
            rw [Nat.cast_max]
            refine ⟨le_max_of_le_left ?_, fun _ => ⟨hsoon, ?_⟩⟩
            · exact le_of_lt (lt_trans hlate (by norm_num))
            · rw [mul_comm]
              exact backoffForCount_eq jitter _
  | ok requeue =>
      rw [hout] at hends
      cases requeue with
      | awaitChange =>
          obtain ⟨-, hdeleting⟩ := hends.of_await
          refine ⟨iff_of_true rfl (.inr ⟨hdeleting, _, rfl⟩), fun _ h => ?_⟩
          cases h
      | after secs =>
          obtain ⟨hnamed, hlive, hsecs⟩ := hends.of_after
          refine ⟨?_, fun delay h => ?_⟩
          · simp [Requeue.action, hnamed, hlive]
          · cases h
            exact ⟨by exact_mod_cast hsecs, fun h => nomatch h⟩

open Sample in
/-- A tenant that fails for the second time. -/
theorem next_of_pass_tenant :
    ∃ delay, fails.next 300 1 (mapAfter ([fails] ++ [fails])) = .after delay ∧
      8 ≤ delay ∧ delay ≤ 600 := by
  have hnext : fails.next 300 1 (mapAfter ([fails] ++ [fails])) =
      .after 20 := by decide +kernel
  have hprovisioned : fails.Provisioned := trivial
  have hpass := (next_of_pass (by norm_num) (by norm_num) hprovisioned
    [fails]).2 20 hnext
  exact ⟨20, hnext, (hpass.2 rfl).1, le_trans hpass.1 (by decide +kernel)⟩

end McpgOperator.Backoff
