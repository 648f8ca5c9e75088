import McpgOperator.Lib.Transition
import McpgOperator.Proofs.ConfigFrame
import McpgOperator.Proofs.GatewayPass

/-!
# A plugin set that stops resolving

When the set of a gateway gives no view, the pass goes on as if there were
no plugins: the config is rendered from `spec.config` alone and the
Deployment without the Secrets. What the last view put there is dropped,
unless the pass does not come to apply, or the view had no entries, or the
author's own config carries every entry and an apply fails before the
Deployment. That list is exact, pass by pass; along a run it is the guard
under which the last view stays in place.
-/

namespace McpgOperator.PluginHold

open McpgOperator.Kube McpgOperator.Gateway McpgOperator.Templates
  Transition

variable {Backend Managed : Type}

/-! ## What a pass is to keep -/

/-- What an effect writes contains what the view asks for: the entries in
the config; a volume and a mount for each Secret. -/
def keepsView (view : ResolvedSetView) : Effect → Prop
  | .applyConfigMap config _ =>
      ∀ entry ∈ view.rendered, entry ∈ pluginEntries config
  | .applyDeployment dep =>
      ∀ m ∈ mountsOf view,
        secretVolume (pluginVolumeName m.pluginId) m.secretName ∈
            dep.volumes ∧
          { name := pluginVolumeName m.pluginId
            mountPath := "/etc/mcpg/plugins/" ++ m.pluginId } ∈
            dep.volumeMounts
  | _ => True

/-- No apply of the pass drops what the view asks for. -/
def Holds (view : ResolvedSetView) (p : Pass) : Prop :=
  ∀ e ∈ p.trace, keepsView view e

/-- The view the pass gets from `resolve_plugin_set`. -/
def seenView (libs : GatewayLibs Backend Managed)
    (ans : GatewayAnswers Backend Managed) (gw : MCPGGateway) :
    Option ResolvedSetView :=
  match passNamespace ans gw with
  | none => none
  | some ns =>
      match resolvePluginSet libs.resolve ans.resolve ns gw with
      | .ok (some set) => set.view
      | _ => none

/-- Every apply before the Deployment succeeds. -/
def reachesDeployment (ans : GatewayAnswers Backend Managed)
    (gw : MCPGGateway) (ns : String) (r : Resolved) : Bool :=
  ans.applyConfigMap.isOk && ans.applyService.isOk &&
    ans.applyServiceAccount.isOk &&
    ((r.coordinationCopy gw ns).isNone ||
      (ans.ensureTenantSecretBinding.isOk &&
        ans.applyCoordinationSecret.isOk))

/-- Namespace and references of a pass that comes to apply. -/
def comesToApply (libs : GatewayLibs Backend Managed)
    (ans : GatewayAnswers Backend Managed) (gw : MCPGGateway) :
    Option (String × Resolved) :=
  match passNamespace ans gw with
  | none => none
  | some ns =>
      match resolveStep libs ans gw ns with
      | .error _ => none
      | .ok r => if r.holding.isSome then none else some (ns, r)

/-- A pass without a view that drops nothing. -/
def Spared (libs : GatewayLibs Backend Managed) (view : ResolvedSetView)
    (ans : GatewayAnswers Backend Managed) (gw : MCPGGateway) : Prop :=
  view.entries = [] ∨
    ∀ found ∈ comesToApply libs ans gw,
      (∀ entry ∈ view.rendered, entry ∈ pluginEntries gw.spec.config) ∧
        reachesDeployment ans gw found.1 found.2 = false

section Step

variable {libs : GatewayLibs Backend Managed} {cfg : OperatorConfig}
  {ans : GatewayAnswers Backend Managed} {gw : MCPGGateway} {ns : String}
  {r : Resolved} {view : ResolvedSetView}

theorem comesToApply_eq_some :
    comesToApply libs ans gw = some (ns, r) ↔ Applies libs ans gw ns r := by
  unfold comesToApply
  constructor
  · intro h
    split at h
    · cases h
    next ns' hpast =>
    split at h
    · cases h
    next r' hresolved =>
    split at h
    · cases h
    next hheld =>
    cases h
    exact ⟨hpast, hresolved, Option.not_isSome_iff_eq_none.mp hheld⟩
  · intro h
    rw [h.past]
    dsimp only
    rw [h.resolved]
    dsimp only
    rw [h.notHeld]
    rfl

/-! ## What the resolver hands over -/

theorem mounts_of_resolvePluginSet {libs : ResolveLibs} {ans : ResolveAnswers}
    {set : ResolvedPluginSet}
    (h : resolvePluginSet libs ans ns gw = .ok (some set)) :
    set.mounts = (set.view.map mountsOf).getD [] := by
  unfold resolvePluginSet at h
  split at h
  · cases h
  next name _ =>
  obtain ⟨found, _, h⟩ := Except.of_bind_ok h
  split at h
  · cases h
    rfl
  next s =>
  dsimp only at h
  split at h
  · cases h
    rfl
  obtain ⟨cm, _, h⟩ := Except.of_bind_ok h
  cases h
  unfold viewOfConfigMap
  dsimp only
  split
  · rfl
  · split <;> rfl

/-- A pass that comes to apply with no view renders none and mounts
none. -/
theorem view_of_seenView_none (h : Applies libs ans gw ns r)
    (hview : seenView libs ans gw = none) :
    (r.inputs ans).view = none ∧
      (r.pluginSet.map (·.mounts)).getD [] = [] := by
  obtain ⟨hset, _, _⟩ := of_resolveStep_ok h.resolved
  unfold seenView at hview
  rw [h.past] at hview
  dsimp only at hview
  rw [hset] at hview
  cases hr : r.pluginSet with
  | none =>
      refine ⟨?_, rfl⟩
      exact congrArg (Option.bind · ResolvedPluginSet.view) hr
  | some set =>
      rw [hr] at hset hview
      have hnone : set.view = none := hview
      constructor
      · exact (congrArg (Option.bind · ResolvedPluginSet.view) hr).trans hnone
      · have hmounts := mounts_of_resolvePluginSet hset
        rw [hnone] at hmounts
        exact hmounts

/-! ## One pass without a view -/

/-- The config keeps exactly the entries the author inlined. -/
theorem keepsView_configMap_iff (hview : (r.inputs ans).view = none)
    (cm : ConfigMap) :
    keepsView view (.applyConfigMap
        (renderConfig libs.render cfg gw ns (r.inputs ans)) cm) ↔
      ∀ entry ∈ view.rendered, entry ∈ pluginEntries gw.spec.config := by
  have happends :=
    appends_renderConfig libs.render cfg gw ns (r.inputs ans)
  have hbase := pluginEntries_mergePlugins gw.spec.config
    (r.inputs ans).view
    (if (r.inputs ans).revocationList then some revocationListMountPath
      else none)
  rw [hview] at hbase
  refine forall₂_congr fun entry hentry => ?_
  obtain ⟨e, _, rfl⟩ := List.mem_map.mp hentry
  have henforce :
      (renderEntry e (view.capabilityGrants.lookup e.id)).get "enforce" ≠
        none := by
    rw [get_enforce_renderEntry]
    exact Option.some_ne_none _
  rw [happends.mem_iff henforce, hview, hbase]
  rfl

theorem head_volumeName {c : Char} {kind : String}
    (h : kind.toList.head? = some c) (raw : String) :
    (volumeName kind raw).toList.head? = some c := by
  obtain ⟨cs, hcs⟩ := List.head?_eq_some_iff.mp h
  unfold volumeName
  dsimp only
  rw [String.toList_ofList, hcs, List.cons_append, List.cons_append,
    List.take_succ_cons, List.head?_cons]

theorem pluginVolumeName_ne (id name : String) :
    pluginVolumeName id ≠ secretVolumeName name := by
  intro heq
  have hp : (pluginVolumeName id).toList.head? = some 'p' :=
    head_volumeName (by decide) id
  have hs : (secretVolumeName name).toList.head? = some 's' :=
    head_volumeName (by decide) name
  rw [heq, hs] at hp
  cases hp

theorem secretVolume_not_mem (id secretName : String)
    (revocationList : Option RevocationListMount) :
    secretVolume (pluginVolumeName id) secretName ∉
      buildVolumes gw [] revocationList := by
  intro hmem
  unfold buildVolumes at hmem
  rcases List.mem_append.mp hmem with hmem | hmem
  · rcases List.mem_append.mp hmem with hmem | hmem
    · rcases List.mem_append.mp hmem with hmem | hmem
      · -- the config and the runtime directory are no Secrets
        rcases List.mem_cons.mp hmem with heq | hmem
        · exact nomatch congrArg Volume.source heq
        · exact nomatch congrArg Volume.source (List.mem_singleton.mp hmem)
      · cases hmem
    · -- nor is the revocation list
      obtain ⟨_, _, heq⟩ := Option.map_eq_some_iff.mp
        (Option.mem_toList.mp hmem)
      exact nomatch congrArg Volume.source heq
  · obtain ⟨m, _, heq⟩ := List.mem_map.mp hmem
    exact pluginVolumeName_ne id m.name (congrArg Volume.name heq).symm

/-- The Deployment of a pass without mounts keeps the view only if there is
nothing to keep. -/
theorem keepsView_deployment_iff
    (hmounts : (r.pluginSet.map (·.mounts)).getD [] = [])
    (configHash : String) :
    keepsView view
        (.applyDeployment (r.deployment cfg gw ns configHash)) ↔
      view.entries = [] := by
  constructor
  · intro hkeeps
    cases hentries : view.entries with
    | nil => rfl
    | cons e entries =>
        have hmount : { pluginId := e.id, secretName := e.artefactSecretName }
            ∈ mountsOf view := by
          unfold mountsOf
          rw [hentries]
          exact List.mem_cons_self
        obtain ⟨hvolume, _⟩ := hkeeps _ hmount
        unfold Resolved.deployment at hvolume
        rw [hmounts] at hvolume
        exact absurd hvolume (secretVolume_not_mem _ _ _)
  · intro hentries m hm
    unfold mountsOf at hm
    rw [hentries] at hm
    cases hm

theorem all_beforeDeployment :
    (beforeDeployment libs cfg ans gw ns r).all (fun a => a.2.isOk) =
      reachesDeployment ans gw ns r := by
  unfold beforeDeployment reachesDeployment
  cases r.coordinationCopy gw ns <;>
    simp [Bool.and_assoc]

theorem deployment_not_mem_beforeDeployment (dep : Deployment) :
    .applyDeployment dep ∉
      (beforeDeployment libs cfg ans gw ns r).map (·.1) := by
  unfold beforeDeployment
  cases r.coordinationCopy gw ns <;> simp

theorem deployment_mem_iff (happlies : Applies libs ans gw ns r)
    (cfg : OperatorConfig) :
    (∃ dep, .applyDeployment dep ∈ (reconcileInner libs cfg ans gw).trace) ↔
      reachesDeployment ans gw ns r = true := by
  rw [happlies.pass cfg]
  unfold children
  dsimp only
  rw [applyInOrder_append_trace, all_beforeDeployment]
  constructor
  · rintro ⟨dep, hmem⟩
    by_contra hstops
    rw [if_neg hstops] at hmem
    exact deployment_not_mem_beforeDeployment dep
      ((applyInOrder_trace_initial _).subset hmem)
  · intro hreaches
    rw [if_pos hreaches]
    exact ⟨_, List.mem_append_right _ (head_mem_applyInOrder _ _ _)⟩

theorem keepsView_of_not_apply {e : Effect} (h : ¬ e.isApply = true) :
    keepsView view e := by
  cases e <;> trivial

/-- A pass that drops nothing of the view, though it got none, is spared. -/
theorem spared_of_holds (hview : seenView libs ans gw = none)
    (h : Holds view (reconcileInner libs cfg ans gw)) :
    Spared libs view ans gw := by
  by_cases hempty : view.entries = []
  · exact .inl hempty
  refine .inr fun ⟨ns, r⟩ hcomes => ?_
  have happlies := comesToApply_eq_some.mp hcomes
  obtain ⟨hnone, hmounts⟩ := view_of_seenView_none happlies hview
  obtain ⟨cm, hconfig⟩ := happlies.configMap_mem cfg
  have hinlined := (keepsView_configMap_iff hnone cm).mp (h _ hconfig)
  refine ⟨hinlined, Bool.eq_false_iff.mpr fun hreaches => hempty ?_⟩
  obtain ⟨dep, hdep⟩ := (deployment_mem_iff happlies cfg).mpr hreaches
  obtain ⟨_, _, heq⟩ := happlies.carries_of_mem hdep
  have hkeeps := h _ hdep
  rw [heq] at hkeeps
  exact (keepsView_deployment_iff hmounts _).mp hkeeps

theorem holds_of_spared (hview : seenView libs ans gw = none)
    (h : Spared libs view ans gw) :
    Holds view (reconcileInner libs cfg ans gw) := by
  intro e he
  by_cases happly : e.isApply = true
  swap
  · exact keepsView_of_not_apply happly
  obtain ⟨ns, r, happlies⟩ := applies_of_mem he happly
  obtain ⟨hnone, hmounts⟩ := view_of_seenView_none happlies hview
  have hcarries := happlies.carries_of_mem he
  have hcomes := comesToApply_eq_some.mpr happlies
  cases e with
  | applyConfigMap config cm =>
      obtain ⟨heq, _⟩ := hcarries
      rw [heq]
      refine (keepsView_configMap_iff hnone cm).mpr ?_
      rcases h with hempty | hspared
      · unfold ResolvedSetView.rendered
        rw [hempty]
        exact fun _ hentry => nomatch hentry
      · exact (hspared _ hcomes).1
  | applyDeployment dep =>
      obtain ⟨_, _, heq⟩ := hcarries
      rcases h with hempty | hspared
      · rw [heq]
        exact (keepsView_deployment_iff hmounts _).mpr hempty
      · have hstops := (hspared _ hcomes).2
        have hreaches := (deployment_mem_iff happlies cfg).mp ⟨dep, he⟩
        rw [hstops] at hreaches
        cases hreaches
  | _ => trivial

/-- What a pass without a view does to the last one, exactly. -/
theorem holds_iff (hview : seenView libs ans gw = none) :
    Holds view (reconcileInner libs cfg ans gw) ↔ Spared libs view ans gw :=
  ⟨spared_of_holds hview, holds_of_spared hview⟩

end Step

/-! ## Histories of passes -/

/-- The last view a pass got, and each later pass without one, next to that
view. -/
structure State where
  last : Option ResolvedSetView
  unresolved : List (ResolvedSetView × Pass)

/-- A pass over the gateway as it then is, with what the apiserver
answers. -/
structure Action (Backend Managed : Type) where
  gw : MCPGGateway
  ans : GatewayAnswers Backend Managed

/-- Passes over one gateway, which names a plugin set throughout. -/
def system (libs : GatewayLibs Backend Managed) (cfg : OperatorConfig)
    (name ns : String) : System State (Action Backend Managed) where
  init s := s.last = none ∧ s.unresolved = []
  step s a :=
    if a.gw.metadata.name = some name ∧ a.gw.metadata.namespace_ = some ns ∧
        a.gw.spec.pluginSetRef.isSome then
      match seenView libs a.ans a.gw with
      | some view => some { s with last := some view }
      | none =>
          some
            { s with
              unresolved :=
                (s.last.map fun view =>
                  (view, reconcileInner libs cfg a.ans a.gw)).toList ++
                s.unresolved }
    else none

/-- A pass without a view is spared for the last one. -/
def SparesLast (libs : GatewayLibs Backend Managed) (s : State)
    (a : Action Backend Managed) : Prop :=
  seenView libs a.ans a.gw = none →
    ∀ view ∈ s.last, Spared libs view a.ans a.gw

/-- Every pass without a view kept the view it followed. -/
def Inv (s : State) : Prop := ∀ vp ∈ s.unresolved, Holds vp.1 vp.2

section Histories

variable {libs : GatewayLibs Backend Managed} {cfg : OperatorConfig}
  {name ns : String}

theorem inv_step {s s' : State} {a : Action Backend Managed} (hinv : Inv s)
    (hok : SparesLast libs s a)
    (h : (system libs cfg name ns).step s a = some s') : Inv s' := by
  dsimp only [system] at h
  split at h
  swap
  · cases h
  cases hview : seenView libs a.ans a.gw with
  | some view =>
      rw [hview] at h
      cases h
      exact hinv
  | none =>
      rw [hview] at h
      cases h
      intro vp hvp
      rcases List.mem_append.mp hvp with hnew | hold
      · obtain ⟨view, hlast, rfl⟩ := Option.map_eq_some_iff.mp
          (Option.mem_toList.mp hnew)
        exact holds_of_spared hview (hok hview view hlast)
      · exact hinv vp hold

/-- In every run whose passes are spared, no pass without a view drops what
the last view put into the config or the Deployment. -/
theorem holds_of_sparesLast {s : State}
    (h : Reachable (system libs cfg name ns) (SparesLast libs) s) :
    ∀ vp ∈ s.unresolved, Holds vp.1 vp.2 := by
  refine h.invariant ?_ fun _ _ _ hinv hok hstep =>
    inv_step hinv hok hstep
  rintro s ⟨_, hempty⟩
  intro vp hvp
  rw [hempty] at hvp
  cases hvp

end Histories

/-! ## A set that stops being Ready -/

section Decidable

instance (view : ResolvedSetView) : ∀ e, Decidable (keepsView view e)
  | .applyConfigMap config _ =>
      inferInstanceAs (Decidable (∀ entry ∈ view.rendered,
        entry ∈ pluginEntries config))
  | .applyDeployment dep =>
      inferInstanceAs (Decidable (∀ m ∈ mountsOf view,
        secretVolume (pluginVolumeName m.pluginId) m.secretName ∈
            dep.volumes ∧
          { name := pluginVolumeName m.pluginId
            mountPath := "/etc/mcpg/plugins/" ++ m.pluginId } ∈
            dep.volumeMounts))
  | .patchStatus _ | .publish _ | .applyService | .applyServiceAccount
  | .ensureTenantSecretBinding | .applyCoordinationSecret _
  | .applyHttpRoute _ | .reconcileEdgeDomains | .applyHpa _
  | .applyPdb _ | .deletePdb _ =>
      .isTrue trivial

instance (view : ResolvedSetView) (p : Pass) : Decidable (Holds view p) :=
  inferInstanceAs (Decidable (∀ e ∈ p.trace, keepsView view e))

instance (libs : GatewayLibs Backend Managed) (view : ResolvedSetView)
    (ans : GatewayAnswers Backend Managed) (gw : MCPGGateway) :
    Decidable (Spared libs view ans gw) :=
  inferInstanceAs (Decidable (_ ∨ ∀ _ ∈ _, _))

instance (libs : GatewayLibs Backend Managed) (s : State)
    (a : Action Backend Managed) : Decidable (SparesLast libs s a) :=
  inferInstanceAs (Decidable (_ = _ → ∀ _ ∈ _, _))

end Decidable

namespace Sample

open McpgOperator.Gateway.Sample McpgOperator.Plugin McpgOperator.PluginSet

/-- The document of a set with one entry. -/
def pluginsText : String :=
  "\x7b\"entries\":[\x7b\"artefactSecretName\":\"plugin-audit\"," ++
    "\"id\":\"audit\",\"pluginClass\":\"middleware\"," ++
    "\"pluginVersion\":\"1.0.0\",\"resolvedDigest\":\"ab12\"\x7d]\x7d"

def pluginsDocument : Json :=
  .obj [("entries", .arr [.obj
    [("artefactSecretName", .str "plugin-audit"), ("id", .str "audit"),
      ("pluginClass", .str "middleware"), ("pluginVersion", .str "1.0.0"),
      ("resolvedDigest", .str "ab12")]])]

def setLibs : GatewayLibs String Unit :=
  { libs with
    resolve :=
      { libs.resolve with
        fromStr := fun text =>
          if text = pluginsText then .ok pluginsDocument
          else .error "expected value at line 1 column 1" } }

/-- A gateway that names the set, and this cluster if any. -/
def gateway (clusterRef : Option String) : MCPGGateway :=
  { metadata :=
      { name := some "edge", namespace_ := some "payments"
        finalizers := some [operatorFinalizer] }
    spec :=
      { image := { tag := some "0.1.0-beta.60" }, config := .obj []
        clusterRef := clusterRef, pluginSetRef := some "secure" } }

/-- The set, with this Ready condition. -/
def pluginSet (ready : String) : MCPGPluginSet :=
  { metadata := { name := some "secure", namespace_ := some "payments" }
    spec := {}
    status := some
      { conditions :=
          [{ type := CType.ready, status := ready
             reason := Reasons.reconciled, message := ""
             observedGeneration := some 1 }]
        resolvedHash := some "5e884898" } }

/-- The apiserver with the set, and no cluster. -/
def answersWith (ready : String) : GatewayAnswers String Unit :=
  { answers with
    resolve :=
      { answers.resolve with
        getPluginSet := fun _ => .ok (some (pluginSet ready))
        getConfigMap := fun name => .ok (some
          { name := some name, namespace_ := some "payments"
            data := some [("plugins.json", pluginsText)] }) } }

/-- The same with a Ready cluster. -/
def answersOnCluster (ready : String) : GatewayAnswers String Unit :=
  { answersWith ready with
    cluster :=
      { answers.cluster with
        getCluster := fun name => .ok (some
          { metadata := { name := some name }
            spec := { backend := "redis", managed := none, pluginRef := none }
            status := some
              { conditions :=
                  [{ type := CType.ready, status := "True"
                     reason := Reasons.reconciled, message := ""
                     observedGeneration := some 1 }] } }) } }

def start : State := { last := none, unresolved := [] }

def edge : System State (Action String Unit) :=
  system setLibs cfg "edge" "payments"

/-- The set is Ready, and then it is not. -/
def notReady : List (Action String Unit) :=
  [⟨gateway none, answersWith "True"⟩, ⟨gateway none, answersWith "False"⟩]

/-- The same, with a cluster that goes away with the set. -/
def bothUnresolved : List (Action String Unit) :=
  [⟨gateway (some "prod"), answersOnCluster "True"⟩,
    ⟨gateway (some "prod"), answersWith "False"⟩]

end Sample

theorem start_init : Sample.edge.init Sample.start := ⟨rfl, rfl⟩

/-- The pass that finds the cluster gone is held, and so the plugins of the
last view stay. -/
theorem holds_bothUnresolved : ∃ s,
    Sample.edge.run Sample.start Sample.bothUnresolved = some s ∧
      s.unresolved ≠ [] ∧ ∀ vp ∈ s.unresolved, Holds vp.1 vp.2 := by
  have hrun : (Sample.edge.checkedRun (SparesLast Sample.setLibs)
      Sample.start Sample.bothUnresolved).any
        (fun s => decide (s.unresolved ≠ [])) = true := by decide +kernel
  obtain ⟨s, hs, hne⟩ := (Option.any_eq_true _ _).mp hrun
  have hreach := (Reachable.init start_init).of_checkedRun hs
  exact ⟨s, System.run_of_checkedRun hs, of_decide_eq_true hne,
    holds_of_sparesLast hreach⟩

/-- A set that is no longer Ready: the next pass applies a config without
its entry, and a Deployment without its Secret. -/
theorem not_holds_notReady : ∃ s, Reachable Sample.edge anyStep s ∧
    ∃ vp ∈ s.unresolved, ¬ Holds vp.1 vp.2 := by
  have hrun : (Sample.edge.run Sample.start Sample.notReady).any
      (fun s => decide (∃ vp ∈ s.unresolved, ¬ Holds vp.1 vp.2)) = true := by
    decide +kernel
  obtain ⟨s, hs, hdrops⟩ := (Option.any_eq_true _ _).mp hrun
  have hreach := (Reachable.init start_init).of_run
    (System.permitted_anyStep _ Sample.notReady Sample.start) hs
  exact ⟨s, hreach, of_decide_eq_true hdrops⟩

end McpgOperator.PluginHold
