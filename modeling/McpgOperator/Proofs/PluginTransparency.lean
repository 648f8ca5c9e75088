import McpgOperator.Plugin.StatusApply
import McpgOperator.PluginSet.Resolve
import McpgOperator.Proofs.TrustGate

/-!
# What a set sees while a plugin is reconciled

A resolver may read the plugin between any two writes of a pass, so the
question is about every prefix of the pass's writes. The plugin controller
owns its status alone, hence each patch that takes effect replaces the
status by its own document. The success document keeps Secret and digest;
the early Progressing document carries the conditions and leaves both out.
A pass over an unchanged artefact is therefore invisible to the resolver
exactly when its early patch does not take effect.
-/

namespace McpgOperator.Plugin

open McpgOperator.Kube McpgOperator.PluginSet Apply

/-- The stored plugin with this status resolves the entry to `resolved`. -/
def acceptsStatus (obj : MCPGPlugin) (entry : MCPGPluginSetEntry)
    (resolved : ResolvedEntry) (status : MCPGPluginStatus) : Prop :=
  resolveEntry (.ok (some { obj with status := some status })) entry =
    .ok resolved

/-- After every write of `trace`, the first and the last included and before
any of them, the resolver takes the plugin in as `resolved`. -/
def transparent (obj : MCPGPlugin) (entry : MCPGPluginSetEntry)
    (resolved : ResolvedEntry) (live : LiveStatus) (trace : List Effect) :
    Prop :=
  ∀ pre, pre <+: trace →
    resolveEntry (.ok (some (obj.withLive (statusAfter live pre)))) entry =
      .ok resolved

section Transparency

variable {obj : MCPGPlugin} {entry : MCPGPluginSetEntry}
  {resolved : ResolvedEntry} {live : LiveStatus}

/-! ## The live status along a trace -/

theorem soleOwner_applyEffect (h : SoleOwner pluginFieldManager live)
    (e : Effect) : SoleOwner pluginFieldManager (applyEffect live e) := by
  unfold applyEffect
  split
  · exact soleOwner_force h _
  · exact h

theorem readStatus_landed (h : SoleOwner pluginFieldManager live)
    (status : MCPGPluginStatus) :
    readStatus (applyEffect live (.patchStatus status true)).value =
      status := by
  rw [applyEffect, force_value_of_soleOwner h, readStatus_doc]

theorem applyEffect_eq_self {e : Effect}
    (h : ∀ status, e ≠ .patchStatus status true) :
    applyEffect live e = live := by
  unfold applyEffect
  split
  · next status => exact absurd rfl (h status)
  · rfl

/-- If every status patch that takes effect is accepted, so is every state
in between. -/
theorem transparent_of_landed {trace : List Effect}
    (hsole : SoleOwner pluginFieldManager live)
    (hnow : acceptsStatus obj entry resolved (readStatus live.value))
    (hlanded : ∀ status, .patchStatus status true ∈ trace →
      acceptsStatus obj entry resolved status) :
    transparent obj entry resolved live trace := by
  induction trace generalizing live with
  | nil =>
      intro pre hpre
      rw [List.prefix_nil.mp hpre]
      exact hnow
  | cons e trace ih =>
      intro pre hpre
      cases pre with
      | nil => exact hnow
      | cons e' pre =>
          obtain ⟨rfl, hrest⟩ := List.cons_prefix_cons.mp hpre
          refine ih (soleOwner_applyEffect hsole e') ?_
            (fun status hmem => hlanded status (List.mem_cons_of_mem e' hmem))
            pre hrest
          by_cases he : ∃ status, e' = .patchStatus status true
          · obtain ⟨status, rfl⟩ := he
            rw [readStatus_landed hsole]
            exact hlanded status List.mem_cons_self
          · have hsame : applyEffect live e' = live :=
              applyEffect_eq_self fun status heq => he ⟨status, heq⟩
            rw [hsame]
            exact hnow

/-! ## The two documents of a pass -/

/-- The early document names no Secret, so the resolver rejects it. -/
theorem not_accepts_pulling (libs : PluginLibs) (ans : PluginAnswers)
    (generation : Int) :
    ¬ acceptsStatus obj entry resolved
      (pullingStatus libs ans obj generation) := by
  intro h
  obtain ⟨_, _, _, s, hs, _⟩ := resolveEntry_ok_iff.mp h
  cases hs

/-- The success document of the same Secret and digest is accepted as
before. -/
theorem accepts_success {libs : PluginLibs} {ans : PluginAnswers}
    {generation : Int} {result : NativeVerifyResult}
    {cosign slsa : Option Bool} {secretName : String}
    {status : MCPGPluginStatus}
    (hbefore : acceptsStatus obj entry resolved status)
    (hdigest : result.artifactHash = resolved.resolvedDigest)
    (hsecret : secretName = resolved.artefactSecretName) :
    acceptsStatus obj entry resolved
      (successStatus libs ans generation result cosign slsa secretName) := by
  obtain ⟨hid, _, _, s, _, hne, hres⟩ := resolveEntry_ok_iff.mp hbefore
  refine resolveEntry_ok_iff.mpr ⟨hid, rfl,
    readyTrue_successConditions libs.api generation, secretName, rfl, ?_, ?_⟩
  · rw [hsecret, hres]
    exact hne
  · rw [hres] at hdigest hsecret ⊢
    simp only at hdigest hsecret
    simp only [successStatus, Option.bind_some, Option.getD_some, hdigest,
      hsecret]

/-- An early patch that takes effect is seen. -/
theorem not_transparent_of_pullingLands {libs : PluginLibs}
    {ans : PluginAnswers} {name : String} {artefact : PullArtefact}
    {result : NativeVerifyResult} {cosign slsa : Option Bool}
    (hsole : SoleOwner pluginFieldManager live)
    (hgo : GoesThrough libs ans obj name artefact result cosign slsa)
    (hlands : ans.pullingLands = true) :
    ¬ transparent obj entry resolved live
      (reconcileInner libs ans obj).trace := by
  rw [reconcileInner_of_goesThrough hgo]
  intro h
  have hfirst := h [recordPulling libs ans obj obj.observedGeneration]
    (List.prefix_append _ _)
  simp only [statusAfter, List.foldl_cons, List.foldl_nil, recordPulling,
    hlands, MCPGPlugin.withLive, readStatus_landed hsole] at hfirst
  exact not_accepts_pulling libs ans obj.observedGeneration hfirst

theorem transparent_of_pullingLost {libs : PluginLibs} {ans : PluginAnswers}
    {name : String} {artefact : PullArtefact} {result : NativeVerifyResult}
    {cosign slsa : Option Bool} (hsole : SoleOwner pluginFieldManager live)
    (hbefore : acceptsStatus obj entry resolved (readStatus live.value))
    (hgo : GoesThrough libs ans obj name artefact result cosign slsa)
    (hdigest : result.artifactHash = resolved.resolvedDigest)
    (hsecret : artefactSecretName libs name result.artifactHash =
      resolved.artefactSecretName)
    (hlost : ans.pullingLands = false) :
    transparent obj entry resolved live
      (reconcileInner libs ans obj).trace := by
  rw [reconcileInner_of_goesThrough hgo]
  refine transparent_of_landed hsole hbefore fun status hmem => ?_
  simp only [Pass.after, List.cons_append, List.nil_append, recordPulling,
    hlost, List.mem_cons, Effect.patchStatus.injEq, reduceCtorEq,
    and_false, false_or] at hmem
  simp only [materialise] at hmem
  split at hmem
  · simp at hmem
  · simp only [List.mem_cons, Effect.patchStatus.injEq, reduceCtorEq,
      false_or, List.not_mem_nil, or_false] at hmem
    rw [hmem.1]
    exact accepts_success hbefore hdigest hsecret

/-- A pass that goes through every gate again, with the same artefact, is
transparent if and only if its early patch does not take effect. -/
theorem pass_transparent_iff (libs : PluginLibs) (ans : PluginAnswers)
    (obj : MCPGPlugin) (entry : MCPGPluginSetEntry)
    (resolved : ResolvedEntry) (live : LiveStatus) {name : String}
    {artefact : PullArtefact} {result : NativeVerifyResult}
    {cosign slsa : Option Bool}
    (hsole : SoleOwner pluginFieldManager live)
    (hbefore : resolveEntry (.ok (some (obj.withLive live))) entry =
      .ok resolved)
    (hgo : GoesThrough libs ans obj name artefact result cosign slsa)
    (hdigest : result.artifactHash = resolved.resolvedDigest)
    (hsecret : artefactSecretName libs name result.artifactHash =
      resolved.artefactSecretName) :
    transparent obj entry resolved live (reconcileInner libs ans obj).trace ↔
      ans.pullingLands = false := by
  constructor
  · intro htransparent
    by_contra hlands
    exact not_transparent_of_pullingLands hsole hgo
      (Bool.not_eq_false _ ▸ hlands) htransparent
  · exact transparent_of_pullingLost hsole hbefore hgo hdigest hsecret

end Transparency

/-! ## The sample plugin, reconciled again -/

namespace Sample

/-- The status of the first pass, owned by the plugin controller. -/
def live : LiveStatus := Apply.single pluginFieldManager success.doc

/-- The sample plugin once it is ready. -/
def readyPlugin : MCPGPlugin := { plugin with status := some success }

def entry : MCPGPluginSetEntry :=
  { id := "workload", pluginRef := "workload", enabled := true
    config := none }

def resolved : ResolvedEntry :=
  { entryId := "workload", pluginName := "workload"
    pluginVersion := "1.0.0", pluginClass := "identity_provider"
    artefactSecretName := secretName, resolvedDigest := digest
    config := .null }

theorem soleOwner_live : SoleOwner pluginFieldManager live :=
  soleOwner_single pluginFieldManager success.doc

theorem resolves_before :
    resolveEntry (.ok (some (readyPlugin.withLive live))) entry =
      .ok resolved := by
  decide +kernel

theorem goesThrough_again (lands : Bool) :
    GoesThrough libs { answers with pullingLands := lands } readyPlugin
      "workload" artefact
      { artifactHash := digest, signatureVerified := true } (some true)
      (some true) where
  named := rfl
  live := rfl
  finalizer := ⟨false, rfl⟩
  pulled := ⟨plugin.spec.oci, .default, rfl, rfl⟩
  verified := ⟨key, none, rfl, rfl, rfl, by decide +kernel⟩
  cosigned := by cases lands <;> decide +kernel
  attested := by cases lands <;> decide +kernel

theorem secretName_eq : artefactSecretName libs "workload" digest =
    secretName := by
  decide +kernel

end Sample

/-- Reconciled again with nothing changed, the sample plugin is rejected
after the early patch. -/
theorem not_transparent_again :
    resolveEntry (.ok (some (Sample.readyPlugin.withLive Sample.live)))
        Sample.entry = .ok Sample.resolved ∧
      ¬ transparent Sample.readyPlugin Sample.entry Sample.resolved
        Sample.live
        (reconcileInner Sample.libs Sample.answers
          Sample.readyPlugin).trace :=
  ⟨Sample.resolves_before,
    not_transparent_of_pullingLands Sample.soleOwner_live
      (Sample.goesThrough_again true) rfl⟩

/-- With the early patch lost, the same pass is transparent. -/
theorem transparent_again :
    transparent Sample.readyPlugin Sample.entry Sample.resolved Sample.live
      (reconcileInner Sample.libs
        { Sample.answers with pullingLands := false }
        Sample.readyPlugin).trace :=
  (pass_transparent_iff Sample.libs _ Sample.readyPlugin Sample.entry
    Sample.resolved Sample.live Sample.soleOwner_live Sample.resolves_before
    (Sample.goesThrough_again false) rfl Sample.secretName_eq).mpr rfl

end McpgOperator.Plugin
