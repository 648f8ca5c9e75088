import McpgOperator.Proofs.TrustGate

/-!
# What a pass decides

The gates of a plugin pass stand in a row, and each of them that does not
let the pass through ends it with a report. So a pass goes through all of
them, or it writes nothing but its early status and one report, neither of
which names a Secret. The Secret and the success status come of the first
case alone, and in the first case they always come, the status as long as
the apply of the Secret succeeds.
-/

namespace McpgOperator.Plugin

open McpgOperator.Kube

/-- A write that hands the artefact on: the Secret, a status that names one,
or the mark of success. -/
def Effect.commits : Effect → Bool
  | .patchStatus status _ => status.artefactSecretName.isSome
  | .applySecret _ _ => true
  | .publish _ => false
  | .recordSuccess _ => true

/-- A pass that hands nothing on. -/
def Pass.Holds (p : Pass) : Prop := ∀ e ∈ p.trace, e.commits = false

section Decision

variable {libs : PluginLibs} {ans : PluginAnswers} {obj : MCPGPlugin}

theorem holds_of_no_write {p : Pass} (h : p.trace = []) : p.Holds := by
  intro e he
  rw [h] at he
  cases he

theorem holds_report {r : Report} (hr : r.status.artefactSecretName = none)
    (generation : Int) : (r.write libs ans obj generation).Holds := by
  intro e he
  rcases List.mem_cons.mp he with rfl | he
  · show r.status.artefactSecretName.isSome = false
    rw [hr]
    rfl
  · rw [List.mem_singleton.mp he]
    rfl

theorem holds_after_pulling {p : Pass} (hp : p.Holds) (generation : Int) :
    (p.after [recordPulling libs ans obj generation]).Holds := by
  intro e he
  rcases List.mem_cons.mp he with rfl | he
  · rfl
  · exact hp e he

/-- An early return of `resolve_pull_target`. -/
theorem holds_resolvePullTarget {p : Pass} {generation : Int}
    (h : resolvePullTarget libs ans obj generation = .error p) :
    p.Holds := by
  simp only [resolvePullTarget] at h
  split at h
  · cases h
  · split at h
    · cases h
      exact holds_of_no_write rfl
    · cases h
      exact holds_report rfl generation
    · split at h
      · cases h
      · cases h
        exact holds_report rfl generation

/-! ## Holding, or going through

From the last gate to the first, as the gates are nested. -/

theorem holds_or_attested {artefact : PullArtefact}
    {result : NativeVerifyResult} {name : String} {generation : Int} :
    (attestStep libs ans obj name generation artefact result).Holds ∨
      ∃ cosign slsa,
        cosignGate ans obj artefact.manifestDigest = .ok cosign ∧
        slsaGate libs ans obj result.artifactHash = .ok slsa := by
  simp only [attestStep]
  split
  · exact .inl (holds_report rfl generation)
  · next cosign hcosign =>
      split
      · exact .inl (holds_report rfl generation)
      · next slsa hslsa => exact .inr ⟨cosign, slsa, hcosign, hslsa⟩

theorem holds_or_verified {artefact : PullArtefact} {name : String}
    {generation : Int} :
    (verifyStep libs ans obj name generation artefact).Holds ∨
      ∃ key list result cosign slsa,
        loadSigningKey libs.codec ans.getSecret
          obj.spec.trust.signingKeyRef = .ok key ∧
        loadRevocationList libs ans = .ok list ∧ ans.join = .ok () ∧
        verifyArtefact libs.codec libs.host artefact key list
          obj.spec.pluginId = .ok result ∧
        cosignGate ans obj artefact.manifestDigest = .ok cosign ∧
        slsaGate libs ans obj result.artifactHash = .ok slsa := by
  simp only [verifyStep]
  split
  · exact .inl (holds_report rfl generation)
  · next key hkey =>
      split
      · exact .inl (holds_of_no_write rfl)
      · next list hlist =>
          split
          · exact .inl (holds_of_no_write rfl)
          · next hjoin =>
              split
              · exact .inl (holds_report rfl generation)
              · exact .inl (holds_report rfl generation)
              · next result hver =>
                  refine holds_or_attested.imp_right ?_
                  rintro ⟨cosign, slsa, hcosign, hslsa⟩
                  exact ⟨key, list, result, cosign, slsa, hkey, hlist, hjoin,
                    hver, hcosign, hslsa⟩

/-- A pass goes through every gate, or hands nothing on. -/
theorem holds_or_goesThrough (libs : PluginLibs) (ans : PluginAnswers)
    (obj : MCPGPlugin) :
    (reconcileInner libs ans obj).Holds ∨
      ∃ name artefact result cosign slsa,
        GoesThrough libs ans obj name artefact result cosign slsa := by
  simp only [reconcileInner]
  split
  · exact .inl (holds_of_no_write rfl)
  · next name hname =>
      split
      · split <;> exact .inl (holds_of_no_write rfl)
      · next hlive =>
          split
          · exact .inl (holds_of_no_write rfl)
          · next patched hfin =>
              simp only [pullStep]
              split
              · next hp =>
                  exact .inl (holds_after_pulling
                    (holds_resolvePullTarget hp) _)
              · next target options htarget =>
                  split
                  · exact .inl (holds_after_pulling (holds_report rfl _) _)
                  · next artefact hpull =>
                      refine holds_or_verified.imp
                        (fun hp => holds_after_pulling hp _) ?_
                      rintro ⟨key, list, result, cosign, slsa, hkey, hlist,
                        hjoin, hver, hcosign, hslsa⟩
                      exact ⟨name, artefact, result, cosign, slsa,
                        { named := hname
                          live := by simpa using hlive
                          finalizer := ⟨patched, hfin⟩
                          pulled := ⟨target, options, htarget, hpull⟩
                          verified :=
                            ⟨key, list, hkey, hlist, hjoin, hver⟩
                          cosigned := hcosign
                          attested := hslsa }⟩

theorem goesThrough_of_commits {e : Effect}
    (he : e ∈ (reconcileInner libs ans obj).trace)
    (hcommits : e.commits = true) :
    ∃ name artefact result cosign slsa,
      GoesThrough libs ans obj name artefact result cosign slsa := by
  rcases holds_or_goesThrough libs ans obj with hholds | hgo
  · rw [hholds e he] at hcommits
    cases hcommits
  · exact hgo

/-! ## The writes of a pass that goes through -/

variable {name : String} {artefact : PullArtefact}
  {result : NativeVerifyResult} {cosign slsa : Option Bool}

/-- The Secret such a pass applies. -/
def secretOf (libs : PluginLibs) (obj : MCPGPlugin) (name : String)
    (artefact : PullArtefact) (hash : String) : Secret :=
  buildArtefactSecret obj operatorNamespace (artefactSecretName libs name hash)
    { artefact with artifactSha256 := some hash }

theorem applySecret_mem_iff_of_goesThrough
    (h : GoesThrough libs ans obj name artefact result cosign slsa)
    {secret : Secret} {answer : Except KubeError Unit} :
    .applySecret secret answer ∈ (reconcileInner libs ans obj).trace ↔
      secret = secretOf libs obj name artefact result.artifactHash ∧
        answer = ans.applySecret secret := by
  rw [reconcileInner_of_goesThrough h]
  simp only [materialise, Pass.after, recordPulling, List.cons_append,
    List.nil_append, List.mem_cons, reduceCtorEq, false_or, secretOf]
  split
  · next e happly =>
      simp only [List.mem_singleton, Effect.applySecret.injEq]
      refine and_congr_right fun hs => ?_
      rw [hs, happly]
  · next happly =>
      simp only [List.mem_cons, Effect.applySecret.injEq, reduceCtorEq,
        List.not_mem_nil, or_false]
      refine and_congr_right fun hs => ?_
      rw [hs, happly]

/-- A status that names a Secret is the success status, after the Secret was
applied. -/
theorem patchStatus_mem_of_goesThrough
    (h : GoesThrough libs ans obj name artefact result cosign slsa)
    {status : MCPGPluginStatus} {landed : Bool}
    (hmem : .patchStatus status landed ∈ (reconcileInner libs ans obj).trace)
    (hnames : status.artefactSecretName ≠ none) :
    secretApplies libs ans obj name artefact result.artifactHash ∧
      status = successStatus libs ans obj.observedGeneration result cosign
        slsa (artefactSecretName libs name result.artifactHash) := by
  rw [reconcileInner_of_goesThrough h] at hmem
  simp only [materialise, Pass.after, recordPulling, List.cons_append,
    List.nil_append, List.mem_cons, Effect.patchStatus.injEq] at hmem
  rcases hmem with ⟨rfl, _⟩ | hmem
  · exact absurd rfl hnames
  · split at hmem
    · simp at hmem
    · next happly =>
        simp only [List.mem_cons, reduceCtorEq, Effect.patchStatus.injEq,
          false_or, List.not_mem_nil, or_false] at hmem
        exact ⟨happly, hmem.1⟩

/-- A pass applies an artefact Secret exactly when it goes through every
gate, and reports Ready=True with a Secret exactly when that apply also
succeeds. -/
theorem materialises_iff (libs : PluginLibs) (ans : PluginAnswers)
    (obj : MCPGPlugin) :
    ((∃ secret answer,
        .applySecret secret answer ∈ (reconcileInner libs ans obj).trace) ↔
      ∃ name artefact result cosign slsa,
        GoesThrough libs ans obj name artefact result cosign slsa) ∧
    ((∃ status landed,
        .patchStatus status landed ∈ (reconcileInner libs ans obj).trace ∧
        readyTrue status.conditions = true ∧
        status.artefactSecretName ≠ none) ↔
      ∃ name artefact result cosign slsa,
        GoesThrough libs ans obj name artefact result cosign slsa ∧
        secretApplies libs ans obj name artefact result.artifactHash) := by
  refine ⟨⟨?_, ?_⟩, ?_, ?_⟩
  · rintro ⟨secret, answer, hmem⟩
    exact goesThrough_of_commits hmem rfl
  · rintro ⟨name, artefact, result, cosign, slsa, h⟩
    exact ⟨_, _, (applySecret_mem_iff_of_goesThrough h).mpr ⟨rfl, rfl⟩⟩
  · rintro ⟨status, landed, hmem, _, hnames⟩
    have hcommits : (Effect.patchStatus status landed).commits = true :=
      Option.isSome_iff_ne_none.mpr hnames
    obtain ⟨name, artefact, result, cosign, slsa, h⟩ :=
      goesThrough_of_commits hmem hcommits
    exact ⟨name, artefact, result, cosign, slsa, h,
      (patchStatus_mem_of_goesThrough h hmem hnames).1⟩
  · rintro ⟨name, artefact, result, cosign, slsa, h, happly⟩
    obtain ⟨status, hmem, hready, _, hname⟩ := success_mem h happly
    refine ⟨status, ans.outcomeLands, hmem, hready, ?_⟩
    rw [hname]
    exact Option.some_ne_none _

end Decision

end McpgOperator.Plugin
