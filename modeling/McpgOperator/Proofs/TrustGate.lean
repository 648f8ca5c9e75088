import McpgOperator.Lib.Except
import McpgOperator.Plugin.Reconcile
import Mathlib.Tactic.Common

/-!
# What stands behind Ready=True

A plugin pass writes status at most twice: once before the pull, and once
when it knows how the pass ended. The early write and all failure reports
are quiet: they name no artefact Secret, and a Ready=True in them can only be
one the object already carried. The remaining write sits at the end of a
chain of early returns, so reaching it means every gate before it let the
pass through, and all of them looked at the same pulled artefact. The proof
follows that chain from its end: each stage is sound for the gates already
passed, given that the next one is.
-/

namespace McpgOperator.Plugin

open McpgOperator.Kube

section Soundness

variable {libs : PluginLibs} {ans : PluginAnswers} {obj : MCPGPlugin}

/-! ## The gates of a pass -/

/-- Every gate of the pass let `artefact` through, under the hash
`digest`. -/
structure TrustGates (libs : PluginLibs) (ans : PluginAnswers)
    (obj : MCPGPlugin) (artefact : PullArtefact) (digest : String) :
    Prop where
  /-- It is the artefact this pass pulled. -/
  pulled : ∃ target options,
    resolvePullTarget libs ans obj obj.observedGeneration =
      .ok (target, options) ∧
    pullAndUnpack libs.package ans.pull target options = .ok artefact
  descriptor : parseDescriptorId libs.codec artefact.descriptorBytes =
    .ok obj.spec.pluginId
  /-- The file the host verified holds the bytes that were read. -/
  bytes : libs.package.readFile artefact.tempdir
    artefact.unpacked.artifactPath = .ok artefact.artifactBytes
  signature : ∃ key list result,
    loadSigningKey libs.codec ans.getSecret obj.spec.trust.signingKeyRef =
      .ok key ∧
    loadRevocationList libs ans = .ok list ∧
    libs.host.verifyNativeArtifact artefact.tempdir
      artefact.unpacked.artifactPath
      { expectedSha256 := none, trustedPublicKeys := [key]
        policy := .enforce, revocationList := list } = .ok result ∧
    result.artifactHash = digest
  /-- At the digest that was pulled, of the upstream image. -/
  cosign : ∀ identity, obj.spec.trust.cosignIdentity = some identity →
    CosignVerified ans.sigstore obj.spec.oci identity .anonymous
      artefact.manifestDigest
  slsa : ∀ cfg, obj.spec.trust.slsaProvenance = some cfg →
    runSlsaVerify libs ans cfg digest = .ok ()

/-- Among the writes in `pre`, the Secret `s` of the operator namespace was
applied with exactly the artefact's files. -/
def Materialised (pre : List Effect) (artefact : PullArtefact) (s : String) :
    Prop :=
  ∃ secret, .applySecret secret (.ok ()) ∈ pre ∧ secret.name = some s ∧
    secret.namespace_ = some operatorNamespace ∧
    secret.data = some (artefactData artefact)

/-- A status that names no Secret and makes nothing ready: a Ready=True in
it is the one the object carried, and then it names no digest either. -/
structure Quiet (obj : MCPGPlugin) (status : MCPGPluginStatus) : Prop where
  noSecret : status.artefactSecretName = none
  carried : readyTrue status.conditions = true →
    readyTrue obj.carriedConditions = true
  noDigest : readyTrue status.conditions = true →
    status.resolvedDigest = none

/-- What a failure report writes. -/
structure Failed (obj : MCPGPlugin) (status : MCPGPluginStatus) : Prop where
  noSecret : status.artefactSecretName = none
  notReady : readyTrue status.conditions = false
  observed : status.observedGeneration = some obj.observedGeneration

/-- A success status, with the gates behind its Secret and digest. -/
def Vouched (libs : PluginLibs) (ans : PluginAnswers) (obj : MCPGPlugin)
    (pre : List Effect) (status : MCPGPluginStatus) : Prop :=
  ∃ artefact result cosign slsa s,
    TrustGates libs ans obj artefact result.artifactHash ∧
    Materialised pre artefact s ∧
    status = successStatus libs ans obj.observedGeneration result cosign
      slsa s

/-- Every status write of the pass is the early one, a failure report, or
vouched for. -/
def Pass.Sound (libs : PluginLibs) (ans : PluginAnswers) (obj : MCPGPlugin)
    (p : Pass) : Prop :=
  ∀ pre status landed post,
    p.trace = pre ++ .patchStatus status landed :: post →
    status = pullingStatus libs ans obj obj.observedGeneration ∨
      Failed obj status ∨ Vouched libs ans obj pre status

/-- The early status keeps whatever readiness the object carried. -/
theorem readyTrue_pullingStatus (generation : Int) :
    readyTrue (pullingStatus libs ans obj generation).conditions =
      readyTrue obj.carriedConditions :=
  readyTrue_set_other libs.api _
    (show CType.progressing ≠ CType.ready by decide)

theorem quiet_pullingStatus (generation : Int) :
    Quiet obj (pullingStatus libs ans obj generation) where
  noSecret := rfl
  carried hready := by rwa [readyTrue_pullingStatus] at hready
  noDigest _ := rfl

theorem Failed.quiet {status : MCPGPluginStatus} (h : Failed obj status) :
    Quiet obj status where
  noSecret := h.noSecret
  carried hready := by
    rw [h.notReady] at hready
    cases hready
  noDigest hready := by
    rw [h.notReady] at hready
    cases hready

theorem sound_of_no_write {p : Pass} (h : p.trace = []) :
    p.Sound libs ans obj := by
  intro pre status landed post htrace
  rw [h] at htrace
  exact absurd htrace.symm (by simp)

/-! ## Failure reports -/

/-- A report that sets Ready, never to True, and names no Secret. -/
structure Report.Failing (r : Report) : Prop where
  setsReady : ∃ c ∈ r.conditions, c.type = CType.ready
  notTrue : ∀ c ∈ r.conditions, c.type = CType.ready → c.status ≠ "True"
  noSecret : r.status.artefactSecretName = none

theorem mirrorFailure_failing (generation : Int) (detail : String) :
    (mirrorFailure generation detail).Failing where
  setsReady := by simp [mirrorFailure]
  notTrue := by simp [mirrorFailure]
  noSecret := rfl

theorem pullFailure_failing (generation : Int) (err : PullError) :
    (pullFailure obj generation err).Failing where
  setsReady := by simp [pullFailure]
  notTrue := by simp [pullFailure]
  noSecret := rfl

theorem verifyFailure_failing (generation : Int) (digest : String)
    (err : VerifyError) :
    (verifyFailure obj generation digest err).Failing where
  setsReady := by simp [verifyFailure]
  notTrue := by
    simp [verifyFailure, reconciledCondition, CType.ready]
  noSecret := rfl

theorem revokedReport_failing (generation : Int)
    (digest sha reason : String) :
    (revokedReport generation digest sha reason).Failing where
  setsReady := by simp [revokedReport]
  notTrue := by
    simp [revokedReport, reconciledCondition, CType.ready]
  noSecret := rfl

/-- The only status a report writes is its own, and it is not ready. -/
theorem sound_report {r : Report} (hr : r.Failing) :
    (r.write libs ans obj obj.observedGeneration).Sound libs ans obj := by
  intro pre status landed post h
  cases pre with
  | nil =>
      cases h
      exact .inr (.inl
        { noSecret := hr.noSecret
          notReady := readyTrue_setAll_false hr.setsReady hr.notTrue
          observed := rfl })
  | cons e pre =>
      cases pre with
      | nil => cases h
      | cons e' pre => cases pre <;> cases h

/-! ## The stages, from the last to the first -/

theorem sound_materialise {artefact : PullArtefact}
    {result : NativeVerifyResult}
    (hgates : TrustGates libs ans obj artefact result.artifactHash)
    (name : String) (cosignVerified slsaVerified : Option Bool) :
    (materialise libs ans obj name obj.observedGeneration
      { artefact with artifactSha256 := some result.artifactHash } result
      cosignVerified slsaVerified).Sound libs ans obj := by
  intro pre status landed post h
  simp only [materialise] at h
  split at h
  · cases pre with
    | nil => cases h
    | cons e pre => cases pre <;> cases h
  · cases pre with
    | nil => cases h
    | cons e pre =>
        cases pre with
        | nil =>
            cases h
            exact .inr (.inr ⟨artefact, result, _, _, _, hgates,
              ⟨_, List.mem_singleton.mpr rfl, rfl, rfl, rfl⟩, rfl⟩)
        | cons e' pre =>
            cases pre with
            | nil => cases h
            | cons e'' pre =>
                cases pre with
                | nil => cases h
                | cons e₃ pre => cases pre <;> cases h

theorem cosignGate_ok {digest : String} {verified : Option Bool}
    (h : cosignGate ans obj digest = .ok verified)
    {identity : CosignIdentity}
    (hid : obj.spec.trust.cosignIdentity = some identity) :
    CosignVerified ans.sigstore obj.spec.oci identity .anonymous digest := by
  simp only [cosignGate, hid] at h
  split at h
  · next r hr => exact verifyCosignKeyless_ok hr
  · cases h

theorem slsaGate_ok {digest : String} {verified : Option Bool}
    (h : slsaGate libs ans obj digest = .ok verified)
    {cfg : SlsaProvenance}
    (hcfg : obj.spec.trust.slsaProvenance = some cfg) :
    runSlsaVerify libs ans cfg digest = .ok () := by
  simp only [slsaGate, hcfg] at h
  split at h
  · next hr => exact hr
  · cases h

/-- The artefact passed the pull and the host verifier; the attestations
decide the rest. -/
theorem sound_attestStep {artefact : PullArtefact}
    {result : NativeVerifyResult} {name : String}
    (hgates : (∀ identity, obj.spec.trust.cosignIdentity = some identity →
        CosignVerified ans.sigstore obj.spec.oci identity .anonymous
          artefact.manifestDigest) →
      (∀ cfg, obj.spec.trust.slsaProvenance = some cfg →
        runSlsaVerify libs ans cfg result.artifactHash = .ok ()) →
      TrustGates libs ans obj artefact result.artifactHash) :
    (attestStep libs ans obj name obj.observedGeneration artefact
      result).Sound libs ans obj := by
  simp only [attestStep]
  split
  · exact sound_report (verifyFailure_failing _ _ _)
  · next hcosign =>
      split
      · exact sound_report (verifyFailure_failing _ _ _)
      · next hslsa =>
          exact sound_materialise
            (hgates (fun _ hid => cosignGate_ok hcosign hid)
              (fun _ hcfg => slsaGate_ok hslsa hcfg)) _ _ _

theorem verifyArtefact_ok {codec : CodecLib} {host : HostLib}
    {artefact : PullArtefact} {key : Bytes}
    {list : Option host.RevocationList} {id : String}
    {result : NativeVerifyResult}
    (h : verifyArtefact codec host artefact key list id = .ok result) :
    parseDescriptorId codec artefact.descriptorBytes = .ok id ∧
      host.verifyNativeArtifact artefact.tempdir
        artefact.unpacked.artifactPath
        { expectedSha256 := none, trustedPublicKeys := [key]
          policy := .enforce, revocationList := list } = .ok result := by
  simp only [verifyArtefact] at h
  split at h
  · cases h
  · next descriptorId hid =>
      split at h
      · cases h
      · next heq =>
          split at h
          · next r hr =>
              cases h
              rw [not_not] at heq
              exact ⟨by rw [hid, heq], hr⟩
          · split at h <;> cases h

theorem sound_verifyStep {artefact : PullArtefact} {name : String}
    (hpulled : ∃ target options,
      resolvePullTarget libs ans obj obj.observedGeneration =
        .ok (target, options) ∧
      pullAndUnpack libs.package ans.pull target options = .ok artefact)
    (hbytes : libs.package.readFile artefact.tempdir
      artefact.unpacked.artifactPath = .ok artefact.artifactBytes) :
    (verifyStep libs ans obj name obj.observedGeneration artefact).Sound
      libs ans obj := by
  simp only [verifyStep]
  split
  · exact sound_report (verifyFailure_failing _ _ _)
  · next key hkey =>
      split
      · exact sound_of_no_write rfl
      · next list hlist =>
          split
          · exact sound_of_no_write rfl
          · split
            · exact sound_report (revokedReport_failing _ _ _ _)
            · exact sound_report (verifyFailure_failing _ _ _)
            · next result hver =>
                obtain ⟨hid, hhost⟩ := verifyArtefact_ok hver
                exact sound_attestStep fun hcosign hslsa =>
                  { pulled := hpulled
                    descriptor := hid
                    bytes := hbytes
                    signature := ⟨key, list, result, hkey, hlist, hhost, rfl⟩
                    cosign := hcosign
                    slsa := hslsa }

theorem unpackPulled_bytes {lib : PackageLib}
    {reference manifestDigest : String} {zip : Bytes}
    {artefact : PullArtefact}
    (h : unpackPulled lib reference manifestDigest zip = .ok artefact) :
    lib.readFile artefact.tempdir artefact.unpacked.artifactPath =
      .ok artefact.artifactBytes := by
  unfold unpackPulled at h
  obtain ⟨⟨unpacked, files⟩, _, h⟩ := Except.of_bind_ok h
  dsimp only at h
  split at h
  · cases h
  · obtain ⟨artifactBytes, hread, h⟩ := Except.of_bind_ok h
    obtain ⟨signatureBytes, _, h⟩ := Except.of_bind_ok h
    obtain ⟨descriptorBytes, _, h⟩ := Except.of_bind_ok h
    cases h
    exact Except.of_mapError_ok hread

/-- The bytes of a pulled artefact are those of the file it names. -/
theorem pullAndUnpack_bytes {lib : PackageLib} {pull : PullAnswers}
    {spec : OciImageRef} {options : PullOptions} {artefact : PullArtefact}
    (h : pullAndUnpack lib pull spec options = .ok artefact) :
    lib.readFile artefact.tempdir artefact.unpacked.artifactPath =
      .ok artefact.artifactBytes := by
  unfold pullAndUnpack at h
  obtain ⟨auth, _, h⟩ := Except.of_bind_ok h
  obtain ⟨_, _, h⟩ := Except.of_bind_ok h
  split at h
  · cases h
  · cases h
  · exact unpackPulled_bytes h

/-- An early return of `resolve_pull_target` is a mirror failure report, or
writes nothing. -/
theorem sound_resolvePullTarget {p : Pass}
    (h : resolvePullTarget libs ans obj obj.observedGeneration =
      .error p) :
    p.Sound libs ans obj := by
  simp only [resolvePullTarget] at h
  split at h
  · cases h
  · split at h
    · cases h
      exact sound_of_no_write rfl
    · cases h
      exact sound_report (mirrorFailure_failing _ _)
    · split at h
      · cases h
      · cases h
        exact sound_report (mirrorFailure_failing _ _)

theorem sound_pullStep (name : String) :
    (pullStep libs ans obj name obj.observedGeneration).Sound
      libs ans obj := by
  simp only [pullStep]
  split
  · next hp => exact sound_resolvePullTarget hp
  · next target options htarget =>
      split
      · exact sound_report (pullFailure_failing _ _)
      · next artefact hpull =>
          exact sound_verifyStep ⟨target, options, htarget, hpull⟩
            (pullAndUnpack_bytes hpull)

theorem sound_after_pulling {p : Pass} (hp : p.Sound libs ans obj) :
    (p.after [recordPulling libs ans obj obj.observedGeneration]).Sound
      libs ans obj := by
  intro pre status landed post h
  cases pre with
  | nil =>
      cases h
      exact .inl rfl
  | cons e pre =>
      simp only [Pass.after, List.cons_append, List.nil_append,
        List.cons.injEq] at h
      rcases hp pre status landed post h.2 with hpulling | hfailed | hvouched
      · exact .inl hpulling
      · exact .inr (.inl hfailed)
      · obtain ⟨artefact, result, cosign, slsa, s, hgates,
          ⟨secret, hmem, hrest⟩, hs⟩ := hvouched
        exact .inr (.inr ⟨artefact, result, cosign, slsa, s, hgates,
          ⟨secret, List.mem_cons_of_mem e hmem, hrest⟩, hs⟩)

theorem sound_reconcileInner :
    (reconcileInner libs ans obj).Sound libs ans obj := by
  simp only [reconcileInner]
  split
  · exact sound_of_no_write rfl
  · split
    · split <;> exact sound_of_no_write rfl
    · split
      · exact sound_of_no_write rfl
      · exact sound_after_pulling (sound_pullStep _)

theorem quiet_or_vouched {pre post : List Effect}
    {status : MCPGPluginStatus} {landed : Bool}
    (h : (reconcileInner libs ans obj).trace =
      pre ++ .patchStatus status landed :: post) :
    Quiet obj status ∨ Vouched libs ans obj pre status := by
  rcases sound_reconcileInner pre status landed post h with
    rfl | hfailed | hvouched
  · exact .inl (quiet_pullingStatus _)
  · exact .inl hfailed.quiet
  · exact .inr hvouched

/-- A status write with Ready=True, an artefact Secret and a digest has
every gate of its pass behind it, for that digest and for the artefact whose
files the Secret was given before the write. Where no artefact came through,
every status write is quiet. -/
theorem trust_gate_sound (libs : PluginLibs) (ans : PluginAnswers)
    (obj : MCPGPlugin) {pre post : List Effect} {status : MCPGPluginStatus}
    {landed : Bool}
    (h : (reconcileInner libs ans obj).trace =
      pre ++ .patchStatus status landed :: post) :
    (∀ s digest, readyTrue status.conditions = true →
      status.artefactSecretName = some s →
      status.resolvedDigest = some digest →
      ∃ artefact, TrustGates libs ans obj artefact digest ∧
        Materialised pre artefact s) ∧
    ((¬ ∃ artefact digest s, TrustGates libs ans obj artefact digest ∧
        Materialised pre artefact s) →
      Quiet obj status) := by
  rcases quiet_or_vouched h with hquiet | hvouched
  · refine ⟨fun s digest _ hs _ => ?_, fun _ => hquiet⟩
    rw [hquiet.noSecret] at hs
    cases hs
  · obtain ⟨artefact, result, cosign, slsa, s, hgates, hsecret, rfl⟩ :=
      hvouched
    refine ⟨fun s' digest' _ hs' hd' => ?_, fun hnone => ?_⟩
    · cases hs'
      cases hd'
      exact ⟨artefact, hgates, hsecret⟩
    · exact absurd ⟨artefact, _, s, hgates, hsecret⟩ hnone

/-! ## The way through -/

/-- Every gate of the pass lets it through: it pulls `artefact`, the host
verifies it with `result`, and the attestations give `cosign` and
`slsa`. -/
structure GoesThrough (libs : PluginLibs) (ans : PluginAnswers)
    (obj : MCPGPlugin) (name : String) (artefact : PullArtefact)
    (result : NativeVerifyResult) (cosign slsa : Option Bool) : Prop where
  named : obj.metadata.name = some name
  live : obj.metadata.deletionTimestamp = none
  finalizer : ∃ patched,
    ensureFinalizer ans.addFinalizer obj.metadata = .ok patched
  pulled : ∃ target options,
    resolvePullTarget libs ans obj obj.observedGeneration =
      .ok (target, options) ∧
    pullAndUnpack libs.package ans.pull target options = .ok artefact
  verified : ∃ key list,
    loadSigningKey libs.codec ans.getSecret obj.spec.trust.signingKeyRef =
      .ok key ∧
    loadRevocationList libs ans = .ok list ∧
    ans.join = .ok () ∧
    verifyArtefact libs.codec libs.host artefact key list
      obj.spec.pluginId = .ok result
  cosigned : cosignGate ans obj artefact.manifestDigest = .ok cosign
  attested : slsaGate libs ans obj result.artifactHash = .ok slsa

theorem readyTrue_successConditions (api : ConditionsApi)
    (generation : Int) :
    readyTrue (successConditions api generation) = true :=
  readyTrue_set_ready api _ rfl

theorem reconcileInner_of_goesThrough {name : String}
    {artefact : PullArtefact} {result : NativeVerifyResult}
    {cosign slsa : Option Bool}
    (h : GoesThrough libs ans obj name artefact result cosign slsa) :
    reconcileInner libs ans obj =
      (materialise libs ans obj name obj.observedGeneration
        { artefact with artifactSha256 := some result.artifactHash } result
        cosign slsa).after
        [recordPulling libs ans obj obj.observedGeneration] := by
  obtain ⟨patched, hfin⟩ := h.finalizer
  obtain ⟨target, options, htarget, hpull⟩ := h.pulled
  obtain ⟨key, list, hkey, hlist, hjoin, hver⟩ := h.verified
  simp only [reconcileInner, h.named, h.live, Option.isSome_none,
    Bool.false_eq_true, if_false, hfin, pullStep, htarget, hpull,
    verifyStep, hkey, hlist, hjoin, hver, attestStep, h.cosigned,
    h.attested]

/-- The Secret is applied as the pass builds it. -/
def secretApplies (libs : PluginLibs) (ans : PluginAnswers)
    (obj : MCPGPlugin) (name : String) (artefact : PullArtefact)
    (hash : String) : Prop :=
  ans.applySecret
    (buildArtefactSecret obj operatorNamespace
      (artefactSecretName libs name hash)
      { artefact with artifactSha256 := some hash }) = .ok ()

/-- With the Secret applied it writes Ready=True, the Secret and the
digest. -/
theorem success_mem {name : String} {artefact : PullArtefact}
    {result : NativeVerifyResult} {cosign slsa : Option Bool}
    (h : GoesThrough libs ans obj name artefact result cosign slsa)
    (happly : secretApplies libs ans obj name artefact
      result.artifactHash) :
    ∃ status,
      .patchStatus status ans.outcomeLands ∈
        (reconcileInner libs ans obj).trace ∧
      readyTrue status.conditions = true ∧
      status.resolvedDigest = some result.artifactHash ∧
      status.artefactSecretName =
        some (artefactSecretName libs name result.artifactHash) := by
  refine ⟨successStatus libs ans obj.observedGeneration result cosign slsa
    (artefactSecretName libs name result.artifactHash), ?_,
    readyTrue_successConditions libs.api obj.observedGeneration, rfl, rfl⟩
  rw [secretApplies] at happly
  rw [reconcileInner_of_goesThrough h, materialise, happly]
  exact List.mem_cons_of_mem _ (List.mem_cons_of_mem _ List.mem_cons_self)

end Soundness

/-! ## A pass through every gate

A plugin whose file is the three bytes `abc`, with a raw signing key, a
cosign identity and provenance, and a registry and apiserver that answer. -/

namespace Sample

def ascii (s : String) : Bytes := s.toList.map fun c => UInt8.ofNat c.toNat

/-- SHA-256 of `abc`. -/
def digest : String :=
  "ba7816bf8f01cfea414140de5dae2223b00361a396177a9cb410ff61f20015ad"

def key : Bytes := List.replicate 32 7

/-- SHA-256 where the sample needs it. -/
def sha256 (bytes : Bytes) : String :=
  if bytes = ascii "abc" then digest else ""

/-- Decoders that read ASCII and one-line YAML mappings. -/
def codec : CodecLib where
  fromUtf8 bytes := .ok (String.ofList (bytes.map fun b => Char.ofNat b.toNat))
  base64Standard _ := none
  base64UrlSafeNoPad _ := none
  hexDecode _ := none
  YamlValue := Sum (String × String) String
  yamlFromStr text :=
    match Text.splitOnce ':' text.toList with
    | some (k, v) =>
        .ok (.inl (String.ofList k, Text.trim (String.ofList v)))
    | none => .ok (.inr text)
  yamlGet value k :=
    match value with
    | .inl (k', v) => if k = k' then some (.inr v) else none
    | .inr _ => none
  yamlAsStr
    | .inl _ => none
    | .inr v => some v

/-- A digest as the host's list parser wants it. -/
def isSha256Hex (s : String) : Bool :=
  s.toList.length == 64 && s.toList.all Text.isAsciiHexdigit

/-- The host: a list is the digests it revokes, the key above is the one
that signed. -/
def host : HostLib where
  RevocationList := List String
  fromFile file :=
    if file.revocations.all fun e => isSha256Hex e.artifactSha256 then
      .ok (file.revocations.map fun e =>
        Text.toAsciiLowercase e.artifactSha256)
    else .error "artifact_sha256 must be 64 hex digits"
  verifyNativeArtifact files path options :=
    let hash := sha256 ((files.lookup path).getD [])
    if (options.revocationList.getD []).contains hash then
      .error ("artefact sha256: " ++ hash ++ " is revoked: incident")
    else if options.trustedPublicKeys.contains key then
      .ok { artifactHash := hash, signatureVerified := true }
    else .error "signature mismatch"
  toRfc3339 _ := "2024-01-01T00:00:00+00:00"

def package : PackageLib where
  unpackTo zip :=
    .ok
      ({ artifactKind := .native, artifactPath := "plugin.so"
         signaturePath := some "plugin.sig"
         descriptorPath := "plugin.yaml" },
        [("plugin.so", zip), ("plugin.sig", [1, 2, 3]),
          ("plugin.yaml", ascii "id: workload")])
  readFile files path :=
    match files.lookup path with
    | some bytes => .ok bytes
    | none => .error "no such file"

def sigstore : SigstoreLib where
  Regex := String
  regexNew := .ok
  isMatch re subject := (Text.fromFirst re.toList subject.toList).isSome
  parseReference _ := .ok ()
  trustRoot := .ok ()
  clientBuild := .ok ()
  triangulate reference _ :=
    .ok ("ghcr.io/mcpg-dev/workload:signature",
      (digestOf reference).getD "")
  trustedSignatureLayers _ _ :=
    .ok [{ certificate := some ("release", some "issuer") }]
  verifyConstraints layers verifier := layers.any verifier

def libs : PluginLibs where
  api := upsertConditions
  package := package
  codec := codec
  host := host
  rewrite _ _ := .notApplicable
  verifySlsaProvenance _ sha _ :=
    if sha = digest then .ok () else .error "no subject matches"
  sha256Hex s := sha256 (ascii s)

def answers : PluginAnswers where
  addFinalizer := .ok ()
  removeFinalizer := .ok ()
  getMirror _ := .ok none
  pull :=
    { resolvePullAuth := fun _ _ => .ok .anonymous
      tempdir := .ok ()
      pull := fun _ => .pulled "sha256:0123" (ascii "abc") }
  getSecret _ :=
    .ok { name := some "keys", namespace_ := some operatorNamespace
          data := some [("pub", key)] }
  getRevocationList := .ok none
  join := .ok ()
  sigstore := sigstore
  getConfigMap _ :=
    .ok { name := some "provenance", namespace_ := some operatorNamespace
          data := some [("provenance.intoto.jsonl", "statement")] }
  applySecret _ := .ok ()
  pullingLands := true
  outcomeLands := true
  now := 0

def plugin : MCPGPlugin where
  metadata :=
    { name := some "workload", generation := some 3
      finalizers := some [operatorFinalizer] }
  spec :=
    { pluginId := "workload", version := "1.0.0"
      pluginClass := "identity_provider"
      oci :=
        { image := "ghcr.io/mcpg-dev/workload:1.0.0"
          pullSecretRef := none, mirrorRef := none }
      trust :=
        { signingKeyRef := { secretName := "keys", key := "pub" }
          cosignIdentity := some
            { certificateIdentityRegexp := "release"
              oidcIssuer := "issuer" }
          slsaProvenance := some
            { configMapName := "provenance"
              sourceUri := "git+https://example.com/workload"
              sourceTag := "refs/tags/v1.0.0" } } }
  status := none

def artefact : PullArtefact where
  manifestDigest := "sha256:0123"
  artifactSha256 := none
  artifactBytes := ascii "abc"
  signatureBytes := some [1, 2, 3]
  descriptorBytes := ascii "id: workload"
  tempdir :=
    [("plugin.so", ascii "abc"), ("plugin.sig", [1, 2, 3]),
      ("plugin.yaml", ascii "id: workload")]
  unpacked :=
    { artifactKind := .native, artifactPath := "plugin.so"
      signaturePath := some "plugin.sig", descriptorPath := "plugin.yaml" }

def secretName : String := "mcpg-plugin-workload-ba7816bf"

/-- The writes before the success status. -/
def before : List Effect :=
  [recordPulling libs answers plugin 3,
    .applySecret
      (buildArtefactSecret plugin operatorNamespace secretName
        { artefact with artifactSha256 := some digest })
      (.ok ())]

def success : MCPGPluginStatus :=
  successStatus libs answers 3
    { artifactHash := digest, signatureVerified := true } (some true)
    (some true) secretName

theorem trace_eq : ∃ post,
    (reconcileInner libs answers plugin).trace =
      before ++ .patchStatus success true :: post :=
  ⟨(reconcileInner libs answers plugin).trace.drop 3, by decide +kernel⟩

/-- The sample's success status meets every hypothesis. -/
theorem trust_gate_sample :
    readyTrue success.conditions = true ∧
      ∃ pulled, TrustGates libs answers plugin pulled digest ∧
        Materialised before pulled secretName := by
  obtain ⟨post, htrace⟩ := trace_eq
  have hready : readyTrue success.conditions = true := by decide
  exact ⟨hready, (trust_gate_sound libs answers plugin htrace).1 secretName
    digest hready rfl rfl⟩

end Sample

end McpgOperator.Plugin
