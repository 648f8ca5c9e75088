import McpgOperator.Admission.RevocationList
import McpgOperator.Proofs.TrustGate

/-!
# Revocation and the list the host refuses

The stored list passes through three readers: the webhook, the operator's
translation and the host's parser. When the host accepts the translation,
its verifier sees every entry, and a pass that ends ready has a digest none
of them denotes. When the host refuses it, the pass goes on without any
list: whatever the verifier would accept with no list at all, it then
accepts, listed or not. So for a listed digest the list blocks readiness
exactly when the host accepts the list or nothing verifies to that digest in
the first place.
-/

namespace McpgOperator.Plugin

open McpgOperator.Kube McpgOperator.Admission

/-- What the plugin-host crate promises about its lists: the parsed list
revokes the digest of every entry, and verification under a list never
succeeds for a digest it revokes. -/
structure HostRevokes (host : HostLib) where
  revokes : host.RevocationList → String → Bool
  fromFile_revokes : ∀ {file list}, host.fromFile file = .ok list →
    ∀ e ∈ file.revocations,
      revokes list (Text.toAsciiLowercase (Text.trim e.artifactSha256)) = true
  verify_checks : ∀ {files path options list result},
    options.revocationList = some list →
    host.verifyNativeArtifact files path options = .ok result →
    revokes list result.artifactHash = false

/-- The stored list has an entry for `digest`. -/
def listed (list : MCPGRevocationListSpec) (digest : String) : Prop :=
  ∃ e ∈ list.revocations, denotedDigest e = digest

/-- The pass reads a list only as it is stored; the read itself may fail. -/
def readsStored (list : MCPGRevocationListSpec) (ans : PluginAnswers) :
    Prop :=
  ∀ r, ans.getRevocationList = .ok r → r = some list

/-- No pass that starts with `list` stored writes Ready=True with
`digest`. -/
def blocks (host : HostLib) (list : MCPGRevocationListSpec)
    (digest : String) : Prop :=
  ∀ (libs : PluginLibs) (ans : PluginAnswers) (obj : MCPGPlugin) status
    landed, libs.host = host → readsStored list ans →
    .patchStatus status landed ∈ (reconcileInner libs ans obj).trace →
    readyTrue status.conditions = true →
    status.resolvedDigest ≠ some digest

/-- The host turns the translated list into one of its own. -/
def hostAccepts (host : HostLib) (list : MCPGRevocationListSpec) : Prop :=
  ∃ parsed, host.fromFile (revocationListFile host list) = .ok parsed

/-- Without any list, the host verifies some file to `digest` under some
Ed25519 key. -/
def verifiable (host : HostLib) (digest : String) : Prop :=
  ∃ files path key result, key.length = 32 ∧
    host.verifyNativeArtifact files path
      { expectedSha256 := none, trustedPublicKeys := [key]
        policy := .enforce, revocationList := none } = .ok result ∧
    result.artifactHash = digest

/-! ## A list the host accepts -/

theorem denoted_mem_file (host : HostLib) {list : MCPGRevocationListSpec}
    {digest : String} (h : listed list digest) :
    ∃ e ∈ (revocationListFile host list).revocations,
      Text.toAsciiLowercase (Text.trim e.artifactSha256) = digest := by
  obtain ⟨e, hmem, hdigest⟩ := h
  exact ⟨_, List.mem_map_of_mem hmem, hdigest⟩

/-- Ready=True with a digest, in a status write, means the gates let that
digest through. -/
theorem gates_of_ready {libs : PluginLibs} {ans : PluginAnswers}
    {obj : MCPGPlugin} {status : MCPGPluginStatus} {landed : Bool}
    {digest : String}
    (hmem : .patchStatus status landed ∈ (reconcileInner libs ans obj).trace)
    (hready : readyTrue status.conditions = true)
    (hdigest : status.resolvedDigest = some digest) :
    ∃ artefact, TrustGates libs ans obj artefact digest := by
  obtain ⟨pre, post, htrace⟩ := List.append_of_mem hmem
  rcases quiet_or_vouched htrace with hquiet | hvouched
  · rw [hquiet.noDigest hready] at hdigest
    cases hdigest
  · obtain ⟨artefact, result, cosign, slsa, s, hgates, _, rfl⟩ := hvouched
    cases hdigest
    exact ⟨artefact, hgates⟩

/-- Every decoder's result is kept only at the length of a key. -/
theorem decodeSigningKey_length {codec : CodecLib} {bytes key : Bytes}
    (h : decodeSigningKey codec bytes = some key) : key.length = 32 := by
  simp only [decodeSigningKey] at h
  split at h
  · next hlen =>
      cases h
      exact hlen
  · split at h
    · next decoded hd =>
        cases h
        exact of_decide_eq_true (Option.filter_eq_some_iff.mp hd).2
    · split at h
      · next decoded hd =>
          cases h
          exact of_decide_eq_true (Option.filter_eq_some_iff.mp hd).2
      · split at h
        · cases h
        · split at h
          · exact of_decide_eq_true (Option.filter_eq_some_iff.mp h).2
          · cases h

theorem loadSigningKey_length {codec : CodecLib}
    {getSecret : String → Except KubeError Secret} {keyRef : SigningKeyRef}
    {key : Bytes} (h : loadSigningKey codec getSecret keyRef = .ok key) :
    key.length = 32 := by
  simp only [loadSigningKey] at h
  split at h
  · cases h
  · split at h
    · cases h
    · split at h
      · next k hk =>
          cases h
          exact decodeSigningKey_length hk
      · cases h

/-- When the list's read answers, the pass holds the parsed list. -/
theorem loadRevocationList_accepted {libs : PluginLibs}
    {ans : PluginAnswers} {list : MCPGRevocationListSpec}
    {parsed : libs.host.RevocationList}
    {loaded : Option libs.host.RevocationList}
    (hstored : readsStored list ans)
    (hparsed : libs.host.fromFile (revocationListFile libs.host list) =
      .ok parsed)
    (h : loadRevocationList libs ans = .ok loaded) : loaded = some parsed := by
  simp only [loadRevocationList] at h
  split at h
  · cases h
  · next hnone => cases hstored none hnone
  · next spec hspec =>
      cases hstored (some spec) hspec
      simp only [revocationListFromApi, hparsed, Except.mapError] at h
      cases h
      rfl

theorem blocks_of_accepted {host : HostLib} (laws : HostRevokes host)
    {list : MCPGRevocationListSpec} {digest : String}
    (hlisted : listed list digest) (haccepts : hostAccepts host list) :
    blocks host list digest := by
  intro libs ans obj status landed hhost hstored hmem hready hdigest
  subst hhost
  obtain ⟨parsed, hparsed⟩ := haccepts
  obtain ⟨artefact, hgates⟩ := gates_of_ready hmem hready hdigest
  obtain ⟨key, loaded, result, _, hload, hver, hhash⟩ := hgates.signature
  have hloaded := loadRevocationList_accepted hstored hparsed hload
  obtain ⟨e, he, hdenoted⟩ := denoted_mem_file libs.host hlisted
  have hrevoked := laws.fromFile_revokes hparsed e he
  have hpassed := laws.verify_checks hloaded hver
  rw [hdenoted, ← hhash, hpassed] at hrevoked
  cases hrevoked

/-! ## A list the host refuses -/

theorem loadRevocationList_refused {libs : PluginLibs} {ans : PluginAnswers}
    {list : MCPGRevocationListSpec}
    (hans : ans.getRevocationList = .ok (some list))
    (hrefused : ¬ hostAccepts libs.host list) :
    loadRevocationList libs ans = .ok none := by
  simp only [loadRevocationList, hans, revocationListFromApi]
  cases hfile : libs.host.fromFile (revocationListFile libs.host list) with
  | error e => rfl
  | ok parsed => exact absurd ⟨parsed, hfile⟩ hrefused

namespace Sample

/-- The sample crates around another host, with a package whose files are
`files` and whose descriptor is the sample's. -/
def libsOver (h : HostLib) (files : FileTree) (path : String) : PluginLibs :=
  { libs with
    host := h
    package :=
      { unpackTo := fun _ =>
          .ok
            ({ artifactKind := .native, artifactPath := path
               signaturePath := none, descriptorPath := path }, files)
        readFile := fun _ _ => .ok (ascii "id: workload") } }

/-- The sample answers, with another key and the list as stored. -/
def answersOver (k : Bytes) (list : MCPGRevocationListSpec) :
    PluginAnswers :=
  { answers with
    getSecret := fun _ =>
      .ok { name := some "keys", namespace_ := some operatorNamespace
            data := some [("pub", k)] }
    getRevocationList := .ok (some list) }

/-- The sample plugin without attestations. -/
def bare : MCPGPlugin :=
  { plugin with
    spec :=
      { plugin.spec with
        trust :=
          { plugin.spec.trust with
            cosignIdentity := none, slsaProvenance := none } } }

def pulledOver (files : FileTree) (path : String) : PullArtefact :=
  { manifestDigest := "sha256:0123", artifactSha256 := none
    artifactBytes := ascii "id: workload", signatureBytes := none
    descriptorBytes := ascii "id: workload", tempdir := files
    unpacked :=
      { artifactKind := .native, artifactPath := path
        signaturePath := none, descriptorPath := path } }

theorem goesThrough_refused {h : HostLib} {list : MCPGRevocationListSpec}
    (hrefused : ¬ hostAccepts h list) {files : FileTree} {path : String}
    {k : Bytes} {result : NativeVerifyResult} (hk : k.length = 32)
    (hver : h.verifyNativeArtifact files path
      { expectedSha256 := none, trustedPublicKeys := [k]
        policy := .enforce, revocationList := none } = .ok result) :
    GoesThrough (libsOver h files path) (answersOver k list) bare "workload"
      (pulledOver files path) result none none where
  named := rfl
  live := rfl
  finalizer := ⟨false, rfl⟩
  pulled := ⟨bare.spec.oci, .default, rfl, rfl⟩
  verified := by
    refine ⟨k, none, ?_, loadRevocationList_refused rfl hrefused, rfl, ?_⟩
    · simp [loadSigningKey, answersOver, bare, plugin, decodeSigningKey, hk]
    · have hid : parseDescriptorId codec (ascii "id: workload") =
          .ok "workload" := by decide
      simp [verifyArtefact, libsOver, libs, pulledOver, hid, bare, plugin,
        hver]
  cosigned := rfl
  attested := rfl

end Sample

theorem not_blocks_of_refused {host : HostLib}
    {list : MCPGRevocationListSpec} {digest : String}
    (hrefused : ¬ hostAccepts host list) (hver : verifiable host digest) :
    ¬ blocks host list digest := by
  intro hblocks
  obtain ⟨files, path, key, result, hkey, hok, hhash⟩ := hver
  have hgo := Sample.goesThrough_refused hrefused hkey hok
  obtain ⟨status, hmem, hready, hdigest, _⟩ := success_mem hgo rfl
  have hstored : readsStored list (Sample.answersOver key list) := by
    intro r hr
    cases hr
    rfl
  exact hblocks (Sample.libsOver host files path) _ Sample.bare status _ rfl
    hstored hmem hready (hdigest.trans (congrArg some hhash))

/-- Nor can a refused list hurt a digest nothing verifies to. -/
theorem blocks_of_unverifiable {host : HostLib}
    {list : MCPGRevocationListSpec} {digest : String}
    (hrefused : ¬ hostAccepts host list)
    (hunverifiable : ¬ verifiable host digest) : blocks host list digest := by
  intro libs ans obj status landed hhost hstored hmem hready hdigest
  subst hhost
  obtain ⟨artefact, hgates⟩ := gates_of_ready hmem hready hdigest
  obtain ⟨key, loaded, result, hkey, hload, hver, hhash⟩ := hgates.signature
  have hans : ans.getRevocationList = .ok (some list) := by
    cases hget : ans.getRevocationList with
    | error e => simp [loadRevocationList, hget] at hload
    | ok r => rw [hstored r hget]
  rw [loadRevocationList_refused hans hrefused] at hload
  cases hload
  exact hunverifiable ⟨artefact.tempdir, artefact.unpacked.artifactPath, key,
    result, loadSigningKey_length hkey, hver, hhash⟩

/-- For every stored content and every digest it lists: no pass makes that
digest ready if and only if the host accepts the content, or verifies
nothing to that digest. -/
theorem revocation_blocks_iff (host : HostLib) (laws : HostRevokes host)
    (list : MCPGRevocationListSpec) (digest : String)
    (hlisted : listed list digest) :
    blocks host list digest ↔
      hostAccepts host list ∨ ¬ verifiable host digest := by
  constructor
  · intro hblocks
    by_cases haccepts : hostAccepts host list
    · exact .inl haccepts
    · exact .inr fun hver => not_blocks_of_refused haccepts hver hblocks
  · intro hcond
    by_cases haccepts : hostAccepts host list
    · exact blocks_of_accepted laws hlisted haccepts
    · exact blocks_of_unverifiable haccepts
        (hcond.resolve_left haccepts)

/-! ## One entry turns the list off

The list names the sample's digest. Its other entry is padded with blanks:
the webhook reads it trimmed and admits the list, the host's parser wants
sixty-four hex digits and refuses it. -/

namespace Sample

def padded : MCPGRevocationListSpec where
  version := 1
  issuedAt := none
  revocations :=
    [{ artifactSha256 := digest, reason := "incident", revokedAt := none },
      { artifactSha256 :=
          " 00000000000000000000000000000000" ++
            "00000000000000000000000000000000 "
        reason := "older incident", revokedAt := none }]

/-- The sample host keeps the promises. -/
def hostRevokes : HostRevokes host where
  revokes list hash := list.contains hash
  fromFile_revokes := by
    intro file list h e he
    simp only [host] at h
    split at h
    · next hall =>
        cases h
        have hhex : isSha256Hex e.artifactSha256 = true :=
          List.all_eq_true.mp hall e he
        have htrim : Text.trim e.artifactSha256 = e.artifactSha256 :=
          Text.trim_eq_self_of_hexdigits (Bool.and_eq_true_iff.mp hhex).2
        rw [htrim]
        exact List.contains_iff_mem.mpr (List.mem_map_of_mem he)
    · cases h
  verify_checks := by
    intro files path options list result hlist h
    simp only [host, hlist] at h
    split at h
    · cases h
    · next hnot =>
        split at h
        · cases h
          exact Bool.eq_false_iff.mpr hnot
        · cases h

theorem padded_admitted : validateRevocationList padded = .ok () := by
  decide +kernel

theorem padded_listed : listed padded digest := by
  refine ⟨_, List.mem_cons_self, ?_⟩
  decide +kernel

theorem padded_refused : ¬ hostAccepts host padded := by
  rintro ⟨parsed, hparsed⟩
  have hfile :
      (host.fromFile (revocationListFile host padded)).isOk = false := by
    decide +kernel
  rw [hparsed] at hfile
  cases hfile

theorem digest_verifiable : verifiable host digest :=
  ⟨[("plugin.so", ascii "abc")], "plugin.so", key,
    { artifactHash := digest, signatureVerified := true }, rfl,
    by decide +kernel, rfl⟩

end Sample

/-- An admitted list with an entry for the digest does not block it. -/
theorem not_blocks_padded :
    validateRevocationList Sample.padded = .ok () ∧
      listed Sample.padded Sample.digest ∧
      ¬ blocks Sample.host Sample.padded Sample.digest :=
  ⟨Sample.padded_admitted, Sample.padded_listed,
    not_blocks_of_refused Sample.padded_refused Sample.digest_verifiable⟩

/-- Without its padded entry the same list blocks the digest. -/
theorem blocks_single :
    blocks Sample.host
      { Sample.padded with
        revocations := Sample.padded.revocations.take 1 }
      Sample.digest := by
  refine (revocation_blocks_iff Sample.host Sample.hostRevokes _ _ ?_).mpr
    (.inl ⟨_, rfl⟩)
  exact ⟨_, List.mem_cons_self, by decide +kernel⟩

end McpgOperator.Plugin
