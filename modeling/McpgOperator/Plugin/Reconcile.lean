import McpgOperator.Kube.Finalizer
import McpgOperator.Plugin.Verify
import McpgOperator.Plugin.Cosign

/-!
# One pass of the plugin controller

`controllers/plugin.rs`. A pass is a function of the object it was started
with and of what every call it makes answers. It returns the writes it
issues, in order, and how it ends. The calls are read through
`PluginAnswers`; the crates behind the trust gate are in `PluginLibs`.

Status patches are fire-and-forget: the controller logs a failed one and
goes on. Whether a patch took effect (at the first try or at the retry after
a 409) is part of the answers and recorded with the patch.
-/

namespace McpgOperator.Plugin

open McpgOperator.Kube McpgOperator.Text

/-! ## The surroundings of a pass -/

/-- The crates a pass calls. `verifySlsaProvenance` takes the attestation
lines, the artefact hash and the policy. -/
structure PluginLibs where
  api : ConditionsApi
  package : PackageLib
  codec : CodecLib
  host : HostLib
  rewrite : MCPGPluginMirrorSpec → String → MirrorRewrite
  verifySlsaProvenance : String → String → SlsaProvenance →
    Except String Unit
  sha256Hex : String → String

inductive ReconcileError
  | kube (e : KubeError)
  | apply (e : KubeError)
  | finalizer (e : FinalizerError)
  | missingName
  | join (e : String)
  deriving DecidableEq, Repr

structure PluginAnswers where
  addFinalizer : Except KubeError Unit
  removeFinalizer : Except FinalizerError Unit
  getMirror : String → Except KubeError (Option MCPGPluginMirrorSpec)
  pull : PullAnswers
  /-- `api.get` of a Secret in the operator namespace. -/
  getSecret : String → Except KubeError Secret
  /-- `api.get_opt` of the cluster-default revocation list. -/
  getRevocationList : Except KubeError (Option MCPGRevocationListSpec)
  /-- Whether the blocking task joined. -/
  join : Except String Unit
  sigstore : SigstoreLib
  getConfigMap : String → Except KubeError ConfigMap
  applySecret : Secret → Except KubeError Unit
  /-- Whether the early Progressing patch takes effect. -/
  pullingLands : Bool
  /-- Whether the patch that reports the outcome takes effect. -/
  outcomeLands : Bool
  now : DateTime

/-- A write a pass issues. -/
inductive Effect
  | patchStatus (status : MCPGPluginStatus) (landed : Bool)
  | applySecret (secret : Secret) (answer : Except KubeError Unit)
  | publish (evt : K8sEvent)
  | recordSuccess (key : String)
  deriving DecidableEq

structure Pass where
  trace : List Effect
  result : Except ReconcileError (Requeue × ReconcileOutcome)
  deriving DecidableEq

/-- A pass that issued `effects` before it went on as `p`. -/
def Pass.after (effects : List Effect) (p : Pass) : Pass :=
  { p with trace := effects ++ p.trace }

def Pass.fail (e : ReconcileError) : Pass := { trace := [], result := .error e }

/-- `DEFAULT_OPERATOR_NAMESPACE`, which `operator_namespace` returns. -/
def operatorNamespace : String := "mcpg-system"

/-! ## Status writers -/

/-- `record_pulling`: the carried conditions with Progressing set, and no
other status field. -/
def pullingStatus (libs : PluginLibs) (ans : PluginAnswers)
    (obj : MCPGPlugin) (generation : Int) : MCPGPluginStatus :=
  { conditions := libs.api.setCondition obj.carriedConditions
      { type := CType.progressing
        status := "True"
        reason := "PullingArtefact"
        message := "pulling " ++ obj.spec.oci.image
        observedGeneration := some generation }
    observedGeneration := some generation
    lastReconcileTime := some ans.now }

def recordPulling (libs : PluginLibs) (ans : PluginAnswers)
    (obj : MCPGPlugin) (generation : Int) : Effect :=
  .patchStatus (pullingStatus libs ans obj generation) ans.pullingLands

/-- What distinguishes the failure writers: the conditions they set, the
status fields they fill, their event, and how the pass ends. -/
structure Report where
  conditions : List Condition
  status : MCPGPluginStatus
  event : K8sEvent
  requeueSecs : Nat
  outcome : ReconcileOutcome

/-- The shape all of them share. -/
def Report.write (r : Report) (libs : PluginLibs) (ans : PluginAnswers)
    (obj : MCPGPlugin) (generation : Int) : Pass :=
  let status :=
    { r.status with
      conditions := libs.api.setAll obj.carriedConditions r.conditions
      observedGeneration := some generation
      lastReconcileTime := some ans.now }
  { trace := [.patchStatus status ans.outcomeLands, .publish r.event]
    result := .ok (.after r.requeueSecs, r.outcome) }

/-- `record_mirror_failure`. -/
def mirrorFailure (generation : Int) (detail : String) : Report :=
  { conditions := ["Pulled", CType.ready].map fun ty =>
      { type := ty, status := "False", reason := "MirrorUnresolved"
        message := detail, observedGeneration := some generation }
    status := {}
    event :=
      { type_ := "Warning", reason := "MirrorUnresolved"
        note := some detail, action := "Pull" }
    requeueSecs := 60
    outcome := .dependencyPending }

/-- `record_pull_failure`. -/
def pullFailure (obj : MCPGPlugin) (generation : Int) (err : PullError) :
    Report :=
  { conditions := ["Pulled", CType.ready].map fun ty =>
      { type := ty, status := "False", reason := "PullFailed"
        message := err.display, observedGeneration := some generation }
    status := {}
    event :=
      { type_ := "Warning", reason := "PullFailed"
        note := some ("OCI pull for " ++ obj.spec.oci.image ++
          " failed: " ++ err.display)
        action := "Pull" }
    requeueSecs := 60
    outcome := .transientError }

/-- A condition with reason `Reconciled` and no message. -/
def reconciledCondition (ty status : String) (generation : Int) :
    Condition :=
  { type := ty, status := status, reason := Reasons.reconciled
    message := "", observedGeneration := some generation }

/-- `record_verify_failure`. -/
def verifyFailure (obj : MCPGPlugin) (generation : Int)
    (manifestDigest : String) (err : VerifyError) : Report :=
  { conditions :=
      [reconciledCondition "Pulled" "True" generation,
        { type := "Verified", status := "False", reason := "SignatureFailed"
          message := err.display, observedGeneration := some generation },
        { type := CType.ready, status := "False"
          reason := "VerificationFailed"
          message := err.display, observedGeneration := some generation }]
    status :=
      { signatureValid := some false, resolvedDigest := some manifestDigest }
    event :=
      { type_ := "Warning", reason := "TrustGateFailed"
        note := some ("verification failed for " ++ obj.spec.oci.image ++
          ": " ++ err.display)
        action := "Verify" }
    requeueSecs := 600
    outcome := .permanentError }

/-- `record_revoked`. -/
def revokedReport (generation : Int) (manifestDigest sha reason : String) :
    Report :=
  let msg := "plugin sha256:" ++ sha ++ " is revoked: " ++ reason
  { conditions :=
      [reconciledCondition "Pulled" "True" generation,
        reconciledCondition "Verified" "True" generation,
        { type := "Revoked", status := "True", reason := "ArtefactRevoked"
          message := msg, observedGeneration := some generation },
        { type := CType.ready, status := "False"
          reason := "ArtefactRevoked"
          message := msg, observedGeneration := some generation }]
    status :=
      { resolvedDigest := some (if sha.isEmpty then manifestDigest else sha)
        signatureValid := some true
        revokedBySha := some true }
    event :=
      { type_ := "Warning", reason := "ArtefactRevoked"
        note := some ("plugin sha256:" ++ takeChars 12 sha ++
          " is on the cluster revocation list (" ++ reason ++ ")")
        action := "Revoke" }
    requeueSecs := 600
    outcome := .success }

/-- `success_conditions`, which starts from no condition at all. -/
def successConditions (api : ConditionsApi) (generation : Int) :
    List Condition :=
  api.setAll []
    [reconciledCondition "Pulled" "True" generation,
      reconciledCondition "Verified" "True" generation,
      reconciledCondition "Revoked" "False" generation,
      reconciledCondition CType.ready "True" generation]

/-! ## Where to pull from -/

/-- `resolve_pull_target`; an early return of the caller is the error
case. -/
def resolvePullTarget (libs : PluginLibs) (ans : PluginAnswers)
    (obj : MCPGPlugin) (generation : Int) :
    Except Pass (OciImageRef × PullOptions) :=
  let upstream := obj.spec.oci
  match upstream.mirrorRef with
  | none => .ok (upstream, .default)
  | some mirrorRef =>
      match ans.getMirror mirrorRef with
      | .error _ =>
          .error
            { trace := [], result := .ok (.after 30, .transientError) }
      | .ok none =>
          .error ((mirrorFailure generation
            ("oci.mirrorRef points at MCPGPluginMirror/" ++ mirrorRef ++
              " which does not exist; refusing to fall back to the public " ++
              "registry")).write libs ans obj generation)
      | .ok (some mirror) =>
          match libs.rewrite mirror upstream.image with
          | .rewritten image =>
              .ok
                ({ image := image
                   pullSecretRef := mirror.authSecretName
                   mirrorRef := none },
                 { PullOptions.default with
                   insecureRegistries :=
                     if mirror.endpointInsecure then [mirror.serviceHost]
                     else [] })
          | .notApplicable =>
              .error ((mirrorFailure generation
                ("MCPGPluginMirror/" ++ mirrorRef ++ " mirrors '" ++
                  mirror.upstreamRegistry ++ "/" ++
                  mirror.upstreamNamespace ++ "' but the plugin image '" ++
                  upstream.image ++ "' is under a different " ++
                  "registry/namespace; the mirror cannot serve it")).write
                libs ans obj generation)

/-! ## Materialisation -/

def truncateKubeName (libs : PluginLibs) (name : String) (max : Nat) :
    String :=
  if name.utf8ByteSize ≤ max then name
  else
    takeChars (max - 9) name ++ "-" ++ takeChars 8 (libs.sha256Hex name)

def artefactSecretName (libs : PluginLibs)
    (pluginName artifactSha256 : String) : String :=
  let shaPrefix := takeChars 8 artifactSha256
  let shaPrefix := if shaPrefix.isEmpty then "unknown" else shaPrefix
  "mcpg-plugin-" ++ truncateKubeName libs pluginName 50 ++ "-" ++ shaPrefix

/-- The data of the artefact Secret, in key order. -/
def artefactData (artefact : PullArtefact) : List (String × Bytes) :=
  (match artefact.signatureBytes with
    | some sig => [("plugin.sig", sig)]
    | none => []) ++
  [("plugin.so", artefact.artifactBytes),
    ("plugin.yaml", artefact.descriptorBytes)]

/-- `build_artefact_secret`; labels in key order. -/
def buildArtefactSecret (parent : MCPGPlugin) (ns secretName : String)
    (artefact : PullArtefact) : Secret :=
  { name := some secretName
    namespace_ := some ns
    labels :=
      [("app.kubernetes.io/managed-by", "mcpg-operator")] ++
      (match artefact.artifactSha256 with
        | some sha => [("mcpg.dev/digest-prefix", takeChars 8 sha)]
        | none => []) ++
      [("mcpg.dev/manifest-digest",
          takeChars 63 (replaceChar ':' '-' artefact.manifestDigest)),
        ("mcpg.dev/plugin", replaceChar '.' '-' parent.spec.pluginId),
        ("mcpg.dev/version", parent.spec.version)]
    type_ := some "mcpg.dev/plugin"
    immutable_ := some true
    data := some (artefactData artefact) }

/-! ## The gates -/

/-- The revocation list of the pass: absent when the object is, and also when
the host refuses its content. -/
def loadRevocationList (libs : PluginLibs) (ans : PluginAnswers) :
    Except KubeError (Option libs.host.RevocationList) :=
  match ans.getRevocationList with
  | .error e => .error e
  | .ok none => .ok none
  | .ok (some spec) =>
      match revocationListFromApi libs.host spec with
      | .ok parsed => .ok (some parsed)
      | .error _ => .ok none

/-- The cosign gate of the pass, at the digest that was pulled. -/
def cosignGate (ans : PluginAnswers) (obj : MCPGPlugin)
    (pulledDigest : String) : Except CosignError (Option Bool) :=
  match obj.spec.trust.cosignIdentity with
  | none => .ok none
  | some identity =>
      match verifyCosignKeyless ans.sigstore obj.spec.oci identity .anonymous
          pulledDigest with
      | .ok _ => .ok (some true)
      | .error e => .error e

def runSlsaVerify (libs : PluginLibs) (ans : PluginAnswers)
    (cfg : SlsaProvenance) (artefactSha256 : String) :
    Except String Unit :=
  match ans.getConfigMap cfg.configMapName with
  | .error e =>
      .error ("ConfigMap/" ++ cfg.configMapName ++ " not found in " ++
        operatorNamespace ++ ": " ++ displayKube e)
  | .ok cm =>
      match (cm.data.getD []).lookup "provenance.intoto.jsonl" with
      | none =>
          .error ("ConfigMap/" ++ cfg.configMapName ++
            " missing data key `provenance.intoto.jsonl`")
      | some jsonl => libs.verifySlsaProvenance jsonl artefactSha256 cfg

def slsaGate (libs : PluginLibs) (ans : PluginAnswers) (obj : MCPGPlugin)
    (artefactSha256 : String) : Except String (Option Bool) :=
  match obj.spec.trust.slsaProvenance with
  | none => .ok none
  | some cfg =>
      match runSlsaVerify libs ans cfg artefactSha256 with
      | .ok _ => .ok (some true)
      | .error e => .error e

/-! ## The pass -/

/-- The status of a pass that went through every gate. -/
def successStatus (libs : PluginLibs) (ans : PluginAnswers)
    (generation : Int) (result : NativeVerifyResult)
    (cosignVerified slsaVerified : Option Bool) (secretName : String) :
    MCPGPluginStatus :=
  { conditions := successConditions libs.api generation
    observedGeneration := some generation
    resolvedDigest := some result.artifactHash
    signatureValid := some result.signatureVerified
    cosignVerified := cosignVerified
    slsaVerified := slsaVerified
    revokedBySha := some false
    artefactSecretName := some secretName
    pulledAt := some ans.now
    lastReconcileTime := some ans.now }

/-- The event of a successful pass. -/
def pulledEvent (obj : MCPGPlugin) (result : NativeVerifyResult) :
    K8sEvent :=
  { type_ := "Normal", reason := "Pulled"
    note := some ("Plugin " ++ obj.spec.pluginId ++
      " pulled, verified, and materialised (sha256:" ++
      takeChars 12 result.artifactHash ++ "…)")
    action := "PullVerifyMaterialise" }

/-- Steps 5 and 6: the Secret, then the status. -/
def materialise (libs : PluginLibs) (ans : PluginAnswers) (obj : MCPGPlugin)
    (name : String) (generation : Int) (artefact : PullArtefact)
    (result : NativeVerifyResult)
    (cosignVerified slsaVerified : Option Bool) : Pass :=
  let secretName := artefactSecretName libs name result.artifactHash
  let secret :=
    buildArtefactSecret obj operatorNamespace secretName artefact
  match ans.applySecret secret with
  | .error e =>
      { trace := [.applySecret secret (.error e)], result := .error (.apply e) }
  | .ok _ =>
      let status := successStatus libs ans generation result cosignVerified
        slsaVerified secretName
      { trace :=
          [.applySecret secret (.ok ()),
            .patchStatus status ans.outcomeLands,
            .publish (pulledEvent obj result),
            .recordSuccess ("plugin/" ++ name)]
        result := .ok (.after 600, .success) }

/-- Steps 4.5 and 4.6: the attestations, over the verified artefact. -/
def attestStep (libs : PluginLibs) (ans : PluginAnswers) (obj : MCPGPlugin)
    (name : String) (generation : Int) (artefact : PullArtefact)
    (result : NativeVerifyResult) : Pass :=
  let artefact :=
    { artefact with artifactSha256 := some result.artifactHash }
  match cosignGate ans obj artefact.manifestDigest with
  | .error e =>
      (verifyFailure obj generation artefact.manifestDigest
        (.verifier ("cosign verification failed: " ++ e.display))).write
        libs ans obj generation
  | .ok cosignVerified =>
      match slsaGate libs ans obj result.artifactHash with
      | .error e =>
          (verifyFailure obj generation artefact.manifestDigest
            (.verifier ("SLSA verification failed: " ++ e))).write
            libs ans obj generation
      | .ok slsaVerified =>
          materialise libs ans obj name generation artefact result
            cosignVerified slsaVerified

/-- Steps 2 to 4: the signing key, the revocation list, the host verifier on
the pulled artefact. -/
def verifyStep (libs : PluginLibs) (ans : PluginAnswers) (obj : MCPGPlugin)
    (name : String) (generation : Int) (artefact : PullArtefact) : Pass :=
  match loadSigningKey libs.codec ans.getSecret
      obj.spec.trust.signingKeyRef with
  | .error e =>
      (verifyFailure obj generation artefact.manifestDigest e).write
        libs ans obj generation
  | .ok publicKey =>
      match loadRevocationList libs ans with
      | .error e => .fail (.kube e)
      | .ok revocationList =>
          match ans.join with
          | .error e => .fail (.join e)
          | .ok _ =>
              match verifyArtefact libs.codec libs.host artefact publicKey
                  revocationList obj.spec.pluginId with
              | .error (.revoked sha reason) =>
                  (revokedReport generation artefact.manifestDigest sha
                    reason).write libs ans obj generation
              | .error e =>
                  (verifyFailure obj generation artefact.manifestDigest
                    e).write libs ans obj generation
              | .ok result =>
                  attestStep libs ans obj name generation artefact result

/-- Steps 1a' and 1b: the pull target and the pull. -/
def pullStep (libs : PluginLibs) (ans : PluginAnswers) (obj : MCPGPlugin)
    (name : String) (generation : Int) : Pass :=
  match resolvePullTarget libs ans obj generation with
  | .error pass => pass
  | .ok (pullOci, pullOptions) =>
      match pullAndUnpack libs.package ans.pull pullOci pullOptions with
      | .error e =>
          (pullFailure obj generation e).write libs ans obj generation
      | .ok artefact => verifyStep libs ans obj name generation artefact

def MCPGPlugin.observedGeneration (obj : MCPGPlugin) : Int :=
  obj.metadata.generation.getD 0

def reconcileInner (libs : PluginLibs) (ans : PluginAnswers)
    (obj : MCPGPlugin) : Pass :=
  match obj.metadata.name with
  | none => .fail .missingName
  | some name =>
      let generation := obj.observedGeneration
      if obj.metadata.deletionTimestamp.isSome then
        match ans.removeFinalizer with
        | .error e => .fail (.finalizer e)
        | .ok _ => { trace := [], result := .ok (.awaitChange, .success) }
      else
        match ensureFinalizer ans.addFinalizer obj.metadata with
        | .error e => .fail (.finalizer e)
        | .ok _ =>
            (pullStep libs ans obj name generation).after
              [recordPulling libs ans obj generation]

end McpgOperator.Plugin
