import McpgOperator.Plugin.OciPull

/-!
# Cosign keyless verification

`verify/cosign.rs`. The sigstore client, the regex engine and the parser of
OCI references are external; what the function decides is the order of the
checks and that every registry call names the image at the digest the caller
pinned.
-/

namespace McpgOperator.Plugin

open McpgOperator.Kube McpgOperator.Text

/-- A signature layer, as far as the constraint looks: the certificate's
subject and issuer, if it carries a certificate. -/
structure SignatureLayer where
  certificate : Option (String × Option String)
  deriving DecidableEq, Repr

inductive CosignError
  | invalidRegex (regexp source : String)
  | invalidReference (image source : String)
  | trustRoot (e : String)
  | clientBuild (e : String)
  | triangulate (image detail : String)
  | layers (image detail : String)
  | constraint (image : String) (matched total : Nat)
  | emptyIdentity
  | digestMismatch (image expected got : String)
  | missingDigest (image : String)
  deriving DecidableEq, Repr

/-- `Display` of `CosignError`. -/
def CosignError.display : CosignError → String
  | .invalidRegex regexp source =>
      "invalid cosign identity regex `" ++ regexp ++ "`: " ++ source
  | .invalidReference image source =>
      "invalid OCI reference `" ++ image ++ "`: " ++ source
  | .trustRoot e => "Sigstore TUF trust-root fetch failed: " ++ e
  | .clientBuild e => "Sigstore client build failed: " ++ e
  | .triangulate image detail =>
      "triangulate failed for `" ++ image ++ "`: " ++ detail
  | .layers image detail =>
      "trusted-signature-layers fetch failed for `" ++ image ++ "`: " ++
        detail
  | .constraint image matched total =>
      "no cosign signature layer matched the trust constraints for `" ++
        image ++ "` (" ++ toString matched ++ "/" ++ toString total ++
        " layers passed; check OIDC issuer + cert subject)"
  | .emptyIdentity =>
      "the configured cosign identity does not require any constraint " ++
      "(empty issuer + empty regex)"
  | .digestMismatch image expected got =>
      "cosign verified `" ++ image ++ "` at digest " ++ got ++
        ", but the caller pinned " ++ expected ++
        "; the signature does not cover the artefact in hand"
  | .missingDigest image =>
      "cosign verification of `" ++ image ++
        "` was requested without a manifest digest to bind to"

/-- The regex and sigstore crates, with the answers of the client's calls.
`verifyConstraints` is `sigstore::cosign::verify_constraints` for a single
constraint. -/
structure SigstoreLib where
  Regex : Type
  regexNew : String → Except String Regex
  isMatch : Regex → String → Bool
  parseReference : String → Except String Unit
  trustRoot : Except String Unit
  clientBuild : Except String Unit
  triangulate : String → OciAuth → Except String (String × String)
  trustedSignatureLayers : OciAuth → String →
    Except String (List SignatureLayer)
  verifyConstraints : List SignatureLayer → (SignatureLayer → Bool) → Bool

structure CosignVerifyResult where
  signatureLayerCount : Nat
  sourceDigest : String
  deriving DecidableEq, Repr

def matchesSubjectAndIssuer (sig : SigstoreLib) (subjectRe : sig.Regex)
    (expectedIssuer layerSubject : String) (layerIssuer : Option String) :
    Bool :=
  if layerIssuer ≠ some expectedIssuer then false
  else sig.isMatch subjectRe layerSubject

/-- `CertSubjectRegexVerifier::verify`. -/
def certSubjectRegexVerifier (sig : SigstoreLib) (subjectRe : sig.Regex)
    (issuer : String) (layer : SignatureLayer) : Bool :=
  match layer.certificate with
  | none => false
  | some (subject, layerIssuer) =>
      matchesSubjectAndIssuer sig subjectRe issuer subject layerIssuer

def verifyCosignKeyless (sig : SigstoreLib) (image : OciImageRef)
    (identity : CosignIdentity) (auth : OciAuth) (expectedDigest : String) :
    Except CosignError CosignVerifyResult :=
  if identity.certificateIdentityRegexp.isEmpty &&
      identity.oidcIssuer.isEmpty then
    .error .emptyIdentity
  else if (trim expectedDigest).isEmpty then
    .error (.missingDigest image.image)
  else
    match sig.regexNew identity.certificateIdentityRegexp with
    | .error e =>
        .error (.invalidRegex identity.certificateIdentityRegexp e)
    | .ok subjectRe =>
    let pinned := pinToDigest image.image expectedDigest
    match sig.parseReference pinned with
    | .error e => .error (.invalidReference pinned e)
    | .ok _ =>
    match sig.trustRoot with
    | .error e => .error (.trustRoot e)
    | .ok _ =>
    match sig.clientBuild with
    | .error e => .error (.clientBuild e)
    | .ok _ =>
    match sig.triangulate pinned auth with
    | .error e => .error (.triangulate pinned e)
    | .ok (cosignImage, sourceDigest) =>
    if digestsMatch sourceDigest expectedDigest = false then
      .error (.digestMismatch image.image expectedDigest sourceDigest)
    else
    match sig.trustedSignatureLayers auth cosignImage with
    | .error e => .error (.layers pinned e)
    | .ok layers =>
    let verifier :=
      certSubjectRegexVerifier sig subjectRe identity.oidcIssuer
    if sig.verifyConstraints layers verifier then
      .ok
        { signatureLayerCount := layers.length
          sourceDigest := sourceDigest }
    else
      .error (.constraint pinned (layers.filter verifier).length
        layers.length)

/-- What a successful verification establishes: the registry named a
signature for the image at the pinned digest, that digest is the caller's,
and the layers found there meet the identity. -/
def CosignVerified (sig : SigstoreLib) (image : OciImageRef)
    (identity : CosignIdentity) (auth : OciAuth) (digest : String) : Prop :=
  ∃ subjectRe cosignImage sourceDigest layers,
    sig.regexNew identity.certificateIdentityRegexp = .ok subjectRe ∧
    sig.triangulate (pinToDigest image.image digest) auth =
      .ok (cosignImage, sourceDigest) ∧
    digestsMatch sourceDigest digest = true ∧
    sig.trustedSignatureLayers auth cosignImage = .ok layers ∧
    sig.verifyConstraints layers
      (certSubjectRegexVerifier sig subjectRe identity.oidcIssuer) = true

/-- The reference that is verified is one. -/
theorem parseReference_of_verifyCosignKeyless {sig : SigstoreLib}
    {image : OciImageRef} {identity : CosignIdentity} {auth : OciAuth}
    {digest : String} {r : CosignVerifyResult}
    (h : verifyCosignKeyless sig image identity auth digest = .ok r) :
    sig.parseReference (pinToDigest image.image digest) = .ok () := by
  simp only [verifyCosignKeyless] at h
  split at h
  · cases h
  split at h
  · cases h
  split at h
  · cases h
  split at h
  · cases h
  · next hparse => exact hparse

theorem verifyCosignKeyless_ok {sig : SigstoreLib} {image : OciImageRef}
    {identity : CosignIdentity} {auth : OciAuth} {digest : String}
    {r : CosignVerifyResult}
    (h : verifyCosignKeyless sig image identity auth digest = .ok r) :
    CosignVerified sig image identity auth digest := by
  simp only [verifyCosignKeyless] at h
  split at h
  · cases h
  split at h
  · cases h
  split at h
  · cases h
  · next subjectRe hre =>
      split at h
      · cases h
      split at h
      · cases h
      split at h
      · cases h
      split at h
      · cases h
      · next cosignImage sourceDigest htri =>
          split at h
          · cases h
          · next hdig =>
              split at h
              · cases h
              · next layers hlayers =>
                  split at h
                  · next hver =>
                      exact ⟨subjectRe, cosignImage, sourceDigest, layers,
                        hre, htri, by simpa using hdig, hlayers, hver⟩
                  · cases h

end McpgOperator.Plugin
