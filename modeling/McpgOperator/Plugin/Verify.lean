import McpgOperator.Plugin.OciPull

/-!
# The operator-side trust gate

`verify/mod.rs`: the signing key out of its Secret, the revocation list as
the host indexes it, and the verification of an unpacked artefact. The host's
list type, its parser and its verifier are the plugin-host crate's and enter
as parameters; the decoders of key encodings and of YAML belong to their own
crates.
-/

namespace McpgOperator.Plugin

open McpgOperator.Kube McpgOperator.Text

inductive VerifyError
  | kube (e : KubeError)
  | missingSecretKey (name key : String)
  | invalidKeyLength (name key : String) (got : Nat)
  | revocationListInvalid (detail : String)
  | verifier (msg : String)
  | revoked (sha reason : String)
  | pluginIdMismatch (specId descriptorId : String)
  deriving DecidableEq, Repr

/-- `Display` of `VerifyError`. -/
def VerifyError.display : VerifyError → String
  | .kube e => "kube error reading signing key: " ++ displayKube e
  | .missingSecretKey name key =>
      "signing key Secret `" ++ name ++ "` missing key `" ++ key ++ "`"
  | .invalidKeyLength name key got =>
      "signing key Secret `" ++ name ++ "` key `" ++ key ++
        "` decoded to " ++ toString got ++ " bytes (expected 32 raw Ed25519 " ++
        "bytes; supports raw or base64-encoded forms)"
  | .revocationListInvalid detail => "revocation list rejected: " ++ detail
  | .verifier msg => "verification failed: " ++ msg
  | .revoked sha reason =>
      "plugin SHA-256 " ++ sha ++ " is on the cluster revocation list: " ++
        reason
  | .pluginIdMismatch specId descriptorId =>
      "descriptor.id `" ++ descriptorId ++
        "` does not match spec.pluginId `" ++ specId ++ "`"

/-! ## External crates -/

/-- `base64`, `hex`, UTF-8 and `serde_yaml`, as the module calls them. -/
structure CodecLib where
  fromUtf8 : Bytes → Except String String
  base64Standard : Bytes → Option Bytes
  base64UrlSafeNoPad : Bytes → Option Bytes
  hexDecode : String → Option Bytes
  YamlValue : Type
  yamlFromStr : String → Except String YamlValue
  yamlGet : YamlValue → String → Option YamlValue
  yamlAsStr : YamlValue → Option String

/-- `mcpg_plugin_host::revocation::RevocationEntry`. -/
structure HostRevEntry where
  artifactSha256 : String
  reason : String
  revokedAt : Option String
  deriving DecidableEq, Repr

structure RevocationListFile where
  version : Nat
  issuedAt : Option String
  revocations : List HostRevEntry
  deriving DecidableEq, Repr

inductive SignaturePolicy
  | enforce
  | warn
  | off
  deriving DecidableEq, Repr

structure NativeVerifyOptions (RevocationList : Type) where
  expectedSha256 : Option String
  trustedPublicKeys : List Bytes
  policy : SignaturePolicy
  revocationList : Option RevocationList

structure NativeVerifyResult where
  artifactHash : String
  signatureVerified : Bool
  deriving DecidableEq, Repr

/-- The plugin-host crate: its indexed list, the parser that builds it
(`RevocationList::from_file`) and `verify_native_artifact` over the file at a
path. -/
structure HostLib where
  RevocationList : Type
  fromFile : RevocationListFile → Except String RevocationList
  verifyNativeArtifact : FileTree → String →
    NativeVerifyOptions RevocationList → Except String NativeVerifyResult
  /-- chrono's `to_rfc3339`. -/
  toRfc3339 : DateTime → String

/-! ## The functions of the module -/

def parseDescriptorId (codec : CodecLib) (bytes : Bytes) :
    Except VerifyError String :=
  match codec.fromUtf8 bytes with
  | .error e => .error (.verifier ("descriptor not UTF-8: " ++ e))
  | .ok text =>
      match codec.yamlFromStr text with
      | .error e => .error (.verifier ("descriptor YAML parse: " ++ e))
      | .ok value =>
          match (codec.yamlGet value "id").bind codec.yamlAsStr with
          | none =>
              .error (.verifier
                "descriptor.id field is missing or not a string")
          | some id => .ok id

def revocationReasonFromError (msg : String) : Option String :=
  ((afterFirst "is revoked: ".toList msg.toList).map
    fun tail => trim (String.ofList tail)).filter (· ≠ "")

/-- `artefact_sha_from_error`: the position is found in the lower-cased
message, the text is taken from the message itself. -/
def artefactShaFromError (msg : String) : Option String :=
  let lc := (toAsciiLowercase msg).toList
  match fromFirst "sha256".toList lc with
  | none => none
  | some lcTail =>
      let tail := msg.toList.drop (lc.length - lcTail.length)
      ((splitWhitespace tail).find? fun t =>
        t.length == 64 && t.all isAsciiHexdigit).map String.ofList

def verifyArtefact (codec : CodecLib) (host : HostLib)
    (artefact : PullArtefact) (publicKey : Bytes)
    (revocationList : Option host.RevocationList)
    (expectedPluginId : String) : Except VerifyError NativeVerifyResult :=
  match parseDescriptorId codec artefact.descriptorBytes with
  | .error e => .error e
  | .ok descriptorId =>
      if descriptorId ≠ expectedPluginId then
        .error (.pluginIdMismatch expectedPluginId descriptorId)
      else
        let options : NativeVerifyOptions host.RevocationList :=
          { expectedSha256 := none
            trustedPublicKeys := [publicKey]
            policy := .enforce
            revocationList := revocationList }
        match host.verifyNativeArtifact artefact.tempdir
            artefact.unpacked.artifactPath options with
        | .ok result => .ok result
        | .error msg =>
            match revocationReasonFromError msg with
            | some reason =>
                .error (.revoked ((artefactShaFromError msg).getD "") reason)
            | none => .error (.verifier msg)

/-- The four encodings `load_signing_key` tries on a Secret value, in its
order. -/
def decodeSigningKey (codec : CodecLib) (bytes : Bytes) : Option Bytes :=
  if bytes.length = 32 then some bytes
  else
    match (codec.base64Standard bytes).filter (·.length = 32) with
    | some decoded => some decoded
    | none =>
        match (codec.base64UrlSafeNoPad bytes).filter (·.length = 32) with
        | some decoded => some decoded
        | none =>
            match codec.fromUtf8 bytes with
            | .error _ => none
            | .ok text =>
                if (trim text).utf8ByteSize = 64 then
                  (codec.hexDecode (trim text)).filter (·.length = 32)
                else none

/-- `load_signing_key`; `getSecret` answers `api.get` in the operator
namespace. -/
def loadSigningKey (codec : CodecLib)
    (getSecret : String → Except KubeError Secret) (keyRef : SigningKeyRef) :
    Except VerifyError Bytes :=
  match getSecret keyRef.secretName with
  | .error e => .error (.kube e)
  | .ok secret =>
      match (secret.data.getD []).lookup keyRef.key with
      | none =>
          .error (.missingSecretKey keyRef.secretName keyRef.key)
      | some bytes =>
          match decodeSigningKey codec bytes with
          | some key => .ok key
          | none =>
              .error (.invalidKeyLength keyRef.secretName keyRef.key
                bytes.length)

/-- The file `revocation_list_from_api` hands to the host. -/
def revocationListFile (host : HostLib) (spec : MCPGRevocationListSpec) :
    RevocationListFile :=
  { version := 1
    issuedAt := spec.issuedAt.map host.toRfc3339
    revocations := spec.revocations.map fun e =>
      { artifactSha256 := e.artifactSha256
        reason := e.reason
        revokedAt := e.revokedAt.map host.toRfc3339 } }

def revocationListFromApi (host : HostLib) (spec : MCPGRevocationListSpec) :
    Except VerifyError host.RevocationList :=
  (host.fromFile (revocationListFile host spec)).mapError
    .revocationListInvalid

end McpgOperator.Plugin
