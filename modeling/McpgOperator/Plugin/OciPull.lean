import McpgOperator.Plugin.Types
import McpgOperator.Text

/-!
# References, digests and the pull

`oci_pull.rs`. The functions on references are the source's own. The pull
itself talks to a registry through the plugin-host crate and reads unpacked
files; `PullLib` and `PullAnswers` hold what those calls return, and
`pullAndUnpack` is the order in which the code makes them.
-/

namespace McpgOperator.Plugin

open McpgOperator.Kube McpgOperator.Text

/-! ## References -/

def registryFromReference (reference : String) : String :=
  match splitOnce '/' reference.toList with
  | some (host, _) =>
      if host.contains '.' || host.contains ':' then String.ofList host
      else "index.docker.io"
  | none => "index.docker.io"

/-- `repository_of`: a `:` separates a tag only after the last `/`. -/
def repositoryOf (reference : String) : String :=
  let repo := match splitOnce '@' reference.toList with
    | some (repo, _) => repo
    | none => reference.toList
  let (upToSlash, last) := splitAfterLast '/' repo
  match splitOnce ':' last with
  | some (beforeTag, _) => String.ofList (upToSlash ++ beforeTag)
  | none => String.ofList repo

def digestOf (reference : String) : Option String :=
  (splitOnce '@' reference.toList).map fun (_, digest) =>
    String.ofList digest

def pinToDigest (reference digest : String) : String :=
  repositoryOf reference ++ "@" ++ digest

/-- The `strip` inside `digests_match`. -/
def stripSha256 (s : String) : String :=
  match stripPrefix "sha256:".toList s.toList with
  | some rest => String.ofList rest
  | none => s

def digestsMatch (a b : String) : Bool :=
  eqIgnoreAsciiCase (stripSha256 a) (stripSha256 b)

/-! ## The pull -/

inductive PullError
  | upstream (e : String)
  | unpack (e : String)
  | missingSecretKey (name key : String)
  | malformedDockerConfig (name detail : String)
  | kube (e : KubeError)
  | io (path source : String)
  | unexpectedWasmArtifact (reference : String)
  | timeout (reference : String) (timeoutSecs : Nat)
  deriving DecidableEq, Repr

/-- `Display` of `PullError`. -/
def PullError.display : PullError → String
  | .upstream e => "upstream OCI pull: " ++ e
  | .unpack e => "unpack: " ++ e
  | .missingSecretKey name key =>
      "pull secret `" ++ name ++ "` missing key `" ++ key ++ "`"
  | .malformedDockerConfig name detail =>
      "pull secret `" ++ name ++ "` malformed dockerconfigjson: " ++ detail
  | .kube e => "kube: " ++ displayKube e
  | .io path source => "I/O at " ++ path ++ ": " ++ source
  | .unexpectedWasmArtifact reference =>
      "expected native cdylib artefact in " ++ reference ++
        ", got WASM artefact instead (only native plugins are supported)"
  | .timeout reference timeoutSecs =>
      "OCI pull for " ++ reference ++ " timed out after " ++
        toString timeoutSecs ++ "s; a slow / hung registry will not block " ++
        "reconciles indefinitely. Investigate registry latency / " ++
        "reachability from the operator"

inductive OciAuth
  | anonymous
  | basic (username password : String)
  deriving DecidableEq, Repr

structure PullOptions where
  insecureRegistries : List String
  timeoutSecs : Nat
  deriving DecidableEq, Repr

def defaultPullTimeoutSecs : Nat := 300

/-- `PullOptions::default()`. -/
def PullOptions.default : PullOptions :=
  { insecureRegistries := [], timeoutSecs := defaultPullTimeoutSecs }

inductive ArtifactKind
  | native
  | wasm
  deriving DecidableEq, Repr

/-- The files of a temporary directory, by path. -/
abbrev FileTree := List (String × Bytes)

structure UnpackedPackage where
  artifactKind : ArtifactKind
  artifactPath : String
  signaturePath : Option String
  descriptorPath : String
  deriving DecidableEq, Repr

/-- `PullArtefact`; the temporary directory is kept with the paths that
point into it. -/
structure PullArtefact where
  manifestDigest : String
  artifactSha256 : Option String
  artifactBytes : Bytes
  signatureBytes : Option Bytes
  descriptorBytes : Bytes
  tempdir : FileTree
  unpacked : UnpackedPackage
  deriving DecidableEq, Repr

/-- The arguments of `host_oci::pull`. -/
structure PullRequest where
  reference : String
  auth : OciAuth
  insecureRegistries : List String
  expectedDigest : Option String
  deriving DecidableEq, Repr

/-- `host_oci::pull` under its timeout: the manifest digest and the zip. -/
inductive PullAnswer
  | elapsed
  | failed (e : String)
  | pulled (manifestDigest : String) (zip : Bytes)
  deriving DecidableEq, Repr

/-- The plugin-host crate's packaging. -/
structure PackageLib where
  unpackTo : Bytes → Except String (UnpackedPackage × FileTree)
  readFile : FileTree → String → Except String Bytes

/-- What the calls of one pull answer. `resolvePullAuth` is the credential
lookup by Secret name and registry. -/
structure PullAnswers where
  resolvePullAuth : String → String → Except PullError OciAuth
  tempdir : Except String Unit
  pull : PullRequest → PullAnswer

def resolveReference (spec : OciImageRef) : String := spec.image

def readUnpacked (lib : PackageLib) (files : FileTree) (path : String) :
    Except PullError Bytes :=
  (lib.readFile files path).mapError (.io path)

/-- The signature file, when the package has one. -/
def readSignature (lib : PackageLib) (files : FileTree) :
    Option String → Except PullError (Option Bytes)
  | some p => (readUnpacked lib files p).map some
  | none => .ok none

/-- `pull_and_unpack` once the zip is on disk. -/
def unpackPulled (lib : PackageLib) (reference manifestDigest : String)
    (zip : Bytes) : Except PullError PullArtefact := do
  let (unpacked, files) ← (lib.unpackTo zip).mapError .unpack
  if unpacked.artifactKind = .wasm then
    .error (.unexpectedWasmArtifact reference)
  else
    let artifactBytes ← readUnpacked lib files unpacked.artifactPath
    let signatureBytes ← readSignature lib files unpacked.signaturePath
    let descriptorBytes ← readUnpacked lib files unpacked.descriptorPath
    .ok
      { manifestDigest := manifestDigest
        artifactSha256 := none
        artifactBytes := artifactBytes
        signatureBytes := signatureBytes
        descriptorBytes := descriptorBytes
        tempdir := files
        unpacked := unpacked }

/-- The credentials of a pull. -/
def pullAuth (ans : PullAnswers) (spec : OciImageRef) (reference : String) :
    Except PullError OciAuth :=
  match spec.pullSecretRef with
  | some name => ans.resolvePullAuth name (registryFromReference reference)
  | none => .ok .anonymous

def pullAndUnpack (lib : PackageLib) (ans : PullAnswers) (spec : OciImageRef)
    (options : PullOptions) : Except PullError PullArtefact := do
  let reference := resolveReference spec
  let auth ← pullAuth ans spec reference
  ans.tempdir.mapError (.io "temp_dir")
  match ans.pull
      { reference := reference
        auth := auth
        insecureRegistries := options.insecureRegistries
        expectedDigest := digestOf reference } with
  | .elapsed => .error (.timeout reference options.timeoutSecs)
  | .failed e => .error (.upstream e)
  | .pulled manifestDigest zip =>
      unpackPulled lib reference manifestDigest zip

end McpgOperator.Plugin
