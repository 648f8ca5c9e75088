import McpgOperator.Kube.Object

/-!
# The plugin resources

`MCPGPlugin`, `MCPGPluginMirror` and `MCPGRevocationList`, with the fields
the plugin controller and the readers of its status use.
-/

namespace McpgOperator.Plugin

open McpgOperator.Kube

structure OciImageRef where
  image : String
  pullSecretRef : Option String
  mirrorRef : Option String
  deriving DecidableEq, Repr

structure SigningKeyRef where
  secretName : String
  key : String
  deriving DecidableEq, Repr

structure CosignIdentity where
  certificateIdentityRegexp : String
  oidcIssuer : String
  deriving DecidableEq, Repr

structure SlsaProvenance where
  configMapName : String
  sourceUri : String
  sourceTag : String
  deriving DecidableEq, Repr

structure PluginTrust where
  signingKeyRef : SigningKeyRef
  cosignIdentity : Option CosignIdentity
  slsaProvenance : Option SlsaProvenance
  deriving DecidableEq, Repr

structure MCPGPluginSpec where
  pluginId : String
  version : String
  pluginClass : String
  oci : OciImageRef
  trust : PluginTrust
  deriving DecidableEq, Repr

structure MCPGPluginStatus where
  conditions : List Condition := []
  observedGeneration : Option Int := none
  resolvedDigest : Option String := none
  signatureValid : Option Bool := none
  cosignVerified : Option Bool := none
  slsaVerified : Option Bool := none
  revokedBySha : Option Bool := none
  artefactSecretName : Option String := none
  pulledAt : Option DateTime := none
  lastReconcileTime : Option DateTime := none
  deriving DecidableEq, Repr

structure MCPGPlugin where
  metadata : ObjectMeta
  spec : MCPGPluginSpec
  status : Option MCPGPluginStatus
  deriving DecidableEq, Repr

/-- The conditions every status writer starts from. -/
def MCPGPlugin.carriedConditions (p : MCPGPlugin) : List Condition :=
  (p.status.map (·.conditions)).getD []

/-- `MCPGPluginMirror.spec`; `serviceHost` is `endpoint.service.host()`. -/
structure MCPGPluginMirrorSpec where
  upstreamRegistry : String
  upstreamNamespace : String
  endpointInsecure : Bool
  serviceHost : String
  authSecretName : Option String
  deriving DecidableEq, Repr

structure MCPGPluginMirror where
  metadata : ObjectMeta
  spec : MCPGPluginMirrorSpec
  deriving DecidableEq, Repr

inductive MirrorRewrite
  | rewritten (image : String)
  | notApplicable
  deriving DecidableEq, Repr

structure RevocationEntry where
  artifactSha256 : String
  reason : String
  revokedAt : Option DateTime
  deriving DecidableEq, Repr

structure MCPGRevocationListSpec where
  version : Nat
  issuedAt : Option DateTime
  revocations : List RevocationEntry
  deriving DecidableEq, Repr

structure MCPGRevocationListStatus where
  conditions : List Condition := []
  observedGeneration : Option Int := none
  observedRevocations : Option Int := none
  materialisedNamespaces : Option Int := none
  pluginsBlocked : List String := []
  contentHash : Option String := none
  lastReconcileTime : Option DateTime := none
  deriving DecidableEq, Repr

structure MCPGRevocationList where
  metadata : ObjectMeta
  spec : MCPGRevocationListSpec
  status : Option MCPGRevocationListStatus := none
  deriving DecidableEq, Repr

def clusterDefaultRevocationList : String := "cluster-default"

end McpgOperator.Plugin
