import McpgOperator.Templates.HttpRoute

/-!
# Custom domains at the edge

`templates/edge.rs`: for each custom domain of a managed-cloud gateway a
listener on the shared edge Gateway and a Certificate that fills the Secret
the listener refers to. Both are named after the hostname; the gateway that
applied a Certificate is in a label.
-/

namespace McpgOperator.Templates

open McpgOperator.Gateway

def edgeOwnerUidLabel : String := "mcpg.dev/owner-uid"

/-- `cd-` and the first eight bytes of the hash, in hex. -/
def edgeObjectName (sha256Hex : String → String) (hostname : String) :
    String :=
  "cd-" ++ Text.takeChars 16 (sha256Hex hostname)

def certSecretName (sha256Hex : String → String) (hostname : String) :
    String :=
  edgeObjectName sha256Hex hostname ++ "-tls"

/-- An HTTPS listener on port 443 that terminates TLS with the Secret and
admits routes of all namespaces. -/
structure EdgeListener where
  name : String
  hostname : String
  certificateRef : String
  deriving DecidableEq, Repr

/-- The listeners of `build_edge_listener_apply`, which always builds the
document, also without any. -/
def buildEdgeListenerApply (sha256Hex : String → String)
    (domains : List String) : List EdgeListener :=
  domains.map fun hostname =>
    { name := edgeObjectName sha256Hex hostname, hostname := hostname
      certificateRef := certSecretName sha256Hex hostname }

def edgeFieldManager (uid : String) : String :=
  "mcpg-operator/edge-domains/" ++ uid

structure IssuerRef where
  name : String
  kind : String
  group : String
  deriving DecidableEq, Repr

/-- cert-manager's `Certificate`. -/
structure Certificate where
  name : String
  namespace_ : Option String
  labels : List (String × String)
  secretName : String
  dnsNames : List String
  issuerRef : IssuerRef
  deriving DecidableEq, Repr

def buildCertificate (sha256Hex : String → String) (parent : MCPGGateway)
    (hostname issuer : String) : Certificate :=
  { name := edgeObjectName sha256Hex hostname
    namespace_ := some cloudGatewayNamespace
    labels :=
      [("app.kubernetes.io/managed-by", "mcpg-operator"),
        (edgeOwnerUidLabel, parent.metadata.uid.getD "")]
    secretName := certSecretName sha256Hex hostname
    dnsNames := [hostname]
    issuerRef :=
      { name := issuer, kind := "ClusterIssuer"
        group := "cert-manager.io" } }

end McpgOperator.Templates
